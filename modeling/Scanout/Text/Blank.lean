/-!
# Blank characters

The parts of a list are trimmed before they are read.  What is cut away are the characters of the
property White_Space, which go well beyond the ASCII range.

## Main definitions

* `isBlank` — whether a character is white space
* `trimmed` — a text without the blanks at its ends
-/

namespace Scanout.Text

/-- **Whether a character is white space**: the line ends and tabs, the spaces of every width, and
the separators of lines and paragraphs.  The space of no width is none. -/
def isBlank (c : Char) : Bool :=
  let n := c.toNat
  (0x9 ≤ n && n ≤ 0xd) || n == 0x20 || n == 0x85 || n == 0xa0 || n == 0x1680 ||
    (0x2000 ≤ n && n ≤ 0x200a) || n == 0x2028 || n == 0x2029 || n == 0x202f || n == 0x205f ||
    n == 0x3000

/-- The characters of a text without those of a kind at its end. -/
def withoutTrailing (blank : Char → Bool) (cs : List Char) : List Char :=
  (cs.reverse.dropWhile blank).reverse

/-- **A text without the blanks at its ends.** -/
def trimmed (s : String) : String :=
  String.ofList (withoutTrailing isBlank (s.toList.dropWhile isBlank))

end Scanout.Text
