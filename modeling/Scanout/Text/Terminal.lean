/-!
# What a terminal would do with a text

A text may hold sequences that a terminal would obey and not show: it begins them with an escape, and
they choose colours, move the cursor or set a title.  Output that does not go to a terminal is written
without them and without the controls that have no image.

Once something of a text has been shown, what follows is shown as it stands until the next control:
a line end in the middle of a sequence makes the rest of that sequence text.

## Main definitions

* `Terminal.Phase` — how far a terminal has read a sequence
* `Terminal.Phase.next` — where a terminal is behind a character
* `Terminal.plain` — a text without what a terminal would obey
-/

namespace Scanout.Text.Terminal

/-- **How far a terminal has read a sequence.**  A control sequence begins with a bracket, a device
string with the letter P, a command string with a closing bracket. -/
inductive Phase where
  | ground
  | escape
  | escapeIntermediate
  | controlEntry
  | controlParameter
  | controlIntermediate
  | controlIgnored
  | deviceEntry
  | deviceParameter
  | deviceIntermediate
  /-- The text of a device string, or a string that is of no consequence at all. -/
  | stringText
  | commandText
  deriving DecidableEq, Repr

/-- Whether the encoding of a character in bytes holds the byte that ends a string. -/
def endsString (c : Char) : Bool := (String.singleton c).toUTF8.toList.contains 0x9c

namespace Phase

/-- Behind a character that follows the escape. -/
def ofEscape (n : Nat) : Phase :=
  if n < 0x20 then escape
  else if n < 0x30 then escapeIntermediate
  else if n == 0x5b then controlEntry
  else if n == 0x5d then commandText
  else if n == 0x50 then deviceEntry
  else if n == 0x58 || n == 0x5e || n == 0x5f then stringText
  else if n < 0x7f then ground
  else escape

/-- Behind an ASCII character that neither cancels nor begins a sequence. -/
def nextAscii (p : Phase) (n : Nat) : Phase :=
  match p with
  | ground => ground
  | escape => ofEscape n
  | escapeIntermediate => if 0x30 ≤ n && n < 0x7f then ground else escapeIntermediate
  | controlEntry =>
      if n < 0x20 then controlEntry
      else if n < 0x30 then controlIntermediate
      else if n < 0x40 then controlParameter
      else if n < 0x7f then ground
      else controlEntry
  | controlParameter =>
      if n < 0x20 then controlParameter
      else if n < 0x30 then controlIntermediate
      else if n < 0x3c then controlParameter
      else if n < 0x40 then controlIgnored
      else if n < 0x7f then ground
      else controlParameter
  | controlIntermediate =>
      if n < 0x30 then controlIntermediate
      else if n < 0x40 then controlIgnored
      else if n < 0x7f then ground
      else controlIntermediate
  | controlIgnored => if 0x40 ≤ n && n < 0x7f then ground else controlIgnored
  | deviceEntry =>
      if n < 0x20 then deviceEntry
      else if n < 0x30 then deviceIntermediate
      else if n < 0x40 then deviceParameter
      else if n < 0x7f then stringText
      else deviceEntry
  | deviceParameter =>
      if n < 0x20 then deviceParameter
      else if n < 0x30 then deviceIntermediate
      else if n < 0x3c then deviceParameter
      else if n < 0x7f then stringText
      else deviceParameter
  | deviceIntermediate =>
      if n < 0x30 then deviceIntermediate
      else if n < 0x7f then stringText
      else deviceIntermediate
  | stringText => stringText
  | commandText => if n == 0x7 then ground else commandText

/-- **Where a terminal is behind a character.**  Cancelling ends every sequence and an escape begins a
new one; of the other characters beyond the ASCII range only those whose encoding ends a string
count. -/
def next (p : Phase) (c : Char) : Phase :=
  let n := c.toNat
  if n == 0x18 || n == 0x1a then ground
  else if n == 0x1b then escape
  else if n < 0x80 then p.nextAscii n
  else
    match p with
    | stringText => if endsString c then ground else stringText
    | _ => p

/-- Whether white space that ends lines or sets tabs is obeyed in the middle of a sequence. -/
def obeysLayout : Phase → Bool
  | deviceEntry | deviceParameter | deviceIntermediate | stringText | commandText => false
  | _ => true

end Phase

/-- Whether a character is white space that ends lines or sets tabs. -/
def isLayout (c : Char) : Bool := c = '\t' || c = '\n' || c = '\x0c' || c = '\r'

/-- Whether a character is shown where no sequence has begun. -/
def hasImage (c : Char) : Bool := isLayout c || (' ' ≤ c && c != '\x7f')

/-- Whether a character is shown at a phase. -/
def Phase.shows (p : Phase) (c : Char) : Bool :=
  match p with
  | .ground => hasImage c
  | _ => isLayout c && p.obeysLayout

/-- What is shown of a text from a phase on; `inText` tells whether the character before was shown. -/
def shown (inText : Bool) (p : Phase) : List Char → List Char
  | [] => []
  | c :: rest =>
      if inText && hasImage c then
        c :: shown true (if c.toNat < 0x80 then p else .ground) rest
      else if !inText && p.shows c then c :: shown true (p.next c) rest
      else shown false (p.next c) rest

/-- **A text without what a terminal would obey.** -/
def plain (cs : List Char) : List Char := shown false .ground cs

end Scanout.Text.Terminal
