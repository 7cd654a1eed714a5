/-!
# Lines

A written text is read back as lines.  A line ends at a line feed, and a carriage return in front of
it belongs to the line end.

## Main definitions

* `Text.lines` — the lines of a text
-/

namespace Scanout.Text

/-- A line without the one carriage return in front of its end. -/
def withoutReturn (line : String) : String :=
  match line.toList.reverse with
  | '\r' :: rest => String.ofList rest.reverse
  | _ => line

/-- **The lines of a text.**  Behind the last line end there is a line only if it is not empty, and
since it has no end, it keeps a carriage return. -/
def lines (s : String) : List String :=
  let parts := s.splitOn "\n"
  let last := (parts.getLast?).getD ""
  parts.dropLast.map withoutReturn ++ (if last.isEmpty then [] else [last])

end Scanout.Text
