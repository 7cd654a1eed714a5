import Scanout.Pattern.Fault
import Scanout.Text.Lines

/-!
# Showing faults of a pattern

A fault is reported with the whole pattern, where carets under a line point to what the fault is
about.  A pattern of several lines has its lines numbered and stands between rules.

## Main definitions

* `Pattern.Fault.report` — the report about a fault of a pattern
-/

namespace Scanout.Pattern

/-- So many copies of a character. -/
def copies (n : Nat) (c : Char) : String := String.ofList (List.replicate n c)

/-- A number with blanks before it, up to a width. -/
def padded (width n : Nat) : String := copies (width - (toString n).length) ' ' ++ toString n

/-- The pieces of a pattern that a fault is about, in the order in which they stand. -/
def Fault.spans (f : Fault) : List Span :=
  match f.earlier with
  | none => [f.span]
  | some earlier => if f.span.precedes earlier then [f.span, earlier] else [earlier, f.span]

/-- How many lines a pattern has; behind a last line feed there is one more. -/
def lineCount (pattern : String) : Nat :=
  (Text.lines pattern).length + if pattern.endsWith "\n" then 1 else 0

/-- The width of line numbers, or nothing if there is only one line. -/
def numberWidth (count : Nat) : Nat := if count ≤ 1 then 0 else (toString count).length

/-- The carets under some pieces of one line, from a column on. -/
def carets (column : Nat) : List Span → String
  | [] => ""
  | span :: spans =>
      let blanks := span.start.column - 1 - column
      let width := max 1 (span.stop.column - span.start.column)
      copies blanks ' ' ++ copies width '^' ++ carets (column + blanks + width) spans

/-- One line of the pattern with its carets, if there are any. -/
def notatedLine (width : Nat) (spans : List Span) (line : String) (number : Nat) : String :=
  let margin := if width = 0 then "    " else padded width number ++ ": "
  let here := spans.filter fun span => span.isOneLine && span.start.line = number
  let notes := if here.isEmpty then "" else copies margin.length ' ' ++ carets 0 here ++ "\n"
  margin ++ line ++ "\n" ++ notes

/-- The lines of a pattern with their carets. -/
def notated (pattern : String) (spans : List Span) : String :=
  let width := numberWidth (lineCount pattern)
  String.join ((Text.lines pattern).zipIdx 1 |>.map fun (line, number) =>
    notatedLine width spans line number)

/-- Where a piece stands that goes over several lines. -/
def Span.note (s : Span) : String :=
  "on line " ++ toString s.start.line ++ " (column " ++ toString s.start.column ++
    ") through line " ++ toString s.stop.line ++ " (column " ++ toString (s.stop.column - 1) ++ ")\n"

/-- **The report about a fault of a pattern.** -/
def Fault.report (pattern : String) (f : Fault) : String :=
  let lines := notated pattern f.spans
  let verdict := "error: " ++ f.cause.message
  if pattern.contains '\n' then
    let rule := copies 79 '~' ++ "\n"
    let notes := String.join ((f.spans.filter fun span => !span.isOneLine).map Span.note)
    "regex parse error:\n" ++ rule ++ lines ++ rule ++ notes ++ verdict
  else "regex parse error:\n" ++ lines ++ verdict

end Scanout.Pattern
