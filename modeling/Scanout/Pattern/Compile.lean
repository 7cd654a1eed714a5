import Scanout.Pattern.Automaton
import Scanout.Pattern.Beginnings
import Scanout.Pattern.Meaning
import Scanout.Pattern.Reader
import Scanout.Pattern.Report

/-!
# Patterns for use

A text becomes a pattern if it can be read, if it has a meaning, and if automata can be built for this
meaning: they must not become too large, nor have to know the words of every script.  What means no
more than a few words needs no automata.

## Main definitions

* `Expr.refusal?` — why a meaning cannot be used, if it cannot
* `Pattern.ofText` — the meaning of a text as a pattern, or a report about why it has none
-/

namespace Scanout.Pattern

/-- The meaning of a text as a pattern, or its first fault. -/
def meaningOf (text : String) : Except Fault Expr := do
  let t ← readTree text
  let (e, _) ← t.meaning .start
  return e

/-- The report about an automaton beyond the limit. -/
def sizeReport : String :=
  "Compiled regex exceeds size limit of " ++ toString Layout.limit ++ " bytes."

/-- Why no automata are built for a meaning, if they cannot be built.  The one that reads forwards is
built first, and it shows which words it has to know before the other one is begun. -/
def Expr.obstacle? (e : Expr) : Option String :=
  if e.isTooLarge false then some sizeReport
  else if e.asksWideWords then some "error building NFA"
  else if e.isTooLarge true then some sizeReport
  else none

/-- Why a meaning cannot be used, if it cannot.  A few words are used without automata. -/
def Expr.refusal? (e : Expr) : Option String :=
  match e.obstacle? with
  | none => none
  | some report => if e.isFewWords then none else some report

/-- **The meaning of a text as a pattern, or a report about why it has none.** -/
def ofText (text : String) : Except String Expr :=
  match meaningOf text with
  | .error fault => .error (fault.report text)
  | .ok e =>
      match e.refusal? with
      | some refusal => .error refusal
      | none => .ok e

end Scanout.Pattern
