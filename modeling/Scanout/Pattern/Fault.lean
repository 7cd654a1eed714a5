import Scanout.Pattern.Place

/-!
# Faults of a pattern

Why a text is no pattern.  A fault has a cause and a piece of the pattern that it is about; where
something has been given twice there is a second piece, the one given first.

Patterns know the names of no properties of characters and no letter cases beyond the ASCII range,
so what would need them is a fault as well.

## Main definitions

* `Pattern.Cause` — what is wrong, with `Cause.message` for its wording
* `Pattern.Fault` — a cause with its place
-/

namespace Scanout.Pattern

/-- How deep brackets, groups, choices and repetitions of a pattern may stand inside one another. -/
def depthLimit : Nat := 250

/-- **What is wrong with a pattern.** -/
inductive Cause where
  | escapeInBrackets
  | rangeReversed
  | rangeOfNoLiteral
  | bracketsUnclosed
  | decimalInvalid
  | hexEmpty
  | hexInvalid
  | hexInvalidDigit
  | escapeUnfinished
  | escapeUnknown
  | flagNegationDangling
  | flagRepeated
  | flagNegationRepeated
  | flagsUnfinished
  | flagUnknown
  | nameRepeated
  | nameEmpty
  | nameInvalid
  | nameUnfinished
  | groupUnclosed
  | groupUnopened
  | tooDeep
  | countReversed
  | countEmpty
  | countUnclosed
  | repetitionOfNothing
  | boundaryUnclosed
  | boundaryUnknown
  | boundaryUnfinished
  | propertyNameInvalid
  | backReference
  | lookAround
  | characterNotAllowed
  | brokenEncoding
  | propertyUnknown
  | propertyValueUnknown
  | wordClassUnknown
  | letterCaseUnknown
  deriving DecidableEq, Repr

/-- The wording of a cause. -/
def Cause.message : Cause → String
  | escapeInBrackets => "invalid escape sequence found in character class"
  | rangeReversed => "invalid character class range, the start must be <= the end"
  | rangeOfNoLiteral => "invalid range boundary, must be a literal"
  | bracketsUnclosed => "unclosed character class"
  | decimalInvalid => "decimal literal invalid"
  | hexEmpty => "hexadecimal literal empty"
  | hexInvalid => "hexadecimal literal is not a Unicode scalar value"
  | hexInvalidDigit => "invalid hexadecimal digit"
  | escapeUnfinished => "incomplete escape sequence, reached end of pattern prematurely"
  | escapeUnknown => "unrecognized escape sequence"
  | flagNegationDangling => "dangling flag negation operator"
  | flagRepeated => "duplicate flag"
  | flagNegationRepeated => "flag negation operator repeated"
  | flagsUnfinished => "expected flag but got end of regex"
  | flagUnknown => "unrecognized flag"
  | nameRepeated => "duplicate capture group name"
  | nameEmpty => "empty capture group name"
  | nameInvalid => "invalid capture group character"
  | nameUnfinished => "unclosed capture group name"
  | groupUnclosed => "unclosed group"
  | groupUnopened => "unopened group"
  | tooDeep =>
      "exceed the maximum number of nested parentheses/brackets (" ++ toString depthLimit ++ ")"
  | countReversed => "invalid repetition count range, the start must be <= the end"
  | countEmpty => "repetition quantifier expects a valid decimal"
  | countUnclosed => "unclosed counted repetition"
  | repetitionOfNothing => "repetition operator missing expression"
  | boundaryUnclosed =>
      "special word boundary assertion is either unclosed or contains an invalid character"
  | boundaryUnknown =>
      "unrecognized special word boundary assertion, " ++
        "valid choices are: start, end, start-half or end-half"
  | boundaryUnfinished =>
      "found either the beginning of a special word boundary or a bounded repetition " ++
        "on a \\b with an opening brace, but no closing brace"
  | propertyNameInvalid => "invalid Unicode character class"
  | backReference => "backreferences are not supported"
  | lookAround => "look-around, including look-ahead and look-behind, is not supported"
  | characterNotAllowed => "Unicode not allowed here"
  | brokenEncoding => "pattern can match invalid UTF-8"
  | propertyUnknown => "Unicode property not found"
  | propertyValueUnknown => "Unicode property value not found"
  | wordClassUnknown =>
      "Unicode-aware Perl class not found (make sure the unicode-perl feature is enabled)"
  | letterCaseUnknown =>
      "Unicode-aware case insensitivity matching is not available " ++
        "(make sure the unicode-case feature is enabled)"

/-- **Why a text is no pattern**, and which piece of it shows that. -/
structure Fault where
  cause : Cause
  span : Span
  /-- What had been given first, where something is given twice. -/
  earlier : Option Span
  deriving DecidableEq, Repr

/-- A fault about one piece of the pattern. -/
def Fault.of (cause : Cause) (span : Span) : Fault := ⟨cause, span, none⟩

end Scanout.Pattern
