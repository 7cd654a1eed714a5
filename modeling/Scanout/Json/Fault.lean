import Scanout.Decimal.Layout
import Scanout.Text.Quoted

/-!
# Faults of a text

Why a text is not a value of the wanted type.  A text may break off, may not be JSON at all, or may
be JSON of the wrong type or value; the first fault in the order of the text is the one reported.

## Main definitions

* `Json.Found` — what stands where something else was wanted
* `Json.Fault` — a fault, by its cause
* `Json.Fault.category`, `Json.Fault.message` — the kind of a fault and its wording
-/

namespace Scanout.Json

/-- **What stands where something else was wanted.** -/
inductive Found where
  | integer (value : Int)
  | real (value : Decimal.Number)
  | truth (value : Bool)
  | text (value : String)
  | null
  | list
  | object
  deriving DecidableEq, Repr

namespace Found

/-- Numbers in messages are written positionally from a hundred-thousandth up to ten to the
sixteenth, and a positive exponent has its sign. -/
def layout : Decimal.Layout := ⟨-5, 16, true⟩

/-- How a message shows what was found. -/
def render : Found → String
  | integer value => "integer `" ++ toString value ++ "`"
  | real value => "floating point `" ++ value.render Decimal.double layout ++ "`"
  | truth value => "boolean `" ++ toString value ++ "`"
  | text value => "string " ++ Text.quoted value
  | null => "null"
  | list => "sequence"
  | object => "map"

end Found

/-- The kind of a fault. -/
inductive Category where
  /-- The text is not JSON. -/
  | syntactic
  /-- The text breaks off. -/
  | unfinished
  /-- A value has the wrong type or is out of its range. -/
  | data
  deriving DecidableEq, Repr

/-- **Why a text is not a value of the wanted type.** -/
inductive Fault where
  /-- The text ends where a value is wanted. -/
  | endInValue
  | endInText
  | endInObject
  | endInList
  | expectedValue
  | expectedIdent
  | expectedColon
  | expectedCommaOrBrace
  | expectedCommaOrBracket
  | trailingComma
  | trailingCharacters
  | keyNotText
  | invalidNumber
  | numberOutOfRange
  | invalidEscape
  /-- The first half of a pair of escapes stands alone. -/
  | endOfPair
  /-- The halves of a pair of escapes do not belong together. -/
  | loneHalf
  | controlCharacter
  | wrongType (found : Found) (wanted : String)
  | wrongValue (found : Found) (wanted : String)
  | unknownVariant (name : String) (known : List String)
  | duplicateField (name : String)
  deriving DecidableEq, Repr

namespace Fault

/-- The kind of a fault. -/
def category : Fault → Category
  | endInValue | endInText | endInObject | endInList => .unfinished
  | wrongType _ _ | wrongValue _ _ | unknownVariant _ _ | duplicateField _ => .data
  | expectedValue | expectedIdent | expectedColon | expectedCommaOrBrace | expectedCommaOrBracket
  | trailingComma | trailingCharacters | keyNotText | invalidNumber | numberOutOfRange
  | invalidEscape | endOfPair | loneHalf | controlCharacter => .syntactic

/-- **The wording of a fault.** -/
def message : Fault → String
  | endInValue => "EOF while parsing a value"
  | endInText => "EOF while parsing a string"
  | endInObject => "EOF while parsing an object"
  | endInList => "EOF while parsing a list"
  | expectedValue => "expected value"
  | expectedIdent => "expected ident"
  | expectedColon => "expected `:`"
  | expectedCommaOrBrace => "expected `,` or `\x7d`"
  | expectedCommaOrBracket => "expected `,` or `]`"
  | trailingComma => "trailing comma"
  | trailingCharacters => "trailing characters"
  | keyNotText => "key must be a string"
  | invalidNumber => "invalid number"
  | numberOutOfRange => "number out of range"
  | invalidEscape => "invalid escape"
  | endOfPair => "unexpected end of hex escape"
  | loneHalf => "lone leading surrogate in hex escape"
  | controlCharacter => "control character (\\u0000-\\u001F) found while parsing a string"
  | wrongType found wanted => "invalid type: " ++ found.render ++ ", expected " ++ wanted
  | wrongValue found wanted => "invalid value: " ++ found.render ++ ", expected " ++ wanted
  | unknownVariant name known =>
      "unknown variant `" ++ name ++ "`, expected one of " ++
        String.intercalate ", " (known.map fun other => "`" ++ other ++ "`")
  | duplicateField name => "duplicate field `" ++ name ++ "`"

end Fault

end Scanout.Json
