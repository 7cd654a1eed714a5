import Scanout.Json.Codec

/-!
# Enumerations

A value of an enumeration is read from its name, or from an object whose one key is its name and
whose one value is the word for nothing.  It is written as its name.
-/

namespace Scanout.Json.Codec

/-- Reads the word for nothing. -/
def readNothing : Reader Unit :=
  readFirst fun c rest =>
    if c = 'n' then afterLetters nullTail () rest else .error (mismatch "unit" c rest)

variable {α : Type} (all : List α) (name : α → String)

/-- The value of a given name. -/
def ofName (given : String) : Except Fault α :=
  match all.find? fun value => name value == given with
  | some value => .ok value
  | none => .error (.unknownVariant given (all.map name))

/-- Reads a name behind its opening quote. -/
def readName : Reader α := fun s => do
  let (given, rest) ← readString s
  let value ← ofName all name given
  return (value, rest)

/-- Reads a name as the one key of an object, behind the opening brace.  As in any object, the key must
be text. -/
def readTagged : Reader α :=
  readFirst fun c rest =>
    if c = '"' then do
      let (value, rest) ← readName all name rest
      let rest ← skipColon rest
      let (_, rest) ← readNothing rest
      match skipBlanks rest with
      | [] => .error .endInObject
      | c :: rest => if c = '\x7d' then return (value, rest) else .error .expectedValue
    else if c = '\x7d' then .error .expectedValue
    else .error .keyNotText

/-- **The codec of an enumeration** with the given values and names. -/
def variant : Codec α where
  read := readFirst fun c rest =>
    if c = '"' then readName all name rest
    else if c = '\x7b' then readTagged all name rest
    else .error .expectedValue
  write := fun value => writeString (name value)

end Scanout.Json.Codec
