import Scanout.Json.Skip

/-!
# Codecs

A codec reads the values of one type from a text and writes them.  A value of another type is
described by what it begins with, and the text must be well formed as far as it has to be read for
that.

## Main definitions

* `Json.Codec` — how a type is read and written
* `Json.mismatch` — the fault of a value that is not of the wanted type
* `Json.Codec.word`, `.integer`, `.longWord`, `.truth`, `.text`, `.orNull` — the common types
* `Json.Codec.parse` — the value of a whole text
-/

namespace Scanout.Json

/-- **How the values of a type are read and written.** -/
structure Codec (α : Type) where
  read : Reader α
  write : α → List Char

/-- Gives a value once its fixed word has been read. -/
def afterLetters {α : Type} (letters : List Char) (value : α) : Reader α := fun s => do
  let rest ← skipLetters letters s
  return (value, rest)

/-- What a value begins with, where another type was wanted. -/
def findOther (c : Char) (rest : List Char) : Except Fault Found :=
  if c = '"' then do
    let (text, _) ← readString rest
    return .text text
  else if Numeral.begins c then do
    let (numeral, _) ← Numeral.read .endInValue (c :: rest)
    numeral.value
  else if c = 'n' then do
    let (found, _) ← afterLetters nullTail .null rest
    return found
  else if c = 't' then do
    let (found, _) ← afterLetters trueTail (.truth true) rest
    return found
  else if c = 'f' then do
    let (found, _) ← afterLetters falseTail (.truth false) rest
    return found
  else
    match opening? c with
    | some .list => .ok .list
    | some .object => .ok .object
    | none => .error .expectedValue

/-- **The fault of a value that is not of the wanted type.** -/
def mismatch (wanted : String) (c : Char) (rest : List Char) : Fault :=
  match findOther c rest with
  | .ok found => .wrongType found wanted
  | .error fault => fault

namespace Codec

/-! ### Numbers -/

/-- Reads an integer between two bounds. -/
def readInteger (wanted : String) (least greatest : Int) : Reader Int :=
  readFirst fun c rest =>
    if Numeral.begins c then do
      let (numeral, rest) ← Numeral.read .endInValue (c :: rest)
      match ← numeral.value with
      | .integer value =>
          if least ≤ value && value ≤ greatest then return (value, rest)
          else .error (.wrongValue (.integer value) wanted)
      | found => .error (.wrongType found wanted)
    else .error (mismatch wanted c rest)

/-- The decimal digits of a natural. -/
def writeNatural (n : Nat) : List Char := Nat.toDigits 10 n

/-- Naturals of 32 bits. -/
def word : Codec UInt32 where
  read := fun s => do
    let (value, rest) ← readInteger "u32" 0 4294967295 s
    return (UInt32.ofNat value.toNat, rest)
  write := fun value => writeNatural value.toNat

/-- Naturals of 64 bits. -/
def longWord : Codec UInt64 where
  read := fun s => do
    let (value, rest) ← readInteger "u64" 0 18446744073709551615 s
    return (UInt64.ofNat value.toNat, rest)
  write := fun value => writeNatural value.toNat

/-- Integers of 32 bits. -/
def integer : Codec Int32 where
  read := fun s => do
    let (value, rest) ← readInteger "i32" (-2147483648) 2147483647 s
    return (Int32.ofInt value, rest)
  write := fun value =>
    if value.toInt < 0 then '-' :: writeNatural value.toInt.natAbs
    else writeNatural value.toInt.natAbs

/-! ### Other types -/

/-- Truth values. -/
def truth : Codec Bool where
  read := readFirst fun c rest =>
    if c = 't' then afterLetters trueTail true rest
    else if c = 'f' then afterLetters falseTail false rest
    else .error (mismatch "a boolean" c rest)
  write := fun value => if value then 't' :: trueTail else 'f' :: falseTail

/-- Strings. -/
def text : Codec String where
  read := readFirst fun c rest =>
    if c = '"' then readString rest else .error (mismatch "a string" c rest)
  write := writeString

/-- Values of a type, or the word for nothing. -/
def orNull {α : Type} (codec : Codec α) : Codec (Option α) where
  read := fun s =>
    match skipBlanks s with
    | 'n' :: rest => afterLetters nullTail none rest
    | _ => do
        let (value, rest) ← codec.read s
        return (some value, rest)
  write := fun value =>
    match value with
    | none => 'n' :: nullTail
    | some value => codec.write value

/-! ### Whole texts -/

/-- **The value of a whole text**; behind it there may only be blanks. -/
def parse {α : Type} (codec : Codec α) (text : String) : Except Fault α := do
  let (value, rest) ← codec.read text.toList
  if (skipBlanks rest).isEmpty then return value else .error .trailingCharacters

/-- **The text of a value.** -/
def print {α : Type} (codec : Codec α) (value : α) : String := String.ofList (codec.write value)

end Codec

end Scanout.Json
