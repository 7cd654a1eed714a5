import Scanout.Json.Codec

/-!
# Schemas

A record is read from an object by the names of its fields, or from a list by their positions.  What
is not given keeps its default; unknown names are passed over; a name may be given once.  A record is
written as an object of all its fields.

## Main definitions

* `Json.Field` — a field of a record, with its name and its codec
* `Json.Schema` — the fields of a record, and its default
* `Json.Schema.codec` — the codec of a record
-/

namespace Scanout.Json

/-- **A field of a record.** -/
structure Field (ρ : Type) where
  /-- The type of the values of the field. -/
  Value : Type
  name : String
  codec : Codec Value
  get : ρ → Value
  set : Value → ρ → ρ

namespace Field

variable {ρ : Type}

/-- Reads a value of the field and puts it into a record. -/
def readInto (field : Field ρ) (r : ρ) : Reader ρ := fun s => do
  let (value, rest) ← field.codec.read s
  return (field.set value r, rest)

/-- Writes the field of a record, after its name. -/
def writeFrom (field : Field ρ) (r : ρ) : List Char :=
  writeString field.name ++ ':' :: field.codec.write (field.get r)

end Field

/-- **The fields of a record**, in declaration order. -/
structure Schema (ρ : Type) where
  /-- How a message names the record. -/
  title : String
  default : ρ
  fields : List (Field ρ)

namespace Schema

variable {ρ : Type}

/-! ### By position -/

/-- Reads the end of a list that has given every field. -/
def readEnd (s : List Char) : Except Fault (List Char) :=
  match skipBlanks s with
  | [] => .error .endInList
  | c :: rest =>
      if c = ']' then .ok rest
      else if c = ',' && (skipBlanks rest).head? == some ']' then .error .trailingComma
      else .error .trailingCharacters

/-- Reads what separates the next element of a list from the one before it. -/
def readSeparator (first : Bool) (c : Char) (rest : List Char) : Except Fault (List Char) :=
  if first then .ok (c :: rest)
  else if c = ',' then
    match skipBlanks rest with
    | [] => .error .endInValue
    | c :: rest => if c = ']' then .error .trailingComma else .ok (c :: rest)
  else .error .expectedCommaOrBracket

/-- **Reads the fields of a list** in their order, until the list ends. -/
def readElements : List (Field ρ) → Bool → ρ → Reader ρ
  | [], _, r, s => do
      let rest ← readEnd s
      return (r, rest)
  | field :: fields, first, r, s =>
      match skipBlanks s with
      | [] => .error .endInList
      | c :: rest =>
          if c = ']' then .ok (r, rest)
          else do
            let s ← readSeparator first c rest
            let (r, s) ← field.readInto r s
            readElements fields false r s

/-! ### By name -/

/-- Reads what comes before the quote of the next key, and the quote. -/
def readQuote (first : Bool) (c : Char) (rest : List Char) : Except Fault (List Char) :=
  if first then if c = '"' then .ok rest else .error .keyNotText
  else if c = ',' then
    match skipBlanks rest with
    | [] => .error .endInValue
    | c :: rest =>
        if c = '"' then .ok rest
        else if c = '\x7d' then .error .trailingComma
        else .error .keyNotText
  else .error .expectedCommaOrBrace

/-- The field of a given name. -/
def find? (schema : Schema ρ) (name : String) : Option (Field ρ) :=
  schema.fields.find? fun field => field.name == name

/-- Reads the colon and the value behind a key, given the names before it.  A name that was given
before is a fault whatever follows it. -/
def readMember (schema : Schema ρ) (seen : List String) (name : String) (r : ρ) :
    Reader (List String × ρ) := fun s =>
  match schema.find? name with
  | none => do
      let s ← skipColon s
      let s ← skipValue s
      return ((seen, r), s)
  | some field =>
      if seen.contains name then .error (.duplicateField name)
      else do
        let s ← skipColon s
        let (r, s) ← field.readInto r s
        return ((name :: seen, r), s)

/-- **Reads the members of an object**, given the names before them.  Every member takes at least one
character, so as many turns as there are characters, and one more, are enough. -/
def readMembers (schema : Schema ρ) : Nat → Bool → List String → ρ → Reader ρ
  | 0, _, _, _, _ => .error .endInObject
  | turns + 1, first, seen, r, s =>
      match skipBlanks s with
      | [] => .error .endInObject
      | c :: rest =>
          if c = '\x7d' then .ok (r, rest)
          else do
            let s ← readQuote first c rest
            let (name, s) ← readString s
            let ((seen, r), s) ← schema.readMember seen name r s
            readMembers schema turns false seen r s

/-! ### Records -/

/-- Reads a record in either form. -/
def read (schema : Schema ρ) : Reader ρ :=
  readFirst fun c rest =>
    match opening? c with
    | some .list => readElements schema.fields true schema.default rest
    | some .object => schema.readMembers (rest.length + 1) true [] schema.default rest
    | none => .error (mismatch schema.title c rest)

/-- Joins parts with a comma between each two. -/
def joinCommas : List (List Char) → List Char
  | [] => []
  | [part] => part
  | part :: parts => part ++ ',' :: joinCommas parts

/-- Writes a record as an object of all its fields. -/
def write (schema : Schema ρ) (r : ρ) : List Char :=
  '\x7b' :: (joinCommas (schema.fields.map fun field => field.writeFrom r) ++ ['\x7d'])

/-- **The codec of a record.** -/
def codec (schema : Schema ρ) : Codec ρ := ⟨schema.read, schema.write⟩

end Schema

end Scanout.Json
