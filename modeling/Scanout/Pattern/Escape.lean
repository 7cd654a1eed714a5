import Scanout.Pattern.Cursor
import Scanout.Pattern.Tree
import Scanout.Text.Hex

/-!
# Escapes of a pattern

A backslash takes its meaning from a character that has one, gives a meaning to a letter that has
none, or begins the number of a character.  Letters and digits without a meaning are refused, so
that they can be given one later.

## Main definitions

* `Pattern.readEscape` — reads an escape
-/

namespace Scanout.Pattern

/-! ### Characters by their numbers -/

/-- The character of a given number, if there is one. -/
def characterOf? (digits : List Char) : Option Char :=
  (Text.hexValue? digits).bind fun n => if n.isValidChar then some (Char.ofNat n) else none

/-- Reads so many hexadecimal digits. -/
def readDigits : Nat → Reading (List Char)
  | 0, k => .ok ([], k)
  | n + 1, k =>
      match k.rest with
      | [] => .error (.of .escapeUnfinished k.here)
      | c :: _ =>
          if (Text.hexDigit? c).isNone then .error (.of .hexInvalidDigit k.charSpan)
          else do
            let (cs, k) ← readDigits n k.step
            return (c :: cs, k)

/-- Reads the number of a character as so many digits, for an escape that began at a place. -/
def readFixedNumber (start : Place) (width : Nat) (fromByte : Bool) : Reading Literal := fun k => do
  let first := k.place
  let (digits, k) ← readDigits width k
  match characterOf? digits with
  | some c => return (⟨k.since start, c, fromByte⟩, k)
  | none => .error (.of .hexInvalid (k.since first))

/-- Reads the number of a character between braces, for an escape that began at a place. -/
def readBracedNumber (start : Place) : Reading Literal := fun k => do
  let brace := k.place
  let first := k.charSpan.stop
  let (digits, k) := k.step.gather fun c => (Text.hexDigit? c).isSome
  if k.atEnd then .error (.of .escapeUnfinished (k.since brace))
  else if !k.sees '\x7d' then .error (.of .hexInvalidDigit k.charSpan)
  else
    let inside := k.since first
    let k := k.step
    if digits.isEmpty then .error (.of .hexEmpty (k.since brace))
    else
      match characterOf? digits with
      | some c => return (⟨k.since start, c, false⟩, k)
      | none => .error (.of .hexInvalid inside)

/-- Reads the number of a character behind the letter that announces it; the letter tells how many
digits there are without braces. -/
def readNumber (start : Place) (letter : Char) : Reading Literal := fun k =>
  let k := k.step
  if k.sees '\x7b' then readBracedNumber start k
  else
    match letter with
    | 'x' => readFixedNumber start 2 true k
    | 'u' => readFixedNumber start 4 false k
    | _ => readFixedNumber start 8 false k

/-! ### Properties of characters -/

/-- What the text between braces asks for: a property, or a property with its value. -/
def queryOf (name : List Char) : PropertyQuery :=
  if name.contains ':' || name.contains '=' then .valued else .named (String.ofList name)

/-- Reads what follows the letter for a property. -/
def readProperty (start : Place) : Reading Atom := fun k =>
  let k := k.step
  match k.rest with
  | [] => .error (.of .escapeUnfinished k.here)
  | c :: _ =>
      if c = '\x7b' then
        let (name, k) := k.step.gather (· != '\x7d')
        if k.atEnd then .error (.of .escapeUnfinished k.here)
        else
          let k := k.advance
          .ok (.property (k.since start) (queryOf name), k)
      else if c = '\\' then .error (.of .propertyNameInvalid k.charSpan)
      else
        let k := k.step
        .ok (.property (k.since start) (.named (String.singleton c)), k)

/-! ### Word boundaries -/

/-- The side of a word of a given name. -/
def boundaryOfName? : String → Option Anchor
  | "start" => some .wordStart
  | "end" => some .wordEnd
  | "start-half" => some .wordStartHalf
  | "end-half" => some .wordEndHalf
  | _ => none

/-- Whether a character may be part of the name of a side. -/
def isBoundaryLetter (c : Char) : Bool := c.isAlpha || c = '-'

/-- Reads the side of a word between braces, for an escape that began at a place.  What does not
begin like one may be a count, and nothing is read. -/
def readBoundary? (start : Place) (k : Cursor) : Except Fault (Option (Anchor × Cursor)) :=
  let brace := k.place
  let k := k.step
  match k.rest with
  | [] => .error (.of .boundaryUnfinished (k.since start))
  | c :: _ =>
      if !isBoundaryLetter c then .ok none
      else
        let first := k.place
        let (name, k) := k.gather isBoundaryLetter
        if !k.sees '\x7d' then .error (.of .boundaryUnclosed (k.since brace))
        else
          match boundaryOfName? (String.ofList name) with
          | some anchor => .ok (some (anchor, k.advance))
          | none => .error (.of .boundaryUnknown (k.since first))

/-- Reads what may follow the letter for a word boundary. -/
def readWordBoundary (start : Place) : Reading Atom := fun k => do
  if k.sees '\x7b' then
    match ← readBoundary? start k with
    | some (anchor, k) => return (.anchor (k.since start) anchor, k)
    | none => return (.anchor (k.since start) .wordBoundary, k)
  else return (.anchor (k.since start) .wordBoundary, k)

/-! ### Escapes -/

/-- The characters that have a meaning of their own somewhere in a pattern. -/
def metaCharacters : List Char :=
  ['\\', '.', '+', '*', '?', '(', ')', '|', '[', ']', '\x7b', '\x7d', '^', '$', '#', '&', '-', '~']

/-- Whether a backslash takes the meaning from a character: it does from all ASCII characters but
letters, digits and the two angles. -/
def isPlainEscape (c : Char) : Bool :=
  metaCharacters.contains c || (c.toNat < 0x80 && !c.isAlphanum && c != '<' && c != '>')

/-- The control character that a letter stands for. -/
def controlOf? : Char → Option Char
  | 'a' => some '\x07'
  | 'f' => some '\x0c'
  | 't' => some '\t'
  | 'n' => some '\n'
  | 'r' => some '\r'
  | 'v' => some '\x0b'
  | _ => none

/-- The class that a letter stands for, and whether it is negated. -/
def letterClassOf? : Char → Option (LetterClass × Bool)
  | 'd' => some (.digit, false)
  | 's' => some (.space, false)
  | 'w' => some (.word, false)
  | 'D' => some (.digit, true)
  | 'S' => some (.space, true)
  | 'W' => some (.word, true)
  | _ => none

/-- What a character asks of its place. -/
def anchorOf? : Char → Option Anchor
  | 'A' => some .textStart
  | 'z' => some .textEnd
  | 'B' => some .noWordBoundary
  | '<' => some .wordStart
  | '>' => some .wordEnd
  | _ => none

/-- The atom of a character that is a whole escape, which takes up a given piece. -/
def shortEscape? (span : Span) (c : Char) : Option Atom :=
  if isPlainEscape c then some (.literal ⟨span, c, false⟩)
  else
    ((controlOf? c).map fun c => .literal ⟨span, c, false⟩).or
      (((letterClassOf? c).map fun (kind, negated) => .letterClass span negated kind).or
        ((anchorOf? c).map (.anchor span)))

/-- **Reads an escape**, from its backslash on. -/
def readEscape : Reading Atom := fun k =>
  let start := k.place
  let k := k.advance
  match k.rest with
  | [] => .error (.of .escapeUnfinished (k.since start))
  | c :: _ =>
      if c.isDigit then .error (.of .backReference ⟨start, k.charSpan.stop⟩)
      else if c = 'x' || c = 'u' || c = 'U' then do
        let (literal, k) ← readNumber start c k
        return (.literal literal, k)
      else if c = 'p' || c = 'P' then readProperty start k
      else if c = 'b' then readWordBoundary start k.advance
      else
        let k := k.advance
        match shortEscape? (k.since start) c with
        | some atom => .ok (atom, k)
        | none => .error (.of .escapeUnknown (k.since start))

end Scanout.Pattern
