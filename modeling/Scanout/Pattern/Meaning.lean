import Scanout.Pattern.NormalForm
import Scanout.Pattern.Fault

/-!
# From what is written to what is meant

Flags change what the parts behind them mean, up to the end of the group they stand in.  A pattern
that would need to know about characters beyond the ASCII range more than their numbers is refused,
and so is one that could match a part of the encoding of a character.

## Main definitions

* `Pattern.Mode` — the flags as they stand
* `Tree.meaning` — the meaning of a pattern, or its first fault
-/

namespace Scanout.Pattern

/-- **The flags as they stand.** -/
structure Mode where
  caseInsensitive : Bool
  multiLine : Bool
  dotMatchesNewline : Bool
  swapGreed : Bool
  wideCharacters : Bool
  carriageReturns : Bool
  deriving DecidableEq, Repr

namespace Mode

/-- The flags before a pattern. -/
def start : Mode := ⟨false, false, false, false, true, false⟩

/-- Switches one flag.  Blanks are gone already. -/
def set (m : Mode) : Flag × Bool → Mode
  | (.caseInsensitive, on) => { m with caseInsensitive := on }
  | (.multiLine, on) => { m with multiLine := on }
  | (.dotMatchesNewline, on) => { m with dotMatchesNewline := on }
  | (.wideCharacters, on) => { m with wideCharacters := on }
  | (.carriageReturns, on) => { m with carriageReturns := on }
  | (.swapGreed, on) => { m with swapGreed := on }
  | (.spaced, _) => m

/-- Switches flags. -/
def apply (m : Mode) (change : FlagChange) : Mode := change.foldl set m

end Mode

/-! ### Sets of characters -/

/-- The characters gathered between brackets.  They are `settled` if no single character or range is
among them whose letter cases would have to be known. -/
structure Chars where
  set : CharSet
  settled : Bool

namespace Chars

def empty : Chars := ⟨.empty, true⟩

/-- Adds characters that were written as such. -/
def push (s : Chars) (low high : Char) : Chars :=
  ⟨s.set.union (.ofRange low.toNat high.toNat), false⟩

def union (s t : Chars) : Chars := ⟨s.set.union t.set, s.settled && t.settled⟩

/-- Adds the other letter cases, if case does not matter. -/
def withCases (m : Mode) (span : Span) (s : Chars) : Except Fault Chars :=
  if !m.caseInsensitive then .ok s
  else if !m.wideCharacters then .ok { s with set := s.set.withLetterCases }
  else if s.settled then .ok s
  else .error (.of .letterCaseUnknown span)

/-- The characters that brackets or a class with a name stand for. -/
def finish (m : Mode) (span : Span) (negated : Bool) (s : Chars) : Except Fault Chars := do
  let s ← s.withCases m span
  let set := if negated then s.set.complement else s.set
  if m.wideCharacters || set.isAscii then return ⟨set, s.settled⟩
  else .error (.of .brokenEncoding span)

end Chars

/-- The name of a property without what does not count: blanks, hyphens, underscores, capital letters
and an `is` in front. -/
def plainPropertyName (name : String) : String :=
  let rest := match name.toList with
    | i :: s :: rest => if i.toLower = 'i' && s.toLower = 's' then rest else i :: s :: rest
    | cs => cs
  let kept := rest.filter fun c => c != ' ' && c != '_' && c != '-' && c.toNat < 0x80
  String.ofList (kept.map Char.toLower)

/-- Why a property cannot be asked for: none has a known name, and of three short names it is the
value that is missed. -/
def PropertyQuery.fault (m : Mode) (span : Span) (query : PropertyQuery) : Fault :=
  if !m.wideCharacters then .of .characterNotAllowed span
  else
    match query with
    | .valued => .of .propertyUnknown span
    | .named name =>
        if ["cf", "sc", "lc"].contains (plainPropertyName name) then .of .propertyValueUnknown span
        else .of .propertyUnknown span

/-- The characters of a class with a letter, which is known only for ASCII characters. -/
def LetterClass.meaning (m : Mode) (span : Span) (negated : Bool) (kind : LetterClass) :
    Except Fault Chars :=
  if m.wideCharacters then .error (.of .wordClassUnknown span)
  else if negated then .error (.of .brokenEncoding span)
  else .ok ⟨kind.chars, false⟩

/-- The character of a literal.  Where bytes are meant, two digits must stand for one that is a
character by itself. -/
def Literal.meaning (m : Mode) (l : Literal) : Except Fault Char :=
  if !m.wideCharacters && l.fromByte && 0x80 ≤ l.char.toNat then .error (.of .brokenEncoding l.span)
  else .ok l.char

/-- The character of a literal between brackets, which is one byte where bytes are meant. -/
def Literal.meaningInside (m : Mode) (l : Literal) : Except Fault Char := do
  let c ← l.meaning m
  if !m.wideCharacters && 0x80 ≤ c.toNat then .error (.of .characterNotAllowed l.span)
  else return c

mutual

/-- **The characters that stand between brackets**, added to some. -/
def Members.meaning (m : Mode) (s : Chars) : Members → Except Fault Chars
  | .nothing _ => .ok s
  | .literal l => do
      let c ← l.meaningInside m
      return s.push c c
  | .range _ low high => do
      let low ← low.meaningInside m
      let high ← high.meaningInside m
      return s.push low high
  | .asciiClass span negated kind => do
      let t ← Chars.finish m span negated ⟨kind.chars, false⟩
      return s.union t
  | .letterClass span negated kind => do
      let t ← kind.meaning m span negated
      return s.union t
  | .property span query => .error (query.fault m span)
  | .bracketed span negated inner => do
      let t ← inner.meaning m .empty
      let t ← t.finish m span negated
      return s.union t
  | .union _ parts => Members.allMeanings m s parts
  | .combined _ operator left right => do
      let t ← left.meaning m .empty
      let u ← right.meaning m .empty
      let u ← u.withCases m right.span
      let t ← t.withCases m left.span
      return s.union ⟨operator.apply t.set u.set, t.settled && u.settled⟩

/-- The characters of some parts, added to some. -/
def Members.allMeanings (m : Mode) (s : Chars) : List Members → Except Fault Chars
  | [] => .ok s
  | part :: parts => do
      let s ← part.meaning m s
      Members.allMeanings m s parts

end

/-! ### Parts -/

/-- The word test of an anchor, if it is about words. -/
def Anchor.wordTest? : Anchor → Option WordTest
  | wordBoundary => some .boundary
  | noWordBoundary => some .noBoundary
  | wordStart => some .start
  | wordEnd => some .stop
  | wordStartHalf => some .startHalf
  | wordEndHalf => some .stopHalf
  | lineStart | lineEnd | textStart | textEnd => none

/-- What an anchor asks. -/
def Anchor.meaning (m : Mode) (a : Anchor) : Test :=
  match a, a.wordTest? with
  | _, some test => .word test m.wideCharacters
  | .lineStart, _ => if m.multiLine then .lineStart m.carriageReturns else .textStart
  | .lineEnd, _ => if m.multiLine then .lineEnd m.carriageReturns else .textEnd
  | .textStart, _ => .textStart
  | _, _ => .textEnd

/-- The characters that a dot stands for. -/
def Mode.dot (m : Mode) : CharSet :=
  if m.dotMatchesNewline then CharSet.empty.complement
  else if m.carriageReturns then (CharSet.ofRanges [('\n', '\n'), ('\r', '\r')]).complement
  else (CharSet.singleton '\n').complement

/-- The characters that a literal stands for outside of brackets. -/
def Literal.chars (m : Mode) (l : Literal) : Except Fault CharSet := do
  let c ← l.meaning m
  if !m.caseInsensitive then return .singleton c
  else if m.wideCharacters then .error (.of .letterCaseUnknown l.span)
  else if 0x80 ≤ c.toNat then .error (.of .characterNotAllowed l.span)
  else return (CharSet.singleton c).withLetterCases

/-- The meaning of a set of characters that was written in a mode. -/
def Mode.ofSet (m : Mode) (s : CharSet) : Expr := .ofSet (!m.wideCharacters) s

/-- The meaning of a part that holds no other part. -/
def Atom.meaning (m : Mode) : Atom → Except Fault Expr
  | .literal l => (l.chars m).map m.ofSet
  | .dot span => if m.wideCharacters then .ok (m.ofSet m.dot) else .error (.of .brokenEncoding span)
  | .anchor _ a => .ok (.test (a.meaning m))
  | .letterClass span negated kind => (kind.meaning m span negated).map fun s => m.ofSet s.set
  | .property span query => .error (query.fault m span)

/-! ### Patterns -/

mutual

/-- **The meaning of a pattern**, with the flags as they stand behind it. -/
def Tree.meaning (m : Mode) : Tree → Except Fault (Expr × Mode)
  | .nothing _ => .ok (.empty, m)
  | .flags _ change => .ok (.empty, m.apply change)
  | .atom a => do return (← a.meaning m, m)
  | .bracketed span negated inner => do
      let s ← inner.meaning m .empty
      let s ← s.finish m span negated
      return (m.ofSet s.set, m)
  | .repetition _ count isLazy sub => do
      let (e, m) ← sub.meaning m
      return (e.times count (isLazy != m.swapGreed), m)
  | .group _ number change sub => do
      let (e, _) ← sub.meaning (m.apply change)
      return (number.elim e fun n => .captured n e, m)
  | .choice _ branches => do
      let (es, m) ← Tree.allMeanings m branches
      return (.anyOf es, m)
  | .sequence _ parts => do
      let (es, m) ← Tree.allMeanings m parts
      return (.inOrder es, m)

/-- The meanings of some parts, where the flags of each go on to the next. -/
def Tree.allMeanings (m : Mode) : List Tree → Except Fault (List Expr × Mode)
  | [] => .ok ([], m)
  | part :: parts => do
      let (e, m) ← part.meaning m
      let (es, m) ← Tree.allMeanings m parts
      return (e :: es, m)

end

end Scanout.Pattern
