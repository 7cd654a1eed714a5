import Scanout.Pattern.Cursor
import Scanout.Pattern.Tree
import Scanout.Text.Letters

/-!
# Openings of groups

A parenthesis opens a group, which may have a name or flags of its own, or it holds nothing but flags
for what follows.  Looking around without reading is refused.

## Main definitions

* `Pattern.Names` — the names of the groups so far
* `Pattern.Opening` — what a parenthesis begins
* `Pattern.readOpeningOfGroup` — reads it
-/

namespace Scanout.Pattern

/-- **The names of the groups so far**, each with the place where it stands. -/
abbrev Names := List (String × Span)

/-- **What a parenthesis begins.** -/
inductive Opening where
  /-- Flags for what follows. -/
  | flags (span : Span) (change : FlagChange)
  /-- A group, which is open now. -/
  | group (span : Span) (captures : Bool) (change : FlagChange)

/-! ### Flags -/

/-- Flags while they are read: those before, with their places, and the hyphen behind which flags are
switched off. -/
structure FlagRow where
  items : List (Flag × Bool × Span)
  hyphen : Option Span
  /-- Whether the hyphen is what was read last. -/
  dangling : Bool

namespace FlagRow

def empty : FlagRow := ⟨[], none, false⟩

/-- What the flags switch. -/
def change (row : FlagRow) : FlagChange := row.items.reverse.map fun (f, on, _) => (f, on)

/-- Adds a character to the flags; each flag may be given once. -/
def push (row : FlagRow) (c : Char) (span : Span) : Except Fault FlagRow :=
  if c = '-' then
    match row.hyphen with
    | some earlier => .error ⟨.flagNegationRepeated, span, some earlier⟩
    | none => .ok { row with hyphen := some span, dangling := true }
  else
    match Flag.ofChar? c with
    | none => .error (.of .flagUnknown span)
    | some flag =>
        match row.items.find? fun (f, _, _) => f = flag with
        | some (_, _, earlier) => .error ⟨.flagRepeated, span, some earlier⟩
        | none => .ok ⟨(flag, row.hyphen.isNone, span) :: row.items, row.hyphen, false⟩

/-- The flags once they have ended. -/
def finish (row : FlagRow) : Except Fault FlagChange :=
  match row.dangling, row.hyphen with
  | true, some span => .error (.of .flagNegationDangling span)
  | _, _ => .ok row.change

end FlagRow

/-- Reads at most so many flags, up to the character that ends them. -/
def readFlags : Nat → FlagRow → Reading FlagChange
  | 0, _, k => .error (.of .flagsUnfinished k.here)
  | n + 1, row, k =>
      match k.rest with
      | [] => .error (.of .flagsUnfinished k.here)
      | c :: _ =>
          if c = ':' || c = ')' then do return (← row.finish, k)
          else do
            let row ← row.push c k.charSpan
            readFlags n row k.advance

/-! ### Names -/

/-- Whether a character may stand in a name; it begins with a letter or an underscore. -/
def isNameCharacter (first : Bool) (c : Char) : Bool :=
  c = '_' || (if first then Text.isAlphabetic c
    else c = '.' || c = '[' || c = ']' || Text.isAlphanumeric c)

/-- Reads at most so many characters of a name, up to the angle behind it. -/
def readNameCharacters (first : Bool) : Nat → Reading (List Char)
  | 0, k => .ok ([], k)
  | n + 1, k =>
      match k.rest with
      | [] => .ok ([], k)
      | c :: _ =>
          if c = '>' then .ok ([], k)
          else if !isNameCharacter first c then .error (.of .nameInvalid k.charSpan)
          else do
            let (cs, k) ← readNameCharacters false n k.advance
            return (c :: cs, k)

/-- Reads a name and the angle behind it, and adds it to the names so far. -/
def readName (names : Names) : Reading Names := fun k => do
  let start := k.place
  let (name, k) ← readNameCharacters true k.rest.length k
  if k.atEnd then .error (.of .nameUnfinished k.here)
  else
    let span := k.since start
    let name := String.ofList name
    if name.isEmpty then .error (.of .nameEmpty (.emptyAt start))
    else
      match names.find? fun (n, _) => n == name with
      | some (_, earlier) => .error ⟨.nameRepeated, span, some earlier⟩
      | none => return ((name, span) :: names, k.advance)

/-! ### Openings -/

/-- What is behind the signs for looking around, if they come next. -/
def behindLookAround? (k : Cursor) : Option Cursor :=
  [['?', '='], ['?', '!'], ['?', '<', '='], ['?', '<', '!']].findSome? k.behind?

/-- What is behind the signs for a name, if they come next. -/
def behindNaming? (k : Cursor) : Option Cursor :=
  [['?', 'P', '<'], ['?', '<']].findSome? k.behind?

/-- Reads the flags of a parenthesis, which take up a piece of the pattern, and what ends them.  A
parenthesis without flags would be a question mark with nothing before it. -/
def readFlagOpening (span : Span) (mark : Place) : Reading Opening := fun k => do
  if k.atEnd then .error (.of .groupUnclosed span)
  else do
    let (change, k) ← readFlags (k.rest.length + 1) .empty k
    let closes := k.sees ')'
    let k := k.advance
    if !closes then return (.group span false change, k)
    else if change.isEmpty then .error (.of .repetitionOfNothing (.emptyAt mark))
    else return (.flags ⟨span.start, k.place⟩ change, k)

/-- **Reads what a parenthesis begins**, with the names of groups that are known behind it. -/
def readOpeningOfGroup (names : Names) : Reading (Opening × Names) := fun k => do
  let span := k.charSpan
  let k := k.step
  match behindLookAround? k with
  | some k => .error (.of .lookAround (k.since span.start))
  | none =>
      match behindNaming? k with
      | some k => do
          let (names, k) ← readName names k
          return ((.group span true [], names), k)
      | none =>
          match k.behind? ['?'] with
          | none => return ((.group span true [], names), k)
          | some inside => do
              let (opening, k) ← readFlagOpening span k.place inside
              return ((opening, names), k)

end Scanout.Pattern
