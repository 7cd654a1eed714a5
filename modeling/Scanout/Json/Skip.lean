import Scanout.Json.Numeral
import Scanout.Json.Text

/-!
# Passing over a value

The value of an unknown key is of no interest but must be well formed.  It may nest to any depth, so
the brackets that are open are kept on a stack, and the text is passed over in one sweep.

## Main definitions

* `Json.Bracket` — the two kinds of bracket
* `Json.skipValue` — what follows a value at the front of a text
-/

namespace Scanout.Json

/-- A kind of bracket. -/
inductive Bracket where
  | list
  | object
  deriving DecidableEq, Repr

namespace Bracket

/-- The fault of a text that ends inside a bracket. -/
def broken : Bracket → Fault
  | list => .endInList
  | object => .endInObject

/-- The character that closes a bracket. -/
def closing : Bracket → Char
  | list => ']'
  | object => '\x7d'

/-- The fault of a value that neither a comma nor the closing character follows. -/
def unseparated : Bracket → Fault
  | list => .expectedCommaOrBracket
  | object => .expectedCommaOrBrace

end Bracket

/-- The bracket that a character opens. -/
def opening? (c : Char) : Option Bracket :=
  if c = '[' then some .list else if c = '\x7b' then some .object else none

/-- Reads the colon behind a key. -/
def skipColon (s : List Char) : Except Fault (List Char) :=
  match skipBlanks s with
  | [] => .error .endInObject
  | c :: rest => if c = ':' then .ok rest else .error .expectedColon

/-- Passes over a key and its colon. -/
def skipKey (s : List Char) : Except Fault (List Char) :=
  match skipBlanks s with
  | [] => .error .endInObject
  | c :: rest =>
      if c = '"' then do
        let rest ← skipString rest
        skipColon rest
      else .error .keyNotText

/-- Passes over what must come before the next value inside a bracket. -/
def skipBefore (bracket : Bracket) (s : List Char) : Except Fault (List Char) :=
  match bracket with
  | .list => .ok s
  | .object => skipKey s

/-- Passes over a value without brackets that begins with a character. -/
def skipScalar (c : Char) (rest : List Char) : Except Fault (List Char) :=
  if c = '"' then skipString rest
  else if Numeral.begins c then do
    let (_, rest) ← Numeral.read .invalidNumber (c :: rest)
    return rest
  else if c = 'n' then skipLetters nullTail rest
  else if c = 't' then skipLetters trueTail rest
  else if c = 'f' then skipLetters falseTail rest
  else .error .expectedValue

/-- Where the sweep over a value stands. -/
inductive Place where
  /-- A value comes next. -/
  | before
  /-- A value has just ended. -/
  | after
  deriving DecidableEq, Repr

/-! ### What the steps leave is no longer -/

theorem skipColon_length {s rest : List Char} (h : skipColon s = .ok rest) :
    rest.length < s.length := by
  unfold skipColon at h
  split at h
  · cases h
  · next hs =>
    split at h
    · cases h
      exact length_of_skipBlanks hs
    · cases h

theorem skipKey_length {s rest : List Char} (h : skipKey s = .ok rest) :
    rest.length < s.length := by
  unfold skipKey at h
  split at h
  · cases h
  · next hs =>
    have := length_of_skipBlanks hs
    split at h
    · obtain ⟨after, hk, h⟩ := exists_ok_of_bind h
      have := skipString_length hk
      have := skipColon_length h
      omega
    · cases h

theorem skipBefore_length {bracket : Bracket} {s rest : List Char}
    (h : skipBefore bracket s = .ok rest) : rest.length ≤ s.length := by
  cases bracket with
  | list =>
      cases h
      exact Nat.le_refl _
  | object => exact Nat.le_of_lt (skipKey_length h)

theorem skipScalar_length {c : Char} {s rest : List Char} (h : skipScalar c s = .ok rest) :
    rest.length ≤ s.length := by
  unfold skipScalar at h
  split at h
  · exact Nat.le_of_lt (skipString_length h)
  · split at h
    · obtain ⟨⟨numeral, after⟩, hn, h⟩ := exists_ok_of_bind h
      cases h
      have := Numeral.read_length hn
      simp only [List.length_cons] at this
      omega
    · split at h
      · exact skipLetters_length h
      · split at h
        · exact skipLetters_length h
        · split at h
          · exact skipLetters_length h
          · cases h

/-! ### The sweep -/

/-- **Sweeps over a value** inside the open brackets, the innermost first. -/
def sweep (place : Place) (brackets : List Bracket) (s : List Char) : Except Fault (List Char) :=
  match place, brackets with
  | .before, brackets =>
      match hs : skipBlanks s with
      | [] => .error .endInValue
      | c :: rest =>
          have := length_of_skipBlanks hs
          match opening? c with
          | some bracket =>
              match hr : skipBlanks rest with
              | [] => .error bracket.broken
              | c :: inner =>
                  have := length_of_skipBlanks hr
                  if c = bracket.closing then sweep .after brackets inner
                  else
                    match hb : skipBefore bracket (c :: inner) with
                    | .error fault => .error fault
                    | .ok inner' =>
                        have : inner'.length ≤ inner.length + 1 := skipBefore_length hb
                        sweep .before (bracket :: brackets) inner'
          | none =>
              match hc : skipScalar c rest with
              | .error fault => .error fault
              | .ok rest' =>
                  have := skipScalar_length hc
                  sweep .after brackets rest'
  | .after, [] => .ok s
  | .after, bracket :: brackets =>
      match hs : skipBlanks s with
      | [] => .error bracket.broken
      | c :: rest =>
          have := length_of_skipBlanks hs
          if c = ',' then
            match hb : skipBefore bracket rest with
            | .error fault => .error fault
            | .ok rest' =>
                have := skipBefore_length hb
                sweep .before (bracket :: brackets) rest'
          else if c = bracket.closing then sweep .after brackets rest
          else .error bracket.unseparated
  termination_by s.length
  decreasing_by all_goals omega

/-- **What follows a value at the front of a text.** -/
def skipValue (s : List Char) : Except Fault (List Char) := sweep .before [] s

end Scanout.Json
