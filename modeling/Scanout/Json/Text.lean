import Scanout.Json.Reader
import Scanout.Text.Hex

/-!
# Strings of a text

A string stands between quotes.  A backslash begins an escape: a letter for a character, or `u` and
four hexadecimal digits for a UTF-16 unit, of which two halves make up a character beyond the first
plane.  A string that is read must pair its halves; one that is only passed over need not.

## Main definitions

* `Json.readString` — reads a string behind its opening quote
* `Json.skipString` — passes over a string behind its opening quote
* `Json.writeString` — a string between quotes
-/

namespace Scanout.Json

/-! ### Hexadecimal units -/

/-- How many bytes a text has. -/
def byteLength (s : List Char) : Nat := s.foldl (fun bytes c => bytes + c.utf8Size) 0

/-- **Reads the four digits of a unit.**  With fewer than four bytes left, the text breaks off in the
string; otherwise whatever is not a digit makes the escape invalid. -/
def readUnit : Reader Nat
  | a :: b :: c :: d :: rest =>
      match Text.hexValue? [a, b, c, d] with
      | some unit => .ok (unit, rest)
      | none => .error .invalidEscape
  | short => .error (if byteLength short < 4 then .endInText else .invalidEscape)

/-! ### Escapes -/

/-- The character that an escape letter stands for. -/
def shortEscape? (c : Char) : Option Char :=
  if c = '"' then some '"'
  else if c = '\\' then some '\\'
  else if c = '/' then some '/'
  else if c = 'b' then some '\x08'
  else if c = 'f' then some '\x0c'
  else if c = 'n' then some '\n'
  else if c = 'r' then some '\r'
  else if c = 't' then some '\t'
  else none

/-- The units that are the first half of a character. -/
def isFirstHalf (unit : Nat) : Bool := 0xd800 ≤ unit && unit < 0xdc00

/-- The units that are the second half of a character. -/
def isSecondHalf (unit : Nat) : Bool := 0xdc00 ≤ unit && unit < 0xe000

/-- The character that two halves make up. -/
def joinHalves (first second : Nat) : Char :=
  Char.ofNat (0x10000 + (first - 0xd800) * 0x400 + (second - 0xdc00))

/-- Reads the second half behind a first one. -/
def readSecondHalf (first : Nat) : Reader Char
  | [] => .error .endInText
  | c :: rest =>
      if c = '\\' then
        match rest with
        | [] => .error .endInText
        | c :: rest =>
            if c = 'u' then do
              let (second, rest) ← readUnit rest
              if isSecondHalf second then return (joinHalves first second, rest)
              else .error .loneHalf
            else .error .endOfPair
      else .error .endOfPair

/-- **Reads an escape** behind its backslash. -/
def readEscape : Reader Char
  | [] => .error .endInText
  | c :: rest =>
      if c = 'u' then do
        let (unit, rest) ← readUnit rest
        if isSecondHalf unit then .error .loneHalf
        else if isFirstHalf unit then readSecondHalf unit rest
        else return (Char.ofNat unit, rest)
      else
        match shortEscape? c with
        | some character => .ok (character, rest)
        | none => .error .invalidEscape

/-- Passes over an escape behind its backslash. -/
def skipEscape : List Char → Except Fault (List Char)
  | [] => .error .endInText
  | c :: rest =>
      if c = 'u' then do
        let (_, rest) ← readUnit rest
        return rest
      else
        match shortEscape? c with
        | some _ => .ok rest
        | none => .error .invalidEscape

/-! ### What a reader leaves is shorter -/

theorem readUnit_length {s rest : List Char} {unit : Nat} (h : readUnit s = .ok (unit, rest)) :
    rest.length < s.length := by
  unfold readUnit at h
  split at h
  · split at h
    · cases h
      simp only [List.length_cons]
      omega
    · cases h
  · cases h

theorem readSecondHalf_length {first : Nat} {s rest : List Char} {c : Char}
    (h : readSecondHalf first s = .ok (c, rest)) : rest.length < s.length := by
  unfold readSecondHalf at h
  split at h
  · cases h
  · split at h
    · split at h
      · cases h
      · split at h
        · obtain ⟨⟨second, tail⟩, hu, h⟩ := exists_ok_of_bind h
          have := readUnit_length hu
          simp only at h
          split at h
          · simp only [pure, Except.pure, Except.ok.injEq, Prod.mk.injEq] at h
            obtain ⟨_, rfl⟩ := h
            simp only [List.length_cons]
            omega
          · cases h
        · cases h
    · cases h

theorem readEscape_length {s rest : List Char} {c : Char} (h : readEscape s = .ok (c, rest)) :
    rest.length < s.length := by
  unfold readEscape at h
  split at h
  · cases h
  · split at h
    · obtain ⟨⟨unit, tail⟩, hu, h⟩ := exists_ok_of_bind h
      have := readUnit_length hu
      simp only at h
      split at h
      · cases h
      · split at h
        · have := readSecondHalf_length h
          simp only [List.length_cons]
          omega
        · simp only [pure, Except.pure, Except.ok.injEq, Prod.mk.injEq] at h
          obtain ⟨_, rfl⟩ := h
          simp only [List.length_cons]
          omega
    · split at h
      · cases h
        simp
      · cases h

theorem skipEscape_length {s rest : List Char} (h : skipEscape s = .ok rest) :
    rest.length < s.length := by
  unfold skipEscape at h
  split at h
  · cases h
  · split at h
    · obtain ⟨⟨unit, tail⟩, hu, h⟩ := exists_ok_of_bind h
      have := readUnit_length hu
      cases h
      simp only [List.length_cons]
      omega
    · split at h
      · cases h
        simp
      · cases h

/-! ### Strings -/

/-- The characters that may only stand in a string as escapes. -/
def isControl (c : Char) : Bool := c.toNat < 0x20

/-- Reads the characters of a string behind its opening quote. -/
def readCharacters (s : List Char) : Except Fault (List Char × List Char) :=
  match s with
  | [] => .error .endInText
  | c :: rest =>
      if c = '"' then .ok ([], rest)
      else if c = '\\' then
        match h : readEscape rest with
        | .error fault => .error fault
        | .ok (character, after) =>
            have := readEscape_length h
            match readCharacters after with
            | .error fault => .error fault
            | .ok (characters, after) => .ok (character :: characters, after)
      else if isControl c then .error .controlCharacter
      else
        match readCharacters rest with
        | .error fault => .error fault
        | .ok (characters, after) => .ok (c :: characters, after)
  termination_by s.length
  decreasing_by all_goals simp only [List.length_cons]; omega

/-- **Reads a string** behind its opening quote. -/
def readString : Reader String := fun s => do
  let (characters, rest) ← readCharacters s
  return (String.ofList characters, rest)

/-- **Passes over a string** behind its opening quote. -/
def skipString (s : List Char) : Except Fault (List Char) :=
  match s with
  | [] => .error .endInText
  | c :: rest =>
      if c = '"' then .ok rest
      else if c = '\\' then
        match h : skipEscape rest with
        | .error fault => .error fault
        | .ok after =>
            have := skipEscape_length h
            skipString after
      else if isControl c then .error .controlCharacter
      else skipString rest
  termination_by s.length
  decreasing_by all_goals simp only [List.length_cons]; omega

theorem skipString_length {s rest : List Char} (h : skipString s = .ok rest) :
    rest.length < s.length := by
  fun_induction skipString s with
  | case1 => cases h
  | case2 after =>
      cases h
      simp
  | case3 => cases h
  | case4 tail after hs shorter _ ih =>
      have := ih h
      simp only [List.length_cons]
      omega
  | case5 => cases h
  | case6 c tail _ _ _ ih =>
      have := ih h
      simp only [List.length_cons]
      omega

/-! ### Writing -/

/-- The digit of a value below sixteen, in lower case. -/
def digitOf (n : Nat) : Char := Nat.digitChar n

/-- How one character stands between quotes. -/
def writeCharacter (c : Char) : List Char :=
  if c = '"' then ['\\', '"']
  else if c = '\\' then ['\\', '\\']
  else if c = '\x08' then ['\\', 'b']
  else if c = '\x0c' then ['\\', 'f']
  else if c = '\n' then ['\\', 'n']
  else if c = '\r' then ['\\', 'r']
  else if c = '\t' then ['\\', 't']
  else if isControl c then
    ['\\', 'u', '0', '0', digitOf (c.toNat / 16), digitOf (c.toNat % 16)]
  else [c]

/-- **A string between quotes.** -/
def writeString (s : String) : List Char := '"' :: (s.toList.flatMap writeCharacter ++ ['"'])

end Scanout.Json
