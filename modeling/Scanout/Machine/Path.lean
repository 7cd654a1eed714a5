import Scanout.Text.Quoted

/-!
# Paths

Files and directories are named by bytes, which need not be text.  A message shows a path piece by
piece: a character as it is, or quoted, and bytes that are no character by a mark, or by their values.

## Main definitions

* `Path` — a path
* `Path.join` — the path of an entry of a directory
* `Path.pieces` — the characters of a path, and what lies between them
* `Path.shown`, `Path.quoted` — how a message shows a path
-/

namespace Scanout

/-- **A path**, as bytes. -/
structure Path where
  bytes : List UInt8
  deriving DecidableEq, Repr

namespace Path

/-- A path that is text. -/
def ofText (text : String) : Path := ⟨text.toByteArray.data.toList⟩

instance : Coe String Path := ⟨ofText⟩

/-! ### Directories and entries -/

/-- The byte between the names in a path. -/
def separator : UInt8 := 0x2f

/-- **The path of an entry of a directory.**  Names are kept apart by one separator, and an entry
that begins with one is in no directory. -/
def join (directory entry : Path) : Path :=
  if entry.bytes.head? = some separator then entry
  else if directory.bytes.getLast?.all (· == separator) then ⟨directory.bytes ++ entry.bytes⟩
  else ⟨directory.bytes ++ separator :: entry.bytes⟩

/-! ### Pieces -/

/-- **A piece of a path**: a character, or bytes that are no character. -/
inductive Piece where
  | character (c : Char)
  | broken (bytes : List UInt8)
  deriving DecidableEq, Repr

/-- The character that some bytes begin with. -/
def firstChar? (bytes : List UInt8) : Option Char := ByteArray.utf8DecodeChar? ⟨bytes.toArray⟩ 0

/-- The least and the greatest byte that can be the second of three or four, by the first. -/
def secondBounds (first : UInt8) : Option (UInt8 × UInt8) :=
  if first < 0xe0 || 0xf4 < first then none
  else if first = 0xe0 then some (0xa0, 0xbf)
  else if first = 0xed then some (0x80, 0x9f)
  else if first = 0xf0 then some (0x90, 0xbf)
  else if first = 0xf4 then some (0x80, 0x8f)
  else some (0x80, 0xbf)

/-- Whether a byte is one of a character, but not its first. -/
def follows (byte : UInt8) : Bool := 0x80 ≤ byte && byte ≤ 0xbf

/-- **How many bytes are broken together** where no character begins: as many as could have been the
beginning of one, and at least the first. -/
def brokenLength : List UInt8 → Nat
  | first :: second :: rest =>
      match secondBounds first with
      | none => 1
      | some (least, greatest) =>
          if second < least || greatest < second then 1
          else if 0xf0 ≤ first && rest.head?.any follows then 3
          else 2
  | _ => 1

/-- The pieces of some bytes, of which the first few are known to be of an earlier piece. -/
def piecesBehind : Nat → List UInt8 → List Piece
  | _, [] => []
  | passed + 1, _ :: rest => piecesBehind passed rest
  | 0, first :: rest =>
      match firstChar? (first :: rest) with
      | some c => .character c :: piecesBehind (c.utf8Size - 1) rest
      | none =>
          let more := brokenLength (first :: rest) - 1
          .broken (first :: rest.take more) :: piecesBehind more rest

/-- **The pieces of a path.** -/
def pieces (path : Path) : List Piece := piecesBehind 0 path.bytes

/-! ### How paths are shown -/

/-- How a piece is shown: bytes that are no character have one mark. -/
def Piece.shown : Piece → Char
  | character c => c
  | broken _ => '\ufffd'

/-- **How a message shows a path.** -/
def shown (path : Path) : String := String.ofList (path.pieces.map Piece.shown)

/-- How a quoted path shows a byte that is of no character. -/
def byteEscape (byte : UInt8) : List Char :=
  '\\' :: 'x' :: (Text.hexDigits byte.toNat).map Char.toUpper

/-- How a piece is quoted. -/
def Piece.quoted : Piece → List Char
  | character c => Text.quotedChar c
  | broken bytes => bytes.flatMap byteEscape

/-- **A path between double quotes.** -/
def quoted (path : Path) : String :=
  String.ofList ('"' :: (path.pieces.flatMap Piece.quoted ++ ['"']))

end Path

end Scanout
