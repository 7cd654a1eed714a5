import Scanout.Pattern.NormalForm
import Scanout.Pattern.Runs

/-!
# Patterns that are a few words

Some patterns match nothing but a few words.  These words are looked for as they are, without an
automaton, unless they are so many or so much alike that looking for less of them comes first.

The words are found by gathering what matches may begin with, up to limits in number and length.  A
beginning is exact if it is all of the match.  Where it goes on from an earlier one it does not matter,
because there the earlier one matches as well.  If all others are exact, they are the words.

## Main definitions

* `Pattern.Beginnings` — what matches may begin with, if that is known
* `Expr.beginnings` — the beginnings of a meaning
* `Expr.isFewWords` — whether the words of a meaning are looked for as they are
-/

namespace Scanout.Pattern

/-- The bytes that a match may begin with; they are all of it if the beginning is exact. -/
structure Beginning where
  bytes : List Nat
  isExact : Bool
  deriving DecidableEq, Repr

/-- The first `n` bytes of a beginning. -/
def Beginning.cut (n : Nat) (b : Beginning) : Beginning :=
  if b.bytes.length ≤ n then b else ⟨b.bytes.take n, false⟩

/-- A beginning that may go on. -/
def Beginning.goingOn (b : Beginning) : Beginning := { b with isExact := false }

/-- **What matches may begin with**, in the order of the branches, if that is known. -/
abbrev Beginnings := Option (List Beginning)

namespace Beginnings

/-- How many beginnings are gathered. -/
def countLimit : Nat := 250

/-- How many bytes of a beginning are gathered. -/
def lengthLimit : Nat := 100

/-- How many members a set may have, and how often a repetition is gathered. -/
def roundLimit : Nat := 10

/-- The beginning of nothing. -/
def ofNothing : Beginnings := some [⟨[], true⟩]

/-- Whether all beginnings are all of the match. -/
def isExact (s : Beginnings) : Bool := s.any fun bs => bs.all Beginning.isExact

/-- Whether no beginning is all of the match, so that nothing behind it matters. -/
def isClosed (s : Beginnings) : Bool := s.all fun bs => bs.all fun b => !b.isExact

def goingOn (s : Beginnings) : Beginnings := s.map fun bs => bs.map Beginning.goingOn

def cut (n : Nat) (s : Beginnings) : Beginnings := s.map fun bs => bs.map (Beginning.cut n)

/-- Makes one beginning of neighbours with the same bytes. -/
def mergeEqual (bs : List Beginning) : List Beginning :=
  bs.foldr
    (fun b rest =>
      match rest with
      | [] => [b]
      | next :: others =>
          if b.bytes = next.bytes then ⟨b.bytes, b.isExact && next.isExact⟩ :: others
          else b :: rest)
    []

/-- Whether there are more beginnings than are gathered, by their numbers in two places. -/
def exceed (f : Nat → Nat → Nat) : Beginnings → Beginnings → Bool
  | some bs, some cs => countLimit < f bs.length cs.length
  | _, _ => false

/-- **The beginnings of one thing behind another.** -/
def followedBy (s t : Beginnings) : Beginnings :=
  match s, if exceed (· * ·) s t then none else t with
  | none, _ => none
  | some bs, none => if bs.any fun b => b.bytes.isEmpty then none else goingOn (some bs)
  | some bs, some cs =>
      let behind (b : Beginning) : List Beginning :=
        if b.isExact then cs.map fun c => ⟨b.bytes ++ c.bytes, c.isExact⟩ else [b]
      cut lengthLimit (some (mergeEqual (bs.flatMap behind)))

/-- **The beginnings of two things to choose from.**  If they are too many, they are shortened first. -/
def or (s t : Beginnings) : Beginnings :=
  let shorten (s : Beginnings) : Beginnings := (cut 4 s).map mergeEqual
  let (s, t) := if exceed (· + ·) s t then (shorten s, shorten t) else (s, t)
  match s, if exceed (· + ·) s t then none else t with
  | some bs, some cs => some (mergeEqual (bs ++ cs))
  | _, _ => none

/-- The beginnings of a set of characters. -/
def ofSet (s : CharSet) : Beginnings :=
  let count := s.ranges.foldl (fun n (low, high) => n + (high + 1 - low)) 0
  if roundLimit < count then none
  else
    some (s.ranges.flatMap fun (low, high) =>
      (List.range (high + 1 - low)).map fun i => ⟨encoded (low + i), true⟩)

/-- The beginnings of `n` times the same thing. -/
def rounds (t : Beginnings) : Nat → Beginnings → Beginnings
  | 0, s => s
  | n + 1, s => if s.isClosed then s else rounds t n (s.followedBy t)

/-- The beginnings of a repetition. -/
def repeated (count : Count) (isLazy : Bool) (t : Beginnings) : Beginnings :=
  if count.least = 0 then
    let t := if count.most = some 1 then t else t.goingOn
    if isLazy then ofNothing.or t else t.or ofNothing
  else
    let s := rounds t (min count.least roundLimit) ofNothing
    if count.most = some count.least ∧ count.least ≤ roundLimit then s else s.goingOn

/-! ### Whether words are looked for -/

/-- Leaves out what goes on from an earlier beginning. -/
def minimal (bs : List Beginning) : List Beginning :=
  bs.foldl (fun kept b => if kept.any fun k => k.bytes.isPrefixOf b.bytes then kept else kept ++ [b])
    []

/-- What two words begin with. -/
def sharedBytes : List Nat → List Nat → List Nat
  | m :: ms, n :: ns => if m = n then m :: sharedBytes ms ns else []
  | _, _ => []

/-- What all beginnings begin with. -/
def commonBytes : List Beginning → List Nat
  | [] => []
  | b :: bs => bs.foldl (fun shared b => sharedBytes shared b.bytes) b.bytes

/-- Whether a byte is frequent in texts; of those beyond the ASCII range, the first bytes of characters
are. -/
def isFrequent (byte : Nat) : Bool :=
  0x80 ≤ byte || "\n\r (),-./0129:_abcdefghilmnoprstuvxy|".toList.any fun c => c.toNat = byte

/-- Shortens beginnings to a number of bytes while there are more of them than a limit. -/
def shortened : List (Nat × Nat) → List Beginning → List Beginning
  | [], bs => bs
  | (bytes, limit) :: steps, bs =>
      if bs.length ≤ limit then bs else shortened steps (minimal (bs.map (Beginning.cut bytes)))

/-- Whether beginnings are words that are looked for as they are.  Words that have a short and rare
beginning in common, or a long one, are looked for by it, and many words by short beginnings if these
tell enough. -/
def areLookedFor (bs : List Beginning) : Bool :=
  let kept := minimal bs
  let common := commonBytes kept
  let within (n : Nat) : Bool := kept.all fun b => b.bytes.length ≤ n
  let rare := common.head?.any fun byte => !isFrequent byte
  if !kept.all Beginning.isExact then false
  else if bs.length ≠ 1 && common.length ≤ 3 && rare then within 1
  else if 4 < common.length || (1 < common.length && 16 < kept.length) then within common.length
  else
    let short := shortened [(5, 10), (4, 10), (3, 64), (2, 64), (1, 10)] kept
    short.any (fun b => b.bytes.length ≤ 2) || 64 < short.length || short.all Beginning.isExact

end Beginnings

/-- Where the beginnings of a meaning are gathered: by itself, behind what a sequence begins with, or
beside what earlier branches begin with. -/
inductive Gathered where
  | alone
  | behind (s : Beginnings)
  | beside (s : Beginnings)

/-- The beginnings so far with those of the next meaning. -/
def Gathered.add : Gathered → Beginnings → Beginnings
  | alone, t => t
  | behind s, t => if s.isClosed then s else s.followedBy t
  | beside s, t => s.or t

namespace Expr

/-- Adds the beginnings of a meaning to those that have been gathered. -/
def addBeginnings : Expr → Gathered → Beginnings
  | empty, g | test _, g => g.add .ofNothing
  | literal cs, g =>
      g.add (Beginnings.cut Beginnings.lengthLimit (some [⟨textBytes cs, true⟩]))
  | chars _ set, g => g.add (.ofSet set)
  | repetition count isLazy e, g => g.add ((e.addBeginnings .alone).repeated count isLazy)
  | captured _ e, g => g.add (e.addBeginnings .alone)
  | sequence e f, .behind s => f.addBeginnings (.behind (e.addBeginnings (.behind s)))
  | sequence e f, g =>
      g.add (f.addBeginnings (.behind (e.addBeginnings (.behind .ofNothing))))
  | choice e f, .beside s => f.addBeginnings (.beside (e.addBeginnings (.beside s)))
  | choice e f, g => g.add (f.addBeginnings (.beside (e.addBeginnings (.beside (some [])))))

/-- **What the matches of a meaning may begin with.** -/
def beginnings (e : Expr) : Beginnings := e.addBeginnings .alone

/-- Whether nothing is asked of places and no group is remembered. -/
def isPlain : Expr → Bool
  | empty | literal _ | chars _ _ => true
  | test _ | captured _ _ => false
  | repetition _ _ e => e.isPlain
  | sequence e f | choice e f => e.isPlain && f.isPlain

/-- **Whether a meaning is a few words that are looked for as they are.** -/
def isFewWords (e : Expr) : Bool :=
  e.isPlain &&
    match e.beginnings with
    | none => false
    | some bs =>
        let bs := Beginnings.mergeEqual bs
        !bs.isEmpty && bs.all (fun b => !b.bytes.isEmpty) && Beginnings.areLookedFor bs

end Expr

end Scanout.Pattern
