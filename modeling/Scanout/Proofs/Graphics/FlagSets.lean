import Mathlib.Data.List.Basic
import Scanout.Graphics.Flags

/-!
# Flags as sets of bits

A set of flags is known from the numbers of the bits that it holds, and what is done with sets is known
bit by bit.  Some bits have names: the sets that are declared hold one bit each, and no two of them the
same.  A complement is taken among the bits that have names; the others are in no complement.

## Main definitions

* the membership of a bit in a set of flags
* `Flags.single` — the set of one bit
* `Flags.Naming` — a table of names for single bits, all of them distinct
* `Flags.IsNamed` — the bits that have a name

## Main results

* `Flags.declared_naming` — the declared flags are distinct single bits
* `Flags.complemented` — a set and its complement part the bits with names among them
-/

namespace Scanout.Flags

variable {x y : Flags} {i j : Nat}

/-! ### Bits in a set -/

/-- A bit is in a set if the word has it, counted from the lowest one. -/
instance : Membership Nat Flags := ⟨fun x i => x.bits.toBitVec.getLsbD i = true⟩

theorem mem_iff : i ∈ x ↔ x.bits.toBitVec.getLsbD i = true := Iff.rfl

/-- **Sets of the same bits are the same.** -/
@[ext]
theorem ext (same : ∀ i, i ∈ x ↔ i ∈ y) : x = y := by
  obtain ⟨⟨a⟩⟩ := x
  obtain ⟨⟨b⟩⟩ := y
  obtain rfl : a = b := BitVec.eq_of_getLsbD_eq fun i _ => Bool.eq_iff_iff.mpr (same i)
  rfl

@[simp]
theorem not_mem_empty : i ∉ empty := by
  simp [mem_iff, empty]

@[simp]
theorem mem_union : i ∈ x.union y ↔ i ∈ x ∨ i ∈ y := by
  simp [mem_iff, union]

@[simp]
theorem mem_inter : i ∈ x.inter y ↔ i ∈ x ∧ i ∈ y := by
  simp [mem_iff, inter]

/-- What is taken away are the bits of the word: a word that is turned over has no others. -/
@[simp]
theorem mem_diff : i ∈ x.diff y ↔ i ∈ x ∧ i ∉ y := by
  simp only [mem_iff, diff, UInt32.toBitVec_and, UInt32.toBitVec_not, BitVec.getLsbD_and,
    BitVec.getLsbD_not, Bool.and_eq_true, Bool.not_eq_true', decide_eq_true_eq, Bool.not_eq_true]
  constructor
  · rintro ⟨held, -, lacking⟩
    exact ⟨held, lacking⟩
  · rintro ⟨held, lacking⟩
    exact ⟨held, BitVec.lt_of_getLsbD held, lacking⟩

theorem eq_empty_iff : x = empty ↔ ∀ i, i ∉ x := by
  simp [Flags.ext_iff]

theorem isEmpty_iff : x.isEmpty = true ↔ x = empty := by
  cases x
  simp [isEmpty, empty]

theorem contains_iff : x.contains y = true ↔ ∀ i ∈ y, i ∈ x := by
  have same : x.contains y = true ↔ x.inter y = y := by
    cases y
    simp [contains, inter]
  simp [same, Flags.ext_iff]

theorem intersects_iff : x.intersects y = true ↔ ∃ i ∈ x, i ∈ y := by
  have same : x.intersects y = true ↔ x.inter y ≠ empty := by
    simp [intersects, inter, empty]
  simp [same, eq_empty_iff]

/-! ### Sets from sets -/

theorem mem_foldl_union {flags : List Flags} :
    i ∈ flags.foldl union x ↔ i ∈ x ∨ ∃ flag ∈ flags, i ∈ flag := by
  induction flags generalizing x with
  | nil => simp
  | cons flag flags ih => simp [ih, or_assoc]

theorem mem_foldl_diff {flags : List Flags} :
    i ∈ flags.foldl diff x ↔ i ∈ x ∧ ¬∃ flag ∈ flags, i ∈ flag := by
  induction flags generalizing x with
  | nil => simp
  | cons flag flags ih => simp [ih, and_assoc]

/-- **The set of one bit.** -/
def single (i : Nat) : Flags := ⟨⟨BitVec.twoPow 32 i⟩⟩

theorem mem_single : j ∈ single i ↔ i < 32 ∧ i = j := by
  simp [mem_iff, single]

/-! ### Bits with names -/

/-- **A table of names for single bits**, in which no bit and no name comes twice.  A name is a word: it
has no blank, and it does not begin with a zero as numbers in hexadecimal do. -/
structure Naming (table : List (String × Flags)) : Prop where
  single : ∀ flag ∈ table, ∃ i < 32, flag.2 = single i
  flags : (table.map Prod.snd).Nodup
  names : (table.map Prod.fst).Nodup
  words : ∀ flag ∈ table, ' ' ∉ flag.1.toList ∧ flag.1.toList.head? ≠ some '0'

/-- **The declared flags are distinct single bits.** -/
theorem declared_naming : Naming declared where
  single := by decide
  flags := by decide
  names := by decide
  words := by decide

namespace Naming

variable {table : List (String × Flags)} {flag other : String × Flags}

theorem exists_mem (naming : Naming table) (among : flag ∈ table) : ∃ i, i ∈ flag.2 := by
  obtain ⟨i, bound, single⟩ := naming.single flag among
  refine ⟨i, ?_⟩
  rw [single, mem_single]
  exact ⟨bound, rfl⟩

/-- A flag of the table holds one bit only. -/
theorem eq_of_mem (naming : Naming table) (among : flag ∈ table) (first : i ∈ flag.2)
    (second : j ∈ flag.2) : i = j := by
  obtain ⟨k, -, single⟩ := naming.single flag among
  rw [single, mem_single] at first second
  exact first.2.symm.trans second.2

/-- A flag of the table is in a set as a whole or not at all. -/
theorem contains_iff_mem (naming : Naming table) (among : flag ∈ table) (held : i ∈ flag.2) :
    x.contains flag.2 = true ↔ i ∈ x := by
  rw [contains_iff]
  constructor
  · intro whole
    exact whole i held
  · intro inside j also
    rwa [naming.eq_of_mem among also held]

/-- **No two flags of the table share a bit.** -/
theorem pairwise_disjoint (naming : Naming table) :
    table.Pairwise fun flag other => ∀ i ∈ flag.2, i ∉ other.2 := by
  have distinct : table.Pairwise fun flag other => flag.2 ≠ other.2 :=
    List.pairwise_map.mp naming.flags
  refine distinct.imp_of_mem fun {flag other} among also differ i first second => differ ?_
  ext j
  constructor
  · intro held
    rwa [naming.eq_of_mem among held first]
  · intro held
    rwa [naming.eq_of_mem also held second]

end Naming

/-- **A bit has a name** if it is in a flag that is declared. -/
def IsNamed (i : Nat) : Prop := ∃ flag ∈ declared, i ∈ flag.2

theorem mem_all : i ∈ all ↔ IsNamed i := by
  have joined : all = (declared.map Prod.snd).foldl union empty := by
    rw [List.foldl_map]
    rfl
  rw [joined, mem_foldl_union, or_iff_right not_mem_empty]
  simp only [List.mem_map, exists_exists_and_eq_and, IsNamed]

theorem mem_unnamed : i ∈ x.unnamed ↔ i ∈ x ∧ ¬IsNamed i := by
  rw [unnamed, mem_diff, mem_all]

theorem mem_truncate : i ∈ x.truncate ↔ i ∈ x ∧ IsNamed i := by
  rw [truncate, mem_inter, mem_all]

theorem mem_complement : i ∈ x.complement ↔ IsNamed i ∧ i ∉ x := by
  rw [complement, mem_diff, mem_all]

/-! ### Complements -/

/-- **A set and its complement** part the bits with names among them. -/
structure Complemented (x : Flags) : Prop where
  complement_iff : ∀ i, i ∈ x.complement ↔ IsNamed i ∧ i ∉ x
  truncate_iff : ∀ i, i ∈ x.truncate ↔ i ∈ x ∧ IsNamed i
  disjoint : x.truncate.inter x.complement = empty
  covering : x.truncate.union x.complement = all

theorem complemented (x : Flags) : x.Complemented where
  complement_iff i := mem_complement
  truncate_iff i := mem_truncate
  disjoint := by
    rw [eq_empty_iff]
    intro i
    rw [mem_inter, mem_truncate, mem_complement]
    rintro ⟨⟨held, -⟩, -, lacking⟩
    exact lacking held
  covering := by
    ext i
    rw [mem_union, mem_truncate, mem_complement, mem_all]
    tauto

/-- **The complement of a union** is what both complements hold. -/
theorem complement_union (x y : Flags) :
    (x.union y).complement = x.complement.inter y.complement := by
  ext i
  rw [mem_inter, mem_complement, mem_complement, mem_complement, mem_union, not_or]
  tauto

end Scanout.Flags
