import Mathlib.Data.List.Nodup
import Scanout.Proofs.Graphics.FlagSets
import Scanout.Proofs.Text.Words

/-!
# Names of flags

A set of flags is listed by the names of the declared flags in it, and what has no name is left over.
The names and what is left determine the set, and so does its text.  That is because every declared flag
is a bit of its own: a walk that takes away what it has listed leaves out nothing of the others, and a
set that has some of a flag has all of it.

## Main definitions

* `Flags.walk` — listing a set along a table, taking away what is listed
* `Flags.within` — the declared flags in a set
* `Flags.Listed` — what the names of a set are, and the set that they are the names of
* `Flags.Shown` — the words that a set is shown by

## Main results

* `Flags.walk_declared` — a walk lists the names of a set and leaves what has no name
* `Flags.joined` — the flags looked up by name give the set, with what is left
* `Flags.eq_of_shown` — sets that are shown by the same words are the same
* `Flags.determined_by_names`
-/

namespace Scanout.Flags

variable {x y : Flags} {i : Nat} {name : String} {flag : Flags}

/-! ### Walking along a table -/

/-- **A walk along a table of names** lists each flag that is in the set as a whole and of which something
is left, and takes it away from what is left. -/
def walk (x : Flags) : List (String × Flags) → Flags → List String × Flags
  | [], rest => ([], rest)
  | flag :: table, rest =>
      if x.contains flag.2 && rest.intersects flag.2 then
        ((flag.1 :: (x.walk table (rest.diff flag.2)).1), (x.walk table (rest.diff flag.2)).2)
      else x.walk table rest

/-- **A walk along flags that share no bit** lists every flag of the set and takes all of them away. -/
theorem walk_eq {table : List (String × Flags)} {rest : Flags}
    (inhabited : ∀ flag ∈ table, ∃ i, i ∈ flag.2)
    (disjoint : table.Pairwise fun flag other => ∀ i ∈ flag.2, i ∉ other.2)
    (left : ∀ flag ∈ table, ∀ i ∈ flag.2, i ∈ x → i ∈ rest) :
    let inside := table.filter fun flag => x.contains flag.2
    x.walk table rest = (inside.map Prod.fst, (inside.map Prod.snd).foldl diff rest) := by
  induction table generalizing rest with
  | nil => rfl
  | cons flag table ih =>
      obtain ⟨⟨i, inFlag⟩, inhabited⟩ := List.forall_mem_cons.mp inhabited
      obtain ⟨apart, disjoint⟩ := List.pairwise_cons.mp disjoint
      obtain ⟨whole, left⟩ := List.forall_mem_cons.mp left
      by_cases held : x.contains flag.2 = true
      · have touched : rest.intersects flag.2 = true :=
          intersects_iff.mpr ⟨i, whole i inFlag (contains_iff.mp held i inFlag), inFlag⟩
        -- the flags behind this one keep their bits, for they share none with it
        have kept : ∀ other ∈ table, ∀ i ∈ other.2, i ∈ x → i ∈ rest.diff flag.2 := by
          intro other among i inOther inside
          exact mem_diff.mpr ⟨left other among i inOther inside,
            fun shared => apart other among i shared inOther⟩
        simp [walk, held, touched, ih inhabited disjoint kept]
      · simp [walk, held, ih inhabited disjoint left]

/-- Flags that share their bit are not both listed. -/
example : walk ⟨0x3⟩ [("FIRST", ⟨0x1⟩), ("AGAIN", ⟨0x1⟩)] ⟨0x3⟩ = (["FIRST"], ⟨0x2⟩) := by decide

/-! ### The names of a set -/

theorem mem_names : name ∈ x.names ↔ ∃ flag, (name, flag) ∈ declared ∧ ∀ i ∈ flag, i ∈ x := by
  simp [names, contains_iff]

theorem names_sublist (x : Flags) : x.names.Sublist (declared.map Prod.fst) :=
  List.filter_sublist.map Prod.fst

/-- **A name is looked up as it is declared.** -/
theorem ofName?_eq_some : ofName? name = some flag ↔ (name, flag) ∈ declared := by
  constructor
  · intro known
    obtain ⟨⟨other, flag⟩, first, rfl⟩ := Option.map_eq_some_iff.mp known
    obtain rfl : other = name := by simpa using List.find?_some first
    exact List.mem_of_find?_eq_some first
  · intro among
    have known : (declared.find? fun other => other.1 == name).isSome = true :=
      List.find?_isSome.mpr ⟨(name, flag), among, beq_self_eq_true name⟩
    obtain ⟨other, found⟩ := Option.isSome_iff_exists.mp known
    have sameName : other.1 = name := by simpa using List.find?_some found
    -- the first flag of that name is the only one
    obtain rfl := List.inj_on_of_nodup_map declared_naming.names (List.mem_of_find?_eq_some found)
      among sameName
    exact Option.map_eq_some_iff.mpr ⟨_, found, rfl⟩

/-- Names of declared flags are looked up one by one. -/
theorem mapM_ofName? {table : List (String × Flags)} (among : ∀ flag ∈ table, flag ∈ declared) :
    (table.map Prod.fst).mapM ofName? = some (table.map Prod.snd) := by
  induction table with
  | nil => rfl
  | cons flag table ih =>
      obtain ⟨here, later⟩ := List.forall_mem_cons.mp among
      simp [ofName?_eq_some.mpr here, ih later]

/-- **The declared flags in a set**, without their names. -/
def within (x : Flags) : List Flags := (declared.filter fun flag => x.contains flag.2).map Prod.snd

/-- The declared flags in a set hold the bits of the set that have a name, for each of these is a flag as
a whole. -/
theorem exists_mem_within : (∃ flag ∈ x.within, i ∈ flag) ↔ i ∈ x ∧ IsNamed i := by
  constructor
  · rintro ⟨_, listed, held⟩
    obtain ⟨flag, among, rfl⟩ := List.mem_map.mp listed
    obtain ⟨among, whole⟩ := List.mem_filter.mp among
    exact ⟨contains_iff.mp whole i held, flag, among, held⟩
  · rintro ⟨inside, flag, among, held⟩
    have whole := (declared_naming.contains_iff_mem among held).mpr inside
    exact ⟨flag.2, List.mem_map_of_mem (List.mem_filter.mpr ⟨among, whole⟩), held⟩

/-- **A walk along the declared flags** lists the names of a set and leaves what has no name. -/
theorem walk_declared (x : Flags) : x.walk declared x = (x.names, x.unnamed) := by
  have naming := declared_naming
  have rest : x.within.foldl diff x = x.unnamed := by
    ext i
    rw [mem_foldl_diff, exists_mem_within, mem_unnamed]
    tauto
  rw [walk_eq (fun _ => naming.exists_mem) naming.pairwise_disjoint fun _ _ _ _ inside => inside]
  exact Prod.ext rfl rest

/-- **The flags looked up by name give the set**, with what is left. -/
theorem joined (x : Flags) :
    ∃ flags, x.names.mapM ofName? = some flags ∧ flags.foldl union x.unnamed = x := by
  refine ⟨x.within, mapM_ofName? fun flag => List.mem_of_mem_filter, ?_⟩
  ext i
  rw [mem_foldl_union, exists_mem_within, mem_unnamed]
  tauto

/-- **A set is known from its names** and what is left. -/
theorem eq_of_names (sameNames : x.names = y.names) (sameRest : x.unnamed = y.unnamed) : x = y := by
  obtain ⟨flags, looked, joined⟩ := x.joined
  obtain ⟨flags', looked', joined'⟩ := y.joined
  rw [sameNames, looked'] at looked
  cases looked
  rw [← joined, ← joined', sameRest]

/-- **What the names of a set are, and the set that they are the names of**: they list the declared flags
in the set, each once and in the order of the declaration, and looked up again they give the set. -/
structure Listed (x : Flags) : Prop where
  inOrder : x.names.Sublist (declared.map Prod.fst)
  once : x.names.Nodup
  mem_iff : ∀ name, name ∈ x.names ↔ ∃ flag, (name, flag) ∈ declared ∧ ∀ i ∈ flag, i ∈ x
  walked : x.walk declared x = (x.names, x.unnamed)
  unnamed_iff : ∀ i, i ∈ x.unnamed ↔ i ∈ x ∧ ¬IsNamed i
  joined : ∃ flags, x.names.mapM ofName? = some flags ∧ flags.foldl union x.unnamed = x

theorem listed (x : Flags) : x.Listed where
  inOrder := x.names_sublist
  once := declared_naming.names.sublist x.names_sublist
  mem_iff _ := mem_names
  walked := x.walk_declared
  unnamed_iff _ := mem_unnamed
  joined := x.joined

/-! ### The text of a set -/

/-- **The words that a set is shown by**: its names, and behind them the bits that have no name in
hexadecimal.  The empty set is shown by a zero. -/
inductive Shown (x : Flags) : List String → Prop
  | nothing : x = empty → x.Shown ["0x0"]
  | named : x ≠ empty → x.unnamed = empty → x.Shown x.names
  | partly : x.unnamed ≠ empty → x.Shown (x.names ++ [Text.hex x.unnamed.bits.toNat])

theorem exists_shown (x : Flags) :
    ∃ words, x.Shown words ∧
      x.render = "ContextFlags(" ++ String.intercalate " | " words ++ ")" := by
  have text : x.render = "ContextFlags(" ++ String.intercalate " | " (x.names ++
      if x.unnamed.isEmpty && !x.isEmpty then [] else [Text.hex x.unnamed.bits.toNat]) ++ ")" := rfl
  by_cases bare : x = empty
  · subst bare
    exact ⟨_, .nothing rfl, by decide⟩
  · by_cases all : x.unnamed = empty
    · refine ⟨_, .named bare all, ?_⟩
      simp [text, isEmpty_iff.mpr all, mt isEmpty_iff.mp bare]
    · refine ⟨_, .partly all, ?_⟩
      simp [text, mt isEmpty_iff.mp all]

/-- Behind the names there is at most one word more, and it tells what has no name. -/
theorem Shown.exists_rest {words : List String} (shown : x.Shown words) :
    ∃ rest, words = x.names ++ rest ∧
      (rest = [] ∧ x.unnamed = empty ∨ rest = [Text.hex x.unnamed.bits.toNat]) := by
  cases shown with
  | nothing bare =>
      subst bare
      exact ⟨_, rfl, .inr (by decide)⟩
  | named _ all => exact ⟨[], (List.append_nil _).symm, .inl ⟨rfl, all⟩⟩
  | partly _ => exact ⟨_, rfl, .inr rfl⟩

/-- A number is not the name of a flag. -/
theorem ofName?_hex (n : Nat) : ofName? (Text.hex n) = none := by
  rw [Option.eq_none_iff_forall_ne_some]
  intro flag found
  refine (declared_naming.words _ (ofName?_eq_some.mp found)).2 ?_
  simp [Text.hex]

/-- The names are the words that can be looked up. -/
theorem Shown.names_eq {words : List String} (shown : x.Shown words) :
    words.filter (fun word => (ofName? word).isSome) = x.names := by
  obtain ⟨rest, rfl, told⟩ := shown.exists_rest
  have known : ∀ name ∈ x.names, (ofName? name).isSome = true := by
    intro name among
    obtain ⟨flag, among, -⟩ := mem_names.mp among
    rw [ofName?_eq_some.mpr among]
    rfl
  have unknown : ∀ word ∈ rest, ¬(ofName? word).isSome = true := by
    rcases told with ⟨rfl, -⟩ | rfl
    · simp
    · simp [ofName?_hex]
  rw [List.filter_append, List.filter_eq_self.mpr known, List.filter_eq_nil_iff.mpr unknown,
    List.append_nil]

/-- **Sets that are shown by the same words are the same.** -/
theorem eq_of_shown {words : List String} (shown : x.Shown words) (shown' : y.Shown words) :
    x = y := by
  have sameNames : x.names = y.names := shown.names_eq.symm.trans shown'.names_eq
  obtain ⟨rest, rfl, told⟩ := shown.exists_rest
  obtain ⟨rest', same, told'⟩ := shown'.exists_rest
  rw [sameNames] at same
  obtain rfl := List.append_cancel_left same
  refine eq_of_names sameNames ?_
  rcases told with ⟨rfl, all⟩ | rfl
  · rcases told' with ⟨-, all'⟩ | other
    · rw [all, all']
    · cases other
  · rcases told' with ⟨other, -⟩ | same
    · cases other
    · have sameWord := Text.hex_injective (List.head_eq_of_cons_eq same)
      exact congrArg Flags.mk (UInt32.toNat_inj.mp sameWord)

/-- No word has a blank in it. -/
theorem Shown.blank_notMem {words : List String} (shown : x.Shown words) :
    ∀ word ∈ words, ' ' ∉ word.toList := by
  obtain ⟨rest, rfl, told⟩ := shown.exists_rest
  intro word among
  rcases List.mem_append.mp among with among | among
  · obtain ⟨flag, among, -⟩ := mem_names.mp among
    exact (declared_naming.words _ among).1
  · rcases told with ⟨rfl, -⟩ | rfl
    · cases among
    · rw [List.mem_singleton.mp among]
      exact Text.blank_notMem_hex _

/-- Every set is shown by some word. -/
theorem Shown.ne_nil {words : List String} (shown : x.Shown words) : words ≠ [] := by
  cases shown with
  | nothing _ => exact List.cons_ne_nil _ _
  | named inhabited all =>
      intro noNames
      exact inhabited (eq_of_names (noNames.trans (by decide)) (all.trans (by decide)))
  | partly _ => exact List.append_ne_nil_of_right_ne_nil _ (List.cons_ne_nil _ _)

/-- **No two sets have the same text.** -/
theorem render_inj : x.render = y.render ↔ x = y := by
  refine ⟨fun same => ?_, congrArg render⟩
  obtain ⟨words, shown, text⟩ := x.exists_shown
  obtain ⟨words', shown', text'⟩ := y.exists_shown
  have joined : String.intercalate " | " words = String.intercalate " | " words' := by
    simpa [text, text'] using same
  obtain rfl := Text.eq_of_intercalate_eq rfl shown.ne_nil shown'.ne_nil shown.blank_notMem
    shown'.blank_notMem joined
  exact eq_of_shown shown shown'

/-- A set with two names and two bits that have none. -/
example : render ⟨0x80000103⟩ =
    "ContextFlags(GL_CORE_CONTEXT | SHADERS_GLSL | 0x80000001)" := by decide

/-- **Sets of flags and their names determine each other.** -/
theorem determined_by_names (x y : Flags) :
    Naming declared ∧ x.Listed ∧
      (∃ words, x.Shown words ∧
        x.render = "ContextFlags(" ++ String.intercalate " | " words ++ ")") ∧
      (x.render = y.render ↔ x = y) ∧
      x.Complemented ∧ (x.union y).complement = x.complement.inter y.complement :=
  ⟨declared_naming, x.listed, x.exists_shown, render_inj, x.complemented, complement_union x y⟩

end Scanout.Flags
