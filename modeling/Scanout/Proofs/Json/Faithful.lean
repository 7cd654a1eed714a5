import Scanout.Proofs.Json.Skipping

/-!
# Texts of a value

A value has other texts than the one in which it is written: a string, and a name, may be spelled in
any way that the grammar knows.  Each of these texts is read as the value, blanks before it and
whatever stands behind it.

## Main definitions

* `Json.Codec.Reads` — a text is read as a value, wherever it stands
* `Json.Codec.Shows` — the texts of a value
* `Json.Codec.Faithful` — every text of a value is read as that value

## Main results

* `Json.Codec.faithful_word`, `.faithful_longWord`, `.faithful_integer`, `.faithful_truth`,
  `.faithful_text`, `.faithful_orNull_longWord`, `.faithful_variant`
* `Json.Codec.Reads.parse` — whole texts
-/

namespace Scanout.Json

/-- Blanks before a value make no difference to a reader that goes by the first character. -/
theorem readFirst_append {α : Type} {read : Char → Reader α} {before : List Char}
    (blanks : Blanks before) (s : List Char) :
    readFirst read (before ++ s) = readFirst read s := by
  rw [readFirst, readFirst, skipBlanks_append blanks]

namespace Codec

variable {α : Type}

/-- **A codec passes over blanks** before a value. -/
def PassesBlanks (codec : Codec α) : Prop :=
  ∀ before s, Blanks before → codec.read (before ++ s) = codec.read s

/-- **A text is read as a value**, behind any blanks, and nothing behind it is touched. -/
def Reads (codec : Codec α) (text : List Char) (value : α) : Prop :=
  ∀ before rest, Blanks before → Delimited rest →
    codec.read (before ++ (text ++ rest)) = .ok (value, rest)

/-- **The texts of a value**: the one that is written and, where that is a string, every other
spelling of the string. -/
inductive Shows (codec : Codec α) (value : α) : List Char → Prop
  | written : Shows codec value (codec.write value)
  | spelled {name : String} {key : List Char} : codec.write value = writeString name →
      IsKey name key → Shows codec value key

/-- A text that is read as a value makes up a whole text with blanks around it. -/
theorem Reads.parse {codec : Codec α} {s : List Char} {value : α} (reads : codec.Reads s value)
    {before after : List Char} (blanks : Blanks before) (blanks' : Blanks after) {text : String}
    (same : text.toList = before ++ (s ++ after)) : codec.parse text = .ok value := by
  have ends : skipBlanks after = [] := by
    rw [← List.append_nil after, skipBlanks_append blanks']
    rfl
  have delimited : Delimited after := by
    rw [← List.append_nil after]
    exact delimited_nil.blanks blanks'
  rw [Codec.parse, same, reads before after blanks delimited]
  show (if (skipBlanks after).isEmpty then _ else _) = _
  rw [ends]
  rfl

/-- **Every text of a value is read as that value.** -/
def Faithful (codec : Codec α) : Prop :=
  ∀ value text, codec.Shows value text → codec.Reads text value

theorem Lawful.reads {codec : Codec α} (lawful : codec.Lawful) (passes : codec.PassesBlanks)
    (value : α) : codec.Reads (codec.write value) value := by
  intro before rest blanks delimited
  rw [passes before _ blanks]
  exact lawful value rest delimited

/-- A codec that writes no strings is faithful as soon as it reads back what it writes. -/
theorem Lawful.faithful_of_noString {codec : Codec α} (lawful : codec.Lawful)
    (passes : codec.PassesBlanks) (noString : ∀ value, (codec.write value).head? ≠ some '"') : codec.Faithful := by
  intro value text shows
  cases shows with
  | written => exact lawful.reads passes value
  | spelled same _ =>
      refine absurd ?_ (noString value)
      rw [same]
      rfl

/-- A written string stands for one string only. -/
theorem writeString_injective {s t : String} (same : writeString s = writeString t) : s = t := by
  have read := readString_written s []
  rw [writeString, writeString, List.cons.injEq] at same
  rw [same.2, readString_written t []] at read
  exact (Prod.mk.inj (Except.ok.inj read)).1.symm

/-- A codec that writes strings is faithful if it reads each of their spellings. -/
theorem faithful_of_isKey {codec : Codec α} {name : α → String}
    (writes : ∀ value, codec.write value = writeString (name value))
    (reads : ∀ value key, IsKey (name value) key → codec.Reads key value) : codec.Faithful := by
  intro value text shows
  cases shows with
  | written =>
      rw [writes]
      exact reads value _ (isKey_writeString (name value))
  | spelled same is =>
      rw [writes] at same
      rw [← writeString_injective same] at is
      exact reads value text is

/-! ### Codecs -/

theorem passesBlanks_readInteger (wanted : String) (least greatest : Int) {before : List Char}
    (blanks : Blanks before) (s : List Char) :
    readInteger wanted least greatest (before ++ s) = readInteger wanted least greatest s :=
  readFirst_append blanks s

/-- A natural does not begin with a quote. -/
theorem head?_writeNatural (n : Nat) : (writeNatural n).head? ≠ some '"' := by
  obtain ⟨c, digits, written, digit⟩ := exists_writeNatural n
  rw [written]
  rintro same
  cases same
  cases digit

theorem faithful_word : word.Faithful := by
  refine lawful_word.faithful_of_noString (fun before s blanks => ?_) fun value =>
    head?_writeNatural value.toNat
  show (readInteger _ _ _ (before ++ s) >>= _) = _
  rw [passesBlanks_readInteger _ _ _ blanks]
  rfl

theorem passesBlanks_longWord : longWord.PassesBlanks := by
  intro before s blanks
  show (readInteger _ _ _ (before ++ s) >>= _) = _
  rw [passesBlanks_readInteger _ _ _ blanks]
  rfl

theorem faithful_longWord : longWord.Faithful :=
  lawful_longWord.faithful_of_noString passesBlanks_longWord fun value => head?_writeNatural value.toNat

theorem faithful_integer : integer.Faithful := by
  refine lawful_integer.faithful_of_noString (fun before s blanks => ?_) fun value => ?_
  · show (readInteger _ _ _ (before ++ s) >>= _) = _
    rw [passesBlanks_readInteger _ _ _ blanks]
    rfl
  · show (if value.toInt < 0 then _ else _ : List Char).head? ≠ _
    split
    · exact nofun
    · exact head?_writeNatural _

theorem faithful_truth : truth.Faithful := by
  refine lawful_truth.faithful_of_noString (fun before s blanks => readFirst_append blanks s)
    fun value => ?_
  cases value <;> exact nofun

theorem faithful_orNull_longWord : (orNull longWord).Faithful := by
  refine lawful_orNull_longWord.faithful_of_noString (fun before s blanks => ?_) fun value => ?_
  · unfold orNull
    dsimp only
    rw [skipBlanks_append blanks, passesBlanks_longWord before s blanks]
  · cases value with
    | none => exact nofun
    | some value => exact head?_writeNatural value.toNat

theorem faithful_text : text.Faithful := by
  refine faithful_of_isKey (fun _ => rfl) fun value key is before rest blanks _ => ?_
  obtain ⟨body, rfl, read⟩ := is.exists_readString
  unfold text
  dsimp only
  rw [readFirst_append blanks, List.cons_append, readFirst_cons (by rfl), if_pos rfl]
  exact read rest

/-- **The texts of an enumeration are read**, if each value is found by its name. -/
theorem faithful_variant {all : List α} {name : α → String}
    (found : ∀ value, all.find? (fun other => name other == name value) = some value) :
    (variant all name).Faithful := by
  refine faithful_of_isKey (fun _ => rfl) fun value key is before rest blanks _ => ?_
  obtain ⟨body, rfl, read⟩ := is.exists_readString
  unfold variant
  dsimp only
  rw [readFirst_append blanks, List.cons_append, readFirst_cons (by rfl), if_pos rfl]
  show (readString (body ++ rest) >>= _) = _
  rw [read]
  show (ofName all name (name value) >>= _) = _
  rw [ofName, found]
  rfl

end Codec

end Scanout.Json
