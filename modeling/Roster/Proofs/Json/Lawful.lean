import Roster.Proofs.Json.Records

/-!
A codec is lawful if it reads every value by what the value itself says, and if it reads what it
writes as what it was written for. Codecs are composed of others, and lawful ones of lawful ones.
-/

namespace Roster.Json

variable {α β : Type} {αs : List Type}

/-! ## Texts -/

theorem exists_control_unit {c : Char} (control : c.toNat < 0x20) :
    ∃ u : CodeUnit, u.value = c.toNat ∧
      u.chars = ['0', '0', Nat.digitChar (c.toNat / 16), Nat.digitChar (c.toNat % 16)] := by
  have digits : ∀ n : Fin 0x20,
      hexDigit? (Nat.digitChar (n.val / 16)) = some (n.val / 16) ∧
        hexDigit? (Nat.digitChar (n.val % 16)) = some (n.val % 16) := by decide
  obtain ⟨high, low⟩ := digits ⟨c.toNat, control⟩
  let zero : Hex := ⟨'0', 0, by decide⟩
  refine ⟨⟨zero, zero, ⟨_, _, high⟩, ⟨_, _, low⟩⟩, ?_, rfl⟩
  change (0 * 16 + c.toNat / 16) * 16 + c.toNat % 16 = c.toNat
  omega

/-- One stroke is written for a character, and stands for it. -/
theorem exists_stroke (c : Char) :
    ∃ stroke : Stroke, stroke.chars = quotedChar c ∧
      ∀ rest, unite (stroke :: rest) = (unite rest).map (c :: ·) := by
  have escaped (letter : Char) (found : shortEscape? letter = some c) :
      ∃ stroke : Stroke, stroke.chars = ['\\', letter] ∧
        ∀ rest, unite (stroke :: rest) = (unite rest).map (c :: ·) :=
    ⟨.short letter c found, rfl, fun rest => by rw [unite]⟩
  unfold quotedChar
  split
  next same => subst same; exact escaped '"' rfl
  split
  next same => subst same; exact escaped '\\' rfl
  split
  next same => subst same; exact escaped 'b' rfl
  split
  next same => subst same; exact escaped 't' rfl
  split
  next same => subst same; exact escaped 'n' rfl
  split
  next same => subst same; exact escaped 'f' rfl
  split
  next same => subst same; exact escaped 'r' rfl
  split
  next control =>
    obtain ⟨u, value, spelled⟩ := exists_control_unit control
    have low : ¬ u.isLow = true := by rw [CodeUnit.isLow, value]; simp; omega
    have high : ¬ u.isHigh = true := by rw [CodeUnit.isHigh, value]; simp; omega
    refine ⟨.unit u, by rw [Stroke.chars, spelled], fun rest => ?_⟩
    rw [unite.eq_def]
    simp only [if_neg low, if_neg high, value, Char.ofNat_toNat]
  next quote backslash _ _ _ _ _ visible =>
    exact ⟨.plain c quote backslash visible, rfl, fun rest => by rw [unite]⟩

theorem exists_strokes (cs : List Char) :
    ∃ strokes : List Stroke, strokes.flatMap Stroke.chars = cs.flatMap quotedChar ∧
      unite strokes = some cs := by
  induction cs with
  | nil => exact ⟨[], rfl, rfl⟩
  | cons c cs ih =>
    obtain ⟨strokes, spelled, read⟩ := ih
    obtain ⟨stroke, first, reads⟩ := exists_stroke c
    refine ⟨stroke :: strokes, ?_, ?_⟩
    · rw [List.flatMap_cons, List.flatMap_cons, first, spelled]
    · rw [reads, read]
      rfl

theorem exists_quoted (s : String) :
    ∃ strokes : List Stroke, strokesChars strokes = quoted s ∧
      (unite strokes).map String.ofList = some s := by
  obtain ⟨strokes, spelled, read⟩ := exists_strokes s.toList
  refine ⟨strokes, ?_, ?_⟩
  · rw [strokesChars, spelled, quoted]
  · rw [read, Option.map_some, String.ofList_toList]

/-! ## Words -/

namespace Numeral

theorem eq_zero_of_leading_zero {n : Nat} {rest : List Char}
    (leading : Nat.toDigits 10 n = '0' :: rest) : n = 0 := by
  induction n using Nat.strongRecOn generalizing rest with
  | ind n ih =>
    rw [Nat.toDigits_eq_if (by decide)] at leading
    split at leading
    next digit =>
      have nonzero : ∀ d : Fin 10, Nat.digitChar d = '0' → d.val = 0 := by decide
      exact nonzero ⟨n, digit⟩ (List.cons.inj leading).1
    next more =>
      have nonempty : Nat.toDigits 10 (n / 10) ≠ [] := Nat.toDigits_ne_nil
      obtain ⟨c, cs, digits⟩ := List.exists_cons_of_ne_nil nonempty
      rw [digits, List.cons_append] at leading
      have tenth := ih (n / 10) (by omega) (digits.trans (by rw [(List.cons.inj leading).1]))
      omega

/-- A number without anything but digits. -/
def ofNat (n : Nat) : Numeral where
  negative := false
  whole := Nat.toDigits 10 n
  whole_digits _ member := Nat.isDigit_of_mem_toDigits (by decide) (by decide) member
  whole_nonempty := Nat.toDigits_ne_nil
  whole_zero rest leading := by
    rw [eq_zero_of_leading_zero leading] at leading
    exact (List.cons.inj leading).2.symm
  fraction_digits _ member := absurd member List.not_mem_nil
  exponent_digits _ _ same := absurd same (Option.some_ne_none _).symm

theorem wholeValue_ofNat (n : Nat) : (ofNat n).wholeValue = n := by
  have value := Nat.ofDigitChars_toDigits (b := 10) (n := n) (by decide) (by decide)
  rw [Nat.ofDigitChars] at value
  simp only [Nat.mul_comm 10] at value
  exact value

end Numeral

namespace Codec

/-! ## Documents -/

theorem skipSpace_alone (gap : Gap) : skipSpace gap.chars = [] := by
  have skipped := skipSpace_gap gap []
  rw [List.append_nil] at skipped
  rw [skipped]
  rfl

/-- White space around a value does not count. -/
theorem decode_document {c : Codec α} (localReader : c.reader.Local) (before : Gap) (v : Spelling)
    (after : Gap) : (c.decode (Spelling.document before v after)).toOption = c.reader.value? v := by
  have ends : Ends after.chars := by
    have ends := ends_gap after ends_nil
    rwa [List.append_nil] at ends
  have read := localReader before v after.chars ends
  rw [Spelling.document, decode, String.toList_ofList]
  cases outcome : c.reader.run (before.chars ++ (v.chars ++ after.chars)) with
  | error =>
    rw [outcome] at read
    cases meaning : c.reader.value? v with
    | none => rfl
    | some => rw [meaning] at read; cases read
  | ok found =>
    rw [outcome] at read
    cases meaning : c.reader.value? v with
    | none => rw [meaning] at read; cases read
    | some a =>
      rw [meaning] at read
      cases Option.some.inj read
      dsimp only
      rw [skipSpace_alone]
      rfl

theorem decode_written {c : Codec α} (localReader : c.reader.Local) (v : Spelling) :
    (c.decode v.written).toOption = c.reader.value? v := by
  have alone : Spelling.document Gap.none v Gap.none = v.written := by
    rw [Spelling.document, Spelling.written, Gap.none, List.nil_append, List.append_nil]
  rw [← alone]
  exact decode_document localReader Gap.none v Gap.none

/-- What is written for `a` spells a value that is read as `a`. -/
def Spells (c : Codec α) (a : α) (v : Spelling) : Prop :=
  v.chars = c.write a ∧ c.reader.value? v = some a

structure Lawful (c : Codec α) : Prop where
  localReader : c.reader.Local
  /-- What is written is read as what it was written for. -/
  faithful : ∀ a, ∃ v, c.Spells a v

theorem Lawful.decode_encode {c : Codec α} (lawful : c.Lawful) (a : α) :
    c.decode (c.encode a) = .ok a := by
  obtain ⟨v, spelled, meaning⟩ := lawful.faithful a
  have decoded := decode_written lawful.localReader v
  rw [Spelling.written, spelled, meaning] at decoded
  exact toOption_eq_some.mp decoded

/-! ## Single values -/

theorem lawful_text : Codec.text.Lawful where
  localReader := Reader.means_text.isLocal
  faithful s := by
    obtain ⟨strokes, spelled, read⟩ := exists_quoted s
    exact ⟨.text strokes, by rw [Spelling.chars_text, spelled]; rfl,
      (Reader.means_text.value?_eq _).trans read⟩

theorem lawful_flag : Codec.flag.Lawful where
  localReader := Reader.means_flag.isLocal
  faithful value := ⟨.flag value, Spelling.chars_flag value, Reader.means_flag.value?_eq _⟩

theorem lawful_word {bits : Nat} (narrow : bits ≤ 64) : (Codec.word bits).Lawful where
  localReader := (Reader.means_word narrow).isLocal
  faithful w := by
    refine ⟨.number (.ofNat w.toNat), ?_, ((Reader.means_word narrow).value?_eq _).trans ?_⟩
    · rw [Spelling.chars_number]
      exact List.append_nil _
    · rw [Reader.wordOf?, Numeral.word?, Numeral.wholeValue_ofNat,
        if_pos ⟨⟨rfl, rfl, rfl⟩, w.isLt⟩, BitVec.ofNat_toNat, BitVec.setWidth_eq]

/-! ## Values within others -/

theorem Lawful.wrap {c : Codec α} (lawful : c.Lawful) {wrapped : α → β} {bare : β → α}
    (inverse : ∀ b, wrapped (bare b) = b) : (c.wrap wrapped bare).Lawful where
  localReader := (Reader.means_map lawful.localReader wrapped).isLocal
  faithful b := by
    obtain ⟨v, spelled, meaning⟩ := lawful.faithful (bare b)
    refine ⟨v, spelled, ?_⟩
    change (c.reader.map wrapped).value? v = some b
    rw [Reader.value?_map, meaning, Option.map_some, inverse]

/-- A value that is there must not be written as `null`. -/
theorem Lawful.optional {c : Codec α} (lawful : c.Lawful) (strict : c.reader.value? .null = none) :
    c.optional.Lawful where
  localReader := (Reader.means_optional lawful.localReader).isLocal
  faithful a := by
    have read := (Reader.means_optional lawful.localReader).value?_eq
    cases a with
    | none => exact ⟨.null, Spelling.chars_null, read .null⟩
    | some a =>
      obtain ⟨v, spelled, meaning⟩ := lawful.faithful a
      refine ⟨v, spelled, (read v).trans ?_⟩
      cases v with
      | null => rw [strict] at meaning; cases meaning
      | flag _ | number _ | text _ | sequence _ _ | map _ _ =>
        rw [Reader.optionalOf, meaning]
        · rfl
        · exact nofun

theorem Lawful.exists_items {c : Codec α} (lawful : c.Lawful) (as : List α) :
    ∃ items : List (Item Spelling), items.map Item.chars = as.map c.write ∧
      (items.mapM fun item => c.reader.value? item.value) = some as := by
  induction as with
  | nil => exact ⟨[], rfl, rfl⟩
  | cons a as ih =>
    obtain ⟨v, spelled, meaning⟩ := lawful.faithful a
    obtain ⟨items, written, read⟩ := ih
    refine ⟨⟨Gap.none, v, Gap.none⟩ :: items, ?_, ?_⟩
    · rw [List.map_cons, List.map_cons, written, Item.chars, spelled]
      change ([] ++ c.write a ++ []) :: _ = _
      rw [List.append_nil, List.nil_append]
    · rw [List.mapM_cons, meaning, read]
      rfl

theorem Lawful.sequence {c : Codec α} (lawful : c.Lawful) : c.sequence.Lawful where
  localReader := (Reader.means_sequence lawful.localReader).isLocal
  faithful as := by
    obtain ⟨items, written, read⟩ := lawful.exists_items as
    refine ⟨.sequence Gap.none items, ?_,
      ((Reader.means_sequence lawful.localReader).value?_eq _).trans read⟩
    have spelled := Spelling.chars_sequence Gap.none items []
    rw [List.append_nil, itemsLeft, partsLeft, if_pos rfl, written] at spelled
    exact spelled

end Codec

/-! ## Records -/

structure Field.Lawful (field : Field α) : Prop where
  codec : field.codec.Lawful
  /-- A value that is not written is the default. -/
  omitted : ∀ a, field.omits a = true → field.default = some a

namespace Fields

def Lawful : {αs : List Type} → Fields αs → Prop
  | _, .nil => True
  | _, .cons field rest => field.Lawful ∧ rest.Lawful

theorem Lawful.isLocal {fields : Fields αs} (lawful : fields.Lawful) : fields.Local := by
  induction fields with
  | nil => exact trivial
  | cons field rest ih => exact ⟨lawful.1.codec.localReader, ih lawful.2⟩

/-- A member of another key changes nothing. -/
theorem settle_cons_of_ne {fields : Fields αs} {entry : Entry Spelling}
    (other : ∀ key ∈ fields.keys, entry.key? ≠ some key) (entries : List (Entry Spelling)) :
    fields.settle (entry :: entries) = fields.settle entries := by
  induction fields with
  | nil => rfl
  | cons field rest ih =>
    rw [settle, settle, said_cons_of_ne (other field.key List.mem_cons_self),
      ih fun key member => other key (List.mem_cons_of_mem _ member)]

theorem exists_entry {field : Field α} {a : α} {v : Spelling} (spells : field.codec.Spells a v) :
    ∃ entry : Entry Spelling, entry.chars = quoted field.key ++ ':' :: field.codec.write a ∧
      entry.key? = some field.key ∧ entry.value = v := by
  obtain ⟨strokes, spelled, read⟩ := exists_quoted field.key
  refine ⟨⟨Gap.none, strokes, Gap.none, Gap.none, v, Gap.none⟩, ?_, read, rfl⟩
  rw [Entry.chars, Entry.keyed, spelled, spells.1]
  simp [Gap.none]

theorem Lawful.exists_entries {fields : Fields αs} (lawful : fields.Lawful)
    (distinct : fields.keys.Nodup) (values : Values αs) :
    ∃ entries : List (Entry Spelling), entries.map Entry.chars = fields.writeMembers values ∧
      (∀ entry ∈ entries, ∃ key ∈ fields.keys, entry.key? = some key) ∧
      fields.settle entries = some values := by
  induction fields with
  | nil => exact ⟨[], rfl, nofun, rfl⟩
  | cons field rest ih =>
    obtain ⟨a, values⟩ := values
    obtain ⟨unlike, others⟩ := List.nodup_cons.mp distinct
    obtain ⟨entries, written, keyed, settled⟩ := ih lawful.2 others values
    have unsaid : said field.key entries = [] := by
      rw [said, List.map_eq_nil_iff, List.filter_eq_nil_iff]
      intro entry member
      obtain ⟨key, among, reads⟩ := keyed entry member
      rw [decide_eq_true_eq, reads]
      rintro ⟨rfl⟩
      exact unlike among
    by_cases omitted : field.omits a = true
    · refine ⟨entries, ?_, ?_, ?_⟩
      · rw [written]
        exact (if_pos omitted).symm
      · intro entry member
        obtain ⟨key, among, reads⟩ := keyed entry member
        exact ⟨key, List.mem_cons_of_mem _ among, reads⟩
      · rw [settle, unsaid, Field.settle, lawful.1.omitted a omitted, settled]
        rfl
    · obtain ⟨v, spells⟩ := lawful.1.codec.faithful a
      obtain ⟨entry, spelled, reads, rfl⟩ := exists_entry spells
      refine ⟨entry :: entries, ?_, ?_, ?_⟩
      · rw [List.map_cons, spelled, written]
        exact (if_neg omitted).symm
      · intro other member
        rcases List.mem_cons.mp member with rfl | later
        · exact ⟨field.key, List.mem_cons_self, reads⟩
        · obtain ⟨key, among, reads⟩ := keyed other later
          exact ⟨key, List.mem_cons_of_mem _ among, reads⟩
      · have apart : ∀ key ∈ rest.keys, entry.key? ≠ some key := by
          intro key among same
          rw [reads] at same
          exact unlike (Option.some.inj same ▸ among)
        rw [settle, said_cons_of_eq reads, unsaid, Field.settle, spells.2, settle_cons_of_ne apart,
          settled]
        rfl

theorem Lawful.record {fields : Fields αs} (lawful : fields.Lawful)
    (distinct : fields.keys.Nodup) (name : String) : (fields.record name).Lawful where
  localReader := (means_record lawful.isLocal distinct name).isLocal
  faithful values := by
    obtain ⟨entries, written, keyed, settled⟩ := lawful.exists_entries distinct values
    have legible : ∀ entry ∈ entries, entry.key?.isSome = true := by
      intro entry member
      obtain ⟨key, -, reads⟩ := keyed entry member
      rw [reads]
      rfl
    refine ⟨.map Gap.none entries, ?_, ?_⟩
    · have spelled := Spelling.chars_map Gap.none entries []
      rw [List.append_nil, entriesLeft, partsLeft, if_pos rfl, written] at spelled
      exact spelled
    · rw [(means_record lawful.isLocal distinct name).value?_eq, recordOf, if_pos legible]
      exact settled

end Fields

end Roster.Json
