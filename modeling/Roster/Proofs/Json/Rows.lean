import Mathlib.Data.List.Forall2
import Mathlib.Tactic.Choose
import Roster.Proofs.Json.Objects

/-!
Records as rows. A sequence of values for the first fields of a record makes of it what an object
with just these members makes of it. Nothing is made of it where a field without a default is left
over, or a value. Since this holds of the records within a value too, a document may spell some of
its records as rows and others as objects.
-/

namespace Roster.Json

variable {α β : Type} {αs : List Type}

/-- A sequence as it may be spelled, with white space around it. -/
structure Row where
  before : Gap
  inner : Gap
  items : List (Item Spelling)
  after : Gap

namespace Row

def document (row : Row) : String :=
  Spelling.document row.before (.sequence row.inner row.items) row.after

def values (row : Row) : List Spelling :=
  row.items.map Item.value

end Row

/-! ## Columns -/

/-- What the records within a value leave open about its spelling, and which spellings of the value
cannot be read because of them. -/
structure Nesting where
  varies : Spelling → Spelling → Prop
  refl : ∀ v, varies v v
  spoils : Spelling → Prop

/-- A field as documents know it. -/
structure Column where
  key : String
  /-- Whether there is no default. -/
  required : Bool
  nesting : Nesting

/-- The members of a map are those for the values of the first columns, in any order. -/
structure Holds (columns : List Column) (values : List Spelling)
    (entries : List (Entry Spelling)) : Prop where
  within : values.length ≤ columns.length
  members : (entries.map fun entry => (entry.key?, entry.value)).Perm
    ((columns.zip values).map fun given => (some given.1.key, given.2))

/-- Both spellings of a record. -/
inductive Tells (columns : List Column) (values : List Spelling) : Spelling → Prop where
  | row (inner : Gap) {items : List (Item Spelling)} (given : items.map Item.value = values) :
    Tells columns values (.sequence inner items)
  | object (inner : Gap) {entries : List (Entry Spelling)} (given : Holds columns values entries) :
    Tells columns values (.map inner entries)

/-- Values that differ from others as their columns allow it. -/
inductive Varied : List Column → List Spelling → List Spelling → Prop where
  | nil (columns : List Column) : Varied columns [] []
  | cons {column : Column} {columns : List Column} {v v' : Spelling}
    {values values' : List Spelling} (here : column.nesting.varies v v')
    (later : Varied columns values values') :
    Varied (column :: columns) (v :: values) (v' :: values')

variable {column : Column} {columns : List Column} {v v' : Spelling}
  {values values' : List Spelling} {entries : List (Entry Spelling)}

theorem Varied.refl (within : values.length ≤ columns.length) : Varied columns values values := by
  induction values generalizing columns with
  | nil => exact .nil columns
  | cons v values ih =>
    cases columns with
    | nil => cases within
    | cons column columns =>
      exact .cons (column.nesting.refl v) (ih (Nat.le_of_succ_le_succ within))

/-- Values that no record can be made of. -/
inductive Spoilt (columns : List Column) (values : List Spelling) : Prop where
  | long (longer : columns.length < values.length)
  | short {column : Column} (left : column ∈ columns.drop values.length)
    (required : column.required = true)
  | within {column : Column} {v : Spelling} (given : (column, v) ∈ columns.zip values)
    (spoils : column.nesting.spoils v)

namespace Spoilt

theorem not_nil : ¬Spoilt [] [] := by
  rintro (longer | left | given)
  · cases longer
  · cases left
  · cases given

theorem of_nil (spoilt : Spoilt (column :: columns) []) :
    column.required = true ∨ Spoilt columns [] := by
  cases spoilt with
  | long longer => cases longer
  | short left required =>
    rcases List.mem_cons.mp left with rfl | later
    · exact .inl required
    · exact .inr (.short later required)
  | within given => cases given

theorem of_cons (spoilt : Spoilt (column :: columns) (v :: values)) :
    column.nesting.spoils v ∨ Spoilt columns values := by
  cases spoilt with
  | long longer => exact .inr (.long (Nat.lt_of_succ_lt_succ longer))
  | short left required => exact .inr (.short left required)
  | within given spoils =>
    rcases List.mem_cons.mp given with same | later
    · cases same
      exact .inl spoils
    · exact .inr (.within later spoils)

end Spoilt

namespace Nesting

/-- No records stand in the value. -/
def plain : Nesting where
  varies := Eq
  refl _ := rfl
  spoils _ := False

/-- The items of a sequence vary one by one. -/
def items (each : Nesting) : Nesting where
  varies v v' := v = v' ∨ ∃ inner inner' items items',
    v = .sequence inner items ∧ v' = .sequence inner' items' ∧
      List.Forall₂ (fun item item' => each.varies item.value item'.value) items items'
  refl _ := .inl rfl
  spoils v := ∃ inner items, v = .sequence inner items ∧ ∃ item ∈ items, each.spoils item.value

/-- The value is itself a record, and may change from one spelling to the other. -/
def record (columns : List Column) : Nesting where
  varies v v' := v = v' ∨ ∃ values values',
    Tells columns values v ∧ Tells columns values' v' ∧ Varied columns values values'
  refl _ := .inl rfl
  spoils v := ∃ values, Tells columns values v ∧ Spoilt columns values

end Nesting

/-- A column whose values have no records in them. -/
def Column.plain (key : String) (required : Bool) : Column where
  key
  required
  nesting := .plain

/-- A row is accepted exactly if it is not too long, every part that is left over has a default, and
every value is accepted as that of the part in its place. -/
def Codec.AcceptsRows (codec : Codec α) (parts : List (Constituent α)) : Prop :=
  ∀ row : Row, (∃ a, codec.decode row.document = .ok a) ↔
    row.values.length ≤ parts.length ∧
      (∀ part ∈ parts.drop row.values.length, part.field.default ≠ none) ∧
      ∀ given ∈ parts.zip row.values, ∃ b, given.1.decode given.2 = .ok b

/-- The codec reads rows of the given parts, whose columns these are, as it reads objects. -/
structure Codec.ReadsRows (codec : Codec α) (parts : List (Constituent α))
    (columns : List Column) : Prop where
  accepts : codec.AcceptsRows parts
  /-- The values of a row that is not too long can be given by an object. -/
  possible : ∀ row : Row, row.values.length ≤ columns.length →
    ∃ o : Object, Holds columns row.values o.entries
  /-- The row and the object are read as the same, or neither is accepted. -/
  agrees : ∀ (row : Row) (o : Object), Holds columns row.values o.entries →
    (codec.decode row.document).toOption = (codec.decode o.document).toOption
  short : ∀ row : Row, (∃ column ∈ columns.drop row.values.length, column.required = true) →
    ∃ error, codec.decode row.document = .error error
  long : ∀ row : Row, columns.length < row.values.length →
    ∃ error, codec.decode row.document = .error error
  /-- The spelling of the record and of all records within it may be chosen one by one. -/
  mixes : ∀ (before before' : Gap) (v v' : Spelling) (after after' : Gap),
    (Nesting.record columns).varies v v' →
      (codec.decode (Spelling.document before v after)).toOption =
        (codec.decode (Spelling.document before' v' after')).toOption
  /-- A row within the record that is too short or too long is not accepted either. -/
  refuses : ∀ (before : Gap) (v : Spelling) (after : Gap), (Nesting.record columns).spoils v →
    ∃ error, codec.decode (Spelling.document before v after) = .error error

/-! ## The members of an object -/

/-- The values of a row for a key. -/
def told (columns : List Column) (values : List Spelling) (key : String) : List Spelling :=
  ((columns.zip values).filter fun given => given.1.key = key).map Prod.snd

theorem told_nil (columns : List Column) (key : String) : told columns [] key = [] := by
  rw [told, List.zip_nil_right]
  rfl

theorem told_cons_of_ne {key : String} (other : column.key ≠ key) :
    told (column :: columns) (v :: values) key = told columns values key := by
  rw [told, List.zip_cons_cons, List.filter_cons, if_neg (by rwa [decide_eq_true_eq])]
  rfl

theorem told_of_not_mem {key : String} (unlike : key ∉ columns.map Column.key) :
    told columns values key = [] := by
  rw [told, List.map_eq_nil_iff, List.filter_eq_nil_iff]
  rintro ⟨column, v⟩ given same
  have known : column ∈ columns := (List.of_mem_zip given).1
  exact unlike (List.mem_map.mpr ⟨column, known, of_decide_eq_true same⟩)

theorem told_cons_self (unlike : column.key ∉ columns.map Column.key) :
    told (column :: columns) (v :: values) column.key = [v] := by
  have others : told columns values column.key = [] := told_of_not_mem unlike
  rw [told] at others
  rw [told, List.zip_cons_cons, List.filter_cons, if_pos (decide_eq_true rfl), List.map_cons,
    others]

namespace Holds

theorem said_perm (holds : Holds columns values entries) (key : String) :
    (said key entries).Perm (told columns values key) := by
  have chosen := (holds.members.filter fun given => given.1 = some key).map Prod.snd
  simp only [List.filter_map, List.map_map, Function.comp_def, Option.some.injEq] at chosen
  exact chosen

theorem legible (holds : Holds columns values entries) :
    ∀ entry ∈ entries, entry.key?.isSome = true := by
  intro entry member
  have listed := holds.members.subset (List.mem_map_of_mem member)
  obtain ⟨given, -, same⟩ := List.mem_map.mp listed
  have named : some given.1.key = entry.key? := congrArg Prod.fst same
  rw [← named]
  rfl

end Holds

theorem exists_holds (within : values.length ≤ columns.length) :
    ∃ o : Object, Holds columns values o.entries := by
  choose strokes spelled reads using exists_quoted
  let member (given : Column × Spelling) : Entry Spelling :=
    ⟨Gap.none, strokes given.1.key, Gap.none, Gap.none, given.2, Gap.none⟩
  have holds : Holds columns values ((columns.zip values).map member) := by
    refine ⟨within, .of_eq ?_⟩
    rw [List.map_map]
    apply List.map_congr_left
    intro given _
    exact congrArg (·, given.2) (reads given.1.key)
  exact ⟨⟨Gap.none, Gap.none, _, Gap.none, holds.legible⟩, holds⟩

/-! ## Readers -/

/-- The reader makes the same of spellings that may vary, and nothing of spoilt ones. -/
structure Reader.Keeps (r : Reader α) (nesting : Nesting) : Prop where
  varies : ∀ {v v'}, nesting.varies v v' → r.value? v = r.value? v'
  spoils : ∀ {v}, nesting.spoils v → r.value? v = none

namespace Reader

theorem keeps_plain (r : Reader α) : r.Keeps .plain where
  varies same := congrArg r.value? same
  spoils := False.elim

variable {r : Reader α} {nesting : Nesting}

theorem Keeps.map (keeps : r.Keeps nesting) (f : α → β) : (r.map f).Keeps nesting where
  varies varied := by rw [value?_map, value?_map, keeps.varies varied]
  spoils spoilt := by rw [value?_map, keeps.spoils spoilt]; rfl

theorem Keeps.mapM_items (keeps : r.Keeps nesting) {items items' : List (Item Spelling)}
    (varied : List.Forall₂ (fun item item' => nesting.varies item.value item'.value) items items') :
    (items.mapM fun item => r.value? item.value) =
      items'.mapM fun item => r.value? item.value := by
  induction varied with
  | nil => rfl
  | cons here _ ih => rw [List.mapM_cons, List.mapM_cons, keeps.varies here, ih]

theorem Keeps.mapM_none (keeps : r.Keeps nesting) {items : List (Item Spelling)}
    {item : Item Spelling} (member : item ∈ items) (spoilt : nesting.spoils item.value) :
    (items.mapM fun item => r.value? item.value) = none := by
  induction items with
  | nil => cases member
  | cons first others ih =>
    rw [List.mapM_cons]
    cases member with
    | head => rw [keeps.spoils spoilt]; rfl
    | tail _ later =>
      rw [ih later]
      cases r.value? first.value <;> rfl

theorem Keeps.sequence (keeps : r.Keeps nesting) (localReader : r.Local) :
    (Reader.sequence r).Keeps nesting.items where
  varies := by
    have read := (means_sequence localReader).value?_eq
    rintro v v' (rfl | ⟨inner, inner', items, items', rfl, rfl, varied⟩)
    · rfl
    · rw [read, read]
      exact keeps.mapM_items varied
  spoils := by
    rintro v ⟨inner, items, rfl, item, member, spoilt⟩
    rw [(means_sequence localReader).value?_eq]
    exact keeps.mapM_none member spoilt

end Reader

/-! ## Records -/

namespace Fields

/-- The columns are those of the fields, one by one. -/
inductive Fits : {αs : List Type} → Fields αs → List Column → Prop where
  | nil : Fits .nil []
  | cons {α : Type} {αs : List Type} {field : Field α} {rest : Fields αs} {column : Column}
    {columns : List Column} (key : field.key = column.key)
    (required : column.required = field.default.isNone)
    (keeps : field.codec.reader.Keeps column.nesting) (others : rest.Fits columns) :
    Fits (.cons field rest) (column :: columns)

theorem Fits.plain {field : Field α} {rest : Fields αs} {key : String} {required : Bool}
    (named : field.key = key) (needed : required = field.default.isNone)
    (others : rest.Fits columns) : (Fields.cons field rest).Fits (.plain key required :: columns) :=
  .cons named needed (Reader.keeps_plain _) others

variable {fields : Fields αs}

theorem Fits.keys (fits : fields.Fits columns) : fields.keys = columns.map Column.key := by
  induction fits with
  | nil => rfl
  | cons key _ _ _ ih => rw [Fields.keys, key, ih, List.map_cons]

theorem settleRow_varied (fits : fields.Fits columns) (varied : Varied columns values values') :
    fields.settleRow values = fields.settleRow values' := by
  induction fits generalizing values values' with
  | nil => cases varied; rfl
  | cons _ _ keeps _ ih =>
    cases varied with
    | nil => rfl
    | cons here later => rw [settleRow, settleRow, keeps.varies here, ih later]

theorem settleRow_spoilt (fits : fields.Fits columns) (spoilt : Spoilt columns values) :
    fields.settleRow values = none := by
  induction fits generalizing values with
  | nil =>
    cases values with
    | nil => exact absurd spoilt Spoilt.not_nil
    | cons => rfl
  | @cons _ _ field _ _ _ _ required keeps _ ih =>
    cases values with
    | nil =>
      rw [settleRow]
      rcases spoilt.of_nil with needed | later
      · rw [Option.isNone_iff_eq_none.mp (required.symm.trans needed)]
        rfl
      · rw [ih later]
        cases field.default <;> rfl
    | cons v values =>
      rw [settleRow]
      rcases spoilt.of_cons with here | later
      · rw [keeps.spoils here]
        rfl
      · rw [ih later]
        cases field.codec.reader.value? v <;> rfl

/-- The members settle the fields as the row does, column by column. -/
theorem settle_eq_settleRow (fits : fields.Fits columns)
    (distinct : (columns.map Column.key).Nodup) (within : values.length ≤ columns.length)
    (gives : ∀ column ∈ columns,
      (said column.key entries).Perm (told columns values column.key)) :
    fields.settle entries = fields.settleRow values := by
  induction fits generalizing values with
  | nil =>
    cases List.length_eq_zero_iff.mp (Nat.le_zero.mp within)
    rfl
  | @cons _ _ field rest column columns key _ _ _ ih =>
    obtain ⟨unlike, apart⟩ := List.nodup_cons.mp distinct
    obtain ⟨here, later⟩ := List.forall_mem_cons.mp gives
    cases values with
    | nil =>
      rw [told_nil] at here
      have others := ih apart (Nat.zero_le _) fun other member => by
        rw [told_nil, ← told_nil (column :: columns)]
        exact later other member
      rw [settle, settleRow, key, here.eq_nil, Field.settle, others]
    | cons v values =>
      rw [told_cons_self unlike] at here
      have others := ih apart (Nat.le_of_succ_le_succ within) fun other member => by
        have unequal : column.key ≠ other.key := fun same =>
          unlike (same ▸ List.mem_map_of_mem member)
        rw [← told_cons_of_ne unequal]
        exact later other member
      rw [settle, settleRow, key, List.perm_singleton.mp here, Field.settle, others]

/-- A row settles the fields if each value settles the field in its place. -/
theorem exists_settleRow_iff {project : α → Values αs} :
    (∃ settled, fields.settleRow values = some settled) ↔
      values.length ≤ (fields.partsOf project).length ∧
        (∀ part ∈ (fields.partsOf project).drop values.length, part.field.default ≠ none) ∧
        ∀ given ∈ (fields.partsOf project).zip values,
          ∃ b, given.1.field.codec.reader.value? given.2 = some b := by
  induction fields generalizing values with
  | nil =>
    cases values with
    | nil => exact ⟨fun _ => ⟨Nat.le_refl 0, nofun, nofun⟩, fun _ => ⟨(), rfl⟩⟩
    | cons v values =>
      constructor
      · rintro ⟨_, settled⟩
        cases settled
      · rintro ⟨within, -⟩
        cases within
  | cons field rest ih =>
    cases values with
    | nil =>
      have later := @ih [] fun a => (project a).2
      simp only [partsOf, List.length_nil, Nat.zero_le, List.drop_zero, List.zip_nil_right,
        List.forall_mem_cons, true_and] at later ⊢
      rw [settleRow, exists_pair_iff, later, Option.ne_none_iff_exists', and_assoc]
    | cons v values =>
      have later := @ih values fun a => (project a).2
      simp only [partsOf, List.length_cons, Nat.succ_le_succ_iff, List.drop_succ_cons,
        List.zip_cons_cons, List.forall_mem_cons]
      rw [settleRow, exists_pair_iff, later]
      constructor
      · rintro ⟨here, within, left, given⟩
        exact ⟨within, left, here, given⟩
      · rintro ⟨within, left, here, given⟩
        exact ⟨here, within, left, given⟩

theorem recordOf_tells (fits : fields.Fits columns) (distinct : fields.keys.Nodup)
    (tells : Tells columns values v) : fields.recordOf v = fields.settleRow values := by
  cases tells with
  | row inner given => rw [recordOf, given]
  | object inner holds =>
    rw [recordOf, if_pos holds.legible]
    exact settle_eq_settleRow fits (fits.keys ▸ distinct) holds.within
      fun column _ => holds.said_perm column.key

theorem keeps_record (fits : fields.Fits columns) (each : fields.Local)
    (distinct : fields.keys.Nodup) (name : String) (wrapped : Values αs → α)
    (bare : α → Values αs) :
    ((fields.record name).wrap wrapped bare).reader.Keeps (.record columns) := by
  have read := (means_record each distinct name).value?_eq
  refine Reader.Keeps.map ⟨?_, ?_⟩ wrapped
  · rintro v v' (rfl | ⟨values, values', tells, tells', varied⟩)
    · rfl
    · rw [read, read, recordOf_tells fits distinct tells, recordOf_tells fits distinct tells',
        settleRow_varied fits varied]
  · rintro v ⟨values, tells, spoilt⟩
    rw [read, recordOf_tells fits distinct tells, settleRow_spoilt fits spoilt]

end Fields

/-- What rows have in common with objects follows from what the reader keeps to. -/
theorem Codec.readsRows_of_keeps {codec : Codec α} {parts : List (Constituent α)}
    (localReader : codec.reader.Local) (keeps : codec.reader.Keeps (.record columns))
    (accepts : codec.AcceptsRows parts) : codec.ReadsRows parts columns := by
  have mixes (before before' : Gap) (v v' : Spelling) (after after' : Gap)
      (varied : (Nesting.record columns).varies v v') :
      (codec.decode (Spelling.document before v after)).toOption =
        (codec.decode (Spelling.document before' v' after')).toOption := by
    rw [decode_document localReader, decode_document localReader, keeps.varies varied]
  have refuses (before : Gap) (v : Spelling) (after : Gap)
      (spoilt : (Nesting.record columns).spoils v) :
      ∃ error, codec.decode (Spelling.document before v after) = .error error := by
    have refused := decode_document localReader before v after
    rw [keeps.spoils spoilt] at refused
    cases outcome : codec.decode (Spelling.document before v after) with
    | error error => exact ⟨error, rfl⟩
    | ok a => rw [outcome] at refused; cases refused
  refine ⟨accepts, fun _ => exists_holds, fun row o holds => ?_, fun row left => ?_,
    fun row longer => ?_, mixes, refuses⟩
  · exact mixes _ _ _ _ _ _ (.inr ⟨_, _, .row row.inner rfl, .object o.inner holds,
      .refl holds.within⟩)
  · obtain ⟨column, left, required⟩ := left
    exact refuses _ _ _ ⟨_, .row row.inner rfl, .short left required⟩
  · exact refuses _ _ _ ⟨_, .row row.inner rfl, .long longer⟩

namespace Fields

variable {fields : Fields αs}

theorem acceptsRows (each : fields.Local) (distinct : fields.keys.Nodup) (name : String)
    (wrapped : Values αs → α) (project : α → Values αs) :
    ((fields.record name).wrap wrapped project).AcceptsRows (fields.partsOf project) := by
  intro row
  have means := Reader.means_map (means_record each distinct name) wrapped
  have localReader : ((fields.record name).wrap wrapped project).reader.Local := means.isLocal
  have decoded : (((fields.record name).wrap wrapped project).decode row.document).toOption =
      (fields.settleRow row.values).map wrapped := by
    rw [Row.document, Codec.decode_document localReader]
    exact means.value?_eq _
  have each_accepted (given : Constituent α × Spelling)
      (among : given ∈ (fields.partsOf project).zip row.values) :
      (∃ b, given.1.decode given.2 = .ok b) ↔
        ∃ b, given.1.field.codec.reader.value? given.2 = some b := by
    have decoded := Codec.decode_written (each.part (List.of_mem_zip among).1) given.2
    simp only [← decoded, toOption_eq_some]
    rfl
  rw [exists_ok_iff decoded, exists_settleRow_iff, forall₂_congr each_accepted]

theorem readsRows (fits : fields.Fits columns) (each : fields.Local)
    (distinct : fields.keys.Nodup) (name : String) {wrapped : Values αs → α}
    {project : α → Values αs} :
    ((fields.record name).wrap wrapped project).ReadsRows (fields.partsOf project) columns :=
  Codec.readsRows_of_keeps (Reader.means_map (means_record each distinct name) wrapped).isLocal
    (keeps_record fits each distinct name wrapped project)
    (acceptsRows each distinct name wrapped project)

end Fields

end Roster.Json
