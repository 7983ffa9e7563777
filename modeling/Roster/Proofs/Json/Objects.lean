import Roster.Proofs.Json.Lawful

/-!
How a record is read from an object, said of documents alone: which objects are accepted, what their
members make of the record, and what does not matter. Members with unknown keys may stand anywhere
and hold any value, and members come in any order.
-/

namespace Roster.Json

variable {α β : Type} {αs : List Type}

/-- An object as it may be spelled, with white space around it. Its keys may be any texts. -/
structure Object where
  before : Gap
  inner : Gap
  entries : List (Entry Spelling)
  after : Gap
  legible : ∀ entry ∈ entries, entry.key?.isSome = true

namespace Object

def document (o : Object) : String :=
  Spelling.document o.before (.map o.inner o.entries) o.after

/-- The values that the object gives for a key, in their order. -/
def said (o : Object) (key : String) : List Spelling :=
  Json.said key o.entries

end Object

/-- A field of a record, and where the record holds its value. -/
structure Constituent (α : Type) where
  {β : Type}
  field : Field β
  get : α → β

namespace Constituent

def key (part : Constituent α) : String :=
  part.field.key

def decode (part : Constituent α) (v : Spelling) : Except DecodeError part.β :=
  part.field.codec.decode v.written

end Constituent

/-- The codec reads objects by the given parts. The `optionals` are keys that may be `null`. -/
structure Codec.ReadsObjects (codec : Codec α) (parts : List (Constituent α))
    (optionals : List String) : Prop where
  /-- An object is accepted exactly if no known key is repeated, every part without a default is
  there, and every known value is accepted. -/
  accepts : ∀ o : Object, (∃ a, codec.decode o.document = .ok a) ↔
    ∀ part ∈ parts, (o.said part.key).length ≤ 1 ∧
      (part.field.default = none → o.said part.key ≠ []) ∧
      ∀ v ∈ o.said part.key, ∃ b, part.decode v = .ok b
  /-- A part that is there holds its value, and one that is not holds its default. -/
  reads : ∀ (o : Object) (a : α), codec.decode o.document = .ok a → ∀ part ∈ parts,
    (∀ v ∈ o.said part.key, part.decode v = .ok (part.get a)) ∧
      (o.said part.key = [] → part.field.default = some (part.get a))
  /-- Only what is said for known keys counts, in any order and spelling. -/
  depends : ∀ o o' : Object,
    (∀ part ∈ parts, ((o.said part.key).map fun v => (part.decode v).toOption).Perm
      ((o'.said part.key).map fun v => (part.decode v).toOption)) →
    (codec.decode o.document).toOption = (codec.decode o'.document).toOption
  /-- An optional value that is `null` might as well not be there. -/
  null_absent : ∀ key ∈ optionals, ∀ o o' : Object, o.said key = [.null] → o'.said key = [] →
    (∀ part ∈ parts, part.key ≠ key → o.said part.key = o'.said part.key) →
    (codec.decode o.document).toOption = (codec.decode o'.document).toOption

/-! ## One field -/

namespace Field

variable {field : Field α}

theorem exists_settle_iff (localReader : field.codec.reader.Local) (values : List Spelling) :
    (∃ a, field.settle values = some a) ↔
      values.length ≤ 1 ∧ (field.default = none → values ≠ []) ∧
        ∀ v ∈ values, ∃ a, field.codec.decode v.written = .ok a := by
  match values with
  | [] =>
    constructor
    · rintro ⟨a, standing⟩
      refine ⟨Nat.zero_le 1, fun missing => ?_, nofun⟩
      rw [settle, missing] at standing
      cases standing
    · rintro ⟨-, present, -⟩
      cases default : field.default with
      | none => exact absurd rfl (present default)
      | some a => exact ⟨a, default⟩
  | [v] =>
    have decoded := Codec.decode_written localReader v
    constructor
    · rintro ⟨a, read⟩
      rw [settle, ← decoded, toOption_eq_some] at read
      refine ⟨Nat.le_refl 1, fun _ => List.cons_ne_nil v [], fun w member => ?_⟩
      rw [List.mem_singleton.mp member]
      exact ⟨a, read⟩
    · rintro ⟨-, -, each⟩
      obtain ⟨a, read⟩ := each v List.mem_cons_self
      exact ⟨a, by rw [settle, ← decoded, read]; rfl⟩
  | v :: w :: more =>
    constructor
    · rintro ⟨a, repeated⟩
      cases repeated
    · rintro ⟨single, -⟩
      exact absurd single (by simp)

theorem of_settle (localReader : field.codec.reader.Local) {values : List Spelling} {a : α}
    (settled : field.settle values = some a) :
    (∀ v ∈ values, field.codec.decode v.written = .ok a) ∧
      (values = [] → field.default = some a) := by
  rcases values with - | ⟨v, - | ⟨w, more⟩⟩
  · exact ⟨fun _ member => absurd member List.not_mem_nil, fun _ => settled⟩
  · rw [settle, ← Codec.decode_written localReader v, toOption_eq_some] at settled
    refine ⟨fun w member => ?_, fun none_given => absurd none_given (List.cons_ne_nil v [])⟩
    rw [List.mem_singleton.mp member]
    exact settled
  · cases settled

/-- Values given for one field count by what they mean, and two of them fail in any order. -/
theorem settle_of_perm {values values' : List Spelling}
    (same : (values.map field.codec.reader.value?).Perm (values'.map field.codec.reader.value?)) :
    field.settle values = field.settle values' := by
  have long := same.length_eq
  rw [List.length_map, List.length_map] at long
  match values, values' with
  | [], [] => rfl
  | [v], [w] => exact List.singleton_inj.mp (List.perm_singleton.mp same)
  | v :: w :: more, v' :: w' :: more' => rfl
  | [], _ :: _ | _ :: _, [] | [_], _ :: _ :: _ | _ :: _ :: _, [_] => simp at long

end Field

/-! ## All fields -/

namespace Fields

/-- The fields as parts of a record that has a value for each of them. -/
def partsOf : {αs : List Type} → Fields αs → (α → Values αs) → List (Constituent α)
  | _, .nil, _ => []
  | _, .cons field rest, project =>
    ⟨field, fun a => (project a).1⟩ :: rest.partsOf fun a => (project a).2

variable {fields : Fields αs} {project : α → Values αs} {entries entries' : List (Entry Spelling)}

theorem Local.part (each : fields.Local) {part : Constituent α}
    (member : part ∈ fields.partsOf project) : part.field.codec.reader.Local := by
  induction fields with
  | nil => cases member
  | cons field rest ih =>
    cases member with
    | head => exact each.1
    | tail _ later => exact ih each.2 later

theorem exists_settle_iff :
    (∃ values, fields.settle entries = some values) ↔
      ∀ part ∈ fields.partsOf project, ∃ b, part.field.settle (said part.key entries) = some b := by
  induction fields with
  | nil => exact ⟨fun _ => nofun, fun _ => ⟨(), rfl⟩⟩
  | cons field rest ih =>
    rw [partsOf, List.forall_mem_cons, ← ih]
    exact exists_pair_iff

theorem of_settle {a : α} (settled : fields.settle entries = some (project a)) :
    ∀ part ∈ fields.partsOf project,
      part.field.settle (said part.key entries) = some (part.get a) := by
  induction fields with
  | nil => exact nofun
  | cons field rest ih =>
    obtain ⟨b, here, settled⟩ := Option.bind_eq_some_iff.mp settled
    obtain ⟨others, later, same⟩ := Option.map_eq_some_iff.mp settled
    rw [partsOf, List.forall_mem_cons]
    constructor
    · change field.settle (said field.key entries) = some (project a).1
      rw [here, ← same]
    · exact ih (by rw [later, ← same])

theorem settle_congr
    (same : ∀ part ∈ fields.partsOf project,
      part.field.settle (said part.key entries) = part.field.settle (said part.key entries')) :
    fields.settle entries = fields.settle entries' := by
  induction fields with
  | nil => rfl
  | cons field rest ih =>
    rw [partsOf, List.forall_mem_cons] at same
    obtain ⟨here, later⟩ := same
    change field.settle (said field.key entries) = field.settle (said field.key entries') at here
    rw [settle, settle, here, ih later]

/-! ## Objects -/

theorem decode_object (each : fields.Local) (distinct : fields.keys.Nodup) (name : String)
    (wrapped : Values αs → α) (project : α → Values αs) (o : Object) :
    (((fields.record name).wrap wrapped project).decode o.document).toOption =
      (fields.settle o.entries).map wrapped := by
  have read := Reader.means_map (means_record each distinct name) wrapped
  have localReader : ((fields.record name).wrap wrapped project).reader.Local := read.isLocal
  rw [Object.document, Codec.decode_document localReader]
  refine (read.value?_eq _).trans ?_
  rw [recordOf, if_pos o.legible]

/-- A record that is wrapped without loss reads objects by its fields. -/
theorem readsObjects (each : fields.Local) (distinct : fields.keys.Nodup) (name : String)
    {wrapped : Values αs → α} (inverse : ∀ values, project (wrapped values) = values)
    {optionals : List String}
    (nullable : ∀ part ∈ fields.partsOf project, part.key ∈ optionals →
      part.field.codec.reader.value? .null = part.field.default) :
    ((fields.record name).wrap wrapped project).ReadsObjects (fields.partsOf project)
      optionals := by
  have decoded := decode_object each distinct name wrapped project
  have agree (o o' : Object) (same : ∀ part ∈ fields.partsOf project,
      part.field.settle (o.said part.key) = part.field.settle (o'.said part.key)) :
      (((fields.record name).wrap wrapped project).decode o.document).toOption =
        (((fields.record name).wrap wrapped project).decode o'.document).toOption := by
    rw [decoded, decoded, settle_congr same]
  refine ⟨fun o => ?_, fun o a accepted part member => ?_, fun o o' same => ?_,
    fun key optional o o' null absent same => ?_⟩
  · rw [exists_ok_iff (decoded o), exists_settle_iff]
    exact forall₂_congr fun part member => Field.exists_settle_iff (each.part member) _
  · rw [← toOption_eq_some, decoded, Option.map_eq_some_iff] at accepted
    obtain ⟨values, settled, rfl⟩ := accepted
    rw [← inverse values] at settled
    exact Field.of_settle (each.part member) (of_settle settled part member)
  · refine agree o o' fun part member => Field.settle_of_perm ?_
    have meanings : (fun v => (part.decode v).toOption) = part.field.codec.reader.value? :=
      funext (Codec.decode_written (each.part member))
    rw [← meanings]
    exact same part member
  · refine agree o o' fun part member => ?_
    by_cases this : part.key = key
    · subst this
      rw [null, absent]
      exact nullable part member optional
    · rw [same part member this]

end Fields

/-! ## Words among the values -/

namespace Codec

/-- The codec reads numbers below `size` that are spelled with digits only. -/
structure ReadsWords (codec : Codec α) (size : Nat) (toNat : α → Nat) : Prop where
  accepts : ∀ v : Spelling, (∃ a, codec.decode v.written = .ok a) ↔
    (∀ c ∈ v.chars, c.isDigit = true) ∧ valueFrom 0 v.chars < size
  reads : ∀ (v : Spelling) (a : α), codec.decode v.written = .ok a →
    toNat a = valueFrom 0 v.chars

/-- Words that are wrapped without loss, in both directions, are read as numbers. -/
theorem readsWords_wrap (bits : Nat) (narrow : bits ≤ 64) {wrapped : BitVec bits → α}
    {bare : α → BitVec bits} (kept : ∀ a, wrapped (bare a) = a) (back : ∀ w, bare (wrapped w) = w) :
    ((Codec.word bits).wrap wrapped bare).ReadsWords (2 ^ bits) fun a => (bare a).toNat := by
  have lawful := (Codec.lawful_word narrow).wrap kept
  have decoded (v : Spelling) (a : α) :
      ((Codec.word bits).wrap wrapped bare).decode v.written = .ok a ↔
        (∀ c ∈ v.chars, c.isDigit = true) ∧ valueFrom 0 v.chars = (bare a).toNat := by
    have read := (Reader.means_map (Reader.means_word narrow) wrapped).value?_eq v
    rw [← Reader.wordOf?_eq_some_iff, ← toOption_eq_some,
      Codec.decode_written lawful.localReader]
    change (Reader.map wrapped (Reader.word bits)).value? v = _ ↔ _
    rw [read, Option.map_eq_some_iff]
    constructor
    · rintro ⟨w, found, rfl⟩
      rw [found, back]
    · exact fun found => ⟨bare a, found, kept a⟩
  refine ⟨fun v => ?_, fun v a read => ((decoded v a).mp read).2.symm⟩
  constructor
  · rintro ⟨a, read⟩
    obtain ⟨digits, value⟩ := (decoded v a).mp read
    exact ⟨digits, by rw [value]; exact (bare a).isLt⟩
  · rintro ⟨digits, below⟩
    refine ⟨wrapped (BitVec.ofNat bits (valueFrom 0 v.chars)), (decoded v _).mpr ⟨digits, ?_⟩⟩
    rw [back, BitVec.toNat_ofNat, Nat.mod_eq_of_lt below]

end Codec

end Roster.Json
