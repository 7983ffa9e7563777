import Roster.Proofs.Json.Meaning
import Roster.Proofs.Json.Skipping

/-!
What a record makes of the members of a map. The members are read one after the other, and each
fills the slot of its field or is skipped. The claim is that the order in which members of different
keys stand does not matter: every field is settled by the values given for its own key.
-/

namespace Roster.Json

variable {α : Type} {αs : List Type}

/-- What a key says, unless halves of surrogate pairs stand alone in it. -/
def Entry.key? (entry : Entry α) : Option String :=
  (unite entry.strokes).map String.ofList

/-- The values that the members of a map give for a key, in their order. -/
def said (key : String) (entries : List (Entry α)) : List α :=
  (entries.filter fun entry => entry.key? = some key).map Entry.value

theorem said_cons_of_eq {key : String} {entry : Entry α} (same : entry.key? = some key)
    (entries : List (Entry α)) : said key (entry :: entries) = entry.value :: said key entries := by
  rw [said, List.filter_cons, if_pos (decide_eq_true same)]
  rfl

theorem said_cons_of_ne {key : String} {entry : Entry α} (other : entry.key? ≠ some key)
    (entries : List (Entry α)) : said key (entry :: entries) = said key entries := by
  rw [said, List.filter_cons, if_neg (by rwa [decide_eq_true_eq])]
  rfl

/-- What the values given for a field make of it. Without any the default stands, and more than one
are too many. -/
def Field.settle (field : Field α) : List Spelling → Option α
  | [] => field.default
  | [v] => field.codec.reader.value? v
  | _ => none

namespace Fields

def keys : {αs : List Type} → Fields αs → List String
  | _, .nil => []
  | _, .cons field rest => field.key :: rest.keys

/-- What the members of a map make of all fields. -/
def settle : {αs : List Type} → Fields αs → List (Entry Spelling) → Option (Values αs)
  | _, .nil, _ => some ()
  | _, .cons field rest, entries =>
    (field.settle (said field.key entries)).bind fun a => (rest.settle entries).map (a, ·)

def Local : {αs : List Type} → Fields αs → Prop
  | _, .nil => True
  | _, .cons field rest => field.codec.reader.Local ∧ rest.Local

/-! ## One member -/

theorem member_cons_of_eq (field : Field α) (rest : Fields αs) (slot : Option α)
    (slots : Slots αs) :
    (Fields.cons field rest).member field.key (slot, slots) =
      match slot with
      | some _ => .repeated
      | none => .known (field.codec.reader.map fun a => (some a, slots)) :=
  if_pos rfl

theorem member_cons_of_ne (field : Field α) (rest : Fields αs) (slot : Option α)
    (slots : Slots αs) {key : String} (other : key ≠ field.key) :
    (Fields.cons field rest).member key (slot, slots) =
      match rest.member key slots with
      | .unknown => .unknown
      | .repeated => .repeated
      | .known reader => .known (reader.map fun slots => (slot, slots)) :=
  if_neg other

theorem Local.member {fields : Fields αs} (each : fields.Local) {key : String} {slots : Slots αs}
    {reader : Reader (Slots αs)} (known : fields.member key slots = .known reader) :
    reader.Local := by
  induction fields with
  | nil => cases known
  | cons field rest ih =>
    obtain ⟨slot, slots⟩ := slots
    by_cases same : key = field.key
    · rw [same, member_cons_of_eq] at known
      cases slot with
      | some => cases known
      | none =>
        cases known
        exact (Reader.means_map each.1 _).isLocal
    · rw [member_cons_of_ne field rest slot slots same] at known
      split at known
      next => cases known
      next => cases known
      next found =>
        cases known
        exact (Reader.means_map (ih each.2 found) _).isLocal

theorem member_of_not_mem {fields : Fields αs} {key : String} (unknown : key ∉ fields.keys)
    (slots : Slots αs) : fields.member key slots = .unknown := by
  induction fields with
  | nil => rfl
  | cons field rest ih =>
    obtain ⟨slot, slots⟩ := slots
    rw [member_cons_of_ne field rest slot slots (List.ne_of_not_mem_cons unknown),
      ih (List.not_mem_of_not_mem_cons unknown)]

/-- The slots after a member with the given key. -/
def put (fields : Fields αs) (slots : Slots αs) (key : String) (v : Spelling) :
    Option (Slots αs) :=
  match fields.member key slots with
  | .unknown => some slots
  | .repeated => none
  | .known reader => reader.value? v

theorem readMember_entry {fields : Fields αs} (each : fields.Local) (key : String)
    (slots : Slots αs) (beforeColon afterColon : Gap) (v : Spelling) {rest : List Char}
    (ends : Ends rest) :
    (fields.readMember key slots
      (beforeColon.chars ++ ':' :: (afterColon.chars ++ (v.chars ++ rest)))).toOption =
      (fields.put slots key v).map (·, rest) := by
  unfold readMember put
  cases member : fields.member key slots with
  | repeated => rfl
  | unknown =>
    simp only [skipColon_gap, skipValue_append afterColon v ends]
    rfl
  | known reader =>
    simp only [skipColon_gap]
    exact each.member member afterColon v rest ends

/-! ## All members -/

/-- The slots after a member. Its key must be legible. -/
def take (fields : Fields αs) (slots : Slots αs) (entry : Entry Spelling) : Option (Slots αs) :=
  entry.key?.bind fun key => fields.put slots key entry.value

theorem readMembers_of_none {fields : Fields αs} {first : Bool} {slots : Slots αs} {s : List Char}
    (next : nextKey? first s = .ok none) :
    readMembers fields first slots s = .ok (slots, skipSpace s) := by
  rw [readMembers]
  split
  next failed => rw [next] at failed; cases failed
  next => rfl
  next found => rw [next] at found; cases found

theorem readMembers_of_some {fields : Fields αs} {first : Bool} {slots : Slots αs}
    {s onward : List Char} (next : nextKey? first s = .ok (some onward)) :
    readMembers fields first slots s = (stringTail onward).bind fun key =>
      (fields.readMember (String.ofList key.1) slots key.2).bind fun read =>
        readMembers fields false read.1 read.2 := by
  conv => lhs; rw [readMembers]
  split
  next failed => rw [next] at failed; cases failed
  next closed => rw [next] at closed; cases closed
  next found =>
    rw [next] at found
    cases found
    split
    next failed => rw [failed]; rfl
    next key =>
      rw [key]
      change _ = (fields.readMember _ slots _).bind _
      split
      next failed => rw [failed]; rfl
      next read => rw [read]; rfl

/-- The members that are left lead from slot to slot up to the closing brace. -/
theorem readMembers_entriesLeft {fields : Fields αs} (each : fields.Local)
    (entries : List (Entry Spelling)) (slots : Slots αs) (first : Bool) (gap : Gap)
    (rest : List Char) :
    (readMembers fields first slots (gap.chars ++ entriesLeft first entries rest)).toOption =
      (entries.foldlM fields.take slots).map (·, '\x7d' :: rest) := by
  induction entries generalizing slots first gap with
  | nil =>
    rw [readMembers_of_none (nextKey?_nil gap first rest), skipSpace_entriesLeft_nil]
    rfl
  | cons entry entries ih =>
    rw [readMembers_of_some (nextKey?_cons gap first entry entries rest), toOption_bind,
      Entry.onward, stringTail_strokes, List.foldlM_cons]
    change _ = ((entry.key?.bind fun key => fields.put slots key entry.value).bind fun slots =>
      entries.foldlM fields.take slots).map _
    rw [Entry.key?]
    cases unite entry.strokes with
    | none => rfl
    | some key =>
      change (Except.bind (fields.readMember (String.ofList key) slots _) _).toOption =
        ((fields.put slots (String.ofList key) entry.value).bind _).map _
      rw [toOption_bind, readMember_entry each (String.ofList key) slots entry.beforeColon
        entry.afterColon entry.value (ends_entriesLeft entry.after entries rest)]
      cases fields.put slots (String.ofList key) entry.value with
      | none => rfl
      | some slots => exact ih slots false entry.after

/-! ## Field by field -/

end Fields

namespace Field

/-- The slot of a field after one more value for it. -/
def fill (field : Field α) : Option α → Spelling → Option (Option α)
  | none, v => (field.codec.reader.value? v).map some
  | some _, _ => none

/-- The values given for a field fill its slot at most once, and the default stands for none. -/
theorem settle_eq (field : Field α) (values : List Spelling) :
    field.settle values = (values.foldlM field.fill none).bind (· <|> field.default) := by
  match values with
  | [] => cases default : field.default <;> simp [settle, default]
  | [v] =>
    rw [List.foldlM_cons, settle, fill]
    cases field.codec.reader.value? v <;> rfl
  | v :: w :: more =>
    rw [List.foldlM_cons, settle, fill]
    · cases field.codec.reader.value? v <;> rfl
    · exact fun same => nomatch same
    · exact fun w same => nomatch same

end Field

namespace Fields

theorem put_cons_of_eq (field : Field α) (rest : Fields αs) (slot : Option α) (slots : Slots αs)
    (v : Spelling) :
    (Fields.cons field rest).put (slot, slots) field.key v =
      (field.fill slot v).map (·, slots) := by
  rw [put, member_cons_of_eq]
  cases slot with
  | some => rfl
  | none =>
    change (field.codec.reader.map _).value? v = ((field.codec.reader.value? v).map some).map _
    rw [Reader.value?_map, Option.map_map]
    rfl

theorem put_cons_of_ne (field : Field α) (rest : Fields αs) (slot : Option α) (slots : Slots αs)
    {key : String} (other : key ≠ field.key) (v : Spelling) :
    (Fields.cons field rest).put (slot, slots) key v = (rest.put slots key v).map (slot, ·) := by
  rw [put, member_cons_of_ne field rest slot slots other, put]
  cases rest.member key slots with
  | unknown => rfl
  | repeated => rfl
  | known reader => exact Reader.value?_map reader _ v

theorem put_of_not_mem {fields : Fields αs} {key : String} (unknown : key ∉ fields.keys)
    (slots : Slots αs) (v : Spelling) : fields.put slots key v = some slots := by
  rw [put, member_of_not_mem unknown]

/-- The members with the key of a field fill its slot, the other members fill the other slots. -/
theorem foldlM_take_cons {field : Field α} {rest : Fields αs} (unlike : field.key ∉ rest.keys)
    (entries : List (Entry Spelling)) (slot : Option α) (slots : Slots αs) :
    entries.foldlM (Fields.cons field rest).take (slot, slots) =
      ((said field.key entries).foldlM field.fill slot).bind fun slot =>
        (entries.foldlM rest.take slots).map (slot, ·) := by
  induction entries generalizing slot slots with
  | nil => rfl
  | cons entry entries ih =>
    rw [List.foldlM_cons, List.foldlM_cons]
    change (Option.bind (take _ _ _) _) = _
    cases key : entry.key? with
    | none =>
      rw [take, key, said_cons_of_ne (by rw [key]; exact nofun)]
      cases (said field.key entries).foldlM field.fill slot with
      | none => rfl
      | some => rw [take, key]; rfl
    | some key' =>
      by_cases same : key' = field.key
      · -- The other fields do not know the key.
        subst same
        have skipped : rest.take slots entry = some slots := by
          rw [take, key]
          exact put_of_not_mem unlike slots entry.value
        rw [take, key, said_cons_of_eq key, List.foldlM_cons, skipped]
        change ((put _ _ _ _).bind _) = _
        rw [put_cons_of_eq]
        change _ = (Option.bind (field.fill slot entry.value) _).bind _
        cases field.fill slot entry.value with
        | none => rfl
        | some slot => exact ih slot slots
      · have other : entry.key? ≠ some field.key := by
          rw [key]
          exact fun both => same (Option.some.inj both)
        rw [take, key, said_cons_of_ne other]
        change ((put _ _ _ _).bind _) = _
        rw [put_cons_of_ne field rest slot slots same, take, key]
        change _ = Option.bind _ fun slot => (Option.bind (rest.put slots key' entry.value) _).map _
        cases rest.put slots key' entry.value with
        | none =>
          cases (said field.key entries).foldlM field.fill slot <;> rfl
        | some slots => exact ih slot slots

theorem toOption_complete_cons (field : Field α) (rest : Fields αs) (slot : Option α)
    (slots : Slots αs) :
    ((Fields.cons field rest).complete (slot, slots)).toOption =
      (slot <|> field.default).bind fun a => (rest.complete slots).toOption.map (a, ·) := by
  cases filled : slot <|> field.default with
  | none =>
    simp only [complete, filled]
    rfl
  | some a =>
    simp only [complete, filled]
    exact toOption_map _ _

/-- Where all keys are legible, every field is settled by the values given for it. -/
theorem settle_eq {fields : Fields αs} (distinct : fields.keys.Nodup)
    {entries : List (Entry Spelling)} (legible : ∀ entry ∈ entries, entry.key?.isSome = true) :
    (entries.foldlM fields.take fields.noSlots).bind
      (fun slots => (fields.complete slots).toOption) = fields.settle entries := by
  induction fields with
  | nil =>
    have skipped : entries.foldlM Fields.nil.take () = some () := by
      induction entries with
      | nil => rfl
      | cons entry entries ih =>
        obtain ⟨key, reads⟩ := Option.isSome_iff_exists.mp (legible entry List.mem_cons_self)
        rw [List.foldlM_cons, take, reads]
        exact ih fun other member => legible other (List.mem_cons_of_mem _ member)
    rw [noSlots, skipped]
    rfl
  | cons field rest ih =>
    obtain ⟨unlike, others⟩ := List.nodup_cons.mp distinct
    have later := ih others
    change ((entries.foldlM (Fields.cons field rest).take (none, rest.noSlots)).bind _) = _
    rw [foldlM_take_cons unlike, settle, Field.settle_eq, ← later]
    cases (said field.key entries).foldlM field.fill none with
    | none => rfl
    | some slot =>
      cases entries.foldlM rest.take rest.noSlots with
      | none =>
        change none = (slot <|> field.default).bind fun a => none
        cases slot <|> field.default <;> rfl
      | some slots => exact toOption_complete_cons field rest slot slots

/-- A key that is not legible is refused by every record. -/
theorem foldlM_take_of_illegible (fields : Fields αs) {entries : List (Entry Spelling)}
    {entry : Entry Spelling} (member : entry ∈ entries) (illegible : entry.key? = none)
    (slots : Slots αs) : entries.foldlM fields.take slots = none := by
  induction entries generalizing slots with
  | nil => cases member
  | cons first others ih =>
    rw [List.foldlM_cons]
    change (Option.bind (fields.take slots first) _) = _
    cases member with
    | head => rw [take, illegible]; rfl
    | tail _ later =>
      cases fields.take slots first with
      | none => rfl
      | some slots => exact ih later slots

end Fields

end Roster.Json
