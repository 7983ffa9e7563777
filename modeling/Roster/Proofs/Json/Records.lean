import Roster.Proofs.Json.Members

/-!
What a record makes of a value: of the members of a map, or of the items of a sequence, which stand
for its fields in their order.
-/

namespace Roster.Json

variable {α : Type} {αs : List Type}

namespace Fields

/-! ## Rows -/

/-- What the items of a sequence make of the fields. The last fields may be missing if they have
defaults, and nothing may follow the last field. -/
def settleRow : {αs : List Type} → Fields αs → List Spelling → Option (Values αs)
  | _, .nil, [] => some ()
  | _, .nil, _ :: _ => none
  | _, .cons field rest, [] => field.default.bind fun a => (rest.settleRow []).map (a, ·)
  | _, .cons field rest, v :: more =>
    (field.codec.reader.value? v).bind fun a => (rest.settleRow more).map (a, ·)

/-- Reads the fields of a sequence and its closing bracket. -/
def readClosedRow (shortage : Nat → DecodeError) (fields : Fields αs) (index : Nat) (first : Bool)
    (s : List Char) : Except DecodeError (Values αs × List Char) :=
  (readRow shortage fields index first s).bind fun read =>
    (Reader.closeSequence read.2).map (read.1, ·)

theorem readClosedRow_cons_of_none {shortage : Nat → DecodeError} {field : Field α}
    {rest : Fields αs} {index : Nat} {first : Bool} {s : List Char}
    (next : Reader.nextItem? first s = .ok none) :
    (readClosedRow shortage (.cons field rest) index first s).toOption =
      field.default.bind fun a =>
        (readClosedRow shortage rest (index + 1) first s).toOption.map fun read =>
          ((a, read.1), read.2) := by
  rw [readClosedRow, readRow, next]
  cases field.default with
  | none => rfl
  | some a =>
    dsimp only
    rw [readClosedRow]
    cases readRow shortage rest (index + 1) first s with
    | error => rfl
    | ok read =>
      change (Except.map _ (Reader.closeSequence read.2)).toOption =
        (Except.map _ (Reader.closeSequence read.2)).toOption.map _
      cases Reader.closeSequence read.2 <;> rfl

theorem readClosedRow_cons_of_some {shortage : Nat → DecodeError} {field : Field α}
    {rest : Fields αs} {index : Nat} {first : Bool} {s item : List Char}
    (next : Reader.nextItem? first s = .ok (some item)) :
    (readClosedRow shortage (.cons field rest) index first s).toOption =
      (field.codec.reader.run item).toOption.bind fun found =>
        (readClosedRow shortage rest (index + 1) false found.2).toOption.map fun read =>
          ((found.1, read.1), read.2) := by
  rw [readClosedRow, readRow, next]
  dsimp only
  cases field.codec.reader.run item with
  | error => rfl
  | ok found =>
    change ((Except.map _ (readRow shortage rest (index + 1) false found.2)).bind _).toOption =
      (readClosedRow shortage rest (index + 1) false found.2).toOption.map _
    rw [readClosedRow]
    cases readRow shortage rest (index + 1) false found.2 with
    | error => rfl
    | ok read =>
      change (Except.map _ (Reader.closeSequence read.2)).toOption =
        (Except.map _ (Reader.closeSequence read.2)).toOption.map _
      cases Reader.closeSequence read.2 <;> rfl

theorem readClosedRow_itemsLeft {fields : Fields αs} (each : fields.Local)
    (shortage : Nat → DecodeError) (items : List (Item Spelling)) (index : Nat) (first : Bool)
    (gap : Gap) (rest : List Char) :
    (readClosedRow shortage fields index first
      (gap.chars ++ itemsLeft first items rest)).toOption =
      (fields.settleRow (items.map Item.value)).map (·, rest) := by
  induction fields generalizing items index first gap with
  | nil =>
    rw [readClosedRow, readRow]
    change (Except.map _ (Reader.closeSequence _)).toOption = _
    cases items with
    | nil => rw [Reader.closeSequence_nil]; rfl
    | cons item items => rw [Reader.closeSequence_cons]; rfl
  | cons field others ih =>
    cases items with
    | nil =>
      rw [readClosedRow_cons_of_none (Reader.nextItem?_nil gap first rest),
        ih each.2 [] (index + 1) first gap, List.map_nil, settleRow]
      cases field.default with
      | none => rfl
      | some a => cases others.settleRow [] <;> rfl
    | cons item items =>
      have read := each.1 Gap.none item.value _ (ends_itemsLeft item.after items rest)
      change (field.codec.reader.run (item.onward items rest)).toOption = _ at read
      rw [readClosedRow_cons_of_some (Reader.nextItem?_cons gap first item items rest), read,
        List.map_cons, settleRow]
      cases field.codec.reader.value? item.value with
      | none => rfl
      | some a =>
        change (readClosedRow shortage others (index + 1) false _).toOption.map _ = _
        rw [ih each.2 items (index + 1) false item.after]
        change _ = ((others.settleRow (items.map Item.value)).map _).map _
        cases others.settleRow (items.map Item.value) <;> rfl

/-! ## Records -/

/-- What a record makes of a value. -/
def recordOf (fields : Fields αs) : Spelling → Option (Values αs)
  | .sequence _ items => fields.settleRow (items.map Item.value)
  | .map _ entries =>
    if ∀ entry ∈ entries, entry.key?.isSome = true then fields.settle entries else none
  | _ => none

theorem readRecord_other (fields : Fields αs) (name : String) {s cs : List Char} {c : Char}
    (spaced : skipSpace s = c :: cs) (bracket : c ≠ '[') (brace : c ≠ '\x7b') :
    (readRecord fields name s).toOption = none := by
  rw [readRecord, spaced]
  dsimp only
  rw [if_neg bracket, if_neg brace]
  rfl

theorem readRecord_sequence (fields : Fields αs) (name : String) {s rest : List Char}
    (spaced : skipSpace s = '[' :: rest) :
    readRecord fields name s =
      readClosedRow (fun n => .tooShort n name fields.count) fields 0 true rest := by
  rw [readRecord, spaced, readClosedRow]
  dsimp only
  rw [if_pos rfl]
  cases readRow (fun n => .tooShort n name fields.count) fields 0 true rest <;> rfl

theorem readRecord_map (fields : Fields αs) (name : String) {s rest : List Char}
    (spaced : skipSpace s = '\x7b' :: rest) :
    (readRecord fields name s).toOption =
      (readMembers fields true fields.noSlots rest).toOption.bind fun read =>
        (fields.complete read.1).toOption.map (·, read.2.tail) := by
  rw [readRecord, spaced]
  dsimp only
  rw [if_neg (by decide), if_pos rfl]
  cases readMembers fields true fields.noSlots rest with
  | error => rfl
  | ok read => exact toOption_map _ _

theorem means_record {fields : Fields αs} (each : fields.Local) (distinct : fields.keys.Nodup)
    (name : String) : (fields.record name).reader.Means fields.recordOf := by
  intro gap v rest ends
  change (readRecord fields name _).toOption = _
  obtain ⟨c, cs, spaced, opens⟩ := exists_skipSpace gap v rest
  cases v with
  | sequence inner items =>
    have opened := skipSpace_value gap (.sequence inner items) rest
    rw [Spelling.chars_sequence] at opened ⊢
    rw [readRecord_sequence fields name opened]
    exact readClosedRow_itemsLeft each _ items 0 true inner rest
  | map inner entries =>
    have opened := skipSpace_value gap (.map inner entries) rest
    rw [Spelling.chars_map] at opened ⊢
    rw [readRecord_map fields name opened, readMembers_entriesLeft each, recordOf]
    split
    next legible =>
      rw [← settle_eq distinct legible]
      cases entries.foldlM fields.take fields.noSlots with
      | none => rfl
      | some slots => rfl
    next illegible =>
      simp only [not_forall, Bool.not_eq_true, Option.isSome_eq_false_iff,
        Option.isNone_iff_eq_none] at illegible
      obtain ⟨entry, member, unread⟩ := illegible
      rw [foldlM_take_of_illegible fields member unread]
      rfl
  | flag value =>
    cases value <;> exact readRecord_other fields name spaced (opens.ne rfl) (opens.ne rfl)
  | null | number _ | text _ =>
    exact readRecord_other fields name spaced (opens.ne rfl) (opens.ne rfl)

end Fields

end Roster.Json
