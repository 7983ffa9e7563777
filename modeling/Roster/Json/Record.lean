import Roster.Json.Codec

/-!
Records: values with named fields. A record is written as a map. It may be read from a map, whose
members come in any order and among others, or from a sequence of its fields in their order, of
which the last ones may be missing if they have defaults. One description of the fields serves both
spellings.
-/

namespace Roster.Json

structure Field (α : Type) where
  key : String
  codec : Codec α
  /-- The value of a field that is not there. A field without a default must be there. -/
  default : Option α := none
  /-- Which values are not written. -/
  omits : α → Bool := fun _ => false

inductive Fields : List Type → Type 1 where
  | nil : Fields []
  | cons {α : Type} {αs : List Type} (field : Field α) (rest : Fields αs) : Fields (α :: αs)

/-- One value for each field. -/
@[reducible] def Values : List Type → Type
  | [] => Unit
  | α :: αs => α × Values αs

/-- A value for each of those fields that were read. -/
@[reducible] def Slots : List Type → Type
  | [] => Unit
  | α :: αs => Option α × Slots αs

/-- What to do with a member of a map. -/
inductive Member (β : Type) where
  | unknown
  | repeated
  | known (reader : Reader β)

namespace Fields

def count {αs : List Type} : Fields αs → Nat
  | .nil => 0
  | .cons _ rest => rest.count + 1

def noSlots {αs : List Type} : Fields αs → Slots αs
  | .nil => ()
  | .cons _ rest => (none, rest.noSlots)

/-- Looks up the field of a key. Its reader fills the slot of the field. -/
def member {αs : List Type} : Fields αs → String → Slots αs → Member (Slots αs)
  | .nil, _, _ => .unknown
  | .cons field rest, key, (slot, slots) =>
    if key = field.key then
      match slot with
      | some _ => .repeated
      | none => .known (field.codec.reader.map fun a => (some a, slots))
    else
      match rest.member key slots with
      | .unknown => .unknown
      | .repeated => .repeated
      | .known reader => .known (reader.map fun slots => (slot, slots))

/-- Puts the defaults into the empty slots. The first field that has none is missing. -/
def complete {αs : List Type} : Fields αs → Slots αs → Except DecodeError (Values αs)
  | .nil, () => .ok ()
  | .cons field rest, (slot, slots) =>
    match slot <|> field.default with
    | none => .error (.missingField field.key)
    | some a => (rest.complete slots).map (a, ·)

/-- Reads the fields of a sequence. `shortage n` is reported where the sequence ends after `n`
fields too early. -/
def readRow {αs : List Type} (shortage : Nat → DecodeError) :
    Fields αs → Nat → Bool → List Char → Except DecodeError (Values αs × List Char)
  | .nil, _, _, s => .ok ((), s)
  | .cons field rest, index, first, s =>
    match Reader.nextItem? first s with
    | .error e => .error e
    | .ok none =>
      match field.default with
      | none => .error (shortage index)
      | some a => (readRow shortage rest (index + 1) first s).map fun read => ((a, read.1), read.2)
    | .ok (some item) =>
      match field.codec.reader.run item with
      | .error e => .error e
      | .ok (a, s) =>
        (readRow shortage rest (index + 1) false s).map fun read => ((a, read.1), read.2)

theorem length_readRow_le {αs : List Type} {shortage : Nat → DecodeError} {fields : Fields αs}
    {index : Nat} {first : Bool} {s r : List Char} {values : Values αs}
    (h : readRow shortage fields index first s = .ok (values, r)) : r.length ≤ s.length := by
  induction fields generalizing index first s with
  | nil =>
    simp only [readRow, Except.ok.injEq, Prod.mk.injEq] at h
    exact Nat.le_of_eq (congrArg List.length h.2.symm)
  | cons field rest ih =>
    simp only [readRow] at h
    split at h
    · simp at h
    · split at h
      · simp at h
      · cases read : readRow shortage rest (index + 1) first s with
        | error => simp [read, Except.map] at h
        | ok pair =>
          simp only [read, Except.map, Except.ok.injEq, Prod.mk.injEq] at h
          obtain ⟨-, rfl⟩ := h
          exact ih read
    · next item next =>
      have := Reader.length_nextItem?_le next
      split at h
      · simp at h
      · next s' found =>
        have := field.codec.reader.shorter found
        cases read : readRow shortage rest (index + 1) false s' with
        | error => simp [read, Except.map] at h
        | ok pair =>
          simp only [read, Except.map, Except.ok.injEq, Prod.mk.injEq] at h
          obtain ⟨-, rfl⟩ := h
          have := ih read
          omega

/-- Looks for the next key of a map: the text after its opening quote, or nothing at the closing
brace. -/
def nextKey? (first : Bool) (s : List Char) : Except DecodeError (Option (List Char)) :=
  match skipSpace s with
  | [] => .error .unexpectedEnd
  | c :: rest =>
    if c = '\x7d' then .ok none
    else if first then
      if c = '"' then .ok (some rest) else .error .malformed
    else if c = ',' then
      match skipSpace rest with
      | [] => .error .unexpectedEnd
      | c :: rest => if c = '"' then .ok (some rest) else .error .malformed
    else .error .malformed

theorem length_nextKey?_lt {first : Bool} {s r : List Char} (h : nextKey? first s = .ok (some r)) :
    r.length < s.length := by
  unfold nextKey? at h
  split at h
  · simp at h
  · next c rest spaced =>
    have := length_lt_of_skipSpace spaced
    split at h
    · simp at h
    · split at h
      · split at h
        · simp only [Except.ok.injEq, Option.some.injEq] at h
          exact h ▸ this
        · simp at h
      · split at h
        · split at h
          · simp at h
          · next spaced' =>
            have := length_lt_of_skipSpace spaced'
            split at h
            · simp only [Except.ok.injEq, Option.some.injEq] at h
              rw [← h]
              omega
            · simp at h
        · simp at h

/-- Reads the value of a member whose key has been read, with the colon before it. -/
def readMember {αs : List Type} (fields : Fields αs) (key : String) (slots : Slots αs)
    (s : List Char) : Except DecodeError (Slots αs × List Char) :=
  match fields.member key slots with
  | .repeated => .error (.repeatedField key)
  | .unknown =>
    match skipColon s with
    | .error e => .error e
    | .ok s => (skipValue s).map (slots, ·)
  | .known reader =>
    match skipColon s with
    | .error e => .error e
    | .ok s => reader.run s

theorem length_readMember_lt {αs : List Type} {fields : Fields αs} {key : String}
    {slots slots' : Slots αs} {s r : List Char}
    (h : readMember fields key slots s = .ok (slots', r)) : r.length < s.length := by
  unfold readMember at h
  split at h
  · simp at h
  · split at h
    · simp at h
    · next s' colon =>
      have := length_skipColon_lt colon
      cases skipped : skipValue s' with
      | error => simp [skipped, Except.map] at h
      | ok rest =>
        simp only [skipped, Except.map, Except.ok.injEq, Prod.mk.injEq] at h
        have := length_skipValue_lt skipped
        rw [← h.2]
        omega
  · next reader _ =>
    split at h
    · simp at h
    · next colon =>
      have := length_skipColon_lt colon
      have := reader.shorter h
      omega

/-- Reads the members of a map up to its closing brace. -/
def readMembers {αs : List Type} (fields : Fields αs) (first : Bool) (slots : Slots αs)
    (s : List Char) : Except DecodeError (Slots αs × List Char) :=
  match _next : nextKey? first s with
  | .error e => .error e
  | .ok none => .ok (slots, skipSpace s)
  | .ok (some s) =>
    match _key : stringTail s with
    | .error e => .error e
    | .ok (key, s) =>
      match _value : fields.readMember (String.ofList key) slots s with
      | .error e => .error e
      | .ok (slots, s) => readMembers fields false slots s
  termination_by s.length
  decreasing_by
    have := length_nextKey?_lt _next
    have := length_stringTail_lt _key
    have := length_readMember_lt _value
    omega

theorem length_readMembers_le {αs : List Type} {fields : Fields αs} {first : Bool}
    {slots slots' : Slots αs} {s r : List Char}
    (h : readMembers fields first slots s = .ok (slots', r)) : r.length ≤ s.length := by
  fun_induction readMembers fields first slots s with
  | case1 | case3 | case4 => simp at h
  | case2 =>
    simp only [Except.ok.injEq, Prod.mk.injEq] at h
    exact h.2 ▸ length_skipSpace_le _
  | case5 _ _ _ _ next _ _ key _ _ value ih =>
    have := length_nextKey?_lt next
    have := length_stringTail_lt key
    have := length_readMember_lt value
    have := ih h
    omega

/-- Reads a record of the given name. -/
def readRecord {αs : List Type} (fields : Fields αs) (name : String) (s : List Char) :
    Except DecodeError (Values αs × List Char) :=
  match skipSpace s with
  | [] => .error .unexpectedEnd
  | c :: rest =>
    if c = '[' then
      match readRow (fun n => .tooShort n name fields.count) fields 0 true rest with
      | .error e => .error e
      | .ok (values, s) => (Reader.closeSequence s).map (values, ·)
    else if c = '\x7b' then
      match readMembers fields true fields.noSlots rest with
      | .error e => .error e
      | .ok (slots, s) => (fields.complete slots).map (·, s.tail)
    else .error (mismatch (.record name) (c :: rest))

/-- The members of a map, for those fields that are written. -/
def writeMembers {αs : List Type} : Fields αs → Values αs → List (List Char)
  | .nil, () => []
  | .cons field rest, (a, values) =>
    let others := rest.writeMembers values
    if field.omits a then others
    else (quoted field.key ++ ':' :: field.codec.write a) :: others

def record {αs : List Type} (fields : Fields αs) (name : String) : Codec (Values αs) where
  reader :=
    { run := fields.readRecord name
      shorter := by
        intro s values r h
        unfold readRecord at h
        split at h
        · simp at h
        · next rest spaced =>
          have := length_lt_of_skipSpace spaced
          split at h
          · split at h
            · simp at h
            · next s' row =>
              have := length_readRow_le row
              cases read : Reader.closeSequence s' with
              | error => simp [read, Except.map] at h
              | ok rest' =>
                simp only [read, Except.map, Except.ok.injEq, Prod.mk.injEq] at h
                have := Reader.length_closeSequence_lt read
                rw [← h.2]
                omega
          · split at h
            · split at h
              · simp at h
              · next slots s' read =>
                have := length_readMembers_le read
                cases all : fields.complete slots with
                | error => simp [all, Except.map] at h
                | ok found =>
                  simp only [all, Except.map, Except.ok.injEq, Prod.mk.injEq] at h
                  have := List.length_tail (l := s')
                  rw [← h.2]
                  omega
            · simp at h }
  write values := '\x7b' :: separated ',' (fields.writeMembers values) ++ ['\x7d']

end Fields

end Roster.Json
