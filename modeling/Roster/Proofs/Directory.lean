import Roster.Directory

/-!
The keys of a directory, and directories that are kept as rows of another kind: where one row stands
for a pair and can be told by its key, a look-up or a change of the rows is one of the directory.
-/

namespace Roster.Directory

variable {κ ν ρ : Type}

def keys (d : Directory κ ν) : List κ :=
  List.map (·.1) d

theorem mem_keys_of_mem {d : Directory κ ν} {entry : κ × ν} (member : entry ∈ d) :
    entry.1 ∈ d.keys :=
  List.mem_map_of_mem member

theorem mem_keys {d : Directory κ ν} {key : κ} : key ∈ d.keys ↔ ∃ value, (key, value) ∈ d := by
  constructor
  · intro listed
    obtain ⟨⟨_, value⟩, member, rfl⟩ := List.mem_map.mp listed
    exact ⟨value, member⟩
  · rintro ⟨value, member⟩
    exact mem_keys_of_mem member

theorem keys_filter (d : Directory κ ν) (keep : κ × ν → Bool) :
    (keys (List.filter keep d)).Sublist d.keys :=
  List.Sublist.map (fun entry : κ × ν => entry.1) List.filter_sublist

theorem nodup_of_keys {d : Directory κ ν} (distinct : d.keys.Nodup) : List.Nodup d :=
  (List.pairwise_map.mp distinct).imp fun different same => different (congrArg (·.1) same)

theorem keys_append_pair (d : Directory κ ν) (key : κ) (value : ν) :
    keys (d ++ [(key, value)]) = d.keys ++ [key] := by
  rw [keys, List.map_append]
  rfl

theorem nodup_append_pair {d : Directory κ ν} {key : κ} (distinct : d.keys.Nodup)
    (absent : key ∉ d.keys) (value : ν) : (keys (d ++ [(key, value)])).Nodup := by
  rw [keys_append_pair]
  exact (List.perm_append_singleton _ _).nodup_iff.mpr (List.nodup_cons.mpr ⟨absent, distinct⟩)

variable [DecidableEq κ]

theorem contains_iff {d : Directory κ ν} {key : κ} : d.contains key = true ↔ key ∈ d.keys := by
  simp [contains, keys]

theorem contains_eq_false_iff {d : Directory κ ν} {key : κ} :
    d.contains key = false ↔ key ∉ d.keys := by
  rw [← contains_iff, Bool.not_eq_true]

theorem find?_isSome_iff {d : Directory κ ν} {key : κ} :
    (d.find? key).isSome = true ↔ key ∈ d.keys := by
  rw [← contains_eq_isSome_find?, contains_iff]

theorem find?_eq_none_iff {d : Directory κ ν} {key : κ} :
    d.find? key = none ↔ key ∉ d.keys := by
  rw [← find?_isSome_iff, Bool.not_eq_true, Option.isSome_eq_false_iff, Option.isNone_iff_eq_none]

theorem mem_of_find? {d : Directory κ ν} {key : κ} {value : ν}
    (found : d.find? key = some value) : (key, value) ∈ d := by
  obtain ⟨⟨other, _⟩, first, rfl⟩ := Option.map_eq_some_iff.mp found
  have same := List.find?_some first
  have member := List.mem_of_find?_eq_some first
  rw [decide_eq_true_eq] at same
  exact same ▸ member

theorem mem_keys_of_find? {d : Directory κ ν} {key : κ} {value : ν}
    (found : d.find? key = some value) : key ∈ d.keys :=
  mem_keys_of_mem (mem_of_find? found)

theorem exists_find? {d : Directory κ ν} {key : κ} (listed : key ∈ d.keys) :
    ∃ value, d.find? key = some value :=
  Option.isSome_iff_exists.mp (find?_isSome_iff.mpr listed)

theorem find?_of_mem {d : Directory κ ν} (distinct : d.keys.Nodup) {key : κ} {value : ν}
    (member : (key, value) ∈ d) : d.find? key = some value := by
  induction d with
  | nil => cases member
  | cons entry rest ih =>
    obtain ⟨absent, others⟩ := List.nodup_cons.mp distinct
    rw [find?_cons]
    rcases List.mem_cons.mp member with rfl | later
    · exact if_pos rfl
    · have different : entry.1 ≠ key := by
        rintro rfl
        exact absent (mem_keys.mpr ⟨value, later⟩)
      rw [if_neg different]
      exact ih others later

/-! ## Changes -/

theorem put_of_mem {d : Directory κ ν} {key : κ} (listed : key ∈ d.keys) (value : ν) :
    d.put key value = List.map (fun entry => if entry.1 = key then (key, value) else entry) d :=
  if_pos (contains_iff.mpr listed)

theorem put_of_not_mem {d : Directory κ ν} {key : κ} (absent : key ∉ d.keys) (value : ν) :
    d.put key value = d ++ [(key, value)] :=
  if_neg fun present => absent (contains_iff.mp present)

theorem putNew_of_mem {d : Directory κ ν} {key : κ} (listed : key ∈ d.keys) (value : ν) :
    d.putNew key value = d :=
  if_pos (contains_iff.mpr listed)

theorem putNew_of_not_mem {d : Directory κ ν} {key : κ} (absent : key ∉ d.keys) (value : ν) :
    d.putNew key value = d ++ [(key, value)] :=
  if_neg fun present => absent (contains_iff.mp present)

theorem keys_put_of_mem {d : Directory κ ν} {key : κ} (listed : key ∈ d.keys) (value : ν) :
    (d.put key value).keys = d.keys := by
  rw [put_of_mem listed, keys, keys, List.map_map]
  apply List.map_congr_left
  intro entry _
  change (if entry.1 = key then (key, value) else entry).1 = entry.1
  split
  next same => exact same.symm
  next => rfl

theorem mem_keys_put {d : Directory κ ν} {key other : κ} {value : ν} :
    other ∈ (d.put key value).keys ↔ other ∈ d.keys ∨ other = key := by
  rw [← find?_isSome_iff, find?_put, ← find?_isSome_iff]
  by_cases same : other = key <;> simp [same]

theorem mem_keys_putNew {d : Directory κ ν} {key other : κ} {value : ν} :
    other ∈ (d.putNew key value).keys ↔ other ∈ d.keys ∨ other = key := by
  rw [← find?_isSome_iff, find?_putNew, ← find?_isSome_iff]
  by_cases same : other = key <;> simp [same]

theorem nodup_keys_put {d : Directory κ ν} (distinct : d.keys.Nodup) (key : κ) (value : ν) :
    (d.put key value).keys.Nodup := by
  by_cases listed : key ∈ d.keys
  · rw [keys_put_of_mem listed]
    exact distinct
  · rw [put_of_not_mem listed]
    exact nodup_append_pair distinct listed value

theorem nodup_keys_putNew {d : Directory κ ν} (distinct : d.keys.Nodup) (key : κ) (value : ν) :
    (d.putNew key value).keys.Nodup := by
  by_cases listed : key ∈ d.keys
  · rw [putNew_of_mem listed]
    exact distinct
  · rw [putNew_of_not_mem listed]
    exact nodup_append_pair distinct listed value

theorem mem_put {d : Directory κ ν} {key : κ} {value : ν} {entry : κ × ν} :
    entry ∈ d.put key value ↔ entry = (key, value) ∨ entry ∈ d ∧ entry.1 ≠ key := by
  by_cases listed : key ∈ d.keys
  · rw [put_of_mem listed, List.mem_map]
    constructor
    · rintro ⟨old, oldMember, rfl⟩
      split
      next => exact .inl rfl
      next different => exact .inr ⟨oldMember, different⟩
    · rintro (rfl | ⟨old, different⟩)
      · obtain ⟨value, member⟩ := mem_keys.mp listed
        exact ⟨(key, value), member, if_pos rfl⟩
      · exact ⟨entry, old, if_neg different⟩
  · rw [put_of_not_mem listed, List.mem_append, List.mem_singleton, or_comm]
    have other (old : entry ∈ d) : entry.1 ≠ key := by
      rintro rfl
      exact listed (mem_keys_of_mem old)
    exact or_congr_right ⟨fun old => ⟨old, other old⟩, And.left⟩

theorem mem_keys_remove {d : Directory κ ν} {key other : κ} :
    other ∈ (d.remove key).keys ↔ other ∈ d.keys ∧ other ≠ key := by
  rw [← find?_isSome_iff, find?_remove, ← find?_isSome_iff]
  by_cases same : other = key <;> simp [same]

/-- Up to the order, a pair is put by removing its key and adding the pair. -/
theorem put_perm {d : Directory κ ν} (distinct : d.keys.Nodup) (key : κ) (value : ν) :
    (d.put key value).Perm (d.remove key ++ [(key, value)]) := by
  have removed : key ∉ (d.remove key).keys := fun listed => (mem_keys_remove.mp listed).2 rfl
  have others : (d.remove key).keys.Nodup := distinct.sublist (keys_filter d _)
  rw [List.perm_ext_iff_of_nodup (nodup_of_keys (nodup_keys_put distinct key value))
    (nodup_of_keys (nodup_append_pair others removed value))]
  intro entry
  rw [mem_put, List.mem_append, List.mem_singleton, or_comm, remove, List.mem_filter,
    decide_eq_true_eq]

theorem find?_of_perm {d e : Directory κ ν} (distinct : d.keys.Nodup) (perm : d.Perm e)
    (key : κ) : d.find? key = e.find? key := by
  have same : d.keys.Perm e.keys := List.Perm.map (fun entry : κ × ν => entry.1) perm
  cases found : d.find? key with
  | none =>
    rw [find?_eq_none_iff, same.mem_iff] at found
    exact (find?_eq_none_iff.mpr found).symm
  | some value =>
    have member := perm.mem_iff.mp (mem_of_find? found)
    exact (find?_of_mem (same.nodup_iff.mp distinct) member).symm

/-! ## Rows -/

section Rows

variable {d : Directory κ ν} {row : κ × ν → ρ} {picks : ρ → Bool} {key : κ}

theorem any_rows (tells : ∀ entry ∈ d, picks (row entry) = decide (entry.1 = key)) :
    (List.map row d).any picks = d.contains key := by
  rw [contains, List.any_map]
  induction d with
  | nil => rfl
  | cons entry rest ih =>
    rw [List.any_cons, List.any_cons, ih fun other member => tells other (.tail _ member)]
    exact congrArg (· || _) (tells entry List.mem_cons_self)

theorem find?_rows (tells : ∀ entry ∈ d, picks (row entry) = decide (entry.1 = key)) :
    (List.map row d).find? picks = (d.find? key).map fun value => row (key, value) := by
  induction d with
  | nil => rfl
  | cons entry rest ih =>
    rw [List.map_cons, find?_cons, List.find?_cons, tells entry List.mem_cons_self]
    by_cases same : entry.1 = key
    · subst same
      simp
    · simpa [same] using ih fun other member => tells other (.tail _ member)

theorem filter_rows_ne (row : κ × ν → ρ) (picks : ρ → Bool)
    (tells : ∀ entry ∈ d, picks (row entry) = decide (entry.1 = key)) :
    (List.map row d).filter (fun r => !picks r) = List.map row (d.remove key) := by
  rw [remove, List.filter_map]
  congr 1
  apply List.filter_congr
  intro entry member
  simp [tells entry member]

/-- Overwriting the row of a key that is there overwrites its value. -/
theorem map_rows_put (row : κ × ν → ρ) (picks : ρ → Bool) (overwrite : ρ → ρ)
    (listed : key ∈ d.keys) (value : ν)
    (tells : ∀ entry ∈ d, picks (row entry) = decide (entry.1 = key))
    (overwrites : ∀ entry ∈ d, entry.1 = key → overwrite (row entry) = row (key, value)) :
    (List.map row d).map (fun r => if picks r then overwrite r else r) =
      List.map row (d.put key value) := by
  rw [put_of_mem listed, List.map_map, List.map_map]
  apply List.map_congr_left
  intro entry member
  change (if picks (row entry) then overwrite (row entry) else row entry) =
    row (if entry.1 = key then (key, value) else entry)
  rw [tells entry member]
  by_cases same : entry.1 = key
  · rw [if_pos (decide_eq_true same), if_pos same]
    exact overwrites entry member same
  · rw [if_neg (by simpa using same), if_neg same]

end Rows

end Roster.Directory

namespace Roster

/-! ## Batches -/

/-- In a batch nothing comes twice and nothing is taken just if that holds of its first part, and of
the rest once the first part is taken too. -/
theorem free_append {α : Type} (taken : α → Prop) (first second : List α) :
    ((first ++ second).Nodup ∧ ∀ a ∈ first ++ second, ¬taken a) ↔
      (first.Nodup ∧ ∀ a ∈ first, ¬taken a) ∧
        second.Nodup ∧ ∀ a ∈ second, ¬(taken a ∨ a ∈ first) := by
  rw [List.nodup_append, List.forall_mem_append]
  constructor
  · intro together
    obtain ⟨⟨distinct, distinctThen, apart⟩, free, freeThen⟩ := together
    refine ⟨⟨distinct, free⟩, distinctThen, fun a listed takenThen => ?_⟩
    rcases takenThen with before | now
    · exact freeThen a listed before
    · exact apart a now a listed rfl
  · intro parts
    obtain ⟨⟨distinct, free⟩, distinctThen, freeThen⟩ := parts
    refine ⟨⟨distinct, distinctThen, ?_⟩, free, fun a listed before =>
      freeThen a listed (.inl before)⟩
    intro a now other listed same
    exact freeThen other listed (.inr (same ▸ now))

end Roster
