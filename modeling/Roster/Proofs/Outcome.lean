/-!
Outcomes of chains of checks, of which the first that fails decides.
-/

namespace Roster

variable {ε α β : Type}

theorem ok_bind (a : α) (next : α → Except ε β) : (.ok a >>= next) = next a :=
  rfl

theorem of_bind_eq_ok {first : Except ε α} {next : α → Except ε β} {b : β}
    (succeeded : (first >>= next) = .ok b) : ∃ a, first = .ok a ∧ next a = .ok b := by
  cases first with
  | error => cases succeeded
  | ok a => exact ⟨a, rfl, succeeded⟩

theorem of_bind_eq_error {first : Except ε α} {next : α → Except ε β} {e : ε}
    (failed : (first >>= next) = .error e) :
    first = .error e ∨ ∃ a, first = .ok a ∧ next a = .error e := by
  cases first with
  | error cause => cases failed; exact .inl rfl
  | ok a => exact .inr ⟨a, rfl, failed⟩

theorem of_map_eq_ok {first : Except ε α} {f : α → β} {b : β}
    (succeeded : first.map f = .ok b) : ∃ a, first = .ok a ∧ b = f a := by
  cases first with
  | error => cases succeeded
  | ok a => exact ⟨a, rfl, (Except.ok.inj succeeded).symm⟩

theorem of_map_eq_error {first : Except ε α} {f : α → β} {e : ε}
    (failed : first.map f = .error e) : first = .error e := by
  cases first with
  | error cause => exact congrArg Except.error (Except.error.inj failed)
  | ok a => cases failed

/-- A check that every item of a list passes unchanged, up to `f`, is passed by the list. -/
theorem mapM_eq_ok {items : List α} {check : α → Except ε β} {f : α → β}
    (passes : ∀ item ∈ items, check item = .ok (f item)) :
    items.mapM check = .ok (items.map f) := by
  induction items with
  | nil => rfl
  | cons item rest ih =>
    rw [List.mapM_cons, passes item List.mem_cons_self,
      ih fun other member => passes other (List.mem_cons_of_mem _ member)]
    rfl

theorem mapM_congr {items : List α} {first second : α → Except ε β}
    (same : ∀ item ∈ items, first item = second item) :
    items.mapM first = items.mapM second := by
  induction items with
  | nil => rfl
  | cons item rest ih =>
    rw [List.mapM_cons, List.mapM_cons, same item List.mem_cons_self,
      ih fun other member => same other (List.mem_cons_of_mem _ member)]

/-- A list fails a check only where one of its items does. -/
theorem of_mapM_eq_error {items : List α} {check : α → Except ε β} {e : ε}
    (failed : items.mapM check = .error e) : ∃ item ∈ items, check item = .error e := by
  induction items with
  | nil => cases failed
  | cons item rest ih =>
    rw [List.mapM_cons] at failed
    rcases of_bind_eq_error failed with here | ⟨_, _, failed⟩
    · exact ⟨item, List.mem_cons_self, here⟩
    · rcases of_bind_eq_error failed with later | ⟨_, _, passed⟩
      · obtain ⟨other, member, found⟩ := ih later
        exact ⟨other, List.mem_cons_of_mem _ member, found⟩
      · cases passed

/-! ## Outcomes without the reason of a failure -/

theorem toOption_map (first : Except ε α) (f : α → β) :
    (first.map f).toOption = first.toOption.map f := by
  cases first <;> rfl

theorem toOption_bind (first : Except ε α) (next : α → Except ε β) :
    (first.bind next).toOption = first.toOption.bind fun a => (next a).toOption := by
  cases first <;> rfl

theorem toOption_eq_some {outcome : Except ε α} {a : α} :
    outcome.toOption = some a ↔ outcome = .ok a := by
  cases outcome with
  | error => exact ⟨nofun, nofun⟩
  | ok b =>
    exact ⟨fun same => congrArg Except.ok (Option.some.inj same),
      fun same => congrArg some (Except.ok.inj same)⟩

theorem exists_ok_iff {outcome : Except ε β} {found : Option α} {f : α → β}
    (same : outcome.toOption = found.map f) : (∃ b, outcome = .ok b) ↔ ∃ a, found = some a := by
  simp only [← toOption_eq_some, same, Option.map_eq_some_iff]
  constructor
  · rintro ⟨_, a, there, _⟩
    exact ⟨a, there⟩
  · rintro ⟨a, there⟩
    exact ⟨f a, a, there, rfl⟩

theorem exists_pair_iff {first : Option α} {second : Option β} :
    (∃ pair, (first.bind fun a => second.map (a, ·)) = some pair) ↔
      (∃ a, first = some a) ∧ ∃ b, second = some b := by
  cases first <;> cases second <;> simp

end Roster
