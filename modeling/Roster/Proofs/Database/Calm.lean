import Roster.Proofs.Database.Confined

/-!
What statements come to where nothing befalls them.

On a connection that has no mishap in store, a statement does what its change does: to the tables of
the open transaction if there is one, and else to those that are stored. What a chain of actions
comes to is then found from one action after the other.
-/

namespace Roster.Database

variable {α β : Type} {c later : Connection} {t t' : Tables}

namespace Connection

theorem approach_calm (calm : c.mishaps = []) : c.approach = (.ok (), c) := by
  rw [approach, calm]

theorem execute_inside_eq (calm : c.mishaps = []) (inside : c.working = some t)
    (change : Tables → Except Refusal (α × Tables)) :
    c.execute change = match change t with
      | .ok (a, t') => (.ok a, { c with working := some t' })
      | .error refusal => (.error refusal, c.afterRefusal refusal) := by
  have tables : c.tables = t := by rw [Connection.tables, inside, Option.getD_some]
  rw [execute, approach_calm calm]
  simp only [tables, inside]
  cases change t <;> rfl

/-- Outside of a transaction a statement commits by itself. -/
theorem execute_outside_eq (calm : c.mishaps = []) (idle : c.working = none)
    {change : Tables → Except Refusal (α × Tables)} {a : α}
    (changed : change c.stored = .ok (a, t)) (unbroken : t.brokenReference = false) :
    c.execute change = (.ok a, { c with stored := t }) := by
  rw [execute, approach_calm calm]
  simp only [tables_of_idle idle, changed, idle, unbroken, Bool.false_eq_true, if_false]

theorem execute_of_ok {change : Tables → Except Refusal (α × Tables)} {a : α}
    (calm : c.mishaps = []) (changed : change t = .ok (a, t')) :
    execute { c with working := some t } change = (.ok a, { c with working := some t' }) := by
  rw [execute_inside_eq (c := { c with working := some t }) calm rfl, changed]

theorem execute_of_error {change : Tables → Except Refusal (α × Tables)} {refusal : Refusal}
    (calm : c.mishaps = []) (gentle : refusal.endsTransaction = false)
    (refused : change t = .error refusal) :
    execute { c with working := some t } change =
      (.error refusal, { c with working := some t }) := by
  rw [execute_inside_eq (c := { c with working := some t }) calm rfl, refused]
  simp only [afterRefusal, gentle, Bool.false_eq_true, if_false]

end Connection

/-! ## Actions -/

namespace Action

theorem bind_of_ok {first : Action α} {a : α} (did : first c = (.ok a, later))
    (second : α → Action β) : (first >>= second) c = second a later := by
  change andThen first second c = _
  rw [andThen, did]

theorem bind_of_error {first : Action α} {failure : Failure}
    (did : first c = (.error failure, later)) (second : α → Action β) :
    (first >>= second) c = (.error failure, later) := by
  change andThen first second c = _
  rw [andThen, did]

theorem read_of_ok (calm : c.mishaps = []) {s : Statement} {query : Tables → Except Refusal α}
    {a : α} (found : query c.tables = .ok a) : read s query c = (.ok a, c) := by
  rw [read, Connection.select, Connection.approach_calm calm]
  simp only [found]

theorem read_of_error (calm : c.mishaps = []) {s : Statement}
    {query : Tables → Except Refusal α} {refusal : Refusal}
    (refused : query c.tables = .error refusal) :
    read s query c = (.error (s.failure refusal), c) := by
  rw [read, Connection.select, Connection.approach_calm calm]
  simp only [refused]

theorem run_inside (calm : c.mishaps = []) (inside : c.working = some t) (s : Statement)
    (change : Bool → Tables → Except Refusal (α × Tables)) :
    run s change c = match change c.foreignKeys t with
      | .ok (a, t') => (.ok a, { c with working := some t' })
      | .error refusal => (.error (s.failure refusal), c.afterRefusal refusal) := by
  rw [run, Connection.execute_inside_eq calm inside]
  cases change c.foreignKeys t <;> rfl

theorem runUnique_inside (calm : c.mishaps = []) (inside : c.working = some t) (s : Statement)
    (conflict : Failure) (change : Bool → Tables → Except Refusal (α × Tables)) :
    runUnique s conflict change c = match change c.foreignKeys t with
      | .ok (a, t') => (.ok a, { c with working := some t' })
      | .error refusal =>
        (.error (if refusal.isDuplicate then conflict else s.failure refusal),
          c.afterRefusal refusal) := by
  rw [runUnique, Connection.execute_inside_eq calm inside]
  cases change c.foreignKeys t <;> rfl

end Action

/-! ## Transactions -/

namespace Transaction

theorem begin_eq (idle : c.working = none) (calm : c.mishaps = []) :
    begin c = (.ok (), { c with working := some c.stored }) := by
  rw [begin, Connection.begin, Connection.approach_calm calm]
  simp only [idle]

theorem commit_eq (calm : c.mishaps = []) (unbroken : t.brokenReference = false) :
    commit { c with working := some t } = (.ok (), { c with stored := t, working := none }) := by
  have approached : Connection.approach { c with working := some t } =
      (.ok (), { c with working := some t }) := Connection.approach_calm calm
  rw [commit, Connection.commit, approached]
  simp only [unbroken, Bool.false_eq_true, if_false]

theorem atomically_eq (body : Action α) (idle : c.working = none) (calm : c.mishaps = []) :
    atomically body c = finish (body { c with working := some c.stored }).1
      (body { c with working := some c.stored }).2 :=
  Action.bind_of_ok (begin_eq idle calm) fun _ c => finish (body c).1 (body c).2

end Transaction

end Roster.Database
