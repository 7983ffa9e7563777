import Roster.Proofs.Database.Invariant

/-!
What the ends of a transaction leave behind.

As long as a transaction is open, the tables are stored as they were when it was begun, whatever its
steps do and however many of them fail. A commit that succeeds puts the tables of the transaction in
their place. Every other end leaves them as they are. No end leaves the transaction open, so that
another one can be begun.
-/

namespace Roster.Database

namespace Connection

/-! ## While the transaction is open -/

theorem execute_idle {α : Type} (c : Connection)
    (change : Tables → Except Refusal (α × Tables)) (idle : c.working = none) :
    (c.execute change).2.working = none := by
  have working := c.approach_working
  unfold execute
  split
  next found => rw [found] at working; exact afterRefusal_idle _ _ (working.trans idle)
  next later found =>
    rw [found] at working
    have outside : later.working = none := working.trans idle
    split
    next => exact afterRefusal_idle _ _ outside
    next =>
      split
      next inside => rw [outside] at inside; cases inside
      next => split <;> exact outside

/-- If a transaction is open, the tables are stored as given. -/
structure Keeping (foreignKeys : Bool) (t : Tables) (c : Connection) : Prop where
  foreignKeys : c.foreignKeys = foreignKeys
  stored : c.working.isSome → c.stored = t

/-- A statement after which a transaction is open has found it open. -/
theorem kept_keeping (foreignKeys : Bool) (t : Tables) :
    Kept (.any foreignKeys) (Keeping foreignKeys t) where
  foreignKeys _ keeping := keeping.foreignKeys
  select c query keeping := by
    refine ⟨(c.precedes_select query).foreignKeys.trans keeping.foreignKeys, ?_⟩
    intro inside
    rw [select_stored]
    apply keeping.stored
    rw [Option.isSome_iff_ne_none] at inside ⊢
    exact fun idle => inside (select_idle c query idle)
  execute c change keeping _ := by
    refine ⟨(c.precedes_execute change).foreignKeys.trans keeping.foreignKeys, ?_⟩
    intro inside
    have before : c.working.isSome := by
      rw [Option.isSome_iff_ne_none] at inside ⊢
      exact fun idle => inside (execute_idle c change idle)
    rw [execute_stored c change before]
    exact keeping.stored before

/-- A transaction is open, and neither a trigger nor a mishap to come makes the database roll it
back by itself. -/
structure Steady (foreignKeys : Bool) (c : Connection) : Prop
    extends c.Satisfies foreignKeys fun t => .rollback ∉ t.triggers where
  gentle : c.Gentle
  inside : c.working.isSome

theorem kept_steady (foreignKeys : Bool) : Kept (.any foreignKeys) (Steady foreignKeys) where
  foreignKeys _ steady := steady.foreignKeys
  select c query steady := {
    toSatisfies := steady.toSatisfies.select query
    gentle := (c.precedes_select query).gentle steady.gentle
    inside := select_stays_open steady.gentle steady.inside query }
  execute c change steady regular := {
    toSatisfies := steady.toSatisfies.execute fun a t changed =>
      (Tables.unbreakable_quiet _).becomes (regular.becomes a t changed) steady.toSatisfies.tables
    gentle := (c.precedes_execute change).gentle steady.gentle
    inside := execute_stays_open steady.gentle steady.inside fun _ =>
      regular.gentle steady.toSatisfies.tables }

/-! ## Commits -/

theorem commit_ok_iff (c : Connection) (inside : c.working.isSome) :
    c.commit.1 = .ok () ↔ c.approach.1 = .ok () ∧ c.tables.brokenReference = false := by
  obtain ⟨t, inside⟩ := Option.isSome_iff_exists.mp inside
  rw [tables, inside, Option.getD_some]
  rcases c.commit_cases with ⟨refusal, undone, unfit⟩ | ⟨other, calm, same, unbroken, stored⟩
  · obtain ⟨told, refused⟩ := c.approach.2.undoCommit_refused refusal
    rw [undone, refused]
    constructor
    · intro committed
      cases committed
    · rintro ⟨calm, unbroken⟩
      rw [unfit calm t inside] at unbroken
      cases unbroken
  · cases inside.symm.trans same
    rw [stored]
    exact ⟨fun _ => ⟨calm, unbroken⟩, fun _ => rfl⟩

theorem commit_stored (c : Connection) (committed : c.commit.1 = .ok ()) :
    c.commit.2.stored = c.tables := by
  rcases c.commit_cases with ⟨refusal, undone, _⟩ | ⟨t, _, inside, _, stored⟩
  · obtain ⟨told, refused⟩ := c.approach.2.undoCommit_refused refusal
    rw [undone, refused] at committed
    cases committed
  · rw [stored, tables, inside]
    rfl

end Connection

namespace Transaction

theorem commit_succeeds (c : Connection) : (commit c).1 = .ok () ↔ c.commit.1 = .ok () := by
  unfold commit
  split <;> next found => simp [found]

theorem finish_ok {α : Type} (a : α) (c : Connection) :
    finish (.ok a) c = ((commit c).1.map fun _ => a, (commit c).2) := by
  change Action.andThen commit (fun _ => Action.done a) c = _
  unfold Action.andThen
  split <;> next found => rw [found]; rfl

/-! ## Ends -/

/-- No transaction is open, these tables are stored, and there is nothing to be undone. -/
structure Settled (t : Tables) (c : Connection) : Prop where
  stored : c.stored = t
  idle : c.working = none
  undone : undo c = (nothingToUndo, c.replaced)
  /-- Unless a mishap befalls it, a new transaction can be begun. -/
  begins : c.approach.1 = .ok () → (begin c).1 = .ok ()

theorem settled_of_idle {t : Tables} {c : Connection} (stored : c.stored = t)
    (idle : c.working = none) : Settled t c where
  stored := stored
  idle := idle
  undone := undo_outside c idle
  begins := begin_of_approach c idle

/-- The ends of a transaction that was begun when these tables were stored. -/
structure Ends (t : Tables) (inside : Connection) : Prop where
  commits : (commit inside).1 = .ok () ↔
    inside.approach.1 = .ok () ∧ inside.tables.brokenReference = false
  committed : (commit inside).1 = .ok () → Settled inside.tables (commit inside).2
  notCommitted : ∀ failure, (commit inside).1 = .error failure → Settled t (commit inside).2
  finished : ∀ {α : Type} (a : α), (commit inside).1 = .ok () →
    (finish (.ok a) inside).1 = .ok a ∧ Settled inside.tables (finish (.ok a) inside).2
  notFinished : ∀ {α : Type} (a : α) failure, (commit inside).1 = .error failure →
    (finish (.ok a) inside).1 = .error failure ∧ Settled t (finish (.ok a) inside).2
  undoneByFinish : ∀ {α : Type} (cause : Failure), ∃ failure,
    (finish (.error cause) inside : Except Failure α × Connection).1 = .error failure ∧
      Settled t (finish (.error cause) inside : Except Failure α × Connection).2
  rolledBack : ∀ {α : Type} (cause : Option Failure), ∃ failure,
    (rollback cause inside : Except Failure α × Connection).1 = .error failure ∧
      (failure = .rollbackWithoutCause .succeeded ↔ cause = none) ∧
      Settled t (rollback cause inside : Except Failure α × Connection).2
  dropped : ∀ results, Settled t (Session.runEnding .drop results inside).2

/-- Only without a cause the failure is that there was none. -/
theorem reported_eq_iff (cause : Option Failure) (outcome : RollbackOutcome) :
    reported cause outcome = .rollbackWithoutCause outcome ↔ cause = none := by
  cases cause with
  | none => exact iff_of_true rfl rfl
  | some failure =>
    apply iff_of_false _ (Option.some_ne_none failure)
    cases failure <;> exact nofun

theorem ends {t : Tables} {inside : Connection} (stillOpen : inside.working.isSome)
    (stored : inside.stored = t) : Ends t inside := by
  have committed (succeeded : (commit inside).1 = .ok ()) :
      Settled inside.tables (commit inside).2 := by
    rw [commit_connection]
    exact settled_of_idle (inside.commit_stored ((commit_succeeds inside).mp succeeded))
      inside.commit_idle
  have notCommitted (failure : Failure) (failed : (commit inside).1 = .error failure) :
      Settled t (commit inside).2 := by
    have kept := commit_stored_of_error inside stillOpen failure failed
    refine settled_of_idle (kept.trans stored) ?_
    rw [commit_connection]
    exact inside.commit_idle
  have undone : Settled t (undo inside).2 := by
    rw [undo_connection]
    have kept := Connection.rollback_stored fun _ => stillOpen
    exact settled_of_idle (kept.trans stored) inside.rollback_idle
  exact {
    commits := (commit_succeeds inside).trans (inside.commit_ok_iff stillOpen)
    committed
    notCommitted
    finished := by
      intro α a succeeded
      rw [finish_ok, succeeded]
      exact ⟨rfl, committed succeeded⟩
    notFinished := by
      intro α a failure failed
      rw [finish_ok, failed]
      exact ⟨rfl, notCommitted failure failed⟩
    undoneByFinish := fun cause => ⟨_, rfl, undone⟩
    rolledBack := by
      intro α cause
      refine ⟨_, rfl, ?_, undone⟩
      rw [undo_inside inside stillOpen]
      exact reported_eq_iff cause .succeeded
    dropped := fun _ => undone }

end Transaction

/-! ## Runs -/

namespace Session

theorem runEnding_idle (ending : Ending) (results : Results) (c : Connection) :
    (runEnding ending results c).2.working = none := by
  cases ending with
  | commit =>
    change (Transaction.commit c).2.working = none
    rw [Transaction.commit_connection]
    exact c.commit_idle
  | finish => exact Transaction.finish_idle _ c
  | rollback | drop =>
    change (Transaction.undo c).2.working = none
    rw [Transaction.undo_connection]
    exact c.rollback_idle

theorem run_idle (now : Instant) (steps : List Step) (ending : Ending) (c : Connection)
    (idle : c.working = none) : (run now steps ending c).2.working = none := by
  have notBegun := Transaction.begin_idle c idle
  change (Action.andThen Transaction.begin _ c).2.working = none
  unfold Action.andThen
  split
  next => exact runEnding_idle ending _ _
  next found => rw [found] at notBegun; exact notBegun _ rfl

end Session

/-- Nothing that callers do leaves a transaction open. -/
theorem Work.afterAll_idle (works : List (Instant × Work)) (c : Connection)
    (idle : c.working = none) : (Work.afterAll works c).working = none := by
  induction works generalizing c with
  | nil => exact idle
  | cons work rest ih =>
    apply ih
    obtain ⟨now, work⟩ := work
    cases work with
    | perform operation => exact (Store.atomic_perform now operation).idle c idle
    | session steps ending => exact Session.run_idle now steps ending c idle

section Runs

variable (foreignKeys inMemory : Bool) (t : Tables) (mishaps : List (Option Mishap))
  (now : Instant) (steps : List Step)

/-- Whatever the steps of a transaction do, and however many of them fail, it stays open unless the
database is made to roll it back by itself. -/
theorem steps_stay_open (quiet : .rollback ∉ t.triggers)
    (gentle : ∀ mishap, some mishap ∈ mishaps → mishap.endsTransaction = false) :
    let before : Connection := { foreignKeys, inMemory, stored := t, mishaps }
    (Transaction.begin before).1 = .ok () →
      (Session.runSteps now steps (Transaction.begin before).2).2.working.isSome := by
  intro before begun
  have steady : (Transaction.begin before).2.Steady foreignKeys := by
    refine ⟨?_, (Transaction.precedes_begin before).gentle gentle,
      Transaction.begin_inside before rfl begun⟩
    rw [Transaction.begin_connection]
    exact Connection.Satisfies.begin ⟨rfl, quiet, nofun⟩
  have stepped : (Session.runSteps now steps (Transaction.begin before).2).2.Steady foreignKeys :=
    Session.runSteps_keeps (Connection.kept_steady foreignKeys) now
      (fun step _ => step.admitted_any foreignKeys) steady
  exact stepped.inside

/-- As long as the database has not rolled a transaction back by itself, a successful commit alone
changes what is stored, whatever the steps do and however many of them fail. Every end leaves the
connection ready for the next transaction. -/
theorem transaction_ends :
    let before : Connection := { foreignKeys, inMemory, stored := t, mishaps }
    let inside := (Session.runSteps now steps (Transaction.begin before).2).2
    (Transaction.begin before).1 = .ok () → inside.working.isSome → Transaction.Ends t inside := by
  intro before inside begun stillOpen
  have keeping : inside.Keeping foreignKeys t := by
    apply Session.runSteps_keeps (Connection.kept_keeping foreignKeys t) now
      (fun step _ => step.admitted_any foreignKeys)
    rw [Transaction.begin_connection]
    exact ⟨before.precedes_begin.foreignKeys, fun _ => before.begin_stored⟩
  exact Transaction.ends stillOpen (keeping.stored stillOpen)

end Runs

/-- The second creation of a cluster is refused, and the transaction goes on. A commit stores the
member that is added then, and a rollback stores nothing. -/
theorem refused_creation_ends :
    let cluster : Cluster := { uid := ⟨"u"⟩, name := ⟨"n"⟩ }
    let steps := [.insertCluster cluster, .insertCluster cluster, .addMembers ⟨"u"⟩ [⟨"a"⟩]]
    let before : Connection := { foreignKeys := true }
    let ran := Session.runSteps .epoch steps (Transaction.begin before).2
    let inside := ran.2
    ran.1 = [.ok none, .error .clusterExists, .ok none] ∧
      (Transaction.begin before).1 = .ok () ∧ inside.working.isSome ∧
      (Transaction.commit inside).2.stored.placedMembers.map (·.2) = ["a"] ∧
      (Transaction.rollback none inside : Except Failure Unit × Connection).1 =
        .error (.rollbackWithoutCause .succeeded) ∧
      (Transaction.rollback none inside : Except Failure Unit × Connection).2.stored = {} := by
  intro cluster steps before ran inside
  have stillOpen : inside.working.isSome :=
    steps_stay_open true false {} [] .epoch steps (by decide) nofun rfl
  have ends : Transaction.Ends {} inside :=
    transaction_ends true false {} [] .epoch steps rfl stillOpen
  obtain ⟨_, reported, without, settled⟩ := ends.rolledBack (α := Unit) none
  refine ⟨rfl, rfl, stillOpen, ?_, ?_, settled.stored⟩
  · rw [(ends.committed rfl).stored]
    rfl
  · exact reported.trans (congrArg _ (without.mpr rfl))

end Roster.Database
