import Roster.Proofs.Database.Ending

/-!
What becomes of a transaction that the database rolls back by itself.

The step upon which this happens fails, and all that was done before it is undone. But the steps
that are still taken find no transaction. Each of their statements commits by itself, and no end of
the transaction takes back what they write: a rollback finds nothing to undo, and a commit fails
without undoing anything. A step that fails is no exception, for an earlier statement of it may have
written something.

Upon the end of such a transaction the connection is given up. A file keeps what was written, and a
database in memory is lost with the connection.
-/

namespace Roster.Database

open Database.Action

theorem Step.confined_action (now : Instant) (step : Step) : (step.action now).Confined := by
  cases step with
  | insertCluster cluster =>
    exact (Transaction.confined_insertCluster now cluster).bind fun _ => confined_done _
  | updateCluster cluster =>
    exact (Transaction.confined_updateCluster cluster).bind fun _ => confined_done _
  | deleteCluster uid =>
    exact (Transaction.confined_deleteCluster uid).bind fun _ => confined_done _
  | addMembers uid agents =>
    exact (Transaction.confined_addMembers uid agents).bind fun _ => confined_done _
  | deleteMembers uid =>
    exact (Transaction.confined_deleteMembers uid).bind fun _ => confined_done _
  | loadCluster uid => exact (Transaction.confined_loadCluster uid).bind fun _ => confined_done _
  | putAgent agent plugin =>
    exact (Transaction.confined_putAgent agent plugin).bind fun _ => confined_done _
  | putAttestation entry =>
    exact (Transaction.confined_putAttestation entry).bind fun _ => confined_done _

theorem Transaction.readsOnly_loadCluster (uid : ClusterUid) : (loadCluster uid).ReadsOnly := by
  apply (readsOnly_read _ _).bind
  intro row
  cases row with
  | none => exact readsOnly_fail _
  | some row => exact (readsOnly_read _ _).bind fun _ => readsOnly_lift _

theorem Step.readsOnly_loadCluster (now : Instant) (uid : ClusterUid) :
    ((Step.loadCluster uid).action now).ReadsOnly :=
  (Transaction.readsOnly_loadCluster uid).bind fun _ => readsOnly_done _

/-! ## Ends without a transaction -/

namespace Transaction

/-- Where the connection is given up, what is stored in a file stays as it was, and a database in
memory is lost. Either way there is nothing to be undone. -/
structure GivenUp (inside after : Connection) : Prop where
  onFile : inside.inMemory = false → after.stored = inside.stored
  inMemory : inside.inMemory = true → after.stored = .bare
  idle : after.working = none
  undone : undo after = (nothingToUndo, after.replaced)

theorem givenUp_replaced (c : Connection) : GivenUp c c.replaced where
  onFile := fun onFile => by rw [Connection.replaced_onFile onFile]
  inMemory := Connection.replaced_inMemory
  idle := rfl
  undone := undo_outside _ rfl

theorem commit_outside (c : Connection) (idle : c.working = none) :
    (∃ failure, (commit c).1 = .error failure) ∧ (commit c).2 = c.approach.2.replaced := by
  have outside : c.approach.2.working = none := c.approach_working.trans idle
  rcases c.commit_cases with ⟨refusal, undone, _⟩ | ⟨t, _, inside, _, _⟩
  · obtain ⟨told, refused⟩ := c.approach.2.undoCommit_refused refusal
    have failed : c.commit.1 = .error told := undone ▸ refused
    constructor
    · unfold commit
      split
      next found => rw [found] at failed; cases failed
      next => exact ⟨_, rfl⟩
    · rw [commit_connection, undone, Connection.undoCommit_connection,
        Connection.rollback_outside outside]
  · rw [idle] at inside
    cases inside

/-- The ends of a transaction that is gone. None of them succeeds, and none of them takes back what
is stored. -/
structure EndsOutside (inside : Connection) : Prop where
  commits : ∃ failure, (commit inside).1 = .error failure ∧ GivenUp inside (commit inside).2
  finished : ∀ {α : Type} (a : α), ∃ failure, (finish (.ok a) inside).1 = .error failure ∧
    GivenUp inside (finish (.ok a) inside).2
  undoneByFinish : ∀ {α : Type} (cause : Failure),
    (finish (.error cause) inside : Except Failure α × Connection).1 =
        .error (cause.annotate nothingToUndo) ∧
      GivenUp inside (finish (.error cause) inside : Except Failure α × Connection).2
  rolledBack : ∀ {α : Type} (cause : Option Failure),
    (rollback cause inside : Except Failure α × Connection).1 =
        .error (reported cause nothingToUndo) ∧
      GivenUp inside (rollback cause inside : Except Failure α × Connection).2
  dropped : ∀ results, GivenUp inside (Session.runEnding .drop results inside).2

theorem endsOutside (inside : Connection) (gone : inside.working = none) :
    EndsOutside inside := by
  obtain ⟨⟨failure, failed⟩, left⟩ := commit_outside inside gone
  have notCommitted : GivenUp inside (commit inside).2 := by
    have given := givenUp_replaced inside.approach.2
    rw [left]
    exact {
      onFile := fun onFile =>
        (given.onFile (inside.precedes_approach.inMemory.trans onFile)).trans inside.approach_stored
      inMemory := fun inMemory =>
        given.inMemory (inside.precedes_approach.inMemory.trans inMemory)
      idle := given.idle
      undone := given.undone }
  have undone := undo_outside inside gone
  have given := givenUp_replaced inside
  refine ⟨⟨failure, failed, notCommitted⟩, ?_, ?_, ?_, ?_⟩
  · intro α a
    rw [finish_ok, failed]
    exact ⟨failure, rfl, notCommitted⟩
  · intro α cause
    change (Except.error (cause.annotate (undo inside).1) : Except Failure α) = _ ∧
      GivenUp _ (undo inside).2
    rw [undone]
    exact ⟨rfl, given⟩
  · intro α cause
    change (Except.error (reported cause (undo inside).1) : Except Failure α) = _ ∧
      GivenUp _ (undo inside).2
    rw [undone]
    exact ⟨rfl, given⟩
  · intro results
    change GivenUp _ (undo inside).2
    rw [undone]
    exact given

end Transaction

/-! ## The step upon which the transaction is lost -/

namespace Session

variable (now : Instant)

theorem precedes_runSteps (steps : List Step) (c : Connection) :
    c.Precedes (runSteps now steps c).2 := by
  induction steps generalizing c with
  | nil => exact .refl c
  | cons step rest ih => exact ((step.confined_action now).precedes c).trans (ih _)

theorem runSteps_append (earlier later : List Step) (c : Connection) :
    (runSteps now (earlier ++ later) c).2 =
      (runSteps now later (runSteps now earlier c).2).2 := by
  induction earlier generalizing c with
  | nil => rfl
  | cons step rest ih => exact ih (step.action now c).2

/-- The transaction is open until the step is taken, and gone afterwards. -/
structure Loses (opened : Connection) (earlier : List Step) (step : Step) : Prop where
  stillOpen : (runSteps now earlier opened).2.working.isSome
  gone : (step.action now (runSteps now earlier opened).2).2.working = none

/-- Where a transaction is open at first and gone in the end, there is a step that loses it. -/
theorem loses_of_idle {steps : List Step} {opened : Connection} (stillOpen : opened.working.isSome)
    (gone : (runSteps now steps opened).2.working = none) :
    ∃ earlier step later, steps = earlier ++ step :: later ∧ Loses now opened earlier step := by
  induction steps generalizing opened with
  | nil =>
    change opened.working = none at gone
    rw [gone] at stillOpen
    cases stillOpen
  | cons step rest ih =>
    cases left : (step.action now opened).2.working with
    | none => exact ⟨[], step, rest, rfl, stillOpen, left⟩
    | some t =>
      have openStill : (step.action now opened).2.working.isSome := left ▸ rfl
      obtain ⟨earlier, loser, later, rfl, loses⟩ := ih openStill gone
      exact ⟨step :: earlier, loser, later, rfl, loses.stillOpen, loses.gone⟩

/-- No step opens a transaction. -/
theorem runSteps_idle (steps : List Step) {c : Connection} (idle : c.working = none) :
    (runSteps now steps c).2.working = none := by
  have kept : Connection.Kept (.any c.foreignKeys) fun later =>
      later.foreignKeys = c.foreignKeys ∧ later.working = none := {
    foreignKeys := fun _ holds => holds.1
    select := fun later query holds =>
      ⟨(later.precedes_select query).foreignKeys.trans holds.1, later.select_idle query holds.2⟩
    execute := fun later change holds _ =>
      ⟨(later.precedes_execute change).foreignKeys.trans holds.1,
        later.execute_idle change holds.2⟩ }
  exact (runSteps_keeps kept now (fun step _ => step.admitted_any _) ⟨rfl, idle⟩).2

theorem runSteps_stored_of_reads {steps : List Step}
    (reads : ∀ step ∈ steps, (step.action now).ReadsOnly) (c : Connection) :
    (runSteps now steps c).2.stored = c.stored := by
  induction steps generalizing c with
  | nil => rfl
  | cons step rest ih =>
    calc (runSteps now (step :: rest) c).2.stored
      _ = (step.action now c).2.stored :=
        ih (fun other member => reads other (List.mem_cons_of_mem _ member)) _
      _ = c.stored := (reads step List.mem_cons_self).stored c

/-- What is left of a transaction that was begun when these tables were stored, if it was lost upon
the given step. -/
structure Aftermath (foreignKeys : Bool) (t : Tables) (opened : Connection)
    (earlier : List Step) (step : Step) (later : List Step) (inside : Connection) : Prop where
  failed : ∃ failure, (step.action now (runSteps now earlier opened).2).1 = .error failure
  /-- All that was done so far is undone. -/
  undone : (step.action now (runSteps now earlier opened).2).2 =
    { foreignKeys, inMemory := opened.inMemory, stored := t,
      mishaps := (step.action now (runSteps now earlier opened).2).2.mishaps }
  /-- The other steps are taken on their own. -/
  goesOn : inside =
    (runSteps now later (step.action now (runSteps now earlier opened).2).2).2
  ends : Transaction.EndsOutside inside
  harmless : (∀ step ∈ later, ∃ uid, step = .loadCluster uid) → inside.stored = t

theorem aftermath {foreignKeys : Bool} {t : Tables} {opened : Connection}
    (keeping : opened.Keeping foreignKeys t) {earlier : List Step} {step : Step}
    (loses : Loses now opened earlier step) (later : List Step) :
    Aftermath now foreignKeys t opened earlier step later
      (runSteps now (earlier ++ step :: later) opened).2 := by
  have confined := step.confined_action now
  have reached : (runSteps now earlier opened).2.Keeping foreignKeys t :=
    runSteps_keeps (Connection.kept_keeping foreignKeys t) now
      (fun step _ => step.admitted_any foreignKeys) keeping
  have setting : (step.action now (runSteps now earlier opened).2).2.foreignKeys = foreignKeys :=
    (Step.keeps_action (Connection.kept_keeping foreignKeys t) now
      (step.admitted_any foreignKeys) _ reached).foreignKeys
  have stored : (step.action now (runSteps now earlier opened).2).2.stored = t :=
    (confined.stored _ loses.stillOpen).trans (reached.stored loses.stillOpen)
  have goesOn : (runSteps now (earlier ++ step :: later) opened).2 =
      (runSteps now later (step.action now (runSteps now earlier opened).2).2).2 :=
    runSteps_append now earlier (step :: later) opened
  refine ⟨?_, ?_, goesOn, ?_, ?_⟩
  · cases result : (step.action now (runSteps now earlier opened).2).1 with
    | error failure => exact ⟨failure, rfl⟩
    | ok told =>
      -- A step that succeeds leaves the transaction open.
      have inside := confined.inside _ told loses.stillOpen result
      rw [loses.gone] at inside
      cases inside
  · have place : (step.action now (runSteps now earlier opened).2).2.inMemory = opened.inMemory :=
      ((precedes_runSteps now earlier opened).trans (confined.precedes _)).inMemory
    cases left : (step.action now (runSteps now earlier opened).2).2 with
    | mk setting' place' stored' working mishaps =>
      rw [left] at setting stored place
      have gone := loses.gone
      rw [left] at gone
      cases setting
      cases stored
      cases place
      cases gone
      rfl
  · rw [goesOn]
    exact Transaction.endsOutside _ (runSteps_idle now later loses.gone)
  · intro loads
    rw [goesOn, runSteps_stored_of_reads, stored]
    intro other member
    obtain ⟨uid, rfl⟩ := loads other member
    exact Step.readsOnly_loadCluster now uid

end Session

/-! ## Runs -/

section Runs

variable (foreignKeys inMemory : Bool) (t : Tables) (mishaps : List (Option Mishap))
  (now : Instant) (steps : List Step)

/-- A transaction that is gone in the end was lost upon one of its steps. Wherever that happens, the
tables are stored as they were at the beginning once the step has failed, and from there on the
remaining steps change what is stored. No end takes that back. So the tables in a file are those of
the beginning in the end if the remaining steps only load clusters, but not in general. -/
theorem transaction_lost :
    let before : Connection := { foreignKeys, inMemory, stored := t, mishaps }
    let opened := (Transaction.begin before).2
    let inside := (Session.runSteps now steps opened).2
    (Transaction.begin before).1 = .ok () →
      (inside.working = none → ∃ earlier step later,
        steps = earlier ++ step :: later ∧ Session.Loses now opened earlier step) ∧
      ∀ earlier step later, steps = earlier ++ step :: later →
        Session.Loses now opened earlier step →
          Session.Aftermath now foreignKeys t opened earlier step later inside := by
  intro before opened inside begun
  have stillOpen : opened.working.isSome := Transaction.begin_inside before rfl begun
  have keeping : opened.Keeping foreignKeys t := by
    change Connection.Keeping foreignKeys t (Transaction.begin before).2
    rw [Transaction.begin_connection]
    exact ⟨before.precedes_begin.foreignKeys, fun _ => before.begin_stored⟩
  refine ⟨Session.loses_of_idle now stillOpen, ?_⟩
  rintro earlier step later same loses
  have left := Session.aftermath now keeping loses later
  rw [← same] at left
  exact left

end Runs

/-- The transaction is lost upon the creation of a cluster, and nothing is written after that. A
rollback finds nothing to undo, but the agent that was added before the loss is not stored. -/
theorem refused_creation_lost :
    let cluster : Cluster := { uid := ⟨"u"⟩, name := ⟨"n"⟩ }
    let steps : List Step := [.putAgent ⟨"a"⟩ none, .insertCluster cluster, .loadCluster ⟨"u"⟩]
    let before : Connection := { foreignKeys := true, stored := { triggers := [.rollback] } }
    let opened := (Transaction.begin before).2
    let inside := (Session.runSteps .epoch steps opened).2
    (Transaction.begin before).1 = .ok () ∧ inside.working = none ∧
      Session.Loses .epoch opened [.putAgent ⟨"a"⟩ none] (.insertCluster cluster) ∧
      inside.stored = before.stored ∧
      (Transaction.rollback none inside : Except Failure Unit × Connection).1 =
        .error (.rollbackWithoutCause
          (.failed "cannot rollback - no transaction is active")) ∧
      (Transaction.rollback none inside : Except Failure Unit × Connection).2.stored =
        before.stored := by
  intro cluster steps before opened inside
  have loses : Session.Loses .epoch opened [.putAgent ⟨"a"⟩ none] (.insertCluster cluster) :=
    ⟨rfl, rfl⟩
  have lost := transaction_lost true false { triggers := [.rollback] } [] .epoch steps rfl
  have left := lost.2 _ _ [.loadCluster ⟨"u"⟩] rfl loses
  have harmless : inside.stored = before.stored := left.harmless (by simp)
  obtain ⟨told, given⟩ := left.ends.rolledBack (α := Unit) none
  exact ⟨rfl, rfl, loses, harmless, told, (given.onFile rfl).trans harmless⟩

/-- The same loss, but then an agent is added. It is stored for good, whichever way the transaction
ends, although no end succeeds. -/
theorem agent_stored_after_loss :
    let cluster : Cluster := { uid := ⟨"u"⟩, name := ⟨"n"⟩ }
    let steps : List Step :=
      [.insertCluster cluster, .putAgent ⟨"a"⟩ none, .insertCluster cluster]
    let before : Connection := { foreignKeys := true, stored := { triggers := [.rollback] } }
    let ran := Session.runSteps .epoch steps (Transaction.begin before).2
    let lost : Failure := Statement.insertCluster.failure .injectedRollback
    (Transaction.begin before).1 = .ok () ∧
      ran.1 = [.error lost, .ok none, .error lost] ∧
      (∃ failure, (Session.runEnding .commit ran.1 ran.2).1 = .error failure) ∧
      ∀ ending, (Session.runEnding ending ran.1 ran.2).2.stored ≠ before.stored ∧
        (Session.runEnding ending ran.1 ran.2).2.stored.agents.map (·.spiffeid) = ["a"] := by
  intro cluster steps before ran lost
  refine ⟨rfl, rfl, ⟨_, rfl⟩, ?_⟩
  intro ending
  have stored : (Session.runEnding ending ran.1 ran.2).2.stored.agents.map (·.spiffeid) = ["a"] :=
    by cases ending <;> rfl
  refine ⟨fun same => ?_, stored⟩
  rw [same] at stored
  cases stored

end Roster.Database
