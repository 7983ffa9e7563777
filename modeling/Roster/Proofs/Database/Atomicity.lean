import Roster.Database.Store
import Roster.Proofs.Database.Confined
import Roster.Proofs.Memory.Sound

/-!
A write that fails leaves the registry as it was, or else the registry is lost.

The steps of a write are confined to its transaction, so nothing but a commit that succeeds changes
what is stored. Every other way in which a write may end leaves the connection outside of any
transaction: a rollback, a rollback that finds the transaction gone, a commit that fails, and a
transaction that could not be begun. Where the transaction is gone, the connection is given up, and
a database in memory goes with it.
-/

namespace Roster.Database

open Database.Action

namespace Transaction

theorem confined_insertCluster (now : Instant) (cluster : Cluster) :
    (insertCluster now cluster).Confined :=
  confined_runUnique _ _ _

theorem confined_updateCluster (cluster : Cluster) : (updateCluster cluster).Confined :=
  (confined_runUnique _ _ _).bind confined_requireRow

theorem confined_deleteCluster (uid : ClusterUid) : (deleteCluster uid).Confined :=
  (confined_run _ _).bind confined_requireRow

theorem confined_addMembers (uid : ClusterUid) (agents : List AgentId) :
    (addMembers uid agents).Confined := by
  unfold addMembers
  split
  · exact confined_done ()
  · exact (confined_run _ _).bind fun _ => confined_runUnique _ _ _

theorem confined_deleteMembers (uid : ClusterUid) : (deleteMembers uid).Confined :=
  confined_run _ _

theorem confined_loadCluster (uid : ClusterUid) : (loadCluster uid).Confined := by
  apply (confined_read _ _).bind
  intro row
  cases row with
  | none => exact confined_fail _
  | some row => exact (confined_read _ _).bind fun _ => confined_lift _

theorem confined_putAgent (agent : AgentId) (plugin : Option String) :
    (putAgent agent plugin).Confined :=
  confined_run _ _

theorem confined_putAttestation (entry : Attestation) : (putAttestation entry).Confined := by
  apply (confined_run _ _).bind
  intro _
  apply (confined_read _ _).bind
  intro agentId
  cases agentId with
  | none => exact confined_fail _
  | some agentId => exact confined_run _ _

/-! ## Ends of a transaction -/

theorem begin_connection (c : Connection) : (begin c).2 = c.begin.2 := by
  unfold begin
  split <;> next found => rw [found]

theorem begin_inside (c : Connection) (idle : c.working = none) (begun : (begin c).1 = .ok ()) :
    (begin c).2.working.isSome := by
  have inside := c.begin_inside idle
  unfold begin at begun ⊢
  split at begun
  next found => rw [found] at inside; exact inside
  next => cases begun

theorem begin_of_approach (c : Connection) (idle : c.working = none)
    (calm : c.approach.1 = .ok ()) : (begin c).1 = .ok () := by
  have working := c.approach_working
  unfold begin Connection.begin
  split
  next => rfl
  next refused =>
    split at refused
    next found => rw [found] at calm; cases calm
    next found =>
      rw [found] at working
      split at refused
      next nested => rw [working.trans idle] at nested; cases nested
      next => cases refused

theorem begin_idle (c : Connection) (idle : c.working = none) (failure : Failure)
    (failed : (begin c).1 = .error failure) : (begin c).2.working = none := by
  have inside := c.begin_inside idle
  unfold begin at failed ⊢
  split at failed
  next => cases failed
  next found =>
    rw [found] at inside
    apply Option.not_isSome_iff_eq_none.mp
    rw [inside]
    exact Bool.false_ne_true

theorem commit_connection (c : Connection) : (commit c).2 = c.commit.2 := by
  unfold commit
  split <;> next found => rw [found]

theorem commit_stored_of_error (c : Connection) (inside : c.working.isSome) (failure : Failure)
    (failed : (commit c).1 = .error failure) : (commit c).2.stored = c.stored := by
  have stored := c.commit_stored_of_error inside
  unfold commit at failed ⊢
  split at failed
  next => cases failed
  next found => rw [found] at stored; exact stored _ rfl

theorem undo_connection (c : Connection) : (undo c).2 = c.rollback.2 := by
  unfold undo
  split <;> next found => rw [found]

/-- What a rollback comes to where there is no transaction. -/
def nothingToUndo : RollbackOutcome :=
  .failed (Refusal.noTransaction "rollback").message

theorem undo_outside (c : Connection) (idle : c.working = none) :
    undo c = (nothingToUndo, c.replaced) := by
  rw [undo, Connection.rollback_outside idle]
  rfl

theorem undo_inside (c : Connection) (inside : c.working.isSome) :
    undo c = (.succeeded, { c with working := none }) := by
  rw [undo, Connection.rollback_inside inside]

/-- A database in memory was lost upon a rollback that found no transaction. -/
structure Loses (c after : Connection) (failure : Failure) : Prop where
  inMemory : c.inMemory = true
  told : ∃ cause : Failure, failure = cause.annotate nothingToUndo
  bare : after.stored = .bare

variable {α : Type}

theorem finish_idle (result : Except Failure α) (c : Connection) :
    (finish result c).2.working = none := by
  cases result with
  | error failure =>
    change (undo c).2.working = none
    rw [undo_connection]
    exact c.rollback_idle
  | ok a =>
    have idle := c.commit_idle
    rw [← commit_connection] at idle
    change (andThen commit (fun _ => done a) c).2.working = none
    unfold andThen
    split <;> next found => rw [found] at idle; exact idle

theorem finish_stored_of_error (result : Except Failure α) (c : Connection)
    (stillOpen : ∀ a, result = .ok a → c.working.isSome) (failure : Failure)
    (failed : (finish result c).1 = .error failure) :
    (finish result c).2.stored = c.stored ∨ Loses c (finish result c).2 failure := by
  cases result with
  | error cause =>
    change (.error (cause.annotate (undo c).1) : Except Failure α) = .error failure at failed
    change (undo c).2.stored = c.stored ∨ Loses c (undo c).2 failure
    cases working : c.working with
    | some t =>
      rw [undo_inside c (working ▸ rfl)]
      exact .inl rfl
    | none =>
      rw [undo_outside c working] at failed ⊢
      cases place : c.inMemory with
      | false =>
        rw [Connection.replaced_onFile place]
        exact .inl rfl
      | true =>
        exact .inr ⟨place, ⟨cause, (Except.error.inj failed).symm⟩,
          Connection.replaced_inMemory place⟩
  | ok a =>
    have stored := commit_stored_of_error c (stillOpen a rfl)
    change (andThen commit (fun _ => done a) c).1 = .error failure at failed
    apply Or.inl
    change (andThen commit (fun _ => done a) c).2.stored = c.stored
    unfold andThen at failed ⊢
    split at failed
    next => cases failed
    next found => rw [found] at stored; exact stored _ rfl

theorem precedes_begin (c : Connection) : c.Precedes (begin c).2 := by
  rw [begin_connection]
  exact c.precedes_begin

theorem precedes_commit (c : Connection) : c.Precedes (commit c).2 := by
  rw [commit_connection]
  exact c.precedes_commit

theorem precedes_finish (result : Except Failure α) (c : Connection) :
    c.Precedes (finish result c).2 := by
  cases result with
  | error cause =>
    change c.Precedes (undo c).2
    rw [undo_connection]
    exact c.precedes_rollback
  | ok a => exact precedes_bind (precedes_commit c) fun _ => .refl

theorem precedes_atomically {body : Action α} (confined : body.Confined) (c : Connection) :
    c.Precedes (atomically body c).2 :=
  precedes_bind (precedes_begin c) fun _ later =>
    (confined.precedes later).trans (precedes_finish _ _)

/-! ## Whole writes -/

theorem atomically_idle (body : Action α) (c : Connection) (idle : c.working = none) :
    (atomically body c).2.working = none := by
  have notBegun := begin_idle c idle
  change (andThen begin (fun _ c => finish (body c).1 (body c).2) c).2.working = none
  unfold andThen
  split
  next => exact finish_idle _ _
  next found => rw [found] at notBegun; exact notBegun _ rfl

theorem atomically_stored_of_error {body : Action α} (confined : body.Confined) (c : Connection)
    (idle : c.working = none) (failure : Failure)
    (failed : (atomically body c).1 = .error failure) :
    (atomically body c).2.stored = c.stored ∨ Loses c (atomically body c).2 failure := by
  have stored : (begin c).2.stored = c.stored := by rw [begin_connection]; exact c.begin_stored
  have begun := begin_inside c idle
  have precedes := precedes_begin c
  change (andThen begin (fun _ c => finish (body c).1 (body c).2) c).1 = .error failure at failed
  change (andThen begin (fun _ c => finish (body c).1 (body c).2) c).2.stored = c.stored ∨
    Loses c (andThen begin (fun _ c => finish (body c).1 (body c).2) c).2 failure
  unfold andThen at failed ⊢
  split at failed
  next later found =>
    rw [found] at stored begun precedes
    have inside := begun rfl
    have place : (body later).2.inMemory = c.inMemory :=
      (precedes.trans (confined.precedes later)).inMemory
    rcases finish_stored_of_error _ _ (fun a => confined.inside later a inside) failure failed with
      kept | loses
    · exact .inl (kept.trans ((confined.stored later inside).trans stored))
    · exact .inr ⟨place ▸ loses.inMemory, loses.told, loses.bare⟩
  next found => rw [found] at stored; exact .inl stored

end Transaction

namespace Store

/-! ## Operations -/

/-- What a failing action leaves behind: no transaction, and the stored tables as they were unless
they are lost. -/
structure Atomic {α : Type} (action : Action α) : Prop where
  precedes : ∀ c : Connection, c.Precedes (action c).2
  stored : ∀ (c : Connection) (failure : Failure), c.working = none →
    (action c).1 = .error failure →
      (action c).2.stored = c.stored ∨ Transaction.Loses c (action c).2 failure
  idle : ∀ c : Connection, c.working = none → (action c).2.working = none

theorem atomic_of_confined {α : Type} {body : Action α} (confined : body.Confined) :
    Atomic (Transaction.atomically body) where
  precedes := Transaction.precedes_atomically confined
  stored c failure idle failed :=
    Transaction.atomically_stored_of_error confined c idle failure failed
  idle c idle := Transaction.atomically_idle body c idle

theorem atomic_of_readsOnly {α : Type} {action : Action α} (reads : action.ReadsOnly) :
    Atomic action where
  precedes := reads.precedes
  stored c _ _ _ := .inl (reads.stored c)
  idle := reads.idle

/-- An answer is given only where the action has a result, and the connection is left alone. -/
theorem answering_eq {α : Type} (answer : α → Answer) (action : Action α) (c : Connection) :
    answering answer action c = ((action c).1.map answer, (action c).2) := by
  change andThen action (fun a => done (answer a)) c = _
  unfold andThen
  split <;> next found => rw [found]; rfl

theorem Atomic.answering {α : Type} {action : Action α} (atomic : Atomic action)
    (answer : α → Answer) : Atomic (answering answer action) where
  precedes c := by
    rw [answering_eq]
    exact atomic.precedes c
  stored c failure idle failed := by
    rw [answering_eq] at failed ⊢
    cases result : (action c).1 with
    | ok a => rw [result] at failed; cases failed
    | error cause =>
      rw [result] at failed
      have same : cause = failure := Except.error.inj failed
      exact atomic.stored c failure idle (same ▸ result)
  idle c idle := by
    rw [answering_eq]
    exact atomic.idle c idle

theorem readsOnly_listAgents : listAgents.ReadsOnly :=
  (readsOnly_read _ _).bind fun _ => readsOnly_lift _

theorem readsOnly_findAgent (agent : AgentId) : (findAgent agent).ReadsOnly := by
  apply (readsOnly_read _ _).bind
  intro plugin
  cases plugin with
  | none => exact readsOnly_fail _
  | some plugin => exact readsOnly_done _

theorem readsOnly_findAttestation (agent : AgentId) : (findAttestation agent).ReadsOnly := by
  apply (readsOnly_read _ _).bind
  intro row
  cases row with
  | none => exact readsOnly_fail _
  | some row => exact readsOnly_lift _

theorem readsOnly_listClusters : listClusters.ReadsOnly :=
  (readsOnly_read _ _).bind fun _ => (readsOnly_read _ _).bind fun _ => readsOnly_lift _

theorem readsOnly_clusterOf (agent : AgentId) : (clusterOf agent).ReadsOnly := by
  apply (readsOnly_read _ _).bind
  intro name
  cases name with
  | none => exact readsOnly_fail _
  | some name => exact readsOnly_lift _

theorem readsOnly_membersOf (uid : ClusterUid) : (membersOf uid).ReadsOnly :=
  (readsOnly_read _ _).bind fun _ => readsOnly_lift _

theorem readsOnly_describeAgents (filter : AgentFilter) : (describeAgents filter).ReadsOnly :=
  (readsOnly_read _ _).bind fun _ => readsOnly_lift _

theorem confined_createCluster (now : Instant) (cluster : Cluster) :
    Action.Confined (do
      Transaction.insertCluster now cluster
      Transaction.addMembers cluster.uid cluster.members
      Transaction.loadCluster cluster.uid) :=
  (Transaction.confined_insertCluster now cluster).bind fun _ =>
    (Transaction.confined_addMembers _ _).bind fun _ => Transaction.confined_loadCluster _

theorem confined_editCluster (cluster : Cluster) :
    Action.Confined (do
      Transaction.updateCluster cluster
      Transaction.deleteMembers cluster.uid
      Transaction.addMembers cluster.uid cluster.members
      Transaction.loadCluster cluster.uid) :=
  (Transaction.confined_updateCluster cluster).bind fun _ =>
    (Transaction.confined_deleteMembers _).bind fun _ =>
      (Transaction.confined_addMembers _ _).bind fun _ => Transaction.confined_loadCluster _

theorem confined_deleteCluster (uid : ClusterUid) :
    Action.Confined (do
      Transaction.deleteMembers uid
      Transaction.deleteCluster uid) :=
  (Transaction.confined_deleteMembers uid).bind fun _ => Transaction.confined_deleteCluster uid

theorem readsOnly_answering {α : Type} {action : Action α} (reads : action.ReadsOnly)
    (answer : α → Answer) : (answering answer action).ReadsOnly :=
  reads.bind fun _ => readsOnly_done _

theorem readsOnly_perform (now : Instant) {operation : Operation}
    (reads : operation.isWrite = false) : (perform now operation).ReadsOnly := by
  cases operation with
  | listAgents => exact readsOnly_answering readsOnly_listAgents _
  | findAgent agent => exact readsOnly_answering (readsOnly_findAgent agent) _
  | findAttestation agent => exact readsOnly_answering (readsOnly_findAttestation agent) _
  | listClusters => exact readsOnly_answering readsOnly_listClusters _
  | clusterOf agent => exact readsOnly_answering (readsOnly_clusterOf agent) _
  | membersOf uid => exact readsOnly_answering (readsOnly_membersOf uid) _
  | describeAgents filter => exact readsOnly_answering (readsOnly_describeAgents filter) _
  | putAgent | putAttestation | createCluster | editCluster | deleteCluster => cases reads

/-- Every operation is all or nothing, one case for each kind of write. -/
theorem atomic_perform (now : Instant) (operation : Operation) :
    Atomic (perform now operation) := by
  cases operation with
  | putAgent agent => exact (atomic_of_confined (Transaction.confined_putAgent _ _)).answering _
  | putAttestation entry =>
    exact (atomic_of_confined (Transaction.confined_putAttestation entry)).answering _
  | createCluster cluster =>
    exact (atomic_of_confined (confined_createCluster now cluster)).answering _
  | editCluster cluster => exact (atomic_of_confined (confined_editCluster cluster)).answering _
  | deleteCluster uid => exact (atomic_of_confined (confined_deleteCluster uid)).answering _
  | listAgents | findAgent | findAttestation | listClusters | clusterOf | membersOf
  | describeAgents => exact atomic_of_readsOnly (readsOnly_perform now rfl)

/-- No run of operations leaves a transaction open. -/
theorem after_idle (steps : List (Instant × Operation)) (c : Connection)
    (idle : c.working = none) : (Registry.after steps c).working = none :=
  Registry.after_keeps (fun c : Connection => c.working = none) (fun _ => True)
    (fun now operation c _ idle => (atomic_perform now operation).idle c idle)
    steps (fun _ _ => trivial) c idle

end Store

end Roster.Database

namespace Roster

open Database

end Roster
