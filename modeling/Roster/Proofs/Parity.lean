import Roster.Proofs.Database.Simulation
import Roster.Proofs.Failure
import Roster.Proofs.Memory.Clusters
import Roster.Proofs.Memory.Integrity

/-!
Callers cannot tell a registry in a database from one in memory, apart from what a failed write says
of its rollback.

A request that passes the checks asks for an operation on tidy values, so a database that holds the
registry in memory still does so afterwards, as long as the operation fits. A write fails in memory for a conflict only, which
keeps its kind when the outcome of the rollback is added.
-/

namespace Roster

open Database

namespace Memory

variable {m : Memory}

/-- The failures of a write, of which each is a conflict. -/
theorem write_error {now : Instant} {operation : Operation}
    (write : operation.isWrite = true) {failure : Failure}
    (failed : (m.perform now operation).1 = .error failure) :
    failure = .clusterMissing ∨ failure = .clusterExists ∨ failure = .agentAssigned := by
  cases operation with
  | putAgent agent => cases failed
  | putAttestation entry => cases failed
  | createCluster cluster => exact .inr (error_createCluster (publish_error failed).1)
  | editCluster cluster => exact error_editCluster (publish_error failed).1
  | deleteCluster uid =>
    exact .inl (error_deleteCluster (of_map_eq_error (publish_error failed).1))
  | listAgents | findAgent | findAttestation | listClusters | clusterOf | membersOf
  | describeAgents => cases write

theorem write_error_conflict {now : Instant} {operation : Operation}
    (write : operation.isWrite = true) {failure : Failure}
    (failed : (m.perform now operation).1 = .error failure) :
    ∃ text, failure = .conflict text := by
  rcases write_error write failed with rfl | rfl | rfl <;> exact ⟨_, rfl⟩

end Memory

/-! ## Requests -/

def Request.isWrite : Request → Bool
  | .registerAgent _ _ | .recordSelectors _ _ _ | .createCluster _ _ | .editCluster _ _
  | .deleteCluster _ => true
  | _ => false

theorem Request.isWrite_of_check {fresh : ClusterUid} {request : Request} {operation : Operation}
    (checked : request.check fresh = .ok operation) : operation.isWrite = request.isWrite := by
  cases request with
  | listAgents | listClusters => cases checked; rfl
  | recordSelectors agent plugin selectors =>
    obtain ⟨_, _, rest⟩ := of_bind_eq_ok checked
    obtain ⟨_, _, rest⟩ := of_bind_eq_ok rest
    cases rest
    rfl
  | createCluster uid draft =>
    obtain ⟨_, _, _, _, rfl⟩ := Request.of_check_createCluster checked
    rfl
  | editCluster uid draft =>
    obtain ⟨_, _, rest⟩ := of_bind_eq_ok checked
    obtain ⟨_, _, rest⟩ := of_bind_eq_ok rest
    cases rest
    rfl
  | registerAgent | agentPlugin | agentSelectors | deleteCluster | clusterAgents | agentCluster
  | agentsMetadata =>
    obtain ⟨_, _, rest⟩ := of_bind_eq_ok checked
    cases rest
    rfl

/-- What a caller gets from a registry in memory and from one in a database: the same answer, the
same problem with a text, or failures of one kind with the same message, to which a write adds that
it was rolled back. -/
def Agrees (isWrite : Bool) : Except Denial Answer → Except Denial Answer → Prop
  | .ok inMemory, .ok inDatabase => inDatabase = inMemory
  | .error (.invalid inMemory), .error (.invalid inDatabase) => inDatabase = inMemory
  | .error (.failed inMemory), .error (.failed inDatabase) =>
    inDatabase.kind = inMemory.kind ∧
      inDatabase.message = inMemory.message ++
        (if isWrite then ": [Successful rollback upon error]" else "")
  | _, _ => False

theorem agrees_of_failure {m : Memory} {now : Instant} {operation : Operation} {failure : Failure}
    (failed : (m.perform now operation).1 = .error failure) :
    Agrees operation.isWrite (.error (.failed failure)) (.error (.failed
      (if operation.isWrite then failure.annotate .succeeded else failure))) := by
  cases write : operation.isWrite with
  | false => exact ⟨rfl, (String.append_empty).symm⟩
  | true =>
    obtain ⟨text, rfl⟩ := Memory.write_error_conflict write failed
    refine ⟨rfl, ?_⟩
    rw [if_pos rfl, if_pos rfl, Failure.annotate_conflict_message, String.append_assoc]
    rfl

/-- As many values can be bound as the operation takes that the call asks for. -/
def Call.Fits (call : Call) : Prop :=
  ∀ operation, call.Asks operation → operation.Fits

/-- One request, served by both registries. -/
theorem serve_agrees {c : Connection} {m : Memory} (holds : Holds c m) (now : Instant)
    {fresh : ClusterUid} (tidy : fresh.Tidy) {request : Request}
    (room : ∀ operation, request.check fresh = .ok operation → operation.Fits) :
    Agrees request.isWrite (serve now fresh request m).1 (serve now fresh request c).1 ∧
      Holds (serve now fresh request c).2 (serve now fresh request m).2 := by
  cases checked : request.check fresh with
  | error reason =>
    rw [serve_of_invalid checked, serve_of_invalid checked]
    exact ⟨rfl, holds⟩
  | ok operation =>
    obtain ⟨outcome, kept⟩ :=
      Store.perform_answers holds now (Request.tidy_of_check tidy checked) (room operation checked)
    rw [serve_of_check checked, serve_of_check checked, ← Request.isWrite_of_check checked]
    refine ⟨?_, kept⟩
    change Agrees operation.isWrite
      (((m.perform now operation).1.map operation.receipt).mapError .failed)
      (((Store.perform now operation c).1.map operation.receipt).mapError .failed)
    rw [outcome]
    cases result : (m.perform now operation).1 with
    | ok answer =>
      rw [Operation.told_ok]
      exact rfl
    | error failure =>
      rw [Operation.told_error]
      exact agrees_of_failure result

/-- Whatever requests that fit a registry in memory and one in a database serve from the start, with
the same instants and the same digits drawn for uids, they give the same answers. -/
theorem stores_agree (settings : Settings) (calls : List Call) (call : Call)
    (room : ∀ asked ∈ call :: calls, asked.Fits) :
    Agrees call.request.isWrite (call.serve (Call.afterAll calls ({} : Memory))).1
      (call.serve (Call.afterAll calls (Connection.connect settings))).1 := by
  have holds : Holds (Call.afterAll calls (Connection.connect settings))
      (Call.afterAll calls ({} : Memory)) := by
    apply Call.afterAll_related Holds Call.Fits _ calls _ _ _ (holds_connect settings)
    · intro earlier c m fits holds
      exact (serve_agrees holds earlier.now (ClusterUid.tidy_ofNibbles earlier.nibbles) fits).2
    · exact fun earlier member => room earlier (List.mem_cons_of_mem _ member)
  have fits := room call List.mem_cons_self
  exact (serve_agrees holds call.now (ClusterUid.tidy_ofNibbles call.nibbles) fits).1

/-- A cluster is refused in memory and in a database since its member belongs to another one. -/
theorem refusals_agree :
    let first : Call :=
      ⟨.epoch, fun _ => 0, .createCluster (some "u") { name := "n", members := ["a"] }⟩
    let second : Call :=
      ⟨.epoch, fun _ => 0, .createCluster (some "v") { name := "o", members := [" a "] }⟩
    (∀ asked ∈ [second, first], asked.Fits) ∧
      (second.serve (Call.afterAll [first] ({} : Memory))).1 =
        .error (.failed .agentAssigned) ∧
      Agrees true (.error (.failed .agentAssigned))
        (second.serve (Call.afterAll [first] (Connection.connect {}))).1 := by
  intro first second
  have room : ∀ asked ∈ [second, first], asked.Fits := by
    intro asked member operation asks
    rcases List.mem_pair.mp member with rfl | rfl <;>
    · cases Except.ok.inj asks
      exact of_decide_eq_true rfl
  have refused : (second.serve (Call.afterAll [first] ({} : Memory))).1 =
      .error (.failed .agentAssigned) := by decide +kernel
  refine ⟨room, refused, ?_⟩
  rw [← refused]
  exact stores_agree {} [first] second room

end Roster
