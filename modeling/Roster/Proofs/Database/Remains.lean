import Roster.Proofs.Database.Achieved
import Roster.Proofs.Database.Batches
import Roster.Proofs.Database.Loss

/-!
What a step that fails leaves to the rest of its transaction.

A statement that is refused does nothing, so a step of one statement leaves the tables as they were.
A step that finds that its statement met no row has changed none. That leaves the steps of two
statements that write, which may fail after the first one. The first one adds the agents that the
step names and that are not known yet.
-/

namespace Roster.Database

open Database.Action

variable {α β : Type} {t t' : Tables} {c c' : Connection}

namespace Connection

theorem open_before_refusal {refusal : Refusal}
    (stillOpen : (c.afterRefusal refusal).working = some t) : c.working = some t := by
  unfold afterRefusal at stillOpen
  split at stillOpen
  next => cases stillOpen
  next => exact stillOpen

/-- A statement that reads and is refused leaves the transaction as it was, if it is still open. -/
theorem select_left {query : Tables → Except Refusal α} {refusal : Refusal}
    (refused : c.select query = (.error refusal, c')) (stillOpen : c'.working = some t) :
    c.working = some t := by
  have working := c.approach_working
  unfold select at refused
  split at refused
  next found =>
    cases refused
    rw [found] at working
    exact working.symm.trans (open_before_refusal stillOpen)
  next found =>
    rw [found] at working
    rw [← working, ← stillOpen, ← (Prod.mk.inj refused).2]

/-- A statement that writes and is refused leaves the transaction as it was, if it is still open. -/
theorem execute_left {change : Tables → Except Refusal (α × Tables)} {refusal : Refusal}
    (refused : c.execute change = (.error refusal, c')) (stillOpen : c'.working = some t) :
    c.working = some t := by
  have working := c.approach_working
  unfold execute at refused
  split at refused
  next found =>
    cases refused
    rw [found] at working
    exact working.symm.trans (open_before_refusal stillOpen)
  next later found =>
    rw [found] at working
    split at refused
    next =>
      cases refused
      exact working.symm.trans (open_before_refusal stillOpen)
    next =>
      split at refused
      next => cases refused
      next outside =>
        split at refused
        · cases refused
          exact working.symm.trans stillOpen
        · cases refused

end Connection

namespace Action

/-- What an action comes to inside of a transaction with the given tables: a result and tables if it
succeeds, and tables that are left if it fails and the transaction is still open. -/
structure Leaves (action : Action α) (t : Tables) (reached : α → Tables → Prop)
    (left : Tables → Prop) : Prop where
  succeeds : ∀ (c c' : Connection) (a : α), c.working = some t → action c = (.ok a, c') →
    ∃ t', c'.working = some t' ∧ reached a t'
  fails : ∀ (c c' : Connection) (failure : Failure) (t' : Tables), c.working = some t →
    action c = (.error failure, c') → c'.working = some t' → left t'

variable {reached : α → Tables → Prop} {left : Tables → Prop}

theorem leaves_done (a : α) (t : Tables) (left : Tables → Prop) :
    (done a).Leaves t (fun _ t' => t' = t) left where
  succeeds _ _ _ opened did := by cases did; exact ⟨t, opened, rfl⟩
  fails _ _ _ _ _ failed := by cases failed

theorem leaves_fail (failure : Failure) (t : Tables) (reached : α → Tables → Prop) :
    (fail failure : Action α).Leaves t reached (· = t) where
  succeeds _ _ _ _ did := by cases did
  fails _ _ _ _ opened failed stillOpen := by
    cases failed
    exact Option.some.inj (stillOpen.symm.trans opened)

theorem leaves_lift (result : Except Failure α) (t : Tables) :
    (lift result).Leaves t (fun _ t' => t' = t) (· = t) := by
  cases result with
  | error failure => exact leaves_fail failure t _
  | ok a => exact leaves_done a t _

theorem Leaves.bind {between : α → Tables → Prop} {reached : β → Tables → Prop}
    {first : Action α} {second : α → Action β} (leaves : first.Leaves t between left)
    (next : ∀ a t', between a t' → (second a).Leaves t' reached left) :
    (first >>= second).Leaves t reached left where
  succeeds c last b opened did := by
    obtain ⟨a, later, done, rest⟩ := of_bind did
    obtain ⟨t', inside, came⟩ := leaves.succeeds c later a opened done
    exact (next a t' came).succeeds later last b inside rest
  fails c last failure t' opened failed stillOpen := by
    change andThen first second c = _ at failed
    unfold andThen at failed
    split at failed
    next a later done =>
      obtain ⟨between', inside, came⟩ := leaves.succeeds c later a opened done
      exact (next a between' came).fails later last failure t' inside failed stillOpen
    next refused =>
      cases failed
      exact leaves.fails c _ _ t' opened refused stillOpen

theorem Leaves.imp {action : Action α} {further : α → Tables → Prop} {wider : Tables → Prop}
    (leaves : action.Leaves t reached left) (furthers : ∀ a t', reached a t' → further a t')
    (widens : ∀ t', left t' → wider t') : action.Leaves t further wider where
  succeeds c c' a opened did := by
    obtain ⟨t', inside, came⟩ := leaves.succeeds c c' a opened did
    exact ⟨t', inside, furthers a t' came⟩
  fails c c' failure t' opened failed stillOpen :=
    widens t' (leaves.fails c c' failure t' opened failed stillOpen)

/-- What is told of a success is nothing to the tables. -/
theorem Leaves.tells {action : Action α} {wider : Tables → Prop}
    (leaves : action.Leaves t reached left) (told : α → β) (widens : ∀ t', left t' → wider t') :
    (action >>= fun a => done (told a)).Leaves t (fun _ _ => True) wider := by
  apply (leaves.imp (fun _ _ => id) widens).bind
  intro a t' _
  exact (leaves_done (told a) t' _).imp (fun _ _ _ => trivial) fun _ => id

/-- However a refusal is told, a statement that writes does its change or nothing. -/
theorem leaves_of_execute {action : Action α} (tell : Refusal → Failure)
    (change : Bool → Tables → Except Refusal (α × Tables))
    (acts : ∀ c, action c = match c.execute (change c.foreignKeys) with
      | (.ok a, c) => (.ok a, c)
      | (.error refusal, c) => (.error (tell refusal), c)) (t : Tables) :
    action.Leaves t (fun a t' => ∃ foreignKeys, change foreignKeys t = .ok (a, t')) (· = t) where
  succeeds c c' a opened did := by
    rw [acts] at did
    have inside := c.execute_inside (change c.foreignKeys) (opened ▸ rfl)
    split at did
    next written =>
      cases did
      rw [written] at inside
      obtain ⟨t', working⟩ := Option.isSome_iff_exists.mp (inside a rfl)
      have changed := of_execute written
      rw [Connection.tables, Connection.tables, opened, working] at changed
      exact ⟨t', working, _, changed⟩
    next => cases did
  fails c c' failure t' opened failed stillOpen := by
    rw [acts] at failed
    split at failed
    next => cases failed
    next refused =>
      cases failed
      exact Option.some.inj ((c.execute_left refused stillOpen).symm.trans opened)

theorem leaves_run (s : Statement) (change : Bool → Tables → Except Refusal (α × Tables))
    (t : Tables) :
    (run s change).Leaves t (fun a t' => ∃ foreignKeys, change foreignKeys t = .ok (a, t'))
      (· = t) :=
  leaves_of_execute s.failure change (fun _ => rfl) t

theorem leaves_runUnique (s : Statement) (conflict : Failure)
    (change : Bool → Tables → Except Refusal (α × Tables)) (t : Tables) :
    (runUnique s conflict change).Leaves t
      (fun a t' => ∃ foreignKeys, change foreignKeys t = .ok (a, t')) (· = t) :=
  leaves_of_execute (fun refusal => if refusal.isDuplicate then conflict else s.failure refusal)
    change (fun _ => rfl) t

theorem leaves_read (s : Statement) (query : Tables → Except Refusal α) (t : Tables) :
    (read s query).Leaves t (fun _ t' => t' = t) (· = t) where
  succeeds c c' a opened did := by
    have working := c.select_working query
    unfold read at did
    split at did
    next found =>
      cases did
      rw [found] at working
      exact ⟨t, (working a rfl).trans opened, rfl⟩
    next => cases did
  fails c c' failure t' opened failed stillOpen := by
    unfold read at failed
    split at failed
    next => cases failed
    next refused =>
      cases failed
      exact Option.some.inj ((c.select_left refused stillOpen).symm.trans opened)

end Action

/-! ## Steps -/

namespace Tables

theorem updateCluster_none {uid name domain manager platform : String}
    (changed : t.updateCluster uid name domain manager platform = .ok (0, t')) : t' = t := by
  obtain ⟨_, -, rest⟩ := of_bind_eq_ok changed
  split at rest
  next => cases rest; rfl
  next =>
    split at rest
    · cases rest
    · cases rest

/-- Where no cluster is deleted, no membership goes with one. -/
theorem deleteCluster_none {foreignKeys : Bool} {uid : String}
    (changed : t.deleteCluster foreignKeys uid = .ok (0, t')) : t' = t := by
  obtain ⟨_, -, rest⟩ := of_bind_eq_ok changed
  obtain ⟨_, -, rest⟩ := of_bind_eq_ok rest
  obtain ⟨count, same⟩ := Prod.mk.inj (Except.ok.inj rest)
  have none : t.clusters.filter (·.uid = uid) = [] := List.length_eq_zero_iff.mp count
  have all : t.clusters.filter (·.uid ≠ uid) = t.clusters := by
    rw [List.filter_eq_self]
    intro row member
    have other := List.filter_eq_nil_iff.mp none row member
    simpa using other
  rw [none, all] at same
  rw [← same]
  cases foreignKeys <;> simp [cascadeClusters]

end Tables

namespace Transaction

theorem leaves_requireRow {count : Nat} (none : count = 0 → t = t') :
    (requireRow count).Leaves t (fun _ _ => True) (· = t') := by
  unfold requireRow
  split
  next empty =>
    rw [none empty]
    exact leaves_fail _ t' _
  next => exact (leaves_done () t _).imp (fun _ _ _ => trivial) fun _ => id

theorem leaves_updateCluster (cluster : Cluster) (t : Tables) :
    (updateCluster cluster).Leaves t (fun _ _ => True) (· = t) := by
  apply (leaves_runUnique _ _ _ t).bind
  rintro count t' ⟨_, changed⟩
  apply leaves_requireRow
  rintro rfl
  exact Tables.updateCluster_none changed

theorem leaves_deleteCluster (uid : ClusterUid) (t : Tables) :
    (deleteCluster uid).Leaves t (fun _ _ => True) (· = t) := by
  apply (leaves_run _ _ t).bind
  rintro count t' ⟨_, changed⟩
  apply leaves_requireRow
  rintro rfl
  exact Tables.deleteCluster_none changed

theorem leaves_loadCluster (uid : ClusterUid) (t : Tables) :
    (loadCluster uid).Leaves t (fun _ t' => t' = t) (· = t) := by
  apply (leaves_read _ _ t).bind
  rintro row _ rfl
  cases row with
  | none => exact leaves_fail _ _ _
  | some row =>
    apply (leaves_read _ _ _).bind
    rintro members _ rfl
    exact leaves_lift _ _

/-- The agents of a batch may be added without becoming members. -/
theorem leaves_addMembers (uid : ClusterUid) (agents : List AgentId) (t : Tables) :
    (addMembers uid agents).Leaves t (fun _ _ => True)
      (fun t' => t' = t ∨ t' = t.enroll (agents.map AgentId.text)) := by
  unfold addMembers
  split
  next => exact (leaves_done () t _).imp (fun _ _ _ => trivial) fun _ => id
  next =>
    apply Leaves.bind ((leaves_run _ _ t).imp (fun _ _ => id) fun _ => .inl)
    rintro _ t' ⟨_, inserted⟩
    obtain ⟨_, -, rest⟩ := of_bind_eq_ok (of_silently inserted)
    cases rest
    exact (leaves_runUnique _ _ _ _).imp (fun _ _ _ => trivial) fun _ => .inr

/-- The agent may be added without its selectors. -/
theorem leaves_putAttestation (entry : Attestation) (t : Tables) :
    (putAttestation entry).Leaves t (fun _ _ => True)
      (fun t' => t' = t ∨ t' = t.enroll [entry.agent.text]) := by
  apply Leaves.bind ((leaves_run _ _ t).imp (fun _ _ => id) fun _ => .inl)
  rintro _ t' ⟨_, inserted⟩
  obtain ⟨_, -, rest⟩ := of_bind_eq_ok (of_silently inserted)
  cases rest
  apply Leaves.bind ((leaves_read _ _ _).imp (fun _ _ => id) fun _ => .inr)
  rintro number _ rfl
  cases number with
  | none => exact (leaves_fail _ _ _).imp (fun _ _ => id) fun _ => .inr
  | some number => exact (leaves_run _ _ _).imp (fun _ _ _ => trivial) fun _ => .inr

end Transaction

/-- The agents that a step adds, if they are not known yet, before it does anything else. -/
def Step.enrolled : Step → List AgentId
  | .addMembers _ agents => agents
  | .putAttestation entry => [entry.agent]
  | .insertCluster _ | .updateCluster _ | .deleteCluster _ | .deleteMembers _ | .loadCluster _
  | .putAgent _ _ => []

/-- A step that fails has done nothing, or it has added the agents that it starts with. -/
theorem Step.leaves_action (now : Instant) (step : Step) (t : Tables) :
    (step.action now).Leaves t (fun _ _ => True)
      (fun t' => t' = t ∨ t' = t.enroll (step.enrolled.map AgentId.text)) := by
  cases step with
  | insertCluster cluster => exact (leaves_runUnique _ _ _ t).tells _ fun _ => .inl
  | updateCluster cluster =>
    exact (Transaction.leaves_updateCluster cluster t).tells _ fun _ => .inl
  | deleteCluster uid => exact (Transaction.leaves_deleteCluster uid t).tells _ fun _ => .inl
  | addMembers uid agents => exact (Transaction.leaves_addMembers uid agents t).tells _ fun _ => id
  | deleteMembers uid => exact (leaves_run _ _ t).tells _ fun _ => .inl
  | loadCluster uid => exact (Transaction.leaves_loadCluster uid t).tells _ fun _ => .inl
  | putAgent agent plugin => exact (leaves_run _ _ t).tells _ fun _ => .inl
  | putAttestation entry => exact (Transaction.leaves_putAttestation entry t).tells _ fun _ => id

/-- What a step that fails leaves of the tables that it found. -/
structure Step.Remains (step : Step) (t t' : Tables) : Prop where
  clusters : t'.clusters = t.clusters
  memberships : t'.memberships = t.memberships
  selectors : t'.selectors = t.selectors
  /-- Some steps may have added the unknown agents among those that they name. -/
  agents : t'.agents = t.agents ∨ ∃ added, t'.agents = t.agents ++ added ∧
    t.Newcomers (step.enrolled.map AgentId.text) added
  others : step.enrolled = [] → t'.agents = t.agents
  /-- The agents that were known are as they were, with their plugins. -/
  known : ∀ row : AgentRow, row.spiffeid ∈ t.agents.map (·.spiffeid) →
    (row ∈ t'.agents ↔ row ∈ t.agents)

/-- A step that fails leaves the tables as they were, unless it has added agents before it failed or
the database rolls the transaction back. Any tables may be missing, and mishaps may befall its
statements. -/
theorem failed_step_remains (opened : c.working = some t) (now : Instant) (step : Step)
    {failure : Failure} (failed : step.action now c = (.error failure, c'))
    (stillOpen : c'.working = some t') : step.Remains t t' := by
  rcases (step.leaves_action now t).fails c c' failure t' opened failed stillOpen with rfl | rfl
  · exact ⟨rfl, rfl, rfl, .inl rfl, fun _ => rfl, fun _ _ => Iff.rfl⟩
  · obtain ⟨added, newcomers, enrolled⟩ := t.enroll_eq (step.enrolled.map AgentId.text)
    have agents : (t.enroll (step.enrolled.map AgentId.text)).agents = t.agents ++ added := by
      rw [enrolled]
    refine ⟨t.clusters_enroll _, t.memberships_enroll _, ?_, .inr ⟨added, agents, newcomers⟩,
      ?_, ?_⟩
    · rw [enrolled]
    · intro none
      rw [none]
      rfl
    · intro row listed
      have old : row ∉ added := fun new =>
        ((newcomers.exactly _).mp (List.mem_map_of_mem new)).2 listed
      rw [agents, List.mem_append, or_iff_left old]

/-- The second statement of the step fails, as there is no cluster that the agent could join. The
agent has been added by then. -/
theorem stranger_remains_known :
    let step : Step := .addMembers ⟨"u"⟩ [⟨"b"⟩]
    let t : Tables := { agents := [⟨1, "a", some "p"⟩], lastAgentId := 1 }
    let c : Connection := { foreignKeys := true, working := some t }
    let t' : Tables :=
      { agents := [⟨1, "a", some "p"⟩, ⟨2, "b", none⟩], lastAgentId := 2 }
    (step.action .epoch c).1 = .error ((Statement.insertMemberships 1).failure
        (.missingValue .memberships "cluster_id")) ∧
      (step.action .epoch c).2.working = some t' ∧ step.Remains t t' := by
  intro step t c t'
  have failed : step.action .epoch c = (.error ((Statement.insertMemberships 1).failure
      (.missingValue .memberships "cluster_id")), { c with working := some t' }) := rfl
  rw [failed]
  exact ⟨rfl, rfl, failed_step_remains rfl .epoch step failed rfl⟩

end Roster.Database
