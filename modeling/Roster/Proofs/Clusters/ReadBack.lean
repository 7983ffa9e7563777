import Roster.Proofs.Database.Achieved
import Roster.Proofs.Run

/-!
Clusters under texts that nobody has checked.

A write of a cluster reads its record before it commits, and a record with a blank text cannot be
read. Agents with blank identities may be stored all the same, but they become members of no
cluster. So what is committed of clusters can always be read, and loses no more than the white space
at the ends of its texts.
-/

namespace Roster

/-- The operations that read what is stored of clusters. -/
def Operation.readsClusters : Operation → Bool
  | .listClusters | .clusterOf _ | .membersOf _ => true
  | _ => false

namespace Database

/-! ## Reads under mishaps -/

namespace Action

variable {α β : Type}

/-- Unless a statement fails, the action does what it does where nothing goes wrong. -/
def Resilient (action : Action α) : Prop :=
  ∀ c : Connection, (∃ sql cause, (action c).1 = .error (.statement sql cause)) ∨
    action { c with mishaps := [] } = ((action c).1, { (action c).2 with mishaps := [] })

theorem resilient_done (a : α) : (done a).Resilient :=
  fun _ => .inr rfl

theorem resilient_fail (failure : Failure) : (fail failure : Action α).Resilient :=
  fun _ => .inr rfl

theorem resilient_lift (result : Except Failure α) : (lift result).Resilient := by
  cases result with
  | error failure => exact resilient_fail failure
  | ok a => exact resilient_done a

section Reads

variable {s : Statement} {query : Tables → Except Refusal α} {c later : Connection}

theorem of_read_error {failure : Failure} (failed : read s query c = (.error failure, later)) :
    ∃ sql cause, failure = .statement sql cause := by
  unfold read at failed
  split at failed
  next => cases failed
  next => cases failed; exact ⟨_, _, rfl⟩

theorem calmed_of_read {a : α} (told : read s query c = (.ok a, later)) :
    ({ later with mishaps := [] } : Connection) = { c with mishaps := [] } := by
  have calmed : ({ c.approach.2 with mishaps := [] } : Connection) = { c with mishaps := [] } := by
    unfold Connection.approach
    split <;> rfl
  unfold read Connection.select at told
  split at told
  next selected =>
    split at selected
    next => cases selected
    next approached =>
      obtain ⟨-, rfl⟩ := Prod.mk.inj selected
      cases told
      rw [approached] at calmed
      exact calmed
  next => cases told

end Reads

theorem resilient_read (s : Statement) (query : Tables → Except Refusal α) :
    (read s query).Resilient := by
  intro c
  cases did : read s query c with
  | mk outcome later =>
    cases outcome with
    | error failure =>
      obtain ⟨sql, cause, rfl⟩ := of_read_error did
      exact .inl ⟨sql, cause, rfl⟩
    | ok a =>
      have found : query c.tables = .ok a := (tables_of_read did) ▸ of_read did
      rw [calmed_of_read did]
      exact .inr (read_of_ok rfl found)

theorem Resilient.bind {first : Action α} {second : α → Action β} (resilient : first.Resilient)
    (next : ∀ a, (second a).Resilient) : (first >>= second).Resilient := by
  intro c
  cases did : first c with
  | mk outcome later =>
    have either := resilient c
    rw [did] at either
    cases outcome with
    | error failure =>
      rw [bind_of_error did]
      rcases either with ⟨sql, cause, failed⟩ | same
      · cases failed
        exact .inl ⟨sql, cause, rfl⟩
      · exact .inr (bind_of_error same second)
    | ok a =>
      rw [bind_of_ok did]
      rcases either with ⟨_, _, failed⟩ | same
      · cases failed
      · rw [bind_of_ok same]
        exact next a later

end Action

namespace Store

open Database.Action

theorem resilient_listClusters : listClusters.Resilient :=
  (resilient_read _ _).bind fun _ => (resilient_read _ _).bind fun _ => resilient_lift _

theorem resilient_clusterOf (agent : AgentId) : (clusterOf agent).Resilient := by
  apply (resilient_read _ _).bind
  intro name
  cases name with
  | none => exact resilient_fail _
  | some name => exact resilient_lift _

theorem resilient_membersOf (uid : ClusterUid) : (membersOf uid).Resilient :=
  (resilient_read _ _).bind fun _ => resilient_lift _

theorem resilient_perform (now : Instant) {operation : Operation}
    (reads : operation.readsClusters = true) : (perform now operation).Resilient := by
  cases operation with
  | listClusters => exact resilient_listClusters.bind fun _ => resilient_done _
  | clusterOf agent => exact (resilient_clusterOf agent).bind fun _ => resilient_done _
  | membersOf uid => exact (resilient_membersOf uid).bind fun _ => resilient_done _
  | putAgent | listAgents | findAgent | putAttestation | findAttestation | createCluster
  | editCluster | deleteCluster | describeAgents => cases reads

/-- The reads of clusters answer as in memory, without the white space. -/
theorem perform_trimmed {c : Connection} {m : Memory} (finds : Finds c m) (now : Instant)
    (operation : Operation) (reads : operation.readsClusters = true) :
    (perform now operation c).1 = (m.perform now operation).1.map Answer.trimmed := by
  cases operation with
  | listClusters =>
    change (answering .clusters listClusters c).1 = _
    rw [answering_eq, listClusters_trimmed finds]
    rfl
  | clusterOf agent =>
    change (answering .clusterName (clusterOf agent) c).1 =
      ((m.clusterOf agent).map Answer.clusterName).map Answer.trimmed
    rw [answering_eq, clusterOf_trimmed finds]
    cases m.clusterOf agent <;> rfl
  | membersOf uid =>
    change (answering .members (membersOf uid) c).1 = _
    rw [answering_eq, membersOf_trimmed finds]
    rfl
  | putAgent | listAgents | findAgent | putAttestation | findAttestation | createCluster
  | editCluster | deleteCluster | describeAgents => cases reads

end Store

/-! ## Runs -/

/-- The database holds the registry, of which every cluster can be read. -/
structure HoldsLegibly (c : Connection) (m : Memory) : Prop extends Backs c m where
  legible : m.Legible

namespace HoldsLegibly

variable {c : Connection} {m : Memory} {now : Instant} {operation : Operation}

theorem finds (holds : HoldsLegibly c m) : Finds { c with mishaps := [] } m where
  calm := rfl
  sound := holds.records.sound
  legible := holds.legible
  encoded := holds.encoded

theorem performed (holds : HoldsLegibly c m) {given : Answer}
    (did : (Store.perform now operation c).1 = .ok given) :
    HoldsLegibly (Store.perform now operation c).2 (m.perform now operation).2 := by
  cases wrote : operation.isWrite with
  | false =>
    rw [Memory.perform_of_read now wrote]
    exact ⟨holds.read wrote, holds.legible⟩
  | true =>
    obtain ⟨told, done, read, -⟩ := (holds.carried wrote did).answer
    refine ⟨holds.written wrote did, ?_⟩
    exact Memory.legible_perform holds.records.sound holds.legible done read

theorem after (steps : List (Instant × Operation)) (holds : HoldsLegibly c m) :
    HoldsLegibly (Registry.after steps c) (Registry.after (Registry.accepted steps c) m) := by
  induction steps generalizing c m with
  | nil => exact holds
  | cons step rest ih =>
    change HoldsLegibly (Registry.after rest (Store.perform step.1 step.2 c).2)
      (Registry.after (if (Store.perform step.1 step.2 c).1.isOk then
        step :: Registry.accepted rest _ else Registry.accepted rest _) m)
    -- A step that fails changes nothing here, and is not performed in memory.
    cases outcome : (Store.perform step.1 step.2 c).1 with
    | error failure => exact ih ⟨holds.refused outcome, holds.legible⟩
    | ok given => exact ih (holds.performed outcome)

end HoldsLegibly

/-! ## Reading back -/

/-- A database reads what it has committed of clusters, as the registry in memory has it. -/
structure ReadsBack (c : Connection) (m : Memory) : Prop where
  /-- Where nothing goes wrong, reads lose the white space at the ends of the texts only. -/
  reads : ∀ now operation, operation.readsClusters = true →
    (Registry.perform now operation { c with mishaps := [] }).1 =
      (Registry.perform now operation m).1.map Answer.trimmed
  /-- Whatever goes wrong, what is stored is never what a read fails upon. -/
  sane : ∀ now operation defect, operation.readsClusters = true →
    (Registry.perform now operation c).1 ≠ .error (.corrupt defect)
  /-- A cluster with a blank text is refused, and nothing is stored of it. -/
  refuses : ∀ now operation cluster, operation.cluster? = some cluster → ¬cluster.Legible →
    let (outcome, later) := Registry.perform now operation c
    ∃ failure, outcome = .error failure ∧ later.stored = c.stored ∧ later.working = none
  /-- A cluster that is committed is answered with and listed as it is read. -/
  commits : ∀ now operation cluster given, operation.cluster? = some cluster →
    let (outcome, later) := Registry.perform now operation c
    outcome = .ok given → ∃ created records,
      given = .cluster (cluster.recorded created).trimmed ∧
        (cluster.recorded created).trimmed ∈ records ∧
        ∀ now, (Registry.perform now .listClusters { later with mishaps := [] }).1 =
          .ok (.clusters records)

namespace HoldsLegibly

variable {c : Connection} {m : Memory} {now : Instant} {operation : Operation} {cluster : Cluster}

theorem sane (holds : HoldsLegibly c m) (reads : operation.readsClusters = true) (defect : Defect) :
    (Store.perform now operation c).1 ≠ .error (.corrupt defect) := by
  intro failed
  rcases Store.resilient_perform now reads c with ⟨sql, cause, statement⟩ | same
  · cases failed.symm.trans statement
  · have trimmed := Store.perform_trimmed holds.finds now operation reads
    rw [same] at trimmed
    change (Store.perform now operation c).1 = _ at trimmed
    rw [failed] at trimmed
    cases operation with
    | listClusters => cases trimmed
    | clusterOf agent =>
      change _ = ((m.clusterOf agent).map Answer.clusterName).map Answer.trimmed at trimmed
      unfold Memory.clusterOf at trimmed
      split at trimmed <;> cases trimmed
    | membersOf uid => cases trimmed
    | putAgent | listAgents | findAgent | putAttestation | findAttestation | createCluster
    | editCluster | deleteCluster | describeAgents => cases reads

/-- The cluster as a write that committed it has stored it and answered with it. -/
theorem committed (holds : HoldsLegibly c m) (stores : operation.cluster? = some cluster)
    {given : Answer} (did : (Store.perform now operation c).1 = .ok given) :
    ∃ created, given = .cluster (cluster.recorded created).trimmed ∧
      (cluster.recorded created).Legible ∧
        cluster.recorded created ∈ (m.perform now operation).2.listClusters := by
  have carried := holds.carried (Operation.isWrite_of_cluster? stores) did
  obtain ⟨told, done, read, same⟩ := carried.answer
  obtain ⟨stored, record, rfl, rewrites⟩ :=
    Memory.rewrites_of_perform holds.records.sound stores done
  refine ⟨stored.created, ?_⟩
  rw [← rewrites.told]
  refine ⟨same, read, ?_⟩
  have listed := rewrites.listed
  rw [rewrites.same] at listed ⊢
  exact Memory.mem_listClusters_rewritten.mpr (.inl listed)

theorem readsBack (holds : HoldsLegibly c m) : ReadsBack c m where
  reads now operation reads := Store.perform_trimmed holds.finds now operation reads
  sane now operation defect reads := holds.sane reads defect
  refuses now operation cluster stores blank := by
    cases outcome : (Store.perform now operation c).1 with
    | ok given =>
      obtain ⟨created, -, legible, -⟩ := holds.committed stores outcome
      exact absurd (Cluster.legible_of_recorded legible) blank
    | error failure =>
      have idle := (Store.atomic_perform now operation).idle c holds.idle
      exact ⟨failure, outcome, holds.stored_of_error outcome, idle⟩
  commits now operation cluster given stores did := by
    obtain ⟨created, same, -, listed⟩ := holds.committed stores did
    have later := (holds.performed did).finds
    refine ⟨created, _, same, List.mem_map_of_mem listed, fun now => ?_⟩
    exact Store.perform_trimmed later now .listClusters rfl

end HoldsLegibly

end Database

/-- After any operations with any texts a database reads back what it has committed of clusters,
with the white space at the ends of uids, names and members cut off. What it has committed is what
the operations that succeeded leave in memory. A cluster with a blank text is never committed, and
no read of clusters ever fails upon what is stored, with references enforced or not, and whatever
mishaps befell the statements, as long as none makes a database in memory lose its tables. -/
theorem clusters_read_back (foreignKeys inMemory : Bool) (mishaps : List (Option Database.Mishap))
    (gentle : inMemory = true → ∀ mishap, some mishap ∈ mishaps → mishap.endsTransaction = false)
    (steps : List (Instant × Operation)) :
    let fresh : Database.Connection := { foreignKeys, inMemory, mishaps }
    Database.ReadsBack (Registry.after steps fresh)
      (Registry.after (Registry.accepted steps fresh) ({} : Memory)) := by
  intro fresh
  have opened : Database.HoldsLegibly fresh {} :=
    ⟨.opened gentle, Memory.legible_empty⟩
  exact (opened.after steps).readsBack

/-- An agent may have a blank identity, but a cluster with such a member is refused. -/
theorem blank_member_refused :
    let steps : List (Instant × Operation) := [(.epoch, .putAgent { id := ⟨" "⟩ })]
    let cluster : Cluster := { uid := ⟨"u"⟩, name := ⟨"n"⟩, members := [⟨" "⟩] }
    let before := Registry.after steps
      ({ foreignKeys := true, inMemory := true } : Database.Connection)
    let (outcome, later) := Registry.perform .epoch (.createCluster cluster) before
    ∃ failure, outcome = .error failure ∧ later.stored = before.stored ∧
      before.stored.agents.map (·.spiffeid) = [" "] := by
  intro steps cluster before
  have readsBack := clusters_read_back true true [] (fun _ _ => nofun) steps
  have blank : ¬cluster.Legible := by
    intro legible
    exact legible.members _ List.mem_cons_self (by decide +kernel)
  obtain ⟨failure, refused, kept, -⟩ :=
    readsBack.refuses .epoch (.createCluster cluster) cluster rfl blank
  exact ⟨failure, refused, kept, by decide +kernel⟩

end Roster
