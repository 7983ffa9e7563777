import Roster.Proofs.Clusters.Decision
import Roster.Proofs.Clusters.ReadBack
import Roster.Proofs.Database.Completion
import Roster.Proofs.Ledger
import Roster.Proofs.Memory.Undo

/-!
Writes of clusters can be undone.

A cluster that is edited to what is listed of it stays as it is. So an edit is undone by another one
with the record listed before, and a creation by a deletion. Nothing that the write did stands in
the way: the agents that it released are free again, and so is the old name. What stays is that
agents of the batch are known.
-/

namespace Roster

open Database Text

variable {σ : Type} [Registry σ]

/-- Whether the operation asks which agents there are. -/
def Operation.asksForAgents : Operation → Bool
  | .listAgents | .findAgent _ | .describeAgents _ => true
  | _ => false

/-- The registry does not know the agent. -/
def Unknown (registry : σ) (agent : AgentId) : Prop :=
  ∀ now, (Registry.perform now (.findAgent agent) registry).1 = .error .agentNotFound

/-- Reads are answered as before, apart from these agents, which have become known. They have no
plugin and no cluster, and are listed as they are read. -/
structure Restores (read : Agent → Agent) (admitted : AgentFilter → Prop) (before after : σ)
    (newcomers : List AgentId) : Prop where
  others : ∀ now operation, operation.isWrite = false → operation.asksForAgents = false →
    (Registry.perform now operation after).1 = (Registry.perform now operation before).1
  found : ∀ now agent, (Registry.perform now (.findAgent agent) after).1 =
    if agent ∈ newcomers then .ok (.agent (.plain agent))
    else (Registry.perform now (.findAgent agent) before).1
  listed : ∀ now, ∃ agents,
    (Registry.perform now .listAgents before).1 = .ok (.agents agents) ∧
      (Registry.perform now .listAgents after).1 = .ok (.agents
        ((sortOn (·.id.text) (agents ++ newcomers.map Agent.plain)).map read))
  described : ∀ now filter, admitted filter → ∃ agents,
    (Registry.perform now (.describeAgents filter) before).1 = .ok (.agents agents) ∧
      (Registry.perform now (.describeAgents filter) after).1 = .ok (.agents
        ((sortOn (·.id.text)
          (agents ++ (newcomers.filter filter.selects).map Agent.plain)).map read))
  /-- A filter that is not admitted is refused as before. -/
  refused : ∀ now filter, ¬admitted filter → ∃ failure,
    (Registry.perform now (.describeAgents filter) before).1 = .error failure ∧
      (Registry.perform now (.describeAgents filter) after).1 = .error failure

/-- All is restored but for the agents of the batch that were not known. -/
def RestoresBut (read : Agent → Agent) (admitted : AgentFilter → Prop) (batch : List AgentId)
    (before after : σ) : Prop :=
  ∃ newcomers : List AgentId, newcomers.Nodup ∧
    (∀ agent, agent ∈ newcomers ↔ agent ∈ batch ∧ Unknown before agent) ∧
    Restores read admitted before after newcomers

/-- Whatever succeeds as a write of a cluster where these are listed can be undone. -/
structure Undoable (read : Agent → Agent) (admitted : AgentFilter → Prop) (registry : σ)
    (clusters : List Cluster) : Prop where
  /-- To edit a cluster to what is listed of it changes nothing. -/
  idle : ∀ (now : Instant), ∀ listed ∈ clusters, ∃ written,
    Registry.perform now (.editCluster listed) registry = (.ok (.cluster listed), written) ∧
      ∀ later operation, operation.isWrite = false → (Registry.perform later operation written).1 =
        (Registry.perform later operation registry).1
  edit : ∀ (now later : Instant) (cluster : Cluster) (answer : Answer) (written : σ),
    Registry.perform now (.editCluster cluster) registry = (.ok answer, written) →
    ∃ old, Cluster.find? cluster.uid clusters = some old ∧ ∃ restored,
      Registry.perform later (.editCluster old) written = (.ok (.cluster old), restored) ∧
        RestoresBut read admitted cluster.members registry restored
  create : ∀ (now later : Instant) (cluster : Cluster) (answer : Answer) (written : σ),
    Registry.perform now (.createCluster cluster) registry = (.ok answer, written) →
    ∃ restored,
      Registry.perform later (.deleteCluster cluster.uid) written = (.ok .done, restored) ∧
        RestoresBut read admitted cluster.members registry restored

namespace Memory

variable {m restored : Memory} {cluster : Cluster} {batch : List AgentId}

/-! ## In memory -/

theorem unknown_iff {agent : AgentId} : Unknown m agent ↔ agent ∉ m.agents.keys := by
  have asked (now : Instant) : (Registry.perform now (.findAgent agent) m).1 =
      (m.findAgent agent).map .agent := rfl
  rw [← Directory.find?_eq_none_iff, Unknown]
  simp only [asked, findAgent]
  cases m.agents.find? agent with
  | none => exact iff_of_true (fun _ => rfl) rfl
  | some plugin =>
    constructor
    · intro told
      cases told .epoch
    · intro absent
      cases absent

/-- The agents are known by their keys, so no other read tells that they have become known. -/
theorem perform_learned (m : Memory) (batch : List AgentId) (now : Instant) {operation : Operation}
    (reads : operation.isWrite = false) (asks : operation.asksForAgents = false) :
    ((m.learned batch).perform now operation).1 = (m.perform now operation).1 := by
  cases operation with
  | findAttestation | listClusters | clusterOf | membersOf => rfl
  | listAgents | findAgent | describeAgents => cases asks
  | putAgent | putAttestation | createCluster | editCluster | deleteCluster => cases reads

/-- What is read where a registry is restored but for a batch. -/
theorem restores (sound : m.Sound) (restoredSound : restored.Sound) (distinct : batch.Nodup)
    (alike : restored.Alike (m.learned batch)) :
    Restores id (fun _ => True) m restored (m.newcomers batch) where
  others now operation reads asks := by
    have same := alike.perform restoredSound (sound_learned sound batch) now reads
    exact same.trans (perform_learned m batch now reads asks)
  found now agent := by
    refine (alike.perform restoredSound (sound_learned sound batch) now rfl).trans ?_
    change ((m.learned batch).findAgent agent).map Answer.agent = _
    rw [findAgent_learned]
    split <;> rfl
  listed now := by
    have same := alike.listAgents restoredSound (sound_learned sound batch)
    refine ⟨m.listAgents, rfl, ?_⟩
    rw [List.map_id, ← listAgents_learned sound distinct, ← same]
    rfl
  described now filter _ := by
    have same := alike.describeAgents restoredSound (sound_learned sound batch) filter
    refine ⟨m.describeAgents filter, rfl, ?_⟩
    rw [List.map_id, ← describeAgents_learned sound distinct, ← same]
    rfl
  refused _ _ excluded := absurd trivial excluded

theorem restoresBut_of_newcomers {τ : Type} [Registry τ] {read : Agent → Agent}
    {admitted : AgentFilter → Prop} {before after : τ} (distinct : batch.Nodup)
    (known : ∀ agent, Unknown before agent ↔ agent ∉ m.agents.keys)
    (restores : Restores read admitted before after (m.newcomers batch)) :
    RestoresBut read admitted batch before after := by
  refine ⟨m.newcomers batch, distinct.filter _, fun agent => ?_, restores⟩
  rw [mem_newcomers, known]

theorem find?_listed (sound : m.Sound) {old : Cluster} (listed : old ∈ m.listClusters) :
    Cluster.find? old.uid m.listClusters = some old := by
  obtain ⟨entry, stored, rfl⟩ := mem_listClusters.mp listed
  cases found : Cluster.find? entry.1 m.listClusters with
  | none =>
    have different := List.find?_eq_none.mp found _ listed
    exact absurd (decide_eq_true rfl) different
  | some first =>
    have chosen := List.find?_some found
    obtain ⟨other, otherStored, rfl⟩ := mem_listClusters.mp (List.mem_of_find?_eq_some found)
    have values := Directory.find?_of_mem sound.clusters otherStored
    have otherSame : other.1 = entry.1 := of_decide_eq_true chosen
    rw [otherSame, Directory.find?_of_mem sound.clusters stored] at values
    have one : other = entry := Prod.ext otherSame (Option.some.inj values).symm
    subst one
    exact found

theorem perform_edit {record : Cluster} {written : Memory} (now : Instant)
    (edited : m.editCluster cluster = .ok (record, written)) :
    m.perform now (.editCluster cluster) = (.ok (.cluster record), written) := by
  rw [perform, edited, publish]

theorem perform_deletion {uid : ClusterUid} {written : Memory} (now : Instant)
    (deleted : m.deleteCluster uid = .ok written) :
    m.perform now (.deleteCluster uid) = (.ok .done, written) := by
  rw [perform, deleted]
  rfl

theorem undoable (sound : m.Sound) : Undoable id (fun _ => True) m m.listClusters where
  idle now listed member := by
    obtain ⟨written, edited, alike⟩ := edit_listed sound member
    have writtenSound := sound_editCluster sound edited
    exact ⟨written, perform_edit now edited,
      fun now operation reads => alike.perform writtenSound sound now reads⟩
  edit now later cluster answer written did := by
    obtain ⟨record, edited, -⟩ := of_publish_eq did
    obtain ⟨distinct, old, listed, named, restored, undone, alike⟩ := edit_undone sound edited
    have restoredSound := sound_editCluster (sound_editCluster sound edited) undone
    exact ⟨old, named ▸ find?_listed sound listed, restored, perform_edit later undone,
      restoresBut_of_newcomers distinct (fun _ => unknown_iff)
        (restores sound restoredSound distinct alike)⟩
  create now later cluster answer written did := by
    obtain ⟨record, created, -⟩ := of_publish_eq did
    obtain ⟨distinct, restored, undone, alike⟩ := creation_undone sound created
    have restoredSound := sound_deleteCluster (sound_createCluster sound created) undone
    exact ⟨restored, perform_deletion later undone,
      restoresBut_of_newcomers distinct (fun _ => unknown_iff)
        (restores sound restoredSound distinct alike)⟩

end Memory

/-! ## In a database -/

namespace Database

variable {c later : Connection} {m written : Memory} {batch : List AgentId} {cluster : Cluster}
  {now : Instant} {answer : Answer}

/-- The database holds the registry, of which every cluster can be read, and nothing goes wrong any
more. -/
structure HoldsCalmly (c : Connection) (m : Memory) : Prop extends HoldsLegibly c m where
  calm : c.mishaps = []

theorem Holds.calmly (holds : Holds c m) : HoldsCalmly c m where
  toBacks := .of_calm holds.idle
    ⟨holds.sees.sound, Connection.tables_of_idle holds.idle ▸ holds.sees.encoded⟩ holds.sees.calm
  legible := holds.sees.finds.legible
  calm := holds.sees.calm

namespace HoldsCalmly

theorem finds (holds : HoldsCalmly c m) : Finds c m where
  calm := holds.calm
  sound := holds.records.sound
  legible := holds.legible
  encoded := (Connection.tables_of_idle holds.idle).symm ▸ holds.records.encoded

theorem left (holds : HoldsCalmly c m) {outcome : Except Failure Answer × Connection}
    (leaves : Store.Leaves outcome c answer written) (legible : written.Legible) :
    ∃ later, outcome = (.ok answer, later) ∧ HoldsCalmly later written := by
  obtain ⟨t, did, records⟩ := leaves
  exact ⟨_, did, ⟨.of_calm holds.idle records holds.calm, legible⟩, holds.calm⟩

/-- A write of a cluster that succeeds does what it does in memory, with nothing blank in it. -/
theorem performed (holds : HoldsCalmly c m) {operation : Operation}
    (stores : operation.cluster? = some cluster)
    (did : Store.perform now operation c = (.ok answer, later)) :
    ∃ record written, m.perform now operation = (.ok (.cluster record), written) ∧
      cluster.Legible ∧ HoldsCalmly later written := by
  have wrote := Operation.isWrite_of_cluster? stores
  obtain ⟨told, succeeded, legible, -⟩ := (holds.carried wrote (congrArg Prod.fst did)).answer
  obtain ⟨stored, record, rfl, rewrites⟩ :=
    Memory.rewrites_of_perform holds.records.sound stores succeeded
  have recorded : (cluster.recorded stored.created).Legible := rewrites.told ▸ legible
  have performed : m.perform now operation =
      (.ok (.cluster record), (m.perform now operation).2) := Prod.ext succeeded rfl
  have stillLegible := Memory.legible_perform holds.records.sound holds.legible succeeded legible
  have room := Store.fits_of_perform (congrArg Prod.fst did)
  obtain ⟨last, done, stays⟩ := holds.left (Store.leaves_storing holds.toBacks holds.calm now
    operation stillLegible room stores performed) stillLegible
  cases did.symm.trans done
  exact ⟨record, _, performed, Cluster.legible_of_recorded recorded, stays⟩

/-- An edit that stores its record as it is given does so in the database where the record is tidy. -/
theorem edited (holds : HoldsCalmly c m) (now : Instant) (tidy : cluster.Tidy)
    (room : (Statement.insertMemberships cluster.members.length).Fits)
    (done : m.editCluster cluster = .ok (cluster, written)) :
    ∃ later, Store.perform now (.editCluster cluster) c = (.ok (.cluster cluster), later) ∧
      HoldsCalmly later written := by
  have performed := Memory.perform_edit now done
  have stillLegible := Memory.legible_perform holds.records.sound holds.legible
    (congrArg Prod.fst performed) (Cluster.legible_of_tidy tidy)
  rw [performed] at stillLegible
  have leaves :=
    Store.leaves_storing holds.toBacks holds.calm now (.editCluster cluster) stillLegible room rfl
      performed
  rw [Cluster.trimmed_of_tidy tidy] at leaves
  exact holds.left leaves stillLegible

theorem deleted (holds : HoldsCalmly c m) (now : Instant) {uid : ClusterUid}
    (done : m.deleteCluster uid = .ok written) :
    ∃ later, Store.perform now (.deleteCluster uid) c = (.ok .done, later) ∧
      HoldsCalmly later written := by
  have performed := Memory.perform_deletion now done
  have stillLegible := Memory.legible_perform holds.records.sound holds.legible
    (congrArg Prod.fst performed) trivial
  rw [performed] at stillLegible
  exact holds.left (Store.leaves_deletion holds.toBacks holds.calm now done) stillLegible

end HoldsCalmly

/-! ### Reads -/

theorem agents_legible (holds : Holds c m) (legible : ∀ agent ∈ batch, agent.Legible)
    (alike : written.Alike (m.learned batch)) : ∀ agent ∈ written.agents.keys, agent.Legible := by
  intro agent known
  rw [← Directory.find?_isSome_iff, alike.agents, Directory.find?_isSome_iff] at known
  rcases Memory.mem_keys_learn.mp known with old | new
  · exact AgentId.legible_of_tidy (holds.sees.tidy.agents agent old)
  · exact legible agent new

theorem attestations_tidy (holds : Holds c m) (sound : written.Sound)
    (alike : written.Alike (m.learned batch)) : ∀ entry ∈ written.attestations, entry.2.Tidy := by
  intro entry member
  have found := Directory.find?_of_mem sound.attestations member
  rw [alike.attestations] at found
  exact holds.sees.tidy.attestations entry (Directory.mem_of_find? found)

/-- A database that holds the restored registry reads as it does, without the white space. -/
theorem restores_of_memory (holds : Holds c m) (finds : Finds later written)
    (legible : ∀ agent ∈ batch, agent.Legible) (alike : written.Alike (m.learned batch))
    (restores : Restores id (fun _ => True) m written (m.newcomers batch)) :
    Restores Agent.trimmed (fun filter => (Operation.describeAgents filter).Fits) c later
      (m.newcomers batch) where
  others now operation reads asks := by
    have same := restores.others now operation reads asks
    cases clusters : operation.readsClusters with
    | true =>
      calc (Store.perform now operation later).1
        _ = (Registry.perform now operation written).1.map Answer.trimmed :=
          Store.perform_trimmed finds now operation clusters
        _ = (Registry.perform now operation m).1.map Answer.trimmed := by rw [same]
        _ = (Store.perform now operation c).1 :=
          (Store.perform_trimmed holds.sees.finds now operation clusters).symm
    | false =>
      cases operation with
      | findAttestation agent =>
        have tidy := attestations_tidy holds finds.sound alike
        rw [read_eq holds now (.findAttestation agent) trivial trivial rfl, ← same]
        change (Store.answering .attestation (Store.findAttestation agent) later).1 = _
        rw [Store.answering_eq, Store.findAttestation_eq finds tidy]
        rfl
      | listClusters | clusterOf | membersOf => cases clusters
      | listAgents | findAgent | describeAgents => cases asks
      | putAgent | putAttestation | createCluster | editCluster | deleteCluster => cases reads
  found now agent := by
    rw [read_eq holds now (.findAgent agent) trivial trivial rfl, ← restores.found now agent]
    change (Store.answering .agent (Store.findAgent agent) later).1 = _
    rw [Store.answering_eq, Store.findAgent_eq finds]
    rfl
  listed now := by
    obtain ⟨agents, before, after⟩ := restores.listed now
    have told : written.listAgents = sortOn (·.id.text) (agents ++ _) :=
      (Answer.agents.inj (Except.ok.inj after)).trans (List.map_id _)
    refine ⟨agents, (read_eq holds now .listAgents trivial trivial rfl).trans before, ?_⟩
    change (Store.answering .agents Store.listAgents later).1 = _
    rw [Store.answering_eq,
      Store.listAgents_trimmed finds (agents_legible holds legible alike), told]
    rfl
  described now filter room := by
    obtain ⟨agents, before, after⟩ := restores.described now filter trivial
    have told : written.describeAgents filter = sortOn (·.id.text) (agents ++ _) :=
      (Answer.agents.inj (Except.ok.inj after)).trans (List.map_id _)
    refine ⟨agents, (read_eq holds now (.describeAgents filter) trivial room rfl).trans before, ?_⟩
    change (Store.answering .agents (Store.describeAgents filter) later).1 = _
    rw [Store.answering_eq,
      Store.describeAgents_trimmed finds (agents_legible holds legible alike) room, told]
    rfl
  refused now filter excess := by
    refine ⟨(Statement.selectMetadata filter.agents.length).failure .tooManyValues, ?_, ?_⟩
    · change (Store.answering .agents (Store.describeAgents filter) c).1 = _
      rw [Store.answering_eq, Store.describeAgents_of_excess holds.sees.calm excess]
      rfl
    · change (Store.answering .agents (Store.describeAgents filter) later).1 = _
      rw [Store.answering_eq, Store.describeAgents_of_excess finds.calm excess]
      rfl

theorem restoresBut (holds : Holds c m) (undone : HoldsCalmly later written)
    (distinct : batch.Nodup) (legible : ∀ agent ∈ batch, agent.Legible)
    (alike : written.Alike (m.learned batch)) :
    RestoresBut Agent.trimmed (fun filter => (Operation.describeAgents filter).Fits) batch c
      later := by
  have restores := Memory.restores holds.sees.sound undone.records.sound distinct alike
  have unknown (agent : AgentId) : Unknown c agent ↔ agent ∉ m.agents.keys :=
    Iff.trans (forall_congr' fun now => by
      rw [read_eq holds now (.findAgent agent) trivial trivial rfl]) Memory.unknown_iff
  exact Memory.restoresBut_of_newcomers distinct unknown
    (restores_of_memory holds undone.finds legible alike restores)

/-! ### Writes -/

theorem undoable (holds : Holds c m) (bounded : m.Bounded) :
    Undoable Agent.trimmed (fun filter => (Operation.describeAgents filter).Fits) c
      m.listClusters where
  idle now listed member := by
    have sound := holds.sees.sound
    obtain ⟨written, edited, alike⟩ := Memory.edit_listed sound member
    have performed := Memory.perform_edit now edited
    have tidy : (Operation.editCluster listed).Tidy :=
      Memory.tidy_listed sound holds.sees.tidy listed member
    have room : (Operation.editCluster listed).Fits := Memory.bounded_listed bounded member
    obtain ⟨outcome, after⟩ := Store.perform_answers holds now tidy room
    rw [performed, Operation.told_ok] at outcome
    rw [performed] at after
    refine ⟨_, Prod.ext outcome rfl, fun later operation reads => ?_⟩
    have fits : operation.Tidy := by
      cases operation with
      | putAgent | putAttestation | createCluster | editCluster | deleteCluster => cases reads
      | listAgents | findAgent | findAttestation | listClusters | clusterOf | membersOf
      | describeAgents => trivial
    exact read_alike after holds later fits (alike.perform after.sees.sound sound later reads)
  edit now later cluster answer written did := by
    have sound := holds.sees.sound
    obtain ⟨record, inMemory, performed, legible, kept⟩ := holds.calmly.performed rfl did
    obtain ⟨_, edited, -⟩ := Memory.of_publish_eq performed
    obtain ⟨distinct, old, listed, named, restored, undone, alike⟩ :=
      Memory.edit_undone sound edited
    have tidy := Memory.tidy_listed sound holds.sees.tidy old listed
    have room := Memory.bounded_listed bounded listed
    obtain ⟨last, done, stays⟩ := kept.edited later tidy room undone
    exact ⟨old, named ▸ Memory.find?_listed sound listed, last, done,
      restoresBut holds stays distinct legible.members alike⟩
  create now later cluster answer written did := by
    have sound := holds.sees.sound
    obtain ⟨record, inMemory, performed, legible, kept⟩ := holds.calmly.performed rfl did
    obtain ⟨_, created, -⟩ := Memory.of_publish_eq performed
    obtain ⟨distinct, restored, undone, alike⟩ := Memory.creation_undone sound created
    obtain ⟨last, done, stays⟩ := kept.deleted later undone
    exact ⟨last, done, restoresBut holds stays distinct legible.members alike⟩

end Database

/-- After any calls, whatever succeeds as a write of a cluster can be undone: an edit by another one
with the record that was listed, and a creation by a deletion. All reads are answered as before
then, but for agents of the batch that were not known. This holds under any texts in memory and in
a database, with references enforced or not, and whatever mishaps befell the statements of the calls
before, as long as none made a database in memory lose its tables. -/
theorem cluster_writes_undone (foreignKeys inMemory : Bool)
    (mishaps : List (Option Database.Mishap))
    (gentle : inMemory = true → ∀ mishap, some mishap ∈ mishaps → mishap.endsTransaction = false)
    (calls : List Call) :
    let fresh : Database.Connection := { foreignKeys, inMemory, mishaps }
    let remembered := Call.afterAll calls ({} : Memory)
    let stored := { Call.afterAll calls fresh with mishaps := [] }
    (∃ clusters, Lists remembered clusters ∧ Undoable id (fun _ => True) remembered clusters) ∧
      (∃ clusters, Lists stored clusters ∧
        Undoable Agent.trimmed (fun filter => (Operation.describeAgents filter).Fits) stored
          clusters) := by
  intro fresh remembered stored
  constructor
  · exact ⟨_, Memory.lists _, Memory.undoable (Memory.sound_afterAll calls)⟩
  · obtain ⟨m, stands⟩ := Database.stands_afterAll foreignKeys gentle calls
    exact ⟨_, (lists_iff stands.holds).mpr (Memory.lists m),
      Database.undoable stands.holds stands.bounded⟩

/-- A cluster that was created under an old name is renamed, and gets its name back. -/
theorem renaming_undone :
    let calls : List Call := [⟨.epoch, fun _ => 0, .createCluster (some "u")
      { name := "n", members := ["a"] }⟩]
    let renamed : Cluster := { uid := ⟨"u"⟩, name := ⟨"o"⟩, members := [⟨"b"⟩] }
    let fresh : Connection := { foreignKeys := true, inMemory := true }
    let stored : Connection := { Call.afterAll calls fresh with mishaps := [] }
    (∀ mishap, some mishap ∈ fresh.mishaps → mishap.endsTransaction = false) ∧
      ∃ old restored, old.name = ⟨"n"⟩ ∧
        Registry.perform .epoch (.editCluster old)
          (Registry.perform .epoch (.editCluster renamed) stored).2 =
            (.ok (.cluster old), restored) ∧
        RestoresBut Agent.trimmed (fun filter => (Operation.describeAgents filter).Fits) [⟨"b"⟩]
          stored restored := by
  intro calls renamed fresh stored
  refine ⟨fun _ => nofun, ?_⟩
  obtain ⟨clusters, lists, undoable⟩ :=
    (cluster_writes_undone true true [] (fun _ _ => nofun) calls).2
  have done : (Registry.perform .epoch (.editCluster renamed) stored).1 =
      .ok (.cluster { uid := ⟨"u"⟩, name := ⟨"o"⟩, created := some Instant.epoch.stamp,
                      members := [⟨"b"⟩] }) := by decide +kernel
  obtain ⟨old, found, restored, undone, restores⟩ :=
    undoable.edit .epoch .epoch renamed _ _ (Prod.ext done rfl)
  have listed : (Registry.perform .epoch .listClusters stored).1 =
      .ok (.clusters [{ uid := ⟨"u"⟩, name := ⟨"n"⟩, created := some Instant.epoch.stamp,
                        members := [⟨"a"⟩] }]) := by decide +kernel
  cases Answer.clusters.inj (Except.ok.inj (listed.symm.trans (lists .epoch)))
  cases found
  exact ⟨_, restored, rfl, undone, restores⟩

end Roster
