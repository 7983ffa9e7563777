import Roster.Proofs.Memory.Sound
import Roster.Proofs.Text.Tidy

/-!
A registry in memory that was given tidy values only holds tidy values only.
-/

namespace Roster.Memory

variable {now : Instant} {m written : Memory}

/-- Members are known agents of clusters that are there, so nothing has to be said of them. -/
structure Tidy (m : Memory) : Prop where
  agents : ∀ agent ∈ m.agents.keys, agent.Tidy
  uids : ∀ uid ∈ m.clusters.keys, uid.Tidy
  names : ∀ entry ∈ m.clusters, entry.2.name.Tidy
  attestations : ∀ entry ∈ m.attestations, entry.2.Tidy

theorem tidy_empty : Tidy {} := by
  constructor <;> simp [Directory.keys]

theorem tidy_putAgent (tidy : m.Tidy) {agent : Agent} (fits : agent.id.Tidy) :
    (m.putAgent agent).Tidy :=
  { tidy with
    agents := by
      intro other member
      rcases Directory.mem_keys_put.mp member with old | rfl
      · exact tidy.agents other old
      · exact fits }

theorem tidy_learnAgent (tidy : m.Tidy) {agent : AgentId} (fits : agent.Tidy) :
    Tidy { m with agents := m.agents.putNew agent none } :=
  { tidy with
    agents := by
      intro other member
      rcases Directory.mem_keys_putNew.mp member with old | rfl
      · exact tidy.agents other old
      · exact fits }

theorem tidy_putAttestation (tidy : m.Tidy) {entry : Attestation} (fits : entry.Tidy) :
    (m.putAttestation entry).Tidy :=
  { tidy_learnAgent tidy fits.agent with
    attestations := by
      intro other member
      rcases Directory.mem_put.mp member with rfl | ⟨old, -⟩
      · exact fits
      · exact tidy.attestations other old }

theorem tidy_putCluster (tidy : m.Tidy) {uid : ClusterUid} {stored : StoredCluster}
    (uidFits : uid.Tidy) (nameFits : stored.name.Tidy) :
    Tidy { m with clusters := m.clusters.put uid stored } :=
  { tidy with
    uids := by
      intro other member
      rcases Directory.mem_keys_put.mp member with old | rfl
      · exact tidy.uids other old
      · exact uidFits
    names := by
      intro entry member
      rcases Directory.mem_put.mp member with rfl | ⟨old, -⟩
      · exact nameFits
      · exact tidy.names entry old }

theorem tidy_insertCluster (tidy : m.Tidy) {cluster : Cluster} (fits : cluster.Tidy)
    (inserted : m.insertCluster now cluster = .ok written) : written.Tidy := by
  obtain ⟨_, _, rfl⟩ := of_insertCluster inserted
  exact tidy_putCluster tidy fits.uid fits.name

theorem tidy_updateCluster (tidy : m.Tidy) {cluster : Cluster} (fits : cluster.Tidy)
    (updated : m.updateCluster cluster = .ok written) : written.Tidy := by
  obtain ⟨_, _, _, rfl⟩ := of_updateCluster updated
  exact tidy_putCluster tidy fits.uid fits.name

theorem tidy_removeMembers (tidy : m.Tidy) (uid : ClusterUid) : (m.removeMembers uid).Tidy :=
  { tidy with }

theorem tidy_learn (tidy : m.Tidy) {agents : List AgentId} (fits : ∀ agent ∈ agents, agent.Tidy) :
    Tidy { m with agents := learn agents m.agents } :=
  { tidy with
    agents := by
      intro agent member
      rcases mem_keys_learn.mp member with old | new
      · exact tidy.agents agent old
      · exact fits agent new }

theorem tidy_withMembers (tidy : m.Tidy) (uid : ClusterUid) {agents : List AgentId}
    (fits : ∀ agent ∈ agents, agent.Tidy) : (m.withMembers uid agents).Tidy :=
  { tidy_learn tidy fits with }

theorem tidy_addMembers (tidy : m.Tidy) {uid : ClusterUid} {agents : List AgentId}
    (present : uid ∈ m.clusters.keys) (fits : ∀ agent ∈ agents, agent.Tidy)
    (added : m.addMembers uid agents = .ok written) : written.Tidy := by
  rw [addMembers_eq present] at added
  split at added
  next =>
    cases added
    exact tidy_withMembers tidy uid fits
  next => cases added

theorem tidy_removeCluster (tidy : m.Tidy) (uid : ClusterUid) :
    Tidy { m with clusters := m.clusters.remove uid } :=
  { tidy with
    uids := fun other member => tidy.uids other ((Directory.keys_filter _ _).subset member)
    names := fun entry member => tidy.names entry (List.mem_filter.mp member).1 }

theorem tidy_members (sound : m.Sound) (tidy : m.Tidy) (uid : ClusterUid) :
    ∀ agent ∈ m.members uid, agent.Tidy := by
  intro agent member
  obtain ⟨entry, chosen, rfl⟩ := List.mem_map.mp (Text.mem_sortOn.mp member)
  have listed := Directory.mem_keys_of_mem (List.mem_filter.mp chosen).1
  exact tidy.agents _ (sound.known _ listed)

theorem tidy_toCluster (sound : m.Sound) (tidy : m.Tidy) {entry : ClusterUid × StoredCluster}
    (listed : entry ∈ m.clusters) : (m.toCluster entry.1 entry.2).Tidy where
  uid := tidy.uids _ (Directory.mem_keys_of_mem listed)
  name := tidy.names entry listed
  members := tidy_members sound tidy entry.1

/-! ## Operations -/

theorem tidy_createCluster (tidy : m.Tidy) {cluster record : Cluster} (fits : cluster.Tidy)
    (created : m.createCluster now cluster = .ok (record, written)) : written.Tidy := by
  obtain ⟨inserted, insertion, addition, -⟩ := of_createCluster created
  exact tidy_addMembers (tidy_insertCluster tidy fits insertion)
    (present_of_insertCluster insertion) fits.members addition

theorem tidy_editCluster (tidy : m.Tidy) {cluster record : Cluster} (fits : cluster.Tidy)
    (edited : m.editCluster cluster = .ok (record, written)) : written.Tidy := by
  obtain ⟨updated, update, addition, -⟩ := of_editCluster edited
  have present : cluster.uid ∈ updated.clusters.keys := present_of_updateCluster update
  have emptied := tidy_removeMembers (tidy_updateCluster tidy fits update) cluster.uid
  exact tidy_addMembers emptied present fits.members addition

theorem tidy_deleteCluster (tidy : m.Tidy) {uid : ClusterUid}
    (deleted : m.deleteCluster uid = .ok written) : written.Tidy := by
  obtain ⟨_, rfl⟩ := of_deleteCluster deleted
  exact tidy_removeCluster (tidy_removeMembers tidy uid) uid

theorem tidy_perform (now : Instant) {operation : Operation} (fits : operation.Tidy)
    (tidy : m.Tidy) : (m.perform now operation).2.Tidy := by
  cases operation with
  | putAgent agent => exact tidy_putAgent tidy fits
  | putAttestation entry => exact tidy_putAttestation tidy fits
  | createCluster cluster =>
    exact publish_keeps Tidy _ tidy fun _ _ created => tidy_createCluster tidy fits created
  | editCluster cluster =>
    exact publish_keeps Tidy _ tidy fun _ _ edited => tidy_editCluster tidy fits edited
  | deleteCluster uid =>
    exact publish_delete_keeps Tidy tidy fun _ deleted => tidy_deleteCluster tidy deleted
  | listAgents | findAgent | findAttestation | listClusters | clusterOf | membersOf
  | describeAgents => exact tidy

end Roster.Memory
