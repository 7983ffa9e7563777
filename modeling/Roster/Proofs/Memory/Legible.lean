import Roster.Proofs.Memory.Clusters
import Roster.Proofs.Memory.Tidy
import Roster.Proofs.Text.Trimmed

/-!
Registries in which no cluster has a blank text.

An agent may have a blank identity as long as it is a member of no cluster. A write of a cluster
stores nothing but what its record says, so that the clusters stay legible as long as no record that
a write has answered with is blank anywhere.
-/

namespace Roster

/-- The cluster that is to be stored by the operation. -/
def Operation.cluster? : Operation → Option Cluster
  | .createCluster cluster | .editCluster cluster => some cluster
  | _ => none

theorem Operation.isWrite_of_cluster? {operation : Operation} {cluster : Cluster}
    (stores : operation.cluster? = some cluster) : operation.isWrite = true := by
  cases operation with
  | createCluster | editCluster => rfl
  | putAgent | putAttestation | deleteCluster | listAgents | findAgent | findAttestation
  | listClusters | clusterOf | membersOf | describeAgents => cases stores

theorem Cluster.legible_of_recorded {cluster : Cluster} {created : String}
    (legible : (cluster.recorded created).Legible) : cluster.Legible where
  uid := legible.uid
  name := legible.name
  members agent member := legible.members agent (Text.mem_sortOn.mpr member)

namespace Memory

variable {m : Memory} {now : Instant} {cluster : Cluster} {told : Answer}

/-- No uid, no name and no member of a cluster is blank. -/
def Legible (m : Memory) : Prop := ∀ listed ∈ m.listClusters, listed.Legible

theorem legible_empty : Legible {} := by
  intro listed member
  obtain ⟨_, stored, -⟩ := mem_listClusters.mp member
  cases stored

/-! ## Tidy registries -/

theorem tidy_listed (sound : m.Sound) (tidy : m.Tidy) : ∀ listed ∈ m.listClusters, listed.Tidy := by
  intro listed member
  obtain ⟨entry, stored, rfl⟩ := mem_listClusters.mp member
  exact tidy_toCluster sound tidy stored

theorem legible_of_tidy (sound : m.Sound) (tidy : m.Tidy) : m.Legible :=
  fun listed member => Cluster.legible_of_tidy (tidy_listed sound tidy listed member)

theorem listClusters_trimmed (sound : m.Sound) (tidy : m.Tidy) :
    m.listClusters.map Cluster.trimmed = m.listClusters := by
  rw [List.map_congr_left fun listed member =>
    Cluster.trimmed_of_tidy (tidy_listed sound tidy listed member), List.map_id']

theorem clusterOf_trimmed (tidy : m.Tidy) (agent : AgentId) :
    (m.clusterOf agent).map ClusterName.trimmed = m.clusterOf agent := by
  rw [clusterOf]
  cases named : m.clusterNameOf? agent with
  | none => rfl
  | some name =>
    obtain ⟨entry, stored, rfl⟩ := mem_of_clusterNameOf? named
    exact congrArg Except.ok (ClusterName.trimmed_of_tidy (tidy.names entry stored))

/-! ## Legible registries -/

namespace Legible

theorem toCluster (legible : m.Legible) {entry : ClusterUid × StoredCluster}
    (stored : entry ∈ m.clusters) : (m.toCluster entry.1 entry.2).Legible :=
  legible _ (mem_listClusters.mpr ⟨entry, stored, rfl⟩)

theorem members (legible : m.Legible) (sound : m.Sound) (uid : ClusterUid) :
    ∀ agent ∈ m.members uid, agent.Legible := by
  intro agent member
  obtain ⟨stored, present⟩ := Directory.mem_keys.mp (sound.placed _ (mem_members.mp member))
  exact (legible.toCluster present).members agent member

theorem clusterNameOf? (legible : m.Legible) {agent : AgentId} {name : ClusterName}
    (named : m.clusterNameOf? agent = some name) : name.Legible := by
  obtain ⟨entry, stored, rfl⟩ := mem_of_clusterNameOf? named
  exact (legible.toCluster stored).name

theorem rewritten (legible : m.Legible) {stored : StoredCluster}
    (record : ((m.rewritten cluster stored).toCluster cluster.uid stored).Legible) :
    (m.rewritten cluster stored).Legible := by
  intro listed member
  rcases mem_listClusters_rewritten.mp member with rfl | ⟨old, -⟩
  · exact record
  · exact legible listed old

theorem emptied (legible : m.Legible) (sound : m.Sound) (uid : ClusterUid) :
    (m.emptied uid (m.clusters.remove uid)).Legible := by
  intro listed member
  rw [listClusters_emptied sound] at member
  exact legible listed (List.mem_of_mem_filter member)

end Legible

/-- What a creation or an edit that succeeds has stored is what it has answered. -/
theorem rewrites_of_perform (sound : m.Sound) {operation : Operation}
    (stores : operation.cluster? = some cluster) (did : (m.perform now operation).1 = .ok told) :
    ∃ stored record, told = .cluster record ∧
      m.Rewrites cluster stored record (m.perform now operation).2 := by
  cases operation with
  | createCluster drafted =>
    cases stores
    obtain ⟨record, written, created, rfl, same⟩ := of_publish did
    obtain ⟨stored, rewrites⟩ := rewrites_of_createCluster sound created
    exact ⟨stored, record, rfl, same ▸ rewrites⟩
  | editCluster drafted =>
    cases stores
    obtain ⟨record, written, edited, rfl, same⟩ := of_publish did
    obtain ⟨stored, rewrites⟩ := rewrites_of_editCluster edited
    exact ⟨stored, record, rfl, same ▸ rewrites⟩
  | putAgent | putAttestation | deleteCluster | listAgents | findAgent | findAttestation
  | listClusters | clusterOf | membersOf | describeAgents => cases stores

/-- Clusters stay legible under an operation that succeeds, if the record that it answers with is
legible. -/
theorem legible_perform (sound : m.Sound) (legible : m.Legible) {operation : Operation}
    (did : (m.perform now operation).1 = .ok told) (read : told.Legible) :
    (m.perform now operation).2.Legible := by
  cases stores : operation.cluster? with
  | some cluster =>
    obtain ⟨stored, record, rfl, rewrites⟩ := rewrites_of_perform sound stores did
    have recorded : record.Legible := read
    rw [rewrites.listed] at recorded
    rw [rewrites.same] at recorded ⊢
    exact legible.rewritten recorded
  | none =>
    cases operation with
    | createCluster | editCluster => cases stores
    | deleteCluster uid =>
      obtain ⟨_, written, deleted, -, same⟩ := of_publish did
      obtain ⟨_, deletion, pair⟩ := of_map_eq_ok deleted
      cases pair
      obtain ⟨-, rfl⟩ := of_deleteCluster deletion
      change Legible (m.publish _ _).2
      rw [same]
      exact legible.emptied sound uid
    | putAgent | putAttestation | listAgents | findAgent | findAttestation | listClusters
    | clusterOf | membersOf | describeAgents => exact legible

end Memory

end Roster
