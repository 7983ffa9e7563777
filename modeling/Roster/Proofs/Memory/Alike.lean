import Roster.Proofs.Memory.Clusters

/-!
Registries that say the same of every key. They answer all reads alike, as no read tells in which
order the entries were made.
-/

namespace Roster

namespace Directory

variable {κ ν : Type} [DecidableEq κ] {d e : Directory κ ν}

theorem find?_filter (distinct : d.keys.Nodup) (keep : κ × ν → Bool) (key : κ) :
    find? (List.filter keep d) key = (d.find? key).filter fun value => keep (key, value) := by
  have others : (keys (List.filter keep d)).Nodup := distinct.sublist (keys_filter d keep)
  cases found : d.find? key with
  | none =>
    have absent : key ∉ d.keys := find?_eq_none_iff.mp found
    exact find?_eq_none_iff.mpr fun listed => absent ((keys_filter d keep).subset listed)
  | some value =>
    have member := mem_of_find? found
    by_cases kept : keep (key, value) = true
    · rw [Option.filter_some, if_pos kept]
      exact find?_of_mem others (List.mem_filter.mpr ⟨member, kept⟩)
    · rw [Option.filter_some, if_neg kept, find?_eq_none_iff]
      intro listed
      obtain ⟨other, chosen⟩ := mem_keys.mp listed
      obtain ⟨old, passes⟩ := List.mem_filter.mp chosen
      have same := find?_of_mem distinct old
      rw [found] at same
      cases same
      exact kept passes

theorem perm_of_find? (distinct : d.keys.Nodup) (otherDistinct : e.keys.Nodup)
    (same : ∀ key, d.find? key = e.find? key) : d.Perm e := by
  rw [List.perm_ext_iff_of_nodup (nodup_of_keys distinct) (nodup_of_keys otherDistinct)]
  intro ⟨key, value⟩
  constructor
  · intro member
    exact mem_of_find? ((same key).symm.trans (find?_of_mem distinct member))
  · intro member
    exact mem_of_find? ((same key).trans (find?_of_mem otherDistinct member))

end Directory

namespace Memory

open Text

/-- The registries say the same of every key. -/
structure Alike (m other : Memory) : Prop where
  agents : ∀ agent, m.agents.find? agent = other.agents.find? agent
  attestations : ∀ agent, m.attestations.find? agent = other.attestations.find? agent
  clusters : ∀ uid, m.clusters.find? uid = other.clusters.find? uid
  memberships : ∀ agent, m.memberships.find? agent = other.memberships.find? agent

namespace Alike

variable {m other : Memory}

theorem refl (m : Memory) : Alike m m :=
  ⟨fun _ => rfl, fun _ => rfl, fun _ => rfl, fun _ => rfl⟩

theorem trans {last : Memory} (first : Alike m other) (second : Alike other last) :
    Alike m last where
  agents agent := (first.agents agent).trans (second.agents agent)
  attestations agent := (first.attestations agent).trans (second.attestations agent)
  clusters uid := (first.clusters uid).trans (second.clusters uid)
  memberships agent := (first.memberships agent).trans (second.memberships agent)

theorem clusterNameOf? (alike : Alike m other) (agent : AgentId) :
    m.clusterNameOf? agent = other.clusterNameOf? agent := by
  simp only [Memory.clusterNameOf?, alike.memberships, alike.clusters]

variable (sound : m.Sound) (otherSound : other.Sound)
include sound otherSound

theorem members (alike : Alike m other) (uid : ClusterUid) : m.members uid = other.members uid := by
  have perm := Directory.perm_of_find? sound.memberships otherSound.memberships alike.memberships
  apply sortOn_of_perm
  · exact fun first _ second _ same => AgentId.text_inj.mp same
  · exact (perm.filter _).map _

theorem toCluster (alike : Alike m other) : m.toCluster = other.toCluster := by
  funext uid stored
  rw [Memory.toCluster, alike.members sound otherSound, Memory.toCluster]

theorem listClusters (alike : Alike m other) : m.listClusters = other.listClusters := by
  have perm := Directory.perm_of_find? sound.clusters otherSound.clusters alike.clusters
  apply sortOn_of_perm
  · exact distinguishes_of_nodup (nodup_names_listed sound)
  · rw [alike.toCluster sound otherSound]
    exact perm.map _

theorem listAgents (alike : Alike m other) : m.listAgents = other.listAgents := by
  have perm := Directory.perm_of_find? sound.agents otherSound.agents alike.agents
  have sorted : sortOn (·.1.text) m.agents = sortOn (·.1.text) other.agents :=
    sortOn_of_perm (distinguishes_of_nodup (AgentId.nodup_texts sound.agents)) perm
  rw [Memory.listAgents, sorted, Memory.listAgents]

theorem describeAgents (alike : Alike m other) (filter : AgentFilter) :
    m.describeAgents filter = other.describeAgents filter := by
  simp only [Memory.describeAgents, alike.listAgents sound otherSound, alike.clusterNameOf?]

/-- One case for each kind of read. -/
theorem perform (alike : Alike m other) (now : Instant) {operation : Operation}
    (reads : operation.isWrite = false) :
    (m.perform now operation).1 = (other.perform now operation).1 := by
  cases operation with
  | listAgents =>
    simp only [Memory.perform, alike.listAgents sound otherSound]
  | findAgent agent => simp only [Memory.perform, findAgent, alike.agents]
  | findAttestation agent => simp only [Memory.perform, findAttestation, alike.attestations]
  | listClusters =>
    simp only [Memory.perform, alike.listClusters sound otherSound]
  | clusterOf agent => simp only [Memory.perform, clusterOf, alike.clusterNameOf?]
  | membersOf uid =>
    simp only [Memory.perform, alike.members sound otherSound]
  | describeAgents filter =>
    simp only [Memory.perform, alike.describeAgents sound otherSound]
  | putAgent | putAttestation | createCluster | editCluster | deleteCluster => cases reads

end Alike

end Memory

end Roster
