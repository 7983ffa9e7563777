import Mathlib.Data.List.Basic
import Roster.Database.Change
import Roster.Database.Query
import Roster.Payload
import Roster.Proofs.Memory.Sound
import Roster.Proofs.Text.Sorted

/-!
Tables as a registry in memory would be written down in them.

Every agent and every cluster has a number, which stands for it in the rows that refer to it. The
rows are in the order of the entries that they stand for. Where no two known agents and no two
clusters share a number, a selection by number or by text finds the row of the entry that a look-up
finds.
-/

namespace Roster

/-- What is stored of a cluster that is there. -/
def Memory.stored (m : Memory) (uid : ClusterUid) : StoredCluster :=
  (m.clusters.find? uid).getD ⟨⟨""⟩, "", "", "", ""⟩

theorem Memory.find?_stored {m : Memory} {uid : ClusterUid} (present : uid ∈ m.clusters.keys) :
    m.clusters.find? uid = some (m.stored uid) := by
  obtain ⟨stored, found⟩ := Directory.exists_find? present
  rw [Memory.stored, found, Option.getD_some]

namespace Database

/-- The numbers of agents and clusters. -/
structure Numbering where
  agent : AgentId → Nat
  cluster : ClusterUid → Nat

namespace Numbering

def agentRow (n : Numbering) (entry : AgentId × Option String) : AgentRow where
  id := n.agent entry.1
  spiffeid := entry.1.text
  plugin := entry.2

def clusterRow (n : Numbering) (entry : ClusterUid × StoredCluster) : ClusterRow where
  id := n.cluster entry.1
  uid := entry.1.text
  name := entry.2.name.text
  createdAt := entry.2.created
  domainName := entry.2.domain
  managedBy := entry.2.manager
  platformType := entry.2.platform

def membershipRow (n : Numbering) (entry : AgentId × ClusterUid) : MembershipRow where
  agentId := n.agent entry.1
  clusterId := n.cluster entry.2

def selectorRow (n : Numbering) (entry : AgentId × Attestation) : SelectorRow where
  agentId := n.agent entry.1
  plugin := entry.2.plugin
  selectors := Attestation.selectorsCodec.encode entry.2.selectors

/-- The tables hold the rows of the registry and nothing else, and they are all there. -/
structure Encodes (n : Numbering) (m : Memory) (t : Tables) : Prop where
  agents : t.agents = m.agents.map n.agentRow
  clusters : t.clusters = m.clusters.map n.clusterRow
  memberships : t.memberships = m.memberships.map n.membershipRow
  selectors : t.selectors = m.attestations.map n.selectorRow
  agentNumbers : ∀ first ∈ m.agents.keys, ∀ second ∈ m.agents.keys,
    n.agent first = n.agent second → first = second
  agentsBelow : ∀ agent ∈ m.agents.keys, n.agent agent ≤ t.lastAgentId
  clusterNumbers : ∀ first ∈ m.clusters.keys, ∀ second ∈ m.clusters.keys,
    n.cluster first = n.cluster second → first = second
  clustersBelow : ∀ uid ∈ m.clusters.keys, n.cluster uid ≤ t.lastClusterId
  missing : t.missing = []
  triggers : t.triggers = []
  unbroken : t.brokenReference = false

theorem encodes_empty : ∃ n : Numbering, n.Encodes {} {} := by
  refine ⟨⟨fun _ => 0, fun _ => 0⟩, ?_⟩
  constructor <;> first | rfl | simp [Directory.keys]

namespace Encodes

variable {n : Numbering} {m : Memory} {t : Tables} {agent : AgentId} {uid : ClusterUid}

theorem require (encodes : n.Encodes m t) (tables : List TableName) :
    t.require tables = .ok () := by
  have present : tables.find? (· ∈ t.missing) = none := by simp [encodes.missing]
  rw [Tables.require, present]

theorem requireParents (encodes : n.Encodes m t) (foreignKeys : Bool) :
    t.requireParents foreignKeys = .ok () := by
  unfold Tables.requireParents
  split
  · have present : [TableName.clusters, .agents].find? (· ∈ t.missing) = none := by
      simp [encodes.missing]
    rw [present]
  · rfl

/-! ## Look-ups -/

theorem tells_agent (encodes : n.Encodes m t) {known : AgentId} (listed : known ∈ m.agents.keys)
    (knownAgent : agent ∈ m.agents.keys) :
    decide (n.agent known = n.agent agent) = decide (known = agent) :=
  decide_eq_decide.mpr ⟨encodes.agentNumbers known listed agent knownAgent, congrArg n.agent⟩

theorem tells_cluster (encodes : n.Encodes m t) {other : ClusterUid}
    (listed : other ∈ m.clusters.keys) (present : uid ∈ m.clusters.keys) :
    decide (n.cluster other = n.cluster uid) = decide (other = uid) :=
  decide_eq_decide.mpr ⟨encodes.clusterNumbers other listed uid present, congrArg n.cluster⟩

theorem agentNamed? (encodes : n.Encodes m t) (agent : AgentId) :
    t.agentNamed? agent.text =
      (m.agents.find? agent).map fun plugin => n.agentRow (agent, plugin) := by
  rw [Tables.agentNamed?, encodes.agents]
  apply Directory.find?_rows
  intro entry _
  simp [agentRow]

theorem agent? (encodes : n.Encodes m t) (known : agent ∈ m.agents.keys) :
    t.agent? (n.agent agent) =
      (m.agents.find? agent).map fun plugin => n.agentRow (agent, plugin) := by
  rw [Tables.agent?, encodes.agents]
  apply Directory.find?_rows
  intro entry member
  exact encodes.tells_agent (Directory.mem_keys_of_mem member) known

theorem clusterWith? (encodes : n.Encodes m t) (uid : ClusterUid) :
    t.clusterWith? uid.text =
      (m.clusters.find? uid).map fun stored => n.clusterRow (uid, stored) := by
  rw [Tables.clusterWith?, encodes.clusters]
  apply Directory.find?_rows
  intro entry _
  simp [clusterRow]

theorem cluster? (encodes : n.Encodes m t) (present : uid ∈ m.clusters.keys) :
    t.cluster? (n.cluster uid) = some (n.clusterRow (uid, m.stored uid)) := by
  have tells : ∀ entry ∈ m.clusters,
      decide ((n.clusterRow entry).id = n.cluster uid) = decide (entry.1 = uid) :=
    fun entry member => encodes.tells_cluster (Directory.mem_keys_of_mem member) present
  rw [Tables.cluster?, encodes.clusters, Directory.find?_rows tells, Memory.find?_stored present]
  rfl

/-- A membership row is told by the number of its agent. -/
theorem tells_member (encodes : n.Encodes m t) (sound : m.Sound) (known : agent ∈ m.agents.keys) :
    ∀ entry ∈ m.memberships,
      decide ((n.membershipRow entry).agentId = n.agent agent) = decide (entry.1 = agent) := by
  intro entry member
  exact encodes.tells_agent (sound.known _ (Directory.mem_keys_of_mem member)) known

theorem any_membership (encodes : n.Encodes m t) (sound : m.Sound)
    (known : agent ∈ m.agents.keys) :
    t.memberships.any (·.agentId = n.agent agent) = m.memberships.contains agent := by
  rw [encodes.memberships]
  exact Directory.any_rows (encodes.tells_member sound known)

theorem find?_membership (encodes : n.Encodes m t) (sound : m.Sound)
    (known : agent ∈ m.agents.keys) :
    t.memberships.find? (·.agentId = n.agent agent) =
      (m.memberships.find? agent).map fun uid => n.membershipRow (agent, uid) := by
  rw [encodes.memberships]
  exact Directory.find?_rows (encodes.tells_member sound known)

theorem tells_selectors (encodes : n.Encodes m t) (sound : m.Sound)
    (known : agent ∈ m.agents.keys) :
    ∀ entry ∈ m.attestations,
      decide ((n.selectorRow entry).agentId = n.agent agent) = decide (entry.1 = agent) := by
  intro entry member
  exact encodes.tells_agent (sound.attested entry member).2 known

theorem find?_selectors (encodes : n.Encodes m t) (sound : m.Sound)
    (known : agent ∈ m.agents.keys) :
    t.selectors.find? (·.agentId = n.agent agent) =
      (m.attestations.find? agent).map fun entry => n.selectorRow (agent, entry) := by
  rw [encodes.selectors]
  exact Directory.find?_rows (encodes.tells_selectors sound known)

/-! ## Joins -/

/-- No membership is lost when its agent is looked up. -/
theorem memberRows (encodes : n.Encodes m t) (sound : m.Sound) :
    t.memberRows = m.memberships.map fun entry => (n.cluster entry.2, entry.1.text) := by
  rw [Tables.memberRows, encodes.memberships, List.filterMap_map, ← List.filterMap_eq_map]
  apply List.filterMap_congr
  intro entry member
  have known := sound.known _ (Directory.mem_keys_of_mem member)
  obtain ⟨plugin, found⟩ := Directory.exists_find? known
  change (t.agent? (n.agent entry.1)).map _ = _
  rw [encodes.agent? known, found]
  rfl

theorem placedMembers (encodes : n.Encodes m t) (sound : m.Sound) :
    t.placedMembers = m.memberships.map fun entry =>
      (n.clusterRow (entry.2, m.stored entry.2), entry.1.text) := by
  rw [Tables.placedMembers, encodes.memberRows sound, List.filterMap_map, ← List.filterMap_eq_map]
  apply List.filterMap_congr
  intro entry member
  change (t.cluster? (n.cluster entry.2)).map _ = _
  rw [encodes.cluster? (sound.placed entry member)]
  rfl

theorem clusterNameOf? (encodes : n.Encodes m t) (sound : m.Sound)
    (known : agent ∈ m.agents.keys) (plugin : Option String) :
    t.clusterNameOf? (n.agentRow (agent, plugin)) =
      (m.clusterNameOf? agent).map ClusterName.text := by
  change (t.memberships.find? (·.agentId = n.agent agent)).bind _ = _
  rw [encodes.find?_membership sound known, Memory.clusterNameOf?]
  cases found : m.memberships.find? agent with
  | none => rfl
  | some uid =>
    have present := sound.placed _ (Directory.mem_of_find? found)
    change (t.cluster? (n.cluster uid)).map _ = _
    rw [encodes.cluster? present, Option.bind_some, Memory.find?_stored present]
    rfl

end Encodes

end Numbering

end Database

end Roster
