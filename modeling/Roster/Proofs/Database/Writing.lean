import Roster.Proofs.Database.Changes
import Roster.Proofs.Database.Encoding

/-!
Changes of the tables of a registry give the tables of the changed registry.

A new agent or cluster gets a number that no other one has, and the other rows stay as they are,
since none of them refers to it yet. A change is refused where the registry refuses it.
-/

namespace Roster.Database.Numbering

variable {n : Numbering} {m : Memory} {t : Tables} {agent : AgentId} {uid : ClusterUid}

/-! ## New numbers -/

def withAgent (n : Numbering) (agent : AgentId) (number : Nat) : Numbering :=
  { n with agent := fun other => if other = agent then number else n.agent other }

def withCluster (n : Numbering) (uid : ClusterUid) (number : Nat) : Numbering :=
  { n with cluster := fun other => if other = uid then number else n.cluster other }

theorem withAgent_same (n : Numbering) (agent : AgentId) (number : Nat) :
    (n.withAgent agent number).agent agent = number :=
  if_pos rfl

theorem withAgent_other {other : AgentId} (different : other ≠ agent) (number : Nat) :
    (n.withAgent agent number).agent other = n.agent other :=
  if_neg different

theorem withCluster_same (n : Numbering) (uid : ClusterUid) (number : Nat) :
    (n.withCluster uid number).cluster uid = number :=
  if_pos rfl

theorem withCluster_other {other : ClusterUid} (different : other ≠ uid) (number : Nat) :
    (n.withCluster uid number).cluster other = n.cluster other :=
  if_neg different

section Fresh

variable {κ ν : Type} [DecidableEq κ] {d : Directory κ ν} {number : κ → Nat} {key : κ}
  {value : ν} {fresh : Nat}

/-- Where a new key gets a number above all others, the numbers still tell the keys apart. -/
theorem numbers_fresh
    (distinct : ∀ first ∈ d.keys, ∀ second ∈ d.keys, number first = number second → first = second)
    (unused : ∀ known ∈ d.keys, number known < fresh) :
    ∀ first ∈ Directory.keys (d ++ [(key, value)]),
      ∀ second ∈ Directory.keys (d ++ [(key, value)]),
        (if first = key then fresh else number first) =
          (if second = key then fresh else number second) → first = second := by
  have old {known : κ} (listed : known ∈ Directory.keys (d ++ [(key, value)]))
      (other : known ≠ key) : known ∈ d.keys := by
    rw [Directory.keys_append_pair, List.mem_append, List.mem_singleton] at listed
    exact listed.resolve_right other
  intro first firstListed second secondListed same
  by_cases firstNew : first = key
  · by_cases secondNew : second = key
    · rw [firstNew, secondNew]
    · rw [if_pos firstNew, if_neg secondNew] at same
      exact absurd same.symm (Nat.ne_of_lt (unused second (old secondListed secondNew)))
  · by_cases secondNew : second = key
    · rw [if_neg firstNew, if_pos secondNew] at same
      exact absurd same (Nat.ne_of_lt (unused first (old firstListed firstNew)))
    · rw [if_neg firstNew, if_neg secondNew] at same
      exact distinct first (old firstListed firstNew) second (old secondListed secondNew) same

theorem numbers_below (unused : ∀ known ∈ d.keys, number known < fresh) :
    ∀ known ∈ Directory.keys (d ++ [(key, value)]),
      (if known = key then fresh else number known) ≤ fresh := by
  intro known listed
  rw [Directory.keys_append_pair, List.mem_append, List.mem_singleton] at listed
  split
  next => exact Nat.le_refl fresh
  next new => exact Nat.le_of_lt (unused known (listed.resolve_right new))

end Fresh

namespace Encodes

theorem takeAgentId (encodes : n.Encodes m t) : n.Encodes m t.takeAgentId :=
  { encodes with
    agentsBelow := fun agent known => Nat.le_succ_of_le (encodes.agentsBelow agent known) }

theorem lt_takeAgentId (encodes : n.Encodes m t) :
    ∀ agent ∈ m.agents.keys, n.agent agent < t.takeAgentId.lastAgentId :=
  fun agent known => Nat.lt_succ_of_le (encodes.agentsBelow agent known)

/-- The last number taken stands for a new agent. -/
theorem addAgent (encodes : n.Encodes m t) (sound : m.Sound) (absent : agent ∉ m.agents.keys)
    (unused : ∀ known ∈ m.agents.keys, n.agent known < t.lastAgentId) (plugin : Option String) :
    (n.withAgent agent t.lastAgentId).Encodes
      { m with agents := m.agents ++ [(agent, plugin)] } (t.addAgent agent.text plugin) := by
  have other {known : AgentId} (listed : known ∈ m.agents.keys) : known ≠ agent := by
    rintro rfl
    exact absent listed
  exact {
    agents := by
      have rows : m.agents.map n.agentRow =
          m.agents.map (n.withAgent agent t.lastAgentId).agentRow := by
        apply List.map_congr_left
        intro entry member
        rw [agentRow, agentRow, withAgent_other (other (Directory.mem_keys_of_mem member))]
      rw [Tables.addAgent, List.map_append, encodes.agents, rows, List.map_singleton, agentRow,
        withAgent_same]
    clusters := encodes.clusters
    memberships := by
      rw [Tables.addAgent, encodes.memberships]
      apply List.map_congr_left
      intro entry member
      have known := sound.known _ (Directory.mem_keys_of_mem member)
      rw [membershipRow, membershipRow, withAgent_other (other known)]
      rfl
    selectors := by
      rw [Tables.addAgent, encodes.selectors]
      apply List.map_congr_left
      intro entry member
      have known := (sound.attested _ member).2
      rw [selectorRow, selectorRow, withAgent_other (other known)]
    agentNumbers := numbers_fresh encodes.agentNumbers unused
    agentsBelow := numbers_below unused
    clusterNumbers := encodes.clusterNumbers
    clustersBelow := encodes.clustersBelow
    missing := encodes.missing
    triggers := encodes.triggers
    unbroken := encodes.unbroken }

/-! ## Agents -/

theorem isSome_agentNamed? (encodes : n.Encodes m t) (agent : AgentId) :
    (t.agentNamed? agent.text).isSome = true ↔ agent ∈ m.agents.keys := by
  rw [encodes.agentNamed?, Option.isSome_map, Directory.find?_isSome_iff]

/-- An agent that is known takes a number too, which is left unused. -/
theorem ensureAgent (encodes : n.Encodes m t) (sound : m.Sound) (agent : AgentId) :
    ∃ n' : Numbering, n'.Encodes { m with agents := m.agents.putNew agent none }
      (t.ensureAgent agent.text) := by
  have taken := encodes.takeAgentId
  rw [Tables.ensureAgent]
  by_cases known : agent ∈ m.agents.keys
  · rw [if_pos ((taken.isSome_agentNamed? agent).mpr known), Directory.putNew_of_mem known]
    exact ⟨n, taken⟩
  · rw [if_neg fun named => known ((taken.isSome_agentNamed? agent).mp named),
      Directory.putNew_of_not_mem known]
    exact ⟨_, taken.addAgent sound known encodes.lt_takeAgentId none⟩

theorem insertAgents (encodes : n.Encodes m t) (sound : m.Sound) {agents : List AgentId}
    (room : (Statement.insertAgents agents.length).Fits) :
    ∃ t', t.insertAgents (agents.map AgentId.text) = .ok t' ∧
      ∃ n' : Numbering, n'.Encodes { m with agents := Memory.learn agents m.agents } t' := by
  refine ⟨(agents.map AgentId.text).foldl Tables.ensureAgent t, ?_, ?_⟩
  · rw [← agents.length_map AgentId.text] at room
    rw [Tables.insertAgents, Tables.accept_of_fits room, encodes.require]
    rfl
  · clear room
    induction agents generalizing n m t with
    | nil => exact ⟨n, encodes⟩
    | cons first rest ih =>
      obtain ⟨n', later⟩ := encodes.ensureAgent sound first
      exact ih later (Memory.sound_learnAgent sound first)

theorem insertAgent (encodes : n.Encodes m t) (sound : m.Sound) (agent : AgentId) :
    ∃ t', t.insertAgent agent.text = .ok t' ∧
      ∃ n' : Numbering, n'.Encodes { m with agents := m.agents.putNew agent none } t' := by
  refine ⟨t.ensureAgent agent.text, ?_, encodes.ensureAgent sound agent⟩
  rw [Tables.insertAgent, encodes.require]
  rfl

theorem upsertAgent (encodes : n.Encodes m t) (sound : m.Sound) (agent : AgentId)
    (plugin : Option String) :
    ∃ t', t.upsertAgent agent.text plugin = .ok t' ∧
      ∃ n' : Numbering, n'.Encodes { m with agents := m.agents.put agent plugin } t' := by
  have taken := encodes.takeAgentId
  rw [Tables.upsertAgent, encodes.require]
  refine ⟨_, rfl, ?_⟩
  by_cases known : agent ∈ m.agents.keys
  · rw [if_pos ((taken.isSome_agentNamed? agent).mpr known)]
    refine ⟨n, { taken with agents := ?_, agentNumbers := ?_, agentsBelow := ?_ }⟩
    · have tells : ∀ entry ∈ m.agents,
          decide ((n.agentRow entry).spiffeid = agent.text) = decide (entry.1 = agent) :=
        fun entry _ => by simp [agentRow]
      rw [← Directory.map_rows_put n.agentRow (fun row => row.spiffeid = agent.text)
        (fun row => { row with plugin }) known plugin tells, ← taken.agents]
      · simp only [decide_eq_true_eq]
      · rintro entry _ rfl
        rfl
    · rw [Directory.keys_put_of_mem known]
      exact taken.agentNumbers
    · rw [Directory.keys_put_of_mem known]
      exact taken.agentsBelow
  · rw [if_neg fun named => known ((taken.isSome_agentNamed? agent).mp named),
      Directory.put_of_not_mem known]
    exact ⟨_, taken.addAgent sound known encodes.lt_takeAgentId plugin⟩

/-! ## Clusters -/

theorem any_uid (encodes : n.Encodes m t) (uid : ClusterUid) :
    t.clusters.any (·.uid = uid.text) = m.clusters.contains uid := by
  rw [encodes.clusters]
  apply Directory.any_rows
  intro entry _
  simp [clusterRow]

theorem any_name (encodes : n.Encodes m t) (name : ClusterName) :
    t.clusters.any (·.name = name.text) = m.nameTaken name none := by
  rw [encodes.clusters, List.any_map, Memory.nameTaken]
  congr 1
  funext entry
  simp [clusterRow]

theorem any_other_name (encodes : n.Encodes m t) (name : ClusterName) (uid : ClusterUid) :
    t.clusters.any (fun row => row.name = name.text && row.uid ≠ uid.text) =
      m.nameTaken name (some uid) := by
  rw [encodes.clusters, List.any_map, Memory.nameTaken]
  congr 1
  funext entry
  simp [clusterRow]

def columns (now : Instant) (cluster : Cluster) : Tables.ClusterColumns where
  uid := cluster.uid.text
  name := cluster.name.text
  createdAt := now.stamp
  domainName := cluster.domain
  managedBy := cluster.manager
  platformType := cluster.platform

/-- The next number stands for a new cluster. -/
theorem addCluster (encodes : n.Encodes m t) (sound : m.Sound) (absent : uid ∉ m.clusters.keys)
    (stored : StoredCluster) :
    (n.withCluster uid (t.lastClusterId + 1)).Encodes
      { m with clusters := m.clusters ++ [(uid, stored)] }
      { t with
        clusters := t.clusters ++
          [(n.withCluster uid (t.lastClusterId + 1)).clusterRow (uid, stored)]
        lastClusterId := t.lastClusterId + 1 } := by
  have other {known : ClusterUid} (listed : known ∈ m.clusters.keys) : known ≠ uid := by
    rintro rfl
    exact absent listed
  have unused : ∀ known ∈ m.clusters.keys, n.cluster known < t.lastClusterId + 1 :=
    fun known listed => Nat.lt_succ_of_le (encodes.clustersBelow known listed)
  exact { encodes with
    clusters := by
      have rows : m.clusters.map n.clusterRow =
          m.clusters.map (n.withCluster uid (t.lastClusterId + 1)).clusterRow := by
        apply List.map_congr_left
        intro entry member
        rw [clusterRow, clusterRow, withCluster_other (other (Directory.mem_keys_of_mem member))]
      rw [List.map_append, encodes.clusters, rows, List.map_singleton]
    memberships := by
      rw [encodes.memberships]
      apply List.map_congr_left
      intro entry member
      rw [membershipRow, membershipRow, withCluster_other (other (sound.placed entry member))]
      rfl
    clusterNumbers := numbers_fresh encodes.clusterNumbers unused
    clustersBelow := numbers_below unused }

theorem insertCluster_eq (encodes : n.Encodes m t) (foreignKeys : Bool) (now : Instant)
    (cluster : Cluster) :
    t.insertCluster foreignKeys (columns now cluster) =
      if m.clusters.contains cluster.uid then .error (.duplicateValue .clusters "uid")
      else if m.nameTaken cluster.name none then .error (.duplicateValue .clusters "name")
      else .ok { t with
        clusters := t.clusters ++
          [(n.withCluster cluster.uid (t.lastClusterId + 1)).clusterRow
            (cluster.uid, Memory.newCluster now cluster)]
        lastClusterId := t.lastClusterId + 1 } := by
  have quiet : t.triggers.find? (· ≠ .failCommit) = none := by rw [encodes.triggers]; rfl
  have unbroken : (t.brokenReference || foreignKeys && decide (.failCommit ∈ t.triggers)) =
      t.brokenReference := by
    simp [encodes.unbroken, encodes.triggers]
  rw [← encodes.any_uid, ← encodes.any_name, clusterRow, withCluster_same, Tables.insertCluster,
    encodes.require, quiet, unbroken]
  rfl

/-- The registry refuses a cluster just if the tables do, whether for its uid or for its name. -/
theorem insertCluster (encodes : n.Encodes m t) (sound : m.Sound) (foreignKeys : Bool)
    (now : Instant) (cluster : Cluster) :
    match m.insertCluster now cluster with
    | .ok written => ∃ t', t.insertCluster foreignKeys (columns now cluster) = .ok t' ∧
        ∃ n' : Numbering, n'.Encodes written t'
    | .error _ => ∃ column, t.insertCluster foreignKeys (columns now cluster) =
        .error (.duplicateValue .clusters column) := by
  rw [encodes.insertCluster_eq, Memory.insertCluster]
  cases uidTaken : m.clusters.contains cluster.uid with
  | true => exact ⟨"uid", rfl⟩
  | false =>
    cases nameTaken : m.nameTaken cluster.name none with
    | true => exact ⟨"name", rfl⟩
    | false =>
      have absent := Directory.contains_eq_false_iff.mp uidTaken
      have added := encodes.addCluster sound absent (Memory.newCluster now cluster)
      rw [← Directory.put_of_not_mem absent] at added
      exact ⟨_, rfl, _, added⟩

/-- The number and the creation time of the row stay. -/
theorem updateCluster_eq (encodes : n.Encodes m t) (sound : m.Sound) (cluster : Cluster) :
    t.updateCluster cluster.uid.text cluster.name.text cluster.domain cluster.manager
        cluster.platform =
      match m.clusters.find? cluster.uid with
      | none => .ok (0, t)
      | some old =>
        if m.nameTaken cluster.name (some cluster.uid) then
          .error (.duplicateValue .clusters "name")
        else .ok (1, { t with
          clusters := (m.clusters.put cluster.uid (Memory.editedCluster cluster old)).map
            n.clusterRow }) := by
  rw [Tables.updateCluster, encodes.require, encodes.clusterWith?, encodes.any_other_name]
  cases found : m.clusters.find? cluster.uid with
  | none => rfl
  | some old =>
    have listed := Directory.mem_keys_of_find? found
    have tells : ∀ entry ∈ m.clusters,
        decide ((n.clusterRow entry).uid = cluster.uid.text) = decide (entry.1 = cluster.uid) :=
      fun entry _ => by simp [clusterRow]
    have rows := Directory.map_rows_put n.clusterRow (fun row => row.uid = cluster.uid.text)
      (fun row => { row with
        name := cluster.name.text, domainName := cluster.domain, managedBy := cluster.manager,
        platformType := cluster.platform }) listed (Memory.editedCluster cluster old) tells
    simp only [decide_eq_true_eq] at rows
    rw [encodes.clusters, rows]
    · rfl
    · rintro ⟨uid, stored⟩ member rfl
      have same := Directory.find?_of_mem sound.clusters member
      rw [Option.some.inj (same.symm.trans found)]
      rfl

theorem putCluster (encodes : n.Encodes m t) (present : uid ∈ m.clusters.keys)
    (stored : StoredCluster) :
    n.Encodes { m with clusters := m.clusters.put uid stored }
      { t with clusters := (m.clusters.put uid stored).map n.clusterRow } :=
  { encodes with
    clusters := rfl
    clusterNumbers := by
      rw [Directory.keys_put_of_mem present]
      exact encodes.clusterNumbers
    clustersBelow := by
      rw [Directory.keys_put_of_mem present]
      exact encodes.clustersBelow }

def clusterIds (t : Tables) (uid : ClusterUid) : List Nat :=
  (t.clusters.filter (·.uid = uid.text)).map (·.id)

/-- The numbers of the clusters with a uid tell the memberships of that cluster. -/
theorem mem_clusterIds (encodes : n.Encodes m t) (uid : ClusterUid) {other : ClusterUid}
    (listed : other ∈ m.clusters.keys) :
    n.cluster other ∈ clusterIds t uid ↔ other = uid := by
  rw [clusterIds, encodes.clusters]
  constructor
  · intro among
    obtain ⟨row, chosen, same⟩ := List.mem_map.mp among
    obtain ⟨member, named⟩ := List.mem_filter.mp chosen
    obtain ⟨entry, entryMember, rfl⟩ := List.mem_map.mp member
    have uids : entry.1 = uid := by simpa [clusterRow] using named
    rw [← uids]
    exact encodes.clusterNumbers other listed entry.1 (Directory.mem_keys_of_mem entryMember)
      same.symm
  · rintro rfl
    obtain ⟨stored, found⟩ := Directory.exists_find? listed
    apply List.mem_map.mpr
    refine ⟨n.clusterRow (other, stored), List.mem_filter.mpr ⟨?_, ?_⟩, rfl⟩
    · exact List.mem_map_of_mem (Directory.mem_of_find? found)
    · exact decide_eq_true rfl

theorem cascadeClusters (encodes : n.Encodes m t) (sound : m.Sound) (uid : ClusterUid) :
    n.Encodes (m.removeMembers uid)
      (t.cascadeClusters (clusterIds t uid)) :=
  { encodes with
    memberships := by
      rw [Tables.cascadeClusters, encodes.memberships, List.filter_map, Memory.removeMembers]
      apply congrArg (List.map n.membershipRow)
      apply List.filter_congr
      intro entry member
      have told := encodes.mem_clusterIds uid (sound.placed entry member)
      exact decide_eq_decide.mpr (not_congr told) }

theorem deleteMembers (encodes : n.Encodes m t) (sound : m.Sound) (foreignKeys : Bool)
    (uid : ClusterUid) :
    ∃ t', t.deleteMembers foreignKeys uid.text = .ok t' ∧ n.Encodes (m.removeMembers uid) t' := by
  refine ⟨_, ?_, encodes.cascadeClusters sound uid⟩
  rw [Tables.deleteMembers, encodes.require, encodes.requireParents]
  rfl

theorem removeCluster (encodes : n.Encodes m t) (uid : ClusterUid) :
    n.Encodes { m with clusters := m.clusters.remove uid }
      { t with clusters := t.clusters.filter (·.uid ≠ uid.text) } :=
  { encodes with
    clusters := by
      have tells : ∀ entry ∈ m.clusters,
          decide ((n.clusterRow entry).uid = uid.text) = decide (entry.1 = uid) :=
        fun entry _ => by simp [clusterRow]
      have rows := Directory.filter_rows_ne n.clusterRow (fun row => row.uid = uid.text) tells
      rw [encodes.clusters, ← rows]
      simp
    clusterNumbers := fun first firstListed second secondListed =>
      encodes.clusterNumbers first (Directory.mem_keys_remove.mp firstListed).1
        second (Directory.mem_keys_remove.mp secondListed).1
    clustersBelow := fun known listed =>
      encodes.clustersBelow known (Directory.mem_keys_remove.mp listed).1 }

theorem length_filter_uid (encodes : n.Encodes m t) (uid : ClusterUid) :
    (t.clusters.filter (·.uid = uid.text)).length =
      (m.clusters.filter fun entry => entry.1 = uid).length := by
  rw [encodes.clusters, List.filter_map, List.length_map]
  congr 2
  funext entry
  simp [clusterRow]

/-- Once a cluster has no members, it does not matter whether references are enforced. -/
theorem deleteCluster (encodes : n.Encodes m t) (sound : m.Sound) (foreignKeys : Bool)
    (empty : ∀ entry ∈ m.memberships, entry.2 ≠ uid) :
    ∃ t', t.deleteCluster foreignKeys uid.text =
        .ok ((m.clusters.filter fun entry => entry.1 = uid).length, t') ∧
      n.Encodes { m with clusters := m.clusters.remove uid } t' := by
  have others : ∀ row ∈ t.memberships, row.clusterId ∉ clusterIds t uid := by
    rw [encodes.memberships]
    intro row member
    obtain ⟨entry, listed, rfl⟩ := List.mem_map.mp member
    intro among
    exact empty entry listed ((encodes.mem_clusterIds uid (sound.placed entry listed)).mp among)
  have kept : t.memberships.filter (·.clusterId ∉ clusterIds t uid) = t.memberships :=
    List.filter_eq_self.mpr fun row member => decide_eq_true (others row member)
  refine ⟨_, ?_, encodes.removeCluster uid⟩
  rw [Tables.deleteCluster, encodes.require, encodes.requireParents, ← encodes.length_filter_uid]
  cases foreignKeys with
  | false => rfl
  | true =>
    change Except.ok (_, { t with
      clusters := _
      memberships := t.memberships.filter (·.clusterId ∉ clusterIds t uid) }) = _
    rw [kept]

/-! ## Memberships -/

theorem insertMembership (encodes : n.Encodes m t) (sound : m.Sound)
    (known : agent ∈ m.agents.keys) (present : uid ∈ m.clusters.keys) :
    Tables.insertMembership uid.text t agent.text =
      if m.memberships.contains agent then .error (.duplicateValue .memberships "agent_id")
      else .ok { t with memberships := t.memberships ++ [n.membershipRow (agent, uid)] } := by
  obtain ⟨plugin, foundAgent⟩ := Directory.exists_find? known
  rw [Tables.insertMembership, encodes.agentNamed?, encodes.clusterWith?, foundAgent,
    Memory.find?_stored present, ← encodes.any_membership sound known]
  rfl

theorem addMembership (encodes : n.Encodes m t) (agent : AgentId) (uid : ClusterUid) :
    n.Encodes { m with memberships := m.memberships ++ [(agent, uid)] }
      { t with memberships := t.memberships ++ [n.membershipRow (agent, uid)] } :=
  { encodes with
    memberships := by rw [List.map_append, encodes.memberships]; rfl }

/-- The memberships of a batch that may be assigned are inserted one after the other. -/
theorem foldlM_of_assignable (encodes : n.Encodes m t) (sound : m.Sound)
    (present : uid ∈ m.clusters.keys) {agents : List AgentId}
    (known : ∀ agent ∈ agents, agent ∈ m.agents.keys)
    (assignable : Memory.Assignable agents m.memberships) :
    ∃ t', (agents.map AgentId.text).foldlM (Tables.insertMembership uid.text) t = .ok t' ∧
      n.Encodes { m with memberships := m.memberships ++ agents.map (·, uid) } t' := by
  induction agents generalizing m t with
  | nil =>
    refine ⟨t, rfl, ?_⟩
    rw [List.map_nil, List.append_nil]
    exact encodes
  | cons agent rest ih =>
    have agentKnown := known agent List.mem_cons_self
    have free := assignable.2 agent List.mem_cons_self
    have inserted := encodes.insertMembership sound agentKnown present
    rw [Directory.contains_eq_false_iff.mpr free] at inserted
    have others := (Memory.assignable_cons free uid).mp assignable
    rw [Directory.put_of_not_mem free] at others
    have later := ih (encodes.addMembership agent uid)
      (Memory.sound_addMembership sound agentKnown present free) present
      (fun other member => known other (List.mem_cons_of_mem _ member)) others
    rw [List.map_cons, List.foldlM_cons, inserted, List.map_cons]
    rw [List.append_assoc] at later
    exact later

/-- Of a batch that may not be assigned, the first agent that has a cluster by then is refused. -/
theorem foldlM_of_not_assignable (encodes : n.Encodes m t) (sound : m.Sound)
    (present : uid ∈ m.clusters.keys) {agents : List AgentId}
    (known : ∀ agent ∈ agents, agent ∈ m.agents.keys)
    (taken : ¬Memory.Assignable agents m.memberships) :
    (agents.map AgentId.text).foldlM (Tables.insertMembership uid.text) t =
      .error (.duplicateValue .memberships "agent_id") := by
  induction agents generalizing m t with
  | nil => exact absurd ⟨List.nodup_nil, by simp⟩ taken
  | cons agent rest ih =>
    have agentKnown := known agent List.mem_cons_self
    rw [List.map_cons, List.foldlM_cons, encodes.insertMembership sound agentKnown present]
    cases member : m.memberships.contains agent with
    | true => rfl
    | false =>
      have free := Directory.contains_eq_false_iff.mp member
      rw [Memory.assignable_cons free uid, Directory.put_of_not_mem free] at taken
      exact ih (encodes.addMembership agent uid)
        (Memory.sound_addMembership sound agentKnown present free) present
        (fun other member => known other (List.mem_cons_of_mem _ member)) taken

theorem insertMemberships (encodes : n.Encodes m t) {spiffeids : List String}
    (room : (Statement.insertMemberships spiffeids.length).Fits) :
    t.insertMemberships uid.text spiffeids =
      spiffeids.foldlM (Tables.insertMembership uid.text) t := by
  rw [Tables.insertMemberships, Tables.accept_of_fits room, encodes.require]
  rfl

/-! ## Selectors -/

theorem upsertSelectors (encodes : n.Encodes m t) (sound : m.Sound) (entry : Attestation)
    (known : entry.agent ∈ m.agents.keys) :
    ∃ t', t.upsertSelectors (n.agent entry.agent) entry.plugin
        (Attestation.selectorsCodec.encode entry.selectors) = .ok t' ∧
      n.Encodes { m with attestations := m.attestations.put entry.agent entry } t' := by
  have tells := encodes.tells_selectors sound known
  have listed : t.selectors.any (·.agentId = n.agent entry.agent) =
      m.attestations.contains entry.agent := by
    rw [encodes.selectors]
    exact Directory.any_rows tells
  rw [Tables.upsertSelectors, encodes.require, listed]
  refine ⟨_, rfl, ?_⟩
  cases attested : m.attestations.contains entry.agent with
  | true =>
    have rows := Directory.map_rows_put n.selectorRow
      (fun row => row.agentId = n.agent entry.agent)
      (fun row => { row with
        plugin := entry.plugin
        selectors := Attestation.selectorsCodec.encode entry.selectors })
      (Directory.contains_iff.mp attested) entry tells
    simp only [decide_eq_true_eq] at rows
    rw [if_pos rfl, encodes.selectors, rows]
    · exact { encodes with selectors := rfl }
    · rintro ⟨agent, old⟩ _ rfl
      rfl
  | false =>
    rw [if_neg Bool.false_ne_true,
      Directory.put_of_not_mem (Directory.contains_eq_false_iff.mp attested)]
    exact { encodes with
      selectors := by rw [List.map_append, encodes.selectors]; rfl }

end Encodes

end Roster.Database.Numbering
