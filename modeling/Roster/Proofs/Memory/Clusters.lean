import Roster.Proofs.Memory.Sound
import Roster.Proofs.Text.Sorted

/-!
Writes of clusters by what the registry lists.

A cluster that is created or edited is written in one way: its members are released, its entry is
put, and the agents of the batch become members. A cluster that is deleted has its members released
and its entry removed. What a list of the clusters or of the agents says afterwards is what it said
before, apart from that cluster and from the agents that were released or assigned.
-/

namespace Roster

/-- The record of a cluster that was written, with the time at which it was created first. -/
def Cluster.recorded (cluster : Cluster) (created : String) : Cluster :=
  { cluster with created := some created, members := AgentId.sort cluster.members }

namespace Memory

open Text

variable {now : Instant} {m : Memory} {cluster : Cluster} {uid : ClusterUid} {agent : AgentId}

/-! ## Lists -/

theorem mem_listClusters {listed : Cluster} :
    listed ∈ m.listClusters ↔ ∃ entry ∈ m.clusters, m.toCluster entry.1 entry.2 = listed := by
  rw [listClusters, mem_sortOn, List.mem_map]

theorem mem_members : agent ∈ m.members uid ↔ (agent, uid) ∈ m.memberships := by
  rw [members, AgentId.sort, mem_sortOn, List.mem_map]
  constructor
  · rintro ⟨⟨_, other⟩, chosen, rfl⟩
    obtain ⟨member, same⟩ := List.mem_filter.mp chosen
    exact of_decide_eq_true same ▸ member
  · intro member
    exact ⟨(agent, uid), List.mem_filter.mpr ⟨member, decide_eq_true rfl⟩, rfl⟩

theorem uid_listed : (∃ listed ∈ m.listClusters, listed.uid = uid) ↔ uid ∈ m.clusters.keys := by
  constructor
  · rintro ⟨_, member, rfl⟩
    obtain ⟨entry, stored, rfl⟩ := mem_listClusters.mp member
    exact Directory.mem_keys_of_mem stored
  · intro listed
    obtain ⟨stored, member⟩ := Directory.mem_keys.mp listed
    exact ⟨_, mem_listClusters.mpr ⟨_, member, rfl⟩, rfl⟩

theorem name_listed {name : ClusterName} {besides : Option ClusterUid} :
    m.nameTaken name besides = true ↔
      ∃ listed ∈ m.listClusters, listed.name = name ∧ some listed.uid ≠ besides := by
  rw [nameTaken_iff]
  constructor
  · rintro ⟨entry, member, named, other⟩
    exact ⟨_, mem_listClusters.mpr ⟨entry, member, rfl⟩, named, other⟩
  · rintro ⟨_, member, named, other⟩
    obtain ⟨entry, stored, rfl⟩ := mem_listClusters.mp member
    exact ⟨entry, stored, named, other⟩

theorem mem_of_clusterNameOf? {name : ClusterName} (named : m.clusterNameOf? agent = some name) :
    ∃ entry ∈ m.clusters, entry.2.name = name := by
  obtain ⟨uid, _, found⟩ := Option.bind_eq_some_iff.mp named
  obtain ⟨stored, present, rfl⟩ := Option.map_eq_some_iff.mp found
  exact ⟨(uid, stored), Directory.mem_of_find? present, rfl⟩

/-- An agent has a cluster just if it is a member of one. -/
theorem clusterNameOf?_isSome (sound : m.Sound) :
    (m.clusterNameOf? agent).isSome = true ↔ agent ∈ m.memberships.keys := by
  rw [← Directory.find?_isSome_iff, clusterNameOf?]
  cases found : m.memberships.find? agent with
  | none => rfl
  | some uid =>
    obtain ⟨stored, present⟩ :=
      Directory.exists_find? (sound.placed _ (Directory.mem_of_find? found))
    rw [Option.bind_some, present]
    rfl

theorem distinguishes_members (sound : m.Sound) {other : ClusterUid}
    (first : (agent, uid) ∈ m.memberships) (second : (agent, other) ∈ m.memberships) :
    uid = other :=
  Option.some.inj ((Directory.find?_of_mem sound.memberships first).symm.trans
    (Directory.find?_of_mem sound.memberships second))

/-! ## What a write makes of the registry -/

theorem removeMembers_of_absent (sound : m.Sound) (absent : uid ∉ m.clusters.keys) :
    m.removeMembers uid = m := by
  have all : m.memberships.filter (fun entry => entry.2 ≠ uid) = m.memberships := by
    apply List.filter_eq_self.mpr
    intro entry member
    apply decide_eq_true
    rintro rfl
    exact absent (sound.placed entry member)
  rw [removeMembers, all]

/-- The registry with other clusters, and without the members of one cluster. -/
def emptied (m : Memory) (uid : ClusterUid) (clusters : Directory ClusterUid StoredCluster) :
    Memory :=
  { m.removeMembers uid with clusters }

/-- The registry with the cluster as it is stored, and the batch as its members. -/
def rewritten (m : Memory) (cluster : Cluster) (stored : StoredCluster) : Memory :=
  (m.emptied cluster.uid (m.clusters.put cluster.uid stored)).withMembers cluster.uid
    cluster.members

theorem members_withMembers_same {base : Memory} {agents : List AgentId}
    (empty : ∀ entry ∈ base.memberships, entry.2 ≠ uid) :
    (base.withMembers uid agents).members uid = AgentId.sort agents := by
  have old : base.memberships.filter (fun entry => entry.2 = uid) = [] := by
    apply List.filter_eq_nil_iff.mpr
    intro entry member
    simpa using empty entry member
  have new : (agents.map (·, uid)).filter (fun entry => entry.2 = uid) = agents.map (·, uid) := by
    apply List.filter_eq_self.mpr
    intro entry member
    obtain ⟨_, _, rfl⟩ := List.mem_map.mp member
    exact decide_eq_true rfl
  rw [members, withMembers, List.filter_append, old, new, List.nil_append, List.map_map]
  exact congrArg AgentId.sort (List.map_id agents)

theorem members_withMembers_other {base : Memory} {agents : List AgentId} {other : ClusterUid}
    (different : other ≠ uid) :
    (base.withMembers uid agents).members other = base.members other := by
  have new : (agents.map (·, uid)).filter (fun entry => entry.2 = other) = [] := by
    apply List.filter_eq_nil_iff.mpr
    intro entry member
    obtain ⟨_, _, rfl⟩ := List.mem_map.mp member
    simpa using different.symm
  rw [members, withMembers, List.filter_append, new, List.append_nil, members]

theorem members_of_empty (empty : ∀ entry ∈ m.memberships, entry.2 ≠ uid) :
    m.members uid = [] := by
  apply List.eq_nil_iff_forall_not_mem.mpr
  intro agent member
  exact empty _ (mem_members.mp member) rfl

theorem members_removeMembers {other : ClusterUid} (different : other ≠ uid) :
    (m.removeMembers uid).members other = m.members other := by
  have same : (m.memberships.filter fun entry => entry.2 ≠ uid).filter
      (fun entry => entry.2 = other) = m.memberships.filter fun entry => entry.2 = other := by
    rw [List.filter_filter]
    apply List.filter_congr
    intro entry _
    by_cases here : entry.2 = other
    · simp [here, different]
    · simp [here]
  rw [members, removeMembers, same, members]

theorem members_rewritten (m : Memory) (cluster : Cluster) (stored : StoredCluster) :
    (m.rewritten cluster stored).members cluster.uid = AgentId.sort cluster.members :=
  members_withMembers_same (removeMembers_empty cluster.uid m)

theorem members_rewritten_other {other : ClusterUid} (different : other ≠ cluster.uid)
    (stored : StoredCluster) : (m.rewritten cluster stored).members other = m.members other :=
  (members_withMembers_other different).trans (members_removeMembers different)

/-! ## Outcomes -/

/-- The cluster is there with what was put and with the members of the batch. -/
theorem findCluster_rewritten (m : Memory) (cluster : Cluster) (stored : StoredCluster) :
    (m.rewritten cluster stored).findCluster cluster.uid = .ok {
      uid := cluster.uid, name := stored.name, created := some stored.created,
      domain := stored.domain, manager := stored.manager, platform := stored.platform,
      members := AgentId.sort cluster.members } := by
  have found : (m.rewritten cluster stored).clusters.find? cluster.uid = some stored := by
    change (m.clusters.put cluster.uid stored).find? cluster.uid = some stored
    rw [Directory.find?_put, if_pos rfl]
  simp only [findCluster, found, toCluster, members_rewritten]

/-- What follows once the cluster has been put: the batch is refused or the write is done. -/
theorem add_batch {stored : StoredCluster} {base : Memory}
    (put : base = m.emptied cluster.uid (m.clusters.put cluster.uid stored)) :
    (do
      let m ← base.addMembers cluster.uid cluster.members
      return (← m.findCluster cluster.uid, m)) =
      if Assignable cluster.members base.memberships then
        .ok ({ uid := cluster.uid, name := stored.name, created := some stored.created,
               domain := stored.domain, manager := stored.manager, platform := stored.platform,
               members := AgentId.sort cluster.members }, m.rewritten cluster stored)
      else .error .agentAssigned := by
  have present : cluster.uid ∈ base.clusters.keys := by
    rw [put]
    exact Directory.mem_keys_put.mpr (.inr rfl)
  rw [addMembers_eq present]
  split
  next =>
    have written : base.withMembers cluster.uid cluster.members = m.rewritten cluster stored := by
      rw [put, rewritten]
    rw [written]
    change ((m.rewritten cluster stored).findCluster cluster.uid >>= fun record =>
      Except.ok (record, m.rewritten cluster stored)) = _
    rw [findCluster_rewritten]
    rfl
  next => rfl

theorem createCluster_eq (sound : m.Sound) (now : Instant) (cluster : Cluster) :
    m.createCluster now cluster =
      if m.clusters.contains cluster.uid || m.nameTaken cluster.name none then
        .error .clusterExists
      else if Assignable cluster.members m.memberships then
        .ok ({ cluster with created := some now.stamp, members := AgentId.sort cluster.members },
          m.rewritten cluster (newCluster now cluster))
      else .error .agentAssigned := by
  rw [createCluster, insertCluster]
  split
  next => rfl
  next free =>
    rw [Bool.or_eq_true, not_or, Directory.contains_iff] at free
    have put : { m with clusters := m.clusters.put cluster.uid (newCluster now cluster) } =
        m.emptied cluster.uid (m.clusters.put cluster.uid (newCluster now cluster)) := by
      rw [emptied, removeMembers_of_absent sound free.1]
    exact add_batch put

theorem editCluster_eq (m : Memory) (cluster : Cluster) :
    m.editCluster cluster =
      match m.clusters.find? cluster.uid with
      | none => .error .clusterMissing
      | some old =>
        if m.nameTaken cluster.name (some cluster.uid) then .error .clusterExists
        else if Assignable cluster.members (m.removeMembers cluster.uid).memberships then
          .ok ({ cluster with created := some old.created,
                              members := AgentId.sort cluster.members },
            m.rewritten cluster (editedCluster cluster old))
        else .error .agentAssigned := by
  rw [editCluster, updateCluster]
  cases m.clusters.find? cluster.uid with
  | none => rfl
  | some old =>
    cases taken : m.nameTaken cluster.name (some cluster.uid) with
    | true => rfl
    | false => exact add_batch rfl

theorem deleteCluster_eq (m : Memory) (uid : ClusterUid) :
    m.deleteCluster uid =
      if m.clusters.contains uid then .ok (m.emptied uid (m.clusters.remove uid))
      else .error .clusterMissing := rfl

theorem toCluster_rewritten (m : Memory) (cluster : Cluster) (stored : StoredCluster) :
    (m.rewritten cluster stored).toCluster cluster.uid stored =
      { uid := cluster.uid, name := stored.name, created := some stored.created,
        domain := stored.domain, manager := stored.manager, platform := stored.platform,
        members := AgentId.sort cluster.members } := by
  rw [toCluster, members_rewritten]

/-- What a write of a cluster that succeeded has stored under its uid. -/
structure Rewrites (m : Memory) (cluster : Cluster) (stored : StoredCluster) (record : Cluster)
    (written : Memory) : Prop where
  same : written = m.rewritten cluster stored
  listed : record = written.toCluster cluster.uid stored
  told : record = cluster.recorded stored.created

theorem rewrites_of_createCluster {record : Cluster} {written : Memory} (sound : m.Sound)
    (created : m.createCluster now cluster = .ok (record, written)) :
    ∃ stored, m.Rewrites cluster stored record written := by
  rw [createCluster_eq sound] at created
  split at created
  next => cases created
  next =>
    split at created
    next =>
      cases created
      have listed := toCluster_rewritten m cluster (newCluster now cluster)
      exact ⟨newCluster now cluster, rfl, listed.symm, rfl⟩
    next => cases created

theorem rewrites_of_editCluster {record : Cluster} {written : Memory}
    (edited : m.editCluster cluster = .ok (record, written)) :
    ∃ stored, m.Rewrites cluster stored record written := by
  rw [editCluster_eq] at edited
  split at edited
  next => cases edited
  next old _ =>
    split at edited
    next => cases edited
    next =>
      split at edited
      next =>
        cases edited
        have listed := toCluster_rewritten m cluster (editedCluster cluster old)
        exact ⟨editedCluster cluster old, rfl, listed.symm, rfl⟩
      next => cases edited

/-! ## The list of clusters afterwards -/

theorem nodup_names_listed (sound : m.Sound) :
    ((m.clusters.map fun entry => m.toCluster entry.1 entry.2).map (·.name.text)).Nodup := by
  rw [List.map_map, List.Nodup, List.pairwise_map]
  have names := List.pairwise_map.mp sound.names
  exact names.imp fun different same => different (congrArg ClusterName.mk same)

theorem listClusters_without (sound : m.Sound) (uid : ClusterUid) :
    m.listClusters.filter (fun listed => listed.uid ≠ uid) =
      sortOn (·.name.text) ((m.clusters.remove uid).map fun entry =>
        m.toCluster entry.1 entry.2) := by
  rw [listClusters, filter_sortOn (distinguishes_of_nodup (nodup_names_listed sound)),
    List.filter_map]
  rfl

/-- The record stands at its place among the clusters of other uids. -/
theorem placed_rewritten (sound : m.Sound) {stored : StoredCluster}
    (free : ∀ entry ∈ m.clusters, entry.1 ≠ cluster.uid → entry.2.name ≠ stored.name) :
    Placed (·.name.text) ((m.rewritten cluster stored).toCluster cluster.uid stored)
      (m.listClusters.filter fun listed => listed.uid ≠ cluster.uid)
      (m.rewritten cluster stored).listClusters := by
  let others := (m.clusters.remove cluster.uid).map fun entry => m.toCluster entry.1 entry.2
  let record := (m.rewritten cluster stored).toCluster cluster.uid stored
  have distinct : (others.map (·.name.text)).Nodup :=
    (nodup_names_listed sound).sublist ((List.filter_sublist.map _).map _)
  have absent : record.name.text ∉ others.map (·.name.text) := by
    intro listed
    obtain ⟨other, member, same⟩ := List.mem_map.mp listed
    obtain ⟨entry, kept, rfl⟩ := List.mem_map.mp member
    obtain ⟨old, different⟩ := List.mem_filter.mp kept
    exact free entry old (of_decide_eq_true different) (congrArg ClusterName.mk same)
  have placed := placed_sortOn distinct absent
  have rows : (others ++ [record]).Perm
      ((m.rewritten cluster stored).clusters.map fun entry =>
        (m.rewritten cluster stored).toCluster entry.1 entry.2) := by
    have put := Directory.put_perm sound.clusters cluster.uid stored
    apply List.Perm.trans _ (put.symm.map _)
    rw [List.map_append]
    apply List.Perm.of_eq
    congr 1
    apply List.map_congr_left
    intro entry kept
    have different : entry.1 ≠ cluster.uid := of_decide_eq_true (List.mem_filter.mp kept).2
    rw [toCluster, toCluster, members_rewritten_other different]
  have unique : Distinguishes (·.name.text) (others ++ [record]) := by
    apply distinguishes_of_nodup
    rw [List.map_append]
    exact (List.perm_append_singleton _ _).nodup_iff.mpr (List.nodup_cons.mpr ⟨absent, distinct⟩)
  rw [listClusters_without sound, listClusters, ← sortOn_of_perm unique rows]
  exact placed

/-- The clusters of other uids are listed as they were. -/
theorem mem_listClusters_rewritten {stored : StoredCluster} {listed : Cluster} :
    listed ∈ (m.rewritten cluster stored).listClusters ↔
      listed = (m.rewritten cluster stored).toCluster cluster.uid stored ∨
        listed ∈ m.listClusters ∧ listed.uid ≠ cluster.uid := by
  have kept {entry : ClusterUid × StoredCluster} (different : entry.1 ≠ cluster.uid) :
      (m.rewritten cluster stored).toCluster entry.1 entry.2 = m.toCluster entry.1 entry.2 := by
    rw [toCluster, toCluster, members_rewritten_other different]
  rw [mem_listClusters, mem_listClusters]
  change (∃ entry ∈ m.clusters.put cluster.uid stored, _) ↔ _
  constructor
  · rintro ⟨entry, member, rfl⟩
    rcases Directory.mem_put.mp member with rfl | ⟨old, different⟩
    · exact .inl rfl
    · rw [kept different]
      exact .inr ⟨⟨entry, old, rfl⟩, different⟩
  · rintro (rfl | ⟨⟨entry, old, rfl⟩, different⟩)
    · exact ⟨_, Directory.mem_put.mpr (.inl rfl), rfl⟩
    · exact ⟨entry, Directory.mem_put.mpr (.inr ⟨old, different⟩), kept different⟩

theorem listClusters_emptied (sound : m.Sound) (uid : ClusterUid) :
    (m.emptied uid (m.clusters.remove uid)).listClusters =
      m.listClusters.filter fun listed => listed.uid ≠ uid := by
  rw [listClusters_without sound, listClusters]
  congr 1
  apply List.map_congr_left
  intro entry kept
  have different : entry.1 ≠ uid := of_decide_eq_true (List.mem_filter.mp kept).2
  rw [toCluster, toCluster, emptied]
  congr 1
  exact members_removeMembers different

/-! ## The agents afterwards -/

theorem describeAgents_all (m : Memory) :
    m.describeAgents .all = (sortOn (·.1.text) m.agents).map fun entry =>
      ({ id := entry.1, plugin := entry.2, cluster := m.clusterNameOf? entry.1 } : Agent) := by
  have every : m.listAgents.filter (fun agent => AgentFilter.all.selects agent.id) =
      m.listAgents := List.filter_eq_self.mpr fun _ _ => rfl
  rw [describeAgents, every, listAgents, List.map_map]
  rfl

theorem ascending_describeAgents (distinct : m.agents.keys.Nodup) :
    (m.describeAgents .all).Pairwise fun first second => first.id.text < second.id.text := by
  rw [describeAgents_all, List.pairwise_map]
  exact pairwise_lt_sortOn (AgentId.nodup_texts distinct)

/-- An agent as it is described among all agents. -/
theorem find?_describeAgents (distinct : m.agents.keys.Nodup) (agent : AgentId) :
    (m.describeAgents .all).find? (·.id = agent) =
      (m.agents.find? agent).map fun plugin =>
        { id := agent, plugin, cluster := m.clusterNameOf? agent } := by
  have sorted := (sortOn_perm (·.1.text) m.agents).symm
  rw [describeAgents_all, Directory.find?_of_perm distinct sorted]
  exact Directory.find?_rows fun _ _ => rfl

/-- The members of a cluster are released, and every other agent stays where it is. -/
theorem clusterNameOf?_emptied (sound : m.Sound)
    {clusters : Directory ClusterUid StoredCluster}
    (same : ∀ other, other ≠ uid → clusters.find? other = m.clusters.find? other)
    (agent : AgentId) :
    (m.emptied uid clusters).clusterNameOf? agent =
      if agent ∈ m.members uid then none else m.clusterNameOf? agent := by
  have kept {other : ClusterUid} :
      (agent, other) ∈ (m.removeMembers uid).memberships ↔
        (agent, other) ∈ m.memberships ∧ other ≠ uid := by
    rw [removeMembers, List.mem_filter, decide_eq_true_eq]
  have distinct := (sound_removeMembers sound uid).memberships
  change ((m.removeMembers uid).memberships.find? agent).bind
    (fun other => (clusters.find? other).map (·.name)) = _
  cases found : (m.removeMembers uid).memberships.find? agent with
  | some other =>
    obtain ⟨member, different⟩ := kept.mp (Directory.mem_of_find? found)
    have outside : agent ∉ m.members uid :=
      fun inside => different (distinguishes_members sound member (mem_members.mp inside))
    rw [if_neg outside, clusterNameOf?, Directory.find?_of_mem sound.memberships member,
      Option.bind_some, Option.bind_some, same other different]
  | none =>
    rw [Directory.find?_eq_none_iff] at found
    split
    next => rfl
    next outside =>
      have nowhere : m.memberships.find? agent = none := by
        apply Directory.find?_eq_none_iff.mpr
        intro listed
        obtain ⟨other, member⟩ := Directory.mem_keys.mp listed
        apply found
        apply Directory.mem_keys.mpr
        refine ⟨other, kept.mpr ⟨member, ?_⟩⟩
        rintro rfl
        exact outside (mem_members.mpr member)
      rw [clusterNameOf?, nowhere]
      rfl

theorem find?_batch {ν : Type} (value : ν) (agents : List AgentId) (agent : AgentId) :
    Directory.find? (agents.map (·, value)) agent =
      if agent ∈ agents then some value else none := by
  induction agents with
  | nil => rfl
  | cons first rest ih =>
    rw [List.map_cons, Directory.find?_cons, ih]
    by_cases same : first = agent
    · simp [same]
    · simp [same, Ne.symm same]

/-- The agents of a batch get the cluster, and every other agent stays where it is. -/
theorem clusterNameOf?_withMembers {base : Memory} {agents : List AgentId}
    (assignable : Assignable agents base.memberships) (agent : AgentId) :
    (base.withMembers uid agents).clusterNameOf? agent =
      if agent ∈ agents then (base.clusters.find? uid).map (·.name)
      else base.clusterNameOf? agent := by
  change (Directory.find? (base.memberships ++ agents.map (·, uid)) agent).bind _ = _
  rw [Directory.find?_append, find?_batch]
  split
  next batched =>
    rw [Directory.find?_eq_none_iff.mpr (assignable.2 agent batched)]
    rfl
  next => rw [Option.or_none]; rfl

end Memory

/-- What becomes of an agent that is described in the given way, if at all. One that is assigned
gets the name of its new cluster, and becomes known without a plugin where it was not known. One
that is only released keeps its plugin. -/
def Agent.reassigned (assigned : AgentId → Option ClusterName) (released : List AgentId)
    (agent : AgentId) (before : Option Agent) : Option Agent :=
  match assigned agent with
  | some name => some { id := agent, plugin := before.bind (·.plugin), cluster := some name }
  | none => before.map fun described =>
    if agent ∈ released then { described with cluster := none } else described

namespace Memory

variable {m : Memory} {cluster : Cluster}

theorem describe_rewritten (sound : m.Sound) {stored : StoredCluster}
    (assignable : Assignable cluster.members (m.removeMembers cluster.uid).memberships)
    (agent : AgentId) :
    ((m.rewritten cluster stored).describeAgents .all).find? (·.id = agent) =
      Agent.reassigned (fun agent => if agent ∈ cluster.members then some stored.name else none)
        (m.members cluster.uid) agent ((m.describeAgents .all).find? (·.id = agent)) := by
  have put : (m.clusters.put cluster.uid stored).find? cluster.uid = some stored := by
    rw [Directory.find?_put, if_pos rfl]
  have others : ∀ other, other ≠ cluster.uid →
      (m.clusters.put cluster.uid stored).find? other = m.clusters.find? other := by
    intro other different
    rw [Directory.find?_put, if_neg different]
  have known : (m.rewritten cluster stored).agents = learn cluster.members m.agents := rfl
  have named : (m.rewritten cluster stored).clusterNameOf? agent =
      if agent ∈ cluster.members then some stored.name
      else if agent ∈ m.members cluster.uid then none else m.clusterNameOf? agent := by
    let base := m.emptied cluster.uid (m.clusters.put cluster.uid stored)
    have free : Assignable cluster.members base.memberships := assignable
    have present : base.clusters.find? cluster.uid = some stored := put
    rw [rewritten, clusterNameOf?_withMembers free, present,
      clusterNameOf?_emptied sound others]
    rfl
  have distinct : (m.rewritten cluster stored).agents.keys.Nodup := nodup_keys_learn sound.agents
  rw [find?_describeAgents distinct, find?_describeAgents sound.agents, known, find?_learn, named,
    Agent.reassigned]
  by_cases batched : agent ∈ cluster.members
  · simp only [batched, if_true]
    cases m.agents.find? agent <;> rfl
  · simp only [batched, if_false, Option.or_none, Option.map_map]
    congr 1
    funext plugin
    by_cases released : agent ∈ m.members cluster.uid <;> simp [released]

theorem describe_emptied (sound : m.Sound) (uid : ClusterUid) (agent : AgentId) :
    ((m.emptied uid (m.clusters.remove uid)).describeAgents .all).find? (·.id = agent) =
      Agent.reassigned (fun _ => none) (m.members uid) agent
        ((m.describeAgents .all).find? (·.id = agent)) := by
  have others : ∀ other, other ≠ uid →
      (m.clusters.remove uid).find? other = m.clusters.find? other := by
    intro other different
    rw [Directory.find?_remove, if_neg different]
  have distinct : (m.emptied uid (m.clusters.remove uid)).agents.keys.Nodup := sound.agents
  rw [find?_describeAgents distinct, find?_describeAgents sound.agents,
    clusterNameOf?_emptied sound others, Agent.reassigned, Option.map_map]
  change (m.agents.find? agent).map _ = _
  congr 1
  funext plugin
  by_cases released : agent ∈ m.members uid <;> simp [released]

end Memory

end Roster
