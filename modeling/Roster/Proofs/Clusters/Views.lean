import Roster.Proofs.Clusters.Decision
import Roster.Proofs.Database.Content
import Roster.Proofs.Database.Ending

/-!
Whoever asks which agents are members of which cluster gets the same answer in every way of asking.

The list of clusters is what the other answers are compared with. In a database each of them comes
from a selection of its own, and memberships that a cluster left behind show in none of them.
-/

namespace Roster

open Database Text

variable {σ : Type} [Registry σ]

/-- Everything that tells of memberships agrees with the clusters that are listed and the agents
that are described. -/
structure ViewsAgree (registry : σ) (load : ClusterUid → Except Failure Cluster)
    (clusters : List Cluster) (agents : List Agent) : Prop where
  lists : Lists registry clusters
  describes : Describes registry agents
  members : ∀ now uid, ∃ members,
    (Registry.perform now (.membersOf uid) registry).1 = .ok (.members members) ∧
      (members.Pairwise fun first second => first.text < second.text) ∧
      ∀ agent, agent ∈ members ↔ ∃ listed ∈ clusters, listed.uid = uid ∧ agent ∈ listed.members
  membersLoaded : ∀ uid agent, (∃ cluster, load uid = .ok cluster ∧ agent ∈ cluster.members) ↔
    ∃ listed ∈ clusters, listed.uid = uid ∧ agent ∈ listed.members
  loaded : ∀ uid cluster, load uid = .ok cluster ↔ cluster ∈ clusters ∧ cluster.uid = uid
  notLoaded : ∀ uid, load uid = .error .clusterNotFound ↔ ∀ listed ∈ clusters, listed.uid ≠ uid
  named : ∀ now agent name,
    (Registry.perform now (.clusterOf agent) registry).1 = .ok (.clusterName name) ↔
      ∃ listed ∈ clusters, listed.name = name ∧ agent ∈ listed.members
  described : ∀ agent name, (∃ entry ∈ agents, entry.id = agent ∧ entry.cluster = some name) ↔
    ∃ listed ∈ clusters, listed.name = name ∧ agent ∈ listed.members
  once : ∀ first ∈ clusters, ∀ second ∈ clusters, ∀ agent, agent ∈ first.members →
    agent ∈ second.members → first = second
  namesAscend : clusters.Pairwise fun first second => first.name.text < second.name.text
  membersAscend : ∀ listed ∈ clusters,
    listed.members.Pairwise fun first second => first.text < second.text
  agentsAscend : agents.Pairwise fun first second => first.id.text < second.id.text
  known : ∀ now agent,
    (∃ entry, (Registry.perform now (.findAgent agent) registry).1 = .ok (.agent entry)) ↔
      ∃ entry ∈ agents, entry.id = agent

namespace Memory

variable {m : Memory} {agent : AgentId} {uid : ClusterUid}

theorem members_ascend (sound : m.Sound) (uid : ClusterUid) :
    (m.members uid).Pairwise fun first second => first.text < second.text := by
  apply pairwise_lt_sortOn
  rw [List.map_map]
  exact (AgentId.nodup_texts sound.memberships).sublist (List.filter_sublist.map _)

theorem member_listed (sound : m.Sound) :
    agent ∈ m.members uid ↔
      ∃ listed ∈ m.listClusters, listed.uid = uid ∧ agent ∈ listed.members := by
  constructor
  · intro member
    obtain ⟨stored, found⟩ := Directory.exists_find? (sound.placed _ (mem_members.mp member))
    exact ⟨_, mem_listClusters.mpr ⟨_, Directory.mem_of_find? found, rfl⟩, rfl, member⟩
  · rintro ⟨_, listed, rfl, member⟩
    obtain ⟨entry, _, rfl⟩ := mem_listClusters.mp listed
    exact member

theorem findCluster_eq_ok (sound : m.Sound) {cluster : Cluster} :
    m.findCluster uid = .ok cluster ↔ cluster ∈ m.listClusters ∧ cluster.uid = uid := by
  rw [findCluster, mem_listClusters]
  constructor
  · intro loaded
    split at loaded
    next stored found =>
      cases loaded
      exact ⟨⟨_, Directory.mem_of_find? found, rfl⟩, rfl⟩
    next => cases loaded
  · rintro ⟨⟨entry, stored, rfl⟩, rfl⟩
    have found : m.clusters.find? (m.toCluster entry.1 entry.2).uid = some entry.2 :=
      Directory.find?_of_mem sound.clusters stored
    rw [found]
    rfl

theorem findCluster_eq_error (m : Memory) (uid : ClusterUid) :
    m.findCluster uid = .error .clusterNotFound ↔ ∀ listed ∈ m.listClusters, listed.uid ≠ uid := by
  have absent : m.clusters.find? uid = none ↔ ∀ listed ∈ m.listClusters, listed.uid ≠ uid := by
    rw [Directory.find?_eq_none_iff, ← uid_listed]
    simp
  rw [← absent, findCluster]
  cases m.clusters.find? uid <;> simp

theorem clusterNameOf?_eq_some (sound : m.Sound) {name : ClusterName} :
    m.clusterNameOf? agent = some name ↔
      ∃ listed ∈ m.listClusters, listed.name = name ∧ agent ∈ listed.members := by
  constructor
  · intro named
    obtain ⟨uid, member, found⟩ := Option.bind_eq_some_iff.mp named
    obtain ⟨stored, present, rfl⟩ := Option.map_eq_some_iff.mp found
    exact ⟨_, mem_listClusters.mpr ⟨_, Directory.mem_of_find? present, rfl⟩, rfl,
      mem_members.mpr (Directory.mem_of_find? member)⟩
  · rintro ⟨_, listed, rfl, member⟩
    obtain ⟨entry, stored, rfl⟩ := mem_listClusters.mp listed
    rw [clusterNameOf?, Directory.find?_of_mem sound.memberships (mem_members.mp member),
      Option.bind_some, Directory.find?_of_mem sound.clusters stored]
    rfl

theorem listed_once (sound : m.Sound) {first second : Cluster}
    (firstListed : first ∈ m.listClusters) (secondListed : second ∈ m.listClusters)
    (firstMember : agent ∈ first.members) (secondMember : agent ∈ second.members) :
    first = second := by
  obtain ⟨entry, stored, rfl⟩ := mem_listClusters.mp firstListed
  obtain ⟨other, otherStored, rfl⟩ := mem_listClusters.mp secondListed
  have same : entry.1 = other.1 :=
    distinguishes_members sound (mem_members.mp firstMember) (mem_members.mp secondMember)
  have values : entry.2 = other.2 := by
    have found := Directory.find?_of_mem sound.clusters stored
    rw [same, Directory.find?_of_mem sound.clusters otherStored] at found
    exact (Option.some.inj found).symm
  rw [same, values]

theorem mem_describeAgents {entry : Agent} :
    entry ∈ m.describeAgents .all ↔ ∃ known ∈ m.agents,
      ({ id := known.1, plugin := known.2, cluster := m.clusterNameOf? known.1 } : Agent) =
        entry := by
  rw [describeAgents_all, List.mem_map]
  simp only [mem_sortOn]

theorem knows_iff (now : Instant) (agent : AgentId) :
    (∃ entry, (m.perform now (.findAgent agent)).1 = .ok (.agent entry)) ↔
      agent ∈ m.agents.keys := by
  rw [← Directory.find?_isSome_iff]
  change (∃ entry, (m.findAgent agent).map _ = _) ↔ _
  rw [findAgent]
  cases m.agents.find? agent <;> simp [Except.map]

theorem viewsAgree (sound : m.Sound) :
    ViewsAgree m m.findCluster m.listClusters (m.describeAgents .all) where
  lists := lists m
  describes := describes m
  members _ uid := ⟨_, rfl, members_ascend sound uid, fun _ => member_listed sound⟩
  membersLoaded := by
    intro uid agent
    constructor
    · rintro ⟨cluster, loaded, member⟩
      obtain ⟨listed, same⟩ := (findCluster_eq_ok sound).mp loaded
      exact ⟨cluster, listed, same, member⟩
    · rintro ⟨cluster, listed, same, member⟩
      exact ⟨cluster, (findCluster_eq_ok sound).mpr ⟨listed, same⟩, member⟩
  loaded _ _ := findCluster_eq_ok sound
  notLoaded := findCluster_eq_error m
  named := by
    intro now agent name
    rw [← clusterNameOf?_eq_some sound]
    change (m.clusterOf agent).map _ = _ ↔ _
    rw [clusterOf]
    cases m.clusterNameOf? agent <;> simp [Except.map]
  described := by
    intro agent name
    rw [← clusterNameOf?_eq_some sound]
    constructor
    · rintro ⟨_, listed, rfl, named⟩
      obtain ⟨known, _, rfl⟩ := mem_describeAgents.mp listed
      exact named
    · intro named
      obtain ⟨uid, member, _⟩ := Option.bind_eq_some_iff.mp named
      have learned := sound.known agent (Directory.mem_keys_of_find? member)
      obtain ⟨plugin, known⟩ := Directory.mem_keys.mp learned
      exact ⟨_, mem_describeAgents.mpr ⟨_, known, rfl⟩, rfl, named⟩
  once _ first _ second _ := listed_once sound first second
  namesAscend := pairwise_lt_sortOn (nodup_names_listed sound)
  membersAscend := by
    intro listed member
    obtain ⟨entry, _, rfl⟩ := mem_listClusters.mp member
    exact members_ascend sound entry.1
  agentsAscend := ascending_describeAgents sound.agents
  known := by
    intro now agent
    refine (knows_iff now agent).trans (Directory.mem_keys.trans ?_)
    constructor
    · rintro ⟨plugin, known⟩
      exact ⟨_, mem_describeAgents.mpr ⟨_, known, rfl⟩, rfl⟩
    · rintro ⟨_, listed, rfl⟩
      obtain ⟨known, member, rfl⟩ := mem_describeAgents.mp listed
      exact ⟨known.2, member⟩

end Memory

namespace Database

variable {foreignKeys : Bool} {c : Connection}

theorem Store.answering_fst {α : Type} {action : Action α} {result : Except Failure α}
    (same : (action c).1 = result) (answer : α → Answer) :
    (answering answer action c).1 = result.map answer := by
  rw [answering_eq, same]

/-- Loads a cluster in a transaction that has just begun. -/
def loadInside (c : Connection) (uid : ClusterUid) : Except Failure Cluster :=
  ((do Transaction.begin; Transaction.loadCluster uid : Action Cluster) c).1

namespace Readable

theorem loadInside_eq (readable : Readable foreignKeys c) (idle : c.working = none)
    (uid : ClusterUid) : loadInside c uid = c.tables.registry.findCluster uid := by
  have same : c.tables = c.stored := Connection.tables_of_idle idle
  have begun : Transaction.begin c = (.ok (), { c with working := some c.tables }) := by
    rw [Transaction.begin_eq idle readable.calm, same]
  have inside : Readable foreignKeys { c with working := some c.tables } :=
    ⟨readable.calm, readable.intact, readable.complete⟩
  rw [loadInside, Action.bind_of_ok begun]
  exact inside.loadCluster uid

variable (readable : Readable foreignKeys c) (now : Instant)
include readable

theorem perform_listClusters : (Registry.perform now .listClusters c).1 =
    (Registry.perform now .listClusters c.tables.registry).1 :=
  Store.answering_fst readable.listClusters _

theorem perform_describeAgents : (Registry.perform now (.describeAgents .all) c).1 =
    (Registry.perform now (.describeAgents .all) c.tables.registry).1 :=
  Store.answering_fst (readable.describeAgents (Nat.zero_le _)) _

theorem perform_membersOf (uid : ClusterUid) : (Registry.perform now (.membersOf uid) c).1 =
    (Registry.perform now (.membersOf uid) c.tables.registry).1 :=
  Store.answering_fst (readable.membersOf uid) _

theorem perform_clusterOf (agent : AgentId) : (Registry.perform now (.clusterOf agent) c).1 =
    (Registry.perform now (.clusterOf agent) c.tables.registry).1 :=
  Store.answering_fst (readable.clusterOf agent) _

theorem perform_findAgent (agent : AgentId) : (Registry.perform now (.findAgent agent) c).1 =
    (Registry.perform now (.findAgent agent) c.tables.registry).1 :=
  Store.answering_fst (readable.findAgent agent) _

omit now in
/-- What holds of the registry in memory holds of the tables that hold it. -/
theorem viewsAgree (idle : c.working = none) :
    ViewsAgree c (loadInside c) c.tables.registry.listClusters
      (c.tables.registry.describeAgents .all) := by
  have memory := Memory.viewsAgree readable.intact.sound
  exact { memory with
    lists := fun now => (readable.perform_listClusters now).trans (memory.lists now)
    describes := fun now => (readable.perform_describeAgents now).trans (memory.describes now)
    members := by
      intro now uid
      rw [readable.perform_membersOf]
      exact memory.members now uid
    membersLoaded := by
      intro uid agent
      rw [readable.loadInside_eq idle]
      exact memory.membersLoaded uid agent
    loaded := by
      intro uid cluster
      rw [readable.loadInside_eq idle]
      exact memory.loaded uid cluster
    notLoaded := by
      intro uid
      rw [readable.loadInside_eq idle]
      exact memory.notLoaded uid
    named := by
      intro now agent name
      rw [readable.perform_clusterOf]
      exact memory.named now agent name
    known := by
      intro now agent
      rw [readable.perform_findAgent]
      exact memory.known now agent }

end Readable

end Database

/-- After operations and sessions with tidy uids, names and identities, every view of the
memberships agrees with every other. In a database that holds whether references are enforced or
not, whatever befell the statements of the run, as long as nothing made a database in memory lose
its tables. In memory it holds after any operations. -/
theorem membership_views_agree (foreignKeys inMemory : Bool) (triggers : List Trigger)
    (mishaps : List (Option Mishap))
    (safe : inMemory = true → .rollback ∉ triggers ∧
      ∀ mishap, some mishap ∈ mishaps → mishap.endsTransaction = false)
    (works : List (Instant × Work))
    (admitted : ∀ work ∈ works, work.2.Admitted (.tidy foreignKeys))
    (steps : List (Instant × Operation)) :
    (let used := Work.afterAll works { foreignKeys, inMemory, stored := { triggers }, mishaps }
      let c := { used with mishaps := [] }
      ∃ clusters agents, ViewsAgree c (loadInside c) clusters agents) ∧
    (let m := Registry.after steps ({} : Memory)
      ∃ clusters agents, ViewsAgree m m.findCluster clusters agents) := by
  constructor
  · intro used c
    have idle : c.working = none := Work.afterAll_idle works _ rfl
    obtain ⟨intact, complete⟩ :=
      Work.stored_afterAll admitted (.empty _ [] triggers) rfl (.of_idle rfl safe)
    exact ⟨_, _, (Readable.of_idle rfl idle intact complete).viewsAgree idle⟩
  · intro m
    exact ⟨_, _, Memory.viewsAgree (Memory.sound_after steps Memory.sound_empty)⟩

/-- A membership that was left behind by its cluster is still stored, and nobody is told of it. -/
theorem left_behind_untold :
    let cluster : Cluster := { uid := ⟨"u"⟩, name := ⟨"n"⟩ }
    let works : List (Instant × Work) :=
      [(.epoch, .session [.insertCluster cluster, .addMembers ⟨"u"⟩ [⟨"a"⟩]] .commit),
        (.epoch, .session [.deleteCluster ⟨"u"⟩] .commit)]
    let c := Work.afterAll works { foreignKeys := false, inMemory := true }
    (∀ work ∈ works, work.2.Admitted (.tidy false)) ∧
      c.stored.memberships = [⟨1, 1⟩] ∧
      ∀ now, (Registry.perform now (.membersOf ⟨"u"⟩) c).1 = .ok (.members []) := by
  intro cluster works c
  have admitted : ∀ work ∈ works, work.2.Admitted (.tidy false) := by
    have uidTidy : cluster.uid.Tidy := by decide
    have nameTidy : cluster.name.Tidy := by decide
    have clusterTidy : (Terms.tidy false).Admits cluster := ⟨uidTidy, nameTidy, nofun⟩
    have agentTidy : ∀ agent ∈ [(⟨"a"⟩ : AgentId)], agent.Tidy := by decide
    refine List.forall_mem_cons.mpr ⟨?_, List.forall_mem_singleton.mpr ?_⟩
    · exact List.forall_mem_cons.mpr ⟨clusterTidy, List.forall_mem_singleton.mpr agentTidy⟩
    · exact List.forall_mem_singleton.mpr trivial
  refine ⟨admitted, rfl, fun now => ?_⟩
  have safe : Trigger.rollback ∉ ([] : List Trigger) ∧
      ∀ mishap, some mishap ∈ ([] : List (Option Mishap)) → mishap.endsTransaction = false :=
    ⟨List.not_mem_nil, fun _ => nofun⟩
  obtain ⟨clusters, agents, views⟩ :=
    (membership_views_agree false true [] [] (fun _ => safe) works admitted []).1
  have absent := (views.notLoaded ⟨"u"⟩).mp rfl
  obtain ⟨members, told, _, listed⟩ := views.members now ⟨"u"⟩
  have none : members = [] := by
    apply List.eq_nil_iff_forall_not_mem.mpr
    intro agent member
    obtain ⟨cluster, present, same, _⟩ := (listed agent).mp member
    exact absent cluster present same
  rw [← none]
  exact told

end Roster
