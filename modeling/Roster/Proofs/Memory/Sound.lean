import Roster.Memory
import Roster.Proofs.Directory
import Roster.Proofs.Outcome
import Roster.Proofs.Run

/-!
What every registry in memory keeps to, whatever it is asked: there is one entry for a key and one
cluster for a name, members are known agents of clusters that are there, and what was attested of an
agent is kept with that agent, which is known.
-/

namespace Roster.Memory

variable {now : Instant} {m written : Memory}

/-! ## Batches -/

/-- The agents with those of a batch among them. -/
def learn (agents : List AgentId) (known : Directory AgentId (Option String)) :
    Directory AgentId (Option String) :=
  agents.foldl (fun known agent => known.putNew agent none) known

theorem mem_keys_learn {agents : List AgentId} {known : Directory AgentId (Option String)}
    {agent : AgentId} :
    agent ∈ (learn agents known).keys ↔ agent ∈ known.keys ∨ agent ∈ agents := by
  induction agents generalizing known with
  | nil => simp [learn]
  | cons first rest ih =>
    have later := @ih (known.putNew first none)
    rw [Directory.mem_keys_putNew, or_assoc] at later
    rw [List.mem_cons]
    exact later

theorem nodup_keys_learn {agents : List AgentId} {known : Directory AgentId (Option String)}
    (distinct : known.keys.Nodup) : (learn agents known).keys.Nodup := by
  induction agents generalizing known with
  | nil => exact distinct
  | cons first rest ih => exact ih (Directory.nodup_keys_putNew distinct first none)

/-- An agent that was known keeps its plugin. -/
theorem find?_learn (agents : List AgentId) (known : Directory AgentId (Option String))
    (agent : AgentId) : (learn agents known).find? agent =
      (known.find? agent).or (if agent ∈ agents then some none else none) := by
  induction agents generalizing known with
  | nil => simp [learn]
  | cons first rest ih =>
    change (learn rest (known.putNew first none)).find? agent = _
    rw [ih, Directory.find?_putNew]
    by_cases same : agent = first
    · subst same
      cases known.find? agent <;> simp
    · simp [same]

/-- Agents can be made members just if none of them is a member and none occurs twice. -/
def Assignable (agents : List AgentId) (memberships : Directory AgentId ClusterUid) : Prop :=
  agents.Nodup ∧ ∀ agent ∈ agents, agent ∉ memberships.keys

instance (agents : List AgentId) (memberships : Directory AgentId ClusterUid) :
    Decidable (Assignable agents memberships) :=
  inferInstanceAs (Decidable (_ ∧ _))

theorem assignable_cons {agent : AgentId} {rest : List AgentId}
    {memberships : Directory AgentId ClusterUid} (free : agent ∉ memberships.keys)
    (uid : ClusterUid) :
    Assignable (agent :: rest) memberships ↔ Assignable rest (memberships.put agent uid) := by
  have alone : [agent].Nodup ∧ ∀ other ∈ [agent], other ∉ memberships.keys := by
    simpa using free
  have parts := free_append (· ∈ memberships.keys) [agent] rest
  rw [List.singleton_append, and_iff_right alone] at parts
  simpa only [Assignable, Directory.mem_keys_put, List.mem_singleton] using parts

theorem assign_of_assignable {uid : ClusterUid} {agents : List AgentId}
    {memberships : Directory AgentId ClusterUid} (assignable : Assignable agents memberships) :
    assign uid agents memberships = .ok (memberships ++ agents.map (·, uid)) := by
  induction agents generalizing memberships with
  | nil => simp [assign]
  | cons agent rest ih =>
    have free := assignable.2 agent List.mem_cons_self
    have others := ih ((assignable_cons free uid).mp assignable)
    rw [assign, Directory.contains_eq_false_iff.mpr free, if_neg Bool.false_ne_true, others,
      Directory.put_of_not_mem free, List.append_assoc]
    rfl

theorem assign_of_not_assignable {uid : ClusterUid} {agents : List AgentId}
    {memberships : Directory AgentId ClusterUid} (taken : ¬Assignable agents memberships) :
    assign uid agents memberships = .error .agentAssigned := by
  induction agents generalizing memberships with
  | nil => exact absurd ⟨List.nodup_nil, by simp⟩ taken
  | cons agent rest ih =>
    rw [assign]
    by_cases free : agent ∈ memberships.keys
    · rw [if_pos (Directory.contains_iff.mpr free)]
    · rw [if_neg (by rwa [Directory.contains_iff])]
      exact ih fun assignable => taken ((assignable_cons free uid).mpr assignable)

/-! ## Names -/

theorem nameTaken_iff {name : ClusterName} {besides : Option ClusterUid} :
    m.nameTaken name besides = true ↔
      ∃ entry ∈ m.clusters, entry.2.name = name ∧ some entry.1 ≠ besides := by
  simp [nameTaken]

/-! ## The invariant -/

structure Sound (m : Memory) : Prop where
  agents : m.agents.keys.Nodup
  attestations : m.attestations.keys.Nodup
  clusters : m.clusters.keys.Nodup
  memberships : m.memberships.keys.Nodup
  names : (m.clusters.map (·.2.name)).Nodup
  known : ∀ agent ∈ m.memberships.keys, agent ∈ m.agents.keys
  placed : ∀ entry ∈ m.memberships, entry.2 ∈ m.clusters.keys
  attested : ∀ entry ∈ m.attestations, entry.2.agent = entry.1 ∧ entry.1 ∈ m.agents.keys

theorem sound_empty : Sound {} := by
  constructor <;> simp [Directory.keys]

theorem sound_putAgent (sound : m.Sound) (agent : Agent) : (m.putAgent agent).Sound :=
  { sound with
    agents := Directory.nodup_keys_put sound.agents _ _
    known := fun other member => Directory.mem_keys_put.mpr (.inl (sound.known other member))
    attested := fun entry member => ⟨(sound.attested entry member).1,
      Directory.mem_keys_put.mpr (.inl (sound.attested entry member).2)⟩ }

theorem sound_learnAgent (sound : m.Sound) (agent : AgentId) :
    Sound { m with agents := m.agents.putNew agent none } :=
  { sound with
    agents := Directory.nodup_keys_putNew sound.agents _ _
    known := fun other member => Directory.mem_keys_putNew.mpr (.inl (sound.known other member))
    attested := fun entry member => ⟨(sound.attested entry member).1,
      Directory.mem_keys_putNew.mpr (.inl (sound.attested entry member).2)⟩ }

theorem sound_putAttestation (sound : m.Sound) (entry : Attestation) :
    (m.putAttestation entry).Sound :=
  { sound_learnAgent sound entry.agent with
    attestations := Directory.nodup_keys_put sound.attestations _ _
    attested := by
      intro other member
      rcases Directory.mem_put.mp member with rfl | ⟨old, -⟩
      · exact ⟨rfl, Directory.mem_keys_putNew.mpr (.inr rfl)⟩
      · exact (sound_learnAgent sound entry.agent).attested other old }

/-- A cluster may be put where no cluster of another uid has its name. -/
theorem nodup_names_put (sound : m.Sound) {uid : ClusterUid} {stored : StoredCluster}
    (free : ∀ entry ∈ m.clusters, entry.1 ≠ uid → entry.2.name ≠ stored.name) :
    ((m.clusters.put uid stored).map (·.2.name)).Nodup := by
  by_cases listed : uid ∈ m.clusters.keys
  · have keys : m.clusters.Pairwise fun left right => left.1 ≠ right.1 :=
      List.pairwise_map.mp sound.clusters
    have names : m.clusters.Pairwise fun left right => left.2.name ≠ right.2.name :=
      List.pairwise_map.mp sound.names
    rw [Directory.put_of_mem listed, List.map_map, List.Nodup, List.pairwise_map]
    apply (keys.and names).imp_of_mem
    intro left right leftMember rightMember ⟨differentUids, differentNames⟩
    simp only [Function.comp]
    split
    next leftSame =>
      have rightOther : right.1 ≠ uid := by
        intro rightSame
        exact differentUids (leftSame.trans rightSame.symm)
      rw [if_neg rightOther]
      exact (free right rightMember rightOther).symm
    next leftOther =>
      split
      next => exact free left leftMember leftOther
      next => exact differentNames
  · have absent : stored.name ∉ m.clusters.map (·.2.name) := by
      intro taken
      obtain ⟨entry, member, named⟩ := List.mem_map.mp taken
      apply free entry member _ named
      rintro rfl
      exact listed (Directory.mem_keys_of_mem member)
    rw [Directory.put_of_not_mem listed, List.map_append]
    exact (List.perm_append_singleton _ _).nodup_iff.mpr
      (List.nodup_cons.mpr ⟨absent, sound.names⟩)

theorem sound_putCluster (sound : m.Sound) {uid : ClusterUid} {stored : StoredCluster}
    (free : ∀ entry ∈ m.clusters, entry.1 ≠ uid → entry.2.name ≠ stored.name) :
    Sound { m with clusters := m.clusters.put uid stored } :=
  { sound with
    clusters := Directory.nodup_keys_put sound.clusters _ _
    names := nodup_names_put sound free
    placed := fun entry member => Directory.mem_keys_put.mpr (.inl (sound.placed entry member)) }

/-! ## Steps of a write -/

/-- The cluster as a creation stores it. -/
def newCluster (now : Instant) (cluster : Cluster) : StoredCluster :=
  { name := cluster.name, created := now.stamp, domain := cluster.domain,
    manager := cluster.manager, platform := cluster.platform }

/-- The cluster as an edit stores it in place of the old one. -/
def editedCluster (cluster : Cluster) (old : StoredCluster) : StoredCluster :=
  { old with
    name := cluster.name, domain := cluster.domain, manager := cluster.manager,
    platform := cluster.platform }

theorem of_insertCluster {cluster : Cluster}
    (inserted : m.insertCluster now cluster = .ok written) :
    cluster.uid ∉ m.clusters.keys ∧ (∀ entry ∈ m.clusters, entry.2.name ≠ cluster.name) ∧
      written = { m with clusters := m.clusters.put cluster.uid (newCluster now cluster) } := by
  unfold insertCluster at inserted
  split at inserted
  next => cases inserted
  next free =>
    rw [Bool.or_eq_true, Directory.contains_iff, nameTaken_iff, not_or] at free
    refine ⟨free.1, ?_, (Except.ok.inj inserted).symm⟩
    intro entry member same
    exact free.2 ⟨entry, member, same, Option.some_ne_none _⟩

theorem error_insertCluster {cluster : Cluster} {failure : Failure}
    (refused : m.insertCluster now cluster = .error failure) : failure = .clusterExists := by
  unfold insertCluster at refused
  split at refused
  next => exact (Except.error.inj refused).symm
  next => cases refused

theorem of_updateCluster {cluster : Cluster} (updated : m.updateCluster cluster = .ok written) :
    ∃ old, m.clusters.find? cluster.uid = some old ∧
      (∀ entry ∈ m.clusters, entry.1 ≠ cluster.uid → entry.2.name ≠ cluster.name) ∧
      written = { m with clusters := m.clusters.put cluster.uid (editedCluster cluster old) } := by
  unfold updateCluster at updated
  split at updated
  next => cases updated
  next old found =>
    split at updated
    next => cases updated
    next free =>
      refine ⟨old, found, ?_, (Except.ok.inj updated).symm⟩
      intro entry member other same
      apply free
      rw [nameTaken_iff]
      exact ⟨entry, member, same, fun equal => other (Option.some.inj equal)⟩

/-- The registry with the agents as members of the cluster. -/
def withMembers (uid : ClusterUid) (agents : List AgentId) (m : Memory) : Memory :=
  { m with agents := learn agents m.agents
           memberships := m.memberships ++ agents.map (·, uid) }

/-- Only agents of which one is a member already cannot be added to a cluster that is there. -/
theorem addMembers_eq {uid : ClusterUid} (present : uid ∈ m.clusters.keys)
    (agents : List AgentId) :
    m.addMembers uid agents = if Assignable agents m.memberships then .ok (m.withMembers uid agents)
      else .error .agentAssigned := by
  cases agents with
  | nil =>
    rw [if_pos ⟨List.nodup_nil, by simp⟩]
    simp [addMembers, withMembers, learn]
  | cons agent rest =>
    unfold addMembers
    rw [if_neg (by simp), if_neg (by simp [Directory.contains_iff.mpr present])]
    split
    next assignable =>
      rw [assign_of_assignable assignable]
      rfl
    next taken =>
      rw [assign_of_not_assignable taken]
      rfl

/-- Without the cluster, no batch but the empty one is added. -/
theorem addMembers_of_absent {uid : ClusterUid} (absent : uid ∉ m.clusters.keys)
    {agents : List AgentId} (nonempty : agents ≠ []) : m.addMembers uid agents =
      .error (.other ("membership insert failed: unknown cluster " ++ uid.text)) := by
  rw [addMembers, List.isEmpty_eq_false_iff.mpr nonempty,
    Directory.contains_eq_false_iff.mpr absent]
  rfl

theorem keys_withMembers (uid : ClusterUid) (agents : List AgentId) (m : Memory) :
    (m.withMembers uid agents).memberships.keys = m.memberships.keys ++ agents := by
  simp [withMembers, Directory.keys, Function.comp_def]

theorem sound_learn (sound : m.Sound) (agents : List AgentId) :
    Sound { m with agents := learn agents m.agents } :=
  { sound with
    agents := nodup_keys_learn sound.agents
    known := fun agent member => mem_keys_learn.mpr (.inl (sound.known agent member))
    attested := fun entry member => ⟨(sound.attested entry member).1,
      mem_keys_learn.mpr (.inl (sound.attested entry member).2)⟩ }

theorem sound_withMembers (sound : m.Sound) {uid : ClusterUid} {agents : List AgentId}
    (present : uid ∈ m.clusters.keys) (assignable : Assignable agents m.memberships) :
    (m.withMembers uid agents).Sound :=
  { sound_learn sound agents with
    memberships := by
      rw [keys_withMembers, List.nodup_append]
      refine ⟨sound.memberships, assignable.1, ?_⟩
      intro agent member other batched same
      exact assignable.2 other batched (same ▸ member)
    known := by
      intro agent member
      rw [keys_withMembers, List.mem_append] at member
      exact mem_keys_learn.mpr (member.imp_left (sound.known agent))
    placed := by
      intro entry member
      rcases List.mem_append.mp member with old | new
      · exact sound.placed entry old
      · obtain ⟨agent, _, rfl⟩ := List.mem_map.mp new
        exact present }

theorem sound_addMembership (sound : m.Sound) {agent : AgentId} {uid : ClusterUid}
    (known : agent ∈ m.agents.keys) (present : uid ∈ m.clusters.keys)
    (free : agent ∉ m.memberships.keys) :
    Sound { m with memberships := m.memberships ++ [(agent, uid)] } :=
  { sound with
    memberships := Directory.nodup_append_pair sound.memberships free uid
    known := by
      intro other member
      rw [Directory.keys_append_pair, List.mem_append, List.mem_singleton] at member
      rcases member with old | rfl
      · exact sound.known other old
      · exact known
    placed := by
      intro entry member
      rcases List.mem_append.mp member with old | new
      · exact sound.placed entry old
      · rw [List.mem_singleton.mp new]
        exact present }

theorem sound_removeMembers (sound : m.Sound) (uid : ClusterUid) : (m.removeMembers uid).Sound :=
  { sound with
    memberships := sound.memberships.sublist (Directory.keys_filter _ _)
    known := fun agent member => sound.known agent ((Directory.keys_filter _ _).subset member)
    placed := fun entry member => sound.placed entry (List.mem_filter.mp member).1 }

/-- A cluster without members may go. -/
theorem sound_removeCluster (sound : m.Sound) {uid : ClusterUid}
    (empty : ∀ entry ∈ m.memberships, entry.2 ≠ uid) :
    Sound { m with clusters := m.clusters.remove uid } :=
  { sound with
    clusters := sound.clusters.sublist (Directory.keys_filter _ _)
    names := sound.names.sublist (List.filter_sublist.map _)
    placed := fun entry member =>
      Directory.mem_keys_remove.mpr ⟨sound.placed entry member, empty entry member⟩ }

theorem removeMembers_empty (uid : ClusterUid) (m : Memory) :
    ∀ entry ∈ (m.removeMembers uid).memberships, entry.2 ≠ uid :=
  fun _ member => of_decide_eq_true (List.mem_filter.mp member).2

theorem of_deleteCluster {uid : ClusterUid} (deleted : m.deleteCluster uid = .ok written) :
    uid ∈ m.clusters.keys ∧
      written = { m.removeMembers uid with clusters := m.clusters.remove uid } := by
  unfold deleteCluster at deleted
  split at deleted
  next present => exact ⟨Directory.contains_iff.mp present, (Except.ok.inj deleted).symm⟩
  next => cases deleted

theorem sound_insertCluster (sound : m.Sound) {cluster : Cluster}
    (inserted : m.insertCluster now cluster = .ok written) : written.Sound := by
  obtain ⟨_, free, rfl⟩ := of_insertCluster inserted
  exact sound_putCluster sound fun entry member _ => free entry member

theorem sound_updateCluster (sound : m.Sound) {cluster : Cluster}
    (updated : m.updateCluster cluster = .ok written) : written.Sound := by
  obtain ⟨_, _, free, rfl⟩ := of_updateCluster updated
  exact sound_putCluster sound free

theorem present_of_insertCluster {cluster : Cluster}
    (inserted : m.insertCluster now cluster = .ok written) :
    cluster.uid ∈ written.clusters.keys := by
  obtain ⟨_, _, rfl⟩ := of_insertCluster inserted
  exact Directory.mem_keys_put.mpr (.inr rfl)

theorem present_of_updateCluster {cluster : Cluster}
    (updated : m.updateCluster cluster = .ok written) :
    cluster.uid ∈ written.clusters.keys := by
  obtain ⟨_, _, _, rfl⟩ := of_updateCluster updated
  exact Directory.mem_keys_put.mpr (.inr rfl)

theorem sound_addMembers (sound : m.Sound) {uid : ClusterUid} {agents : List AgentId}
    (present : uid ∈ m.clusters.keys) (added : m.addMembers uid agents = .ok written) :
    written.Sound := by
  rw [addMembers_eq present] at added
  split at added
  next assignable =>
    cases added
    exact sound_withMembers sound present assignable
  next => cases added

/-! ## Operations -/

theorem of_createCluster {cluster record : Cluster}
    (created : m.createCluster now cluster = .ok (record, written)) :
    ∃ inserted, m.insertCluster now cluster = .ok inserted ∧
      inserted.addMembers cluster.uid cluster.members = .ok written ∧
      written.findCluster cluster.uid = .ok record := by
  obtain ⟨inserted, insertion, rest⟩ := of_bind_eq_ok created
  obtain ⟨filled, addition, rest⟩ := of_bind_eq_ok rest
  obtain ⟨found, look, same⟩ := of_bind_eq_ok rest
  cases same
  exact ⟨inserted, insertion, addition, look⟩

theorem of_editCluster {cluster record : Cluster}
    (edited : m.editCluster cluster = .ok (record, written)) :
    ∃ updated, m.updateCluster cluster = .ok updated ∧
      (updated.removeMembers cluster.uid).addMembers cluster.uid cluster.members = .ok written ∧
      written.findCluster cluster.uid = .ok record := by
  obtain ⟨updated, update, rest⟩ := of_bind_eq_ok edited
  obtain ⟨filled, addition, rest⟩ := of_bind_eq_ok rest
  obtain ⟨found, look, same⟩ := of_bind_eq_ok rest
  cases same
  exact ⟨updated, update, addition, look⟩

theorem sound_createCluster (sound : m.Sound) {cluster record : Cluster}
    (created : m.createCluster now cluster = .ok (record, written)) : written.Sound := by
  obtain ⟨inserted, insertion, addition, -⟩ := of_createCluster created
  exact sound_addMembers (sound_insertCluster sound insertion) (present_of_insertCluster insertion)
    addition

theorem sound_editCluster (sound : m.Sound) {cluster record : Cluster}
    (edited : m.editCluster cluster = .ok (record, written)) : written.Sound := by
  obtain ⟨updated, update, addition, -⟩ := of_editCluster edited
  have present : cluster.uid ∈ updated.clusters.keys := present_of_updateCluster update
  have emptied := sound_removeMembers (sound_updateCluster sound update) cluster.uid
  exact sound_addMembers emptied present addition

theorem sound_deleteCluster (sound : m.Sound) {uid : ClusterUid}
    (deleted : m.deleteCluster uid = .ok written) : written.Sound := by
  obtain ⟨_, rfl⟩ := of_deleteCluster deleted
  exact sound_removeCluster (sound_removeMembers sound uid) (removeMembers_empty uid m)

/-! ## Publishing -/

section Publishing

variable {α : Type} {answer : α → Answer} {result : Except Failure (α × Memory)}

theorem publish_eq (answer : α → Answer) (m : Memory) (result : Except Failure (α × Memory)) :
    (m.publish answer result).1 = result.map fun written => answer written.1 := by
  cases result <;> rfl

theorem of_publish {given : Answer} (succeeded : (m.publish answer result).1 = .ok given) :
    ∃ a written, result = .ok (a, written) ∧ given = answer a ∧
      (m.publish answer result).2 = written := by
  cases result with
  | error failure => cases succeeded
  | ok pair => cases succeeded; exact ⟨pair.1, pair.2, rfl, rfl, rfl⟩

theorem of_publish_eq {given : Answer} (did : m.publish answer result = (.ok given, written)) :
    ∃ a, result = .ok (a, written) ∧ given = answer a := by
  obtain ⟨a, left, same, told, leaves⟩ := of_publish (congrArg Prod.fst did)
  rw [did] at leaves
  cases leaves
  exact ⟨a, same, told⟩

theorem publish_error {failure : Failure} (failed : (m.publish answer result).1 = .error failure) :
    result = .error failure ∧ (m.publish answer result).2 = m := by
  cases result with
  | error cause => cases failed; exact ⟨rfl, rfl⟩
  | ok pair => cases failed

end Publishing

/-- What a write keeps where it succeeds, it keeps. -/
theorem publish_keeps {α : Type} (Kept : Memory → Prop) (answer : α → Answer)
    {result : Except Failure (α × Memory)} (kept : Kept m)
    (succeeded : ∀ a written, result = .ok (a, written) → Kept written) :
    Kept (m.publish answer result).2 := by
  cases result with
  | error failure => exact kept
  | ok pair => exact succeeded pair.1 pair.2 rfl

theorem publish_delete_keeps (Kept : Memory → Prop) {uid : ClusterUid} (kept : Kept m)
    (succeeded : ∀ written, m.deleteCluster uid = .ok written → Kept written) :
    Kept (m.publish (fun () => .done) ((m.deleteCluster uid).map ((), ·))).2 := by
  apply publish_keeps Kept _ kept
  intro _ written deleted
  obtain ⟨_, deletion, same⟩ := of_map_eq_ok deleted
  cases same
  exact succeeded written deletion

theorem sound_perform (now : Instant) (operation : Operation) (sound : m.Sound) :
    (m.perform now operation).2.Sound := by
  cases operation with
  | putAgent agent => exact sound_putAgent sound agent
  | putAttestation entry => exact sound_putAttestation sound entry
  | createCluster cluster =>
    exact publish_keeps Sound _ sound fun _ _ created => sound_createCluster sound created
  | editCluster cluster =>
    exact publish_keeps Sound _ sound fun _ _ edited => sound_editCluster sound edited
  | deleteCluster uid =>
    exact publish_delete_keeps Sound sound fun _ deleted => sound_deleteCluster sound deleted
  | listAgents | findAgent | findAttestation | listClusters | clusterOf | membersOf
  | describeAgents => exact sound

theorem perform_of_error (now : Instant) (operation : Operation) (m : Memory) (failure : Failure)
    (failed : (m.perform now operation).1 = .error failure) :
    (m.perform now operation).2 = m := by
  cases operation with
  | putAgent agent => cases failed
  | putAttestation entry => cases failed
  | createCluster cluster => exact (publish_error failed).2
  | editCluster cluster => exact (publish_error failed).2
  | deleteCluster uid => exact (publish_error failed).2
  | listAgents | findAgent | findAttestation | listClusters | clusterOf | membersOf
  | describeAgents => rfl

theorem perform_of_read (now : Instant) {operation : Operation} (reads : operation.isWrite = false)
    (m : Memory) : (m.perform now operation).2 = m := by
  cases operation with
  | putAgent | putAttestation | createCluster | editCluster | deleteCluster => cases reads
  | listAgents | findAgent | findAttestation | listClusters | clusterOf | membersOf
  | describeAgents => rfl

theorem sound_after (steps : List (Instant × Operation)) (sound : m.Sound) :
    (Registry.after steps m).Sound :=
  Registry.after_keeps Sound (fun _ => True)
    (fun now operation _ _ sound => sound_perform now operation sound)
    steps (fun _ _ => trivial) m sound

end Roster.Memory
