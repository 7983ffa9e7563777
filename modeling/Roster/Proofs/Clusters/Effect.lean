import Roster.Proofs.Clusters.Decision

/-!
What the registry lists and describes after a write of a cluster that succeeded can be told from
what it listed and described before.

The list of clusters changes in the one record that was written, which stands at its place by name.
Among the agents only those are described otherwise that were released or assigned.
-/

namespace Roster

open Database Text

variable {σ : Type} [Registry σ]

/-- What a write changes for those who ask the registry. -/
structure Effect (before after : σ) (relisted : List Cluster → Prop)
    (assigned : AgentId → Option ClusterName) (released : List AgentId) : Prop where
  clusters : ∃ clusters, Lists after clusters ∧ relisted clusters
  agents : ∃ old new, Describes before old ∧ Describes after new ∧
    (new.Pairwise fun first second => first.id.text < second.id.text) ∧
    ∀ agent, new.find? (·.id = agent) =
      Agent.reassigned assigned released agent (old.find? (·.id = agent))
  attestations : ∀ now agent,
    (Registry.perform now (.findAttestation agent) after).1 =
      (Registry.perform now (.findAttestation agent) before).1

/-- The agents of a batch get the name of the cluster. -/
def Cluster.assigns (cluster : Cluster) (agent : AgentId) : Option ClusterName :=
  if agent ∈ cluster.members then some cluster.name else none

/-- What comes of the writes of clusters that succeed where these clusters are listed. -/
structure CarriesOutWrites (registry : σ) (clusters : List Cluster) : Prop where
  create : ∀ (now : Instant) (cluster : Cluster) (answer : Answer), cluster.Tidy →
    (Registry.perform now (.createCluster cluster) registry).1 = .ok answer →
    let record : Cluster :=
      { cluster with created := some now.stamp, members := AgentId.sort cluster.members }
    answer = .cluster record ∧
      Effect registry (Registry.perform now (.createCluster cluster) registry).2
        (Placed (·.name.text) record clusters) cluster.assigns []
  edit : ∀ (now : Instant) (cluster : Cluster) (answer : Answer), cluster.Tidy →
    (Registry.perform now (.editCluster cluster) registry).1 = .ok answer →
    ∃ old ∈ clusters, old.uid = cluster.uid ∧
      let record : Cluster :=
        { cluster with created := old.created, members := AgentId.sort cluster.members }
      answer = .cluster record ∧
        Effect registry (Registry.perform now (.editCluster cluster) registry).2
          (Placed (·.name.text) record (clusters.filter fun listed => listed.uid ≠ cluster.uid))
          cluster.assigns old.members
  delete : ∀ (now : Instant) (uid : ClusterUid) (answer : Answer),
    (Registry.perform now (.deleteCluster uid) registry).1 = .ok answer →
    ∃ old ∈ clusters, old.uid = uid ∧ answer = .done ∧
      Effect registry (Registry.perform now (.deleteCluster uid) registry).2
        (· = clusters.filter fun listed => listed.uid ≠ uid) (fun _ => none) old.members

namespace Memory

variable {m : Memory} {cluster : Cluster}

theorem effect_rewritten (sound : m.Sound) (stored : StoredCluster)
    (named : stored.name = cluster.name)
    (free : ∀ entry ∈ m.clusters, entry.1 ≠ cluster.uid → entry.2.name ≠ cluster.name)
    (assignable : Assignable cluster.members (m.removeMembers cluster.uid).memberships) :
    Effect m (m.rewritten cluster stored)
      (Placed (·.name.text) ((m.rewritten cluster stored).toCluster cluster.uid stored)
        (m.listClusters.filter fun listed => listed.uid ≠ cluster.uid))
      cluster.assigns (m.members cluster.uid) where
  clusters := ⟨_, lists _, placed_rewritten sound (named ▸ free)⟩
  agents := by
    have known : (m.rewritten cluster stored).agents.keys.Nodup := nodup_keys_learn sound.agents
    refine ⟨_, _, describes m, describes _, ascending_describeAgents known, fun agent => ?_⟩
    rw [describe_rewritten sound assignable, named]
    rfl
  attestations _ _ := rfl

theorem effect_emptied (sound : m.Sound) (uid : ClusterUid) :
    Effect m (m.emptied uid (m.clusters.remove uid))
      (· = m.listClusters.filter fun listed => listed.uid ≠ uid) (fun _ => none)
      (m.members uid) where
  clusters := ⟨_, lists _, listClusters_emptied sound uid⟩
  agents := by
    have known : (m.emptied uid (m.clusters.remove uid)).agents.keys.Nodup := sound.agents
    exact ⟨_, _, describes m, describes _, ascending_describeAgents known,
      describe_emptied sound uid⟩
  attestations _ _ := rfl

theorem carriesOut_create (sound : m.Sound) {now : Instant} {answer : Answer}
    (succeeded : (m.perform now (.createCluster cluster)).1 = .ok answer) :
    let record : Cluster :=
      { cluster with created := some now.stamp, members := AgentId.sort cluster.members }
    answer = .cluster record ∧
      Effect m (m.perform now (.createCluster cluster)).2
        (Placed (·.name.text) record m.listClusters) cluster.assigns [] := by
  intro record
  obtain ⟨_, _, created, rfl, written⟩ := of_publish succeeded
  rw [createCluster_eq sound] at created
  split at created
  next => cases created
  next untaken =>
    split at created
    next assignable =>
      cases created
      refine ⟨rfl, ?_⟩
      change Effect m (m.publish _ _).2 _ _ _
      rw [written]
      rw [Bool.or_eq_true, not_or, Directory.contains_iff, nameTaken_iff] at untaken
      obtain ⟨absent, unnamed⟩ := untaken
      have free : ∀ entry ∈ m.clusters, entry.1 ≠ cluster.uid → entry.2.name ≠ cluster.name :=
        fun entry member _ same => unnamed ⟨entry, member, same, Option.some_ne_none _⟩
      have all : m.listClusters.filter (fun listed => listed.uid ≠ cluster.uid) =
          m.listClusters := by
        apply List.filter_eq_self.mpr
        intro listed member
        apply decide_eq_true
        intro same
        exact absent (uid_listed.mp ⟨listed, member, same⟩)
      have none : m.members cluster.uid = [] := by
        apply List.eq_nil_iff_forall_not_mem.mpr
        intro agent member
        exact absent (sound.placed _ (mem_members.mp member))
      have same : (m.rewritten cluster (newCluster now cluster)).toCluster cluster.uid
          (newCluster now cluster) = record := by
        rw [toCluster, members_rewritten]
        rfl
      rw [← removeMembers_of_absent sound absent] at assignable
      have effect := effect_rewritten sound (newCluster now cluster) rfl free assignable
      rw [all, none, same] at effect
      exact effect
    next => cases created

theorem carriesOut_edit (sound : m.Sound) {now : Instant} {answer : Answer}
    (succeeded : (m.perform now (.editCluster cluster)).1 = .ok answer) :
    ∃ old ∈ m.listClusters, old.uid = cluster.uid ∧
      let record : Cluster :=
        { cluster with created := old.created, members := AgentId.sort cluster.members }
      answer = .cluster record ∧
        Effect m (m.perform now (.editCluster cluster)).2
          (Placed (·.name.text) record
            (m.listClusters.filter fun listed => listed.uid ≠ cluster.uid))
          cluster.assigns old.members := by
  obtain ⟨_, _, edited, rfl, written⟩ := of_publish succeeded
  rw [editCluster_eq] at edited
  cases found : m.clusters.find? cluster.uid with
  | none => rw [found] at edited; cases edited
  | some old =>
    have listed := mem_listClusters.mpr ⟨_, Directory.mem_of_find? found, rfl⟩
    refine ⟨m.toCluster cluster.uid old, listed, rfl, ?_⟩
    simp only [found] at edited
    split at edited
    next => cases edited
    next unnamed =>
      split at edited
      next assignable =>
        cases edited
        refine ⟨rfl, ?_⟩
        change Effect m (m.publish _ _).2 _ _ _
        rw [written]
        have free : ∀ entry ∈ m.clusters, entry.1 ≠ cluster.uid →
            entry.2.name ≠ cluster.name := by
          intro entry member other same
          apply unnamed
          rw [nameTaken_iff]
          exact ⟨entry, member, same, fun equal => other (Option.some.inj equal)⟩
        have effect := effect_rewritten sound (editedCluster cluster old) rfl free assignable
        rw [toCluster, members_rewritten] at effect
        exact effect
      next => cases edited

theorem carriesOut_delete (sound : m.Sound) {now : Instant} {uid : ClusterUid} {answer : Answer}
    (succeeded : (m.perform now (.deleteCluster uid)).1 = .ok answer) :
    ∃ old ∈ m.listClusters, old.uid = uid ∧ answer = .done ∧
      Effect m (m.perform now (.deleteCluster uid)).2
        (· = m.listClusters.filter fun listed => listed.uid ≠ uid) (fun _ => none)
        old.members := by
  obtain ⟨_, _, deleted, rfl, written⟩ := of_publish succeeded
  rw [deleteCluster_eq] at deleted
  split at deleted
  next present =>
    cases deleted
    obtain ⟨old, found⟩ := Directory.exists_find? (Directory.contains_iff.mp present)
    have listed := mem_listClusters.mpr ⟨_, Directory.mem_of_find? found, rfl⟩
    refine ⟨m.toCluster uid old, listed, rfl, rfl, ?_⟩
    change Effect m (m.publish _ _).2 _ _ _
    rw [written]
    exact effect_emptied sound uid
  next => cases deleted

theorem carriesOutWrites (sound : m.Sound) : CarriesOutWrites m m.listClusters where
  create _ _ _ _ succeeded := carriesOut_create sound succeeded
  edit _ _ _ _ succeeded := carriesOut_edit sound succeeded
  delete _ _ _ succeeded := carriesOut_delete sound succeeded

end Memory

/-! ## The same effects in a database -/

namespace Database

variable {c c' : Connection} {m m' : Memory}

theorem effect_of_memory (holds : Holds c m) (holdsAfter : Holds c' m')
    {relisted : List Cluster → Prop} {assigned : AgentId → Option ClusterName}
    {released : List AgentId} (effect : Effect m m' relisted assigned released) :
    Effect c c' relisted assigned released where
  clusters := by
    obtain ⟨clusters, listed, relisted⟩ := effect.clusters
    exact ⟨clusters, (lists_iff holdsAfter).mpr listed, relisted⟩
  agents := by
    obtain ⟨old, new, before, after, changed⟩ := effect.agents
    exact ⟨old, new, (describes_iff holds).mpr before, (describes_iff holdsAfter).mpr after,
      changed⟩
  attestations now agent := by
    rw [read_eq holds now (.findAttestation agent) trivial trivial rfl,
      read_eq holdsAfter now (.findAttestation agent) trivial trivial rfl]
    exact effect.attestations now agent

/-- A write that succeeds in a database fits, and succeeds in memory with the same answer. -/
theorem succeeds (holds : Holds c m) {now : Instant} (operation : Operation)
    (fits : operation.Tidy) (write : operation.isWrite = true) {answer : Answer}
    (succeeded : (Registry.perform now operation c).1 = .ok answer) :
    (m.perform now operation).1 = .ok answer ∧
      Holds (Registry.perform now operation c).2 (m.perform now operation).2 := by
  have room : operation.Fits := Store.fits_of_perform succeeded
  refine ⟨?_, (Store.perform_answers holds now fits room).holds⟩
  rw [write_eq holds now operation fits room write] at succeeded
  change (m.perform now operation).1.mapError _ = _ at succeeded
  cases result : (m.perform now operation).1 with
  | error failure => rw [result] at succeeded; cases succeeded
  | ok given => rw [result] at succeeded; exact succeeded

theorem carriesOutWrites (holds : Holds c m) : CarriesOutWrites c m.listClusters where
  create now cluster answer fits succeeded := by
    obtain ⟨succeeded, after⟩ := succeeds holds (.createCluster cluster) fits rfl succeeded
    obtain ⟨answered, effect⟩ := Memory.carriesOut_create holds.sees.sound succeeded
    exact ⟨answered, effect_of_memory holds after effect⟩
  edit now cluster answer fits succeeded := by
    obtain ⟨succeeded, after⟩ := succeeds holds (.editCluster cluster) fits rfl succeeded
    obtain ⟨old, listed, same, answered, effect⟩ :=
      Memory.carriesOut_edit holds.sees.sound succeeded
    exact ⟨old, listed, same, answered, effect_of_memory holds after effect⟩
  delete now uid answer succeeded := by
    obtain ⟨succeeded, after⟩ := succeeds holds (.deleteCluster uid) trivial rfl succeeded
    obtain ⟨old, listed, same, answered, effect⟩ :=
      Memory.carriesOut_delete holds.sees.sound succeeded
    exact ⟨old, listed, same, answered, effect_of_memory holds after effect⟩

end Database

/-- After any operations on tidy values, a registry carries out writes of clusters as they are
meant, and changes nothing else that it lists or describes. -/
theorem cluster_writes_carried_out (settings : Settings) (steps : List (Instant × Operation))
    (tidy : ∀ step ∈ steps, step.2.Tidy) :
    (∃ clusters, Lists (Registry.after steps ({} : Memory)) clusters ∧
      CarriesOutWrites (Registry.after steps ({} : Memory)) clusters) ∧
    (∃ clusters, Lists (Registry.after steps (Connection.connect settings)) clusters ∧
      CarriesOutWrites (Registry.after steps (Connection.connect settings)) clusters) := by
  have holds := Store.holds_after settings steps tidy
  constructor
  · exact ⟨_, Memory.lists _, Memory.carriesOutWrites (Memory.sound_after steps Memory.sound_empty)⟩
  · exact ⟨_, (lists_iff holds).mpr (Memory.lists _), carriesOutWrites holds⟩

/-- An agent that an edit makes a member keeps its plugin and gets the new name of the cluster. -/
theorem new_member_described :
    let steps : List (Instant × Operation) :=
      [(.epoch, .createCluster { uid := ⟨"u"⟩, name := ⟨"n"⟩, members := [⟨"a"⟩] }),
        (.epoch, .putAgent { id := ⟨"b"⟩, plugin := some "p" })]
    let edited : Cluster := { uid := ⟨"u"⟩, name := ⟨"o"⟩, members := [⟨"b"⟩] }
    let before := Registry.after steps ({} : Memory)
    (∀ step ∈ steps, step.2.Tidy) ∧
      ∃ agents, Describes (Registry.perform .epoch (.editCluster edited) before).2 agents ∧
        agents.find? (·.id = ⟨"b"⟩) =
          some { id := ⟨"b"⟩, plugin := some "p", cluster := some ⟨"o"⟩ } := by
  intro steps edited before
  have tidy : ∀ step ∈ steps, step.2.Tidy := by decide
  obtain ⟨clusters, _, carriesOut⟩ := (cluster_writes_carried_out {} steps tidy).1
  obtain ⟨_, _, _, _, effect⟩ := carriesOut.edit .epoch edited _ (by decide) rfl
  obtain ⟨old, new, described, describedAfter, _, changed⟩ := effect.agents
  have same : before.describeAgents .all = old :=
    Answer.agents.inj (Except.ok.inj (described .epoch))
  have kept : old.find? (·.id = ⟨"b"⟩) =
      some { id := ⟨"b"⟩, plugin := some "p", cluster := none } := by
    rw [← same, Memory.find?_describeAgents (by decide)]
    rfl
  refine ⟨tidy, new, describedAfter, ?_⟩
  rw [changed, kept]
  rfl

end Roster
