import Mathlib.Data.List.Nodup
import Roster.Proofs.Memory.Learned
import Roster.Proofs.Memory.Scope

/-!
Writes of clusters that are taken back.

A write of a cluster leaves no trace of what was written of it before, so whatever was done to a
cluster is undone once it is written as it was listed, or deleted where it was not there. What stays
is that the agents of a batch are known.
-/

namespace Roster.Memory

open Text

variable {now : Instant} {m written : Memory} {cluster : Cluster} {uid : ClusterUid}
  {stored : StoredCluster}

/-! ## A cluster as it is listed -/

theorem mem_members_iff_find? (sound : m.Sound) {agent : AgentId} :
    agent ∈ m.members uid ↔ m.memberships.find? agent = some uid := by
  rw [mem_members]
  exact ⟨Directory.find?_of_mem sound.memberships, Directory.mem_of_find?⟩

theorem nodup_members (sound : m.Sound) (uid : ClusterUid) : (m.members uid).Nodup := by
  have distinct : (Directory.keys (m.memberships.filter fun entry => entry.2 = uid)).Nodup :=
    sound.memberships.sublist (Directory.keys_filter _ _)
  exact (sortOn_perm _ _).nodup_iff.mpr distinct

theorem sort_members (m : Memory) (uid : ClusterUid) :
    AgentId.sort (m.members uid) = m.members uid := by
  apply sortOn_of_perm _ (sortOn_perm _ _)
  exact fun first _ second _ same => AgentId.text_inj.mp same

theorem name_free (sound : m.Sound) (found : m.clusters.find? uid = some stored) :
    m.nameTaken stored.name (some uid) = false := by
  rw [← Bool.not_eq_true, nameTaken_iff]
  intro ⟨entry, member, same, different⟩
  have one := List.inj_on_of_nodup_map sound.names member (Directory.mem_of_find? found) same
  exact different (congrArg (fun entry => some entry.1) one)

/-- Its own members can be assigned to the cluster again. -/
theorem assignable_members (sound : m.Sound) (uid : ClusterUid) :
    Assignable (m.members uid) (m.removeMembers uid).memberships := by
  refine ⟨nodup_members sound uid, fun agent member => ?_⟩
  have released : (m.removeMembers uid).memberships.find? agent =
      (m.memberships.find? agent).filter (· ≠ uid) := find?_emptied sound uid m.clusters agent
  rw [← Directory.find?_eq_none_iff, released, (mem_members_iff_find? sound).mp member]
  exact Option.filter_some_neg (by simp)

/-- To edit a cluster to what is listed of it writes it as it is. -/
theorem editCluster_listed (sound : m.Sound) (found : m.clusters.find? uid = some stored) :
    m.editCluster (m.toCluster uid stored) =
      .ok (m.toCluster uid stored, m.rewritten (m.toCluster uid stored) stored) := by
  have free : m.nameTaken (m.toCluster uid stored).name (some uid) = false := name_free sound found
  have own : Assignable (m.toCluster uid stored).members (m.removeMembers uid).memberships :=
    assignable_members sound uid
  have sorted : AgentId.sort (m.toCluster uid stored).members = m.members uid :=
    sort_members m uid
  rw [editCluster_eq, show m.clusters.find? (m.toCluster uid stored).uid = some stored from found]
  simp only [show (m.toCluster uid stored).uid = uid from rfl, free, Bool.false_eq_true, if_false,
    if_pos own, sorted]
  rfl

theorem alike_rewritten_listed (sound : m.Sound) (found : m.clusters.find? uid = some stored) :
    Alike (m.rewritten (m.toCluster uid stored) stored) m where
  agents agent := by
    have asked := find?_learn (m.members uid) m.agents agent
    by_cases member : agent ∈ m.members uid
    · have listed := Directory.mem_keys_of_find? ((mem_members_iff_find? sound).mp member)
      obtain ⟨plugin, known⟩ := Directory.exists_find? (sound.known agent listed)
      rw [known] at asked ⊢
      exact asked
    · rw [if_neg member, Option.or_none] at asked
      exact asked
  attestations _ := rfl
  clusters other := by
    have put := Directory.find?_put m.clusters uid other stored
    by_cases same : other = uid
    · rw [same, if_pos rfl] at put
      rw [same]
      exact put.trans found.symm
    · rw [if_neg same] at put
      exact put
  memberships agent := by
    have own : agent ∈ m.members uid ↔ m.memberships.find? agent = some uid :=
      mem_members_iff_find? sound
    rw [find?_rewritten sound]
    change ((m.memberships.find? agent).filter (· ≠ uid)).or
      (if agent ∈ m.members uid then some uid else none) = _
    simp only [own]
    cases m.memberships.find? agent with
    | none => simp
    | some assigned => by_cases same : assigned = uid <;> simp [same, Option.filter_some]

/-! ## A write after a write -/

/-- Once the members of the cluster are released, nothing is left of the batch. -/
theorem find?_released (sound : m.Sound) (cluster : Cluster) (stored : StoredCluster)
    (agent : AgentId) :
    ((m.rewritten cluster stored).memberships.find? agent).filter (· ≠ cluster.uid) =
      (m.memberships.find? agent).filter (· ≠ cluster.uid) := by
  rw [find?_rewritten sound]
  cases m.memberships.find? agent with
  | none => by_cases batched : agent ∈ cluster.members <;> simp [batched, Option.filter_some]
  | some assigned => by_cases same : assigned = cluster.uid <;> simp [same, Option.filter_some]

theorem alike_rewritten_twice (sound : m.Sound) (writtenSound : (m.rewritten cluster stored).Sound)
    {second : Cluster} (same : second.uid = cluster.uid) (again : StoredCluster) :
    Alike ((m.rewritten cluster stored).rewritten second again)
      ((m.rewritten second again).learned cluster.members) where
  agents agent := by
    change (learn second.members (learn cluster.members m.agents)).find? agent =
      (learn cluster.members (learn second.members m.agents)).find? agent
    simp only [find?_learn]
    cases m.agents.find? agent with
    | some plugin => rfl
    | none =>
      by_cases batched : agent ∈ cluster.members <;>
        by_cases batchedAgain : agent ∈ second.members <;> simp [batched, batchedAgain]
  attestations _ := rfl
  clusters uid := by
    change ((m.clusters.put cluster.uid stored).put second.uid again).find? uid =
      (m.clusters.put second.uid again).find? uid
    rw [Directory.find?_put, Directory.find?_put, Directory.find?_put, same]
    split <;> rfl
  memberships agent := by
    change ((m.rewritten cluster stored).rewritten second again).memberships.find? agent =
      (m.rewritten second again).memberships.find? agent
    have released := find?_released sound cluster stored agent
    rw [find?_rewritten writtenSound, same, released, find?_rewritten sound, same]

theorem alike_emptied_rewritten (sound : m.Sound) (writtenSound : (m.rewritten cluster stored).Sound)
    (absent : cluster.uid ∉ m.clusters.keys) :
    Alike ((m.rewritten cluster stored).emptied cluster.uid
      ((m.rewritten cluster stored).clusters.remove cluster.uid)) (m.learned cluster.members) where
  agents _ := rfl
  attestations _ := rfl
  clusters uid := by
    change ((m.clusters.put cluster.uid stored).remove cluster.uid).find? uid = m.clusters.find? uid
    rw [Directory.find?_remove, Directory.find?_put]
    by_cases same : uid = cluster.uid
    · rw [if_pos same, same, Directory.find?_eq_none_iff.mpr absent]
    · rw [if_neg same, if_neg same]
  memberships agent := by
    have nobody : m.removeMembers cluster.uid = m := removeMembers_of_absent sound absent
    calc ((m.rewritten cluster stored).emptied cluster.uid _).memberships.find? agent
      _ = ((m.rewritten cluster stored).memberships.find? agent).filter (· ≠ cluster.uid) :=
        find?_emptied writtenSound _ _ agent
      _ = (m.memberships.find? agent).filter (· ≠ cluster.uid) :=
        find?_released sound cluster stored agent
      _ = (m.removeMembers cluster.uid).memberships.find? agent :=
        (find?_emptied sound cluster.uid m.clusters agent).symm
      _ = m.memberships.find? agent := by rw [nobody]

/-- What was written of a cluster does not decide on a later edit of it. -/
theorem nameTaken_rewritten (sound : m.Sound) (writtenSound : (m.rewritten cluster stored).Sound)
    (name : ClusterName) :
    (m.rewritten cluster stored).nameTaken name (some cluster.uid) =
      m.nameTaken name (some cluster.uid) := by
  rw [Bool.eq_iff_iff, nameTaken_iff_names writtenSound, nameTaken_iff_names sound]
  apply exists_congr
  intro uid
  apply and_congr_left
  intro different
  have kept : (m.rewritten cluster stored).clusters.find? uid = m.clusters.find? uid :=
    (Directory.find?_put _ _ _ _).trans (if_neg fun same => different (congrArg some same))
  rw [Names, Names, kept]

theorem assignable_rewritten (sound : m.Sound) (writtenSound : (m.rewritten cluster stored).Sound)
    (agents : List AgentId) :
    Assignable agents ((m.rewritten cluster stored).removeMembers cluster.uid).memberships ↔
      Assignable agents (m.removeMembers cluster.uid).memberships := by
  apply assignable_congr
  intro agent _
  calc ((m.rewritten cluster stored).removeMembers cluster.uid).memberships.find? agent
    _ = ((m.rewritten cluster stored).memberships.find? agent).filter (· ≠ cluster.uid) :=
      find?_emptied writtenSound cluster.uid (m.rewritten cluster stored).clusters agent
    _ = (m.memberships.find? agent).filter (· ≠ cluster.uid) :=
      find?_released sound cluster stored agent
    _ = (m.removeMembers cluster.uid).memberships.find? agent :=
      (find?_emptied sound cluster.uid m.clusters agent).symm

/-! ## Taking back -/

theorem edit_listed (sound : m.Sound) {listed : Cluster} (member : listed ∈ m.listClusters) :
    ∃ written, m.editCluster listed = .ok (listed, written) ∧ written.Alike m := by
  obtain ⟨⟨uid, stored⟩, entry, rfl⟩ := mem_listClusters.mp member
  have found := Directory.find?_of_mem sound.clusters entry
  exact ⟨_, editCluster_listed sound found, alike_rewritten_listed sound found⟩

/-- The old members and the old name are free again after an edit. -/
theorem editCluster_back (sound : m.Sound) (found : m.clusters.find? cluster.uid = some stored)
    (writtenSound : (m.rewritten cluster (editedCluster cluster stored)).Sound) :
    let edited := m.rewritten cluster (editedCluster cluster stored)
    let old := m.toCluster cluster.uid stored
    edited.editCluster old = .ok (old, edited.rewritten old stored) := by
  intro edited old
  have put : edited.clusters.find? old.uid = some (editedCluster cluster stored) :=
    (Directory.find?_put _ _ _ _).trans (if_pos rfl)
  have free : edited.nameTaken old.name (some old.uid) = false :=
    (nameTaken_rewritten sound writtenSound stored.name).trans (name_free sound found)
  have own : Assignable old.members (edited.removeMembers old.uid).memberships :=
    (assignable_rewritten sound writtenSound old.members).mpr
      (assignable_members sound cluster.uid)
  have sorted : AgentId.sort old.members = old.members := sort_members m cluster.uid
  rw [editCluster_eq]
  simp only [put, free, Bool.false_eq_true, if_false, if_pos own, sorted]
  rfl

/-- An edit is undone by another one. -/
theorem edit_undone (sound : m.Sound) {record : Cluster}
    (edited : m.editCluster cluster = .ok (record, written)) :
    cluster.members.Nodup ∧ ∃ old ∈ m.listClusters, old.uid = cluster.uid ∧
      ∃ restored, written.editCluster old = .ok (old, restored) ∧
        restored.Alike (m.learned cluster.members) := by
  have writtenSound := sound_editCluster sound edited
  rw [editCluster_eq] at edited
  cases found : m.clusters.find? cluster.uid with
  | none => rw [found] at edited; cases edited
  | some stored =>
    simp only [found] at edited
    split at edited
    next => cases edited
    next =>
      split at edited
      next assignable =>
        cases edited
        have listed := mem_listClusters.mpr ⟨_, Directory.mem_of_find? found, rfl⟩
        refine ⟨assignable.1, _, listed, rfl, _, editCluster_back sound found writtenSound, ?_⟩
        have hidden := alike_rewritten_twice sound writtenSound
          (show (m.toCluster cluster.uid stored).uid = cluster.uid from rfl) stored
        exact hidden.trans ((alike_rewritten_listed sound found).learned cluster.members)
      next => cases edited

/-- A creation is undone by a deletion. -/
theorem creation_undone (sound : m.Sound) {record : Cluster}
    (created : m.createCluster now cluster = .ok (record, written)) :
    cluster.members.Nodup ∧ ∃ restored, written.deleteCluster cluster.uid = .ok restored ∧
      restored.Alike (m.learned cluster.members) := by
  have writtenSound := sound_createCluster sound created
  rw [createCluster_eq sound] at created
  split at created
  next => cases created
  next untaken =>
    split at created
    next assignable =>
      cases created
      rw [Bool.or_eq_true, not_or, Directory.contains_iff] at untaken
      have present : (m.rewritten cluster (newCluster now cluster)).clusters.contains
          cluster.uid = true :=
        Directory.contains_iff.mpr (Directory.mem_keys_put.mpr (.inr rfl))
      refine ⟨assignable.1, _, ?_, alike_emptied_rewritten sound writtenSound untaken.1⟩
      rw [deleteCluster_eq, if_pos present]
    next => cases created

end Roster.Memory
