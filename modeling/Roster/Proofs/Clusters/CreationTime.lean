import Roster.Proofs.Calendar
import Roster.Proofs.Database.Achieved
import Roster.Proofs.Database.Batches
import Roster.Proofs.Database.Simulation
import Roster.Proofs.Memory.Clusters

/-!
The creation time of a cluster is that of the instant at which it was created, in memory and in a
database. So it tells in which second that was.
-/

namespace Roster

/-! ## In memory -/

namespace Memory

variable {now : Instant} {cluster record : Cluster} {m written : Memory}

theorem created_of_createCluster (created : m.createCluster now cluster = .ok (record, written)) :
    record.created = some now.stamp := by
  obtain ⟨inserted, insertion, addition, found⟩ := of_createCluster created
  obtain ⟨-, -, rfl⟩ := of_insertCluster insertion
  have present : cluster.uid ∈ (m.clusters.put cluster.uid (newCluster now cluster)).keys :=
    Directory.mem_keys_put.mpr (.inr rfl)
  rw [addMembers_eq present] at addition
  split at addition
  next =>
    cases addition
    have stored : (m.clusters.put cluster.uid (newCluster now cluster)).find? cluster.uid =
        some (newCluster now cluster) := by
      rw [Directory.find?_put, if_pos rfl]
    unfold findCluster at found
    dsimp only [withMembers] at found
    rw [stored] at found
    cases found
    rfl
  next => cases addition

end Memory

/-! ## In a database -/

namespace Database

namespace Tables

variable {t t' : Tables}

/-- The row of a new cluster is the only one with its uid. -/
theorem clusterWith?_of_insertCluster {foreignKeys : Bool} {columns : ClusterColumns}
    (inserted : t.insertCluster foreignKeys columns = .ok t') :
    t'.clusterWith? columns.uid = some (t.newCluster columns) := by
  obtain ⟨_, -, rest⟩ := of_bind_eq_ok inserted
  split at rest
  next => cases rest
  next => cases rest
  next =>
    split at rest
    next => cases rest
    next newUid =>
      split at rest
      next => cases rest
      next =>
        cases rest
        have absent : t.clusters.find? (·.uid = columns.uid) = none := by
          simpa using newUid
        rw [clusterWith?, List.find?_append, absent]
        simp [newCluster]

theorem clusters_of_insertMembership {uid spiffeid : String}
    (inserted : insertMembership uid t spiffeid = .ok t') : t'.clusters = t.clusters := by
  unfold insertMembership at inserted
  split at inserted
  next => cases inserted
  next => cases inserted
  next =>
    split at inserted
    next => cases inserted
    next => cases inserted; rfl

theorem clusters_of_insertMemberships {uid : String} {spiffeids : List String}
    (inserted : t.insertMemberships uid spiffeids = .ok t') : t'.clusters = t.clusters := by
  obtain ⟨_, -, rest⟩ := of_bind_eq_ok inserted
  clear inserted
  induction spiffeids generalizing t with
  | nil => cases rest; rfl
  | cons spiffeid others ih =>
    rw [List.foldlM_cons] at rest
    obtain ⟨first, one, later⟩ := of_bind_eq_ok rest
    rw [ih later, clusters_of_insertMembership one]

theorem clusters_of_insertAgents {spiffeids : List String}
    (inserted : t.insertAgents spiffeids = .ok t') : t'.clusters = t.clusters := by
  obtain ⟨_, -, rest⟩ := of_bind_eq_ok inserted
  cases rest
  exact t.clusters_enroll spiffeids

end Tables

namespace Transaction

open Database.Action

variable {c c' : Connection}

theorem clusters_of_addMembers {uid : ClusterUid} {agents : List AgentId}
    (did : addMembers uid agents c = (.ok (), c')) : c'.tables.clusters = c.tables.clusters := by
  unfold addMembers at did
  split at did
  next => cases did; rfl
  next =>
    obtain ⟨_, later, inserted, rest⟩ := of_bind did
    rw [Tables.clusters_of_insertMemberships (of_silently (of_runUnique rest)),
      Tables.clusters_of_insertAgents (of_silently (of_run inserted))]

theorem created_of_loadCluster {uid : ClusterUid} {record : Cluster} {row : ClusterRow}
    (stored : c.tables.clusterWith? uid.text = some row)
    (did : loadCluster uid c = (.ok record, c')) : record.created = some row.createdAt := by
  obtain ⟨found, later, selected, rest⟩ := of_bind did
  obtain ⟨_, -, look⟩ := of_bind_eq_ok (of_read selected)
  rw [tables_of_read selected, stored] at look
  cases look
  obtain ⟨spiffeids, last, -, lifted⟩ := of_bind rest
  obtain ⟨read, rfl⟩ := of_lift lifted
  obtain ⟨members, -, assembled⟩ := of_bind_eq_ok read
  obtain ⟨_, -, assembled⟩ := of_bind_eq_ok assembled
  obtain ⟨_, -, assembled⟩ := of_bind_eq_ok assembled
  cases assembled
  rfl

end Transaction

namespace Store

open Database.Action Transaction

/-- The record is read back from the row that was stamped. -/
theorem created_of_createCluster {c : Connection} {now : Instant} {cluster record : Cluster}
    (did : (createCluster now cluster c).1 = .ok record) : record.created = some now.stamp := by
  obtain ⟨opened, finished, -, body, -⟩ := body_of_atomically did
  obtain ⟨_, inserted, insertion, rest⟩ := of_bind body
  obtain ⟨_, filled, addition, loading⟩ := of_bind rest
  have row := Tables.clusterWith?_of_insertCluster (of_silently (of_runUnique insertion))
  rw [Tables.clusterWith?, ← clusters_of_addMembers addition] at row
  exact created_of_loadCluster row loading

end Store

end Database

/-! ## Either kind of registry -/

/-- Some registry of the kind, whatever it holds, creates a cluster at the instant and answers with
this creation time. -/
def Stamps (σ : Type) [Registry σ] (now : Instant) (time : String) : Prop :=
  ∃ (cluster record : Cluster) (registry : σ),
    (Registry.perform now (.createCluster cluster) registry).1 = .ok (.cluster record) ∧
      record.created = some time

theorem created_in_new (now : Instant) {cluster : Cluster} (distinct : cluster.members.Nodup) :
    (Registry.perform now (.createCluster cluster) ({} : Memory)).1 =
      .ok (.cluster (cluster.recorded now.stamp)) := by
  have assignable : Memory.Assignable cluster.members ({} : Memory).memberships :=
    ⟨distinct, fun _ _ => List.not_mem_nil⟩
  have free : ¬(({} : Memory).clusters.contains cluster.uid ||
      ({} : Memory).nameTaken cluster.name none) = true := Bool.false_ne_true
  change (Memory.publish _ _ _).1 = _
  rw [Memory.createCluster_eq Memory.sound_empty, if_neg free, if_pos assignable]
  rfl

theorem stored_in_new (settings : Settings) (now : Instant) {cluster : Cluster}
    (tidy : cluster.Tidy) (distinct : cluster.members.Nodup)
    (room : (Operation.createCluster cluster).Fits) :
    (Registry.perform now (.createCluster cluster) (Database.Connection.connect settings)).1 =
      .ok (.cluster (cluster.recorded now.stamp)) := by
  have holds := Database.holds_connect settings
  have fits : (Operation.createCluster cluster).Tidy := tidy
  have stored := (Database.Store.perform_answers holds now fits room).outcome
  have created := created_in_new now distinct
  change ((({} : Memory).perform now (.createCluster cluster)).1 = _) at created
  rw [created, Operation.told_ok] at stored
  exact stored

theorem stamps_memory_iff {now : Instant} {time : String} :
    Stamps Memory now time ↔ time = now.stamp := by
  constructor
  · rintro ⟨cluster, record, m, did, stamped⟩
    obtain ⟨_, written, created, same, -⟩ := Memory.of_publish did
    cases same
    rw [Memory.created_of_createCluster created] at stamped
    exact (Option.some.inj stamped).symm
  · rintro rfl
    let cluster : Cluster := { uid := ⟨"u"⟩, name := ⟨"n"⟩ }
    exact ⟨cluster, _, {}, created_in_new now .nil, rfl⟩

theorem stamps_database_iff {now : Instant} {time : String} :
    Stamps Database.Connection now time ↔ time = now.stamp := by
  constructor
  · rintro ⟨cluster, record, c, did, stamped⟩
    obtain ⟨_, created, same⟩ := Database.Store.of_answering did
    cases same
    rw [Database.Store.created_of_createCluster created] at stamped
    exact (Option.some.inj stamped).symm
  · rintro rfl
    let cluster : Cluster := { uid := ⟨"u"⟩, name := ⟨"n"⟩ }
    exact ⟨cluster, _, _, stored_in_new .inMemory now (by decide) .nil (Nat.zero_le _), rfl⟩

/-- Two clusters get the same creation time just if they are created in the same second, whatever
the registries hold that create them. A leap second is a second of its own. At every instant both
kinds of registries do create clusters. -/
theorem creation_times_tell_seconds (first second : Instant) :
    (∃ time, Stamps Memory first time ∧ Stamps Database.Connection first time) ∧
      ∀ time other, Stamps Memory first time ∨ Stamps Database.Connection first time →
        Stamps Memory second other ∨ Stamps Database.Connection second other →
        (time = other ↔ Instant.SameSecond first second) := by
  simp only [stamps_memory_iff, stamps_database_iff, or_self]
  refine ⟨⟨first.stamp, rfl, rfl⟩, ?_⟩
  rintro _ _ rfl rfl
  exact Instant.stamp_eq_iff

end Roster
