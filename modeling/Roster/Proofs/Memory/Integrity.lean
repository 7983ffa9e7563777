import Roster.Proofs.Memory.Sound

/-!
What a write of a cluster finds once it has put the entry of the cluster.

The four maps of a registry fit together after all operations, whether they succeed or fail. A write
puts its cluster before it adds members, and it answers with that cluster at its end. So the cluster
is missed at neither place, and all that may fail are the checks that are made for the caller.
-/

namespace Roster.Memory

variable {now : Instant} {m : Memory} {cluster : Cluster}

/-- The cluster is there when the agents are added to it, and it is there to be answered with. -/
structure Finishes (m : Memory) (uid : ClusterUid) (agents : List AgentId) : Prop where
  there : m.clusters.contains uid = true
  refused : ∀ failure, m.addMembers uid agents = .error failure → failure = .agentAssigned
  found : ∀ written, m.addMembers uid agents = .ok written →
    ∃ record, written.findCluster uid = .ok record

theorem finishes {uid : ClusterUid} (present : uid ∈ m.clusters.keys) (agents : List AgentId) :
    m.Finishes uid agents where
  there := Directory.contains_iff.mpr present
  refused failure failed := by
    rw [addMembers_eq present] at failed
    split at failed
    next => cases failed
    next => exact (Except.error.inj failed).symm
  found written added := by
    rw [addMembers_eq present] at added
    split at added
    next =>
      cases added
      obtain ⟨stored, here⟩ := Directory.exists_find? present
      refine ⟨(m.withMembers uid agents).toCluster uid stored, ?_⟩
      have same : (m.withMembers uid agents).clusters.find? uid = some stored := here
      rw [findCluster, same]
    next => cases added

theorem finishes_insertCluster {inserted : Memory}
    (insertion : m.insertCluster now cluster = .ok inserted) :
    inserted.Finishes cluster.uid cluster.members :=
  finishes (present_of_insertCluster insertion) cluster.members

theorem finishes_updateCluster {updated : Memory} (update : m.updateCluster cluster = .ok updated) :
    (updated.removeMembers cluster.uid).Finishes cluster.uid cluster.members := by
  have present : cluster.uid ∈ updated.clusters.keys := present_of_updateCluster update
  exact finishes (m := updated.removeMembers cluster.uid) present cluster.members

/-- Once the cluster is put, the batch is all that may be refused. -/
theorem Finishes.error {uid : ClusterUid} {agents : List AgentId} (finishes : m.Finishes uid agents)
    {failure : Failure}
    (failed : (do
      let m ← m.addMembers uid agents
      return (← m.findCluster uid, m)) = .error failure) : failure = .agentAssigned := by
  rcases of_bind_eq_error failed with refused | ⟨written, added, failed⟩
  · exact finishes.refused failure refused
  · obtain ⟨record, found⟩ := finishes.found written added
    rw [found] at failed
    cases failed

theorem error_createCluster {failure : Failure}
    (failed : m.createCluster now cluster = .error failure) :
    failure = .clusterExists ∨ failure = .agentAssigned := by
  rcases of_bind_eq_error failed with refused | ⟨inserted, insertion, failed⟩
  · exact .inl (error_insertCluster refused)
  · exact .inr ((finishes_insertCluster insertion).error failed)

theorem error_updateCluster {failure : Failure}
    (refused : m.updateCluster cluster = .error failure) :
    failure = .clusterMissing ∨ failure = .clusterExists := by
  unfold updateCluster at refused
  split at refused
  next => exact .inl (Except.error.inj refused).symm
  next =>
    split at refused
    next => exact .inr (Except.error.inj refused).symm
    next => cases refused

theorem error_editCluster {failure : Failure} (failed : m.editCluster cluster = .error failure) :
    failure = .clusterMissing ∨ failure = .clusterExists ∨ failure = .agentAssigned := by
  rcases of_bind_eq_error failed with refused | ⟨updated, update, failed⟩
  · exact (error_updateCluster refused).imp_right .inl
  · exact .inr (.inr ((finishes_updateCluster update).error failed))

theorem error_deleteCluster {uid : ClusterUid} {failure : Failure}
    (failed : m.deleteCluster uid = .error failure) : failure = .clusterMissing := by
  unfold deleteCluster at failed
  split at failed
  next => cases failed
  next => exact (Except.error.inj failed).symm

/-- The maps fit together, and no write of a cluster misses the cluster that it has put. -/
structure Coherent (m : Memory) : Prop where
  sound : m.Sound
  inserted : ∀ now cluster written, m.insertCluster now cluster = .ok written →
    written.Finishes cluster.uid cluster.members
  updated : ∀ cluster written, m.updateCluster cluster = .ok written →
    (written.removeMembers cluster.uid).Finishes cluster.uid cluster.members
  created : ∀ now cluster failure, m.createCluster now cluster = .error failure →
    failure = .clusterExists ∨ failure = .agentAssigned
  edited : ∀ cluster failure, m.editCluster cluster = .error failure →
    failure = .clusterMissing ∨ failure = .clusterExists ∨ failure = .agentAssigned

/-- A registry in memory is coherent after any operations on it. -/
theorem coherent_after_operations (steps : List (Instant × Operation)) :
    Coherent (Registry.after steps ({} : Memory)) where
  sound := sound_after steps sound_empty
  inserted _ _ _ := finishes_insertCluster
  updated _ _ := finishes_updateCluster
  created _ _ _ := error_createCluster
  edited _ _ := error_editCluster

end Roster.Memory
