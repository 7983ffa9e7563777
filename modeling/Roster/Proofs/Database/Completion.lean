import Roster.Proofs.Database.Achieved

/-!
Writes that nothing stops.

Where no mishap is to come, a write of a cluster succeeds in a database if it does in memory and
nothing is blank that has to be read back. This needs no more of the texts. A step is said to
complete if it comes to its result inside of any transaction on the tables of the registry.
-/

namespace Roster.Database

variable {α β : Type} {c : Connection} {m written : Memory}

namespace Action

/-- Inside of any transaction on tables that hold the registry, the action comes to this result and
leaves tables that hold the other one. -/
def Completes (action : Action α) (m : Memory) (a : α) (written : Memory) : Prop :=
  ∀ (c : Connection) (t : Tables), c.mishaps = [] → t.Records m →
    ∃ t', action { c with working := some t } = (.ok a, { c with working := some t' }) ∧
      t'.Records written

theorem completes_done (a : α) (m : Memory) : (done a).Completes m a m :=
  fun _ t _ records => ⟨t, rfl, records⟩

theorem Completes.bind {first : Action α} {second : α → Action β} {a : α} {b : β} {last : Memory}
    (completes : first.Completes m a written) (next : (second a).Completes written b last) :
    (first >>= second).Completes m b last := by
  intro c t calm records
  obtain ⟨t', did, recorded⟩ := completes c t calm records
  obtain ⟨t'', finished, recordedLast⟩ := next c t' calm recorded
  exact ⟨t'', (bind_of_ok did second).trans finished, recordedLast⟩

/-- A statement completes if its change of the tables carries it out. -/
theorem completes_run {s : Statement} {change : Bool → Tables → Except Refusal (α × Tables)} {a : α}
    (sound : written.Sound)
    (changes : ∀ foreignKeys (n : Numbering) t, n.Encodes m t →
      ∃ t', change foreignKeys t = .ok (a, t') ∧ ∃ n' : Numbering, n'.Encodes written t') :
    (run s change).Completes m a written := by
  intro c t calm records
  obtain ⟨n, encodes⟩ := records.encoded
  obtain ⟨t', changed, encoded⟩ := changes c.foreignKeys n t encodes
  refine ⟨t', ?_, sound, encoded⟩
  rw [run, Connection.execute_of_ok calm changed]

theorem completes_runUnique {s : Statement} {conflict : Failure}
    {change : Bool → Tables → Except Refusal (α × Tables)} {a : α} (sound : written.Sound)
    (changes : ∀ foreignKeys (n : Numbering) t, n.Encodes m t →
      ∃ t', change foreignKeys t = .ok (a, t') ∧ ∃ n' : Numbering, n'.Encodes written t') :
    (runUnique s conflict change).Completes m a written := by
  intro c t calm records
  obtain ⟨n, encodes⟩ := records.encoded
  obtain ⟨t', changed, encoded⟩ := changes c.foreignKeys n t encodes
  refine ⟨t', ?_, sound, encoded⟩
  rw [runUnique, Connection.execute_of_ok calm changed]

end Action

open Database.Action

namespace Transaction

variable {now : Instant} {cluster record : Cluster} {uid : ClusterUid}

theorem silently_ok {change : Except Refusal Tables} {t : Tables} (changed : change = .ok t) :
    silently change = .ok ((), t) := by
  rw [changed]
  rfl

/-! ## Steps -/

theorem completes_insertCluster (sound : m.Sound)
    (inserted : m.insertCluster now cluster = .ok written) :
    (insertCluster now cluster).Completes m () written := by
  apply completes_runUnique (Memory.sound_insertCluster sound inserted)
  intro foreignKeys n t encodes
  have changed := encodes.insertCluster sound foreignKeys now cluster
  rw [inserted] at changed
  obtain ⟨t', changed, encoded⟩ := changed
  exact ⟨t', silently_ok changed, encoded⟩

theorem completes_updateCluster (sound : m.Sound)
    (updated : m.updateCluster cluster = .ok written) :
    (updateCluster cluster).Completes m () written := by
  have writtenSound := Memory.sound_updateCluster sound updated
  obtain ⟨old, found, free, rfl⟩ := Memory.of_updateCluster updated
  have untaken : m.nameTaken cluster.name (some cluster.uid) = false := by
    rw [← Bool.not_eq_true, Memory.nameTaken_iff]
    intro ⟨entry, member, named, other⟩
    exact free entry member (fun same => other (congrArg some same)) named
  have ran : (Action.runUnique .updateCluster .clusterExists fun _ t =>
      t.updateCluster cluster.uid.text cluster.name.text cluster.domain cluster.manager
        cluster.platform).Completes m 1 { m with
          clusters := m.clusters.put cluster.uid (Memory.editedCluster cluster old) } := by
    apply completes_runUnique writtenSound
    intro _ n t encodes
    have closed := encodes.updateCluster_eq sound cluster
    simp only [found, untaken, Bool.false_eq_true, if_false] at closed
    exact ⟨_, closed, n, encodes.putCluster (Directory.mem_keys_of_find? found) _⟩
  exact ran.bind (completes_done () _)

theorem completes_deleteMembers (sound : m.Sound) (uid : ClusterUid) :
    (deleteMembers uid).Completes m () (m.removeMembers uid) := by
  apply completes_run (Memory.sound_removeMembers sound uid)
  intro foreignKeys n t encodes
  obtain ⟨t', deleted, encoded⟩ := encodes.deleteMembers sound foreignKeys uid
  exact ⟨t', silently_ok deleted, n, encoded⟩

/-- As many rows go as there are clusters with the uid. -/
theorem completes_delete (sound : m.Sound) (empty : ∀ entry ∈ m.memberships, entry.2 ≠ uid) :
    (Action.run .deleteCluster fun foreignKeys t =>
      t.deleteCluster foreignKeys uid.text).Completes m
        (m.clusters.filter fun entry => entry.1 = uid).length
        { m with clusters := m.clusters.remove uid } := by
  apply completes_run (Memory.sound_removeCluster sound empty)
  intro foreignKeys n t encodes
  obtain ⟨t', changed, encoded⟩ := encodes.deleteCluster sound foreignKeys empty
  exact ⟨t', changed, n, encoded⟩

theorem completes_deleteCluster (sound : m.Sound) (empty : ∀ entry ∈ m.memberships, entry.2 ≠ uid)
    (present : m.clusters.contains uid = true) :
    (deleteCluster uid).Completes m () { m with clusters := m.clusters.remove uid } := by
  apply (completes_delete sound empty).bind
  have some : (m.clusters.filter fun entry => entry.1 = uid).length ≠ 0 := by
    rw [ne_eq, List.length_eq_zero_iff, List.filter_eq_nil_iff]
    intro none
    exact Bool.false_ne_true ((List.any_eq_false.mpr none).symm.trans present)
  rw [requireRow, if_neg some]
  exact completes_done () _

theorem completes_insertAgents (sound : m.Sound) {agents : List AgentId}
    (room : (Statement.insertAgents agents.length).Fits) :
    (Action.run (.insertAgents agents.length) fun _ t =>
      silently (t.insertAgents (agents.map AgentId.text))).Completes m ()
        { m with agents := Memory.learn agents m.agents } := by
  apply completes_run (Memory.sound_learn sound agents)
  intro _ n t encodes
  obtain ⟨t', inserted, encoded⟩ := encodes.insertAgents sound room
  exact ⟨t', silently_ok inserted, encoded⟩

/-- The agents of the batch are known by the time at which they are made members. -/
theorem completes_addMembers (sound : m.Sound) {agents : List AgentId}
    (room : (Statement.insertMemberships agents.length).Fits) (present : uid ∈ m.clusters.keys)
    (assignable : Memory.Assignable agents m.memberships) :
    (addMembers uid agents).Completes m () (m.withMembers uid agents) := by
  rw [addMembers]
  split
  next none =>
    have unchanged : m.withMembers uid agents = m := by
      rw [List.isEmpty_iff.mp none]
      simp [Memory.withMembers, Memory.learn]
    rw [unchanged]
    exact completes_done () m
  next =>
    have known : ∀ agent ∈ agents, agent ∈ (Memory.learn agents m.agents).keys :=
      fun agent member => Memory.mem_keys_learn.mpr (.inr member)
    apply (completes_insertAgents sound (Tables.fits_insertAgents room)).bind
    apply completes_runUnique (Memory.sound_withMembers sound present assignable)
    intro _ n t encodes
    obtain ⟨t', inserted, encoded⟩ := encodes.foldlM_of_assignable
      (Memory.sound_learn sound agents) present known assignable
    rw [← agents.length_map AgentId.text] at room
    rw [← encodes.insertMemberships room] at inserted
    exact ⟨t', silently_ok inserted, n, encoded⟩

theorem completes_addition (sound : m.Sound) {agents : List AgentId}
    (room : (Statement.insertMemberships agents.length).Fits)
    (present : uid ∈ m.clusters.keys) (added : m.addMembers uid agents = .ok written) :
    (addMembers uid agents).Completes m () written := by
  rw [Memory.addMembers_eq present] at added
  split at added
  next assignable => cases added; exact completes_addMembers sound room present assignable
  next => cases added

/-- A record is read back without the white space at the ends of its texts. -/
theorem completes_loadCluster (legible : m.Legible) (found : m.findCluster uid = .ok record) :
    (loadCluster uid).Completes m record.trimmed m := by
  intro c t calm records
  have finds : Finds { c with working := some t } m :=
    ⟨calm, records.sound, legible, records.encoded⟩
  refine ⟨t, ?_, records⟩
  rw [loadCluster_trimmed finds, found]
  rfl

/-! ## Writes -/

theorem completes_creation (sound : m.Sound) (legible : written.Legible)
    (room : (Statement.insertMemberships cluster.members.length).Fits)
    (created : m.createCluster now cluster = .ok (record, written)) :
    Action.Completes (do
      insertCluster now cluster
      addMembers cluster.uid cluster.members
      loadCluster cluster.uid) m record.trimmed written := by
  obtain ⟨inserted, insertion, addition, found⟩ := Memory.of_createCluster created
  apply (completes_insertCluster sound insertion).bind
  apply (completes_addition (Memory.sound_insertCluster sound insertion) room
    (Memory.present_of_insertCluster insertion) addition).bind
  exact completes_loadCluster legible found

theorem completes_edit (sound : m.Sound) (legible : written.Legible)
    (room : (Statement.insertMemberships cluster.members.length).Fits)
    (edited : m.editCluster cluster = .ok (record, written)) :
    Action.Completes (do
      updateCluster cluster
      deleteMembers cluster.uid
      addMembers cluster.uid cluster.members
      loadCluster cluster.uid) m record.trimmed written := by
  obtain ⟨updated, update, addition, found⟩ := Memory.of_editCluster edited
  have updatedSound := Memory.sound_updateCluster sound update
  have present : cluster.uid ∈ updated.clusters.keys := Memory.present_of_updateCluster update
  apply (completes_updateCluster sound update).bind
  apply (completes_deleteMembers updatedSound cluster.uid).bind
  apply (completes_addition (Memory.sound_removeMembers updatedSound cluster.uid) room present
    addition).bind
  exact completes_loadCluster legible found

theorem completes_deletion (sound : m.Sound) (deleted : m.deleteCluster uid = .ok written) :
    Action.Completes (do
      deleteMembers uid
      deleteCluster uid) m () written := by
  obtain ⟨present, rfl⟩ := Memory.of_deleteCluster deleted
  apply (completes_deleteMembers sound uid).bind
  exact completes_deleteCluster (Memory.sound_removeMembers sound uid)
    (Memory.removeMembers_empty uid m) (Directory.contains_iff.mpr present)

/-! ## Whole transactions -/

theorem atomically_of_completes {body : Action α} {a : α} (completes : body.Completes m a written)
    (backs : Backs c m) (calm : c.mishaps = []) :
    ∃ t, atomically body c = (.ok a, { c with stored := t }) ∧ t.Records written := by
  obtain ⟨t, succeeded, recorded⟩ := completes c c.stored calm backs.records
  obtain ⟨n, encodes⟩ := recorded.encoded
  have idle : ({ c with stored := t, working := none } : Connection) = { c with stored := t } := by
    rw [← backs.idle]
  refine ⟨t, ?_, recorded⟩
  rw [atomically_eq body backs.idle calm, succeeded, ← idle]
  exact bind_of_ok (commit_eq calm encodes.unbroken) fun _ => Action.done a

end Transaction

namespace Store

variable {cluster record : Cluster}

/-- What a connection is like on which a write has stored these tables. -/
def Leaves (outcome : Except Failure Answer × Connection) (c : Connection) (answer : Answer)
    (written : Memory) : Prop :=
  ∃ t, outcome = (.ok answer, { c with stored := t }) ∧ t.Records written

theorem leaves_of_completes {body : Action α} {a : α} (answer : α → Answer)
    (completes : body.Completes m a written) (backs : Backs c m) (calm : c.mishaps = []) :
    Leaves (answering answer (Transaction.atomically body) c) c (answer a) written := by
  obtain ⟨t, did, recorded⟩ := Transaction.atomically_of_completes completes backs calm
  refine ⟨t, ?_, recorded⟩
  rw [answering_eq, did]
  rfl

variable (backs : Backs c m) (calm : c.mishaps = []) (now : Instant)
include backs calm

theorem leaves_storing (operation : Operation) (legible : written.Legible)
    (room : operation.Fits) (stores : operation.cluster? = some cluster)
    (did : m.perform now operation = (.ok (.cluster record), written)) :
    Leaves (perform now operation c) c (.cluster record.trimmed) written := by
  cases operation with
  | createCluster drafted =>
    cases stores
    obtain ⟨_, created, same⟩ := Memory.of_publish_eq did
    cases same
    exact leaves_of_completes .cluster
      (Transaction.completes_creation backs.records.sound legible room created) backs calm
  | editCluster drafted =>
    cases stores
    obtain ⟨_, edited, same⟩ := Memory.of_publish_eq did
    cases same
    exact leaves_of_completes .cluster
      (Transaction.completes_edit backs.records.sound legible room edited) backs calm
  | putAgent | putAttestation | deleteCluster | listAgents | findAgent | findAttestation
  | listClusters | clusterOf | membersOf | describeAgents => cases stores

theorem leaves_deletion {uid : ClusterUid} (deleted : m.deleteCluster uid = .ok written) :
    Leaves (perform now (.deleteCluster uid) c) c .done written := by
  have completes := Transaction.completes_deletion backs.records.sound deleted
  exact leaves_of_completes (fun _ => Answer.done) completes backs calm

end Store

end Roster.Database
