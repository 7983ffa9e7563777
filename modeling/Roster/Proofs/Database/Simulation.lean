import Roster.Proofs.Database.Completion
import Roster.Proofs.Memory.Clusters

/-!
A database does what a registry in memory does.

Inside of a transaction the steps of a write follow the steps of the registry: they succeed and fail
alike, and the tables of the transaction are those of the registry as it is by then. A transaction
around them then follows the whole write, and tells a failure with the outcome of the rollback.

An operation that does not fit fails in a database alone. What comes before its batch follows the
registry all the same, so that the failure can be told from what the registry answers.
-/

namespace Roster.Database

variable {α β : Type} {c : Connection} {m written : Memory}

namespace Action

/-- Inside of any transaction on the tables of the registry, the action comes to the given result,
with the tables of the registry that the result leaves. -/
def Follows (action : Action α) (m : Memory) : Except Failure (α × Memory) → Prop
  | .ok (a, written) => ∀ (c : Connection) (t : Tables), Sees { c with working := some t } m →
      ∃ t', action { c with working := some t } = (.ok a, { c with working := some t' }) ∧
        Sees { c with working := some t' } written
  | .error failure => ∀ (c : Connection) (t : Tables), Sees { c with working := some t } m →
      ∃ t', action { c with working := some t } = (.error failure, { c with working := some t' })

theorem follows_fail (failure : Failure) (m : Memory) :
    (fail failure : Action α).Follows m (.error failure) :=
  fun _ t _ => ⟨t, rfl⟩

theorem Follows.bind_error {first : Action α} {failure : Failure}
    (follows : first.Follows m (.error failure)) (second : α → Action β) :
    (first >>= second).Follows m (.error failure) := by
  intro c t sees
  obtain ⟨t', failed⟩ := follows c t sees
  exact ⟨t', bind_of_error failed second⟩

theorem Follows.bind_ok {first : Action α} {second : α → Action β} {a : α}
    {result : Except Failure (β × Memory)} (follows : first.Follows m (.ok (a, written)))
    (next : (second a).Follows written result) : (first >>= second).Follows m result := by
  cases result with
  | error failure =>
    intro c t sees
    obtain ⟨t', did, seesLater⟩ := follows c t sees
    obtain ⟨t'', failed⟩ := next c t' seesLater
    exact ⟨t'', (bind_of_ok did second).trans failed⟩
  | ok pair =>
    intro c t sees
    obtain ⟨t', did, seesLater⟩ := follows c t sees
    obtain ⟨t'', succeeded, seesLast⟩ := next c t' seesLater
    exact ⟨t'', (bind_of_ok did second).trans succeeded, seesLast⟩

/-- A step without a result is followed by what the registry does after it. -/
theorem Follows.step {first : Action Unit} {second : Unit → Action β}
    {result : Except Failure Memory} {rest : Memory → Except Failure (β × Memory)}
    (follows : first.Follows m (result.map ((), ·)))
    (next : ∀ written, result = .ok written → (second ()).Follows written (rest written)) :
    (first >>= second).Follows m (result >>= rest) := by
  cases result with
  | error failure => exact follows.bind_error second
  | ok written => exact follows.bind_ok (next written rfl)

/-! ## Statements -/

/-- What completes under any texts follows the registry as long as that stays tidy. -/
theorem follows_of_completes {action : Action α} {a : α} (completes : action.Completes m a written)
    (tidy : written.Tidy) : action.Follows m (.ok (a, written)) := by
  intro c t sees
  obtain ⟨t', did, records⟩ := completes c t sees.calm ⟨sees.sound, sees.encoded⟩
  exact ⟨t', did, sees.calm, records.sound, tidy, records.encoded⟩

/-- A value that is there already is the conflict that the registry sees. -/
theorem follows_conflict {s : Statement} {conflict : Failure}
    {change : Bool → Tables → Except Refusal (α × Tables)}
    (refuses : ∀ foreignKeys (n : Numbering) t, n.Encodes m t →
      ∃ table column, change foreignKeys t = .error (.duplicateValue table column)) :
    (runUnique s conflict change).Follows m (.error conflict) := by
  intro c t sees
  obtain ⟨n, encodes⟩ := sees.encoded
  obtain ⟨table, column, refused⟩ := refuses c.foreignKeys n t encodes
  refine ⟨t, ?_⟩
  rw [runUnique, Connection.execute_of_error sees.calm rfl refused]
  rfl

end Action

open Database.Action

/-- The statement of a batch that does not fit that is refused. -/
def Statement.overfull (count : Nat) : Statement :=
  if (insertAgents count).Fits then insertMemberships count else insertAgents count

namespace Transaction

/-! ## Steps -/

theorem silently_error {change : Except Refusal Tables} {refusal : Refusal}
    (refused : change = .error refusal) : silently change = .error refusal := by
  rw [refused]
  rfl

theorem follows_insertCluster (sound : m.Sound) (tidy : m.Tidy) (now : Instant)
    {cluster : Cluster} (fits : cluster.Tidy) :
    (insertCluster now cluster).Follows m ((m.insertCluster now cluster).map ((), ·)) := by
  cases inserted : m.insertCluster now cluster with
  | error failure =>
    rw [Memory.error_insertCluster inserted]
    apply follows_conflict
    intro foreignKeys n t encodes
    have refused := encodes.insertCluster sound foreignKeys now cluster
    rw [inserted] at refused
    obtain ⟨column, refused⟩ := refused
    exact ⟨_, column, silently_error refused⟩
  | ok written =>
    exact follows_of_completes (completes_insertCluster sound inserted)
      (Memory.tidy_insertCluster tidy fits inserted)

/-- An update that finds no row changes nothing, and fails afterwards. -/
theorem follows_updateCluster (sound : m.Sound) (tidy : m.Tidy) {cluster : Cluster}
    (fits : cluster.Tidy) :
    (updateCluster cluster).Follows m ((m.updateCluster cluster).map ((), ·)) := by
  cases updated : m.updateCluster cluster with
  | ok written =>
    exact follows_of_completes (completes_updateCluster sound updated)
      (Memory.tidy_updateCluster tidy fits updated)
  | error failure =>
    rw [Memory.updateCluster] at updated
    cases found : m.clusters.find? cluster.uid with
    | none =>
      rw [found] at updated
      cases updated
      have ran : (Action.runUnique .updateCluster .clusterExists fun _ t =>
          t.updateCluster cluster.uid.text cluster.name.text cluster.domain cluster.manager
            cluster.platform).Completes m 0 m := by
        apply completes_runUnique sound
        intro _ n t encodes
        have closed := encodes.updateCluster_eq sound cluster
        rw [found] at closed
        exact ⟨t, closed, n, encodes⟩
      exact (follows_of_completes ran tidy).bind_ok (follows_fail .clusterMissing m)
    | some old =>
      simp only [found] at updated
      split at updated
      next taken =>
        cases updated
        apply Follows.bind_error
        apply follows_conflict
        intro _ n t encodes
        have closed := encodes.updateCluster_eq sound cluster
        simp only [found, taken, if_true] at closed
        exact ⟨_, _, closed⟩
      next => cases updated

theorem follows_deleteMembers (sound : m.Sound) (tidy : m.Tidy) (uid : ClusterUid) :
    (deleteMembers uid).Follows m (.ok ((), m.removeMembers uid)) :=
  follows_of_completes (completes_deleteMembers sound uid) (Memory.tidy_removeMembers tidy uid)

theorem follows_deleteCluster (sound : m.Sound) (tidy : m.Tidy) {uid : ClusterUid}
    (empty : ∀ entry ∈ m.memberships, entry.2 ≠ uid) :
    (deleteCluster uid).Follows m (if m.clusters.contains uid then
      .ok ((), { m with clusters := m.clusters.remove uid }) else .error .clusterMissing) := by
  cases present : m.clusters.contains uid with
  | true =>
    exact follows_of_completes (completes_deleteCluster sound empty present)
      (Memory.tidy_removeCluster tidy uid)
  | false =>
    have deleted := follows_of_completes (completes_delete sound empty)
      (Memory.tidy_removeCluster tidy uid)
    have none : (m.clusters.filter fun entry => entry.1 = uid).length = 0 := by
      rw [List.length_eq_zero_iff, List.filter_eq_nil_iff]
      exact List.any_eq_false.mp present
    apply deleted.bind_ok
    rw [requireRow, if_pos none]
    exact follows_fail _ _

theorem follows_addMembers (sound : m.Sound) (tidy : m.Tidy) {uid : ClusterUid}
    {agents : List AgentId} (room : (Statement.insertMemberships agents.length).Fits)
    (present : uid ∈ m.clusters.keys)
    (fits : ∀ agent ∈ agents, agent.Tidy) :
    (addMembers uid agents).Follows m ((m.addMembers uid agents).map ((), ·)) := by
  rw [Memory.addMembers_eq present]
  split
  next assignable =>
    exact follows_of_completes (completes_addMembers sound room present assignable)
      (Memory.tidy_withMembers tidy uid fits)
  next taken =>
    have some : agents ≠ [] := by
      rintro rfl
      exact taken ⟨List.nodup_nil, by simp⟩
    have learnedSound := Memory.sound_learn sound agents
    have known : ∀ agent ∈ agents, agent ∈ (Memory.learn agents m.agents).keys :=
      fun agent member => Memory.mem_keys_learn.mpr (.inr member)
    rw [addMembers, if_neg (by simpa using some)]
    apply (follows_of_completes (completes_insertAgents sound (Tables.fits_insertAgents room))
      (Memory.tidy_learn tidy fits)).bind_ok
    apply follows_conflict
    intro _ n t encodes
    have refused := encodes.foldlM_of_not_assignable learnedSound present known taken
    rw [← agents.length_map AgentId.text] at room
    rw [← encodes.insertMemberships room] at refused
    exact ⟨_, _, silently_error refused⟩

/-- A batch that does not fit is refused as a batch of agents, or else as one of memberships, and
then the agents are known. -/
theorem follows_addMembers_of_excess (sound : m.Sound) (tidy : m.Tidy) (uid : ClusterUid)
    {agents : List AgentId} (excess : ¬(Statement.insertMemberships agents.length).Fits)
    (fits : ∀ agent ∈ agents, agent.Tidy) :
    (addMembers uid agents).Follows m
      (.error ((Statement.overfull agents.length).failure .tooManyValues)) := by
  have some : agents ≠ [] := by
    rintro rfl
    exact excess (Nat.zero_le _)
  let texts := agents.map AgentId.text
  have length : texts.length = agents.length := agents.length_map _
  rw [addMembers, if_neg (by simpa using some), Statement.overfull]
  by_cases room : (Statement.insertAgents agents.length).Fits
  · rw [if_pos room]
    apply (follows_of_completes (completes_insertAgents sound room)
      (Memory.tidy_learn tidy fits)).bind_ok
    intro c t sees
    have refused : t.insertMemberships uid.text texts = .error .tooManyValues := by
      rw [← length] at excess
      rw [Tables.insertMemberships, Tables.accept_of_excess excess]
      rfl
    refine ⟨t, ?_⟩
    rw [runUnique, Connection.execute_of_error sees.calm rfl (silently_error refused)]
    rfl
  · rw [if_neg room]
    apply Follows.bind_error
    intro c t sees
    have refused : t.insertAgents texts = .error .tooManyValues := by
      rw [← length] at room
      rw [Tables.insertAgents, Tables.accept_of_excess room]
      rfl
    refine ⟨t, ?_⟩
    rw [run, Connection.execute_of_error sees.calm rfl (silently_error refused)]

theorem follows_loadCluster (uid : ClusterUid) :
    (loadCluster uid).Follows m ((m.findCluster uid).map (·, m)) := by
  cases found : m.findCluster uid with
  | error failure =>
    intro c t sees
    refine ⟨t, ?_⟩
    rw [loadCluster_eq sees, found]
  | ok cluster =>
    intro c t sees
    refine ⟨t, ?_, sees⟩
    rw [loadCluster_eq sees, found]

/-! ## Writes -/

theorem follows_putAgent (sound : m.Sound) (tidy : m.Tidy) {agent : Agent} (fits : agent.id.Tidy) :
    (putAgent agent.id agent.plugin).Follows m (.ok ((), m.putAgent agent)) := by
  apply follows_of_completes (completes_run (Memory.sound_putAgent sound agent) ?_)
    (Memory.tidy_putAgent tidy fits)
  intro _ n t encodes
  obtain ⟨t', changed, encoded⟩ := encodes.upsertAgent sound agent.id agent.plugin
  exact ⟨t', silently_ok changed, encoded⟩

/-- The agent is known by the time at which its number is looked up. -/
theorem follows_putAttestation (sound : m.Sound) (tidy : m.Tidy) {entry : Attestation}
    (fits : entry.Tidy) :
    (putAttestation entry).Follows m (.ok ((), m.putAttestation entry)) := by
  let learned : Memory := { m with agents := m.agents.putNew entry.agent none }
  have learnedSound : learned.Sound := Memory.sound_learnAgent sound entry.agent
  have learnedTidy : learned.Tidy := Memory.tidy_learnAgent tidy fits.agent
  have known : entry.agent ∈ learned.agents.keys := Directory.mem_keys_putNew.mpr (.inr rfl)
  have ran : (Action.run .ensureAgent fun _ t =>
      silently (t.insertAgent entry.agent.text)).Follows m (.ok ((), learned)) := by
    apply follows_of_completes (completes_run learnedSound ?_) learnedTidy
    intro _ n t encodes
    obtain ⟨t', inserted, encoded⟩ := encodes.insertAgent sound entry.agent
    exact ⟨t', silently_ok inserted, encoded⟩
  apply ran.bind_ok
  intro c t sees
  obtain ⟨n, encodes⟩ := sees.encoded
  obtain ⟨t', changed, encoded⟩ := encodes.upsertSelectors learnedSound entry known
  have selected : Action.read .selectAgentId (fun t => t.selectAgentId entry.agent.text)
      { c with working := some t } =
        (.ok (some (n.agent entry.agent)), { c with working := some t }) :=
    read_of_ok sees.calm (encodes.selectAgentId known)
  refine ⟨t', ?_, sees.calm, Memory.sound_putAttestation sound entry,
    Memory.tidy_putAttestation tidy fits, n, encoded⟩
  rw [bind_of_ok selected]
  change Action.run _ (fun _ t => silently (t.upsertSelectors (n.agent entry.agent) entry.plugin
    (Attestation.selectorsCodec.encode entry.selectors))) _ = _
  rw [run, Connection.execute_of_ok sees.calm (silently_ok changed)]

theorem follows_createCluster (sound : m.Sound) (tidy : m.Tidy) (now : Instant)
    {cluster : Cluster} (fits : cluster.Tidy)
    (room : (Statement.insertMemberships cluster.members.length).Fits) :
    Action.Follows (do
      insertCluster now cluster
      addMembers cluster.uid cluster.members
      loadCluster cluster.uid) m (m.createCluster now cluster) := by
  apply (follows_insertCluster sound tidy now fits).step
  intro inserted insertion
  have insertedSound := Memory.sound_insertCluster sound insertion
  have insertedTidy := Memory.tidy_insertCluster tidy fits insertion
  apply (follows_addMembers insertedSound insertedTidy room
    (Memory.present_of_insertCluster insertion) fits.members).step
  intro _ _
  exact follows_loadCluster cluster.uid

theorem follows_editCluster (sound : m.Sound) (tidy : m.Tidy) {cluster : Cluster}
    (fits : cluster.Tidy) (room : (Statement.insertMemberships cluster.members.length).Fits) :
    Action.Follows (do
      updateCluster cluster
      deleteMembers cluster.uid
      addMembers cluster.uid cluster.members
      loadCluster cluster.uid) m (m.editCluster cluster) := by
  apply (follows_updateCluster sound tidy fits).step
  intro updated update
  have updatedSound := Memory.sound_updateCluster sound update
  have updatedTidy := Memory.tidy_updateCluster tidy fits update
  have present : cluster.uid ∈ updated.clusters.keys := Memory.present_of_updateCluster update
  apply (follows_deleteMembers updatedSound updatedTidy cluster.uid).bind_ok
  apply (follows_addMembers (Memory.sound_removeMembers updatedSound cluster.uid)
    (Memory.tidy_removeMembers updatedTidy cluster.uid) room present fits.members).step
  intro _ _
  exact follows_loadCluster cluster.uid

theorem follows_createCluster_of_excess (sound : m.Sound) (tidy : m.Tidy) (now : Instant)
    {cluster : Cluster} (fits : cluster.Tidy)
    (excess : ¬(Statement.insertMemberships cluster.members.length).Fits) :
    Action.Follows (do
      insertCluster now cluster
      addMembers cluster.uid cluster.members
      loadCluster cluster.uid) m (m.insertCluster now cluster >>= fun _ =>
        .error ((Statement.overfull cluster.members.length).failure .tooManyValues)) := by
  apply (follows_insertCluster sound tidy now fits).step
  intro inserted insertion
  have insertedSound := Memory.sound_insertCluster sound insertion
  have insertedTidy := Memory.tidy_insertCluster tidy fits insertion
  exact (follows_addMembers_of_excess insertedSound insertedTidy cluster.uid excess
    fits.members).bind_error _

theorem follows_editCluster_of_excess (sound : m.Sound) (tidy : m.Tidy) {cluster : Cluster}
    (fits : cluster.Tidy) (excess : ¬(Statement.insertMemberships cluster.members.length).Fits) :
    Action.Follows (do
      updateCluster cluster
      deleteMembers cluster.uid
      addMembers cluster.uid cluster.members
      loadCluster cluster.uid) m (m.updateCluster cluster >>= fun _ =>
        .error ((Statement.overfull cluster.members.length).failure .tooManyValues)) := by
  apply (follows_updateCluster sound tidy fits).step
  intro updated update
  have updatedSound := Memory.sound_updateCluster sound update
  have updatedTidy := Memory.tidy_updateCluster tidy fits update
  apply (follows_deleteMembers updatedSound updatedTidy cluster.uid).bind_ok
  exact (follows_addMembers_of_excess (Memory.sound_removeMembers updatedSound cluster.uid)
    (Memory.tidy_removeMembers updatedTidy cluster.uid) cluster.uid excess
    fits.members).bind_error _

theorem follows_deletion (sound : m.Sound) (tidy : m.Tidy) (uid : ClusterUid) :
    Action.Follows (do
      deleteMembers uid
      deleteCluster uid) m ((m.deleteCluster uid).map ((), ·)) := by
  apply (follows_deleteMembers sound tidy uid).bind_ok
  have deleted := follows_deleteCluster (Memory.sound_removeMembers sound uid)
    (Memory.tidy_removeMembers tidy uid) (Memory.removeMembers_empty uid m)
  rw [Memory.deleteCluster]
  cases present : m.clusters.contains uid with
  | true =>
    rw [show (m.removeMembers uid).clusters.contains uid = true from present] at deleted
    exact deleted
  | false =>
    rw [show (m.removeMembers uid).clusters.contains uid = false from present] at deleted
    exact deleted

end Transaction

/-! ## Operations -/

/-- The connection is outside of any transaction, and its database holds the registry. -/
structure Holds (c : Connection) (m : Memory) : Prop where
  idle : c.working = none
  sees : Sees c m

theorem holds_connect (settings : Settings) : Holds (Connection.connect settings) {} where
  idle := rfl
  sees := {
    calm := rfl
    sound := Memory.sound_empty
    tidy := Memory.tidy_empty
    encoded := Numbering.encodes_empty }

namespace Transaction

theorem sees_begun (holds : Holds c m) : Sees { c with working := some c.stored } m := by
  obtain ⟨idle, calm, sound, tidy, encoded⟩ := holds
  rw [Connection.tables, idle] at encoded
  exact ⟨calm, sound, tidy, encoded⟩

/-- A failure is told with the rollback, which leaves the connection as it was. -/
theorem atomically_of_error {body : Action α} {failure : Failure}
    (follows : body.Follows m (.error failure)) (holds : Holds c m) :
    atomically body c = (.error (failure.annotate .succeeded), c) := by
  obtain ⟨t', failed⟩ := follows c c.stored (sees_begun holds)
  have before : { c with working := none } = c := by rw [← holds.idle]
  rw [atomically_eq body holds.idle holds.sees.calm, failed]
  change (Except.error (failure.annotate .succeeded), { c with working := none }) = _
  rw [before]

theorem atomically_of_ok {body : Action α} {a : α} (follows : body.Follows m (.ok (a, written)))
    (holds : Holds c m) :
    (atomically body c).1 = .ok a ∧ Holds (atomically body c).2 written := by
  obtain ⟨t', succeeded, calm, sound, tidy, n, encodes⟩ := follows c c.stored (sees_begun holds)
  have encoded : n.Encodes written t' := encodes
  have done : atomically body c = (.ok a, { c with stored := t', working := none }) := by
    rw [atomically_eq body holds.idle holds.sees.calm, succeeded]
    exact bind_of_ok (commit_eq holds.sees.calm encoded.unbroken) fun _ => Action.done a
  rw [done]
  exact ⟨rfl, rfl, calm, sound, tidy, n, encoded⟩

end Transaction

end Roster.Database

namespace Roster

open Database

/-- What a database reports where the registry in memory has this outcome: the failure of a write
comes with the rollback. -/
def Operation.told (operation : Operation) (outcome : Except Failure Answer) :
    Except Failure Answer :=
  if operation.isWrite then outcome.mapError (·.annotate .succeeded) else outcome

theorem Operation.told_ok (operation : Operation) (answer : Answer) :
    operation.told (.ok answer) = .ok answer := by
  unfold told
  split <;> rfl

theorem Operation.told_error (operation : Operation) (failure : Failure) :
    operation.told (.error failure) =
      .error (if operation.isWrite then failure.annotate .succeeded else failure) := by
  unfold told
  split <;> rfl

/-- What becomes of an operation that does not fit, where it has this outcome with no such limit.
Whether the cluster is there, and whether its uid and its name are free, is seen before the batch is
refused. -/
def Operation.cutShort (operation : Operation) (outcome : Except Failure Answer) :
    Except Failure Answer :=
  match operation with
  | .createCluster cluster | .editCluster cluster =>
    if outcome = .error .clusterExists ∨ outcome = .error .clusterMissing then outcome
    else .error ((Database.Statement.overfull cluster.members.length).failure .tooManyValues)
  | .describeAgents filter =>
    .error ((Database.Statement.selectMetadata filter.agents.length).failure .tooManyValues)
  | .putAgent _ | .listAgents | .findAgent _ | .putAttestation _ | .findAttestation _
  | .listClusters | .deleteCluster _ | .clusterOf _ | .membersOf _ => outcome

namespace Memory

variable {m : Memory} {cluster : Cluster}

/-- What comes of a write of a cluster whose batch is refused, once its other steps are taken. -/
def refusing (m : Memory) (cluster : Cluster) (step : Except Failure Memory) :
    Except Failure Answer × Memory :=
  m.publish Answer.cluster (step >>= fun _ =>
    .error ((Database.Statement.overfull cluster.members.length).failure .tooManyValues))

theorem refusing_insertion (sound : m.Sound) (now : Instant) (cluster : Cluster) :
    m.refusing cluster (m.insertCluster now cluster) =
      ((Operation.createCluster cluster).cutShort (m.perform now (.createCluster cluster)).1, m) := by
  have outcome : (m.perform now (.createCluster cluster)).1 =
      (m.createCluster now cluster).map fun pair => .cluster pair.1 := publish_eq _ _ _
  rw [outcome, createCluster_eq sound, insertCluster]
  split
  next taken => rfl
  next free => split <;> rfl

theorem refusing_update (now : Instant) (cluster : Cluster) :
    m.refusing cluster (m.updateCluster cluster) =
      ((Operation.editCluster cluster).cutShort (m.perform now (.editCluster cluster)).1, m) := by
  have outcome : (m.perform now (.editCluster cluster)).1 =
      (m.editCluster cluster).map fun pair => .cluster pair.1 := publish_eq _ _ _
  rw [outcome, editCluster_eq, updateCluster]
  cases m.clusters.find? cluster.uid with
  | none => rfl
  | some old =>
    change m.refusing cluster (if _ then _ else _) =
      (Operation.cutShort _ (Except.map _ (if _ then _ else if _ then _ else _)), m)
    split
    next taken => rfl
    next free => split <;> rfl

end Memory

namespace Database.Store

variable {α : Type} {c : Connection} {m : Memory}

/-- The action does to the database what becomes of the registry, and reports what it should. -/
structure Answers (action : Action Answer) (c : Connection) (outcome : Except Failure Answer)
    (written : Memory) : Prop where
  outcome : (action c).1 = outcome
  holds : Holds (action c).2 written

theorem answers_read (holds : Holds c m) {action : Action α} {result : Except Failure α}
    (answer : α → Answer) (read : action c = (result, c)) :
    Answers (answering answer action) c (result.map answer) m := by
  constructor <;> rw [answering_eq, read]
  exact holds

theorem answers_write (holds : Holds c m) {body : Action α}
    {result : Except Failure (α × Memory)} (answer : α → Answer)
    (follows : body.Follows m result) :
    Answers (answering answer (Transaction.atomically body)) c
      ((m.publish answer result).1.mapError (·.annotate .succeeded))
      (m.publish answer result).2 := by
  cases result with
  | error failure =>
    have failed := Transaction.atomically_of_error follows holds
    constructor <;> rw [answering_eq, failed]
    · rfl
    · exact holds
  | ok pair =>
    obtain ⟨succeeded, kept⟩ := Transaction.atomically_of_ok follows holds
    constructor <;> rw [answering_eq]
    · rw [succeeded]
      rfl
    · exact kept

/-- An operation on tidy values comes to what it comes to in memory, and leaves a database that
holds the registry in memory as it is afterwards. -/
theorem perform_answers (holds : Holds c m) (now : Instant) {operation : Operation}
    (fits : operation.Tidy) (room : operation.Fits) :
    Answers (perform now operation) c (operation.told (m.perform now operation).1)
      (m.perform now operation).2 := by
  obtain ⟨_, sound, tidy, _⟩ := holds.sees
  cases operation with
  | putAgent agent =>
    exact answers_write holds (fun () => .done) (Transaction.follows_putAgent sound tidy fits)
  | putAttestation entry =>
    exact answers_write holds (fun () => .done)
      (Transaction.follows_putAttestation sound tidy fits)
  | createCluster cluster =>
    exact answers_write holds .cluster (Transaction.follows_createCluster sound tidy now fits room)
  | editCluster cluster =>
    exact answers_write holds .cluster (Transaction.follows_editCluster sound tidy fits room)
  | deleteCluster uid =>
    exact answers_write holds (fun () => .done) (Transaction.follows_deletion sound tidy uid)
  | listAgents => exact answers_read holds .agents (listAgents_eq holds.sees)
  | findAgent agent => exact answers_read holds .agent (findAgent_eq holds.sees.finds agent)
  | findAttestation agent =>
    exact answers_read holds .attestation (findAttestation_eq holds.sees.finds tidy.attestations agent)
  | listClusters => exact answers_read holds .clusters (listClusters_eq holds.sees)
  | clusterOf agent => exact answers_read holds .clusterName (clusterOf_eq holds.sees agent)
  | membersOf uid => exact answers_read holds .members (membersOf_eq holds.sees uid)
  | describeAgents filter =>
    exact answers_read holds .agents (describeAgents_eq holds.sees room)

/-- An operation on tidy values that does not fit leaves the database alone. -/
theorem perform_answers_of_excess (holds : Holds c m) (now : Instant) {operation : Operation}
    (fits : operation.Tidy) (excess : ¬operation.Fits) :
    Answers (perform now operation) c
      (operation.told (operation.cutShort (m.perform now operation).1)) m := by
  obtain ⟨_, sound, tidy, _⟩ := holds.sees
  cases operation with
  | createCluster cluster =>
    have follows := Transaction.follows_createCluster_of_excess sound tidy now fits excess
    have answers := answers_write holds .cluster follows
    have refused := Memory.refusing_insertion sound now cluster
    rw [Memory.refusing] at refused
    rw [refused] at answers
    exact answers
  | editCluster cluster =>
    have follows := Transaction.follows_editCluster_of_excess sound tidy fits excess
    have answers := answers_write holds .cluster follows
    have refused := Memory.refusing_update (m := m) now cluster
    rw [Memory.refusing] at refused
    rw [refused] at answers
    exact answers
  | describeAgents filter =>
    exact answers_read holds .agents (describeAgents_of_excess holds.sees.calm excess)
  | putAgent | listAgents | findAgent | putAttestation | findAttestation | listClusters
  | deleteCluster | clusterOf | membersOf => exact absurd trivial excess

/-- The registry that a database holds after some operations is the one in memory after those of
them that fit. -/
theorem holds_after (settings : Settings) (steps : List (Instant × Operation))
    (tidy : ∀ step ∈ steps, step.2.Tidy) :
    Holds (Registry.after steps (Connection.connect settings))
      (Registry.after (steps.filter fun step => step.2.Fits) ({} : Memory)) := by
  have opened := holds_connect settings
  revert opened
  generalize Connection.connect settings = c
  generalize ({} : Memory) = m
  intro holds
  induction steps generalizing c m with
  | nil => exact holds
  | cons step rest ih =>
    have fits := tidy step List.mem_cons_self
    have others := fun later member => tidy later (List.mem_cons_of_mem _ member)
    by_cases room : step.2.Fits
    · rw [List.filter_cons_of_pos (by simpa using room)]
      exact ih others _ _ (perform_answers holds step.1 fits room).holds
    · rw [List.filter_cons_of_neg (by simpa using room)]
      exact ih others _ _ (perform_answers_of_excess holds step.1 fits room).holds

end Database.Store

end Roster
