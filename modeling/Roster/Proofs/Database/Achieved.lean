import Roster.Proofs.Database.Ending
import Roster.Proofs.Database.Reading
import Roster.Proofs.Database.Writing

/-!
What a write has done if it succeeded.

Here any texts may have been given, and mishaps may befall the statements. A write that succeeds all
the same did to the tables what it does to a registry in memory. A write of a cluster reads the
record back before it commits, so it succeeds only if nothing that was to be read is blank. Its
answer is the record as it was read.
-/

namespace Roster

/-- As many values can be bound as the batch or the filter of the operation takes. -/
def Operation.Fits : Operation → Prop
  | .createCluster cluster | .editCluster cluster =>
    (Database.Statement.insertMemberships cluster.members.length).Fits
  | .describeAgents filter => (Database.Statement.selectMetadata filter.agents.length).Fits
  | .putAgent _ | .listAgents | .findAgent _ | .putAttestation _ | .findAttestation _
  | .listClusters | .deleteCluster _ | .clusterOf _ | .membersOf _ => True

instance : DecidablePred Operation.Fits
  | .createCluster cluster | .editCluster cluster =>
    inferInstanceAs (Decidable (Database.Statement.insertMemberships cluster.members.length).Fits)
  | .describeAgents filter =>
    inferInstanceAs (Decidable (Database.Statement.selectMetadata filter.agents.length).Fits)
  | .putAgent _ | .listAgents | .findAgent _ | .putAttestation _ | .findAttestation _
  | .listClusters | .deleteCluster _ | .clusterOf _ | .membersOf _ => .isTrue trivial

namespace Database

/-- The tables hold a registry. -/
structure Tables.Records (t : Tables) (m : Memory) : Prop where
  sound : m.Sound
  encoded : ∃ n : Numbering, n.Encodes m t

theorem Tables.records_empty : Records {} {} :=
  ⟨Memory.sound_empty, Numbering.encodes_empty⟩

variable {α β : Type} {c c' : Connection} {m : Memory}

namespace Action

theorem of_bind {first : Action α} {second : α → Action β} {b : β} {last : Connection}
    (did : (first >>= second) c = (.ok b, last)) :
    ∃ a later, first c = (.ok a, later) ∧ second a later = (.ok b, last) := by
  change andThen first second c = _ at did
  unfold andThen at did
  split at did
  next a later found => exact ⟨a, later, found, did⟩
  next => cases did

theorem of_lift {result : Except Failure α} {a : α} (did : lift result c = (.ok a, c')) :
    result = .ok a ∧ c' = c := by
  cases result with
  | error failure => cases did
  | ok told => cases did; exact ⟨rfl, rfl⟩

/-- A statement that reads leaves the tables as they are. -/
theorem tables_of_read {s : Statement} {query : Tables → Except Refusal α} {a : α}
    (told : read s query c = (.ok a, c')) : c'.tables = c.tables := by
  have stored := (readsOnly_read s query).stored c
  have working := c.select_working query a
  unfold read at told stored
  split at told
  next found =>
    cases told
    rw [found] at stored working
    rw [Connection.tables, working rfl, stored, Connection.tables]
  next => cases told

/-- Where the action succeeds inside of a transaction whose tables hold the registry, they hold
another one afterwards, which is an outcome of the action. -/
def Achieves (action : Action α) (m : Memory) (outcome : α → Memory → Prop) : Prop :=
  ∀ (c c' : Connection) (a : α), c.working.isSome → c.tables.Records m → action c = (.ok a, c') →
    ∃ written, outcome a written ∧ c'.tables.Records written

theorem achieves_done (a : α) (m : Memory) :
    (done a).Achieves m fun told written => told = a ∧ written = m := by
  intro c c' told _ records did
  cases did
  exact ⟨m, ⟨rfl, rfl⟩, records⟩

theorem Achieves.bind {first : Action α} {second : α → Action β}
    {between : α → Memory → Prop} {outcome : β → Memory → Prop} (confined : first.Confined)
    (achieves : first.Achieves m between)
    (next : ∀ a written, written.Sound → between a written →
      (second a).Achieves written outcome) :
    (first >>= second).Achieves m outcome := by
  intro c last b inside records did
  obtain ⟨a, later, succeeded, rest⟩ := of_bind did
  obtain ⟨written, middle, recorded⟩ := achieves c later a inside records succeeded
  have stillInside : later.working.isSome := by
    have kept := confined.inside c a inside
    rw [succeeded] at kept
    exact kept rfl
  exact next a written recorded.sound middle later last b stillInside recorded rest

theorem Achieves.imp {action : Action α} {outcome wider : α → Memory → Prop}
    (achieves : action.Achieves m outcome)
    (widens : ∀ a written, outcome a written → wider a written) : action.Achieves m wider := by
  intro c c' a inside records did
  obtain ⟨written, came, recorded⟩ := achieves c c' a inside records did
  exact ⟨written, widens a written came, recorded⟩

variable {outcome : α → Memory → Prop}

theorem achieves_run {s : Statement} {change : Bool → Tables → Except Refusal (α × Tables)}
    (changes : ∀ foreignKeys t a t', t.Records m → change foreignKeys t = .ok (a, t') →
      ∃ written, outcome a written ∧ t'.Records written) : (run s change).Achieves m outcome :=
  fun _ _ _ _ records did => changes _ _ _ _ records (of_run did)

theorem achieves_runUnique {s : Statement} {conflict : Failure}
    {change : Bool → Tables → Except Refusal (α × Tables)}
    (changes : ∀ foreignKeys t a t', t.Records m → change foreignKeys t = .ok (a, t') →
      ∃ written, outcome a written ∧ t'.Records written) :
    (runUnique s conflict change).Achieves m outcome :=
  fun _ _ _ _ records did => changes _ _ _ _ records (of_runUnique did)

end Action

open Database.Action

namespace Transaction

/-! ## Steps -/

theorem of_silently {change : Except Refusal Tables} {t : Tables}
    (changed : silently change = .ok ((), t)) : change = .ok t := by
  obtain ⟨_, did, same⟩ := of_map_eq_ok changed
  cases same
  exact did

theorem achieves_insertCluster (m : Memory) (now : Instant) (cluster : Cluster) :
    (insertCluster now cluster).Achieves m fun _ written =>
      m.insertCluster now cluster = .ok written := by
  apply achieves_runUnique
  rintro foreignKeys t ⟨⟩ t' ⟨sound, n, encodes⟩ changed
  have expected := encodes.insertCluster sound foreignKeys now cluster
  rw [Numbering.Encodes.columns, of_silently changed] at expected
  cases inserted : m.insertCluster now cluster with
  | error failure =>
    rw [inserted] at expected
    obtain ⟨_, refused⟩ := expected
    cases refused
  | ok written =>
    rw [inserted] at expected
    obtain ⟨_, same, encoded⟩ := expected
    cases same
    exact ⟨written, rfl, Memory.sound_insertCluster sound inserted, encoded⟩

theorem achieves_requireRow (m : Memory) (count : Nat) :
    (requireRow count).Achieves m fun _ written => count ≠ 0 ∧ written = m := by
  intro c c' _ _ records did
  unfold requireRow at did
  split at did
  next => cases did
  next found => cases did; exact ⟨m, ⟨found, rfl⟩, records⟩

/-- An update of no row is found out afterwards. -/
theorem achieves_updateCluster (m : Memory) (cluster : Cluster) :
    (updateCluster cluster).Achieves m fun _ written => m.updateCluster cluster = .ok written := by
  have ran : (Action.runUnique .updateCluster .clusterExists fun _ t =>
      t.updateCluster cluster.uid.text cluster.name.text cluster.domain cluster.manager
        cluster.platform).Achieves m fun count written =>
          count ≠ 0 → m.updateCluster cluster = .ok written := by
    apply achieves_runUnique
    rintro _ t count t' ⟨sound, n, encodes⟩ changed
    rw [encodes.updateCluster_eq sound cluster] at changed
    cases found : m.clusters.find? cluster.uid with
    | none =>
      rw [found] at changed
      cases changed
      exact ⟨m, fun some => absurd rfl some, sound, n, encodes⟩
    | some old =>
      have present := Directory.mem_keys_of_find? found
      cases taken : m.nameTaken cluster.name (some cluster.uid) with
      | true => simp only [found, taken] at changed; cases changed
      | false =>
        have updated : m.updateCluster cluster = .ok { m with
            clusters := m.clusters.put cluster.uid (Memory.editedCluster cluster old) } := by
          rw [Memory.updateCluster, found]
          simp only [taken]
          rfl
        simp only [found, taken] at changed
        cases changed
        exact ⟨_, fun _ => updated, Memory.sound_updateCluster sound updated, n,
          encodes.putCluster present _⟩
  apply Achieves.bind (confined_runUnique _ _ _) ran
  intro count written _ updated
  apply (achieves_requireRow written count).imp
  rintro _ _ ⟨some, rfl⟩
  exact updated some

theorem achieves_deleteMembers (m : Memory) (uid : ClusterUid) :
    (deleteMembers uid).Achieves m fun _ written => written = m.removeMembers uid := by
  apply achieves_run
  rintro foreignKeys t ⟨⟩ t' ⟨sound, n, encodes⟩ changed
  obtain ⟨_, deleted, encoded⟩ := encodes.deleteMembers sound foreignKeys uid
  rw [of_silently changed] at deleted
  cases deleted
  exact ⟨_, rfl, Memory.sound_removeMembers sound uid, n, encoded⟩

theorem achieves_deleteCluster {uid : ClusterUid} (empty : ∀ entry ∈ m.memberships, entry.2 ≠ uid) :
    (deleteCluster uid).Achieves m fun _ written =>
      m.clusters.contains uid = true ∧ written = { m with clusters := m.clusters.remove uid } := by
  have ran : (Action.run .deleteCluster fun foreignKeys t =>
      t.deleteCluster foreignKeys uid.text).Achieves m fun count written =>
        (count ≠ 0 → m.clusters.contains uid = true) ∧
          written = { m with clusters := m.clusters.remove uid } := by
    apply achieves_run
    rintro foreignKeys t count t' ⟨sound, n, encodes⟩ changed
    obtain ⟨_, deleted, encoded⟩ := encodes.deleteCluster sound foreignKeys empty
    rw [changed] at deleted
    cases deleted
    refine ⟨_, ⟨fun some => ?_, rfl⟩, Memory.sound_removeCluster sound empty, n, encoded⟩
    rw [ne_eq, List.length_eq_zero_iff, List.filter_eq_nil_iff] at some
    rw [← Bool.not_eq_false, Directory.contains, List.any_eq_false]
    exact some
  apply Achieves.bind (confined_run _ _) ran
  rintro count written _ ⟨present, rfl⟩
  apply (achieves_requireRow _ count).imp
  rintro _ _ ⟨some, rfl⟩
  exact ⟨present some, rfl⟩

/-- An empty batch fits, and another one only succeeds if its memberships do. -/
theorem fits_of_addMembers {uid : ClusterUid} {agents : List AgentId}
    (did : addMembers uid agents c = (.ok (), c')) :
    (Statement.insertMemberships agents.length).Fits := by
  unfold addMembers at did
  split at did
  next none =>
    rw [List.isEmpty_iff.mp none]
    exact Nat.zero_le _
  next =>
    obtain ⟨_, _, _, rest⟩ := of_bind did
    have room := Tables.fits_of_insertMemberships (of_silently (of_runUnique rest))
    rw [List.length_map] at room
    exact room

theorem achieves_addMembers (sound : m.Sound) {uid : ClusterUid}
    (present : uid ∈ m.clusters.keys) (agents : List AgentId) :
    (addMembers uid agents).Achieves m fun _ written => m.addMembers uid agents = .ok written := by
  unfold addMembers
  split
  next none =>
    apply (achieves_done () m).imp
    rintro _ _ ⟨_, rfl⟩
    rw [Memory.addMembers, if_pos none]
  next =>
    have ran : (Action.run (.insertAgents agents.length) fun _ t =>
        silently (t.insertAgents (agents.map AgentId.text))).Achieves m fun _ written =>
          written = { m with agents := Memory.learn agents m.agents } := by
      apply achieves_run
      rintro _ t ⟨⟩ t' ⟨sound, n, encodes⟩ changed
      have learned := of_silently changed
      have room := Tables.fits_of_insertAgents learned
      rw [List.length_map] at room
      obtain ⟨_, inserted, encoded⟩ := encodes.insertAgents sound room
      rw [learned] at inserted
      cases inserted
      exact ⟨_, rfl, Memory.sound_learn sound agents, encoded⟩
    apply Achieves.bind (confined_run _ _) ran
    rintro _ _ learnedSound rfl
    have known : ∀ agent ∈ agents, agent ∈ (Memory.learn agents m.agents).keys :=
      fun agent member => Memory.mem_keys_learn.mpr (.inr member)
    apply achieves_runUnique
    rintro _ t ⟨⟩ t' ⟨_, n, encodes⟩ changed
    have inserted := of_silently changed
    rw [encodes.insertMemberships (Tables.fits_of_insertMemberships inserted)] at inserted
    rw [Memory.addMembers_eq present]
    split
    next assignable =>
      obtain ⟨_, added, encoded⟩ :=
        encodes.foldlM_of_assignable learnedSound present known assignable
      rw [inserted] at added
      cases added
      exact ⟨_, rfl, Memory.sound_withMembers sound present assignable, n, encoded⟩
    next taken =>
      rw [encodes.foldlM_of_not_assignable learnedSound present known taken] at inserted
      cases inserted

/-- A record is loaded only if it can be read. -/
theorem achieves_loadCluster (m : Memory) (uid : ClusterUid) :
    (loadCluster uid).Achieves m fun told written =>
      written = m ∧ ∃ record, m.findCluster uid = .ok record ∧ record.Legible ∧
        told = record.trimmed := by
  rintro c c' told _ ⟨sound, n, encodes⟩ did
  obtain ⟨row, first, selected, rest⟩ := of_bind did
  have sameFirst := tables_of_read selected
  have found := of_read selected
  rw [sameFirst, encodes.selectCluster] at found
  cases stored : m.clusters.find? uid with
  | none =>
    rw [stored] at found
    cases found
    cases rest
  | some cluster =>
    have present := Directory.mem_keys_of_find? stored
    rw [stored] at found
    cases found
    obtain ⟨spiffeids, second, membersSelected, lifted⟩ := of_bind rest
    have sameSecond := (tables_of_read membersSelected).trans sameFirst
    have members := of_read membersSelected
    rw [sameSecond] at members
    cases members.symm.trans (encodes.selectClusterMembers sound present)
    obtain ⟨read, rfl⟩ := of_lift lifted
    obtain ⟨parsed, checked, assembled⟩ := of_bind_eq_ok read
    obtain ⟨rfl, legible⟩ := of_parseMembers checked
    obtain ⟨uidLegible, nameLegible, rfl⟩ := Numbering.of_toCluster assembled
    refine ⟨m, ⟨rfl, m.toCluster uid cluster, ?_, ⟨uidLegible, nameLegible, legible⟩, rfl⟩,
      sound, n, sameSecond ▸ encodes⟩
    rw [Memory.findCluster, stored]

theorem achieves_putAgent (m : Memory) (agent : Agent) :
    (putAgent agent.id agent.plugin).Achieves m fun _ written => written = m.putAgent agent := by
  apply achieves_run
  rintro _ t ⟨⟩ t' ⟨sound, n, encodes⟩ changed
  obtain ⟨_, put, encoded⟩ := encodes.upsertAgent sound agent.id agent.plugin
  rw [of_silently changed] at put
  cases put
  exact ⟨_, rfl, Memory.sound_putAgent sound agent, encoded⟩

/-- The selectors are stored under the number that was looked up in between. -/
theorem achieves_putAttestation (m : Memory) (entry : Attestation) :
    (putAttestation entry).Achieves m fun _ written => written = m.putAttestation entry := by
  have ran : (Action.run .ensureAgent fun _ t =>
      silently (t.insertAgent entry.agent.text)).Achieves m fun _ written =>
        m.Sound ∧ written = { m with agents := m.agents.putNew entry.agent none } := by
    apply achieves_run
    rintro _ t ⟨⟩ t' ⟨sound, n, encodes⟩ changed
    obtain ⟨_, inserted, encoded⟩ := encodes.insertAgent sound entry.agent
    rw [of_silently changed] at inserted
    cases inserted
    exact ⟨_, ⟨sound, rfl⟩, Memory.sound_learnAgent sound entry.agent, encoded⟩
  apply Achieves.bind (confined_run _ _) ran
  rintro _ _ learnedSound ⟨sound, rfl⟩
  rintro c c' ⟨⟩ _ ⟨_, n, encodes⟩ did
  have known : entry.agent ∈ (m.agents.putNew entry.agent none).keys :=
    Directory.mem_keys_putNew.mpr (.inr rfl)
  obtain ⟨number, later, selected, rest⟩ := of_bind did
  have same := tables_of_read selected
  have found := of_read selected
  rw [same] at found
  cases found.symm.trans (encodes.selectAgentId known)
  have changed := of_silently (of_run rest)
  obtain ⟨_, put, encoded⟩ := encodes.upsertSelectors learnedSound entry known
  rw [same, put] at changed
  cases changed
  exact ⟨_, rfl, Memory.sound_putAttestation sound entry, n, encoded⟩

/-! ## Whole writes -/

theorem achieves_createCluster (m : Memory) (now : Instant) (cluster : Cluster) :
    Action.Achieves (do
      insertCluster now cluster
      addMembers cluster.uid cluster.members
      loadCluster cluster.uid) m fun told written =>
        ∃ record, m.createCluster now cluster = .ok (record, written) ∧ record.Legible ∧
          told = record.trimmed := by
  apply Achieves.bind (confined_insertCluster now cluster) (achieves_insertCluster m now cluster)
  intro _ inserted insertedSound insertion
  apply Achieves.bind (confined_addMembers _ _)
    (achieves_addMembers insertedSound (Memory.present_of_insertCluster insertion) cluster.members)
  intro _ filled _ addition
  apply (achieves_loadCluster filled cluster.uid).imp
  rintro told _ ⟨rfl, record, found, legible, same⟩
  refine ⟨record, ?_, legible, same⟩
  rw [Memory.createCluster, insertion, ok_bind, addition, ok_bind, found]
  rfl

theorem achieves_editCluster (m : Memory) (cluster : Cluster) :
    Action.Achieves (do
      updateCluster cluster
      deleteMembers cluster.uid
      addMembers cluster.uid cluster.members
      loadCluster cluster.uid) m fun told written =>
        ∃ record, m.editCluster cluster = .ok (record, written) ∧ record.Legible ∧
          told = record.trimmed := by
  apply Achieves.bind (confined_updateCluster cluster) (achieves_updateCluster m cluster)
  intro _ updated _ update
  have present : cluster.uid ∈ updated.clusters.keys := Memory.present_of_updateCluster update
  apply Achieves.bind (confined_deleteMembers _) (achieves_deleteMembers updated cluster.uid)
  rintro _ _ emptiedSound rfl
  apply Achieves.bind (confined_addMembers _ _)
    (achieves_addMembers emptiedSound present cluster.members)
  intro _ filled _ addition
  apply (achieves_loadCluster filled cluster.uid).imp
  rintro told _ ⟨rfl, record, found, legible, same⟩
  refine ⟨record, ?_, legible, same⟩
  rw [Memory.editCluster, update, ok_bind, addition, ok_bind, found]
  rfl

theorem achieves_deletion (m : Memory) (uid : ClusterUid) :
    Action.Achieves (do
      deleteMembers uid
      deleteCluster uid) m fun _ written => m.deleteCluster uid = .ok written := by
  apply Achieves.bind (confined_deleteMembers uid) (achieves_deleteMembers m uid)
  rintro _ _ _ rfl
  apply (achieves_deleteCluster (Memory.removeMembers_empty uid m)).imp
  rintro _ _ ⟨present, rfl⟩
  exact if_pos present

theorem tables_of_begin (begun : begin c = (.ok (), c')) : c'.tables = c.stored := by
  have stored := c.approach_stored
  unfold begin Connection.begin at begun
  split at begun
  next opened =>
    cases begun
    split at opened
    next => cases opened
    next found =>
      rw [found] at stored
      split at opened
      next => cases opened
      next => cases opened; exact stored
  next => cases begun

/-- A transaction succeeds with what its body succeeded with, and then it commits. -/
theorem body_of_atomically {body : Action α} {a : α} (did : (atomically body c).1 = .ok a) :
    ∃ opened finished, begin c = (.ok (), opened) ∧ body opened = (.ok a, finished) ∧
      (commit finished).1 = .ok () ∧ (atomically body c).2 = (commit finished).2 := by
  have outcome : atomically body c = (.ok a, (atomically body c).2) := Prod.ext did rfl
  obtain ⟨_, opened, begun, rest⟩ := of_bind outcome
  cases result : body opened with
  | mk told finished =>
    rw [result] at rest
    cases told with
    | error failure => cases rest
    | ok value =>
      rw [finish_ok] at rest
      obtain ⟨committed, last⟩ := Prod.mk.inj rest
      obtain ⟨⟨⟩, commits, rfl⟩ := of_map_eq_ok committed
      exact ⟨opened, finished, begun, result, commits, last.symm⟩

/-- A transaction that commits stores what its body achieves. -/
theorem of_atomically {body : Action α} {outcome : α → Memory → Prop}
    (achieves : body.Achieves m outcome) (idle : c.working = none) (records : c.stored.Records m)
    {a : α} (did : (atomically body c).1 = .ok a) :
    ∃ written, outcome a written ∧ (atomically body c).2.stored.Records written := by
  obtain ⟨opened, finished, begun, result, commits, last⟩ := body_of_atomically did
  have inside : opened.working.isSome := by
    have opens := begin_inside c idle
    rw [begun] at opens
    exact opens rfl
  have found : opened.tables.Records m := (tables_of_begin begun) ▸ records
  obtain ⟨written, came, recorded⟩ := achieves opened finished a inside found result
  refine ⟨written, came, ?_⟩
  rw [last, commit_connection, finished.commit_stored ((commit_succeeds finished).mp commits)]
  exact recorded

end Transaction

namespace Store

variable {now : Instant} {answer : Answer}

theorem of_answering {action : Action α} {answer : α → Answer} {told : Answer}
    (did : (answering answer action c).1 = .ok told) :
    ∃ a, (action c).1 = .ok a ∧ told = answer a := by
  rw [answering_eq] at did
  exact of_map_eq_ok did

/-- A write that gave this answer and left these tables did what it does in memory. -/
structure Carried (outcome : Except Failure Answer × Memory) (answer : Answer) (t : Tables) :
    Prop where
  answer : ∃ told, outcome.1 = .ok told ∧ told.Legible ∧ answer = told.trimmed
  records : t.Records outcome.2

theorem carried_of_achieves {body : Action α} {answer : α → Answer}
    (result : Except Failure (α × Memory))
    (achieves : body.Achieves m fun told written => ∃ a, result = .ok (a, written) ∧
      (answer a).Legible ∧ answer told = (answer a).trimmed)
    (idle : c.working = none) (records : c.stored.Records m) {given : Answer}
    (did : (answering answer (Transaction.atomically body) c).1 = .ok given) :
    Carried (m.publish answer result) given
      (answering answer (Transaction.atomically body) c).2.stored := by
  obtain ⟨told, succeeded, rfl⟩ := of_answering did
  obtain ⟨written, ⟨a, rfl, legible, same⟩, recorded⟩ :=
    Transaction.of_atomically achieves idle records succeeded
  rw [answering_eq]
  exact ⟨⟨answer a, rfl, legible, same⟩, recorded⟩

/-- Every write that succeeds does what it does in memory, one case for each kind of write. -/
theorem carried_perform (idle : c.working = none) (records : c.stored.Records m) (now : Instant)
    {operation : Operation} (wrote : operation.isWrite = true) {given : Answer}
    (did : (perform now operation c).1 = .ok given) :
    Carried (m.perform now operation) given (perform now operation c).2.stored := by
  cases operation with
  | putAgent agent =>
    apply carried_of_achieves (.ok ((), m.putAgent agent)) _ idle records did
    apply (Transaction.achieves_putAgent m agent).imp
    rintro _ _ rfl
    exact ⟨(), rfl, trivial, rfl⟩
  | putAttestation entry =>
    apply carried_of_achieves (.ok ((), m.putAttestation entry)) _ idle records did
    apply (Transaction.achieves_putAttestation m entry).imp
    rintro _ _ rfl
    exact ⟨(), rfl, trivial, rfl⟩
  | createCluster cluster =>
    apply carried_of_achieves _ _ idle records did
    apply (Transaction.achieves_createCluster m now cluster).imp
    rintro _ _ ⟨record, created, legible, rfl⟩
    exact ⟨record, created, legible, rfl⟩
  | editCluster cluster =>
    apply carried_of_achieves _ _ idle records did
    apply (Transaction.achieves_editCluster m cluster).imp
    rintro _ _ ⟨record, edited, legible, rfl⟩
    exact ⟨record, edited, legible, rfl⟩
  | deleteCluster uid =>
    apply carried_of_achieves _ _ idle records did
    apply (Transaction.achieves_deletion m uid).imp
    intro _ written deleted
    refine ⟨(), ?_, trivial, rfl⟩
    rw [deleted]
    rfl
  | listAgents | findAgent | findAttestation | listClusters | clusterOf | membersOf
  | describeAgents => cases wrote

/-- What does not fit fails. -/
theorem fits_of_perform {operation : Operation} {given : Answer}
    (did : (perform now operation c).1 = .ok given) : operation.Fits := by
  cases operation with
  | createCluster cluster =>
    obtain ⟨_, succeeded, _⟩ := of_answering did
    obtain ⟨_, _, _, wrote, _⟩ := Transaction.body_of_atomically succeeded
    obtain ⟨_, _, _, wrote⟩ := of_bind wrote
    obtain ⟨⟨⟩, _, added, _⟩ := of_bind wrote
    exact Transaction.fits_of_addMembers added
  | editCluster cluster =>
    obtain ⟨_, succeeded, _⟩ := of_answering did
    obtain ⟨_, _, _, wrote, _⟩ := Transaction.body_of_atomically succeeded
    obtain ⟨_, _, _, wrote⟩ := of_bind wrote
    obtain ⟨_, _, _, wrote⟩ := of_bind wrote
    obtain ⟨⟨⟩, _, added, _⟩ := of_bind wrote
    exact Transaction.fits_of_addMembers added
  | describeAgents filter =>
    obtain ⟨agents, succeeded, _⟩ := of_answering did
    have outcome : describeAgents filter c = (.ok agents, (describeAgents filter c).2) :=
      Prod.ext succeeded rfl
    obtain ⟨_, _, selected, _⟩ := of_bind outcome
    have room := Tables.fits_of_selectMetadata (of_read selected)
    rw [List.length_map] at room
    exact room
  | putAgent | listAgents | findAgent | putAttestation | findAttestation | listClusters
  | deleteCluster | clusterOf | membersOf => trivial

end Store

/-! ## One operation after the other -/

/-- No transaction is open, and the tables hold the registry and will not be lost. Mishaps may be to
come. -/
structure Backs (c : Connection) (m : Memory) : Prop where
  idle : c.working = none
  records : c.stored.Records m
  durable : c.Durable

namespace Backs

variable {now : Instant} {operation : Operation}

theorem opened {foreignKeys inMemory : Bool} {mishaps : List (Option Mishap)}
    (gentle : inMemory = true → ∀ mishap, some mishap ∈ mishaps → mishap.endsTransaction = false) :
    Backs { foreignKeys, inMemory, mishaps } {} where
  idle := rfl
  records := Tables.records_empty
  durable := ⟨gentle, fun _ => ⟨rfl, nofun, nofun⟩⟩

/-- Where nothing is to come, nothing is lost. -/
theorem of_calm (idle : c.working = none) (records : c.stored.Records m) (calm : c.mishaps = []) :
    Backs c m where
  idle := idle
  records := records
  durable := {
    gentle := fun _ mishap toCome => by rw [calm] at toCome; cases toCome
    quiet := fun _ => by
      obtain ⟨n, encodes⟩ := records.encoded
      apply Connection.Satisfies.of_idle idle
      rw [encodes.triggers]
      exact List.not_mem_nil }

theorem encoded (backs : Backs c m) :
    ∃ n : Numbering, n.Encodes m ({ c with mishaps := [] } : Connection).tables := by
  have tables := Connection.tables_of_idle (c := { c with mishaps := [] }) backs.idle
  rw [tables]
  exact backs.records.encoded

theorem complete (backs : Backs c m) : c.stored.missing = [] := by
  obtain ⟨n, encodes⟩ := backs.records.encoded
  exact encodes.missing

/-- No operation loses a table. -/
theorem endures (backs : Backs c m) (now : Instant) (operation : Operation) :
    (Store.perform now operation c).2.Endures c.foreignKeys fun t => t.missing = [] := by
  apply Store.keeps_perform
    (Connection.lasting_endures (Tables.unbreakable_complete (.any c.foreignKeys))) now
    (Work.admitted_any c.foreignKeys (.perform operation))
  exact ⟨⟨rfl, backs.complete, fun _ inside => by rw [backs.idle] at inside; cases inside⟩,
    backs.durable⟩

/-- An operation that fails leaves everything as it was. -/
theorem stored_of_error (backs : Backs c m) {failure : Failure}
    (failed : (Store.perform now operation c).1 = .error failure) :
    (Store.perform now operation c).2.stored = c.stored := by
  rcases (Store.atomic_perform now operation).stored c failure backs.idle failed with kept | lost
  · exact kept
  · have complete := (backs.endures now operation).stored
    rw [lost.bare] at complete
    cases complete

theorem refused (backs : Backs c m) {failure : Failure}
    (failed : (Store.perform now operation c).1 = .error failure) :
    Backs (Store.perform now operation c).2 m :=
  ⟨(Store.atomic_perform now operation).idle c backs.idle,
    (backs.stored_of_error failed).symm ▸ backs.records,
    (backs.endures now operation).toDurable⟩

theorem read (backs : Backs c m) (reads : operation.isWrite = false) :
    Backs (Store.perform now operation c).2 m := by
  have readsOnly := Store.readsOnly_perform now reads
  exact ⟨readsOnly.idle c backs.idle, readsOnly.stored c ▸ backs.records,
    (backs.endures now operation).toDurable⟩

theorem carried (backs : Backs c m) (wrote : operation.isWrite = true) {given : Answer}
    (did : (Store.perform now operation c).1 = .ok given) :
    Store.Carried (m.perform now operation) given (Store.perform now operation c).2.stored :=
  Store.carried_perform backs.idle backs.records now wrote did

theorem written (backs : Backs c m) (wrote : operation.isWrite = true) {given : Answer}
    (did : (Store.perform now operation c).1 = .ok given) :
    Backs (Store.perform now operation c).2 (m.perform now operation).2 :=
  ⟨(Store.atomic_perform now operation).idle c backs.idle, (backs.carried wrote did).records,
    (backs.endures now operation).toDurable⟩

end Backs

end Database

end Roster
