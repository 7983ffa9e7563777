import Roster.Proofs.Database.Simulation
import Roster.Proofs.Memory.Clusters

/-!
Whether a write of a cluster succeeds, and for which conflict it fails, can be told from what the
registry lists beforehand.

The conditions are looked at one after the other, as the registry in memory looks at them. A
database comes to the same decisions by the values that no two of its rows share and by counting
rows. It only adds to a failure that the write was rolled back.
-/

namespace Roster

open Database Text

variable {σ : Type} [Registry σ]

/-! ## Asking -/

/-- Whenever it is asked, the registry lists these clusters. -/
def Lists (registry : σ) (clusters : List Cluster) : Prop :=
  ∀ now, (Registry.perform now .listClusters registry).1 = .ok (.clusters clusters)

/-- Whenever it is asked for all agents, the registry describes these. -/
def Describes (registry : σ) (agents : List Agent) : Prop :=
  ∀ now, (Registry.perform now (.describeAgents .all) registry).1 = .ok (.agents agents)

/-- Whenever it is asked, the registry names a cluster of the agent. -/
def NamesCluster (registry : σ) (agent : AgentId) : Prop :=
  ∀ now, ∃ name,
    (Registry.perform now (.clusterOf agent) registry).1 = .ok (.clusterName name)

/-! ## Decisions -/

@[simp] theorem Failure.clusterExists_ne_clusterMissing :
    Failure.clusterExists ≠ .clusterMissing := by
  simp [clusterExists, clusterMissing]

@[simp] theorem Failure.agentAssigned_ne_clusterMissing :
    Failure.agentAssigned ≠ .clusterMissing := by
  simp [agentAssigned, clusterMissing]

@[simp] theorem Failure.agentAssigned_ne_clusterExists :
    Failure.agentAssigned ≠ .clusterExists := by
  simp [agentAssigned, clusterExists]

/-- The first condition that holds decides the failure, and where none holds there is a success. -/
def Decided (report : Failure → Failure) (outcome : Except Failure Answer) :
    List (Failure × Prop) → Prop
  | [] => ∃ answer, outcome = .ok answer
  | (failure, condition) :: rest =>
    (outcome = .error (report failure) ↔ condition) ∧ (¬condition → Decided report outcome rest)

theorem decided_hit {failure : Failure} {condition : Prop} (holds : condition)
    (rest : List (Failure × Prop)) :
    Decided id (.error failure) ((failure, condition) :: rest) :=
  ⟨⟨fun _ => holds, fun _ => rfl⟩, fun fails => absurd holds fails⟩

theorem decided_miss {outcome : Except Failure Answer} {failure : Failure} {condition : Prop}
    {rest : List (Failure × Prop)} (fails : ¬condition) (different : outcome ≠ .error failure)
    (later : Decided id outcome rest) : Decided id outcome ((failure, condition) :: rest) :=
  ⟨⟨fun same => absurd same different, fun holds => absurd holds fails⟩, fun _ => later⟩

theorem decided_success {answer : Answer} {failure : Failure} {condition : Prop}
    (fails : ¬condition) : Decided id (.ok answer) [(failure, condition)] := by
  refine decided_miss fails ?_ ⟨answer, rfl⟩
  intro same
  cases same

/-- Failures that are told apart by their reports are decided as before. -/
theorem decided_report {report : Failure → Failure} {outcome : Except Failure Answer}
    {conditions : List (Failure × Prop)}
    (faithful : ∀ entry ∈ conditions, ∀ failure, report failure = report entry.1 →
      failure = entry.1)
    (decided : Decided id outcome conditions) :
    Decided report (outcome.mapError report) conditions := by
  induction conditions with
  | nil =>
    obtain ⟨answer, rfl⟩ := decided
    exact ⟨answer, rfl⟩
  | cons entry rest ih =>
    obtain ⟨decides, later⟩ := decided
    refine ⟨Iff.trans ?_ decides, fun fails => ih ?_ (later fails)⟩
    · cases outcome with
      | ok answer => exact ⟨nofun, nofun⟩
      | error failure =>
        constructor
        · intro same
          rw [faithful entry List.mem_cons_self failure (Except.error.inj same)]
          rfl
        · intro same
          cases same
          rfl
    · exact fun other member => faithful other (List.mem_cons_of_mem _ member)

theorem Failure.conflict_of_annotate {failure : Failure} {text : String}
    {outcome : RollbackOutcome}
    (same : failure.annotate outcome = (Failure.conflict text).annotate outcome) :
    failure = .conflict text := by
  cases failure with
  | conflict other =>
    have texts : other ++ ": " ++ outcome.message = text ++ ": " ++ outcome.message :=
      Failure.conflict.inj same
    rw [String.append_left_inj, String.append_left_inj] at texts
    rw [texts]
  | _ => cases same

/-- The texts of the cluster are tidy, and a database can take all of its members at once. -/
def Cluster.Storable (cluster : Cluster) : Prop :=
  cluster.Tidy ∧ (Statement.insertMemberships cluster.members.length).Fits

/-- How a registry that lists these clusters decides on writes of clusters that are admitted. -/
structure DecidesWrites (admitted : Cluster → Prop) (report : Failure → Failure) (registry : σ)
    (clusters : List Cluster) : Prop where
  create : ∀ (now : Instant) (cluster : Cluster), admitted cluster →
    Decided report (Registry.perform now (.createCluster cluster) registry).1
      [(.clusterExists,
        ∃ listed ∈ clusters, listed.uid = cluster.uid ∨ listed.name = cluster.name),
       (.agentAssigned,
        ¬cluster.members.Nodup ∨ ∃ agent ∈ cluster.members, NamesCluster registry agent)]
  edit : ∀ (now : Instant) (cluster : Cluster), admitted cluster →
    Decided report (Registry.perform now (.editCluster cluster) registry).1
      [(.clusterMissing, ∀ listed ∈ clusters, listed.uid ≠ cluster.uid),
       (.clusterExists,
        ∃ listed ∈ clusters, listed.uid ≠ cluster.uid ∧ listed.name = cluster.name),
       (.agentAssigned,
        ¬cluster.members.Nodup ∨ ∃ listed ∈ clusters, listed.uid ≠ cluster.uid ∧
          ∃ agent ∈ cluster.members, agent ∈ listed.members)]
  delete : ∀ (now : Instant) (uid : ClusterUid),
    Decided report (Registry.perform now (.deleteCluster uid) registry).1
      [(.clusterMissing, ∀ listed ∈ clusters, listed.uid ≠ uid)]

namespace Memory

variable {m : Memory}

theorem lists (m : Memory) : Lists m m.listClusters :=
  fun _ => rfl

theorem describes (m : Memory) : Describes m (m.describeAgents .all) :=
  fun _ => rfl

theorem namesCluster_iff (sound : m.Sound) {agent : AgentId} :
    NamesCluster m agent ↔ agent ∈ m.memberships.keys := by
  rw [← clusterNameOf?_isSome sound]
  constructor
  · intro names
    obtain ⟨name, named⟩ := names Instant.epoch
    change (m.clusterOf agent).map _ = _ at named
    rw [clusterOf] at named
    cases found : m.clusterNameOf? agent with
    | some name => rfl
    | none => rw [found] at named; cases named
  · intro found now
    obtain ⟨name, named⟩ := Option.isSome_iff_exists.mp found
    refine ⟨name, ?_⟩
    change (m.clusterOf agent).map _ = _
    rw [clusterOf, named]
    rfl

theorem not_assignable_iff {agents : List AgentId} {memberships : Directory AgentId ClusterUid} :
    ¬Assignable agents memberships ↔
      ¬agents.Nodup ∨ ∃ agent ∈ agents, agent ∈ memberships.keys := by
  rw [Assignable, not_and_or]
  simp

/-- The members of the other clusters are those who stay members when a cluster is emptied. -/
theorem member_elsewhere (sound : m.Sound) {uid : ClusterUid} {agent : AgentId} :
    agent ∈ (m.removeMembers uid).memberships.keys ↔
      ∃ listed ∈ m.listClusters, listed.uid ≠ uid ∧ agent ∈ listed.members := by
  rw [Directory.mem_keys]
  constructor
  · rintro ⟨other, kept⟩
    obtain ⟨member, different⟩ := List.mem_filter.mp kept
    obtain ⟨stored, found⟩ := Directory.exists_find? (sound.placed _ member)
    exact ⟨_, mem_listClusters.mpr ⟨_, Directory.mem_of_find? found, rfl⟩,
      of_decide_eq_true different, mem_members.mpr member⟩
  · rintro ⟨_, listed, different, member⟩
    obtain ⟨entry, _, rfl⟩ := mem_listClusters.mp listed
    exact ⟨entry.1, List.mem_filter.mpr ⟨mem_members.mp member, decide_eq_true different⟩⟩

theorem decides_create (sound : m.Sound) (now : Instant) (cluster : Cluster) :
    Decided id (m.perform now (.createCluster cluster)).1
      [(.clusterExists,
        ∃ listed ∈ m.listClusters, listed.uid = cluster.uid ∨ listed.name = cluster.name),
       (.agentAssigned,
        ¬cluster.members.Nodup ∨ ∃ agent ∈ cluster.members, NamesCluster m agent)] := by
  have taken : (m.clusters.contains cluster.uid || m.nameTaken cluster.name none) = true ↔
      ∃ listed ∈ m.listClusters, listed.uid = cluster.uid ∨ listed.name = cluster.name := by
    rw [Bool.or_eq_true, Directory.contains_iff, ← uid_listed, name_listed]
    simp only [and_or_left, exists_or, Option.some_ne_none, ne_eq, not_false_eq_true, and_true]
  simp only [namesCluster_iff sound, ← not_assignable_iff, ← taken]
  change Decided id (m.publish .cluster (m.createCluster now cluster)).1 _
  rw [publish_eq, createCluster_eq sound]
  split
  next found => exact decided_hit found _
  next free =>
    apply decided_miss free
    · split <;> simp [Except.map]
    · split
      next assignable => exact decided_success (not_not.mpr assignable)
      next refused => exact decided_hit refused _

theorem decides_edit (sound : m.Sound) (now : Instant) (cluster : Cluster) :
    Decided id (m.perform now (.editCluster cluster)).1
      [(.clusterMissing, ∀ listed ∈ m.listClusters, listed.uid ≠ cluster.uid),
       (.clusterExists,
        ∃ listed ∈ m.listClusters, listed.uid ≠ cluster.uid ∧ listed.name = cluster.name),
       (.agentAssigned,
        ¬cluster.members.Nodup ∨ ∃ listed ∈ m.listClusters, listed.uid ≠ cluster.uid ∧
          ∃ agent ∈ cluster.members, agent ∈ listed.members)] := by
  have missing : m.clusters.find? cluster.uid = none ↔
      ∀ listed ∈ m.listClusters, listed.uid ≠ cluster.uid := by
    rw [Directory.find?_eq_none_iff, ← uid_listed]
    simp
  have taken : m.nameTaken cluster.name (some cluster.uid) = true ↔
      ∃ listed ∈ m.listClusters, listed.uid ≠ cluster.uid ∧ listed.name = cluster.name := by
    rw [name_listed]
    simp only [ne_eq, Option.some.injEq, and_comm]
  have refused : ¬Assignable cluster.members (m.removeMembers cluster.uid).memberships ↔
      ¬cluster.members.Nodup ∨ ∃ listed ∈ m.listClusters, listed.uid ≠ cluster.uid ∧
        ∃ agent ∈ cluster.members, agent ∈ listed.members := by
    rw [not_assignable_iff]
    simp only [member_elsewhere sound]
    apply or_congr_right
    constructor
    · rintro ⟨agent, batched, listed, member, different, inside⟩
      exact ⟨listed, member, different, agent, batched, inside⟩
    · rintro ⟨listed, member, different, agent, batched, inside⟩
      exact ⟨agent, batched, listed, member, different, inside⟩
  simp only [← missing, ← taken, ← refused]
  change Decided id (m.publish .cluster (m.editCluster cluster)).1 _
  rw [publish_eq, editCluster_eq]
  cases found : m.clusters.find? cluster.uid with
  | none => exact decided_hit rfl _
  | some old =>
    refine decided_miss (Option.some_ne_none old) ?_ ?_
    · change Except.map _ (if _ then _ else if _ then _ else _) ≠ _
      split
      next => simp [Except.map]
      next => split <;> simp [Except.map]
    · change Decided id (Except.map _ (if _ then _ else if _ then _ else _)) _
      split
      next named => exact decided_hit named _
      next free =>
        apply decided_miss free
        · split <;> simp [Except.map]
        · split
          next assignable => exact decided_success (not_not.mpr assignable)
          next refused => exact decided_hit refused _

theorem decides_delete (m : Memory) (now : Instant) (uid : ClusterUid) :
    Decided id (m.perform now (.deleteCluster uid)).1
      [(.clusterMissing, ∀ listed ∈ m.listClusters, listed.uid ≠ uid)] := by
  have missing : ¬m.clusters.contains uid = true ↔
      ∀ listed ∈ m.listClusters, listed.uid ≠ uid := by
    rw [Directory.contains_iff, ← uid_listed]
    simp
  rw [← missing]
  change Decided id (m.publish (fun () => .done) ((m.deleteCluster uid).map ((), ·))).1 _
  rw [publish_eq, deleteCluster_eq]
  split
  next present => exact decided_success (not_not.mpr present)
  next absent => exact decided_hit absent _

theorem decidesWrites (sound : m.Sound) : DecidesWrites Cluster.Tidy id m m.listClusters where
  create now cluster _ := decides_create sound now cluster
  edit now cluster _ := decides_edit sound now cluster
  delete now uid := decides_delete m now uid

end Memory

/-! ## The same answers in a database -/

namespace Database

variable {c : Connection} {m : Memory}

theorem read_eq (holds : Holds c m) (now : Instant) (operation : Operation)
    (fits : operation.Tidy) (room : operation.Fits) (read : operation.isWrite = false) :
    (Registry.perform now operation c).1 = (Registry.perform now operation m).1 := by
  have outcome := (Store.perform_answers holds now fits room).outcome
  rw [Operation.told, read] at outcome
  exact outcome

/-- A read that is answered alike in memory is answered alike in a database, even if it is refused
there. -/
theorem read_alike {c' : Connection} {m' : Memory} (holds : Holds c m) (otherHolds : Holds c' m')
    (now : Instant) {operation : Operation} (fits : operation.Tidy)
    (same : (Registry.perform now operation m).1 = (Registry.perform now operation m').1) :
    (Registry.perform now operation c).1 = (Registry.perform now operation c').1 := by
  change (m.perform now operation).1 = (m'.perform now operation).1 at same
  by_cases room : operation.Fits
  · have outcome := (Store.perform_answers holds now fits room).outcome
    rw [same, ← (Store.perform_answers otherHolds now fits room).outcome] at outcome
    exact outcome
  · have outcome := (Store.perform_answers_of_excess holds now fits room).outcome
    rw [same, ← (Store.perform_answers_of_excess otherHolds now fits room).outcome] at outcome
    exact outcome

theorem write_eq (holds : Holds c m) (now : Instant) (operation : Operation)
    (fits : operation.Tidy) (room : operation.Fits) (write : operation.isWrite = true) :
    (Registry.perform now operation c).1 =
      (Registry.perform now operation m).1.mapError (·.annotate .succeeded) := by
  have outcome := (Store.perform_answers holds now fits room).outcome
  rw [Operation.told, write] at outcome
  exact outcome

theorem lists_iff (holds : Holds c m) {clusters : List Cluster} :
    Lists c clusters ↔ Lists m clusters :=
  forall_congr' fun now => by rw [read_eq holds now .listClusters trivial trivial rfl]

theorem describes_iff (holds : Holds c m) {agents : List Agent} :
    Describes c agents ↔ Describes m agents :=
  forall_congr' fun now => by
    rw [read_eq holds now (.describeAgents .all) trivial (Nat.zero_le _) rfl]

theorem namesCluster_iff (holds : Holds c m) {agent : AgentId} :
    NamesCluster c agent ↔ NamesCluster m agent :=
  forall_congr' fun now => by rw [read_eq holds now (.clusterOf agent) trivial trivial rfl]

theorem decidesWrites (holds : Holds c m) :
    DecidesWrites Cluster.Storable (·.annotate .succeeded) c m.listClusters := by
  have memory := Memory.decidesWrites holds.sees.sound
  have conflicts {conditions : List (Failure × Prop)}
      (all : ∀ entry ∈ conditions, ∃ text, entry.1 = .conflict text) :
      ∀ entry ∈ conditions, ∀ failure : Failure,
        failure.annotate .succeeded = entry.1.annotate .succeeded → failure = entry.1 := by
    intro entry member failure same
    obtain ⟨text, conflict⟩ := all entry member
    rw [conflict] at same ⊢
    exact Failure.conflict_of_annotate same
  constructor
  · rintro now cluster ⟨fits, room⟩
    have decided := memory.create now cluster fits
    simp only [← namesCluster_iff holds] at decided
    rw [write_eq holds now (.createCluster cluster) fits room rfl]
    apply decided_report (conflicts _) decided
    simp [Failure.clusterExists, Failure.agentAssigned]
  · rintro now cluster ⟨fits, room⟩
    rw [write_eq holds now (.editCluster cluster) fits room rfl]
    apply decided_report (conflicts _) (memory.edit now cluster fits)
    simp [Failure.clusterExists, Failure.agentAssigned, Failure.clusterMissing]
  · intro now uid
    rw [write_eq holds now (.deleteCluster uid) trivial trivial rfl]
    apply decided_report (conflicts _) (memory.delete now uid)
    simp [Failure.clusterMissing]

end Database

/-- After any operations on tidy values, a registry decides on writes of clusters by the clusters
that it lists. A write of a tidy cluster fails for none but the given conflicts, in a database if
its members can be bound. -/
theorem cluster_writes_decided (settings : Settings) (steps : List (Instant × Operation))
    (tidy : ∀ step ∈ steps, step.2.Tidy) :
    (∃ clusters, Lists (Registry.after steps ({} : Memory)) clusters ∧
      DecidesWrites Cluster.Tidy id (Registry.after steps ({} : Memory)) clusters) ∧
    (∃ clusters, Lists (Registry.after steps (Connection.connect settings)) clusters ∧
      DecidesWrites Cluster.Storable (·.annotate .succeeded)
        (Registry.after steps (Connection.connect settings)) clusters) := by
  have holds := Store.holds_after settings steps tidy
  constructor
  · exact ⟨_, Memory.lists _, Memory.decidesWrites (Memory.sound_after steps Memory.sound_empty)⟩
  · exact ⟨_, (lists_iff holds).mpr (Memory.lists _), decidesWrites holds⟩

/-- The name of a cluster cannot be given to a second one. -/
theorem second_name_refused :
    let steps : List (Instant × Operation) :=
      [(.epoch, .createCluster { uid := ⟨"u"⟩, name := ⟨"n"⟩, members := [⟨"a"⟩] })]
    let second : Cluster := { uid := ⟨"v"⟩, name := ⟨"n"⟩, members := [⟨"a"⟩] }
    (∀ step ∈ steps, step.2.Tidy) ∧
      (Registry.perform .epoch (.createCluster second) (Registry.after steps ({} : Memory))).1 =
        .error .clusterExists := by
  intro steps second
  have tidy : ∀ step ∈ steps, step.2.Tidy := by decide
  refine ⟨tidy, ?_⟩
  obtain ⟨clusters, listed, decides⟩ := (cluster_writes_decided {} steps tidy).1
  have same : (Registry.after steps ({} : Memory)).listClusters = clusters :=
    Answer.clusters.inj (Except.ok.inj (listed .epoch))
  let first : StoredCluster := ⟨⟨"n"⟩, Instant.epoch.stamp, "", "", ""⟩
  have stored : (⟨"u"⟩, first) ∈ (Registry.after steps ({} : Memory)).clusters :=
    List.mem_singleton.mpr rfl
  apply (decides.create .epoch second (by decide)).1.mpr
  refine ⟨(Registry.after steps ({} : Memory)).toCluster ⟨"u"⟩ first, ?_, .inr rfl⟩
  rw [← same]
  exact Memory.mem_listClusters.mpr ⟨_, stored, rfl⟩

end Roster
