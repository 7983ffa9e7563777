import Roster.Proofs.Memory.Alike

/-!
The order in which the entries of a map are enumerated.

A map gives its entries in an order that is fixed by nothing, and that may be another one whenever
the map has been changed or copied. So an operation is cut into steps, none of which goes through a
map that it has changed, and the maps may be enumerated anew before each step. Callers learn nothing
of it: whatever the orders are, the answers are the same, and so are the entries that are left.
-/

namespace Roster

namespace Directory

variable {κ ν : Type} [DecidableEq κ] {d e : Directory κ ν}

theorem contains_of_perm (perm : d.Perm e) (key : κ) : d.contains key = e.contains key :=
  perm.any_eq

theorem put_of_perm (distinct : d.keys.Nodup) (perm : d.Perm e) (key : κ) (value : ν) :
    (d.put key value).Perm (e.put key value) := by
  have otherDistinct : e.keys.Nodup :=
    (perm.map fun entry : κ × ν => entry.1).nodup_iff.mp distinct
  calc (d.put key value).Perm (d.remove key ++ [(key, value)]) := put_perm distinct key value
    List.Perm _ (e.remove key ++ [(key, value)]) := (perm.filter _).append_right _
    List.Perm _ (e.put key value) := (put_perm otherDistinct key value).symm

theorem putNew_of_perm (perm : d.Perm e) (key : κ) (value : ν) :
    (d.putNew key value).Perm (e.putNew key value) := by
  rw [putNew, putNew, contains_of_perm perm]
  split
  · exact perm
  · exact perm.append_right _

end Directory

namespace Memory

/-- The registries hold the same entries, in any orders. -/
structure Shuffled (m other : Memory) : Prop where
  agents : m.agents.Perm other.agents
  attestations : m.attestations.Perm other.attestations
  clusters : m.clusters.Perm other.clusters
  memberships : m.memberships.Perm other.memberships

variable {m other : Memory}

namespace Shuffled

theorem refl (m : Memory) : Shuffled m m :=
  ⟨.refl _, .refl _, .refl _, .refl _⟩

theorem symm (shuffled : Shuffled m other) : Shuffled other m :=
  ⟨shuffled.agents.symm, shuffled.attestations.symm, shuffled.clusters.symm,
    shuffled.memberships.symm⟩

theorem trans {last : Memory} (first : Shuffled m other) (second : Shuffled other last) :
    Shuffled m last :=
  ⟨first.agents.trans second.agents, first.attestations.trans second.attestations,
    first.clusters.trans second.clusters, first.memberships.trans second.memberships⟩

theorem sound (shuffled : Shuffled m other) (sound : m.Sound) : other.Sound where
  agents := (shuffled.agents.map _).nodup_iff.mp sound.agents
  attestations := (shuffled.attestations.map _).nodup_iff.mp sound.attestations
  clusters := (shuffled.clusters.map _).nodup_iff.mp sound.clusters
  memberships := (shuffled.memberships.map _).nodup_iff.mp sound.memberships
  names := (shuffled.clusters.map _).nodup_iff.mp sound.names
  known agent member := by
    have listed := sound.known agent ((shuffled.memberships.map _).mem_iff.mpr member)
    exact (shuffled.agents.map _).mem_iff.mp listed
  placed entry member := by
    have listed := sound.placed entry (shuffled.memberships.mem_iff.mpr member)
    exact (shuffled.clusters.map _).mem_iff.mp listed
  attested entry member := by
    obtain ⟨same, listed⟩ := sound.attested entry (shuffled.attestations.mem_iff.mpr member)
    exact ⟨same, (shuffled.agents.map _).mem_iff.mp listed⟩

theorem alike (shuffled : Shuffled m other) (sound : m.Sound) : Alike m other where
  agents := Directory.find?_of_perm sound.agents shuffled.agents
  attestations := Directory.find?_of_perm sound.attestations shuffled.attestations
  clusters := Directory.find?_of_perm sound.clusters shuffled.clusters
  memberships := Directory.find?_of_perm sound.memberships shuffled.memberships

end Shuffled

/-! ## Steps -/

/-- A part of a write, which may find the maps enumerated anew. -/
abbrev Step := Memory → Except Failure Memory

/-- The same failure, or the same entries. -/
def SameEntries : Except Failure Memory → Except Failure Memory → Prop
  | .ok m, .ok other => Shuffled m other
  | .error failure, .error cause => failure = cause
  | _, _ => False

theorem SameEntries.of_error {outcome : Except Failure Memory} {failure : Failure}
    (same : SameEntries outcome (.error failure)) : outcome = .error failure := by
  cases outcome with
  | error cause => exact congrArg Except.error same
  | ok m => exact same.elim

theorem SameEntries.of_ok {outcome : Except Failure Memory}
    (same : SameEntries outcome (.ok other)) : ∃ m, outcome = .ok m ∧ Shuffled m other := by
  cases outcome with
  | error failure => exact same.elim
  | ok m => exact ⟨m, rfl, same⟩

/-- The step does the same in whichever orders it finds the entries, and it keeps the invariant. -/
structure Step.Steady (step : Step) : Prop where
  same : ∀ m other, m.Sound → Shuffled m other → SameEntries (step m) (step other)
  sound : ∀ m written, m.Sound → step m = .ok written → written.Sound

theorem steady_putAgent (agent : Agent) : Step.Steady fun m => .ok (m.putAgent agent) where
  same _ _ sound shuffled :=
    { shuffled with agents := Directory.put_of_perm sound.agents shuffled.agents _ _ }
  sound := by
    rintro m _ sound ⟨rfl⟩
    exact sound_putAgent sound agent

theorem steady_putAttestation (entry : Attestation) :
    Step.Steady fun m => .ok (m.putAttestation entry) where
  same _ _ sound shuffled := { shuffled with
    agents := Directory.putNew_of_perm shuffled.agents _ _
    attestations := Directory.put_of_perm sound.attestations shuffled.attestations _ _ }
  sound := by
    rintro m _ sound ⟨rfl⟩
    exact sound_putAttestation sound entry

theorem nameTaken_of_shuffled (shuffled : Shuffled m other) (name : ClusterName)
    (besides : Option ClusterUid) : m.nameTaken name besides = other.nameTaken name besides :=
  shuffled.clusters.any_eq

theorem steady_insertCluster (now : Instant) (cluster : Cluster) :
    Step.Steady (insertCluster now cluster) where
  same m other sound shuffled := by
    rw [insertCluster, insertCluster, Directory.contains_of_perm shuffled.clusters,
      nameTaken_of_shuffled shuffled]
    split
    next => exact rfl
    next =>
      exact { shuffled with
        clusters := Directory.put_of_perm sound.clusters shuffled.clusters _ _ }
  sound _ _ sound inserted := sound_insertCluster sound inserted

theorem steady_updateCluster (cluster : Cluster) : Step.Steady (updateCluster cluster) where
  same m other sound shuffled := by
    have found := Directory.find?_of_perm sound.clusters shuffled.clusters cluster.uid
    rw [updateCluster, updateCluster, found, nameTaken_of_shuffled shuffled]
    cases other.clusters.find? cluster.uid with
    | none => exact rfl
    | some old =>
      dsimp only
      split
      next => exact rfl
      next =>
        exact { shuffled with
          clusters := Directory.put_of_perm sound.clusters shuffled.clusters _ _ }
  sound _ _ sound updated := sound_updateCluster sound updated

theorem shuffled_removeMembers (shuffled : Shuffled m other) (uid : ClusterUid) :
    Shuffled (m.removeMembers uid) (other.removeMembers uid) :=
  { shuffled with memberships := shuffled.memberships.filter _ }

theorem steady_removeMembers (uid : ClusterUid) :
    Step.Steady fun m => .ok (m.removeMembers uid) where
  same _ _ _ shuffled := shuffled_removeMembers shuffled uid
  sound := by
    rintro m _ sound ⟨rfl⟩
    exact sound_removeMembers sound uid

theorem learn_of_perm {known others : Directory AgentId (Option String)}
    (perm : known.Perm others) (agents : List AgentId) :
    (learn agents known).Perm (learn agents others) := by
  induction agents generalizing known others with
  | nil => exact perm
  | cons agent rest ih => exact ih (Directory.putNew_of_perm perm agent none)

theorem assignable_of_perm {memberships others : Directory AgentId ClusterUid}
    (perm : memberships.Perm others) (agents : List AgentId) :
    Assignable agents memberships ↔ Assignable agents others := by
  have keys : memberships.keys.Perm others.keys := perm.map _
  unfold Assignable
  simp only [keys.mem_iff]

theorem steady_addMembers (uid : ClusterUid) (agents : List AgentId) :
    Step.Steady (addMembers uid agents) where
  same m other sound shuffled := by
    have keys : m.clusters.keys.Perm other.clusters.keys := shuffled.clusters.map _
    by_cases present : uid ∈ m.clusters.keys
    · rw [addMembers_eq present, addMembers_eq (keys.mem_iff.mp present)]
      simp only [assignable_of_perm shuffled.memberships]
      split
      next =>
        exact { shuffled with
          agents := learn_of_perm shuffled.agents agents
          memberships := shuffled.memberships.append_right _ }
      next => exact rfl
    · have absent : uid ∉ other.clusters.keys := fun there => present (keys.mem_iff.mpr there)
      cases agents with
      | nil => exact shuffled
      | cons agent rest =>
        rw [addMembers_of_absent present (List.cons_ne_nil agent rest),
          addMembers_of_absent absent (List.cons_ne_nil agent rest)]
        exact rfl
  sound m written sound added := by
    by_cases present : uid ∈ m.clusters.keys
    · exact sound_addMembers sound present added
    · cases agents with
      | nil => cases added; exact sound
      | cons agent rest =>
        rw [addMembers_of_absent present (List.cons_ne_nil agent rest)] at added
        cases added

theorem steady_deleteCluster (uid : ClusterUid) : Step.Steady (deleteCluster uid) where
  same m other _ shuffled := by
    rw [deleteCluster, deleteCluster, Directory.contains_of_perm shuffled.clusters]
    split
    next =>
      exact { shuffled_removeMembers shuffled uid with clusters := shuffled.clusters.filter _ }
    next => exact rfl
  sound _ _ sound deleted := sound_deleteCluster sound deleted

/-! ## Writes step by step -/

/-- Takes one step after the other. -/
def carryOut : List Step → Step
  | [], m => .ok m
  | step :: rest, m => step m >>= carryOut rest

/-- What one step after the other may come to, where the maps may be enumerated anew before each of
them and at the end. -/
inductive Passes : List Step → Memory → Except Failure Memory → Prop where
  | finished {m found : Memory} (shuffled : Shuffled m found) : Passes [] m (.ok found)
  | refused {m found : Memory} {step : Step} (rest : List Step) {failure : Failure}
      (shuffled : Shuffled m found) (refused : step found = .error failure) :
      Passes (step :: rest) m (.error failure)
  | passed {m found later : Memory} {step : Step} {rest : List Step}
      {outcome : Except Failure Memory} (shuffled : Shuffled m found)
      (did : step found = .ok later) (others : Passes rest later outcome) :
      Passes (step :: rest) m outcome

theorem passes_carryOut (steps : List Step) (m : Memory) : Passes steps m (carryOut steps m) := by
  induction steps generalizing m with
  | nil => exact .finished (.refl m)
  | cons step rest ih =>
    rw [carryOut]
    cases did : step m with
    | error failure => exact .refused rest (.refl m) did
    | ok later => exact .passed (.refl m) did (ih later)

/-- The maps may have been enumerated anew before the steps are taken. -/
theorem Passes.of_shuffled {steps : List Step} {outcome : Except Failure Memory}
    (passes : Passes steps other outcome) (shuffled : Shuffled m other) :
    Passes steps m outcome := by
  cases passes with
  | finished again => exact .finished (shuffled.trans again)
  | refused rest again refused => exact .refused rest (shuffled.trans again) refused
  | passed again did others => exact .passed (shuffled.trans again) did others

theorem sound_carryOut {steps : List Step} (steady : ∀ step ∈ steps, step.Steady) {written : Memory}
    (sound : m.Sound) (did : carryOut steps m = .ok written) : written.Sound := by
  induction steps generalizing m with
  | nil => cases did; exact sound
  | cons step rest ih =>
    obtain ⟨later, first, others⟩ := of_bind_eq_ok did
    obtain ⟨_, keeps⟩ := steady step List.mem_cons_self
    exact ih (fun other member => steady other (List.mem_cons_of_mem _ member))
      (keeps m later sound first) others

/-- By induction over the steps, of which each finds the entries that the one before it has left,
whatever their orders are. -/
theorem Passes.same {steps : List Step} {outcome : Except Failure Memory}
    (passes : Passes steps other outcome) (steady : ∀ step ∈ steps, step.Steady) (sound : m.Sound)
    (shuffled : Shuffled m other) : SameEntries (carryOut steps m) outcome := by
  induction passes generalizing m with
  | finished again => exact shuffled.trans again
  | refused rest again refused =>
    have same := (steady _ List.mem_cons_self).same m _ sound (shuffled.trans again)
    rw [refused] at same
    rw [carryOut, same.of_error]
    exact rfl
  | passed again did others ih =>
    have first := steady _ List.mem_cons_self
    have same := first.same m _ sound (shuffled.trans again)
    rw [did] at same
    obtain ⟨written, wrote, left⟩ := same.of_ok
    rw [carryOut, wrote, ok_bind]
    exact ih (fun step later => steady step (List.mem_cons_of_mem _ later))
      (first.sound m written sound wrote) left

end Memory

open Memory

/-- The steps in which an operation writes, of which a read has none. -/
def Operation.memorySteps (now : Instant) : Operation → List Step
  | .putAgent agent => [fun m => .ok (m.putAgent agent)]
  | .putAttestation entry => [fun m => .ok (m.putAttestation entry)]
  | .createCluster cluster =>
    [insertCluster now cluster, addMembers cluster.uid cluster.members]
  | .editCluster cluster =>
    [updateCluster cluster, fun m => .ok (m.removeMembers cluster.uid),
      addMembers cluster.uid cluster.members]
  | .deleteCluster uid => [Memory.deleteCluster uid]
  | _ => []

/-- What an operation answers after its steps. -/
def Operation.reply (now : Instant) (operation : Operation) (m : Memory) :
    Except Failure Answer :=
  match operation with
  | .putAgent _ | .putAttestation _ | .deleteCluster _ => .ok .done
  | .createCluster cluster | .editCluster cluster => (m.findCluster cluster.uid).map .cluster
  | reading => (m.perform now reading).1

namespace Memory

theorem steady_steps (now : Instant) (operation : Operation) :
    ∀ step ∈ operation.memorySteps now, step.Steady := by
  cases operation with
  | putAgent agent =>
    exact List.forall_mem_singleton.mpr (steady_putAgent agent)
  | putAttestation entry =>
    exact List.forall_mem_singleton.mpr (steady_putAttestation entry)
  | createCluster cluster =>
    exact List.forall_mem_cons.mpr ⟨steady_insertCluster now cluster,
      List.forall_mem_singleton.mpr (steady_addMembers _ _)⟩
  | editCluster cluster =>
    exact List.forall_mem_cons.mpr ⟨steady_updateCluster cluster,
      List.forall_mem_cons.mpr ⟨steady_removeMembers _,
        List.forall_mem_singleton.mpr (steady_addMembers _ _)⟩⟩
  | deleteCluster uid => exact List.forall_mem_singleton.mpr (steady_deleteCluster uid)
  | listAgents | findAgent | findAttestation | listClusters | clusterOf | membersOf
  | describeAgents => exact fun _ member => absurd member List.not_mem_nil

/-- A cluster is answered as it is found after the steps of its write. -/
theorem publish_found (uid : ClusterUid) (m : Memory) (outcome : Except Failure Memory) :
    m.publish .cluster (outcome >>= fun written => do
      return (← written.findCluster uid, written)) =
      m.publish id (outcome >>= fun written =>
        ((written.findCluster uid).map Answer.cluster).map (·, written)) := by
  cases outcome with
  | error failure => rfl
  | ok written =>
    rw [ok_bind, ok_bind]
    cases written.findCluster uid <;> rfl

/-- An operation does nothing but its steps, and replies. -/
theorem perform_eq (now : Instant) (operation : Operation) (m : Memory) :
    m.perform now operation = m.publish id
      (carryOut (operation.memorySteps now) m >>= fun written =>
        (operation.reply now written).map (·, written)) := by
  cases operation with
  | putAgent | putAttestation | listAgents | listClusters | membersOf | describeAgents => rfl
  | findAgent agent =>
    change ((m.findAgent agent).map .agent, m) = m.publish id (((m.findAgent agent).map _).map _)
    cases m.findAgent agent <;> rfl
  | findAttestation agent =>
    change ((m.findAttestation agent).map .attestation, m) =
      m.publish id (((m.findAttestation agent).map _).map _)
    cases m.findAttestation agent <;> rfl
  | clusterOf agent =>
    change ((m.clusterOf agent).map .clusterName, m) =
      m.publish id (((m.clusterOf agent).map _).map _)
    cases m.clusterOf agent <;> rfl
  | createCluster cluster =>
    apply Eq.trans _ (publish_found cluster.uid m _)
    simp only [perform, createCluster, Operation.memorySteps, carryOut, bind_assoc, ok_bind]
  | editCluster cluster =>
    apply Eq.trans _ (publish_found cluster.uid m _)
    simp only [perform, editCluster, Operation.memorySteps, carryOut, bind_assoc, ok_bind]
  | deleteCluster uid =>
    rw [perform, Operation.memorySteps, carryOut]
    cases m.deleteCluster uid <;> rfl

/-! ## Operations -/

theorem findCluster_of_alike (sound : m.Sound) (otherSound : other.Sound) (alike : Alike m other)
    (uid : ClusterUid) : m.findCluster uid = other.findCluster uid := by
  rw [findCluster, findCluster, alike.clusters, alike.toCluster sound otherSound]

theorem reply_of_shuffled (sound : m.Sound) (shuffled : Shuffled m other) (now : Instant)
    (operation : Operation) : operation.reply now m = operation.reply now other := by
  have alike := shuffled.alike sound
  have otherSound := shuffled.sound sound
  cases operation with
  | putAgent | putAttestation | deleteCluster => rfl
  | createCluster cluster | editCluster cluster =>
    exact congrArg (Except.map Answer.cluster)
      (findCluster_of_alike sound otherSound alike cluster.uid)
  | listAgents | findAgent | findAttestation | listClusters | clusterOf | membersOf
  | describeAgents => exact alike.perform sound otherSound now rfl

/-- What an operation may answer and leave, where the maps may be enumerated anew before each of its
steps, before its reply, and afterwards. An operation that fails leaves what there was. -/
inductive Performs (now : Instant) (operation : Operation) (m : Memory) :
    Except Failure Answer → Memory → Prop where
  | stopped {left : Memory} {failure : Failure}
      (passes : Passes (operation.memorySteps now) m (.error failure)) (kept : Shuffled m left) :
      Performs now operation m (.error failure) left
  | withdrawn {written left : Memory} {failure : Failure}
      (passes : Passes (operation.memorySteps now) m (.ok written))
      (reply : operation.reply now written = .error failure) (kept : Shuffled m left) :
      Performs now operation m (.error failure) left
  | replied {written left : Memory} {answer : Answer}
      (passes : Passes (operation.memorySteps now) m (.ok written))
      (reply : operation.reply now written = .ok answer) (published : Shuffled written left) :
      Performs now operation m (.ok answer) left

theorem Performs.of_shuffled {now : Instant} {operation : Operation}
    {told : Except Failure Answer} {left : Memory}
    (performs : Performs now operation other told left) (shuffled : Shuffled m other) :
    Performs now operation m told left := by
  cases performs with
  | stopped passes kept => exact .stopped (passes.of_shuffled shuffled) (shuffled.trans kept)
  | withdrawn passes reply kept =>
    exact .withdrawn (passes.of_shuffled shuffled) reply (shuffled.trans kept)
  | replied passes reply published => exact .replied (passes.of_shuffled shuffled) reply published

theorem performs_perform (now : Instant) (operation : Operation) {left : Memory}
    (shuffled : Shuffled (m.perform now operation).2 left) :
    Performs now operation m (m.perform now operation).1 left := by
  have passes := passes_carryOut (operation.memorySteps now) m
  rw [perform_eq] at shuffled ⊢
  cases did : carryOut (operation.memorySteps now) m with
  | error failure =>
    rw [did] at passes shuffled
    exact .stopped passes shuffled
  | ok written =>
    rw [did, ok_bind] at shuffled
    rw [did] at passes
    rw [ok_bind]
    cases reply : operation.reply now written with
    | error failure =>
      rw [reply] at shuffled
      exact .withdrawn passes reply shuffled
    | ok answer =>
      rw [reply] at shuffled
      exact .replied passes reply shuffled

theorem Performs.same {now : Instant} {operation : Operation} {told : Except Failure Answer}
    {left : Memory} (performs : Performs now operation other told left) (sound : m.Sound)
    (shuffled : Shuffled m other) :
    told = (m.perform now operation).1 ∧ Shuffled (m.perform now operation).2 left := by
  have steady := steady_steps now operation
  rw [perform_eq]
  cases performs with
  | stopped passes kept =>
    rw [(passes.same steady sound shuffled).of_error]
    exact ⟨rfl, shuffled.trans kept⟩
  | withdrawn passes reply kept =>
    obtain ⟨wrote, did, same⟩ := (passes.same steady sound shuffled).of_ok
    rw [did, ok_bind, reply_of_shuffled (sound_carryOut steady sound did) same, reply]
    exact ⟨rfl, shuffled.trans kept⟩
  | replied passes reply published =>
    obtain ⟨wrote, did, same⟩ := (passes.same steady sound shuffled).of_ok
    rw [did, ok_bind, reply_of_shuffled (sound_carryOut steady sound did) same, reply]
    exact ⟨rfl, same.trans published⟩

theorem performs_iff (sound : m.Sound) (shuffled : Shuffled m other) (now : Instant)
    (operation : Operation) (told : Except Failure Answer) (left : Memory) :
    Performs now operation other told left ↔
      told = (m.perform now operation).1 ∧ Shuffled (m.perform now operation).2 left := by
  constructor
  · exact fun performs => performs.same sound shuffled
  · rintro ⟨rfl, last⟩
    exact (performs_perform now operation last).of_shuffled shuffled.symm

/-! ## Runs -/

/-- What operations may answer and leave, one after the other. -/
inductive Runs : List (Instant × Operation) → Memory → List (Except Failure Answer) → Memory →
    Prop where
  | finished {m left : Memory} (shuffled : Shuffled m left) : Runs [] m [] left
  | performed {now : Instant} {operation : Operation} {rest : List (Instant × Operation)}
      {m later left : Memory} {told : Except Failure Answer}
      {answers : List (Except Failure Answer)} (performs : Performs now operation m told later)
      (others : Runs rest later answers left) :
      Runs ((now, operation) :: rest) m (told :: answers) left

/-- By induction over the operations, with the orders of the two runs left open. -/
theorem runs_iff (sound : m.Sound) (shuffled : Shuffled m other)
    (steps : List (Instant × Operation)) (answers : List (Except Failure Answer)) (left : Memory) :
    Runs steps other answers left ↔
      answers = Registry.answers steps m ∧ Shuffled (Registry.after steps m) left := by
  induction steps generalizing m other answers with
  | nil =>
    constructor
    · rintro ⟨again⟩
      exact ⟨rfl, shuffled.trans again⟩
    · rintro ⟨rfl, last⟩
      exact .finished (shuffled.symm.trans last)
  | cons step rest ih =>
    obtain ⟨now, operation⟩ := step
    have later := sound_perform now operation sound
    constructor
    · intro runs
      cases runs with
      | performed performs others =>
        obtain ⟨rfl, kept⟩ := performs.same sound shuffled
        obtain ⟨rfl, last⟩ := (ih later kept _).mp others
        exact ⟨rfl, last⟩
    · rintro ⟨rfl, last⟩
      have first := (performs_iff sound shuffled now operation _ _).mpr ⟨rfl, .refl _⟩
      exact .performed first ((ih later (.refl _) _).mpr ⟨rfl, last⟩)

/-- However the maps are enumerated at each step of a run, the answers are those of the run in which
they keep their order, and so are the entries that are left. -/
theorem order_unobservable (steps : List (Instant × Operation))
    (answers : List (Except Failure Answer)) (left : Memory) :
    Runs steps {} answers left ↔ answers = Registry.answers steps ({} : Memory) ∧
      Shuffled (Registry.after steps ({} : Memory)) left :=
  runs_iff sound_empty (.refl _) steps answers left

end Memory

end Roster
