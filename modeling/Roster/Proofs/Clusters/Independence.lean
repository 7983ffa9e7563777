import Roster.Proofs.Clusters.Decision
import Roster.Proofs.Ledger
import Roster.Proofs.Memory.Scope

/-!
Writes that have nothing to do with each other may come in either order.

What a call touches can be told from the clusters that are listed beforehand. Two calls that touch
nothing in common are answered alike in either order, failures included, and what is read afterwards
does not tell which of them came first. In a database the order shows in the numbers of the rows,
which are never read. A call that does not fit leaves nothing there for the other one to see.
-/

namespace Roster

/-- What a write touches where these clusters are listed: the agents that it names and the members
of the cluster that it is about, this cluster, and the names that it gives and takes away. -/
def Operation.scope (operation : Operation) (clusters : List Cluster) : Scope :=
  let addressed := clusters.filter fun cluster => operation.uid? = some cluster.uid
  { agents := operation.named ++ addressed.flatMap (·.members)
    uids := operation.uid?.toList
    names := operation.name?.toList ++ addressed.map (·.name) }

namespace Call

variable {σ : Type} [Registry σ] {first second : Call} {registry : σ}

/-- Where both calls pass the checks, they touch nothing in common. -/
def Independent (first second : Call) (registry : σ) : Prop :=
  ∀ clusters p q, Lists registry clusters → first.Asks p → second.Asks q →
    (p.scope clusters).Apart (q.scope clusters)

/-- The calls are answered alike in either order, and no read tells afterwards which came first. -/
structure Commute (first second : Call) (registry : σ) : Prop where
  answer : (first.serve (second.serve registry).2).1 = (first.serve registry).1
  otherAnswer : (second.serve (first.serve registry).2).1 = (second.serve registry).1
  reads : ∀ call : Call, call.request.isWrite = false →
    (call.serve (second.serve (first.serve registry).2).2).1 =
      (call.serve (first.serve (second.serve registry).2).2).1

theorem Commute.symm (commute : Commute first second registry) : Commute second first registry where
  answer := commute.otherAnswer
  otherAnswer := commute.answer
  reads call read := (commute.reads call read).symm

/-- A call that does not pass the checks is refused in any registry, and leaves it alone. -/
theorem commute_of_invalid {reason : Invalid}
    (invalid : first.request.check (.ofNibbles first.nibbles) = .error reason) (registry : σ) :
    Commute first second registry := by
  have refused (registry : σ) : first.serve registry = (.error (.invalid reason), registry) :=
    serve_of_invalid invalid registry
  constructor
  · rw [refused, refused]
  · rw [refused]
  · intro call _
    rw [refused, refused]

end Call

open Call

/-! ## In memory -/

namespace Memory

variable {m other : Memory}

theorem covers_scope (operation : Operation) (clusters : List Cluster) :
    (operation.scope clusters).Covers operation where
  agents _ := List.mem_append_left _
  uid _ := Option.mem_toList.mpr
  name _ given := List.mem_append_left _ (Option.mem_toList.mpr given)

theorem closed_scope (sound : m.Sound) (operation : Operation) :
    (operation.scope m.listClusters).Closed m where
  members agent uid found inside := by
    have placed : (agent, uid) ∈ m.memberships := Directory.mem_of_find? found
    obtain ⟨stored, look⟩ := Directory.exists_find? (sound.placed _ placed)
    have listed := mem_listClusters.mpr ⟨_, Directory.mem_of_find? look, rfl⟩
    apply List.mem_append_right
    rw [List.mem_flatMap]
    refine ⟨m.toCluster uid stored, List.mem_filter.mpr ⟨listed, ?_⟩, mem_members.mpr placed⟩
    exact decide_eq_true (Option.mem_toList.mp inside)
  names uid name named inside := by
    obtain ⟨stored, found, rfl⟩ := named
    have listed := mem_listClusters.mpr ⟨_, Directory.mem_of_find? found, rfl⟩
    apply List.mem_append_right
    rw [List.mem_map]
    refine ⟨m.toCluster uid stored, List.mem_filter.mpr ⟨listed, ?_⟩, rfl⟩
    exact decide_eq_true (Option.mem_toList.mp inside)

theorem Alike.serve (alike : m.Alike other) (sound : m.Sound) (otherSound : other.Sound)
    {call : Call} (reads : call.request.isWrite = false) :
    (call.serve m).1 = (call.serve other).1 := by
  unfold Call.serve
  cases checked : call.request.check (.ofNibbles call.nibbles) with
  | error reason => rw [serve_of_invalid checked, serve_of_invalid checked]
  | ok operation =>
    have read := (Request.isWrite_of_check checked).trans reads
    have told : (Registry.perform call.now operation m).1 =
        (Registry.perform call.now operation other).1 :=
      alike.perform sound otherSound call.now read
    rw [serve_of_check checked, serve_of_check checked, told]

/-- Either operation comes to what it comes to without the other one, and the order does not show in
what is left. -/
structure Swaps (m : Memory) (now later : Instant) (p q : Operation) : Prop where
  answer : ((m.perform later q).2.perform now p).1 = (m.perform now p).1
  otherAnswer : ((m.perform now p).2.perform later q).1 = (m.perform later q).1
  alike : Alike ((m.perform now p).2.perform later q).2 ((m.perform later q).2.perform now p).2

theorem swaps_of_apart (sound : m.Sound) {p q : Operation} (write : p.isWrite = true)
    (otherWrite : q.isWrite = true)
    (apart : (p.scope m.listClusters).Apart (q.scope m.listClusters)) (now later : Instant) :
    Swaps m now later p q := by
  have closed := closed_scope sound p
  have otherClosed := closed_scope sound q
  have covers := covers_scope p m.listClusters
  have otherCovers := covers_scope q m.listClusters
  exact {
    answer := (Scope.undisturbed apart sound closed otherClosed covers otherCovers write now later).1
    otherAnswer := (Scope.undisturbed apart.symm sound otherClosed closed otherCovers covers
      otherWrite later now).1
    alike := Scope.alike_of_apart apart sound closed otherClosed covers otherCovers write otherWrite
      now later }

theorem commute (sound : m.Sound) {first second : Call} (writes : first.request.isWrite = true)
    (otherWrites : second.request.isWrite = true) (independent : Independent first second m) :
    Commute first second m := by
  cases asks : first.request.check (.ofNibbles first.nibbles) with
  | error reason => exact commute_of_invalid asks m
  | ok p =>
    cases otherAsks : second.request.check (.ofNibbles second.nibbles) with
    | error reason => exact (commute_of_invalid otherAsks m).symm
    | ok q =>
      have swaps := swaps_of_apart sound ((Request.isWrite_of_check asks).trans writes)
        ((Request.isWrite_of_check otherAsks).trans otherWrites)
        (independent m.listClusters p q (lists m) asks otherAsks) first.now second.now
      constructor
      · rw [serve_of_asks asks, serve_of_asks otherAsks, serve_of_asks asks]
        exact congrArg (fun told => (told.map p.receipt).mapError Denial.failed) swaps.answer
      · rw [serve_of_asks otherAsks, serve_of_asks asks, serve_of_asks otherAsks]
        exact congrArg (fun told => (told.map q.receipt).mapError Denial.failed) swaps.otherAnswer
      · intro call reads
        have alike : Alike (second.serve (first.serve m).2).2 (first.serve (second.serve m).2).2 := by
          simp only [serve_of_asks asks, serve_of_asks otherAsks]
          exact swaps.alike
        exact alike.serve (sound_serve (sound_serve sound first) second)
          (sound_serve (sound_serve sound second) first) reads

end Memory

/-! ## In a database -/

namespace Database

variable {c : Connection} {m : Memory}

/-- What a database answers to a call that asks for the operation, where the operation has this
outcome in memory. -/
def answered (operation : Operation) (outcome : Except Failure Answer) : Except Denial Answer :=
  let limited := if operation.Fits then outcome else operation.cutShort outcome
  ((operation.told limited).map operation.receipt).mapError .failed

/-- The registry that a database holds after the operation. -/
def carried (now : Instant) (operation : Operation) (m : Memory) : Memory :=
  if operation.Fits then (m.perform now operation).2 else m

theorem serve_of_holds (holds : Holds c m) {call : Call} {operation : Operation}
    (asks : call.Asks operation) :
    (call.serve c).1 = answered operation (m.perform call.now operation).1 ∧
      Holds (call.serve c).2 (carried call.now operation m) := by
  have tidy := Request.tidy_of_check (ClusterUid.tidy_ofNibbles call.nibbles) asks
  rw [serve_of_asks asks]
  unfold answered carried
  split
  next room =>
    obtain ⟨outcome, later⟩ := Store.perform_answers holds call.now tidy room
    exact ⟨congrArg (fun told => (told.map operation.receipt).mapError Denial.failed) outcome, later⟩
  next excess =>
    obtain ⟨outcome, later⟩ := Store.perform_answers_of_excess holds call.now tidy excess
    exact ⟨congrArg (fun told => (told.map operation.receipt).mapError Denial.failed) outcome, later⟩

/-- Reads do not tell databases apart that hold registries which are alike. -/
theorem read_of_alike {other : Connection} {n : Memory} (holds : Holds c m)
    (otherHolds : Holds other n) (alike : m.Alike n) {call : Call}
    (reads : call.request.isWrite = false) : (call.serve c).1 = (call.serve other).1 := by
  cases asks : call.request.check (.ofNibbles call.nibbles) with
  | error reason =>
    unfold Call.serve
    rw [serve_of_invalid asks, serve_of_invalid asks]
  | ok operation =>
    have read := (Request.isWrite_of_check asks).trans reads
    have same := alike.perform holds.sees.sound otherHolds.sees.sound call.now read
    rw [(serve_of_holds holds asks).1, (serve_of_holds otherHolds asks).1, same]

/-- An operation that does not fit leaves nothing for the other one to see. -/
theorem swaps_carried {now later : Instant} {p q : Operation} (swaps : Memory.Swaps m now later p q) :
    ((carried later q m).perform now p).1 = (m.perform now p).1 ∧
      ((carried now p m).perform later q).1 = (m.perform later q).1 ∧
        (carried later q (carried now p m)).Alike (carried now p (carried later q m)) := by
  by_cases room : p.Fits <;> by_cases otherRoom : q.Fits <;>
    simp only [carried, room, otherRoom, if_true, if_false]
  · exact ⟨swaps.answer, swaps.otherAnswer, swaps.alike⟩
  · exact ⟨trivial, swaps.otherAnswer, .refl _⟩
  · exact ⟨swaps.answer, trivial, .refl _⟩
  · exact ⟨trivial, trivial, .refl _⟩

theorem independent_iff (holds : Holds c m) {first second : Call} :
    Independent first second c ↔ Independent first second m :=
  forall_congr' fun clusters => by simp only [lists_iff holds]

theorem commute (holds : Holds c m) {first second : Call} (writes : first.request.isWrite = true)
    (otherWrites : second.request.isWrite = true) (independent : Independent first second m) :
    Commute first second c := by
  cases asks : first.request.check (.ofNibbles first.nibbles) with
  | error reason => exact commute_of_invalid asks c
  | ok p =>
    cases otherAsks : second.request.check (.ofNibbles second.nibbles) with
    | error reason => exact (commute_of_invalid otherAsks c).symm
    | ok q =>
      have swaps := Memory.swaps_of_apart holds.sees.sound
        ((Request.isWrite_of_check asks).trans writes)
        ((Request.isWrite_of_check otherAsks).trans otherWrites)
        (independent m.listClusters p q (Memory.lists m) asks otherAsks) first.now second.now
      obtain ⟨answer, otherAnswer, alike⟩ := swaps_carried swaps
      obtain ⟨byFirst, holdsFirst⟩ := serve_of_holds holds asks
      obtain ⟨bySecond, holdsSecond⟩ := serve_of_holds holds otherAsks
      obtain ⟨firstLast, holdsFirstLast⟩ := serve_of_holds holdsSecond asks
      obtain ⟨secondLast, holdsSecondLast⟩ := serve_of_holds holdsFirst otherAsks
      constructor
      · rw [firstLast, answer, byFirst]
      · rw [secondLast, otherAnswer, bySecond]
      · intro call read
        exact read_of_alike holdsSecondLast holdsFirstLast alike read

end Database

/-- After any calls, two further writes that touch no cluster, no name and no agent in common are
answered alike in either order, and afterwards every read is answered alike. This holds in memory
and in a database, with references enforced or not, and whatever mishaps befell the statements of
the calls before, as long as none made a database in memory lose its tables. -/
theorem independent_writes_commute (foreignKeys inMemory : Bool)
    (mishaps : List (Option Database.Mishap))
    (gentle : inMemory = true → ∀ mishap, some mishap ∈ mishaps → mishap.endsTransaction = false)
    (calls : List Call) (first second : Call) (writes : first.request.isWrite = true)
    (otherWrites : second.request.isWrite = true) :
    let fresh : Database.Connection := { foreignKeys, inMemory, mishaps }
    let remembered := Call.afterAll calls ({} : Memory)
    let stored := { Call.afterAll calls fresh with mishaps := [] }
    (Independent first second remembered → Commute first second remembered) ∧
      (Independent first second stored → Commute first second stored) := by
  intro fresh remembered stored
  constructor
  · exact Memory.commute (Memory.sound_afterAll calls) writes otherWrites
  · intro independent
    obtain ⟨m, stands⟩ := Database.stands_afterAll foreignKeys gentle calls
    rw [Database.independent_iff stands.holds] at independent
    exact Database.commute stands.holds writes otherWrites independent

/-- A cluster is edited while another one is created. -/
theorem edit_commutes_with_creation :
    let calls : List Call := [⟨.epoch, fun _ => 0, .createCluster (some "u")
      { name := "n", members := ["a"] }⟩]
    let edit : Call := ⟨.epoch, fun _ => 0, .editCluster (some " u ")
      { name := "o", members := ["a", "b"] }⟩
    let creation : Call := ⟨.epoch, fun _ => 0, .createCluster (some "v")
      { name := "p", members := ["c"] }⟩
    let fresh : Database.Connection := { foreignKeys := true, inMemory := true }
    Commute edit creation (Call.afterAll calls ({} : Memory)) ∧
      Commute edit creation { Call.afterAll calls fresh with mishaps := [] } := by
  intro calls edit creation fresh
  have commute := independent_writes_commute true true [] (fun _ _ => nofun) calls edit creation rfl
    rfl
  have apart : ∀ p q, edit.Asks p → creation.Asks q →
      (p.scope (Call.afterAll calls ({} : Memory)).listClusters).Apart
        (q.scope (Call.afterAll calls ({} : Memory)).listClusters) := by
    intro p q asks otherAsks
    have edits := Except.ok.inj asks
    have creates := Except.ok.inj otherAsks
    rw [← edits, ← creates]
    decide +kernel
  constructor
  · apply commute.1
    intro clusters p q lists asks otherAsks
    have listed := Answer.clusters.inj (Except.ok.inj (lists .epoch))
    exact listed ▸ apart p q asks otherAsks
  · apply commute.2
    intro clusters p q lists asks otherAsks
    have same : (Registry.perform .epoch .listClusters
        { Call.afterAll calls fresh with mishaps := [] }).1 =
          .ok (.clusters (Call.afterAll calls ({} : Memory)).listClusters) := by
      decide +kernel
    have listed := Answer.clusters.inj (Except.ok.inj (same.symm.trans (lists .epoch)))
    exact listed ▸ apart p q asks otherAsks

end Roster
