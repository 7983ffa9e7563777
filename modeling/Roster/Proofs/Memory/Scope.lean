import Roster.Proofs.Memory.Alike

/-!
What a write looks at, and what it touches.

A write names agents. A write of a cluster addresses a uid and may give a name, and it releases the
members that the cluster has. The answer and the effect depend on these alone, and nothing else is
touched. So two writes that have nothing of this in common may change places: each finds what it
looks at as it was, and the effects meet nowhere.
-/

namespace Roster

/-- The agents that a write names. -/
def Operation.named : Operation → List AgentId
  | .putAgent agent => [agent.id]
  | .putAttestation entry => [entry.agent]
  | .createCluster cluster | .editCluster cluster => cluster.members
  | _ => []

/-- The uid of the cluster that is written. -/
def Operation.uid? : Operation → Option ClusterUid
  | .createCluster cluster | .editCluster cluster => some cluster.uid
  | .deleteCluster uid => some uid
  | _ => none

/-- The name that is given to the cluster. -/
def Operation.name? : Operation → Option ClusterName
  | .createCluster cluster | .editCluster cluster => some cluster.name
  | _ => none

/-- Agents, clusters and names. -/
structure Scope where
  agents : List AgentId
  uids : List ClusterUid
  names : List ClusterName

namespace Memory

variable {m other written : Memory} {cluster : Cluster} {stored : StoredCluster}

/-! ## Look-ups after a write -/

/-- The cluster with the uid has the name. -/
def Names (m : Memory) (uid : ClusterUid) (name : ClusterName) : Prop :=
  ∃ stored, m.clusters.find? uid = some stored ∧ stored.name = name

theorem nameTaken_iff_names (sound : m.Sound) {name : ClusterName} {besides : Option ClusterUid} :
    m.nameTaken name besides = true ↔ ∃ uid, m.Names uid name ∧ some uid ≠ besides := by
  rw [nameTaken_iff]
  constructor
  · intro ⟨entry, member, named, different⟩
    exact ⟨entry.1, ⟨entry.2, Directory.find?_of_mem sound.clusters member, named⟩, different⟩
  · intro ⟨uid, ⟨stored, found, named⟩, different⟩
    exact ⟨(uid, stored), Directory.mem_of_find? found, named, different⟩

theorem assignable_congr {agents : List AgentId} {first second : Directory AgentId ClusterUid}
    (same : ∀ agent ∈ agents, first.find? agent = second.find? agent) :
    Assignable agents first ↔ Assignable agents second := by
  apply and_congr_right
  intro _
  apply forall₂_congr
  intro agent member
  rw [← Directory.find?_eq_none_iff, ← Directory.find?_eq_none_iff, same agent member]

theorem find?_emptied (sound : m.Sound) (uid : ClusterUid)
    (clusters : Directory ClusterUid StoredCluster) (agent : AgentId) :
    (m.emptied uid clusters).memberships.find? agent =
      (m.memberships.find? agent).filter (· ≠ uid) :=
  Directory.find?_filter sound.memberships (fun entry => entry.2 ≠ uid) agent

theorem find?_rewritten (sound : m.Sound) (cluster : Cluster) (stored : StoredCluster)
    (agent : AgentId) :
    (m.rewritten cluster stored).memberships.find? agent =
      ((m.memberships.find? agent).filter (· ≠ cluster.uid)).or
        (if agent ∈ cluster.members then some cluster.uid else none) := by
  rw [← find?_emptied sound cluster.uid (m.clusters.put cluster.uid stored),
    ← find?_batch cluster.uid cluster.members]
  exact Directory.find?_append _ _ agent

end Memory

namespace Scope

open Memory

/-- The write names, addresses and gives nothing outside of the scope. -/
structure Covers (scope : Scope) (operation : Operation) : Prop where
  agents : ∀ agent ∈ operation.named, agent ∈ scope.agents
  uid : ∀ uid, operation.uid? = some uid → uid ∈ scope.uids
  name : ∀ name, operation.name? = some name → name ∈ scope.names

/-- The members and the names of its clusters are in the scope too. -/
structure Closed (scope : Scope) (m : Memory) : Prop where
  members : ∀ agent uid, m.memberships.find? agent = some uid → uid ∈ scope.uids →
    agent ∈ scope.agents
  names : ∀ uid name, m.Names uid name → uid ∈ scope.uids → name ∈ scope.names

/-- The registries say the same of the agents and the clusters in the scope. -/
structure Same (scope : Scope) (m other : Memory) : Prop where
  agents : ∀ agent ∈ scope.agents, m.agents.find? agent = other.agents.find? agent
  attestations : ∀ agent ∈ scope.agents,
    m.attestations.find? agent = other.attestations.find? agent
  clusters : ∀ uid ∈ scope.uids, m.clusters.find? uid = other.clusters.find? uid
  memberships : ∀ agent ∈ scope.agents,
    m.memberships.find? agent = other.memberships.find? agent

/-- The names in the scope are those of the same clusters. -/
def SameNames (scope : Scope) (m other : Memory) : Prop :=
  ∀ name ∈ scope.names, ∀ uid, m.Names uid name ↔ other.Names uid name

/-- Outside of the scope all is left as it was, and nothing in the scope comes to refer to
anything outside. -/
structure Frames (scope : Scope) (m written : Memory) : Prop where
  agents : ∀ agent ∉ scope.agents, written.agents.find? agent = m.agents.find? agent
  attestations : ∀ agent ∉ scope.agents,
    written.attestations.find? agent = m.attestations.find? agent
  clusters : ∀ uid ∉ scope.uids, written.clusters.find? uid = m.clusters.find? uid
  memberships : ∀ agent ∉ scope.agents,
    written.memberships.find? agent = m.memberships.find? agent
  placed : ∀ agent uid, written.memberships.find? agent = some uid →
    uid ∈ scope.uids ∨ m.memberships.find? agent = some uid
  names : ∀ uid name, written.Names uid name → uid ∈ scope.uids → name ∈ scope.names

/-- The scopes have nothing in common. -/
structure Apart (first second : Scope) : Prop where
  agents : ∀ agent ∈ first.agents, agent ∉ second.agents
  uids : ∀ uid ∈ first.uids, uid ∉ second.uids
  names : ∀ name ∈ first.names, name ∉ second.names

instance (first second : Scope) : Decidable (first.Apart second) :=
  decidable_of_iff ((∀ agent ∈ first.agents, agent ∉ second.agents) ∧
      (∀ uid ∈ first.uids, uid ∉ second.uids) ∧ ∀ name ∈ first.names, name ∉ second.names)
    ⟨fun ⟨agents, uids, names⟩ => ⟨agents, uids, names⟩, fun apart => ⟨apart.1, apart.2, apart.3⟩⟩

theorem Apart.symm {first second : Scope} (apart : first.Apart second) : second.Apart first where
  agents agent inSecond inFirst := apart.agents agent inFirst inSecond
  uids uid inSecond inFirst := apart.uids uid inFirst inSecond
  names name inSecond inFirst := apart.names name inFirst inSecond

variable {scope : Scope} {m other written : Memory} {cluster : Cluster} {stored : StoredCluster}

/-! ## What is touched -/

namespace Frames

theorem refl (closed : scope.Closed m) : scope.Frames m m where
  agents _ _ := rfl
  attestations _ _ := rfl
  clusters _ _ := rfl
  memberships _ _ := rfl
  placed _ _ := .inr
  names := closed.names

/-- An agent outside of the scope is a member of no cluster in it. -/
theorem kept (closed : scope.Closed m) {uid : ClusterUid} (inside : uid ∈ scope.uids)
    {agent : AgentId} (outside : agent ∉ scope.agents) :
    (m.memberships.find? agent).filter (· ≠ uid) = m.memberships.find? agent := by
  cases found : m.memberships.find? agent with
  | none => rfl
  | some other =>
    have different : other ≠ uid := by
      intro same
      exact outside (closed.members agent other found (same ▸ inside))
    rw [Option.filter_some, if_pos (decide_eq_true different)]

theorem emptied (sound : m.Sound) (closed : scope.Closed m) {uid : ClusterUid}
    (inside : uid ∈ scope.uids) : scope.Frames m (m.emptied uid (m.clusters.remove uid)) where
  agents _ _ := rfl
  attestations _ _ := rfl
  clusters other outside := by
    have different : other ≠ uid := fun same => outside (same ▸ inside)
    exact (Directory.find?_remove _ _ _).trans (if_neg different)
  memberships agent outside := by
    rw [find?_emptied sound, kept closed inside outside]
  placed agent other found := by
    rw [find?_emptied sound] at found
    exact .inr (Option.filter_eq_some_iff.mp found).1
  names other name named otherInside := by
    obtain ⟨stored, found, same⟩ := named
    apply closed.names other name ⟨stored, ?_, same⟩ otherInside
    have removed := (Directory.find?_remove m.clusters uid other).symm.trans found
    split at removed
    next => cases removed
    next => exact removed

theorem rewritten (sound : m.Sound) (closed : scope.Closed m)
    (agents : ∀ agent ∈ cluster.members, agent ∈ scope.agents) (uid : cluster.uid ∈ scope.uids)
    (name : stored.name ∈ scope.names) : scope.Frames m (m.rewritten cluster stored) where
  agents agent outside := by
    have unnamed : agent ∉ cluster.members := fun member => outside (agents agent member)
    calc (learn cluster.members m.agents).find? agent
      _ = (m.agents.find? agent).or none := by rw [find?_learn, if_neg unnamed]
      _ = m.agents.find? agent := Option.or_none
  attestations _ _ := rfl
  clusters other outside := by
    have different : other ≠ cluster.uid := fun same => outside (same ▸ uid)
    exact (Directory.find?_put _ _ _ _).trans (if_neg different)
  memberships agent outside := by
    have unnamed : agent ∉ cluster.members := fun member => outside (agents agent member)
    rw [find?_rewritten sound, kept closed uid outside, if_neg unnamed, Option.or_none]
  placed agent other found := by
    rw [find?_rewritten sound, Option.or_eq_some_iff] at found
    rcases found with old | ⟨-, new⟩
    · exact .inr (Option.filter_eq_some_iff.mp old).1
    · split at new
      next => cases new; exact .inl uid
      next => cases new
  names other given named inside := by
    obtain ⟨found, look, rfl⟩ := named
    have put := (Directory.find?_put m.clusters cluster.uid other stored).symm.trans look
    split at put
    next => cases put; exact name
    next => exact closed.names other found.name ⟨found, put, rfl⟩ inside

/-- One case for each kind of write. -/
theorem perform (sound : m.Sound) (closed : scope.Closed m) {operation : Operation}
    (covers : scope.Covers operation) (now : Instant) :
    scope.Frames m (m.perform now operation).2 := by
  cases operation with
  | putAgent agent =>
    refine { refl closed with agents := fun other outside => ?_ }
    have different : other ≠ agent.id := by
      intro same
      exact outside (same ▸ covers.agents agent.id List.mem_cons_self)
    exact (Directory.find?_put _ _ _ _).trans (if_neg different)
  | putAttestation entry =>
    have different {other : AgentId} (outside : other ∉ scope.agents) : other ≠ entry.agent := by
      intro same
      exact outside (same ▸ covers.agents entry.agent List.mem_cons_self)
    refine { refl closed with
      agents := fun other outside => ?_, attestations := fun other outside => ?_ }
    · exact (Directory.find?_putNew _ _ _ _).trans (if_neg (different outside))
    · exact (Directory.find?_put _ _ _ _).trans (if_neg (different outside))
  | createCluster cluster =>
    apply publish_keeps (scope.Frames m) _ (refl closed)
    intro record written created
    obtain ⟨stored, rewrites⟩ := rewrites_of_createCluster sound created
    have named : stored.name = cluster.name :=
      congrArg Cluster.name (rewrites.listed.symm.trans rewrites.told)
    rw [rewrites.same]
    exact rewritten sound closed covers.agents (covers.uid _ rfl) (named ▸ covers.name _ rfl)
  | editCluster cluster =>
    apply publish_keeps (scope.Frames m) _ (refl closed)
    intro record written edited
    obtain ⟨stored, rewrites⟩ := rewrites_of_editCluster edited
    have named : stored.name = cluster.name :=
      congrArg Cluster.name (rewrites.listed.symm.trans rewrites.told)
    rw [rewrites.same]
    exact rewritten sound closed covers.agents (covers.uid _ rfl) (named ▸ covers.name _ rfl)
  | deleteCluster uid =>
    apply publish_delete_keeps (scope.Frames m) (refl closed)
    intro written deleted
    obtain ⟨_, same⟩ := of_deleteCluster deleted
    rw [same]
    exact emptied sound closed (covers.uid uid rfl)
  | listAgents | findAgent | findAttestation | listClusters | clusterOf | membersOf
  | describeAgents => exact refl closed

end Frames

/-! ## What is looked at -/

namespace Same

theorem emptied (same : scope.Same m other) (sound : m.Sound) (otherSound : other.Sound)
    (uid : ClusterUid) : scope.Same (m.emptied uid (m.clusters.remove uid))
      (other.emptied uid (other.clusters.remove uid)) where
  agents := same.agents
  attestations := same.attestations
  clusters listed inside := by
    have before := same.clusters listed inside
    calc (m.clusters.remove uid).find? listed
      _ = if listed = uid then none else other.clusters.find? listed := by
        rw [Directory.find?_remove, before]
      _ = (other.clusters.remove uid).find? listed := (Directory.find?_remove _ _ _).symm
  memberships agent inside := by
    rw [find?_emptied sound, find?_emptied otherSound, same.memberships agent inside]

theorem rewritten (same : scope.Same m other) (sound : m.Sound) (otherSound : other.Sound)
    (cluster : Cluster) (stored : StoredCluster) :
    scope.Same (m.rewritten cluster stored) (other.rewritten cluster stored) where
  agents agent inside := by
    have before := same.agents agent inside
    calc (learn cluster.members m.agents).find? agent
      _ = (other.agents.find? agent).or (if agent ∈ cluster.members then some none else none) := by
        rw [find?_learn, before]
      _ = (learn cluster.members other.agents).find? agent := (find?_learn _ _ _).symm
  attestations := same.attestations
  clusters listed inside := by
    have before := same.clusters listed inside
    calc (m.clusters.put cluster.uid stored).find? listed
      _ = if listed = cluster.uid then some stored else other.clusters.find? listed := by
        rw [Directory.find?_put, before]
      _ = (other.clusters.put cluster.uid stored).find? listed := (Directory.find?_put ..).symm
  memberships agent inside := by
    rw [find?_rewritten sound, find?_rewritten otherSound, same.memberships agent inside]

variable (same : scope.Same m other) (names : scope.SameNames m other) (sound : m.Sound)
  (otherSound : other.Sound)
include names sound otherSound

theorem nameTaken {name : ClusterName} (inside : name ∈ scope.names)
    (besides : Option ClusterUid) : m.nameTaken name besides = other.nameTaken name besides := by
  rw [Bool.eq_iff_iff, nameTaken_iff_names sound, nameTaken_iff_names otherSound]
  exact exists_congr fun uid => and_congr_left fun _ => names name inside uid

include same

theorem createCluster (covers : scope.Covers (.createCluster cluster)) (now : Instant) :
    (m.perform now (.createCluster cluster)).1 = (other.perform now (.createCluster cluster)).1 ∧
      scope.Same (m.perform now (.createCluster cluster)).2
        (other.perform now (.createCluster cluster)).2 := by
  have present : m.clusters.contains cluster.uid = other.clusters.contains cluster.uid := by
    rw [Directory.contains_eq_isSome_find?, same.clusters _ (covers.uid _ rfl),
      Directory.contains_eq_isSome_find?]
  have taken := nameTaken names sound otherSound (covers.name _ rfl) none
  have free : Assignable cluster.members m.memberships ↔
      Assignable cluster.members other.memberships :=
    assignable_congr fun agent member => same.memberships agent (covers.agents agent member)
  simp only [perform, createCluster_eq sound, createCluster_eq otherSound, present, taken, free]
  split
  next => exact ⟨rfl, same⟩
  next =>
    split
    next => exact ⟨rfl, same.rewritten sound otherSound cluster _⟩
    next => exact ⟨rfl, same⟩

theorem editCluster (covers : scope.Covers (.editCluster cluster)) (now : Instant) :
    (m.perform now (.editCluster cluster)).1 = (other.perform now (.editCluster cluster)).1 ∧
      scope.Same (m.perform now (.editCluster cluster)).2
        (other.perform now (.editCluster cluster)).2 := by
  have present := same.clusters _ (covers.uid cluster.uid rfl)
  have taken := nameTaken names sound otherSound (covers.name _ rfl) (some cluster.uid)
  have free : Assignable cluster.members (m.removeMembers cluster.uid).memberships ↔
      Assignable cluster.members (other.removeMembers cluster.uid).memberships := by
    apply assignable_congr
    intro agent member
    have before := same.memberships agent (covers.agents agent member)
    calc (m.removeMembers cluster.uid).memberships.find? agent
      _ = (other.memberships.find? agent).filter (· ≠ cluster.uid) := by
        rw [← before]
        exact find?_emptied sound cluster.uid m.clusters agent
      _ = (other.removeMembers cluster.uid).memberships.find? agent :=
        (find?_emptied otherSound cluster.uid other.clusters agent).symm
  simp only [perform, editCluster_eq, present, taken, free]
  cases other.clusters.find? cluster.uid with
  | none => exact ⟨rfl, same⟩
  | some old =>
    dsimp only
    split
    next => exact ⟨rfl, same⟩
    next =>
      split
      next => exact ⟨rfl, same.rewritten sound otherSound cluster _⟩
      next => exact ⟨rfl, same⟩

/-- One case for each kind of write. -/
theorem perform {operation : Operation} (covers : scope.Covers operation)
    (writes : operation.isWrite = true) (now : Instant) :
    (m.perform now operation).1 = (other.perform now operation).1 ∧
      scope.Same (m.perform now operation).2 (other.perform now operation).2 := by
  cases operation with
  | putAgent agent =>
    refine ⟨rfl, { same with agents := fun known inside => ?_ }⟩
    have before := same.agents known inside
    calc (m.agents.put agent.id agent.plugin).find? known
      _ = if known = agent.id then some agent.plugin else other.agents.find? known := by
        rw [Directory.find?_put, before]
      _ = (other.agents.put agent.id agent.plugin).find? known := (Directory.find?_put ..).symm
  | putAttestation entry =>
    have agreed := same.agents entry.agent (covers.agents _ List.mem_cons_self)
    refine ⟨rfl, { same with
      agents := fun known inside => ?_, attestations := fun known inside => ?_ }⟩
    · have before := same.agents known inside
      calc (m.agents.putNew entry.agent none).find? known
        _ = if known = entry.agent then some ((other.agents.find? entry.agent).getD none)
            else other.agents.find? known := by rw [Directory.find?_putNew, before, agreed]
        _ = (other.agents.putNew entry.agent none).find? known := (Directory.find?_putNew ..).symm
    · have before := same.attestations known inside
      calc (m.attestations.put entry.agent entry).find? known
        _ = if known = entry.agent then some entry else other.attestations.find? known := by
          rw [Directory.find?_put, before]
        _ = (other.attestations.put entry.agent entry).find? known :=
          (Directory.find?_put ..).symm
  | createCluster cluster => exact createCluster same names sound otherSound covers now
  | editCluster cluster => exact editCluster same names sound otherSound covers now
  | deleteCluster uid =>
    have present : m.clusters.contains uid = other.clusters.contains uid := by
      rw [Directory.contains_eq_isSome_find?, same.clusters _ (covers.uid _ rfl),
        Directory.contains_eq_isSome_find?]
    simp only [Memory.perform, deleteCluster_eq, present]
    split
    next => exact ⟨rfl, same.emptied sound otherSound uid⟩
    next => exact ⟨rfl, same⟩
  | listAgents | findAgent | findAttestation | listClusters | clusterOf | membersOf
  | describeAgents => cases writes

end Same

/-! ## Changing places -/

section Apart

variable {first second : Scope} (apart : first.Apart second)
include apart

theorem Closed.of_frames (closed : first.Closed m) (frames : second.Frames m written) :
    first.Closed written where
  members agent uid found inside := by
    rcases frames.placed agent uid found with intruded | before
    · exact absurd intruded (apart.uids uid inside)
    · exact closed.members agent uid before inside
  names uid name named inside := by
    obtain ⟨stored, found, same⟩ := named
    rw [frames.clusters uid (apart.uids uid inside)] at found
    exact closed.names uid name ⟨stored, found, same⟩ inside

theorem Same.of_frames (frames : second.Frames m written) : first.Same m written where
  agents agent inside := (frames.agents agent (apart.agents agent inside)).symm
  attestations agent inside := (frames.attestations agent (apart.agents agent inside)).symm
  clusters uid inside := (frames.clusters uid (apart.uids uid inside)).symm
  memberships agent inside := (frames.memberships agent (apart.agents agent inside)).symm

/-- The clusters in the other scope have names of that scope, before and afterwards. -/
theorem SameNames.of_frames (closed : second.Closed m) (frames : second.Frames m written) :
    first.SameNames m written := by
  intro name inside uid
  by_cases foreign : uid ∈ second.uids
  · have before : ¬m.Names uid name :=
      fun named => apart.names name inside (closed.names uid name named foreign)
    have afterwards : ¬written.Names uid name :=
      fun named => apart.names name inside (frames.names uid name named foreign)
    exact iff_of_false before afterwards
  · rw [Names, Names, frames.clusters uid foreign]

variable {p q : Operation} (sound : m.Sound) (closed : first.Closed m)
  (otherClosed : second.Closed m) (covers : first.Covers p) (otherCovers : second.Covers q)
include sound closed otherClosed covers otherCovers

/-- A write does the same after one that is apart from it as it does in its place. -/
theorem undisturbed (writes : p.isWrite = true) (now later : Instant) :
    ((m.perform later q).2.perform now p).1 = (m.perform now p).1 ∧
      first.Same (m.perform now p).2 ((m.perform later q).2.perform now p).2 ∧
        first.Frames (m.perform later q).2 ((m.perform later q).2.perform now p).2 := by
  have frames := Frames.perform sound otherClosed otherCovers later
  have disturbed : (m.perform later q).2.Sound := sound_perform later q sound
  obtain ⟨answer, written⟩ := (Same.of_frames apart frames).perform
    (SameNames.of_frames apart otherClosed frames) sound disturbed covers writes now
  have stays := closed.of_frames apart frames
  exact ⟨answer.symm, written, Frames.perform disturbed stays covers now⟩

end Apart

/-- What is said of a key after both of two writes, of which each frames the keys outside of its
own and does there the same before and after the other one. -/
theorem meet {κ α : Type} {inFirst inSecond : κ → Prop}
    {before byFirst bySecond firstLast secondLast : κ → α}
    (first : ∀ key, ¬inFirst key → byFirst key = before key)
    (second : ∀ key, ¬inSecond key → bySecond key = before key)
    (framedFirst : ∀ key, ¬inFirst key → firstLast key = bySecond key)
    (framedSecond : ∀ key, ¬inSecond key → secondLast key = byFirst key)
    (sameFirst : ∀ key, inFirst key → byFirst key = firstLast key)
    (sameSecond : ∀ key, inSecond key → bySecond key = secondLast key)
    (apart : ∀ key, inFirst key → ¬inSecond key) (key : κ) : secondLast key = firstLast key := by
  by_cases inside : inFirst key
  · calc secondLast key
      _ = byFirst key := framedSecond key (apart key inside)
      _ = firstLast key := sameFirst key inside
  · by_cases other : inSecond key
    · calc secondLast key
        _ = bySecond key := (sameSecond key other).symm
        _ = firstLast key := (framedFirst key inside).symm
    · calc secondLast key
        _ = byFirst key := framedSecond key other
        _ = before key := first key inside
        _ = bySecond key := (second key other).symm
        _ = firstLast key := (framedFirst key inside).symm

/-- Two writes that have nothing in common leave the same in either order. -/
theorem alike_of_apart {first second : Scope} (apart : first.Apart second) (sound : m.Sound)
    (closed : first.Closed m) (otherClosed : second.Closed m) {p q : Operation}
    (covers : first.Covers p) (otherCovers : second.Covers q) (writes : p.isWrite = true)
    (otherWrites : q.isWrite = true) (now later : Instant) :
    Alike ((m.perform now p).2.perform later q).2 ((m.perform later q).2.perform now p).2 := by
  have frames := Frames.perform sound closed covers now
  have otherFrames := Frames.perform sound otherClosed otherCovers later
  obtain ⟨-, same, framed⟩ :=
    undisturbed apart sound closed otherClosed covers otherCovers writes now later
  obtain ⟨-, otherSame, otherFramed⟩ :=
    undisturbed apart.symm sound otherClosed closed otherCovers covers otherWrites later now
  constructor
  · exact meet frames.agents otherFrames.agents framed.agents otherFramed.agents same.agents
      otherSame.agents apart.agents
  · exact meet frames.attestations otherFrames.attestations framed.attestations
      otherFramed.attestations same.attestations otherSame.attestations apart.agents
  · exact meet frames.clusters otherFrames.clusters framed.clusters otherFramed.clusters
      same.clusters otherSame.clusters apart.uids
  · exact meet frames.memberships otherFrames.memberships framed.memberships
      otherFramed.memberships same.memberships otherSame.memberships apart.agents

end Scope

end Roster
