import Roster.Proofs.Database.Achieved
import Roster.Proofs.Database.Batches
import Roster.Proofs.Database.Dump
import Roster.Proofs.Memory.Alike

/-!
Batches in parts, and in another order.

To add a batch of members is the same as to add its first part and then the rest, in the database
and in memory. The rows that the first part has added are found by the second one just as rows of
the same statement are found. The order of a batch decides nothing but which numbers are given.

There is one difference. A batch for whose values there is no room cannot be added to the database,
and yet its parts can.
-/

namespace Roster.Database

open Database.Action

namespace Tables

variable {t : Tables} {foreignKeys : Bool} {cluster : ClusterRow}

/-! ## Rows that were there before a batch -/

theorem find?_append_of_known {α β : Type} [DecidableEq β] {rows more : List α} {key : α → β}
    {value : β} (known : value ∈ rows.map key) :
    (rows ++ more).find? (fun row => key row = value) = rows.find? (fun row => key row = value) := by
  obtain ⟨row, member, same⟩ := List.mem_map.mp known
  have found : (rows.find? fun row => key row = value).isSome :=
    List.find?_isSome.mpr ⟨row, member, decide_eq_true same⟩
  rw [List.find?_append, Option.or_of_isSome found]

theorem agent?_enroll {id : Nat} (known : id ∈ t.agents.map (·.id)) (spiffeids : List String) :
    (t.enroll spiffeids).agent? id = t.agent? id := by
  obtain ⟨added, newcomers, enrolled⟩ := t.enroll_eq spiffeids
  rw [enrolled]
  exact find?_append_of_known known

theorem agentNamed?_enroll {spiffeid : String} (known : spiffeid ∈ t.agents.map (·.spiffeid))
    (spiffeids : List String) :
    (t.enroll spiffeids).agentNamed? spiffeid = t.agentNamed? spiffeid := by
  obtain ⟨added, newcomers, enrolled⟩ := t.enroll_eq spiffeids
  rw [enrolled]
  exact find?_append_of_known known

/-! ## A batch in two parts -/

/-- Agents are added whatever the memberships are. -/
theorem enroll_withMemberships (t : Tables) (memberships : List MembershipRow)
    (spiffeids : List String) :
    enroll { t with memberships } spiffeids = { t.enroll spiffeids with memberships } := by
  have once (t : Tables) (spiffeid : String) :
      ensureAgent { t with memberships } spiffeid = { t.ensureAgent spiffeid with memberships } := by
    by_cases known : (t.agentNamed? spiffeid).isSome
    · have ensured : t.ensureAgent spiffeid = t.takeAgentId := if_pos known
      rw [ensured]
      exact if_pos known
    · have ensured : t.ensureAgent spiffeid = t.takeAgentId.addAgent spiffeid none := if_neg known
      rw [ensured]
      exact if_neg known
  induction spiffeids generalizing t with
  | nil => rfl
  | cons spiffeid rest ih =>
    calc enroll { t with memberships } (spiffeid :: rest)
      _ = enroll (ensureAgent { t with memberships } spiffeid) rest := rfl
      _ = enroll { t.ensureAgent spiffeid with memberships } rest := by rw [once]
      _ = { (t.ensureAgent spiffeid).enroll rest with memberships } := ih _

theorem rowsFor_append (t : Tables) (clusterId : Nat) (first second : List String) :
    t.rowsFor clusterId (first ++ second) =
      t.rowsFor clusterId first ++ t.rowsFor clusterId second :=
  List.filterMap_append

theorem rowsFor_enroll {spiffeids : List String}
    (known : ∀ spiffeid ∈ spiffeids, spiffeid ∈ t.agents.map (·.spiffeid)) (clusterId : Nat)
    (more : List String) :
    (t.enroll more).rowsFor clusterId spiffeids = t.rowsFor clusterId spiffeids := by
  apply List.filterMap_congr
  intro spiffeid listed
  rw [agentNamed?_enroll (known spiffeid listed)]

/-- Who was placed by the first part counts as placed for the second one. -/
theorem Intact.placeable_append (intact : t.Intact (.any foreignKeys)) (clusterId : Nat)
    (first second : List String) :
    t.Placeable (first ++ second) ↔
      t.Placeable first ∧ ((t.enroll first).place clusterId first).Placeable second := by
  have known : ∀ spiffeid ∈ first, spiffeid ∈ (t.enroll first).agents.map (·.spiffeid) :=
    fun _ offered => t.known_enroll offered
  simp only [Placeable, (intact.enroll first).assigned_place known, intact.assigned_enroll]
  exact free_append _ first second

theorem place_append (t : Tables) (clusterId : Nat) (first second : List String) :
    (((t.enroll first).place clusterId first).enroll second).place clusterId second =
      (t.enroll (first ++ second)).place clusterId (first ++ second) := by
  let begun := t.enroll first
  let done := begun.enroll second
  let rows := begun.memberships ++ begun.rowsFor clusterId first
  have known : ∀ spiffeid ∈ first, spiffeid ∈ begun.agents.map (·.spiffeid) :=
    fun _ offered => t.known_enroll offered
  have kept : done.memberships = begun.memberships := begun.memberships_enroll second
  have later : (begun.place clusterId first).enroll second = { done with memberships := rows } :=
    begun.enroll_withMemberships rows second
  calc ((begun.place clusterId first).enroll second).place clusterId second
    _ = { done with memberships := rows }.place clusterId second := by rw [later]
    _ = { done with memberships := rows ++ done.rowsFor clusterId second } := rfl
    _ = { done with memberships :=
        done.memberships ++ (done.rowsFor clusterId first ++ done.rowsFor clusterId second) } := by
      rw [rowsFor_enroll known, kept, List.append_assoc]
    _ = done.place clusterId (first ++ second) := by rw [place, rowsFor_append]
    _ = (t.enroll (first ++ second)).place clusterId (first ++ second) := by rw [enroll_append]

theorem join_eq_ok_iff {uid : String} {spiffeids : List String} {later : Tables} :
    t.join uid spiffeids = .ok later ↔ ∃ cluster, t.clusterWith? uid = some cluster ∧
      t.Placeable spiffeids ∧ later = (t.enroll spiffeids).place cluster.id spiffeids := by
  rw [join]
  cases t.clusterWith? uid with
  | none => simp
  | some cluster =>
    by_cases placeable : t.Placeable spiffeids
    · simp [placeable, eq_comm]
    · simp [placeable]

theorem clusterWith?_joined (t : Tables) (clusterId : Nat) (uid : String)
    (spiffeids : List String) :
    ((t.enroll spiffeids).place clusterId spiffeids).clusterWith? uid = t.clusterWith? uid := by
  change (t.enroll spiffeids).clusters.find? _ = _
  rw [clusters_enroll, clusterWith?]

/-- Two batches, one after the other, are one batch. -/
theorem Intact.join_append (intact : t.Intact (.any foreignKeys)) (uid : String)
    (first second : List String) (later : Tables) :
    t.join uid (first ++ second) = .ok later ↔
      ∃ between, t.join uid first = .ok between ∧ between.join uid second = .ok later := by
  simp only [join_eq_ok_iff]
  constructor
  · intro ⟨cluster, found, placeable, same⟩
    rw [intact.placeable_append cluster.id] at placeable
    refine ⟨_, ⟨cluster, found, placeable.1, rfl⟩, cluster, ?_, placeable.2, ?_⟩
    · rw [clusterWith?_joined, found]
    · rw [same, place_append]
  · intro ⟨_, ⟨cluster, found, placeable, between⟩, again, foundAgain, more, same⟩
    subst between
    rw [clusterWith?_joined, found] at foundAgain
    cases foundAgain
    refine ⟨cluster, found, (intact.placeable_append cluster.id _ _).mpr ⟨placeable, more⟩, ?_⟩
    rw [same, place_append]

/-- The tables after a batch keep their rules. -/
theorem Intact.join (intact : t.Intact (.any foreignKeys)) (complete : t.missing = [])
    {uid : String} {spiffeids : List String} {later : Tables}
    (joined : t.join uid spiffeids = .ok later) : later.Intact (.any foreignKeys) := by
  obtain ⟨cluster, found, placeable, rfl⟩ := join_eq_ok_iff.mp joined
  have inserted : spiffeids.foldlM (insertMembership cluster.uid) (t.enroll spiffeids) =
      .ok ((t.enroll spiffeids).place cluster.id spiffeids) := by
    rw [foldlM_insertMembership (intact.enroll spiffeids)
      (t.clusters_enroll spiffeids ▸ (of_find? found).1) fun _ listed => t.known_enroll listed,
      if_pos ((intact.placeable_enroll spiffeids).mpr placeable)]
  have there : .memberships ∉ (t.enroll spiffeids).missing := by
    rw [enroll_rest, complete]
    exact List.not_mem_nil
  exact (unbreakable_intact _).becomes (becomes_foldlM_insertMembership there inserted)
    (intact.enroll _)

/-! ## A batch in another order -/

theorem Newcomers.mem_entries {spiffeids : List String} {added : List AgentRow}
    (newcomers : t.Newcomers spiffeids added) (entry : String × Option String) :
    entry ∈ entries added ↔ entry.2 = none ∧
      entry.1 ∈ spiffeids ∧ entry.1 ∉ t.agents.map (·.spiffeid) := by
  rw [← newcomers.exactly, entries, List.mem_map]
  constructor
  · intro listed
    obtain ⟨row, member, same⟩ := listed
    subst same
    exact ⟨newcomers.plain row member, List.mem_map_of_mem member⟩
  · intro plainly
    obtain ⟨plain, named⟩ := plainly
    obtain ⟨row, member, same⟩ := List.mem_map.mp named
    refine ⟨row, member, Prod.ext same ?_⟩
    rw [plain]
    exact newcomers.plain row member

/-- Which agents are added does not depend on the order of the batch. -/
theorem perm_entries_enroll {spiffeids others : List String} (perm : spiffeids.Perm others) :
    (entries (t.enroll spiffeids).agents).Perm (entries (t.enroll others).agents) := by
  obtain ⟨added, newcomers, enrolled⟩ := t.enroll_eq spiffeids
  obtain ⟨addedToo, newcomersToo, enrolledToo⟩ := t.enroll_eq others
  have distinct {spiffeids : List String} {added : List AgentRow}
      (newcomers : t.Newcomers spiffeids added) : (entries added).Nodup := by
    apply List.Nodup.of_map Prod.fst
    rw [entries, List.map_map]
    exact newcomers.once
  have same : (entries added).Perm (entries addedToo) := by
    rw [List.perm_ext_iff_of_nodup (distinct newcomers) (distinct newcomersToo)]
    intro entry
    rw [newcomers.mem_entries, newcomersToo.mem_entries, perm.mem_iff]
  rw [enrolled, enrolledToo]
  simp only [entries, List.map_append]
  exact same.append_left _

theorem Intact.placement_rowsFor {terms : Terms} (intact : t.Intact terms)
    (present : cluster ∈ t.clusters) {spiffeids : List String}
    (known : ∀ spiffeid ∈ spiffeids, spiffeid ∈ t.agents.map (·.spiffeid)) :
    (t.rowsFor cluster.id spiffeids).map t.placement =
      spiffeids.map fun spiffeid => (some spiffeid, some cluster.uid) := by
  induction spiffeids with
  | nil => rfl
  | cons spiffeid rest ih =>
    rw [List.forall_mem_cons] at known
    obtain ⟨agent, agentKnown, rfl⟩ := List.mem_map.mp known.1
    have told : t.placement ⟨agent.id, cluster.id⟩ = (some agent.spiffeid, some cluster.uid) := by
      rw [placement, intact.agent?_eq agentKnown, intact.cluster?_eq present]
      rfl
    have rows := t.rowsFor_append cluster.id [agent.spiffeid] rest
    rw [List.singleton_append, rowsFor_singleton intact agentKnown] at rows
    rw [rows, List.map_append, ih known.2, List.map_singleton, told]
    rfl

/-- What the numbers stand for stays as it is when agents are added. -/
theorem placement_enroll {row : MembershipRow} (known : row.agentId ∈ t.agents.map (·.id))
    (spiffeids : List String) : (t.enroll spiffeids).placement row = t.placement row := by
  have clusters : (t.enroll spiffeids).cluster? row.clusterId = t.cluster? row.clusterId := by
    rw [cluster?, clusters_enroll, cluster?]
  rw [placement, agent?_enroll known, clusters, placement]

theorem attestation_enroll {row : SelectorRow} (known : row.agentId ∈ t.agents.map (·.id))
    (spiffeids : List String) : (t.enroll spiffeids).attestation row = t.attestation row := by
  rw [attestation, agent?_enroll known, attestation]

/-- After a batch there are the memberships from before and one for each agent. -/
theorem Intact.placements_joined (intact : t.Intact (.any foreignKeys))
    (present : cluster ∈ t.clusters) (spiffeids : List String) :
    let joined := (t.enroll spiffeids).place cluster.id spiffeids
    joined.memberships.map joined.placement = t.memberships.map t.placement ++
      spiffeids.map fun spiffeid => (some spiffeid, some cluster.uid) := by
  intro joined
  let grown := t.enroll spiffeids
  calc joined.memberships.map joined.placement
    _ = (grown.memberships ++ grown.rowsFor cluster.id spiffeids).map grown.placement := rfl
    _ = t.memberships.map grown.placement ++
        spiffeids.map fun spiffeid => (some spiffeid, some cluster.uid) := by
      rw [List.map_append, memberships_enroll,
        (intact.enroll spiffeids).placement_rowsFor (t.clusters_enroll spiffeids ▸ present)
          fun _ offered => t.known_enroll offered]
    _ = _ := by
      rw [List.map_congr_left fun row member => placement_enroll (intact.known row member) spiffeids]

theorem Intact.attestations_joined (intact : t.Intact (.any foreignKeys)) (clusterId : Nat)
    (spiffeids : List String) :
    let joined := (t.enroll spiffeids).place clusterId spiffeids
    joined.selectors.map joined.attestation = t.selectors.map t.attestation := by
  intro joined
  have selectors : joined.selectors = t.selectors := by
    change (t.enroll spiffeids).selectors = t.selectors
    rw [enroll_rest]
  rw [selectors]
  apply List.map_congr_left
  intro row member
  exact attestation_enroll (intact.attestedKnown row member) spiffeids

/-- The order of a batch matters neither to whether it is refused nor to what it leaves. -/
theorem placeable_perm {spiffeids others : List String} (perm : spiffeids.Perm others) :
    t.Placeable spiffeids ↔ t.Placeable others := by
  simp only [Placeable, perm.nodup_iff, perm.mem_iff]

theorem Intact.sameContents_joined (intact : t.Intact (.any foreignKeys))
    (present : cluster ∈ t.clusters) {spiffeids others : List String}
    (perm : spiffeids.Perm others) :
    ((t.enroll spiffeids).place cluster.id spiffeids).SameContents
      ((t.enroll others).place cluster.id others) where
  missing := by
    change (t.enroll spiffeids).missing = (t.enroll others).missing
    rw [enroll_rest, t.enroll_rest others]
  agents := perm_entries_enroll perm
  clusters := (t.clusters_enroll spiffeids).trans (t.clusters_enroll others).symm
  memberships := by
    rw [intact.placements_joined present, intact.placements_joined present]
    exact (perm.map _).append_left _
  selectors := by
    rw [intact.attestations_joined, intact.attestations_joined]

/-- A batch is refused for the same reason in any order, or else leaves the same in any order. -/
theorem Intact.join_perm (intact : t.Intact (.any foreignKeys)) (uid : String)
    {spiffeids others : List String} (perm : spiffeids.Perm others) :
    (∃ refusal, t.join uid spiffeids = .error refusal ∧ t.join uid others = .error refusal) ∨
      ∃ joined joinedToo, t.join uid spiffeids = .ok joined ∧ t.join uid others = .ok joinedToo ∧
        joined.SameContents joinedToo := by
  by_cases present : ∃ cluster ∈ t.clusters, cluster.uid = uid
  · obtain ⟨cluster, member, rfl⟩ := present
    rw [join_of_present intact member, join_of_present intact member]
    by_cases placeable : t.Placeable spiffeids
    · rw [if_pos placeable, if_pos ((placeable_perm perm).mp placeable)]
      exact .inr ⟨_, _, rfl, rfl, intact.sameContents_joined member perm⟩
    · rw [if_neg placeable, if_neg fun other => placeable ((placeable_perm perm).mpr other)]
      exact .inl ⟨_, rfl, rfl⟩
  · have absent : ∀ cluster ∈ t.clusters, cluster.uid ≠ uid :=
      fun cluster member same => present ⟨cluster, member, same⟩
    exact .inl ⟨_, join_of_absent absent spiffeids, join_of_absent absent others⟩

end Tables

theorem Action.bind_eq_ok_iff {α β : Type} {first : Action α} {second : α → Action β}
    {c later : Connection} {b : β} :
    (first >>= second) c = (.ok b, later) ↔
      ∃ a between, first c = (.ok a, between) ∧ second a between = (.ok b, later) :=
  ⟨of_bind, fun ⟨_, _, did, continued⟩ => (bind_of_ok did second).trans continued⟩

namespace Transaction

variable {c later : Connection} {t : Tables} {foreignKeys : Bool}

/-- A batch has gone well if both statements have. -/
theorem Open.addMembers_ok (opened : Open foreignKeys t c) (uid : ClusterUid)
    {agents : List AgentId} (nonempty : agents ≠ []) :
    Transaction.addMembers uid agents c = (.ok (), later) ↔
      (Statement.insertMemberships agents.length).Fits ∧
        ∃ joined, t.join uid.text (agents.map AgentId.text) = .ok joined ∧
          later = { c with working := some joined } := by
  by_cases room : (Statement.insertMemberships agents.length).Fits
  · rw [opened.addMembers uid nonempty room, and_iff_right room]
    cases t.join uid.text (agents.map AgentId.text) with
    | error refusal => simp [batchAnswer]
    | ok joined => simp [batchAnswer, Except.toOption, eq_comm]
  · constructor
    · exact fun did => absurd (fits_of_addMembers did) room
    · exact fun joins => absurd joins.1 room

theorem Open.joined (opened : Open foreignKeys t c) {uid : String} {spiffeids : List String}
    {joined : Tables} (succeeded : t.join uid spiffeids = .ok joined) :
    Open foreignKeys joined { c with working := some joined } where
  inside := rfl
  calm := opened.calm
  intact := opened.intact.join opened.complete succeeded
  complete := by
    obtain ⟨cluster, found, placeable, rfl⟩ := Tables.join_eq_ok_iff.mp succeeded
    change (t.enroll spiffeids).missing = []
    rw [Tables.enroll_rest]
    exact opened.complete

/-- There is room for each part of a batch if there is for the whole. -/
theorem fits_parts {first second : List AgentId}
    (room : (Statement.insertMemberships (first ++ second).length).Fits) :
    (Statement.insertMemberships first.length).Fits ∧
      (Statement.insertMemberships second.length).Fits := by
  unfold Statement.Fits at room ⊢
  simp only [Statement.values, List.length_append] at room ⊢
  omega

/-- Adding members at once goes well just if there is room for them and adding them in two parts goes
well. Both ways leave the same. -/
theorem Open.addMembers_append (opened : Open foreignKeys t c) (uid : ClusterUid)
    (first second : List AgentId) :
    Transaction.addMembers uid (first ++ second) c = (.ok (), later) ↔
      (Statement.insertMemberships (first ++ second).length).Fits ∧
        (Transaction.addMembers uid first >>= fun _ => Transaction.addMembers uid second) c =
          (.ok (), later) := by
  by_cases noFirst : first = []
  · subst noFirst
    exact ⟨fun did => ⟨fits_of_addMembers did, did⟩, And.right⟩
  by_cases noSecond : second = []
  · subst noSecond
    rw [List.append_nil, bind_eq_ok_iff]
    constructor
    · exact fun did => ⟨fits_of_addMembers did, (), later, did, rfl⟩
    · intro ⟨_, _, between, did, nothing⟩
      cases nothing
      exact did
  rw [opened.addMembers_ok uid (List.append_ne_nil_of_left_ne_nil noFirst second), List.map_append,
    bind_eq_ok_iff]
  apply and_congr_right
  intro room
  obtain ⟨firstRoom, secondRoom⟩ := fits_parts room
  simp only [opened.intact.join_append]
  constructor
  · intro ⟨joined, ⟨between, firstJoined, secondJoined⟩, same⟩
    refine ⟨(), _, (opened.addMembers_ok uid noFirst).mpr ⟨firstRoom, between, firstJoined, rfl⟩, ?_⟩
    exact ((opened.joined firstJoined).addMembers_ok uid noSecond).mpr
      ⟨secondRoom, joined, secondJoined, same⟩
  · intro ⟨_, _, firstDone, secondDone⟩
    obtain ⟨_, between, firstJoined, rfl⟩ := (opened.addMembers_ok uid noFirst).mp firstDone
    obtain ⟨_, joined, secondJoined, same⟩ :=
      ((opened.joined firstJoined).addMembers_ok uid noSecond).mp secondDone
    exact ⟨joined, ⟨between, firstJoined, secondJoined⟩, same⟩

theorem Open.addMembers_perm (opened : Open foreignKeys t c) (uid : ClusterUid)
    {agents others : List AgentId} (perm : agents.Perm others) :
    let one := Transaction.addMembers uid agents c
    let other := Transaction.addMembers uid others c
    one.1 = other.1 ∧ (one.1 = .ok () → one.2.tables.dump = other.2.tables.dump ∧
      one.2.tables.clusters = other.2.tables.clusters) := by
  intro one other
  by_cases empty : agents = []
  · subst empty
    have same : one = other := by
      unfold one other
      rw [perm.nil_eq]
    rw [same]
    exact ⟨rfl, fun _ => ⟨rfl, rfl⟩⟩
  have nonempty : others ≠ [] := fun none =>
    empty (List.perm_nil.mp (none ▸ perm))
  unfold one other
  by_cases room : (Statement.insertMemberships agents.length).Fits
  case neg =>
    rw [opened.addMembers_excess uid room, opened.addMembers_excess uid (perm.length_eq ▸ room),
      perm.length_eq]
    split <;> exact ⟨rfl, nofun⟩
  rw [opened.addMembers uid empty room, opened.addMembers uid nonempty (perm.length_eq ▸ room)]
  rcases opened.intact.join_perm uid.text (perm.map AgentId.text) with
    ⟨refusal, refused, refusedToo⟩ | ⟨joined, joinedToo, succeeded, succeededToo, same⟩
  · rw [refused, refusedToo, batchAnswer, batchAnswer, perm.length_eq]
    exact ⟨rfl, nofun⟩
  · rw [succeeded, succeededToo]
    have intact := opened.intact.join opened.complete succeeded
    exact ⟨rfl, fun _ => ⟨same.dump intact, same.clusters⟩⟩

/-- Batches of members may be divided and rearranged. -/
structure Divisible (uid : ClusterUid) (c : Connection) : Prop where
  /-- Both ways leave the same, numbers included, if there is room for the whole batch. -/
  parts : ∀ first second later, addMembers uid (first ++ second) c = (.ok (), later) ↔
    (Statement.insertMemberships (first ++ second).length).Fits ∧
      (addMembers uid first >>= fun _ => addMembers uid second) c = (.ok (), later)
  answer : ∀ agents others, agents.Perm others →
    (addMembers uid agents c).1 = (addMembers uid others c).1
  /-- Numbers and the order of rows may differ. -/
  contents : ∀ agents others, agents.Perm others → (addMembers uid agents c).1 = .ok () →
    (addMembers uid agents c).2.tables.dump = (addMembers uid others c).2.tables.dump ∧
      (addMembers uid agents c).2.tables.clusters = (addMembers uid others c).2.tables.clusters

theorem Open.divisible (opened : Open foreignKeys t c) (uid : ClusterUid) : Divisible uid c where
  parts first second _ := opened.addMembers_append uid first second
  answer _ _ perm := (opened.addMembers_perm uid perm).1
  contents _ _ perm := (opened.addMembers_perm uid perm).2

end Transaction

end Roster.Database

namespace Roster.Memory

variable {m : Memory} {uid : ClusterUid}

/-! ## Batches in memory -/

theorem assignable_append {first second : List AgentId}
    {memberships : Directory AgentId ClusterUid} (uid : ClusterUid) :
    Assignable (first ++ second) memberships ↔
      Assignable first memberships ∧ Assignable second (memberships ++ first.map (·, uid)) := by
  have keys (agent : AgentId) : agent ∈ Directory.keys (memberships ++ first.map (·, uid)) ↔
      agent ∈ memberships.keys ∨ agent ∈ first := by
    simp [Directory.keys, Function.comp_def]
  simp only [Assignable, keys]
  exact free_append (· ∈ memberships.keys) first second

theorem withMembers_append (m : Memory) (uid : ClusterUid) (first second : List AgentId) :
    m.withMembers uid (first ++ second) = (m.withMembers uid first).withMembers uid second := by
  simp [withMembers, learn]

theorem addMembers_append (m : Memory) (uid : ClusterUid) (first second : List AgentId) :
    m.addMembers uid (first ++ second) = m.addMembers uid first >>= addMembers uid second := by
  by_cases present : uid ∈ m.clusters.keys
  · rw [addMembers_eq present, addMembers_eq present]
    have parts : Assignable (first ++ second) m.memberships ↔ Assignable first m.memberships ∧
        Assignable second (m.withMembers uid first).memberships := assignable_append uid
    by_cases assignable : Assignable first m.memberships
    · rw [if_pos assignable, ok_bind, addMembers_eq (m := m.withMembers uid first) present,
        withMembers_append]
      exact if_congr (parts.trans (and_iff_right assignable)) rfl rfl
    · rw [if_neg assignable, if_neg fun whole => assignable (parts.mp whole).1]
      rfl
  · by_cases empty : first = []
    · subst empty
      rfl
    · rw [addMembers_of_absent present empty,
        addMembers_of_absent present (List.append_ne_nil_of_left_ne_nil empty second)]
      rfl

/-- Two outcomes are alike: the same failure, or registries that say the same. -/
def AlikeOutcomes : Except Failure Memory → Except Failure Memory → Prop
  | .ok m, .ok other => Alike m other
  | .error failure, .error other => failure = other
  | _, _ => False

theorem addMembers_perm (m : Memory) (uid : ClusterUid) {agents others : List AgentId}
    (perm : agents.Perm others) :
    AlikeOutcomes (m.addMembers uid agents) (m.addMembers uid others) := by
  by_cases present : uid ∈ m.clusters.keys
  · rw [addMembers_eq present, addMembers_eq present]
    have same : Assignable agents m.memberships ↔ Assignable others m.memberships := by
      simp only [Assignable, perm.nodup_iff, perm.mem_iff]
    by_cases assignable : Assignable agents m.memberships
    · rw [if_pos assignable, if_pos (same.mp assignable)]
      exact {
        agents := fun agent => by simp only [withMembers, find?_learn, perm.mem_iff]
        attestations := fun _ => rfl
        clusters := fun _ => rfl
        memberships := fun agent => by
          simp only [withMembers, Directory.find?_append, find?_batch, perm.mem_iff] }
    · rw [if_neg assignable, if_neg fun other => assignable (same.mpr other)]
      exact rfl
  · by_cases empty : agents = []
    · subst empty
      rw [← perm.nil_eq]
      exact .refl m
    · have nonempty : others ≠ [] := fun none => empty (List.perm_nil.mp (none ▸ perm))
      rw [addMembers_of_absent present empty, addMembers_of_absent present nonempty]
      exact rfl

/-- Batches of members may be divided and rearranged. -/
structure Divisible (uid : ClusterUid) (m : Memory) : Prop where
  parts : ∀ first second,
    m.addMembers uid (first ++ second) = m.addMembers uid first >>= addMembers uid second
  order : ∀ agents others, agents.Perm others →
    AlikeOutcomes (m.addMembers uid agents) (m.addMembers uid others)

end Roster.Memory

namespace Roster

open Database Transaction

/-- In a transaction on any tables that keep their rules, and in memory, members may be added in one
batch or in several, and in any order. Dividing a batch makes no difference at all, except that the
database has no room for the values of a long one. Rearranging it makes none to the answer, and if it
succeeds, none to what is stored apart from the numbers. -/
theorem batches_divisible {foreignKeys : Bool} {t : Tables} {c : Connection}
    (opened : Open foreignKeys t c) (m : Memory) (uid : ClusterUid) :
    Transaction.Divisible uid c ∧ m.Divisible uid :=
  ⟨opened.divisible uid, m.addMembers_append uid, fun _ _ perm => m.addMembers_perm uid perm⟩

/-- Two new agents get other numbers in another order, but the dump is the same. -/
theorem new_agents_rearranged :
    let cluster : Cluster := { uid := ⟨"u"⟩, name := ⟨"n"⟩ }
    let created : Work := .session [.insertCluster cluster] .commit
    let before := Work.afterAll [(.epoch, created)] { foreignKeys := true }
    let c := (begin before).2
    let one := (addMembers ⟨"u"⟩ [⟨"b"⟩, ⟨"a"⟩] c).2.tables
    let other := (addMembers ⟨"u"⟩ [⟨"a"⟩, ⟨"b"⟩] c).2.tables
    Open true before.stored c ∧ one.agents ≠ other.agents ∧ one.dump = other.dump := by
  intro cluster created before c one other
  have opened : Open true before.stored c :=
    .begun (Work.intact_afterAll true false [] [] [] [(.epoch, created)]) rfl rfl rfl
  refine ⟨opened, by decide +kernel, ?_⟩
  have divisible := (batches_divisible opened {} ⟨"u"⟩).1
  have succeeded : (addMembers ⟨"u"⟩ [⟨"b"⟩, ⟨"a"⟩] c).1 = .ok () := by decide +kernel
  exact (divisible.contents _ _ (.swap _ _ _) succeeded).1

/-- Agents whose names are the numbers from `start` on. -/
def numberedAgents (start count : Nat) : List AgentId :=
  (List.range' start count).map fun n => ⟨Nat.repr n⟩

theorem nodup_numberedAgents (start count : Nat) : (numberedAgents start count).Nodup := by
  apply List.Nodup.map _ List.nodup_range'
  intro n other same
  have digits : Nat.toDigits 10 n = Nat.toDigits 10 other :=
    String.ofList_injective (congrArg AgentId.text same)
  calc n
    _ = Nat.ofDigitChars 10 (Nat.toDigits 10 n) 0 := (Nat.ofDigitChars_ten_toDigits).symm
    _ = Nat.ofDigitChars 10 (Nat.toDigits 10 other) 0 := by rw [digits]
    _ = other := Nat.ofDigitChars_ten_toDigits

/-- Sixteen thousand new agents can be added in two parts, but there is no room for them in one
batch. -/
theorem long_batch_only_in_parts :
    let cluster : Cluster := { uid := ⟨"u"⟩, name := ⟨"n"⟩ }
    let created : Work := .session [.insertCluster cluster] .commit
    let before := Work.afterAll [(.epoch, created)] { foreignKeys := true }
    let c := (begin before).2
    let first := numberedAgents 0 8192
    let second := numberedAgents 8192 8192
    Open true before.stored c ∧
      ((addMembers ⟨"u"⟩ first >>= fun _ => addMembers ⟨"u"⟩ second) c).1 = .ok () ∧
      (addMembers ⟨"u"⟩ (first ++ second) c).1 =
        .error ((Statement.insertMemberships 16384).failure .tooManyValues) := by
  intro cluster created before c first second
  have opened : Open true before.stored c :=
    .begun (Work.intact_afterAll true false [] [] [] [(.epoch, created)]) rfl rfl rfl
  have lengths (start : Nat) : (numberedAgents start 8192).length = 8192 := by
    rw [numberedAgents, List.length_map, List.length_range']
  have nonempty (start : Nat) : numberedAgents start 8192 ≠ [] := by
    rw [← List.length_pos_iff, lengths]
    decide
  have room (start : Nat) : (Statement.insertMemberships (numberedAgents start 8192).length).Fits := by
    rw [lengths]
    decide
  have whole : (first ++ second).length = 16384 := by
    rw [List.length_append, lengths, lengths]
  have all : first ++ second = numberedAgents 0 16384 := by
    unfold first second numberedAgents
    rw [← List.map_append, List.range'_append_1]
  have placeable : before.stored.Placeable ((first ++ second).map AgentId.text) := by
    rw [placeable_iff, all]
    exact ⟨nodup_numberedAgents 0 16384, fun _ _ ⟨_, _, _, member, listed, _⟩ => nomatch listed⟩
  obtain ⟨cluster, found⟩ : ∃ row, before.stored.clusterWith? "u" = some row := ⟨_, rfl⟩
  have joined := Tables.join_eq_ok_iff.mpr ⟨cluster, found, placeable, rfl⟩
  rw [List.map_append, opened.intact.join_append] at joined
  obtain ⟨between, firstJoined, secondJoined⟩ := joined
  refine ⟨opened, ?_, ?_⟩
  · have firstDone := (opened.addMembers_ok ⟨"u"⟩ (nonempty 0)).mpr ⟨room 0, _, firstJoined, rfl⟩
    have secondDone := ((opened.joined firstJoined).addMembers_ok ⟨"u"⟩ (nonempty 8192)).mpr
      ⟨room 8192, _, secondJoined, rfl⟩
    rw [Action.bind_of_ok firstDone, secondDone]
  · rw [opened.addMembers_excess ⟨"u"⟩ (by rw [whole]; decide), whole, if_pos (by decide)]

end Roster
