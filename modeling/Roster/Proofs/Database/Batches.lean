import Roster.Proofs.Database.Content

/-!
Batches of members.

A batch takes two statements. The first one offers all its agents, and passes over those that are
there. The second one inserts a membership for each of them, and is refused as a whole for the first
row that cannot be inserted. Whether it is refused can be told from the tables before: the cluster
must be there, no agent may come twice, and none may have a membership. The rows that the first
statement added do not matter to that, as their numbers are new.

A batch for whose values there is no room is refused whatever the tables hold.
-/

namespace Roster.Database

open Database.Action

namespace Tables

variable {t : Tables} {foreignKeys : Bool}

/-! ## The agents of a batch -/

/-- The tables after agents were offered one after the other. -/
def enroll (t : Tables) (spiffeids : List String) : Tables :=
  spiffeids.foldl ensureAgent t

/-- The rows that are added when agents are offered. -/
structure Newcomers (t : Tables) (spiffeids : List String) (added : List AgentRow) : Prop where
  plain : ∀ row ∈ added, row.plugin = none
  once : (added.map (·.spiffeid)).Nodup
  exactly : ∀ spiffeid, spiffeid ∈ added.map (·.spiffeid) ↔
    spiffeid ∈ spiffeids ∧ spiffeid ∉ t.agents.map (·.spiffeid)
  fresh : ∀ row ∈ added, t.lastAgentId < row.id

theorem named_iff {spiffeid : String} :
    (t.agentNamed? spiffeid).isSome ↔ spiffeid ∈ t.agents.map (·.spiffeid) := by
  simp [agentNamed?, List.find?_isSome]

/-- An agent that is there is passed over, but takes a number. -/
theorem Newcomers.pass {spiffeid : String} {rest : List String} {added : List AgentRow}
    (newcomers : t.takeAgentId.Newcomers rest added)
    (known : spiffeid ∈ t.agents.map (·.spiffeid)) : t.Newcomers (spiffeid :: rest) added where
  plain := newcomers.plain
  once := newcomers.once
  exactly := by
    intro other
    rw [newcomers.exactly, List.mem_cons]
    change _ ∧ other ∉ t.agents.map (·.spiffeid) ↔ _
    constructor
    · exact fun ⟨listed, new⟩ => ⟨.inr listed, new⟩
    · intro ⟨listed, new⟩
      refine ⟨listed.resolve_left ?_, new⟩
      intro same
      exact new (same ▸ known)
  fresh row member := Nat.lt_of_succ_lt (newcomers.fresh row member)

theorem Newcomers.add {spiffeid : String} {rest : List String} {added : List AgentRow}
    (newcomers : (t.takeAgentId.addAgent spiffeid none).Newcomers rest added)
    (new : spiffeid ∉ t.agents.map (·.spiffeid)) :
    t.Newcomers (spiffeid :: rest) (⟨t.lastAgentId + 1, spiffeid, none⟩ :: added) where
  plain := List.forall_mem_cons.mpr ⟨rfl, newcomers.plain⟩
  once := by
    rw [List.map_cons, List.nodup_cons]
    refine ⟨fun again => ?_, newcomers.once⟩
    apply ((newcomers.exactly spiffeid).mp again).2
    simp [addAgent]
  exactly := by
    intro other
    rw [List.map_cons, List.mem_cons, newcomers.exactly, List.mem_cons]
    simp only [addAgent, takeAgentId, List.map_append, List.map_cons, List.map_nil,
      List.mem_append, List.mem_singleton]
    by_cases same : other = spiffeid
    · subst same
      simpa using new
    · simp [same]
  fresh := by
    intro row member
    rcases List.mem_cons.mp member with rfl | later
    · exact Nat.lt_succ_self _
    · exact Nat.lt_of_succ_lt (newcomers.fresh row later)

/-- All that a batch of agents does is to add the unknown ones. Every agent that is offered takes a
number. -/
theorem enroll_eq (t : Tables) (spiffeids : List String) :
    ∃ added, t.Newcomers spiffeids added ∧
      t.enroll spiffeids = { t with
        agents := t.agents ++ added
        lastAgentId := t.lastAgentId + spiffeids.length } := by
  induction spiffeids generalizing t with
  | nil =>
    refine ⟨[], ⟨nofun, .nil, by simp, nofun⟩, ?_⟩
    rw [List.append_nil]
    rfl
  | cons spiffeid rest ih =>
    have numbers : t.lastAgentId + 1 + rest.length = t.lastAgentId + (spiffeid :: rest).length := by
      rw [List.length_cons]
      omega
    by_cases known : spiffeid ∈ t.agents.map (·.spiffeid)
    · have ensured : t.ensureAgent spiffeid = t.takeAgentId := if_pos (named_iff.mpr known)
      obtain ⟨added, newcomers, enrolled⟩ := ih t.takeAgentId
      refine ⟨added, newcomers.pass known, ?_⟩
      calc t.enroll (spiffeid :: rest)
        _ = t.takeAgentId.enroll rest := by rw [enroll, List.foldl_cons, ensured, enroll]
        _ = _ := by rw [enrolled, ← numbers]; rfl
    · have ensured : t.ensureAgent spiffeid = t.takeAgentId.addAgent spiffeid none :=
        if_neg fun found => known (named_iff.mp found)
      obtain ⟨added, newcomers, enrolled⟩ := ih (t.takeAgentId.addAgent spiffeid none)
      refine ⟨_, newcomers.add known, ?_⟩
      calc t.enroll (spiffeid :: rest)
        _ = (t.takeAgentId.addAgent spiffeid none).enroll rest := by
          rw [enroll, List.foldl_cons, ensured, enroll]
        _ = _ := by
          rw [enrolled, ← numbers]
          simp [addAgent, takeAgentId]

/-- Nothing but the agents changes when agents are offered. -/
theorem enroll_rest (t : Tables) (spiffeids : List String) :
    t.enroll spiffeids = { t with
      agents := (t.enroll spiffeids).agents
      lastAgentId := (t.enroll spiffeids).lastAgentId } := by
  obtain ⟨added, newcomers, enrolled⟩ := t.enroll_eq spiffeids
  rw [enrolled]

theorem memberships_enroll (t : Tables) (spiffeids : List String) :
    (t.enroll spiffeids).memberships = t.memberships := by
  rw [enroll_rest]

theorem clusters_enroll (t : Tables) (spiffeids : List String) :
    (t.enroll spiffeids).clusters = t.clusters := by
  rw [enroll_rest]

theorem enroll_append (t : Tables) (first second : List String) :
    t.enroll (first ++ second) = (t.enroll first).enroll second :=
  List.foldl_append

/-- Whoever was offered is known afterwards. -/
theorem known_enroll (t : Tables) {spiffeids : List String} {spiffeid : String}
    (offered : spiffeid ∈ spiffeids) : spiffeid ∈ (t.enroll spiffeids).agents.map (·.spiffeid) := by
  obtain ⟨added, newcomers, enrolled⟩ := t.enroll_eq spiffeids
  rw [enrolled, List.map_append, List.mem_append]
  by_cases known : spiffeid ∈ t.agents.map (·.spiffeid)
  · exact .inl known
  · exact .inr ((newcomers.exactly spiffeid).mpr ⟨offered, known⟩)

theorem Intact.enroll (intact : t.Intact (.any foreignKeys)) (spiffeids : List String) :
    (t.enroll spiffeids).Intact (.any foreignKeys) := by
  induction spiffeids generalizing t with
  | nil => exact intact
  | cons spiffeid rest ih =>
    apply ih
    simp only [ensureAgent]
    split
    next => exact intact.takeAgentId
    next absent => exact intact.addAgent trivial (not_named absent) none

/-! ## The memberships of a batch -/

/-- The agent has a membership, be it one that was left behind. -/
def Assigned (t : Tables) (spiffeid : String) : Prop :=
  ∃ agent ∈ t.agents, agent.spiffeid = spiffeid ∧
    ∃ member ∈ t.memberships, member.agentId = agent.id

instance (t : Tables) (spiffeid : String) : Decidable (t.Assigned spiffeid) :=
  inferInstanceAs (Decidable (∃ agent ∈ t.agents, agent.spiffeid = spiffeid ∧
    ∃ member ∈ t.memberships, member.agentId = agent.id))

/-- All agents of a batch can be given memberships. -/
def Placeable (t : Tables) (spiffeids : List String) : Prop :=
  spiffeids.Nodup ∧ ∀ spiffeid ∈ spiffeids, ¬t.Assigned spiffeid

instance (t : Tables) (spiffeids : List String) : Decidable (t.Placeable spiffeids) :=
  inferInstanceAs (Decidable (spiffeids.Nodup ∧ ∀ spiffeid ∈ spiffeids, ¬t.Assigned spiffeid))

/-- The rows that make agents members of a cluster. -/
def rowsFor (t : Tables) (clusterId : Nat) (spiffeids : List String) : List MembershipRow :=
  spiffeids.filterMap fun spiffeid =>
    (t.agentNamed? spiffeid).map fun agent => ⟨agent.id, clusterId⟩

def place (t : Tables) (clusterId : Nat) (spiffeids : List String) : Tables :=
  { t with memberships := t.memberships ++ t.rowsFor clusterId spiffeids }

/-- This row makes the agent a member of the cluster. -/
def Makes (t : Tables) (uid : ClusterUid) (agent : AgentId) (row : MembershipRow) : Prop :=
  (∃ known ∈ t.agents, known.spiffeid = agent.text ∧ known.id = row.agentId) ∧
    ∃ cluster ∈ t.clusters, cluster.uid = uid.text ∧ cluster.id = row.clusterId

section Place

variable {terms : Terms} {agent : AgentRow} {cluster : ClusterRow}

theorem rowsFor_singleton (intact : t.Intact terms) (known : agent ∈ t.agents) (clusterId : Nat) :
    t.rowsFor clusterId [agent.spiffeid] = [⟨agent.id, clusterId⟩] := by
  simp [rowsFor, intact.agentNamed?_eq known]

theorem makes_rowsFor {uid : ClusterUid} (present : cluster ∈ t.clusters)
    (same : cluster.uid = uid.text) {agents : List AgentId}
    (known : ∀ agent ∈ agents, agent.text ∈ t.agents.map (·.spiffeid)) :
    List.Forall₂ (t.Makes uid) agents (t.rowsFor cluster.id (agents.map AgentId.text)) := by
  induction agents with
  | nil => exact .nil
  | cons agent rest ih =>
    rw [List.forall_mem_cons] at known
    obtain ⟨row, named⟩ := Option.isSome_iff_exists.mp (named_iff.mpr known.1)
    have rows : t.rowsFor cluster.id ((agent :: rest).map AgentId.text) =
        ⟨row.id, cluster.id⟩ :: t.rowsFor cluster.id (rest.map AgentId.text) := by
      simp [rowsFor, named]
    rw [rows]
    have found := of_find? named
    exact .cons ⟨⟨row, found.1, found.2, rfl⟩, cluster, present, same, rfl⟩ (ih known.2)

theorem Intact.assigned_iff (intact : t.Intact terms) (known : agent ∈ t.agents) :
    t.Assigned agent.spiffeid ↔ ∃ member ∈ t.memberships, member.agentId = agent.id := by
  constructor
  · intro ⟨other, otherKnown, same, taken⟩
    rw [List.inj_on_of_nodup_map intact.spiffeids otherKnown known same] at taken
    exact taken
  · exact fun taken => ⟨agent, known, rfl, taken⟩

theorem mem_rowsFor {clusterId : Nat} {spiffeids : List String} {row : MembershipRow} :
    row ∈ t.rowsFor clusterId spiffeids ↔ ∃ spiffeid ∈ spiffeids, ∃ agent,
      t.agentNamed? spiffeid = some agent ∧ row = ⟨agent.id, clusterId⟩ := by
  simp only [rowsFor, List.mem_filterMap, Option.map_eq_some_iff, eq_comm (a := row)]

/-- After memberships were inserted, their agents are assigned, and the others are as they were. -/
theorem Intact.assigned_place (intact : t.Intact terms) {spiffeids : List String}
    (known : ∀ spiffeid ∈ spiffeids, spiffeid ∈ t.agents.map (·.spiffeid)) (clusterId : Nat)
    (spiffeid : String) :
    (t.place clusterId spiffeids).Assigned spiffeid ↔
      t.Assigned spiffeid ∨ spiffeid ∈ spiffeids := by
  constructor
  · intro ⟨holder, holderKnown, named, member, listed, number⟩
    rcases List.mem_append.mp listed with old | new
    · exact .inl ⟨holder, holderKnown, named, member, old, number⟩
    · right
      obtain ⟨other, placed, agent, found, rfl⟩ := mem_rowsFor.mp new
      obtain ⟨agentKnown, agentNamed⟩ := of_find? found
      rw [List.inj_on_of_nodup_map intact.agentIds agentKnown holderKnown number] at agentNamed
      exact (agentNamed.symm.trans named) ▸ placed
  · intro assigned
    rcases assigned with ⟨holder, holderKnown, named, member, listed, number⟩ | placed
    · exact ⟨holder, holderKnown, named, member, List.mem_append_left _ listed, number⟩
    · obtain ⟨agent, agentKnown, rfl⟩ := List.mem_map.mp (known spiffeid placed)
      have found := intact.agentNamed?_eq agentKnown
      have row : ⟨agent.id, clusterId⟩ ∈ t.rowsFor clusterId spiffeids :=
        mem_rowsFor.mpr ⟨_, placed, agent, found, rfl⟩
      exact ⟨agent, agentKnown, rfl, _, List.mem_append_right _ row, rfl⟩

theorem insertMembership_eq (intact : t.Intact terms) (known : agent ∈ t.agents)
    (present : cluster ∈ t.clusters) :
    insertMembership cluster.uid t agent.spiffeid =
      if t.Assigned agent.spiffeid then .error (.duplicateValue .memberships "agent_id")
      else .ok (t.place cluster.id [agent.spiffeid]) := by
  rw [insertMembership, intact.agentNamed?_eq known, intact.clusterWith?_eq present]
  simp only [intact.assigned_iff known, place, rowsFor_singleton intact known, List.any_eq_true,
    decide_eq_true_eq]

theorem Intact.place (intact : t.Intact terms) (known : agent ∈ t.agents)
    (present : cluster ∈ t.clusters) (free : ¬t.Assigned agent.spiffeid) :
    (t.place cluster.id [agent.spiffeid]).Intact terms := by
  rw [Tables.place, rowsFor_singleton intact known]
  apply intact.addMembership known present
  intro member listed same
  exact free ((intact.assigned_iff known).mpr ⟨member, listed, same⟩)

theorem place_cons (t : Tables) (clusterId : Nat) (spiffeid : String) (rest : List String) :
    (t.place clusterId [spiffeid]).place clusterId rest = t.place clusterId (spiffeid :: rest) := by
  have rows : t.rowsFor clusterId (spiffeid :: rest) =
      t.rowsFor clusterId [spiffeid] ++ t.rowsFor clusterId rest := by
    rw [rowsFor, rowsFor, rowsFor, ← List.filterMap_append]
    rfl
  rw [place, place, place, rows, ← List.append_assoc]
  rfl

/-- An agent that has been placed counts as assigned for the rest of the batch. -/
theorem Intact.placeable_cons (intact : t.Intact terms) {spiffeid : String}
    (known : spiffeid ∈ t.agents.map (·.spiffeid)) (free : ¬t.Assigned spiffeid) (clusterId : Nat)
    (rest : List String) :
    (t.place clusterId [spiffeid]).Placeable rest ↔ t.Placeable (spiffeid :: rest) := by
  have alone : t.Placeable [spiffeid] :=
    ⟨List.nodup_singleton spiffeid, List.forall_mem_singleton.mpr free⟩
  simp only [Placeable, intact.assigned_place (List.forall_mem_singleton.mpr known)]
  symm
  exact (free_append t.Assigned [spiffeid] rest).trans (and_iff_right alone)

/-- The memberships of known agents are inserted unless one of the agents comes twice or has a
membership. A row that was inserted before in the same statement counts. -/
theorem foldlM_insertMembership (intact : t.Intact terms) (present : cluster ∈ t.clusters)
    {spiffeids : List String}
    (known : ∀ spiffeid ∈ spiffeids, spiffeid ∈ t.agents.map (·.spiffeid)) :
    spiffeids.foldlM (insertMembership cluster.uid) t =
      if t.Placeable spiffeids then .ok (t.place cluster.id spiffeids)
      else .error (.duplicateValue .memberships "agent_id") := by
  induction spiffeids generalizing t with
  | nil =>
    rw [if_pos ⟨.nil, nofun⟩, place, rowsFor, List.filterMap_nil, List.append_nil]
    rfl
  | cons spiffeid rest ih =>
    rw [List.forall_mem_cons] at known
    obtain ⟨agent, agentKnown, rfl⟩ := List.mem_map.mp known.1
    rw [List.foldlM_cons, insertMembership_eq intact agentKnown present]
    by_cases assigned : t.Assigned agent.spiffeid
    · have refused : ¬t.Placeable (agent.spiffeid :: rest) := fun placeable =>
        placeable.2 _ List.mem_cons_self assigned
      rw [if_pos assigned, if_neg refused]
      rfl
    · have same := intact.placeable_cons known.1 assigned cluster.id rest
      rw [if_neg assigned, ok_bind, ih (intact.place agentKnown present assigned) present known.2,
        place_cons]
      simp only [same]

end Place

/-! ## Both statements -/

/-- The rows that a batch adds first have new numbers, which no membership refers to. -/
theorem Intact.assigned_enroll (intact : t.Intact (.any foreignKeys)) (spiffeids : List String)
    (spiffeid : String) : (t.enroll spiffeids).Assigned spiffeid ↔ t.Assigned spiffeid := by
  obtain ⟨added, newcomers, enrolled⟩ := t.enroll_eq spiffeids
  rw [enrolled]
  constructor
  · intro ⟨agent, known, named, member, listed, number⟩
    rcases List.mem_append.mp known with old | new
    · exact ⟨agent, old, named, member, listed, number⟩
    · have given := intact.agentsBelow _ (intact.known member listed)
      have later := newcomers.fresh agent new
      omega
  · intro ⟨agent, known, named, taken⟩
    exact ⟨agent, List.mem_append_left _ known, named, taken⟩

theorem Intact.placeable_enroll (intact : t.Intact (.any foreignKeys)) (spiffeids : List String) :
    (t.enroll spiffeids).Placeable spiffeids ↔ t.Placeable spiffeids := by
  simp only [Placeable, intact.assigned_enroll]

/-- The tables after a batch, unless it is refused. The cluster is looked for first. -/
def join (t : Tables) (uid : String) (spiffeids : List String) : Except Refusal Tables :=
  match t.clusterWith? uid with
  | none => .error (.missingValue .memberships "cluster_id")
  | some cluster =>
    if t.Placeable spiffeids then .ok ((t.enroll spiffeids).place cluster.id spiffeids)
    else .error (.duplicateValue .memberships "agent_id")

theorem join_of_absent {uid : String} (absent : ∀ cluster ∈ t.clusters, cluster.uid ≠ uid)
    (spiffeids : List String) :
    t.join uid spiffeids = .error (.missingValue .memberships "cluster_id") := by
  have none : t.clusterWith? uid = none := by simpa [clusterWith?] using absent
  rw [join, none]

theorem join_of_present {terms : Terms} (intact : t.Intact terms) {cluster : ClusterRow}
    (present : cluster ∈ t.clusters) (spiffeids : List String) :
    t.join cluster.uid spiffeids =
      if t.Placeable spiffeids then .ok ((t.enroll spiffeids).place cluster.id spiffeids)
      else .error (.duplicateValue .memberships "agent_id") := by
  rw [join, intact.clusterWith?_eq present]

/-- Neither refusal of a batch ends the transaction. -/
theorem gentle_of_join {uid : String} {spiffeids : List String} {refusal : Refusal}
    (refused : t.join uid spiffeids = .error refusal) : refusal.endsTransaction = false := by
  unfold join at refused
  split at refused
  next =>
    cases refused
    rfl
  next =>
    split at refused
    next => cases refused
    next =>
      cases refused
      rfl

/-- What the second statement of a batch does after the first one. -/
theorem insertMemberships_enroll (intact : t.Intact (.any foreignKeys)) (complete : t.missing = [])
    (uid : String) {spiffeids : List String} (nonempty : spiffeids ≠ [])
    (room : (Statement.insertMemberships spiffeids.length).Fits) :
    (t.enroll spiffeids).insertMemberships uid spiffeids = t.join uid spiffeids := by
  have still : (t.enroll spiffeids).missing = [] := by rw [enroll_rest, complete]
  have found : (t.enroll spiffeids).clusterWith? uid = t.clusterWith? uid := by
    rw [clusterWith?, clusters_enroll, clusterWith?]
  rw [insertMemberships, accept_of_fits room, require_of_complete still, ok_bind, join]
  cases looked : t.clusterWith? uid with
  | none =>
    -- Every agent of the batch is known, so that the first row lacks nothing but its cluster.
    obtain ⟨spiffeid, rest, rfl⟩ := List.exists_cons_of_ne_nil nonempty
    obtain ⟨agent, named⟩ := Option.isSome_iff_exists.mp
      (named_iff.mpr (t.known_enroll (List.mem_cons_self (l := rest))))
    rw [List.foldlM_cons, insertMembership, named, found, looked]
    rfl
  | some cluster =>
    obtain ⟨present, rfl⟩ := of_find? looked
    rw [foldlM_insertMembership (intact.enroll spiffeids) (t.clusters_enroll _ ▸ present)
      fun _ listed => t.known_enroll listed]
    simp only [intact.placeable_enroll]

theorem insertAgents_eq (complete : t.missing = []) {spiffeids : List String}
    (room : (Statement.insertAgents spiffeids.length).Fits) :
    t.insertAgents spiffeids = .ok (t.enroll spiffeids) := by
  rw [insertAgents, accept_of_fits room, require_of_complete complete]
  rfl

end Tables

namespace Transaction

variable {c : Connection} {t : Tables} {foreignKeys : Bool}

/-- A transaction is open on tables that keep their rules. None of them is missing, and no mishap is
to come. -/
structure Open (foreignKeys : Bool) (t : Tables) (c : Connection) : Prop where
  inside : c.working = some t
  calm : c.mishaps = []
  intact : t.Intact (.any foreignKeys)
  complete : t.missing = []

theorem Open.begun (satisfies : c.Satisfies foreignKeys (Tables.Intact (.any foreignKeys)))
    (idle : c.working = none) (calm : c.mishaps = []) (complete : c.stored.missing = []) :
    Open foreignKeys c.stored (begin c).2 := by
  rw [begin_eq idle calm]
  exact ⟨rfl, calm, satisfies.stored, complete⟩

/-- The answer to a batch of agents. -/
def batchAnswer (agents : List AgentId) : Except Refusal Tables → Except Failure Unit
  | .ok _ => .ok ()
  | .error refusal =>
    .error (if refusal.isDuplicate then .agentAssigned
      else (Statement.insertMemberships agents.length).failure refusal)

theorem addMembers_eq (uid : ClusterUid) {agents : List AgentId} (nonempty : agents ≠ []) :
    addMembers uid agents =
      Action.run (.insertAgents agents.length) (fun _ t =>
        silently (t.insertAgents (agents.map AgentId.text))) >>=
      fun _ => Action.runUnique (.insertMemberships agents.length) .agentAssigned fun _ t =>
        silently (t.insertMemberships uid.text (agents.map AgentId.text)) := by
  rw [addMembers, List.isEmpty_eq_false_iff.mpr nonempty]
  rfl

/-- The first statement of a batch. -/
theorem Open.insertAgents (opened : Open foreignKeys t c) {agents : List AgentId}
    (room : (Statement.insertAgents agents.length).Fits) :
    Action.run (.insertAgents agents.length)
      (fun _ t => silently (t.insertAgents (agents.map AgentId.text))) c =
        (.ok (), { c with working := some (t.enroll (agents.map AgentId.text)) }) := by
  rw [run_inside opened.calm opened.inside,
    Tables.insertAgents_eq opened.complete (by rwa [List.length_map])]
  rfl

/-- The second statement of a batch, which leaves the agents of the first one behind if it is
refused. -/
theorem Open.insertMemberships (opened : Open foreignKeys t c) (uid : ClusterUid)
    {agents : List AgentId} {result : Except Refusal Tables}
    (changed : (t.enroll (agents.map AgentId.text)).insertMemberships uid.text
      (agents.map AgentId.text) = result)
    (gentle : ∀ refusal, result = .error refusal → refusal.endsTransaction = false) :
    Action.runUnique (.insertMemberships agents.length) .agentAssigned
      (fun _ t => silently (t.insertMemberships uid.text (agents.map AgentId.text)))
      { c with working := some (t.enroll (agents.map AgentId.text)) } = (batchAnswer agents result,
        { c with working := some (result.toOption.getD (t.enroll (agents.map AgentId.text))) }) := by
  rw [runUnique_inside (c := { c with working := some (t.enroll (agents.map AgentId.text)) })
    opened.calm rfl, changed]
  cases result with
  | ok t' => rfl
  | error refusal =>
    simp only [silently, Except.map, Connection.afterRefusal, gentle refusal rfl,
      Bool.false_eq_true, if_false]
    rfl

/-- A batch that is refused leaves its agents behind. -/
theorem Open.addMembers (opened : Open foreignKeys t c) (uid : ClusterUid) {agents : List AgentId}
    (nonempty : agents ≠ []) (room : (Statement.insertMemberships agents.length).Fits) :
    let spiffeids := agents.map AgentId.text
    let joined := t.join uid.text spiffeids
    Transaction.addMembers uid agents c = (batchAnswer agents joined,
      { c with working := some (joined.toOption.getD (t.enroll spiffeids)) }) := by
  intro spiffeids joined
  have first := opened.insertAgents (Tables.fits_insertAgents room)
  have second : (t.enroll spiffeids).insertMemberships uid.text spiffeids = joined :=
    Tables.insertMemberships_enroll opened.intact opened.complete uid.text (by simpa [spiffeids])
      (by rwa [List.length_map])
  rw [addMembers_eq uid nonempty, bind_of_ok first,
    opened.insertMemberships uid second fun _ refused => Tables.gentle_of_join refused]

/-- A batch with too many values is refused, whatever is in the tables. If there is room for its
agents but not for the memberships, the agents are left behind. -/
theorem Open.addMembers_excess (opened : Open foreignKeys t c) (uid : ClusterUid)
    {agents : List AgentId} (excess : ¬(Statement.insertMemberships agents.length).Fits) :
    Transaction.addMembers uid agents c =
      if (Statement.insertAgents agents.length).Fits then
        (.error ((Statement.insertMemberships agents.length).failure .tooManyValues),
          { c with working := some (t.enroll (agents.map AgentId.text)) })
      else (.error ((Statement.insertAgents agents.length).failure .tooManyValues), c) := by
  have nonempty : agents ≠ [] := by
    rintro rfl
    exact excess (Nat.zero_le _)
  rw [addMembers_eq uid nonempty]
  split
  next room =>
    have second : (t.enroll (agents.map AgentId.text)).insertMemberships uid.text
        (agents.map AgentId.text) = .error .tooManyValues := by
      rw [Tables.insertMemberships, List.length_map, Tables.accept_of_excess excess]
      rfl
    rw [bind_of_ok (opened.insertAgents room), opened.insertMemberships uid second]
    · rfl
    · rintro _ ⟨⟩
      rfl
  next none =>
    have refused : Action.run (.insertAgents agents.length)
        (fun _ t => silently (t.insertAgents (agents.map AgentId.text))) c =
          (.error ((Statement.insertAgents agents.length).failure .tooManyValues), c) := by
      rw [run_inside opened.calm opened.inside, Tables.insertAgents, List.length_map,
        Tables.accept_of_excess none]
      rfl
    rw [bind_of_error refused]

/-! ## The whole effect -/

/-- What a batch of members is answered, and what it makes of the tables. -/
structure BatchEffect (uid : ClusterUid) (agents : List AgentId) (t after : Tables)
    (answer : Except Failure Unit) : Prop where
  nothing : agents = [] → answer = .ok () ∧ after = t
  unknownCluster : agents ≠ [] → (∀ cluster ∈ t.clusters, cluster.uid ≠ uid.text) →
    answer = .error ((Statement.insertMemberships agents.length).failure
      (.missingValue .memberships "cluster_id"))
  conflict : agents ≠ [] → (∃ cluster ∈ t.clusters, cluster.uid = uid.text) →
    (answer = .error .agentAssigned ↔ ¬agents.Nodup ∨ ∃ agent ∈ agents, t.Assigned agent.text)
  success : agents ≠ [] → (∃ cluster ∈ t.clusters, cluster.uid = uid.text) →
    (answer = .ok () ↔ agents.Nodup ∧ ∀ agent ∈ agents, ¬t.Assigned agent.text)
  /-- The agents that were unknown are added, whatever the answer is. -/
  newcomers : ∃ added, after.agents = t.agents ++ added ∧
    t.Newcomers (agents.map AgentId.text) added
  members : answer = .ok () → ∃ added, after.memberships = t.memberships ++ added ∧
    List.Forall₂ (after.Makes uid) agents added
  unplaced : answer ≠ .ok () → after.memberships = t.memberships
  rest : after = { t with
    agents := after.agents
    lastAgentId := after.lastAgentId
    memberships := after.memberships }

theorem batchEffect_nil (uid : ClusterUid) (t : Tables) : BatchEffect uid [] t t (.ok ()) where
  nothing _ := ⟨rfl, rfl⟩
  unknownCluster nonempty := absurd rfl nonempty
  conflict nonempty := absurd rfl nonempty
  success nonempty := absurd rfl nonempty
  newcomers := ⟨[], (List.append_nil _).symm, nofun, .nil, by simp, nofun⟩
  members _ := ⟨[], (List.append_nil _).symm, .nil⟩
  unplaced failed := absurd rfl failed
  rest := rfl

/-- Identities are distinct as their texts are. -/
theorem placeable_iff (t : Tables) (agents : List AgentId) :
    t.Placeable (agents.map AgentId.text) ↔
      agents.Nodup ∧ ∀ agent ∈ agents, ¬t.Assigned agent.text := by
  have injective : Function.Injective AgentId.text := fun _ _ same => AgentId.text_inj.mp same
  rw [Tables.Placeable, List.nodup_map_iff injective, List.forall_mem_map]

theorem not_placeable_iff (t : Tables) (agents : List AgentId) :
    ¬t.Placeable (agents.map AgentId.text) ↔
      ¬agents.Nodup ∨ ∃ agent ∈ agents, t.Assigned agent.text := by
  rw [placeable_iff, not_and_or]
  simp only [not_forall, not_not, exists_prop]

/-- A batch that is refused has added its unknown agents, and that is all. -/
theorem batchEffect_refused (t : Tables) (uid : ClusterUid) {agents : List AgentId}
    (nonempty : agents ≠ []) {failure : Failure}
    (unknownCluster : (∀ cluster ∈ t.clusters, cluster.uid ≠ uid.text) →
      failure = (Statement.insertMemberships agents.length).failure
        (.missingValue .memberships "cluster_id"))
    (conflict : (∃ cluster ∈ t.clusters, cluster.uid = uid.text) →
      failure = .agentAssigned ∧ ¬t.Placeable (agents.map AgentId.text)) :
    BatchEffect uid agents t (t.enroll (agents.map AgentId.text)) (.error failure) := by
  obtain ⟨added, newcomers, enrolled⟩ := t.enroll_eq (agents.map AgentId.text)
  exact {
    nothing := fun empty => absurd empty nonempty
    unknownCluster := fun _ absent => congrArg Except.error (unknownCluster absent)
    conflict := by
      intro _ present
      obtain ⟨told, taken⟩ := conflict present
      rw [told]
      exact ⟨fun _ => (not_placeable_iff t agents).mp taken, fun _ => rfl⟩
    success := by
      intro _ present
      obtain ⟨_, taken⟩ := conflict present
      exact ⟨nofun, fun free => absurd ((placeable_iff t agents).mpr free) taken⟩
    newcomers := ⟨added, congrArg Tables.agents enrolled, newcomers⟩
    members := nofun
    unplaced := fun _ => t.memberships_enroll _
    rest := by
      rw [t.memberships_enroll]
      exact t.enroll_rest _ }

theorem batchEffect_placed {uid : ClusterUid} {cluster : ClusterRow} (member : cluster ∈ t.clusters)
    (same : cluster.uid = uid.text) {agents : List AgentId} (nonempty : agents ≠ [])
    (placeable : t.Placeable (agents.map AgentId.text)) :
    let spiffeids := agents.map AgentId.text
    BatchEffect uid agents t ((t.enroll spiffeids).place cluster.id spiffeids) (.ok ()) := by
  intro spiffeids
  obtain ⟨added, newcomers, enrolled⟩ := t.enroll_eq spiffeids
  have presentThen : cluster ∈ (t.enroll spiffeids).clusters := by rwa [Tables.clusters_enroll]
  have rows : (t.enroll spiffeids).memberships ++
      (t.enroll spiffeids).rowsFor cluster.id spiffeids =
        t.memberships ++ (t.enroll spiffeids).rowsFor cluster.id spiffeids := by
    rw [t.memberships_enroll]
  have free := (placeable_iff t agents).mp placeable
  exact {
    nothing := fun empty => absurd empty nonempty
    unknownCluster := fun _ absent => absurd same (absent cluster member)
    conflict := fun _ _ =>
      ⟨nofun, fun taken => absurd placeable ((not_placeable_iff t agents).mpr taken)⟩
    success := fun _ _ => ⟨fun _ => free, fun _ => rfl⟩
    newcomers := ⟨added, congrArg Tables.agents enrolled, newcomers⟩
    members := fun _ => ⟨_, rows, Tables.makes_rowsFor presentThen same fun agent listed =>
      t.known_enroll (List.mem_map_of_mem listed)⟩
    unplaced := fun failed => absurd rfl failed
    rest := by
      rw [t.enroll_rest]
      rfl }

theorem batchEffect_join (intact : t.Intact (.any foreignKeys)) (uid : ClusterUid)
    {agents : List AgentId} (nonempty : agents ≠ []) :
    let spiffeids := agents.map AgentId.text
    let joined := t.join uid.text spiffeids
    BatchEffect uid agents t (joined.toOption.getD (t.enroll spiffeids))
      (batchAnswer agents joined) := by
  intro spiffeids joined
  by_cases present : ∃ cluster ∈ t.clusters, cluster.uid = uid.text
  · obtain ⟨cluster, member, same⟩ := present
    have decided : joined = _ := same ▸ Tables.join_of_present intact member spiffeids
    by_cases placeable : t.Placeable spiffeids
    · rw [decided, if_pos placeable]
      exact batchEffect_placed member same nonempty placeable
    · rw [decided, if_neg placeable]
      apply batchEffect_refused t uid nonempty
      · exact fun absent => absurd same (absent cluster member)
      · exact fun _ => ⟨rfl, placeable⟩
  · have absent : ∀ cluster ∈ t.clusters, cluster.uid ≠ uid.text :=
      fun cluster member same => present ⟨cluster, member, same⟩
    have refused : joined = .error (.missingValue .memberships "cluster_id") :=
      Tables.join_of_absent absent spiffeids
    rw [refused]
    apply batchEffect_refused t uid nonempty
    · exact fun _ => rfl
    · exact fun there => absurd there present

/-- What adding a batch of members to a cluster does inside of a transaction, whatever the tables
hold, if there is room for the values of the batch. A batch for an unknown cluster is refused as a statement, even if its agents are members
already. Otherwise it is a conflict if an agent comes twice or has a membership, and succeeds if
not. A batch that is refused has added its unknown agents, and they stay if the transaction is
committed. -/
theorem addMembers_effect (opened : Open foreignKeys t c) (uid : ClusterUid)
    (agents : List AgentId) (room : (Statement.insertMemberships agents.length).Fits) :
    ∃ after, (addMembers uid agents c).2 = { c with working := some after } ∧
      BatchEffect uid agents t after (addMembers uid agents c).1 ∧
      (t.brokenReference = false → commit (addMembers uid agents c).2 =
        (.ok (), { c with stored := after, working := none })) := by
  by_cases empty : agents = []
  · subst empty
    have same : { c with working := some t } = c := by rw [← opened.inside]
    refine ⟨t, same.symm, batchEffect_nil uid t, fun unbroken => ?_⟩
    rw [← commit_eq opened.calm unbroken, same]
    rfl
  · rw [opened.addMembers uid empty room]
    have effect := batchEffect_join opened.intact uid empty
    refine ⟨_, rfl, effect, fun unbroken => commit_eq opened.calm ?_⟩
    rw [effect.rest]
    exact unbroken

/-- A batch with an agent that is known, one that is not, and one that is a member of the same
cluster already. -/
theorem addMembers_effect_conflict :
    let cluster : Cluster := { uid := ⟨"u"⟩, name := ⟨"n"⟩ }
    let filled : Work := .session
      [.insertCluster cluster, .addMembers ⟨"u"⟩ [⟨"a"⟩], .putAgent ⟨"b"⟩ (some "p")] .commit
    let before := Work.afterAll [(.epoch, filled)] { foreignKeys := true }
    let c := (begin before).2
    Open true before.stored c ∧
      ∃ after, (addMembers ⟨"u"⟩ [⟨"b"⟩, ⟨"c"⟩, ⟨"a"⟩] c).2 = { c with working := some after } ∧
        BatchEffect ⟨"u"⟩ [⟨"b"⟩, ⟨"c"⟩, ⟨"a"⟩] before.stored after (.error .agentAssigned) ∧
        commit (addMembers ⟨"u"⟩ [⟨"b"⟩, ⟨"c"⟩, ⟨"a"⟩] c).2 =
          (.ok (), { c with stored := after, working := none }) := by
  intro cluster filled before c
  have opened : Open true before.stored c :=
    .begun (Work.intact_afterAll true false [] [] [] [(.epoch, filled)]) rfl rfl rfl
  obtain ⟨after, inside, effect, committed⟩ :=
    addMembers_effect opened ⟨"u"⟩ [⟨"b"⟩, ⟨"c"⟩, ⟨"a"⟩] (of_decide_eq_true rfl)
  have answer : (addMembers ⟨"u"⟩ [⟨"b"⟩, ⟨"c"⟩, ⟨"a"⟩] c).1 = .error .agentAssigned := by
    decide +kernel
  exact ⟨opened, after, inside, answer ▸ effect, committed rfl⟩

end Transaction

end Roster.Database
