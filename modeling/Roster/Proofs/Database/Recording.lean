import Roster.Proofs.Database.Content

/-!
Recording what attests an agent.

One row of selectors is written, or written over, and an agent is added where the agent is unknown,
under a number that no row has. So whatever is read of other agents and of memberships is read as
before.
-/

namespace Roster.Database

variable {c : Connection} {t : Tables}

namespace Tables

section Keys

variable {α β : Type} [DecidableEq β] (key : α → β)

theorem find?_append_singleton (rows : List α) (row : α) (value : β) :
    (rows ++ [row]).find? (fun other => key other = value) =
      (rows.find? fun other => key other = value).or
        (if key row = value then some row else none) := by
  rw [List.find?_append]
  congr 1
  by_cases same : key row = value <;> simp [same]

/-- Overwriting the rows with some key changes what is found under that key only. -/
theorem find?_overwrite (overwrite : α → α) (leaves : ∀ row, key (overwrite row) = key row)
    (rows : List α) (written value : β) :
    (rows.map fun row => if key row = written then overwrite row else row).find?
        (fun row => key row = value) =
      (rows.find? fun row => key row = value).map
        (if value = written then overwrite else id) := by
  have sameKey (row : α) :
      key (if key row = written then overwrite row else row) = key row := by
    split
    next => exact leaves row
    next => rfl
  rw [List.find?_map]
  simp only [Function.comp_def, sameKey]
  cases found : rows.find? fun row => key row = value with
  | none => rfl
  | some row =>
    rw [Option.map_some, Option.map_some, (of_find? found).2]
    split <;> rfl

end Keys

/-! ## The tables -/

/-- No two agents have the same number, and no row has a number that is still to be given. -/
structure Numbered (t : Tables) : Prop where
  unique : (t.agents.map (·.id)).Nodup
  agents : ∀ row ∈ t.agents, row.id ≤ t.lastAgentId
  members : ∀ row ∈ t.memberships, row.agentId ≤ t.lastAgentId

theorem Intact.numbered {terms : Terms} (intact : t.Intact terms) : t.Numbered where
  unique := intact.agentIds
  agents _ known := intact.agentsBelow _ (List.mem_map_of_mem known)
  members row listed := intact.agentsBelow _ (intact.known row listed)

/-- The row of an agent once it has been offered. -/
def offered (t : Tables) (spiffeid : String) : AgentRow :=
  (t.agentNamed? spiffeid).getD ⟨t.lastAgentId + 1, spiffeid, none⟩

theorem agentNamed?_ensureAgent (t : Tables) (spiffeid other : String) :
    (t.ensureAgent spiffeid).agentNamed? other =
      if other = spiffeid then some (t.offered spiffeid) else t.agentNamed? other := by
  cases known : t.agentNamed? spiffeid with
  | some row =>
    have ensured : t.ensureAgent spiffeid = t.takeAgentId :=
      if_pos (Option.isSome_iff_exists.mpr ⟨row, known⟩)
    rw [ensured, offered, known]
    split
    next same => rw [same]; exact known
    next => rfl
  | none =>
    have ensured : t.ensureAgent spiffeid = t.takeAgentId.addAgent spiffeid none :=
      if_neg (Option.not_isSome_iff_eq_none.mpr known)
    have found := find?_append_singleton AgentRow.spiffeid t.agents
      ⟨t.lastAgentId + 1, spiffeid, none⟩ other
    rw [ensured, offered, known]
    refine found.trans ?_
    by_cases same : other = spiffeid
    · rw [if_pos same, if_pos same.symm, same, show t.agents.find? _ = none from known]
      rfl
    · rw [if_neg same, if_neg (Ne.symm same), Option.or_none]
      rfl

/-- An agent that is added has a number that nothing refers to. -/
theorem agent?_ensureAgent {id : Nat} (given : id ≤ t.lastAgentId) (spiffeid : String) :
    (t.ensureAgent spiffeid).agent? id = t.agent? id := by
  simp only [ensureAgent]
  split
  next => rfl
  next =>
    have new : t.lastAgentId + 1 ≠ id := by omega
    refine (find?_append_singleton AgentRow.id t.agents _ id).trans ?_
    rw [takeAgentId, if_neg new, Option.or_none, agent?]

/-- Nothing but the agents is touched when an agent is offered. -/
theorem ensureAgent_rest (t : Tables) (spiffeid : String) :
    t.ensureAgent spiffeid = { t with
      agents := (t.ensureAgent spiffeid).agents
      lastAgentId := (t.ensureAgent spiffeid).lastAgentId } := by
  simp only [ensureAgent]
  split <;> rfl

/-- The number of the offered agent is that of no other agent. -/
theorem Numbered.ne_offered (numbered : t.Numbered) {spiffeid : String} {row : AgentRow}
    (known : row ∈ t.agents) (other : row.spiffeid ≠ spiffeid) :
    row.id ≠ (t.offered spiffeid).id := by
  rw [offered]
  cases named : t.agentNamed? spiffeid with
  | some holder =>
    obtain ⟨holderKnown, holds⟩ := of_find? named
    intro same
    rw [List.inj_on_of_nodup_map numbered.unique known holderKnown same] at other
    exact other holds
  | none => exact Nat.ne_of_lt (Nat.lt_succ_of_le (numbered.agents row known))

/-- The tables with these selectors for the agent with this number. -/
def keepSelectors (t : Tables) (agentId : Nat) (plugin selectors : String) : Tables :=
  if t.selectors.any (·.agentId = agentId) then
    { t with selectors := t.selectors.map fun row =>
      if row.agentId = agentId then { row with plugin, selectors } else row }
  else { t with selectors := t.selectors ++ [{ agentId, plugin, selectors }] }

theorem keepSelectors_rest (t : Tables) (agentId : Nat) (plugin selectors : String) :
    t.keepSelectors agentId plugin selectors =
      { t with selectors := (t.keepSelectors agentId plugin selectors).selectors } := by
  unfold keepSelectors
  split <;> rfl

theorem find?_keepSelectors (t : Tables) (agentId : Nat) (plugin selectors : String) (id : Nat) :
    (t.keepSelectors agentId plugin selectors).selectors.find? (·.agentId = id) =
      if id = agentId then some { agentId, plugin, selectors }
      else t.selectors.find? (·.agentId = id) := by
  unfold keepSelectors
  split
  next there =>
    have listed : (t.selectors.find? (·.agentId = agentId)).isSome := by
      rw [List.find?_isSome]
      simpa using there
    obtain ⟨row, found⟩ := Option.isSome_iff_exists.mp listed
    have number : row.agentId = agentId := (of_find? found).2
    have overwritten := find?_overwrite SelectorRow.agentId
      (fun row => { row with plugin, selectors }) (fun _ => rfl) t.selectors agentId id
    refine overwritten.trans ?_
    by_cases same : id = agentId
    · rw [if_pos same, if_pos same, same, found, Option.map_some, number]
    · rw [if_neg same, if_neg same, Option.map_id, id_eq]
  next absent =>
    have free : t.selectors.find? (·.agentId = agentId) = none := by
      rw [List.find?_eq_none]
      simpa using absent
    have appended := find?_append_singleton SelectorRow.agentId t.selectors
      ⟨agentId, plugin, selectors⟩ id
    refine appended.trans ?_
    by_cases same : id = agentId
    · rw [if_pos same, if_pos same.symm, same, free, Option.none_or]
    · rw [if_neg same, if_neg (Ne.symm same), Option.or_none]

/-- The tables after an entry was recorded. -/
def attest (t : Tables) (spiffeid plugin selectors : String) : Tables :=
  (t.ensureAgent spiffeid).keepSelectors (t.offered spiffeid).id plugin selectors

section Attest

variable (t : Tables) (spiffeid plugin selectors : String)

theorem attest_rest : t.attest spiffeid plugin selectors = { t with
    agents := (t.ensureAgent spiffeid).agents
    lastAgentId := (t.ensureAgent spiffeid).lastAgentId
    selectors := (t.attest spiffeid plugin selectors).selectors } := by
  rw [attest, keepSelectors_rest, ensureAgent_rest]

theorem agentNamed?_attest (other : String) :
    (t.attest spiffeid plugin selectors).agentNamed? other =
      if other = spiffeid then some (t.offered spiffeid) else t.agentNamed? other := by
  rw [attest, keepSelectors_rest]
  exact t.agentNamed?_ensureAgent spiffeid other

theorem require_attest (tables : List TableName) :
    (t.attest spiffeid plugin selectors).require tables = t.require tables := by
  rw [attest_rest]
  rfl

theorem selectSelectors_attest (there : t.require Statement.selectSelectors.tables = .ok ()) :
    (t.attest spiffeid plugin selectors).selectSelectors spiffeid =
      .ok (some (plugin, selectors)) := by
  rw [Tables.selectSelectors, require_attest, there, ok_bind, agentNamed?_attest, if_pos rfl,
    Option.bind_some, attest, find?_keepSelectors, if_pos rfl]
  rfl

variable {t spiffeid}

theorem Numbered.selectSelectors_attest (numbered : t.Numbered) {other : String}
    (different : other ≠ spiffeid) :
    (t.attest spiffeid plugin selectors).selectSelectors other = t.selectSelectors other := by
  rw [Tables.selectSelectors, require_attest, agentNamed?_attest, if_neg different,
    Tables.selectSelectors]
  cases found : t.agentNamed? other with
  | none => rfl
  | some row =>
    obtain ⟨known, named⟩ := of_find? found
    have elsewhere := numbered.ne_offered known (named ▸ different)
    rw [Option.bind_some, Option.bind_some, attest, find?_keepSelectors, if_neg elsewhere,
      ensureAgent_rest]

/-- Memberships are those of agents with given numbers, which are the same agents as before. -/
theorem Numbered.memberRows_attest (numbered : t.Numbered) :
    (t.attest spiffeid plugin selectors).memberRows = t.memberRows := by
  have agents (id : Nat) : (t.attest spiffeid plugin selectors).agent? id =
      (t.ensureAgent spiffeid).agent? id := by
    rw [attest, keepSelectors_rest]
    rfl
  have memberships : (t.attest spiffeid plugin selectors).memberships = t.memberships := by
    rw [attest_rest]
  rw [memberRows, memberships, memberRows]
  apply List.filterMap_congr
  intro row listed
  rw [agents, agent?_ensureAgent (numbered.members row listed)]

theorem Numbered.placedMembers_attest (numbered : t.Numbered) :
    (t.attest spiffeid plugin selectors).placedMembers = t.placedMembers := by
  have clusters (id : Nat) : (t.attest spiffeid plugin selectors).cluster? id = t.cluster? id := by
    rw [attest_rest]
    rfl
  rw [placedMembers, numbered.memberRows_attest, placedMembers]
  simp only [clusters]

end Attest

end Tables

/-! ## The transaction -/

theorem Transaction.putAttestation_eq (calm : c.mishaps = []) (agents : .agents ∉ t.missing)
    (selectors : .selectors ∉ t.missing) (entry : Attestation) :
    putAttestation entry { c with working := some t } = (.ok (), { c with
      working := some (t.attest entry.agent.text entry.plugin
        (Attestation.selectorsCodec.encode entry.selectors)) }) := by
  let ensured := t.ensureAgent entry.agent.text
  have missing : ensured.missing = t.missing := by
    dsimp only [ensured]
    rw [Tables.ensureAgent_rest]
  have agentsRequired : t.require Statement.ensureAgent.tables = .ok () :=
    Tables.require_of_there (List.forall_mem_singleton.mpr agents)
  have agentsThere : ensured.require Statement.selectAgentId.tables = .ok () :=
    Tables.require_of_there (List.forall_mem_singleton.mpr (missing ▸ agents))
  have selectorsThere : ensured.require Statement.upsertSelectors.tables = .ok () :=
    Tables.require_of_there (List.forall_mem_singleton.mpr (missing ▸ selectors))
  have offered : silently (t.insertAgent entry.agent.text) = .ok ((), ensured) := by
    rw [Tables.insertAgent, agentsRequired]
    rfl
  have ran : Action.run .ensureAgent (fun _ t => silently (t.insertAgent entry.agent.text))
      { c with working := some t } = (.ok (), { c with working := some ensured }) := by
    rw [Action.run, Connection.execute_of_ok calm offered]
  have found : ensured.selectAgentId entry.agent.text =
      .ok (some (t.offered entry.agent.text).id) := by
    rw [Tables.selectAgentId, agentsThere, ok_bind, Tables.agentNamed?_ensureAgent, if_pos rfl]
    rfl
  have calmLater : ({ c with working := some ensured } : Connection).mishaps = [] := calm
  have selected : Action.read .selectAgentId (fun t => t.selectAgentId entry.agent.text)
      { c with working := some ensured } =
        (.ok (some (t.offered entry.agent.text).id), { c with working := some ensured }) :=
    Action.read_of_ok calmLater found
  have recorded (plugin text : String) :
      silently (ensured.upsertSelectors (t.offered entry.agent.text).id plugin text) =
        .ok ((), t.attest entry.agent.text plugin text) := by
    rw [Tables.upsertSelectors, selectorsThere]
    rfl
  rw [putAttestation, Action.bind_of_ok ran, Action.bind_of_ok selected]
  change Action.run _ (fun _ t => silently (t.upsertSelectors _ entry.plugin
    (Attestation.selectorsCodec.encode entry.selectors))) _ = _
  rw [Action.run, Connection.execute_of_ok calm (recorded _ _)]

/-- An entry can be recorded on this connection. -/
structure Recording (c : Connection) : Prop where
  calm : c.mishaps = []
  idle : c.working = none
  numbered : c.stored.Numbered
  agents : .agents ∉ c.stored.missing
  selectors : .selectors ∉ c.stored.missing
  unbroken : c.stored.brokenReference = false

/-- The connection after an entry was recorded. -/
def Connection.attest (c : Connection) (entry : Attestation) : Connection :=
  let selectors := Attestation.selectorsCodec.encode entry.selectors
  { c with stored := c.stored.attest entry.agent.text entry.plugin selectors }

namespace Store

theorem putAttestation_eq (recording : Recording c) (entry : Attestation) :
    putAttestation entry c = (.ok (), c.attest entry) := by
  obtain ⟨calm, idle, -, agents, selectors, unbroken⟩ := recording
  have wrote := Transaction.putAttestation_eq (c := c) calm agents selectors entry
  have kept : (c.stored.attest entry.agent.text entry.plugin
      (Attestation.selectorsCodec.encode entry.selectors)).brokenReference = false := by
    rw [Tables.attest_rest]
    exact unbroken
  rw [putAttestation, Transaction.atomically_eq _ idle calm, wrote]
  change (Transaction.commit >>= fun _ => Action.done ()) _ = _
  rw [Action.bind_of_ok (Transaction.commit_eq calm kept)]
  rw [Connection.attest, ← idle]
  rfl

end Store

end Roster.Database
