import Roster.Proofs.Database.Achieved
import Roster.Proofs.Parity

/-!
What a registry says of agents, as a function of all calls that were made.

Agents are known from the calls in which they were named. A plugin is what the last registration of
the agent gave, and selectors are what was recorded last. Only calls that succeeded count. No call
takes anything back, so that the whole history has to be looked at, but nothing else.
-/

namespace Roster

/-- The identities that a request would make known. -/
def Request.names : Request → List AgentId
  | .registerAgent agent _ | .recordSelectors agent _ _ => [AgentId.trimmed ⟨agent⟩]
  | .createCluster _ draft | .editCluster _ draft =>
    draft.members.map fun agent => AgentId.trimmed ⟨agent⟩
  | _ => []

/-- A request, and what was answered. -/
structure Event where
  request : Request
  outcome : Except Denial Answer

namespace Event

def Names (event : Event) (agent : AgentId) : Prop :=
  event.outcome.isOk = true ∧ agent ∈ event.request.names

/-- What a registration of the agent gave as its plugin, which may be nothing. -/
def plugin? (agent : AgentId) (event : Event) : Option (Option String) :=
  match event.request, event.outcome with
  | .registerAgent named plugin, .ok _ =>
    if AgentId.trimmed ⟨named⟩ = agent then some plugin else none
  | _, _ => none

/-- What was recorded of the agent. -/
def recorded? (agent : AgentId) (event : Event) : Option Attestation :=
  match event.request, event.outcome with
  | .recordSelectors named _ _, .ok (.attestation entry) =>
    if AgentId.trimmed ⟨named⟩ = agent then some entry else none
  | _, _ => none

end Event

/-- The events of a run, the oldest first. -/
abbrev History := List Event

namespace History

def Names (history : History) (agent : AgentId) : Prop :=
  ∃ event ∈ history, event.Names agent

/-- The plugin given last. -/
def plugin (history : History) (agent : AgentId) : Option String :=
  (history.reverse.findSome? (Event.plugin? agent)).join

/-- The entry recorded last. -/
def recorded? (history : History) (agent : AgentId) : Option Attestation :=
  history.reverse.findSome? (Event.recorded? agent)

variable {history : History} {event : Event} {agent : AgentId}

theorem names_append :
    Names (history ++ [event]) agent ↔ history.Names agent ∨ event.Names agent := by
  constructor
  · rintro ⟨other, member, names⟩
    rcases List.mem_append.mp member with old | new
    · exact .inl ⟨other, old, names⟩
    · exact .inr (List.mem_singleton.mp new ▸ names)
  · rintro (⟨other, member, names⟩ | names)
    · exact ⟨other, List.mem_append_left _ member, names⟩
    · exact ⟨event, List.mem_append_right _ (List.mem_singleton_self event), names⟩

theorem plugin_append :
    plugin (history ++ [event]) agent = (event.plugin? agent).getD (history.plugin agent) := by
  rw [plugin, List.reverse_append, List.reverse_singleton, List.singleton_append,
    List.findSome?_cons]
  cases event.plugin? agent <;> rfl

theorem recorded?_append :
    recorded? (history ++ [event]) agent =
      (event.recorded? agent).or (history.recorded? agent) := by
  rw [recorded?, List.reverse_append, List.reverse_singleton, List.singleton_append,
    List.findSome?_cons]
  cases event.recorded? agent <;> rfl

end History

/-! ## One call -/

/-- The registry in memory is written as the event says. -/
structure Event.Writes (event : Event) (m written : Memory) : Prop where
  known : ∀ agent, agent ∈ written.agents.keys ↔ agent ∈ m.agents.keys ∨ event.Names agent
  plugins : ∀ agent, (written.agents.find? agent).join =
    (event.plugin? agent).getD (m.agents.find? agent).join
  entries : ∀ agent, written.attestations.find? agent =
    (event.recorded? agent).or (m.attestations.find? agent)

namespace Event

variable {m written : Memory} {request : Request}

theorem writes_of_quiet {event : Event} (names : ∀ agent, ¬event.Names agent)
    (plugin : ∀ agent, event.plugin? agent = none) (entry : ∀ agent, event.recorded? agent = none)
    (agents : written.agents = m.agents) (attestations : written.attestations = m.attestations) :
    event.Writes m written where
  known agent := by rw [agents, or_iff_left (names agent)]
  plugins agent := by rw [agents, plugin agent, Option.getD_none]
  entries agent := by rw [attestations, entry agent, Option.none_or]

theorem writes_of_denied (request : Request) (denial : Denial) (m : Memory) :
    (Event.mk request (.error denial)).Writes m m := by
  apply writes_of_quiet _ _ _ rfl rfl
  · rintro agent ⟨succeeded, -⟩
    cases succeeded
  · intro agent
    cases request <;> rfl
  · intro agent
    cases request <;> rfl

theorem writes_of_read (reads : request.isWrite = false) (outcome : Except Denial Answer)
    (m : Memory) : (Event.mk request outcome).Writes m m := by
  apply writes_of_quiet _ _ _ rfl rfl
  · rintro agent ⟨-, named⟩
    cases request with
    | registerAgent | recordSelectors | createCluster | editCluster | deleteCluster => cases reads
    | agentPlugin | listAgents | agentSelectors | listClusters | clusterAgents | agentCluster
    | agentsMetadata => cases named
  · intro agent
    cases request with
    | registerAgent => cases reads
    | recordSelectors | createCluster | editCluster | deleteCluster | agentPlugin | listAgents
    | agentSelectors | listClusters | clusterAgents | agentCluster | agentsMetadata => rfl
  · intro agent
    cases request with
    | recordSelectors => cases reads
    | registerAgent | createCluster | editCluster | deleteCluster | agentPlugin | listAgents
    | agentSelectors | listClusters | clusterAgents | agentCluster | agentsMetadata => rfl

/-- What becomes of the agents when the event makes them known and says nothing else. -/
theorem writes_of_learn {event : Event} {agents : List AgentId}
    (names : ∀ agent, event.Names agent ↔ agent ∈ agents)
    (plugin : ∀ agent, event.plugin? agent = none) (entry : ∀ agent, event.recorded? agent = none)
    (learned : written.agents = Memory.learn agents m.agents)
    (attestations : written.attestations = m.attestations) : event.Writes m written where
  known agent := by rw [learned, Memory.mem_keys_learn, names]
  plugins agent := by
    rw [learned, Memory.find?_learn, plugin agent, Option.getD_none]
    cases m.agents.find? agent with
    | some known => rfl
    | none => split <;> rfl
  entries agent := by rw [attestations, entry agent, Option.none_or]

end Event

theorem Attestation.agent_of_check {agent : AgentId} {plugin : String} {selectors : List String}
    {entry : Attestation} (checked : Attestation.check agent plugin selectors = .ok entry) :
    entry.agent = agent := by
  unfold check at checked
  split at checked
  next =>
    obtain ⟨_, _, rfl⟩ := of_map_eq_ok checked
    rfl
  next => cases checked

theorem ClusterDraft.members_of_check {draft : ClusterDraft} {uid : ClusterUid} {cluster : Cluster}
    (checked : draft.check uid = .ok cluster) :
    cluster.members = draft.members.map fun agent => AgentId.trimmed ⟨agent⟩ := by
  unfold check at checked
  split at checked
  next => cases checked
  next =>
    obtain ⟨_, batch, rfl⟩ := of_map_eq_ok checked
    exact AgentId.eq_map_of_parseBatchAfter batch

namespace Event

variable {m : Memory}

theorem writes_of_registration (named : String) (plugin : Option String) (told : Answer)
    (m : Memory) : (Event.mk (.registerAgent named plugin) (.ok told)).Writes m
      { m with agents := m.agents.put (AgentId.trimmed ⟨named⟩) plugin } where
  known agent := by
    rw [Directory.mem_keys_put]
    exact or_congr_right ((and_iff_right rfl).trans List.mem_singleton).symm
  plugins agent := by
    change ((m.agents.put _ plugin).find? agent).join =
      (if AgentId.trimmed ⟨named⟩ = agent then some plugin else none).getD _
    rw [Directory.find?_put]
    by_cases same : agent = AgentId.trimmed ⟨named⟩
    · rw [if_pos same, if_pos same.symm]
      rfl
    · rw [if_neg same, if_neg (Ne.symm same)]
      rfl
  entries _ := Option.none_or.symm

theorem writes_of_record {named plugin : String} {selectors : List String} {entry : Attestation}
    (whose : entry.agent = AgentId.trimmed ⟨named⟩) (m : Memory) :
    (Event.mk (.recordSelectors named plugin selectors) (.ok (.attestation entry))).Writes m
      (m.putAttestation entry) where
  known agent := by
    change agent ∈ (m.agents.putNew entry.agent none).keys ↔ _
    rw [Directory.mem_keys_putNew, whose]
    exact or_congr_right ((and_iff_right rfl).trans List.mem_singleton).symm
  plugins agent := by
    change ((m.agents.putNew entry.agent none).find? agent).join = (m.agents.find? agent).join
    rw [Directory.find?_putNew]
    by_cases same : agent = entry.agent
    · rw [if_pos same, same]
      cases m.agents.find? entry.agent <;> rfl
    · rw [if_neg same]
  entries agent := by
    change (m.attestations.put entry.agent entry).find? agent =
      (if AgentId.trimmed ⟨named⟩ = agent then some entry else none).or _
    rw [Directory.find?_put, whose]
    by_cases same : agent = AgentId.trimmed ⟨named⟩
    · rw [if_pos same, if_pos same.symm]
      rfl
    · rw [if_neg same, if_neg (Ne.symm same)]
      rfl

/-- A request that is fulfilled writes what its event says, whatever it is answered. -/
theorem writes_of_perform (sound : m.Sound) {request : Request} {fresh : ClusterUid}
    {operation : Operation} (checked : request.check fresh = .ok operation) {now : Instant}
    {told : Answer} (did : (m.perform now operation).1 = .ok told) (given : Answer) :
    (Event.mk request (.ok (operation.receipt given))).Writes m (m.perform now operation).2 := by
  cases request with
  | registerAgent named plugin =>
    obtain ⟨id, parsed, rest⟩ := of_bind_eq_ok checked
    cases rest
    obtain ⟨rfl, -⟩ := AgentId.of_parse parsed
    exact writes_of_registration named plugin _ m
  | recordSelectors named plugin selectors =>
    obtain ⟨id, parsed, rest⟩ := of_bind_eq_ok checked
    obtain ⟨entry, attested, rest⟩ := of_bind_eq_ok rest
    cases rest
    obtain ⟨rfl, -⟩ := AgentId.of_parse parsed
    exact writes_of_record (Attestation.agent_of_check attested) m
  | createCluster uid draft =>
    obtain ⟨chosen, cluster, _, drafted, rfl⟩ := Request.of_check_createCluster checked
    obtain ⟨record, written, created, rfl, same⟩ := Memory.of_publish did
    obtain ⟨stored, rfl, -⟩ := Memory.rewrites_of_createCluster sound created
    change Writes _ m (m.publish _ _).2
    rw [same]
    refine writes_of_learn ?_ (fun _ => rfl) (fun _ => rfl) rfl rfl
    intro agent
    rw [ClusterDraft.members_of_check drafted]
    exact and_iff_right rfl
  | editCluster uid draft =>
    obtain ⟨chosen, _, rest⟩ := of_bind_eq_ok checked
    obtain ⟨cluster, drafted, rest⟩ := of_bind_eq_ok rest
    cases rest
    obtain ⟨record, written, edited, rfl, same⟩ := Memory.of_publish did
    obtain ⟨stored, rfl, -⟩ := Memory.rewrites_of_editCluster edited
    change Writes _ m (m.publish _ _).2
    rw [same]
    refine writes_of_learn ?_ (fun _ => rfl) (fun _ => rfl) rfl rfl
    intro agent
    rw [ClusterDraft.members_of_check drafted]
    exact and_iff_right rfl
  | deleteCluster uid =>
    obtain ⟨chosen, _, rest⟩ := of_bind_eq_ok checked
    cases rest
    obtain ⟨_, written, deleted, rfl, same⟩ := Memory.of_publish did
    obtain ⟨_, deletion, pair⟩ := of_map_eq_ok deleted
    cases pair
    obtain ⟨_, rfl⟩ := Memory.of_deleteCluster deletion
    change Writes _ m (m.publish _ _).2
    rw [same]
    refine writes_of_quiet ?_ (fun _ => rfl) (fun _ => rfl) rfl rfl
    rintro agent ⟨-, named⟩
    cases named
  | agentPlugin | listAgents | agentSelectors | listClusters | clusterAgents | agentCluster
  | agentsMetadata =>
    rw [Memory.perform_of_read now (Request.isWrite_of_check checked)]
    exact writes_of_read rfl _ m

end Event

/-! ## Runs -/

/-- The registry in memory is what the history tells. -/
structure History.Recorded (history : History) (m : Memory) : Prop where
  known : ∀ agent, agent ∈ m.agents.keys ↔ history.Names agent
  plugins : ∀ agent, (m.agents.find? agent).join = history.plugin agent
  entries : ∀ agent, m.attestations.find? agent = history.recorded? agent

namespace History

variable {history : History} {event : Event} {m written : Memory}

theorem recorded_empty : Recorded [] {} where
  known agent := by simp [Names, Directory.keys]
  plugins _ := rfl
  entries _ := rfl

theorem Recorded.append (recorded : history.Recorded m) (writes : event.Writes m written) :
    Recorded (history ++ [event]) written where
  known agent := by rw [writes.known, recorded.known, names_append]
  plugins agent := by rw [writes.plugins, recorded.plugins, plugin_append]
  entries agent := by rw [writes.entries, recorded.entries, recorded?_append]

end History

namespace Call

variable {σ : Type} [Registry σ]

def event (call : Call) (registry : σ) : Event :=
  ⟨call.request, (call.serve registry).1⟩

def history : List Call → σ → History
  | [], _ => []
  | call :: rest, registry => call.event registry :: history rest (call.serve registry).2

/-- A registry that stands for one in memory, and goes on to do so as each call is written there,
stands in the end for what the history tells. -/
theorem recorded_afterAll (Stands : σ → Memory → Prop)
    (step : ∀ call registry m, Stands registry m →
      ∃ written, Stands (serve call registry).2 written ∧ (call.event registry).Writes m written)
    (calls : List Call) {registry : σ} {m : Memory} {earlier : History}
    (stands : Stands registry m) (recorded : earlier.Recorded m) :
    ∃ written, Stands (afterAll calls registry) written ∧
      History.Recorded (earlier ++ history calls registry) written := by
  induction calls generalizing registry m earlier with
  | nil =>
    refine ⟨m, stands, ?_⟩
    rw [history, List.append_nil]
    exact recorded
  | cons call rest ih =>
    obtain ⟨written, later, writes⟩ := step call registry m stands
    have run := ih later (recorded.append writes)
    rw [List.append_assoc] at run
    exact run

end Call

theorem Memory.writes_of_serve {m : Memory} (sound : m.Sound) (call : Call) :
    (call.event m).Writes m (call.serve m).2 := by
  unfold Call.event Call.serve
  cases checked : call.request.check (.ofNibbles call.nibbles) with
  | error reason =>
    rw [serve_of_invalid checked]
    exact Event.writes_of_denied _ _ m
  | ok operation =>
    rw [serve_of_check checked]
    cases result : (Registry.perform call.now operation m).1 with
    | error failure =>
      have same : (Registry.perform call.now operation m).2 = m :=
        Memory.perform_of_error call.now operation m failure result
      rw [same]
      exact Event.writes_of_denied _ _ m
    | ok told => exact Event.writes_of_perform sound checked result told

theorem Memory.sound_serve {m : Memory} (sound : m.Sound) (call : Call) :
    (call.serve m).2.Sound := by
  unfold Call.serve
  cases checked : call.request.check (.ofNibbles call.nibbles) with
  | error reason =>
    rw [serve_of_invalid checked]
    exact sound
  | ok operation =>
    rw [serve_of_check checked]
    exact Memory.sound_perform call.now operation sound

namespace Memory

variable {m written : Memory} {cluster record : Cluster} {stored : StoredCluster}

/-- The members of every cluster can be bound to one statement. -/
def Bounded (m : Memory) : Prop :=
  ∀ uid, (Database.Statement.insertMemberships (m.members uid).length).Fits

theorem bounded_rewritten (bounded : m.Bounded)
    (room : (Database.Statement.insertMemberships cluster.members.length).Fits) :
    (m.rewritten cluster stored).Bounded := by
  intro uid
  by_cases same : uid = cluster.uid
  · have length : (AgentId.sort cluster.members).length = cluster.members.length :=
      (Text.sortOn_perm _ _).length_eq
    rw [same, members_rewritten, length]
    exact room
  · rw [members_rewritten_other same]
    exact bounded uid

theorem bounded_listed (bounded : m.Bounded) {listed : Cluster} (member : listed ∈ m.listClusters) :
    (Database.Statement.insertMemberships listed.members.length).Fits := by
  obtain ⟨entry, _, rfl⟩ := mem_listClusters.mp member
  exact bounded entry.1

theorem bounded_perform (now : Instant) {operation : Operation} (sound : m.Sound)
    (bounded : m.Bounded) (room : operation.Fits) : (m.perform now operation).2.Bounded := by
  cases operation with
  | createCluster cluster =>
    apply publish_keeps Bounded _ bounded
    intro record written created
    obtain ⟨_, rfl, -, -⟩ := rewrites_of_createCluster sound created
    exact bounded_rewritten bounded room
  | editCluster cluster =>
    apply publish_keeps Bounded _ bounded
    intro record written edited
    obtain ⟨_, rfl, -, -⟩ := rewrites_of_editCluster edited
    exact bounded_rewritten bounded room
  | deleteCluster uid =>
    apply publish_delete_keeps Bounded bounded
    intro written deleted other
    obtain ⟨_, rfl⟩ := of_deleteCluster deleted
    change (Database.Statement.insertMemberships ((m.removeMembers uid).members other).length).Fits
    by_cases same : other = uid
    · rw [same, members_of_empty (removeMembers_empty uid m)]
      exact Nat.zero_le _
    · rw [members_removeMembers same]
      exact bounded other
  | putAgent | putAttestation | listAgents | findAgent | findAttestation | listClusters
  | clusterOf | membersOf | describeAgents => exact bounded

end Memory

namespace Database

/-- The database holds the registry, which holds tidy values and no more members of a cluster than
can be bound at once. -/
structure Stands (c : Connection) (m : Memory) : Prop extends Backs c m where
  tidy : m.Tidy
  bounded : m.Bounded

namespace Stands

variable {c : Connection} {m : Memory}

theorem opened {foreignKeys inMemory : Bool} {mishaps : List (Option Mishap)}
    (gentle : inMemory = true → ∀ mishap, some mishap ∈ mishaps → mishap.endsTransaction = false) :
    Stands { foreignKeys, inMemory, mishaps } {} where
  toBacks := .opened gentle
  tidy := Memory.tidy_empty
  bounded _ := by
    rw [Memory.members_of_empty fun _ => List.not_mem_nil.elim]
    exact Nat.zero_le _

/-- What is left of the database once nothing goes wrong around it any more. -/
theorem holds (stands : Stands c m) : Holds { c with mishaps := [] } m where
  idle := stands.idle
  sees := {
    calm := rfl
    sound := stands.records.sound
    tidy := stands.tidy
    encoded := stands.encoded }

theorem perform (stands : Stands c m) {call : Call} {operation : Operation}
    (checked : call.request.check (.ofNibbles call.nibbles) = .ok operation) :
    ∃ written, Stands (Store.perform call.now operation c).2 written ∧
      (Event.mk call.request (((Store.perform call.now operation c).1.map
        operation.receipt).mapError .failed)).Writes m written := by
  have fits := Request.tidy_of_check (ClusterUid.tidy_ofNibbles call.nibbles) checked
  have same := Request.isWrite_of_check checked
  cases wrote : operation.isWrite with
  | false =>
    refine ⟨m, ⟨stands.read wrote, stands.tidy, stands.bounded⟩, ?_⟩
    exact Event.writes_of_read (same.symm.trans wrote) _ m
  | true =>
    cases result : (Store.perform call.now operation c).1 with
    | error failure =>
      exact ⟨m, ⟨stands.refused result, stands.tidy, stands.bounded⟩,
        Event.writes_of_denied _ _ m⟩
    | ok given =>
      obtain ⟨told, did, -⟩ := (stands.carried wrote result).answer
      refine ⟨_, ⟨stands.written wrote result, ?_, ?_⟩, ?_⟩
      · exact Memory.tidy_perform call.now fits stands.tidy
      · exact Memory.bounded_perform call.now stands.records.sound stands.bounded
          (Store.fits_of_perform result)
      · exact Event.writes_of_perform stands.records.sound checked did given

theorem serve (stands : Stands c m) (call : Call) :
    ∃ written, Stands (call.serve c).2 written ∧ (call.event c).Writes m written := by
  unfold Call.event Call.serve
  cases checked : call.request.check (.ofNibbles call.nibbles) with
  | error reason =>
    rw [serve_of_invalid checked]
    exact ⟨m, stands, Event.writes_of_denied _ _ m⟩
  | ok operation =>
    rw [serve_of_check checked]
    exact stands.perform checked

end Stands

end Database

/-! ## The ledger -/

/-- The registry answers about agents as the history tells. -/
structure Ledger {σ : Type} [Registry σ] (history : History) (registry : σ) : Prop where
  agents : ∀ now nibbles, ∃ listed,
    (Call.serve ⟨now, nibbles, .listAgents⟩ registry).1 = .ok (.agents listed) ∧
      listed.Pairwise (fun first second => first.id.text < second.id.text) ∧
      ∀ agent, agent ∈ listed ↔ history.Names agent.id ∧
        agent.plugin = history.plugin agent.id ∧ agent.cluster = none
  selectors : ∀ now nibbles text,
    (Call.serve ⟨now, nibbles, .agentSelectors text⟩ registry).1 =
      match AgentId.parse text with
      | .error reason => .error (.invalid reason)
      | .ok agent =>
        match history.recorded? agent with
        | some entry => .ok (.attestation entry)
        | none => .error (.failed .attestationNotFound)

theorem Memory.mem_listAgents {m : Memory} (sound : m.Sound) {agent : Agent} :
    agent ∈ m.listAgents ↔ agent.id ∈ m.agents.keys ∧
      agent.plugin = (m.agents.find? agent.id).join ∧ agent.cluster = none := by
  rw [listAgents, List.mem_map]
  constructor
  · rintro ⟨⟨id, plugin⟩, sorted, rfl⟩
    have found := Directory.find?_of_mem sound.agents (Text.mem_sortOn.mp sorted)
    refine ⟨Directory.mem_keys_of_find? found, ?_, rfl⟩
    change plugin = (m.agents.find? id).join
    rw [found]
    rfl
  · obtain ⟨id, plugin, cluster⟩ := agent
    rintro ⟨known, said, rfl⟩
    obtain ⟨stored, found⟩ := Directory.exists_find? known
    rw [found] at said
    cases said
    exact ⟨(id, plugin), Text.mem_sortOn.mpr (Directory.mem_of_find? found), rfl⟩

theorem History.Recorded.ledger {history : History} {m : Memory} (recorded : history.Recorded m)
    (sound : m.Sound) : Ledger history m where
  agents now nibbles := by
    refine ⟨m.listAgents, rfl, ?_, ?_⟩
    · rw [Memory.listAgents, List.pairwise_map]
      exact Text.pairwise_lt_sortOn (AgentId.nodup_texts sound.agents)
    · intro agent
      rw [Memory.mem_listAgents sound, recorded.known, recorded.plugins]
  selectors now nibbles text := by
    unfold Call.serve
    cases parsed : AgentId.parse text with
    | error reason =>
      have checked : (Request.agentSelectors text).check (.ofNibbles nibbles) = .error reason := by
        rw [Request.check, parsed]
        rfl
      rw [serve_of_invalid checked]
    | ok agent =>
      have checked : (Request.agentSelectors text).check (.ofNibbles nibbles) =
          .ok (.findAttestation agent) := by
        rw [Request.check, parsed]
        rfl
      rw [serve_of_check checked]
      let answer := (m.findAttestation agent).map Answer.attestation
      change ((answer.map _).mapError _ : Except _ _) = _
      dsimp only [answer]
      rw [Memory.findAttestation, recorded.entries]
      cases history.recorded? agent <;> rfl

/-- A registry that answers reads as another one does shares its ledger. -/
theorem Ledger.of_reads {σ τ : Type} [Registry σ] [Registry τ] {history : History} {first : σ}
    {second : τ} (ledger : Ledger history first)
    (same : ∀ call : Call, call.Fits → call.request.isWrite = false →
      (call.serve second).1 = (call.serve first).1) : Ledger history second where
  agents now nibbles := by
    rw [same _ _ rfl]
    · exact ledger.agents now nibbles
    · rintro operation asks
      cases asks
      trivial
  selectors now nibbles text := by
    rw [same _ _ rfl]
    · exact ledger.selectors now nibbles text
    · intro operation asks
      obtain ⟨agent, _, rest⟩ := of_bind_eq_ok asks
      cases rest
      trivial

theorem Database.serve_read {c : Connection} {m : Memory} (holds : Holds c m) (call : Call)
    (room : call.Fits) (reads : call.request.isWrite = false) : (call.serve c).1 = (call.serve m).1 := by
  unfold Call.serve
  cases checked : call.request.check (.ofNibbles call.nibbles) with
  | error reason => rw [serve_of_invalid checked, serve_of_invalid checked]
  | ok operation =>
    have fits := Request.tidy_of_check (ClusterUid.tidy_ofNibbles call.nibbles) checked
    have read : operation.isWrite = false := (Request.isWrite_of_check checked).trans reads
    have answers := (Store.perform_answers holds call.now fits (room operation checked)).outcome
    rw [Operation.told, if_neg (by rw [read]; exact Bool.false_ne_true)] at answers
    rw [serve_of_check checked, serve_of_check checked]
    change (((Store.perform call.now operation c).1.map _).mapError _ : Except _ _) = _
    rw [answers]
    rfl

/-- After any calls a registry lists the agents that were named in calls that succeeded, each with
the plugin that it was given last, and has of each of them what was recorded last. Calls that failed
leave no trace. This holds in memory and in a database, with references enforced or not, and
whatever mishaps befell the statements of the calls, as long as none befalls the reading, and none
makes a database in memory lose its tables. -/
theorem agents_as_told (foreignKeys inMemory : Bool) (mishaps : List (Option Database.Mishap))
    (gentle : inMemory = true → ∀ mishap, some mishap ∈ mishaps → mishap.endsTransaction = false)
    (calls : List Call) :
    let fresh : Database.Connection := { foreignKeys, inMemory, mishaps }
    Ledger (Call.history calls ({} : Memory)) (Call.afterAll calls ({} : Memory)) ∧
      Ledger (Call.history calls fresh) { Call.afterAll calls fresh with mishaps := [] } := by
  intro fresh
  constructor
  · obtain ⟨_, ⟨rfl, sound⟩, recorded⟩ := Call.recorded_afterAll
      (fun registry m : Memory => registry = m ∧ m.Sound)
      (fun call registry m ⟨same, sound⟩ =>
        ⟨_, ⟨congrArg (fun m => (call.serve m).2) same, Memory.sound_serve sound call⟩,
          same ▸ Memory.writes_of_serve sound call⟩)
      calls ⟨rfl, Memory.sound_empty⟩ History.recorded_empty
    exact recorded.ledger sound
  · have opened : Database.Stands fresh {} := .opened gentle
    obtain ⟨m, stands, recorded⟩ := Call.recorded_afterAll Database.Stands
      (fun call _ _ stands => stands.serve call) calls opened History.recorded_empty
    exact (recorded.ledger stands.records.sound).of_reads
      (Database.serve_read stands.holds)

/-- A registration that finds the database locked leaves no trace. -/
theorem locked_out_unlisted :
    let first : Call := ⟨.epoch, fun _ => 0, .registerAgent "a" none⟩
    let second : Call := ⟨.epoch, fun _ => 0, .registerAgent "b" (some "p")⟩
    let locked : Database.Mishap := ⟨"database is locked", false⟩
    let fresh : Database.Connection :=
      { foreignKeys := true, inMemory := true, mishaps := [some locked] }
    (∀ mishap, some mishap ∈ fresh.mishaps → mishap.endsTransaction = false) ∧
      ∃ listed, (Call.serve ⟨.epoch, fun _ => 0, .listAgents⟩
        { Call.afterAll [first, second] fresh with mishaps := [] }).1 = .ok (.agents listed) ∧
          ∀ agent ∈ listed, agent.id = ⟨"b"⟩ := by
  intro first second locked fresh
  have gentle : ∀ mishap, some mishap ∈ [some locked] → mishap.endsTransaction = false := by
    rintro mishap member
    cases List.mem_singleton.mp member
    rfl
  have ledger := (agents_as_told true true [some locked] (fun _ => gentle) [first, second]).2
  obtain ⟨listed, told, -, same⟩ := ledger.agents .epoch fun _ => 0
  refine ⟨gentle, listed, told, fun agent member => ?_⟩
  have failed : (first.serve fresh).1.isOk = false := by decide +kernel
  obtain ⟨⟨event, happened, succeeded, named⟩, -⟩ := (same agent).mp member
  rcases List.mem_pair.mp happened with rfl | rfl
  · exact absurd (failed.symm.trans succeeded) Bool.false_ne_true
  · have trimmed : AgentId.trimmed ⟨"b"⟩ = ⟨"b"⟩ := by decide +kernel
    exact (List.mem_singleton.mp named).trans trimmed

/-! ## What is left by calls -/

theorem Memory.sound_afterAll (calls : List Call) : (Call.afterAll calls ({} : Memory)).Sound :=
  Call.afterAll_related (fun m _ : Memory => m.Sound) (fun _ => True)
    (fun call _ _ _ sound => sound_serve sound call) calls (fun _ _ => trivial) {} {} sound_empty

/-- A database stands for some registry, whatever was called. -/
theorem Database.stands_afterAll (foreignKeys : Bool) {inMemory : Bool}
    {mishaps : List (Option Mishap)}
    (gentle : inMemory = true → ∀ mishap, some mishap ∈ mishaps → mishap.endsTransaction = false)
    (calls : List Call) :
    ∃ m, Stands (Call.afterAll calls ({ foreignKeys, inMemory, mishaps } : Connection)) m := by
  have opened : Stands { foreignKeys, inMemory, mishaps } {} := .opened gentle
  obtain ⟨m, stands, -⟩ := Call.recorded_afterAll Stands
    (fun call _ _ stands => stands.serve call) calls opened History.recorded_empty
  exact ⟨m, stands⟩

end Roster
