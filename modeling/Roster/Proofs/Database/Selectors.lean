import Roster.Proofs.Database.Recording
import Roster.Proofs.Json.Recognition
import Roster.Proofs.Requests.Problems

/-!
What is read of the selectors of an agent.

They are stored as a JSON document, which anybody may have written. It is decoded, and then checked
as the texts of a caller are. What the check passed before it was stored passes it again unchanged,
so an entry that was recorded is read back as it was.
-/

namespace Roster

/-! ## Checks of stored texts -/

/-- The text is a JSON document that consists of a sequence of strings, namely these. -/
def Attestation.Lists (text : String) (selectors : List String) : Prop :=
  ∃ (before inner : Json.Gap) (items : List (Json.Item Json.Spelling)) (after : Json.Gap),
    text = Json.Spelling.document before (.sequence inner items) after ∧
      items.mapM (fun item => Json.Reader.textOf item.value) = some selectors

theorem Attestation.decode_eq_ok_iff (text : String) (selectors : List String) :
    selectorsCodec.decode text = .ok selectors ↔ Lists text selectors := by
  have means := Json.Reader.means_sequence Json.Reader.means_text
  have recognises := Json.Reader.recognises_text.sequence
  refine (Json.Codec.decode_eq_ok_iff means recognises text selectors).trans ?_
  constructor
  · rintro ⟨before, v, after, rfl, value⟩
    cases v with
    | sequence inner items => exact ⟨before, inner, items, after, rfl, value⟩
    | null | flag _ | number _ | text _ | map _ _ => cases value
  · rintro ⟨before, inner, items, after, rfl, value⟩
    exact ⟨before, .sequence inner items, after, rfl, value⟩

theorem checkSelectors_of_visible {selectors : List String}
    (visible : ∀ s ∈ selectors, ¬Text.Blank s) (index : Nat) :
    checkSelectors index selectors = .ok (selectors.map Text.trim) := by
  induction selectors generalizing index with
  | nil => rfl
  | cons s rest ih =>
    rw [List.forall_mem_cons] at visible
    rw [checkSelectors, nonBlank_eq, if_neg visible.1]
    simp only [ih visible.2]
    rfl

/-- The check stops at the first selector that is blank. -/
theorem checkSelectors_of_blank {earlier : List String} (visible : ∀ s ∈ earlier, ¬Text.Blank s)
    {s : String} (blank : Text.Blank s) (later : List String) (index : Nat) :
    checkSelectors index (earlier ++ s :: later) =
      .error (.blankSelector (index + earlier.length)) := by
  induction earlier generalizing index with
  | nil =>
    rw [List.nil_append, checkSelectors, nonBlank_eq, if_pos blank]
    rfl
  | cons first rest ih =>
    rw [List.forall_mem_cons] at visible
    rw [List.cons_append, checkSelectors, nonBlank_eq, if_neg visible.1]
    simp only [ih visible.2]
    rw [List.length_cons, Nat.add_assoc, Nat.add_comm 1]
    rfl

/-- What passed the check passes it again unchanged, whatever the identity is. -/
theorem Attestation.check_again {agent : AgentId} {plugin : String} {selectors : List String}
    {entry : Attestation} (checked : check agent plugin selectors = .ok entry) :
    check entry.agent entry.plugin entry.selectors = .ok entry := by
  unfold check at checked
  split at checked
  next passed =>
    obtain ⟨tail, others, rfl⟩ := of_map_eq_ok checked
    simp only [check, nonBlank_of_tidy (tidy_of_nonBlank passed),
      checkSelectors_of_tidy (tidy_of_checkSelectors others)]
    rfl
  next => cases checked

/-- A list of selectors either has a first blank one or has none. -/
theorem exists_first_blank {selectors : List String} (some : ¬∀ s ∈ selectors, ¬Text.Blank s) :
    ∃ earlier s later, selectors = earlier ++ s :: later ∧ (∀ s ∈ earlier, ¬Text.Blank s) ∧
      Text.Blank s := by
  induction selectors with
  | nil => exact absurd nofun some
  | cons s rest ih =>
    by_cases blank : Text.Blank s
    · exact ⟨[], s, rest, rfl, nofun, blank⟩
    · have among : ¬∀ s ∈ rest, ¬Text.Blank s := fun visible =>
        some (List.forall_mem_cons.mpr ⟨blank, visible⟩)
      obtain ⟨earlier, found, later, rfl, visible, foundBlank⟩ := ih among
      exact ⟨s :: earlier, found, later, rfl, List.forall_mem_cons.mpr ⟨blank, visible⟩, foundBlank⟩

/-- What is read of an agent with a row of selectors. The JSON is looked at before the plugin, and
the plugin before the selectors. -/
structure ReadsAttestation (agent : AgentId) (plugin text : String)
    (outcome : Except Failure Attestation) : Prop where
  succeeds : ∀ entry, outcome = .ok entry ↔ ∃ selectors, Attestation.Lists text selectors ∧
    ¬Text.Blank plugin ∧ (∀ s ∈ selectors, ¬Text.Blank s) ∧
      entry = { agent, plugin := Text.trim plugin, selectors := selectors.map Text.trim }
  undecodable : (∀ selectors, ¬Attestation.Lists text selectors) →
    ∃ error, Attestation.selectorsCodec.decode text = .error error ∧
      outcome = .error (.corrupt (.undecodable error))
  blankPlugin : ∀ selectors, Attestation.Lists text selectors → Text.Blank plugin →
    outcome = .error (.corrupt (.invalid .blankPlugin))
  blankSelector : ∀ earlier s later, Attestation.Lists text (earlier ++ s :: later) →
    ¬Text.Blank plugin → (∀ s ∈ earlier, ¬Text.Blank s) → Text.Blank s →
      outcome = .error (.corrupt (.invalid (.blankSelector earlier.length)))

namespace Database

namespace Store

variable {agent : AgentId} {plugin text : String} {selectors : List String}

theorem readAttestation_of_lists (lists : Attestation.Lists text selectors) :
    readAttestation agent plugin text = corrupt (Attestation.check agent plugin selectors) := by
  rw [readAttestation, (Attestation.decode_eq_ok_iff text selectors).mpr lists]

theorem readAttestation_of_blankPlugin (lists : Attestation.Lists text selectors)
    (blank : Text.Blank plugin) :
    readAttestation agent plugin text = .error (.corrupt (.invalid .blankPlugin)) := by
  rw [readAttestation_of_lists lists, Attestation.check, nonBlank_eq, if_pos blank]
  rfl

theorem readAttestation_of_blank {earlier later : List String} {s : String}
    (lists : Attestation.Lists text (earlier ++ s :: later)) (attested : ¬Text.Blank plugin)
    (visible : ∀ s ∈ earlier, ¬Text.Blank s) (blank : Text.Blank s) :
    readAttestation agent plugin text =
      .error (.corrupt (.invalid (.blankSelector earlier.length))) := by
  rw [readAttestation_of_lists lists, Attestation.check, nonBlank_eq, if_neg attested]
  simp only [checkSelectors_of_blank visible blank, Nat.zero_add]
  rfl

theorem readAttestation_of_visible (lists : Attestation.Lists text selectors)
    (attested : ¬Text.Blank plugin) (visible : ∀ s ∈ selectors, ¬Text.Blank s) :
    readAttestation agent plugin text =
      .ok { agent, plugin := Text.trim plugin, selectors := selectors.map Text.trim } := by
  rw [readAttestation_of_lists lists, Attestation.check, nonBlank_eq, if_neg attested]
  simp only [checkSelectors_of_visible visible]
  rfl

theorem reads_readAttestation (agent : AgentId) (plugin text : String) :
    ReadsAttestation agent plugin text (readAttestation agent plugin text) where
  succeeds := by
    intro entry
    constructor
    · intro read
      cases decoded : Attestation.selectorsCodec.decode text with
      | error error =>
        rw [readAttestation, decoded] at read
        cases read
      | ok selectors =>
        have lists := (Attestation.decode_eq_ok_iff text selectors).mp decoded
        by_cases blank : Text.Blank plugin
        · rw [readAttestation_of_blankPlugin lists blank] at read
          cases read
        by_cases visible : ∀ s ∈ selectors, ¬Text.Blank s
        · rw [readAttestation_of_visible lists blank visible] at read
          exact ⟨selectors, lists, blank, visible, (Except.ok.inj read).symm⟩
        · obtain ⟨earlier, s, later, rfl, visible, found⟩ := exists_first_blank visible
          rw [readAttestation_of_blank lists blank visible found] at read
          cases read
    · rintro ⟨selectors, lists, attested, visible, rfl⟩
      exact readAttestation_of_visible lists attested visible
  undecodable := by
    intro other
    cases decoded : Attestation.selectorsCodec.decode text with
    | error error =>
      refine ⟨error, rfl, ?_⟩
      rw [readAttestation, decoded]
    | ok selectors =>
      exact absurd ((Attestation.decode_eq_ok_iff text selectors).mp decoded) (other selectors)
  blankPlugin _ lists := readAttestation_of_blankPlugin lists
  blankSelector _ _ _ lists := readAttestation_of_blank lists

end Store

/-! ## Rows -/

namespace Tables

variable {t : Tables}

/-- The agent has a row of selectors with this plugin and this text. No two agents have the same
identity, and no two rows of selectors belong to the same agent. -/
structure Attests (t : Tables) (agent : AgentId) (plugin text : String) : Prop where
  agentsThere : .agents ∉ t.missing
  selectorsThere : .selectors ∉ t.missing
  spiffeids : (t.agents.map (·.spiffeid)).Nodup
  attested : (t.selectors.map (·.agentId)).Nodup
  row : ∃ holder ∈ t.agents, holder.spiffeid = agent.text ∧
    (⟨holder.id, plugin, text⟩ : SelectorRow) ∈ t.selectors

theorem Attests.selectSelectors {agent : AgentId} {plugin text : String}
    (attests : t.Attests agent plugin text) :
    t.selectSelectors agent.text = .ok (some (plugin, text)) := by
  obtain ⟨agentsThere, selectorsThere, spiffeids, attested, holder, known, named, listed⟩ := attests
  have there : t.require Statement.selectSelectors.tables = .ok () :=
    require_of_there (List.forall_mem_cons.mpr
      ⟨selectorsThere, List.forall_mem_singleton.mpr agentsThere⟩)
  have found : t.agentNamed? agent.text = some holder := named ▸ find?_of_nodup spiffeids known
  have row := find?_of_nodup attested listed
  rw [Tables.selectSelectors, there, ok_bind, found, Option.bind_some]
  simp only [row]
  rfl

end Tables

/-! ## Reads after an entry was recorded -/

variable {c : Connection}

namespace Store

/-- What is found after an entry was recorded, compared with what was found before. -/
structure Recorded (entry : Attestation) (before after : Connection) : Prop where
  readBack : (findAttestation entry.agent after).1 = .ok entry
  others : ∀ other, other ≠ entry.agent →
    (findAttestation other after).1 = (findAttestation other before).1
  plugin : ∀ known, (findAgent entry.agent before).1 = .ok known →
    (findAgent entry.agent after).1 = .ok known
  /-- An agent that was unknown has become known without a plugin. -/
  learned : (findAgent entry.agent before).1 = .error .agentNotFound →
    (findAgent entry.agent after).1 = .ok { id := entry.agent }
  agents : ∀ other, other ≠ entry.agent →
    (findAgent other after).1 = (findAgent other before).1
  memberships : after.stored.memberships = before.stored.memberships
  clusterOf : ∀ other, (clusterOf other after).1 = (clusterOf other before).1
  membersOf : ∀ uid, (membersOf uid after).1 = (membersOf uid before).1
  listClusters : (listClusters after).1 = (listClusters before).1

section Attest

variable (recording : Recording c) (entry : Attestation)
include recording

theorem tables_attest : (c.attest entry).tables = c.tables.attest entry.agent.text entry.plugin
    (Attestation.selectorsCodec.encode entry.selectors) := by
  have idle : (c.attest entry).working = none := recording.idle
  rw [Connection.tables_of_idle idle, Connection.tables_of_idle recording.idle]
  rfl

theorem numbered_tables : c.tables.Numbered :=
  Connection.tables_of_idle recording.idle ▸ recording.numbered

/-- A read answers as before if it selects as before and looks at nothing else. -/
theorem answers_attest {α β : Type} {s : Statement} {query : Tables → Except Refusal α}
    {next : α → Action β} (selects : query (c.attest entry).tables = query c.tables)
    (continues : ∀ a, (next a (c.attest entry)).1 = (next a c).1) :
    ((Action.read s query >>= next) (c.attest entry)).1 = ((Action.read s query >>= next) c).1 :=
  have calm : (c.attest entry).mishaps = [] := recording.calm
  Action.read_alike calm recording.calm selects fun a _ => continues a

theorem findAttestation_attest (passes : Attestation.check entry.agent entry.plugin
    entry.selectors = .ok entry) :
    (findAttestation entry.agent (c.attest entry)).1 = .ok entry := by
  have calm : (c.attest entry).mishaps = [] := recording.calm
  have there : c.tables.require Statement.selectSelectors.tables = .ok () := by
    rw [Connection.tables_of_idle recording.idle]
    exact Tables.require_of_there (List.forall_mem_cons.mpr
      ⟨recording.selectors, List.forall_mem_singleton.mpr recording.agents⟩)
  have selected := Tables.selectSelectors_attest c.tables entry.agent.text entry.plugin
    (Attestation.selectorsCodec.encode entry.selectors) there
  rw [← tables_attest recording entry] at selected
  have read : readAttestation entry.agent entry.plugin
      (Attestation.selectorsCodec.encode entry.selectors) = .ok entry := by
    rw [readAttestation, Attestation.decode_encode]
    exact congrArg corrupt passes
  rw [findAttestation, Action.bind_of_ok (Action.read_of_ok calm selected)]
  change (Action.lift (readAttestation entry.agent entry.plugin
    (Attestation.selectorsCodec.encode entry.selectors)) (c.attest entry)).1 = _
  rw [read]
  rfl

theorem findAttestation_attest_other {other : AgentId} (different : other ≠ entry.agent) :
    (findAttestation other (c.attest entry)).1 = (findAttestation other c).1 := by
  apply answers_attest recording entry
  · rw [tables_attest recording]
    exact (numbered_tables recording).selectSelectors_attest _ _
      fun same => different (AgentId.text_inj.mp same)
  · intro found
    rcases found with _ | ⟨plugin, text⟩
    · rfl
    · exact Action.lift_alike _ _ _

theorem findAgent_attest_other {other : AgentId} (different : other ≠ entry.agent) :
    (findAgent other (c.attest entry)).1 = (findAgent other c).1 := by
  apply answers_attest recording entry
  · rw [tables_attest recording, Tables.selectPlugin, Tables.require_attest,
      Tables.agentNamed?_attest, if_neg fun same => different (AgentId.text_inj.mp same)]
    rfl
  · intro found
    cases found <;> rfl

theorem clusterOf_attest (other : AgentId) :
    (clusterOf other (c.attest entry)).1 = (clusterOf other c).1 := by
  apply answers_attest recording entry
  · rw [tables_attest recording, Tables.selectClusterName, Tables.require_attest,
      (numbered_tables recording).placedMembers_attest]
    rfl
  · intro found
    cases found with
    | none => rfl
    | some name => exact Action.lift_alike _ _ _

theorem membersOf_attest (uid : ClusterUid) :
    (membersOf uid (c.attest entry)).1 = (membersOf uid c).1 := by
  apply answers_attest recording entry
  · rw [tables_attest recording, Tables.selectMembersOf, Tables.require_attest,
      (numbered_tables recording).placedMembers_attest]
    rfl
  · exact fun members => Action.lift_alike _ _ _

theorem listClusters_attest : (listClusters (c.attest entry)).1 = (listClusters c).1 := by
  apply answers_attest recording entry
  · rw [tables_attest recording, Tables.selectClusters, Tables.require_attest, Tables.attest_rest]
    rfl
  intro rows
  apply answers_attest recording entry
  · rw [tables_attest recording, Tables.selectMemberships, Tables.require_attest,
      (numbered_tables recording).memberRows_attest]
    rfl
  · exact fun members => Action.lift_alike _ _ _

end Attest

theorem findAgent_named (calm : c.mishaps = []) (there : .agents ∉ c.tables.missing)
    (agent : AgentId) : (findAgent agent c).1 = match c.tables.agentNamed? agent.text with
      | some row => .ok { id := agent, plugin := row.plugin }
      | none => .error .agentNotFound := by
  have required : c.tables.require Statement.selectPlugin.tables = .ok () :=
    Tables.require_of_there (List.forall_mem_singleton.mpr there)
  have selected : c.tables.selectPlugin agent.text =
      .ok ((c.tables.agentNamed? agent.text).map (·.plugin)) := by
    rw [Tables.selectPlugin, required]
    rfl
  rw [findAgent, Action.bind_of_ok (Action.read_of_ok calm selected)]
  cases c.tables.agentNamed? agent.text <;> rfl

/-- The agent of the entry is found as it was, or without a plugin if it is new. -/
theorem findAgent_attest (recording : Recording c) (entry : Attestation) :
    (findAgent entry.agent (c.attest entry)).1 =
      .ok { id := entry.agent, plugin := (c.tables.offered entry.agent.text).plugin } := by
  have calm : (c.attest entry).mishaps = [] := recording.calm
  have there : .agents ∉ (c.attest entry).tables.missing := by
    rw [tables_attest recording, Tables.attest_rest, Connection.tables_of_idle recording.idle]
    exact recording.agents
  rw [findAgent_named calm there, tables_attest recording, Tables.agentNamed?_attest,
    if_pos rfl]

theorem recorded_attest (recording : Recording c) {entry : Attestation}
    (passes : Attestation.check entry.agent entry.plugin entry.selectors = .ok entry) :
    Recorded entry c (c.attest entry) := by
  have there : .agents ∉ c.tables.missing :=
    Connection.tables_of_idle recording.idle ▸ recording.agents
  have before := findAgent_named recording.calm there entry.agent
  have after := findAgent_attest recording entry
  rw [Tables.offered] at after
  refine ⟨findAttestation_attest recording entry passes,
    fun _ => findAttestation_attest_other recording entry, ?_, ?_,
    fun _ => findAgent_attest_other recording entry, ?_, clusterOf_attest recording entry,
    membersOf_attest recording entry, listClusters_attest recording entry⟩
  · intro known found
    rw [before] at found
    split at found
    next row named =>
      rw [named] at after
      exact after.trans found
    next => cases found
  · intro missed
    rw [before] at missed
    split at missed
    next => cases missed
    next unnamed =>
      rw [unnamed] at after
      exact after
  · change (c.stored.attest _ _ _).memberships = _
    rw [Tables.attest_rest]

end Store

/-- Whatever was stored as the selectors of an agent, and whoever did it, an entry is read of it
just if it is a JSON sequence of strings and neither the plugin nor a selector is blank. An entry
that passed the checks is read back as it was recorded, and recording it changes nothing else that
can be read, apart from that its agent has become known. -/
theorem selectors_read_back :
    (∀ (c : Connection) (agent : AgentId) (plugin text : String), c.mishaps = [] →
      c.tables.Attests agent plugin text →
        ReadsAttestation agent plugin text (Store.findAttestation agent c).1) ∧
    ∀ (c : Connection) (agent : AgentId) (plugin : String) (selectors : List String)
      (entry : Attestation), Attestation.check agent plugin selectors = .ok entry →
        Recording c → (Store.putAttestation entry c).1 = .ok () ∧
          Store.Recorded entry c (Store.putAttestation entry c).2 := by
  constructor
  · intro c agent plugin text calm attests
    rw [Store.findAttestation, Action.bind_of_ok (Action.read_of_ok calm attests.selectSelectors)]
    have told : (Action.lift (Store.readAttestation agent plugin text) c).1 =
        Store.readAttestation agent plugin text := by
      cases Store.readAttestation agent plugin text <;> rfl
    change ReadsAttestation agent plugin text (Action.lift _ c).1
    rw [told]
    exact Store.reads_readAttestation agent plugin text
  · intro c agent plugin selectors entry checked recording
    rw [Store.putAttestation_eq recording]
    exact ⟨rfl, Store.recorded_attest recording (Attestation.check_again checked)⟩

/-- White space around stored texts is not read. An entry of another agent leaves them as they
are. -/
theorem padded_row_read :
    let t : Tables := { agents := [⟨1, "a", some "p"⟩], lastAgentId := 1
                        selectors := [⟨1, " x509 ", "[\"unix:uid:0 \"]"⟩] }
    let c : Connection := { foreignKeys := true, stored := t }
    let entry : Attestation := ⟨⟨"b"⟩, "k8s", ["ns:default"]⟩
    let later := (Store.putAttestation entry c).2
    (Store.findAttestation ⟨"a"⟩ c).1 = .ok ⟨⟨"a"⟩, "x509", ["unix:uid:0"]⟩ ∧
      (Store.findAttestation ⟨"a"⟩ later).1 = .ok ⟨⟨"a"⟩, "x509", ["unix:uid:0"]⟩ ∧
      (Store.findAttestation ⟨"b"⟩ later).1 = .ok entry := by
  intro t c entry later
  have attests : c.tables.Attests ⟨"a"⟩ " x509 " "[\"unix:uid:0 \"]" :=
    ⟨by decide, by decide, by decide, by decide, ⟨1, "a", some "p"⟩, by decide, rfl, by decide⟩
  have lists : Attestation.Lists "[\"unix:uid:0 \"]" ["unix:uid:0 "] :=
    (Attestation.decode_eq_ok_iff _ _).mp (Attestation.decode_encode ["unix:uid:0 "])
  have reads := selectors_read_back.1 c ⟨"a"⟩ " x509 " _ rfl attests
  have read : (Store.findAttestation ⟨"a"⟩ c).1 = .ok ⟨⟨"a"⟩, "x509", ["unix:uid:0"]⟩ :=
    (reads.succeeds _).mpr ⟨_, lists, by decide, by decide, by decide⟩
  have recording : Recording c :=
    ⟨rfl, rfl, ⟨by decide, by decide, by decide⟩, by decide, by decide, rfl⟩
  obtain ⟨-, recorded⟩ := selectors_read_back.2 c ⟨"b"⟩ " k8s" ["ns:default"] entry (by decide)
    recording
  have elsewhere : (⟨"a"⟩ : AgentId) ≠ entry.agent := by decide
  exact ⟨read, (recorded.others _ elsewhere).trans read, recorded.readBack⟩

end Database

end Roster
