import Roster.Database.Session
import Roster.Proofs.Database.Atomicity
import Roster.Proofs.Database.Changes

/-!
What every change of the tables keeps, whole runs keep.

Callers use a database by operations of the registry and by sessions, in which they choose the steps
of a transaction one by one. Whatever they do comes down to changes that single statements make,
each on tables that are stored or on those of the open transaction. A property of the tables that
none of these changes can break therefore holds after every run, whichever statements fail, whatever
befalls them, and however the sessions end.

Callers keep other conditions on the connection too, if single statements do, and if it is kept
where a transaction begins and ends. What holds inside of a transaction may then be another
condition than what holds outside: a database in memory is lost if its transaction is not there any
more when it ends, so that what keeps it there has to be known inside.
-/

namespace Roster.Database

variable {terms : Terms} {P : Tables → Prop}

/-! ## Connections -/

/-- The stored tables and those of the open transaction have the property. -/
structure Connection.Satisfies (foreignKeys : Bool) (P : Tables → Prop) (c : Connection) :
    Prop where
  foreignKeys : c.foreignKeys = foreignKeys
  stored : P c.stored
  working : ∀ t, c.working = some t → P t

namespace Connection.Satisfies

variable {foreignKeys : Bool} {c : Connection} {α : Type}

theorem of_idle (idle : c.working = none) (stored : P c.stored) : c.Satisfies c.foreignKeys P where
  foreignKeys := rfl
  stored := stored
  working t inside := by
    rw [idle] at inside
    cases inside

theorem tables (satisfies : c.Satisfies foreignKeys P) : P c.tables := by
  unfold Connection.tables
  cases inside : c.working with
  | none => exact satisfies.stored
  | some t => exact satisfies.working t inside

theorem approach (satisfies : c.Satisfies foreignKeys P) :
    c.approach.2.Satisfies foreignKeys P := by
  unfold Connection.approach
  split <;> exact ⟨satisfies.foreignKeys, satisfies.stored, satisfies.working⟩

theorem outside (satisfies : c.Satisfies foreignKeys P) :
    ({ c with working := none } : Connection).Satisfies foreignKeys P :=
  ⟨satisfies.foreignKeys, satisfies.stored, nofun⟩

theorem afterRefusal (satisfies : c.Satisfies foreignKeys P) (refusal : Refusal) :
    (c.afterRefusal refusal).Satisfies foreignKeys P := by
  unfold Connection.afterRefusal
  split
  · exact satisfies.outside
  · exact satisfies

theorem select (satisfies : c.Satisfies foreignKeys P) (query : Tables → Except Refusal α) :
    (c.select query).2.Satisfies foreignKeys P := by
  have later := satisfies.approach
  unfold Connection.select
  split
  next found => rw [found] at later; exact later.afterRefusal _
  next found => rw [found] at later; exact later

/-- A statement needs to keep the property only on the tables that it finds. -/
theorem execute (satisfies : c.Satisfies foreignKeys P)
    {change : Tables → Except Refusal (α × Tables)}
    (kept : ∀ a t, change c.tables = .ok (a, t) → P t) :
    (c.execute change).2.Satisfies foreignKeys P := by
  have later := satisfies.approach
  have same := c.approach_tables
  unfold Connection.execute
  split
  next found => rw [found] at later; exact later.afterRefusal _
  next found =>
    rw [found] at later same
    split
    next => exact later.afterRefusal _
    next a t changed =>
      have changedKept : P t := kept a t (same ▸ changed)
      split
      next =>
        refine ⟨later.foreignKeys, later.stored, ?_⟩
        rintro _ ⟨rfl⟩
        exact changedKept
      next =>
        split
        next => exact later
        next => exact ⟨later.foreignKeys, changedKept, later.working⟩

theorem begin (satisfies : c.Satisfies foreignKeys P) : c.begin.2.Satisfies foreignKeys P := by
  have later := satisfies.approach
  unfold Connection.begin
  split
  next found => rw [found] at later; exact later
  next found =>
    rw [found] at later
    split
    next => exact later
    next =>
      refine ⟨later.foreignKeys, later.stored, ?_⟩
      rintro _ ⟨rfl⟩
      exact later.stored

/-- If the tables can be lost, then they need the property when they are. -/
theorem rollback (satisfies : c.Satisfies foreignKeys P)
    (renewed : c.inMemory = true → c.working = none → P .bare) :
    c.rollback.2.Satisfies foreignKeys P := by
  unfold Connection.rollback
  split
  next outside =>
    refine ⟨satisfies.foreignKeys, ?_, nofun⟩
    change P (if c.inMemory then .bare else c.stored)
    split
    next inMemory => exact renewed inMemory outside
    next => exact satisfies.stored
  next => exact satisfies.outside

theorem commit (satisfies : c.Satisfies foreignKeys P)
    (renewed : c.inMemory = true → c.working = none → P .bare) :
    c.commit.2.Satisfies foreignKeys P := by
  have later := satisfies.approach
  rcases c.commit_cases with ⟨refusal, undone, _⟩ | ⟨t, _, inside, _, stored⟩
  · rw [undone, Connection.undoCommit_connection]
    apply later.rollback
    rw [c.precedes_approach.inMemory, c.approach_working]
    exact renewed
  · rw [stored]
    exact ⟨later.foreignKeys, satisfies.working t inside, nofun⟩

end Connection.Satisfies

/-- Statements keep the condition, wherever it holds. A statement that writes has to be regular only
on the tables that it finds. -/
structure Connection.Kept (terms : Terms) (condition : Connection → Prop) : Prop where
  foreignKeys : ∀ c, condition c → c.foreignKeys = terms.foreignKeys
  select : ∀ {α : Type} (c : Connection) (query : Tables → Except Refusal α),
    condition c → condition (c.select query).2
  execute : ∀ {α : Type} (c : Connection) (change : Tables → Except Refusal (α × Tables)),
    condition c → c.tables.Regular terms (change c.tables) → condition (c.execute change).2

theorem Connection.kept_satisfies (unbreakable : Tables.Unbreakable terms P) :
    Kept terms fun c => c.Satisfies terms.foreignKeys P where
  foreignKeys _ satisfies := satisfies.foreignKeys
  select _ query satisfies := satisfies.select query
  execute _ _ satisfies regular := satisfies.execute fun a t changed =>
    unbreakable.becomes (regular.becomes a t changed) satisfies.tables

/-- Statements that read keep what holds outside of transactions, and all statements keep what holds
inside of one. Transactions lead from the one to the other and back. -/
structure Connection.Lasting (terms : Terms) (outside inside : Connection → Prop) : Prop
    extends Kept terms inside where
  reads : ∀ {α : Type} (c : Connection) (query : Tables → Except Refusal α),
    outside c → outside (c.select query).2
  begun : ∀ c, outside c → c.begin.1 = .ok () → inside c.begin.2
  notBegun : ∀ c refusal, outside c → c.begin.1 = .error refusal → outside c.begin.2
  commit : ∀ c, inside c → outside c.commit.2
  rollback : ∀ c, inside c → outside c.rollback.2

/-- What holds of lost tables too need not know whether tables can be lost. -/
theorem Connection.lasting_satisfies (unbreakable : Tables.Unbreakable terms P) (bare : P .bare) :
    Lasting terms (fun c => c.Satisfies terms.foreignKeys P)
      fun c => c.Satisfies terms.foreignKeys P where
  toKept := kept_satisfies unbreakable
  reads _ query satisfies := satisfies.select query
  begun _ satisfies _ := satisfies.begin
  notBegun _ _ satisfies _ := satisfies.begin
  commit _ satisfies := satisfies.commit fun _ _ => bare
  rollback _ satisfies := satisfies.rollback fun _ _ => bare

/-! ### Databases that may be lost -/

theorem Tables.unbreakable_quiet (terms : Terms) :
    Unbreakable terms fun t => .rollback ∉ t.triggers := by
  intro t t' changes quiet
  rw [changes.frame.2]
  exact quiet

theorem Tables.unbreakable_complete (terms : Terms) : Unbreakable terms fun t => t.missing = [] := by
  intro t t' changes complete
  rw [changes.frame.1]
  exact complete

/-- If the database is in memory, neither a mishap to come nor a trigger makes it roll a transaction
back by itself. -/
structure Connection.Durable (c : Connection) : Prop where
  gentle : c.inMemory = true → c.Gentle
  quiet : c.inMemory = true → c.Satisfies c.foreignKeys fun t => .rollback ∉ t.triggers

namespace Connection.Durable

variable {c : Connection} {α : Type}

theorem of_onFile (onFile : c.inMemory = false) : c.Durable := by
  constructor <;>
  · intro inMemory
    rw [onFile] at inMemory
    cases inMemory

/-- What is asked of a new connection. -/
theorem of_idle (idle : c.working = none)
    (safe : c.inMemory = true → .rollback ∉ c.stored.triggers ∧ c.Gentle) : c.Durable where
  gentle inMemory := (safe inMemory).2
  quiet inMemory := .of_idle idle (safe inMemory).1

theorem later {later : Connection} (durable : c.Durable) (precedes : c.Precedes later)
    (quiet : c.inMemory = true → later.Satisfies c.foreignKeys fun t => .rollback ∉ t.triggers) :
    later.Durable where
  gentle inMemory := precedes.gentle (durable.gentle (precedes.inMemory ▸ inMemory))
  quiet inMemory := precedes.foreignKeys.symm ▸ quiet (precedes.inMemory ▸ inMemory)

theorem select (durable : c.Durable) (query : Tables → Except Refusal α) :
    (c.select query).2.Durable :=
  durable.later (c.precedes_select query) fun inMemory => (durable.quiet inMemory).select query

theorem execute (durable : c.Durable) {change : Tables → Except Refusal (α × Tables)}
    (regular : c.tables.Regular terms (change c.tables)) : (c.execute change).2.Durable :=
  durable.later (c.precedes_execute change) fun inMemory =>
    (durable.quiet inMemory).execute fun a t changed =>
      (Tables.unbreakable_quiet terms).becomes (regular.becomes a t changed)
        (durable.quiet inMemory).tables

theorem begin (durable : c.Durable) : c.begin.2.Durable :=
  durable.later c.precedes_begin fun inMemory => (durable.quiet inMemory).begin

theorem rollback (durable : c.Durable) : c.rollback.2.Durable :=
  durable.later c.precedes_rollback fun inMemory =>
    (durable.quiet inMemory).rollback fun _ _ => nofun

theorem commit (durable : c.Durable) : c.commit.2.Durable :=
  durable.later c.precedes_commit fun inMemory =>
    (durable.quiet inMemory).commit fun _ _ => nofun

theorem select_stays_open (durable : c.Durable) (query : Tables → Except Refusal α)
    (inside : c.inMemory = true → c.working.isSome) :
    (c.select query).2.inMemory = true → (c.select query).2.working.isSome := by
  rw [(c.precedes_select query).inMemory]
  intro inMemory
  exact Connection.select_stays_open (durable.gentle inMemory) (inside inMemory) query

theorem execute_stays_open (durable : c.Durable) {change : Tables → Except Refusal (α × Tables)}
    (regular : c.tables.Regular terms (change c.tables))
    (inside : c.inMemory = true → c.working.isSome) :
    (c.execute change).2.inMemory = true → (c.execute change).2.working.isSome := by
  rw [(c.precedes_execute change).inMemory]
  intro inMemory
  exact Connection.execute_stays_open (durable.gentle inMemory) (inside inMemory)
    fun _ => regular.gentle (durable.quiet inMemory).tables

end Connection.Durable

/-- The tables have the property, and nothing is in store by which they would be lost. -/
structure Connection.Endures (foreignKeys : Bool) (P : Tables → Prop) (c : Connection) : Prop
    extends c.Satisfies foreignKeys P, c.Durable

/-- What the tables have is not lost if the transaction is there when it ends. -/
theorem Connection.lasting_endures (unbreakable : Tables.Unbreakable terms P) :
    Lasting terms (Endures terms.foreignKeys P)
      fun c => c.Endures terms.foreignKeys P ∧ (c.inMemory = true → c.working.isSome) where
  foreignKeys _ holds := holds.1.foreignKeys
  select c query holds :=
    ⟨⟨holds.1.toSatisfies.select query, holds.1.toDurable.select query⟩,
      holds.1.toDurable.select_stays_open query holds.2⟩
  execute c change holds regular :=
    ⟨⟨(kept_satisfies unbreakable).execute c change holds.1.toSatisfies regular,
        holds.1.toDurable.execute regular⟩,
      holds.1.toDurable.execute_stays_open regular holds.2⟩
  reads _ query endures := ⟨endures.toSatisfies.select query, endures.toDurable.select query⟩
  begun c endures begun := by
    refine ⟨⟨endures.toSatisfies.begin, endures.toDurable.begin⟩, fun _ => ?_⟩
    exact c.begin_opens begun
  notBegun _ _ endures _ := ⟨endures.toSatisfies.begin, endures.toDurable.begin⟩
  commit c holds := by
    refine ⟨holds.1.toSatisfies.commit fun inMemory idle => ?_, holds.1.toDurable.commit⟩
    have inside := holds.2 inMemory
    rw [idle] at inside
    cases inside
  rollback c holds := by
    refine ⟨holds.1.toSatisfies.rollback fun inMemory idle => ?_, holds.1.toDurable.rollback⟩
    have inside := holds.2 inMemory
    rw [idle] at inside
    cases inside

/-! ## Actions -/

namespace Action

variable {condition : Connection → Prop} {α β : Type}

/-- Wherever the condition holds, it holds after the action. -/
def Keeps (condition : Connection → Prop) (action : Action α) : Prop :=
  ∀ c : Connection, condition c → condition (action c).2

theorem keeps_done (a : α) : (done a).Keeps condition :=
  fun _ holds => holds

theorem keeps_fail (failure : Failure) : (fail failure : Action α).Keeps condition :=
  fun _ holds => holds

theorem keeps_lift (result : Except Failure α) : (lift result).Keeps condition := by
  cases result with
  | error failure => exact keeps_fail failure
  | ok a => exact keeps_done a

/-- What comes second has to keep the condition only on the connection that the first leaves. -/
theorem holds_bind {first : Action α} {second : α → Action β} {c : Connection}
    (later : condition (first c).2)
    (next : ∀ a c', first c = (.ok a, c') → condition (second a c').2) :
    condition ((first >>= second) c).2 := by
  change condition (andThen first second c).2
  unfold andThen
  split
  next a c' found => exact next a c' found
  next found => rw [found] at later; exact later

theorem Keeps.bind {first : Action α} {second : α → Action β} (keeps : first.Keeps condition)
    (next : ∀ a, (second a).Keeps condition) : (first >>= second).Keeps condition := by
  intro c holds
  have later := keeps c holds
  apply holds_bind later
  intro a c' found
  rw [found] at later
  exact next a c' later

theorem keeps_read (s : Statement) (query : Tables → Except Refusal α)
    (reads : ∀ c : Connection, condition c → condition (c.select query).2) :
    (read s query).Keeps condition := by
  intro c holds
  have later := reads c holds
  unfold read
  split <;> next found => rw [found] at later; exact later

variable (kept : Connection.Kept terms condition)
include kept

/-- However a refusal is told, a statement that writes keeps the condition. -/
theorem holds_of_execute {action : Action α} (tell : Refusal → Failure)
    {change : Bool → Tables → Except Refusal (α × Tables)} {c : Connection}
    (acts : action c = match c.execute (change c.foreignKeys) with
      | (.ok a, c) => (.ok a, c)
      | (.error refusal, c) => (.error (tell refusal), c))
    (holds : condition c)
    (regular : c.tables.Regular terms (change terms.foreignKeys c.tables)) :
    condition (action c).2 := by
  have later := kept.execute c (change terms.foreignKeys) holds regular
  rw [← kept.foreignKeys c holds] at later
  rw [acts]
  split <;> next found => rw [found] at later; exact later

theorem holds_run {s : Statement} {change : Bool → Tables → Except Refusal (α × Tables)}
    {c : Connection} (holds : condition c)
    (regular : c.tables.Regular terms (change terms.foreignKeys c.tables)) :
    condition (run s change c).2 :=
  holds_of_execute kept s.failure rfl holds regular

theorem keeps_run {s : Statement} {change : Bool → Tables → Except Refusal (α × Tables)}
    (regular : ∀ t : Tables, t.Regular terms (change terms.foreignKeys t)) :
    (run s change).Keeps condition :=
  fun c holds => holds_run kept holds (regular c.tables)

theorem keeps_runUnique {s : Statement} {conflict : Failure}
    {change : Bool → Tables → Except Refusal (α × Tables)}
    (regular : ∀ t : Tables, t.Regular terms (change terms.foreignKeys t)) :
    (runUnique s conflict change).Keeps condition :=
  fun c holds => holds_of_execute kept
    (fun refusal => if refusal.isDuplicate then conflict else s.failure refusal) rfl holds
    (regular c.tables)

theorem keeps_selection (s : Statement) (query : Tables → Except Refusal α) :
    (read s query).Keeps condition :=
  keeps_read s query fun c => kept.select c query

omit kept in
/-- A statement that reads finds what it tells in the tables that it leaves. -/
theorem of_read {s : Statement} {query : Tables → Except Refusal α} {c c' : Connection} {a : α}
    (told : read s query c = (.ok a, c')) : query c'.tables = .ok a := by
  unfold read Connection.select at told
  split at told
  next _ _ found =>
    cases told
    split at found
    next => cases found
    next =>
      obtain ⟨selected, rfl⟩ := Prod.mk.inj found
      exact selected
  next => cases told

omit kept in
/-- A statement that writes leaves the tables that its change makes of those that it finds. -/
theorem of_execute {change : Tables → Except Refusal (α × Tables)} {c c' : Connection} {a : α}
    (written : c.execute change = (.ok a, c')) : change c.tables = .ok (a, c'.tables) := by
  have tables := c.approach_tables
  unfold Connection.execute at written
  split at written
  next => cases written
  next later approached =>
    rw [approached] at tables
    change later.tables = c.tables at tables
    rw [tables] at written
    split at written
    next => cases written
    next a t changed =>
      rw [changed]
      split at written
      next => cases written; rfl
      next outside =>
        split at written
        next => cases written
        next => cases written; simp [Connection.tables, outside]

omit kept in
theorem of_run {s : Statement} {change : Bool → Tables → Except Refusal (α × Tables)}
    {c c' : Connection} {a : α} (told : run s change c = (.ok a, c')) :
    change c.foreignKeys c.tables = .ok (a, c'.tables) := by
  unfold run at told
  split at told
  next written => cases told; exact of_execute written
  next => cases told

omit kept in
theorem of_runUnique {s : Statement} {conflict : Failure}
    {change : Bool → Tables → Except Refusal (α × Tables)} {c c' : Connection} {a : α}
    (told : runUnique s conflict change c = (.ok a, c')) :
    change c.foreignKeys c.tables = .ok (a, c'.tables) := by
  unfold runUnique at told
  split at told
  next written => cases told; exact of_execute written
  next => cases told

end Action

/-! ## Steps -/

/-- The texts of the cluster that come to be stored may be given. -/
structure Terms.Admits (terms : Terms) (cluster : Cluster) : Prop where
  uid : terms.uid cluster.uid.text
  name : terms.name cluster.name.text
  members : ∀ agent ∈ cluster.members, terms.agent agent.text

open Database.Action

namespace Transaction

variable {condition : Connection → Prop}

theorem keeps_requireRow (count : Nat) : (requireRow count).Keeps condition := by
  unfold requireRow
  split
  · exact keeps_fail _
  · exact keeps_done ()

section Steps

variable (kept : Connection.Kept terms condition)
include kept

theorem keeps_loadCluster (uid : ClusterUid) : (loadCluster uid).Keeps condition := by
  apply (keeps_selection kept _ _).bind
  intro row
  cases row with
  | none => exact keeps_fail _
  | some row => exact (keeps_selection kept _ _).bind fun _ => keeps_lift _

theorem keeps_insertCluster (now : Instant) {cluster : Cluster} (admitted : terms.Admits cluster) :
    (insertCluster now cluster).Keeps condition :=
  keeps_runUnique kept fun _ => Tables.regular_insertCluster admitted.uid admitted.name

theorem keeps_updateCluster {cluster : Cluster} (admitted : terms.Admits cluster) :
    (updateCluster cluster).Keeps condition :=
  (keeps_runUnique kept fun _ =>
    Tables.regular_updateCluster admitted.name _ _ _ _).bind keeps_requireRow

theorem keeps_deleteCluster (uid : ClusterUid) : (deleteCluster uid).Keeps condition :=
  (keeps_run kept fun _ => Tables.regular_deleteCluster _).bind keeps_requireRow

theorem keeps_addMembers (uid : ClusterUid) {agents : List AgentId}
    (admitted : ∀ agent ∈ agents, terms.agent agent.text) :
    (addMembers uid agents).Keeps condition := by
  have allowed := List.forall_mem_map.mpr admitted
  unfold addMembers
  split
  · exact keeps_done ()
  · exact (keeps_run kept fun _ => Tables.regular_insertAgents allowed).bind fun _ =>
      keeps_runUnique kept fun _ => Tables.regular_insertMemberships _ _

theorem keeps_deleteMembers (uid : ClusterUid) : (deleteMembers uid).Keeps condition :=
  keeps_run kept fun _ => Tables.regular_deleteMembers _

theorem keeps_putAgent {agent : AgentId} (admitted : terms.agent agent.text)
    (plugin : Option String) : (putAgent agent plugin).Keeps condition :=
  keeps_run kept fun _ => Tables.regular_upsertAgent admitted _

/-- The selectors are stored under the number that has just been read. -/
theorem keeps_putAttestation {entry : Attestation} (admitted : terms.agent entry.agent.text) :
    (putAttestation entry).Keeps condition := by
  have ensured : (Action.run .ensureAgent fun _ t =>
      silently (t.insertAgent entry.agent.text)).Keeps condition :=
    keeps_run kept fun _ => Tables.regular_insertAgent admitted
  apply ensured.bind
  intro _ c holds
  have later :=
    keeps_selection kept .selectAgentId (fun t => t.selectAgentId entry.agent.text) c holds
  apply holds_bind later
  intro found c' told
  rw [told] at later
  have selected := of_read told
  cases found with
  | none => exact later
  | some agentId =>
    apply holds_run kept later
    obtain ⟨_, _, named⟩ := of_bind_eq_ok selected
    obtain ⟨agent, found, rfl⟩ := Option.map_eq_some_iff.mp (Except.ok.inj named)
    exact Tables.regular_upsertSelectors (List.mem_of_find?_eq_some found) _ _

end Steps

/-! ## Beginning and ending -/

theorem satisfies_begin {foreignKeys : Bool} {c : Connection}
    (satisfies : c.Satisfies foreignKeys P) : (begin c).2.Satisfies foreignKeys P := by
  rw [begin_connection]
  exact satisfies.begin

section Ends

variable {outside inside : Connection → Prop} {c : Connection}
  (lasting : Connection.Lasting terms outside inside)
include lasting

/-- A transaction that has begun starts from what holds inside, and all else stays outside. -/
theorem holds_of_begin {α : Type} {body : Action α} (holds : outside c)
    (ends : ∀ later, inside later → outside (body later).2) :
    outside ((begin >>= fun _ => body) c).2 := by
  have begun := lasting.begun c holds
  have notBegun := lasting.notBegun c
  change outside (andThen begin (fun _ => body) c).2
  unfold andThen begin
  split
  next started =>
    split at started
    next found =>
      cases started
      rw [found] at begun
      exact ends _ (begun rfl)
    next => cases started
  next failed =>
    split at failed
    next => cases failed
    next refusal _ found =>
      cases failed
      rw [found] at notBegun
      exact notBegun refusal holds rfl

theorem holds_of_commit (holds : inside c) : outside (commit c).2 := by
  rw [commit_connection]
  exact lasting.commit c holds

theorem holds_of_undo (holds : inside c) : outside (undo c).2 := by
  rw [undo_connection]
  exact lasting.rollback c holds

theorem holds_of_finish {α : Type} (result : Except Failure α) (holds : inside c) :
    outside (finish result c).2 := by
  cases result with
  | error failure => exact holds_of_undo lasting holds
  | ok a =>
    have later := holds_of_commit lasting holds
    apply holds_bind later
    intro _ _ committed
    rw [committed] at later
    exact later

theorem keeps_atomically {α : Type} {body : Action α} (keeps : body.Keeps inside) :
    (atomically body).Keeps outside :=
  fun _ holds => holds_of_begin lasting holds fun later begun =>
    holds_of_finish lasting (body later).1 (keeps later begun)

end Ends

end Transaction

end Roster.Database

/-! ## Operations and sessions -/

namespace Roster

/-- The texts that come to be stored by the operation may be given. -/
def Operation.Admitted (terms : Database.Terms) : Operation → Prop
  | .putAgent agent => terms.agent agent.id.text
  | .putAttestation entry => terms.agent entry.agent.text
  | .createCluster cluster | .editCluster cluster => terms.Admits cluster
  | _ => True

namespace Database

variable {terms : Terms} {P : Tables → Prop} {condition : Connection → Prop}

open Database.Action

/-- The texts that come to be stored by the step may be given. -/
def Step.Admitted (terms : Terms) : Step → Prop
  | .insertCluster cluster | .updateCluster cluster => terms.Admits cluster
  | .addMembers _ agents => ∀ agent ∈ agents, terms.agent agent.text
  | .putAgent agent _ => terms.agent agent.text
  | .putAttestation entry => terms.agent entry.agent.text
  | _ => True

theorem Step.keeps_action (kept : Connection.Kept terms condition) (now : Instant) {step : Step}
    (admitted : step.Admitted terms) : (step.action now).Keeps condition := by
  cases step with
  | insertCluster cluster =>
    exact (Transaction.keeps_insertCluster kept now admitted).bind fun _ => keeps_done _
  | updateCluster cluster =>
    exact (Transaction.keeps_updateCluster kept admitted).bind fun _ => keeps_done _
  | deleteCluster uid => exact (Transaction.keeps_deleteCluster kept uid).bind fun _ => keeps_done _
  | addMembers uid agents =>
    exact (Transaction.keeps_addMembers kept uid admitted).bind fun _ => keeps_done _
  | deleteMembers uid => exact (Transaction.keeps_deleteMembers kept uid).bind fun _ => keeps_done _
  | loadCluster uid => exact (Transaction.keeps_loadCluster kept uid).bind fun _ => keeps_done _
  | putAgent agent plugin =>
    exact (Transaction.keeps_putAgent kept admitted plugin).bind fun _ => keeps_done _
  | putAttestation entry =>
    exact (Transaction.keeps_putAttestation kept admitted).bind fun _ => keeps_done _

namespace Session

/-- The steps of a session go on after one that fails. -/
theorem runSteps_keeps (kept : Connection.Kept terms condition) (now : Instant) {steps : List Step}
    (admitted : ∀ step ∈ steps, step.Admitted terms) {c : Connection} (holds : condition c) :
    condition (runSteps now steps c).2 := by
  induction steps generalizing c with
  | nil => exact holds
  | cons step rest ih =>
    apply ih fun later member => admitted later (List.mem_cons_of_mem _ member)
    exact Step.keeps_action kept now (admitted step List.mem_cons_self) c holds

variable {outside inside : Connection → Prop}

theorem holds_of_runEnding (lasting : Connection.Lasting terms outside inside) (ending : Ending)
    (results : Results) {c : Connection} (holds : inside c) :
    outside (runEnding ending results c).2 := by
  cases ending with
  | commit => exact Transaction.holds_of_commit lasting holds
  | finish => exact Transaction.holds_of_finish lasting _ holds
  | rollback | drop =>
    -- Giving a transaction up does what a rollback does.
    exact Transaction.holds_of_undo lasting holds

theorem keeps_run (lasting : Connection.Lasting terms outside inside) (now : Instant)
    {steps : List Step} (admitted : ∀ step ∈ steps, step.Admitted terms) (ending : Ending) :
    (run now steps ending).Keeps outside :=
  fun _ holds => Transaction.holds_of_begin lasting holds fun _ begun =>
    holds_of_runEnding lasting ending _ (runSteps_keeps lasting.toKept now admitted begun)

end Session

namespace Store

theorem keeps_answering {α : Type} {action : Action α} (keeps : action.Keeps condition)
    (answer : α → Answer) : (answering answer action).Keeps condition :=
  keeps.bind fun _ => keeps_done _

variable {outside inside : Connection → Prop} (lasting : Connection.Lasting terms outside inside)
include lasting

theorem keeps_createCluster (now : Instant) {cluster : Cluster} (admitted : terms.Admits cluster) :
    (createCluster now cluster).Keeps outside :=
  have kept := lasting.toKept
  Transaction.keeps_atomically lasting <|
    (Transaction.keeps_insertCluster kept now admitted).bind fun _ =>
      (Transaction.keeps_addMembers kept _ admitted.members).bind fun _ =>
        Transaction.keeps_loadCluster kept _

theorem keeps_editCluster {cluster : Cluster} (admitted : terms.Admits cluster) :
    (editCluster cluster).Keeps outside :=
  have kept := lasting.toKept
  Transaction.keeps_atomically lasting <|
    (Transaction.keeps_updateCluster kept admitted).bind fun _ =>
      (Transaction.keeps_deleteMembers kept _).bind fun _ =>
        (Transaction.keeps_addMembers kept _ admitted.members).bind fun _ =>
          Transaction.keeps_loadCluster kept _

theorem keeps_deleteCluster (uid : ClusterUid) : (deleteCluster uid).Keeps outside :=
  have kept := lasting.toKept
  Transaction.keeps_atomically lasting <|
    (Transaction.keeps_deleteMembers kept uid).bind fun _ =>
      Transaction.keeps_deleteCluster kept uid

theorem keeps_perform (now : Instant) {operation : Operation}
    (admitted : operation.Admitted terms) : (perform now operation).Keeps outside := by
  have kept := lasting.toKept
  have keepsRead {α : Type} (s : Statement) (query : Tables → Except Refusal α) :
      (Action.read s query).Keeps outside :=
    keeps_read s query fun c => lasting.reads c query
  cases operation with
  | putAgent agent =>
    exact keeps_answering (Transaction.keeps_atomically lasting
      (Transaction.keeps_putAgent kept admitted _)) _
  | putAttestation entry =>
    exact keeps_answering (Transaction.keeps_atomically lasting
      (Transaction.keeps_putAttestation kept admitted)) _
  | createCluster cluster =>
    exact keeps_answering (keeps_createCluster lasting now admitted) _
  | editCluster cluster => exact keeps_answering (keeps_editCluster lasting admitted) _
  | deleteCluster uid => exact keeps_answering (keeps_deleteCluster lasting uid) _
  | listAgents =>
    exact keeps_answering ((keepsRead _ _).bind fun _ => keeps_lift _) _
  | listClusters =>
    exact keeps_answering ((keepsRead _ _).bind fun _ =>
      (keepsRead _ _).bind fun _ => keeps_lift _) _
  | membersOf uid =>
    exact keeps_answering ((keepsRead _ _).bind fun _ => keeps_lift _) _
  | describeAgents filter =>
    exact keeps_answering ((keepsRead _ _).bind fun _ => keeps_lift _) _
  | findAgent agent =>
    refine keeps_answering ((keepsRead _ _).bind fun found => ?_) _
    cases found with
    | none => exact keeps_fail _
    | some plugin => exact keeps_done _
  | findAttestation agent =>
    refine keeps_answering ((keepsRead _ _).bind fun found => ?_) _
    cases found with
    | none => exact keeps_fail _
    | some row => exact keeps_lift _
  | clusterOf agent =>
    refine keeps_answering ((keepsRead _ _).bind fun found => ?_) _
    cases found with
    | none => exact keeps_fail _
    | some name => exact keeps_lift _

end Store

/-- What callers do with a database: they have an operation performed, or they run a session. -/
inductive Work where
  | perform (operation : Operation)
  | session (steps : List Step) (ending : Ending)

namespace Work

def Admitted (terms : Terms) : Work → Prop
  | .perform operation => operation.Admitted terms
  | .session steps _ => ∀ step ∈ steps, step.Admitted terms

/-- The connection after the work has been done on it. -/
def after (now : Instant) : Work → Connection → Connection
  | .perform operation, c => (Registry.perform now operation c).2
  | .session steps ending, c => (Session.run now steps ending c).2

/-- The connection after the given works, each at an instant of its own. -/
def afterAll (works : List (Instant × Work)) (c : Connection) : Connection :=
  works.foldl (fun c work => work.2.after work.1 c) c

variable {outside inside : Connection → Prop}

theorem after_keeps (lasting : Connection.Lasting terms outside inside) (now : Instant)
    {work : Work} (admitted : work.Admitted terms) {c : Connection} (holds : outside c) :
    outside (work.after now c) := by
  cases work with
  | perform operation => exact Store.keeps_perform lasting now admitted c holds
  | session steps ending => exact Session.keeps_run lasting now admitted ending c holds

/-- What lasts holds after every run. -/
theorem afterAll_keeps (lasting : Connection.Lasting terms outside inside)
    {works : List (Instant × Work)} (admitted : ∀ work ∈ works, work.2.Admitted terms)
    {c : Connection} (holds : outside c) : outside (afterAll works c) := by
  induction works generalizing c with
  | nil => exact holds
  | cons work rest ih =>
    apply ih fun later member => admitted later (List.mem_cons_of_mem _ member)
    exact after_keeps lasting work.1 (admitted work List.mem_cons_self) holds

/-- What no change breaks holds after every run on a database that is not lost. -/
theorem afterAll_endures (unbreakable : Tables.Unbreakable terms P)
    {works : List (Instant × Work)} (admitted : ∀ work ∈ works, work.2.Admitted terms)
    {c : Connection} (endures : c.Endures terms.foreignKeys P) :
    (afterAll works c).Endures terms.foreignKeys P :=
  afterAll_keeps (Connection.lasting_endures unbreakable) admitted endures

end Work

/-! ## Any texts -/

/-- All texts may be given. -/
def Terms.any (foreignKeys : Bool) : Terms :=
  { foreignKeys, agent := fun _ => True, uid := fun _ => True, name := fun _ => True }

theorem Terms.any_admits (foreignKeys : Bool) (cluster : Cluster) :
    (Terms.any foreignKeys).Admits cluster :=
  ⟨trivial, trivial, fun _ _ => trivial⟩

theorem Step.admitted_any (foreignKeys : Bool) (step : Step) :
    step.Admitted (.any foreignKeys) := by
  cases step with
  | insertCluster cluster | updateCluster cluster => exact Terms.any_admits foreignKeys cluster
  | addMembers => exact fun _ _ => trivial
  | deleteCluster | deleteMembers | loadCluster | putAgent | putAttestation => trivial

theorem Work.admitted_any (foreignKeys : Bool) (work : Work) :
    work.Admitted (.any foreignKeys) := by
  cases work with
  | session steps ending => exact fun step _ => step.admitted_any foreignKeys
  | perform operation =>
    cases operation with
    | createCluster cluster | editCluster cluster => exact Terms.any_admits foreignKeys cluster
    | putAgent | putAttestation | listAgents | findAgent | findAttestation | listClusters
    | deleteCluster | clusterOf | membersOf | describeAgents => trivial

end Database

end Roster
