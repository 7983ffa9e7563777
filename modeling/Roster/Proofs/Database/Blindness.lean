import Roster.Proofs.Database.Achieved
import Roster.Proofs.Database.Parsing

/-!
The texts of failed statements do not tell the values that were bound.

Each call sends statements in a fixed order, which follows from its kind, from how many rows its
batch or its filter has, and from whether an agent is given a plugin. A call that fails with a statement fails with the text of the one that it
sent last. So two calls of one kind that fail at the same statement tell the same text, whatever
values they were given and whatever their databases hold.

Every statement uses up the next mishap, so that the mishaps left behind tell how many statements
were sent, on a connection that has a mishap, or none, in store for each of them.
-/

namespace Roster.Database

namespace Connection

/-- The connection with further statements in store that nothing befalls. -/
def prolonged (c : Connection) (count : Nat) : Connection :=
  { c with mishaps := c.mishaps ++ List.replicate count none }

/-- What a statement does with a connection. It uses up one mishap, and does the same if there are
further statements in store. -/
structure OneStatement {α : Type} (act : Connection → Except Refusal α × Connection) : Prop where
  uses : ∀ c, (act c).2.mishaps = c.mishaps.tail
  patient : ∀ c count, ∃ left, act (c.prolonged count) = ((act c).1, (act c).2.prolonged left)

theorem approach_prolonged (c : Connection) (count : Nat) :
    ∃ left, (c.prolonged count).approach = (c.approach.1, c.approach.2.prolonged left) := by
  unfold approach prolonged
  cases stored : c.mishaps with
  | nil =>
    cases count with
    | zero => exact ⟨0, by simp [stored]⟩
    | succ count => exact ⟨count, by simp [stored, List.replicate_succ]⟩
  | cons mishap rest =>
    cases mishap with
    | none => exact ⟨count, rfl⟩
    | some mishap => exact ⟨count, rfl⟩

theorem afterRefusal_prolonged (c : Connection) (refusal : Refusal) (count : Nat) :
    (c.prolonged count).afterRefusal refusal = (c.afterRefusal refusal).prolonged count := by
  unfold afterRefusal
  split <;> rfl

theorem undoCommit_mishaps (c : Connection) (refusal : Refusal) :
    (c.undoCommit refusal).2.mishaps = c.mishaps := by
  rw [undoCommit_connection]
  unfold rollback
  split <;> rfl

theorem undoCommit_prolonged (c : Connection) (refusal : Refusal) (count : Nat) :
    (c.prolonged count).undoCommit refusal =
      ((c.undoCommit refusal).1, (c.undoCommit refusal).2.prolonged count) := by
  cases c with
  | mk foreignKeys inMemory stored working mishaps => cases working <;> rfl

variable {α : Type}

theorem tables_prolonged (c : Connection) (count : Nat) : (c.prolonged count).tables = c.tables :=
  rfl

theorem working_prolonged (c : Connection) (count : Nat) :
    (c.prolonged count).working = c.working :=
  rfl

theorem foreignKeys_prolonged (c : Connection) (count : Nat) :
    (c.prolonged count).foreignKeys = c.foreignKeys :=
  rfl

theorem oneStatement_select (query : Tables → Except Refusal α) :
    OneStatement fun c => c.select query where
  uses c := by
    have used := c.approach_mishaps
    unfold select
    split
    next approached => rw [approached] at used; exact (afterRefusal_mishaps _ _).trans used
    next approached => rw [approached] at used; exact used
  patient c count := by
    obtain ⟨left, approached⟩ := c.approach_prolonged count
    refine ⟨left, ?_⟩
    unfold select
    rw [approached]
    cases c.approach with
    | mk outcome later =>
      cases outcome with
      | error refusal => simp only [afterRefusal_prolonged]
      | ok => rfl

theorem oneStatement_execute (change : Bool → Tables → Except Refusal (α × Tables)) :
    OneStatement fun c => c.execute (change c.foreignKeys) where
  uses c := by
    have used := c.approach_mishaps
    unfold execute
    split
    next approached => rw [approached] at used; exact (afterRefusal_mishaps _ _).trans used
    next approached =>
      rw [approached] at used
      split
      next => exact (afterRefusal_mishaps _ _).trans used
      next =>
        split
        next => exact used
        next => split <;> exact used
  patient c count := by
    obtain ⟨left, approached⟩ := c.approach_prolonged count
    refine ⟨left, ?_⟩
    unfold execute
    rw [approached]
    cases c.approach with
    | mk outcome later =>
      cases outcome with
      | error refusal => simp only [afterRefusal_prolonged]
      | ok =>
        simp only [tables_prolonged, working_prolonged, foreignKeys_prolonged]
        cases change c.foreignKeys later.tables with
        | error refusal => simp only [afterRefusal_prolonged]
        | ok result =>
          cases later.working with
          | some _ => rfl
          | none => cases broken : result.2.brokenReference <;> simp only [broken] <;> rfl

theorem oneStatement_begin : OneStatement begin where
  uses c := by
    have used := c.approach_mishaps
    unfold begin
    split
    next approached => rw [approached] at used; exact used
    next approached => rw [approached] at used; split <;> exact used
  patient c count := by
    obtain ⟨left, approached⟩ := c.approach_prolonged count
    refine ⟨left, ?_⟩
    unfold begin
    rw [approached]
    cases c.approach with
    | mk outcome later =>
      cases outcome with
      | error refusal => rfl
      | ok =>
        simp only [working_prolonged]
        cases later.working <;> rfl

theorem oneStatement_commit : OneStatement commit where
  uses c := by
    rcases c.commit_cases with ⟨refusal, undone, _⟩ | ⟨t, _, _, _, stored⟩
    · rw [undone, undoCommit_mishaps]
      exact c.approach_mishaps
    · rw [stored]
      exact c.approach_mishaps
  patient c count := by
    obtain ⟨left, approached⟩ := c.approach_prolonged count
    refine ⟨left, ?_⟩
    unfold commit
    rw [approached]
    cases c.approach with
    | mk outcome later =>
      cases outcome with
      | error refusal => exact undoCommit_prolonged later refusal left
      | ok =>
        simp only [working_prolonged]
        cases later.working with
        | none => exact undoCommit_prolonged later _ left
        | some t =>
          cases broken : t.brokenReference with
          | true =>
            simp only [broken, if_true]
            exact undoCommit_prolonged later _ left
          | false =>
            simp only [broken]
            rfl

end Connection

namespace Action

variable {α β : Type} {s : Statement} {statements : List Statement}

/-- The statement that was sent last was refused, and its text is told. -/
def StoppedAt (statements : List Statement) (c later : Connection) (sql : String) (cause : Cause) :
    Prop :=
  ∃ earlier s rest, statements = earlier ++ s :: rest ∧
    (∃ refusal, Failure.statement sql cause = s.failure refusal) ∧
    later.mishaps = c.mishaps.drop (earlier.length + 1)

/-- The action sends these statements in this order, unless it is stopped. -/
structure Sends (action : Action α) (statements : List Statement) : Prop where
  succeeded : ∀ c a later, action c = (.ok a, later) →
    later.mishaps = c.mishaps.drop statements.length
  stopped : ∀ c sql cause later, action c = (.error (.statement sql cause), later) →
    StoppedAt statements c later sql cause
  patient : ∀ c count, ∃ left,
    action (c.prolonged count) = ((action c).1, (action c).2.prolonged left)

theorem sends_done (a : α) : (done a).Sends [] where
  succeeded c _ later did := by
    cases did
    rfl
  stopped c sql cause later failed := by cases failed
  patient c count := ⟨count, rfl⟩

/-- A failure that is not one of a statement may come at any point. -/
theorem sends_fail {failure : Failure} (other : ∀ sql cause, failure ≠ .statement sql cause)
    (statements : List Statement) : (fail failure : Action α).Sends statements where
  succeeded c a later did := by cases did
  stopped c sql cause later failed := by
    cases failed
    exact absurd rfl (other sql cause)
  patient c count := ⟨count, rfl⟩

theorem sends_lift {result : Except Failure α} (parses : Parses result) :
    (lift result).Sends [] := by
  cases result with
  | ok a => exact sends_done a
  | error failure =>
    obtain ⟨defect, rfl⟩ := parses failure rfl
    exact sends_fail (fun _ _ same => Failure.noConfusion same) []

/-- One statement, and how its refusal is told. -/
theorem sends_of_oneStatement {act : Connection → Except Refusal α × Connection}
    (one : Connection.OneStatement act) {told : Refusal → Failure}
    (tells : ∀ refusal sql cause, told refusal = .statement sql cause →
      told refusal = s.failure refusal)
    {action : Action α} (same : ∀ c, action c = ((act c).1.mapError told, (act c).2)) :
    action.Sends [s] where
  succeeded c a later did := by
    have used := one.uses c
    rw [same] at did
    obtain ⟨_, rfl⟩ := Prod.mk.inj did
    rw [used, List.length_singleton, List.drop_one]
  stopped c sql cause later failed := by
    have used := one.uses c
    rw [same] at failed
    cases acted : act c with
    | mk outcome left =>
      rw [acted] at used failed
      cases outcome with
      | ok a => cases failed
      | error refusal =>
        obtain ⟨raised, rfl⟩ := Prod.mk.inj failed
        have raised : told refusal = .statement sql cause := Except.error.inj raised
        refine ⟨[], s, [], rfl, ⟨refusal, ?_⟩, used.trans List.drop_one.symm⟩
        rw [← raised, tells refusal sql cause raised]
  patient c count := by
    obtain ⟨left, prolonged⟩ := one.patient c count
    refine ⟨left, ?_⟩
    rw [same, prolonged, same]

theorem sends_run (s : Statement) (change : Bool → Tables → Except Refusal (α × Tables)) :
    (run s change).Sends [s] := by
  apply sends_of_oneStatement (Connection.oneStatement_execute change)
    (fun refusal _ _ _ => (rfl : s.failure refusal = s.failure refusal))
  intro c
  unfold run
  split <;> next ran => rw [ran]; rfl

theorem sends_runUnique (s : Statement) {conflict : Failure}
    (other : ∀ sql cause, conflict ≠ .statement sql cause)
    (change : Bool → Tables → Except Refusal (α × Tables)) :
    (runUnique s conflict change).Sends [s] := by
  let told (refusal : Refusal) := if refusal.isDuplicate then conflict else s.failure refusal
  have tells (refusal : Refusal) (sql : String) (cause : Cause)
      (raised : told refusal = .statement sql cause) : told refusal = s.failure refusal := by
    by_cases duplicate : refusal.isDuplicate
    · exact absurd ((if_pos duplicate).symm.trans raised) (other sql cause)
    · exact if_neg duplicate
  apply sends_of_oneStatement (Connection.oneStatement_execute change) tells
  intro c
  unfold runUnique
  split <;> next ran => rw [ran]; rfl

theorem sends_read (s : Statement) (query : Tables → Except Refusal α) :
    (read s query).Sends [s] := by
  apply sends_of_oneStatement (Connection.oneStatement_select query)
    (fun refusal _ _ _ => (rfl : s.failure refusal = s.failure refusal))
  intro c
  unfold read
  split <;> next told => rw [told]; rfl

/-- What follows sends the later statements, or finds that the last of the earlier ones has failed
for want of a row. -/
theorem Sends.bind_or {first : Action α} {second : α → Action β} {earlier later : List Statement}
    (sends : first.Sends earlier)
    (next : ∀ a, (second a).Sends later ∨ ∃ before s refusal,
      earlier = before ++ [s] ∧ second a = fail (s.failure refusal)) :
    (first >>= second).Sends (earlier ++ later) where
  succeeded c b last did := by
    obtain ⟨a, between, begun, continued⟩ := of_bind did
    have used := sends.succeeded c a between begun
    rcases next a with sent | ⟨_, _, _, _, refused⟩
    · rw [sent.succeeded between b last continued, used, List.drop_drop, List.length_append]
    · rw [refused] at continued
      cases continued
  stopped c sql cause last failed := by
    change andThen first second c = _ at failed
    unfold andThen at failed
    split at failed
    next a between begun =>
      have used := sends.succeeded c a between begun
      rcases next a with sent | ⟨before, s, refusal, rfl, refused⟩
      · obtain ⟨sooner, s, rest, same, told, left⟩ := sent.stopped between sql cause last failed
        refine ⟨earlier ++ sooner, s, rest, by rw [same, List.append_assoc], told, ?_⟩
        rw [left, used, List.drop_drop, List.length_append, Nat.add_assoc]
      · rw [refused] at failed
        cases failed
        refine ⟨before, s, later, List.append_assoc .., ⟨refusal, rfl⟩, ?_⟩
        rw [used, List.length_append, List.length_singleton]
    next begun =>
      cases failed
      obtain ⟨sooner, s, rest, same, told, left⟩ := sends.stopped c sql cause _ begun
      exact ⟨sooner, s, rest ++ later, by rw [same, List.append_assoc]; rfl, told, left⟩
  patient c count := by
    obtain ⟨left, begun⟩ := sends.patient c count
    have split (c : Connection) : (first >>= second) c = andThen first second c := rfl
    rw [split, split]
    unfold andThen
    rw [begun]
    cases first c with
    | mk result between =>
      cases result with
      | error failure => exact ⟨left, rfl⟩
      | ok a =>
        rcases next a with sent | ⟨_, _, _, _, refused⟩
        · exact sent.patient between left
        · simp only [refused]
          exact ⟨left, rfl⟩

theorem Sends.bind {first : Action α} {second : α → Action β} {earlier later : List Statement}
    (sends : first.Sends earlier) (next : ∀ a, (second a).Sends later) :
    (first >>= second).Sends (earlier ++ later) :=
  sends.bind_or fun a => .inl (next a)

/-- What follows sends nothing. -/
theorem Sends.then {first : Action α} {second : α → Action β}
    (sends : first.Sends statements) (next : ∀ a, (second a).Sends []) :
    (first >>= second).Sends statements :=
  statements.append_nil ▸ sends.bind next

end Action

open Database.Action

/-! ## Calls and their statements -/

/-- The statements that a step sends unless it is stopped. -/
def Step.statements : Step → List Statement
  | .insertCluster _ => [.insertCluster]
  | .updateCluster _ => [.updateCluster]
  | .deleteCluster _ => [.deleteCluster]
  | .addMembers _ agents =>
    if agents.isEmpty then []
    else [.insertAgents agents.length, .insertMemberships agents.length]
  | .deleteMembers _ => [.deleteMembers]
  | .loadCluster _ => [.selectCluster, .selectClusterMembers]
  | .putAgent _ plugin => [.upsertAgent plugin.isSome]
  | .putAttestation _ => [.ensureAgent, .selectAgentId, .upsertSelectors]

/-- The statements that a read sends unless it is stopped. Writes are sent in steps. -/
def Store.statements : Operation → List Statement
  | .listAgents => [.selectAgents]
  | .findAgent _ => [.selectPlugin]
  | .findAttestation _ => [.selectSelectors]
  | .listClusters => [.selectClusters, .selectMemberships]
  | .clusterOf _ => [.selectClusterName]
  | .membersOf _ => [.selectMembersOf]
  | .describeAgents filter => [.selectMetadata filter.agents.length]
  | .putAgent _ | .putAttestation _ | .createCluster _ | .editCluster _ | .deleteCluster _ => []

namespace Transaction

theorem sends_begin : begin.Sends [.begin] := by
  apply sends_of_oneStatement Connection.oneStatement_begin
    (fun refusal _ _ _ => (rfl : Statement.begin.failure refusal = _))
  intro c
  unfold begin
  split <;> next begun => rw [begun]; rfl

theorem sends_commit : commit.Sends [.commit] := by
  apply sends_of_oneStatement Connection.oneStatement_commit
    (fun refusal _ _ _ => (rfl : Statement.commit.failure refusal = _))
  intro c
  unfold commit
  split <;> next ended => rw [ended]; rfl

theorem sends_requireRow (count : Nat) : (requireRow count).Sends [] := by
  unfold requireRow
  split
  · exact sends_fail (fun _ _ same => Failure.noConfusion same) []
  · exact sends_done ()

theorem sends_loadCluster (uid : ClusterUid) :
    (loadCluster uid).Sends [.selectCluster, .selectClusterMembers] := by
  apply (sends_read _ _).bind
  intro row
  cases row with
  | none => exact sends_fail (fun _ _ same => Failure.noConfusion same) _
  | some row =>
    exact (sends_read _ _).then fun _ =>
      sends_lift ((parses_parseMembers _).bind fun _ => parses_toCluster row _)

/-- The row of the agent was there when its number was selected, or that selection has failed. -/
theorem sends_putAttestation (entry : Attestation) :
    (putAttestation entry).Sends [.ensureAgent, .selectAgentId, .upsertSelectors] := by
  apply (sends_run _ _).bind
  intro _
  apply (sends_read .selectAgentId _).bind_or
  intro agentId
  cases agentId with
  | none => exact .inr ⟨[], .selectAgentId, .noRow, rfl, rfl⟩
  | some agentId => exact .inl (sends_run _ _)

end Transaction

theorem Step.sends_action (now : Instant) (step : Step) :
    (step.action now).Sends step.statements := by
  have none (α : Type) (a : α) : (done a).Sends [] := sends_done a
  cases step with
  | insertCluster cluster =>
    exact (sends_runUnique _ (fun _ _ same => Failure.noConfusion same) _).then fun _ => none _ _
  | updateCluster cluster =>
    exact ((sends_runUnique _ (fun _ _ same => Failure.noConfusion same) _).then
      Transaction.sends_requireRow).then fun _ => none _ _
  | deleteCluster uid =>
    exact ((sends_run _ _).then Transaction.sends_requireRow).then fun _ => none _ _
  | addMembers uid agents =>
    refine Sends.then ?_ fun _ => none _ _
    simp only [Step.statements, Transaction.addMembers]
    split
    · exact none _ _
    · exact (sends_run _ _).bind fun _ =>
        sends_runUnique _ (fun _ _ same => Failure.noConfusion same) _
  | deleteMembers uid => exact (sends_run _ _).then fun _ => none _ _
  | loadCluster uid => exact (Transaction.sends_loadCluster uid).then fun _ => none _ _
  | putAgent agent plugin => exact (sends_run _ _).then fun _ => none _ _
  | putAttestation entry => exact (Transaction.sends_putAttestation entry).then fun _ => none _ _

namespace Store

theorem sends_answering {α : Type} {action : Action α} {statements : List Statement}
    (sends : action.Sends statements) (answer : α → Answer) :
    (answering answer action).Sends statements :=
  sends.then fun a => sends_done (answer a)

theorem sends_of_read (now : Instant) {operation : Operation} (reads : operation.isWrite = false) :
    (perform now operation).Sends (statements operation) := by
  cases operation with
  | listAgents =>
    apply sends_answering
    exact (sends_read _ _).then fun _ => sends_lift (parses_agents _)
  | findAgent agent =>
    apply sends_answering
    apply (sends_read _ _).then
    intro plugin
    cases plugin with
    | none => exact sends_fail (fun _ _ same => Failure.noConfusion same) []
    | some plugin => exact sends_done _
  | findAttestation agent =>
    apply sends_answering
    apply (sends_read _ _).then
    intro row
    cases row with
    | none => exact sends_fail (fun _ _ same => Failure.noConfusion same) []
    | some row => exact sends_lift (parses_readAttestation _ _ _)
  | listClusters =>
    apply sends_answering
    exact (sends_read _ _).bind fun _ =>
      (sends_read _ _).then fun _ => sends_lift (parses_assemble _ _)
  | clusterOf agent =>
    apply sends_answering
    apply (sends_read _ _).then
    intro name
    cases name with
    | none => exact sends_fail (fun _ _ same => Failure.noConfusion same) []
    | some name => exact sends_lift (parses_corrupt _)
  | membersOf uid =>
    apply sends_answering
    exact (sends_read _ _).then fun _ => sends_lift (parses_parseMembers _)
  | describeAgents filter =>
    have length : (filter.agents.map AgentId.text).length = filter.agents.length :=
      List.length_map _
    apply sends_answering
    rw [statements, ← length]
    exact (sends_read _ _).then fun _ => sends_lift (parses_mapM fun _ => parses_describe _ _ _)
  | putAgent | putAttestation | createCluster | editCluster | deleteCluster => cases reads

end Store

/-- What a caller may have done on a connection: the parts of a transaction, and reads. A rollback
sends nothing that could be told as a failed statement. -/
inductive Invocation where
  | begin
  | step (now : Instant) (taken : Step)
  | commit
  | read (now : Instant) (operation : Operation) (reads : operation.isWrite = false)

namespace Invocation

/-- The call without its result. -/
def action : Invocation → Action Unit
  | .begin => Transaction.begin
  | .step now taken => do let _ ← taken.action now
  | .commit => Transaction.commit
  | .read now operation _ => do let _ ← Store.perform now operation

def statements : Invocation → List Statement
  | .begin => [.begin]
  | .step _ taken => taken.statements
  | .commit => [.commit]
  | .read _ operation _ => Store.statements operation

/-- How many statements the call sends on a connection. -/
def sent (call : Invocation) (c : Connection) : Nat :=
  let ample := c.prolonged call.statements.length
  ample.mishaps.length - (call.action ample).2.mishaps.length

theorem sends_action (call : Invocation) : call.action.Sends call.statements := by
  cases call with
  | begin => exact Transaction.sends_begin
  | step now taken => exact (taken.sends_action now).then fun _ => sends_done ()
  | commit => exact Transaction.sends_commit
  | read now operation reads => exact (Store.sends_of_read now reads).then fun _ => sends_done ()

/-- The text that is told is the one of the last statement that was sent. -/
theorem sent_of_failed (call : Invocation) {c : Connection} {sql : String} {cause : Cause}
    (failed : (call.action c).1 = .error (.statement sql cause)) :
    ∃ s refusal, call.statements[call.sent c - 1]? = some s ∧
      Failure.statement sql cause = s.failure refusal := by
  let ample := c.prolonged call.statements.length
  obtain ⟨left, prolonged⟩ := call.sends_action.patient c call.statements.length
  have again : call.action ample = (.error (.statement sql cause), (call.action ample).2) := by
    rw [prolonged, failed]
  obtain ⟨earlier, s, rest, same, ⟨refusal, told⟩, used⟩ :=
    call.sends_action.stopped ample sql cause _ again
  refine ⟨s, refusal, ?_, told⟩
  have enough : earlier.length + 1 ≤ ample.mishaps.length := by
    simp [ample, Connection.prolonged, same]
    omega
  have position : call.sent c - 1 = earlier.length := by
    change ample.mishaps.length - (call.action ample).2.mishaps.length - 1 = earlier.length
    rw [used, List.length_drop]
    omega
  rw [position, same]
  simp

end Invocation

/-! ## Calls of one kind -/

/-- Steps of one kind, with batches of one length, and with or without a plugin. -/
inductive Step.Akin : Step → Step → Prop where
  | insertCluster (cluster other : Cluster) : Akin (.insertCluster cluster) (.insertCluster other)
  | updateCluster (cluster other : Cluster) : Akin (.updateCluster cluster) (.updateCluster other)
  | deleteCluster (uid other : ClusterUid) : Akin (.deleteCluster uid) (.deleteCluster other)
  | addMembers (uid other : ClusterUid) {agents others : List AgentId}
      (length : agents.length = others.length) :
      Akin (.addMembers uid agents) (.addMembers other others)
  | deleteMembers (uid other : ClusterUid) : Akin (.deleteMembers uid) (.deleteMembers other)
  | loadCluster (uid other : ClusterUid) : Akin (.loadCluster uid) (.loadCluster other)
  | putAgent (agent other : AgentId) {plugin otherPlugin : Option String}
      (given : plugin.isSome = otherPlugin.isSome) :
      Akin (.putAgent agent plugin) (.putAgent other otherPlugin)
  | putAttestation (entry other : Attestation) :
      Akin (.putAttestation entry) (.putAttestation other)

/-- Reads of one kind, with filters of one length. -/
inductive Store.Akin : Operation → Operation → Prop where
  | listAgents : Akin .listAgents .listAgents
  | findAgent (agent other : AgentId) : Akin (.findAgent agent) (.findAgent other)
  | findAttestation (agent other : AgentId) :
      Akin (.findAttestation agent) (.findAttestation other)
  | listClusters : Akin .listClusters .listClusters
  | clusterOf (agent other : AgentId) : Akin (.clusterOf agent) (.clusterOf other)
  | membersOf (uid other : ClusterUid) : Akin (.membersOf uid) (.membersOf other)
  | describeAgents {filter other : AgentFilter}
      (length : filter.agents.length = other.agents.length) :
      Akin (.describeAgents filter) (.describeAgents other)

/-- Calls of one kind, with batches and filters of one length, whatever other values they carry. -/
inductive Invocation.Akin : Invocation → Invocation → Prop where
  | begin : Akin .begin .begin
  | step (now later : Instant) {taken other : Step} (akin : taken.Akin other) :
      Akin (.step now taken) (.step later other)
  | commit : Akin .commit .commit
  | read (now later : Instant) {operation other : Operation} (akin : Store.Akin operation other)
      (reads : operation.isWrite = false) (otherReads : other.isWrite = false) :
      Akin (.read now operation reads) (.read later other otherReads)

theorem Step.Akin.statements {step other : Step} (akin : step.Akin other) :
    step.statements = other.statements := by
  cases akin with
  | @addMembers uid other agents others length =>
    cases agents with
    | nil =>
      rw [List.length_nil, eq_comm, List.length_eq_zero_iff] at length
      rw [length]
      rfl
    | cons agent rest =>
      cases others with
      | nil => cases length
      | cons => simp only [Step.statements, length, List.isEmpty_cons]
  | putAgent agent other given => simp only [Step.statements, given]
  | _ => rfl

theorem Invocation.Akin.statements {call other : Invocation} (akin : call.Akin other) :
    call.statements = other.statements := by
  cases akin with
  | begin | commit => rfl
  | step now later akin => exact akin.statements
  | read now later akin reads otherReads =>
    cases akin with
    | describeAgents length => exact congrArg (fun count => [Statement.selectMetadata count]) length
    | _ => rfl

/-- Two calls of one kind that fail at the same statement tell the same text, whatever values they
were given, whatever the time was, and whatever their databases hold or suffer. The text is the one
of that statement, which knows of the values only how many a batch or a filter has, and whether there
is a plugin. -/
theorem statement_text_blind {first second : Invocation} (akin : first.Akin second)
    (c d : Connection) {sql other : String} {cause otherCause : Cause}
    (failed : (first.action c).1 = .error (.statement sql cause))
    (failedToo : (second.action d).1 = .error (.statement other otherCause))
    (position : first.sent c = second.sent d) :
    sql = other ∧ first.statements[first.sent c - 1]?.map Statement.sql = some sql := by
  obtain ⟨s, refusal, found, told⟩ := first.sent_of_failed failed
  obtain ⟨same, otherRefusal, foundToo, toldToo⟩ := second.sent_of_failed failedToo
  rw [← akin.statements, ← position, found] at foundToo
  cases foundToo
  have text := (Failure.statement.inj told).1
  have otherText := (Failure.statement.inj toldToo).1
  rw [found, text, otherText]
  exact ⟨rfl, rfl⟩

/-- A batch for an unknown cluster, and another one for a known cluster on a full disk. -/
theorem batch_texts_alike :
    let first : Invocation := .step .epoch (.addMembers ⟨"u"⟩ [⟨"a"⟩, ⟨"b"⟩])
    let second : Invocation := .step .epoch (.addMembers ⟨"v"⟩ [⟨"secret"⟩, ⟨"hidden"⟩])
    let full : Mishap := ⟨"database or disk is full", false⟩
    let c : Connection := { foreignKeys := true }
    let d : Connection := { foreignKeys := true, mishaps := [none, some full] }
    let sql := (Statement.insertMemberships 2).sql
    (first.action c).1 = .error (.statement sql
        (.root "NOT NULL constraint failed: cluster_memberships.cluster_id")) ∧
      (second.action d).1 = .error (.statement sql (.root full.text)) ∧
      first.sent c = 2 ∧ second.sent d = 2 ∧
      first.statements[first.sent c - 1]?.map Statement.sql = some sql := by
  intro first second full c d sql
  have failed : (first.action c).1 = .error (.statement sql
      (.root "NOT NULL constraint failed: cluster_memberships.cluster_id")) := by decide +kernel
  have failedToo : (second.action d).1 = .error (.statement sql (.root full.text)) := by
    decide +kernel
  have position : first.sent c = 2 := by decide +kernel
  have positionToo : second.sent d = 2 := by decide +kernel
  have akin : first.Akin second := .step _ _ (.addMembers _ _ rfl)
  have blind := statement_text_blind akin c d failed failedToo (position.trans positionToo.symm)
  exact ⟨failed, failedToo, position, positionToo, blind.2⟩

/-- The text of an agent without a plugin is not the one of an agent with a plugin. -/
theorem missing_plugin_told :
    let first : Invocation := .step .epoch (.putAgent ⟨"a"⟩ none)
    let second : Invocation := .step .epoch (.putAgent ⟨"a"⟩ (some "p"))
    let c : Connection := { foreignKeys := true, stored := { missing := [.agents] } }
    let cause : Cause := .root "no such table: agents"
    (first.action c).1 = .error (.statement (Statement.upsertAgent false).sql cause) ∧
      (second.action c).1 = .error (.statement (Statement.upsertAgent true).sql cause) ∧
      first.sent c = 1 ∧ second.sent c = 1 ∧
      (Statement.upsertAgent false).sql ≠ (Statement.upsertAgent true).sql := by
  intro first second c cause
  refine ⟨?_, ?_, ?_, ?_, ?_⟩ <;> decide +kernel

end Roster.Database
