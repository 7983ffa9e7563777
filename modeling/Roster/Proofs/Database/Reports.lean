import Roster.Proofs.Database.Loss
import Roster.Proofs.Database.Parsing
import Roster.Proofs.Parity

/-!
What is told of an operation that fails.

A statement or a step tells of itself only. A write that fails in one of its steps tells what the
first of the failing steps told, and adds once what came of the rollback. There is no rollback to
tell of where the transaction could not be begun, or where it was undone because its commit failed.
A read is no transaction, so it adds nothing.
-/

namespace Roster

open Database

/-! ## Failures with and without an outcome -/

theorem RollbackOutcome.getLast?_message (outcome : RollbackOutcome) :
    outcome.message.toList.getLast? = some ']' := by
  cases outcome with
  | succeeded => decide
  | failed reason =>
    change ("[Unsuccessful rollback [" ++ reason ++ "] upon error]").toList.getLast? = _
    rw [String.toList_append, List.getLast?_append]
    rfl

namespace Failure

/-- What a statement or a step fails with. It says nothing about a rollback. -/
inductive Raised : Failure → Prop where
  | refused (s : Statement) (refusal : Refusal) : Raised (s.failure refusal)
  | clusterExists : Raised clusterExists
  | clusterMissing : Raised clusterMissing
  | agentAssigned : Raised agentAssigned
  | clusterNotFound : Raised clusterNotFound
  | agentNotFound : Raised agentNotFound
  | agentWithoutCluster : Raised agentWithoutCluster
  | attestationNotFound : Raised attestationNotFound
  | corrupt (defect : Defect) : Raised (.corrupt defect)

/-- A failure that tells of its cause, and of what came of the rollback after it. -/
structure Tells (cause : Failure) (outcome : RollbackOutcome) (failure : Failure) : Prop where
  message : failure.message = cause.message ++ ": " ++ outcome.message
  statement : ∀ sql reason, cause = .statement sql reason →
    failure = .statement sql (.over (reason.message ++ ": " ++ outcome.message) reason)
  conflict : cause.kind = .conflict → failure.kind = .conflict
  notFound : cause.kind = .notFound → failure.kind = .notFound
  other : cause.kind ≠ .statement → cause.kind ≠ .conflict → cause.kind ≠ .notFound →
    failure.kind = .other
  /-- No statement and no step could have failed with it. -/
  notRaised : ¬ failure.Raised

theorem not_raised_annotate (cause : Failure) (outcome : RollbackOutcome) :
    ¬ (cause.annotate outcome).Raised := by
  have ends (text fixed : String) (same : text ++ ": " ++ outcome.message = fixed) :
      fixed.toList.getLast? = some ']' := by
    rw [← same, String.toList_append, List.getLast?_append, outcome.getLast?_message]
    rfl
  intro raised
  generalize annotated : cause.annotate outcome = failure at raised
  have kinds := congrArg kind annotated
  cases cause with
  | statement sql reason =>
    cases raised with
    | refused s refusal => exact nomatch (Failure.statement.inj annotated).2
    | _ => cases kinds
  | conflict text =>
    cases raised with
    | clusterExists | clusterMissing | agentAssigned =>
      exact absurd (ends text _ (Failure.conflict.inj annotated)) (by decide)
    | _ => cases kinds
  | notFound text =>
    cases raised with
    | clusterNotFound | agentNotFound | agentWithoutCluster | attestationNotFound =>
      exact absurd (ends text _ (Failure.notFound.inj annotated)) (by decide)
    | _ => cases kinds
  | connection | corrupt | rollbackWithoutCause | other => cases raised <;> cases kinds

theorem tells_annotate (cause : Failure) (outcome : RollbackOutcome) :
    Tells cause outcome (cause.annotate outcome) where
  message := message_annotate cause outcome
  statement := by
    rintro sql reason rfl
    rfl
  conflict isConflict := by
    cases cause <;> first | rfl | cases isConflict
  notFound isNotFound := by
    cases cause <;> first | rfl | cases isNotFound
  other noStatement noConflict noNotFound := by
    cases cause <;> first | rfl | contradiction
  notRaised := not_raised_annotate cause outcome

end Failure

namespace Database

/-! ## What actions fail with -/

/-- A computation that fails only with failures that have no outcome. -/
def Raising {α : Type} (result : Except Failure α) : Prop :=
  ∀ failure, result = .error failure → failure.Raised

theorem raising_ok {α : Type} (a : α) : Raising (.ok a) :=
  nofun

theorem Parses.raising {α : Type} {result : Except Failure α} (parses : Parses result) :
    Raising result := by
  intro failure failed
  obtain ⟨defect, rfl⟩ := parses failure failed
  exact .corrupt defect

namespace Action

variable {α β : Type}

/-- The action fails only with failures that have no outcome. -/
def Raises (action : Action α) : Prop :=
  ∀ c, Raising (action c).1

theorem raises_done (a : α) : (done a).Raises :=
  fun _ => raising_ok a

theorem raises_fail {failure : Failure} (raised : failure.Raised) :
    (fail failure : Action α).Raises := by
  intro _ _ failed
  cases failed
  exact raised

theorem raises_lift {result : Except Failure α} (parses : Parses result) :
    (lift result).Raises := by
  cases result with
  | ok a => exact raises_done a
  | error failure => exact raises_fail (parses.raising failure rfl)

theorem Raises.bind {first : Action α} {second : α → Action β} (raises : first.Raises)
    (later : ∀ a, (second a).Raises) : (first >>= second).Raises := by
  intro c failure failed
  have here := raises c
  change (andThen first second c).1 = .error failure at failed
  unfold andThen at failed
  split at failed
  next a c' _ => exact later a c' failure failed
  next found => cases failed; rw [found] at here; exact here failure rfl

theorem raises_run (s : Statement) (change : Bool → Tables → Except Refusal (α × Tables)) :
    (run s change).Raises := by
  intro c failure failed
  unfold run at failed
  split at failed
  next => cases failed
  next refusal _ _ => cases failed; exact .refused s refusal

theorem raises_runUnique (s : Statement) {conflict : Failure} (raised : conflict.Raised)
    (change : Bool → Tables → Except Refusal (α × Tables)) :
    (runUnique s conflict change).Raises := by
  intro c failure failed
  unfold runUnique at failed
  split at failed
  next => cases failed
  next refusal _ _ =>
    cases failed
    split
    · exact raised
    · exact .refused s refusal

theorem raises_read (s : Statement) (query : Tables → Except Refusal α) :
    (read s query).Raises := by
  intro c failure failed
  unfold read at failed
  split at failed
  next => cases failed
  next refusal _ _ => cases failed; exact .refused s refusal

end Action

open Database.Action

namespace Transaction

theorem raises_requireRow (count : Nat) : (requireRow count).Raises := by
  unfold requireRow
  split
  · exact raises_fail .clusterMissing
  · exact raises_done ()

theorem raises_addMembers (uid : ClusterUid) (agents : List AgentId) :
    (addMembers uid agents).Raises := by
  unfold addMembers
  split
  · exact raises_done ()
  · exact (raises_run _ _).bind fun _ => raises_runUnique _ .agentAssigned _

theorem raises_loadCluster (uid : ClusterUid) : (loadCluster uid).Raises := by
  apply (raises_read _ _).bind
  intro row
  cases row with
  | none => exact raises_fail .clusterNotFound
  | some row =>
    exact (raises_read _ _).bind fun _ =>
      raises_lift ((parses_parseMembers _).bind fun _ => parses_toCluster row _)

theorem raises_putAttestation (entry : Attestation) : (putAttestation entry).Raises := by
  apply (raises_run _ _).bind
  intro _
  apply (raises_read _ _).bind
  intro agentId
  cases agentId with
  | none => exact raises_fail (.refused _ _)
  | some agentId => exact raises_run _ _

end Transaction

theorem Step.raises_action (now : Instant) (step : Step) : (step.action now).Raises := by
  cases step with
  | insertCluster cluster =>
    exact (raises_runUnique _ .clusterExists _).bind fun _ => raises_done _
  | updateCluster cluster =>
    exact ((raises_runUnique _ .clusterExists _).bind Transaction.raises_requireRow).bind
      fun _ => raises_done _
  | deleteCluster uid =>
    exact ((raises_run _ _).bind Transaction.raises_requireRow).bind fun _ => raises_done _
  | addMembers uid agents =>
    exact (Transaction.raises_addMembers uid agents).bind fun _ => raises_done _
  | deleteMembers uid => exact (raises_run _ _).bind fun _ => raises_done _
  | loadCluster uid => exact (Transaction.raises_loadCluster uid).bind fun _ => raises_done _
  | putAgent agent plugin => exact (raises_run _ _).bind fun _ => raises_done _
  | putAttestation entry =>
    exact (Transaction.raises_putAttestation entry).bind fun _ => raises_done _

namespace Store

theorem raises_findAgent (agent : AgentId) : (findAgent agent).Raises := by
  apply (raises_read _ _).bind
  intro plugin
  cases plugin with
  | none => exact raises_fail .agentNotFound
  | some plugin => exact raises_done _

theorem raises_findAttestation (agent : AgentId) : (findAttestation agent).Raises := by
  apply (raises_read _ _).bind
  intro row
  cases row with
  | none => exact raises_fail .attestationNotFound
  | some row => exact raises_lift (parses_readAttestation _ _ _)

theorem raises_clusterOf (agent : AgentId) : (clusterOf agent).Raises := by
  apply (raises_read _ _).bind
  intro name
  cases name with
  | none => exact raises_fail .agentWithoutCluster
  | some name => exact raises_lift (parses_corrupt _)

theorem raises_answering {α : Type} {action : Action α} (raises : action.Raises)
    (answer : α → Answer) : (answering answer action).Raises :=
  raises.bind fun _ => raises_done _

theorem raises_of_read (now : Instant) {operation : Operation}
    (reads : operation.isWrite = false) : (perform now operation).Raises := by
  cases operation with
  | listAgents =>
    apply raises_answering
    exact (raises_read _ _).bind fun _ => raises_lift (parses_agents _)
  | findAgent agent => exact raises_answering (raises_findAgent agent) _
  | findAttestation agent => exact raises_answering (raises_findAttestation agent) _
  | listClusters =>
    apply raises_answering
    exact (raises_read _ _).bind fun _ => (raises_read _ _).bind fun _ =>
      raises_lift (parses_assemble _ _)
  | clusterOf agent => exact raises_answering (raises_clusterOf agent) _
  | membersOf uid =>
    apply raises_answering
    exact (raises_read _ _).bind fun _ => raises_lift (parses_parseMembers _)
  | describeAgents filter =>
    apply raises_answering
    exact (raises_read _ _).bind fun _ => raises_lift (parses_mapM fun _ => parses_describe _ _ _)
  | putAgent | putAttestation | createCluster | editCluster | deleteCluster => cases reads

end Store

/-! ## The first step that fails -/

namespace Session

theorem runSteps_append_results (now : Instant) (earlier later : List Step) (c : Connection) :
    (runSteps now (earlier ++ later) c).1 =
      (runSteps now earlier c).1 ++ (runSteps now later (runSteps now earlier c).2).1 := by
  induction earlier generalizing c with
  | nil => rfl
  | cons step rest ih => exact congrArg ((step.action now c).1 :: ·) (ih (step.action now c).2)

/-- Each of the steps succeeds, if they are taken one after the other. -/
def Succeeds (now : Instant) (steps : List Step) (c : Connection) : Prop :=
  ∀ result ∈ (runSteps now steps c).1, result.isOk

/-- The first of the steps that fails, if they are taken one after the other, fails with the given
failure and leaves the given connection behind. -/
def FailsFirst (now : Instant) (steps : List Step) (c : Connection) (failure : Failure)
    (left : Connection) : Prop :=
  ∃ earlier step later, steps = earlier ++ step :: later ∧ Succeeds now earlier c ∧
    step.action now (runSteps now earlier c).2 = (.error failure, left)

theorem Succeeds.append {now : Instant} {earlier later : List Step} {c : Connection}
    (succeeds : Succeeds now earlier c)
    (goesOn : Succeeds now later (runSteps now earlier c).2) :
    Succeeds now (earlier ++ later) c := by
  intro result member
  rw [runSteps_append_results] at member
  rcases List.mem_append.mp member with early | late
  · exact succeeds result early
  · exact goesOn result late

theorem FailsFirst.append {now : Instant} {steps : List Step} {c left : Connection}
    {failure : Failure} (fails : FailsFirst now steps c failure left) (later : List Step) :
    FailsFirst now (steps ++ later) c failure left := by
  obtain ⟨earlier, step, rest, rfl, succeeds, failed⟩ := fails
  exact ⟨earlier, step, rest ++ later, List.append_assoc .., succeeds, failed⟩

theorem FailsFirst.after {now : Instant} {earlier steps : List Step} {c left : Connection}
    {failure : Failure} (succeeds : Succeeds now earlier c)
    (fails : FailsFirst now steps (runSteps now earlier c).2 failure left) :
    FailsFirst now (earlier ++ steps) c failure left := by
  obtain ⟨middle, step, rest, rfl, goesOn, failed⟩ := fails
  refine ⟨earlier ++ middle, step, rest, (List.append_assoc ..).symm, succeeds.append goesOn, ?_⟩
  rw [runSteps_append]
  exact failed

/-- The action does what the steps do one after the other, but stops at the first that fails. -/
structure Takes {α : Type} (now : Instant) (steps : List Step) (action : Action α) : Prop where
  succeeds : ∀ (c left : Connection) (a : α), action c = (.ok a, left) →
    Succeeds now steps c ∧ (runSteps now steps c).2 = left
  fails : ∀ (c left : Connection) (failure : Failure), action c = (.error failure, left) →
    FailsFirst now steps c failure left

theorem Takes.bind {α β : Type} {now : Instant} {earlier later : List Step} {first : Action α}
    {second : α → Action β} (takes : Takes now earlier first)
    (goesOn : ∀ a, Takes now later (second a)) :
    Takes now (earlier ++ later) (first >>= second) where
  succeeds c left b did := by
    change andThen first second c = _ at did
    unfold andThen at did
    split at did
    next a middle found =>
      obtain ⟨early, reached⟩ := takes.succeeds c middle a found
      obtain ⟨late, ended⟩ := (goesOn a).succeeds middle left b did
      rw [← reached] at late ended
      exact ⟨early.append late, (runSteps_append now earlier later c).trans ended⟩
    next => cases did
  fails c left failure failed := by
    change andThen first second c = _ at failed
    unfold andThen at failed
    split at failed
    next a middle found =>
      obtain ⟨early, reached⟩ := takes.succeeds c middle a found
      have late := (goesOn a).fails middle left failure failed
      rw [← reached] at late
      exact .after early late
    next found => cases failed; exact (takes.fails c left failure found).append later

/-- An action is a step if the step differs from it in the result only. -/
theorem takes_step {α : Type} {now : Instant} {action : Action α} (step : Step)
    (told : α → Option Cluster) (same : step.action now = action >>= fun a => done (told a)) :
    Takes now [step] action where
  succeeds c left a did := by
    have stepped : step.action now c = (.ok (told a), left) := by
      rw [same]
      exact bind_of_ok did _
    refine ⟨?_, congrArg Prod.snd stepped⟩
    intro result member
    have only : result = (step.action now c).1 := List.mem_singleton.mp member
    rw [only, stepped]
    rfl
  fails c left failure failed := by
    refine ⟨[], step, [], rfl, nofun, ?_⟩
    change step.action now c = _
    rw [same]
    exact bind_of_error failed _

end Session

end Database

/-- The steps of a write, in the order in which they are taken. A read has none. -/
def Operation.steps : Operation → List Step
  | .putAgent agent => [.putAgent agent.id agent.plugin]
  | .putAttestation entry => [.putAttestation entry]
  | .createCluster cluster =>
    [.insertCluster cluster, .addMembers cluster.uid cluster.members, .loadCluster cluster.uid]
  | .editCluster cluster =>
    [.updateCluster cluster, .deleteMembers cluster.uid,
      .addMembers cluster.uid cluster.members, .loadCluster cluster.uid]
  | .deleteCluster uid => [.deleteMembers uid, .deleteCluster uid]
  | _ => []

namespace Database

namespace Store

open Session

/-- Every write is its steps done as one transaction, one case for each kind of write. -/
theorem takes_of_write (now : Instant) {operation : Operation}
    (writes : operation.isWrite = true) :
    ∃ (α : Type) (answer : α → Answer) (body : Action α),
      perform now operation = answering answer (Transaction.atomically body) ∧
        Takes now operation.steps body := by
  cases operation with
  | putAgent agent => exact ⟨_, _, _, rfl, takes_step (.putAgent _ _) (fun _ => none) rfl⟩
  | putAttestation entry =>
    exact ⟨_, _, _, rfl, takes_step (.putAttestation entry) (fun _ => none) rfl⟩
  | createCluster cluster =>
    refine ⟨_, _, _, rfl, (takes_step (.insertCluster cluster) (fun _ => none) rfl).bind ?_⟩
    exact fun _ => (takes_step (.addMembers _ _) (fun _ => none) rfl).bind
      fun _ => takes_step (.loadCluster _) some rfl
  | editCluster cluster =>
    refine ⟨_, _, _, rfl, (takes_step (.updateCluster cluster) (fun _ => none) rfl).bind ?_⟩
    exact fun _ => (takes_step (.deleteMembers _) (fun _ => none) rfl).bind
      fun _ => (takes_step (.addMembers _ _) (fun _ => none) rfl).bind
        fun _ => takes_step (.loadCluster _) some rfl
  | deleteCluster uid =>
    exact ⟨_, _, _, rfl, (takes_step (.deleteMembers uid) (fun _ => none) rfl).bind
      fun _ => takes_step (.deleteCluster uid) (fun _ => none) rfl⟩
  | listAgents | findAgent | findAttestation | listClusters | clusterOf | membersOf
  | describeAgents => cases writes

end Store

/-! ## Reports -/

/-- What is told of a write that fails on a connection. -/
inductive Reported (now : Instant) (steps : List Step) (c : Connection) (failure : Failure) :
    Prop where
  /-- The transaction could not be begun. -/
  | notBegun (refusal : Refusal) (refused : c.begin.1 = .error refusal)
    (told : failure = .statement "BEGIN" (.root refusal.message))
  /-- All steps succeeded, but what they did could not be committed. -/
  | notCommitted (refusal : Refusal) (begun : c.begin.1 = .ok ())
    (succeeds : Session.Succeeds now steps c.begin.2)
    (refused : (Session.runSteps now steps c.begin.2).2.commit.1 = .error refusal)
    (told : failure = .statement "COMMIT" (.root refusal.message))
  /-- A step failed, and the transaction was rolled back because of it. -/
  | rolledBack (cause : Failure) (left : Connection) (outcome : RollbackOutcome)
    (begun : c.begin.1 = .ok ())
    (fails : Session.FailsFirst now steps c.begin.2 cause left) (raised : cause.Raised)
    (rolled : outcome = if left.working.isSome then .succeeded
      else .failed "cannot rollback - no transaction is active")
    (told : Failure.Tells cause outcome failure)

namespace Transaction

theorem begin_cases (c : Connection) :
    c.begin.1 = .ok () ∧ begin c = (.ok (), c.begin.2) ∨
      ∃ refusal, c.begin.1 = .error refusal ∧
        begin c = (.error (Statement.begin.failure refusal), c.begin.2) := by
  unfold begin
  split
  next found => rw [found]; exact .inl ⟨rfl, rfl⟩
  next refusal _ found => rw [found]; exact .inr ⟨refusal, rfl, rfl⟩

theorem commit_of_error {c : Connection} {failure : Failure}
    (failed : (commit c).1 = .error failure) :
    ∃ refusal, c.commit.1 = .error refusal ∧ failure = Statement.commit.failure refusal := by
  unfold commit at failed
  split at failed
  next => cases failed
  next refusal _ found =>
    cases failed
    rw [found]
    exact ⟨refusal, rfl, rfl⟩

theorem undo_told (c : Connection) :
    (undo c).1 = if c.working.isSome then .succeeded
      else .failed "cannot rollback - no transaction is active" := by
  unfold undo Connection.rollback
  cases c.working <;> rfl

theorem raised_of_failsFirst {now : Instant} {steps : List Step} {c left : Connection}
    {failure : Failure} (fails : Session.FailsFirst now steps c failure left) :
    failure.Raised := by
  obtain ⟨_, step, _, _, _, failed⟩ := fails
  exact step.raises_action now _ failure (congrArg Prod.fst failed)

theorem reported_atomically {α : Type} {now : Instant} {steps : List Step} {body : Action α}
    (takes : Session.Takes now steps body) {c : Connection} {failure : Failure}
    (failed : (atomically body c).1 = .error failure) : Reported now steps c failure := by
  rcases begin_cases c with ⟨begun, started⟩ | ⟨refusal, refused, notStarted⟩
  · have ends : atomically body c = finish (body c.begin.2).1 (body c.begin.2).2 :=
      Action.bind_of_ok started _
    rw [ends] at failed
    cases took : body c.begin.2 with
    | mk result left =>
      rw [took] at failed
      cases result with
      | ok a =>
        obtain ⟨succeeds, reached⟩ := takes.succeeds _ _ a took
        have mapped : (commit left).1.map (fun _ => a) = .error failure := by
          rw [finish_ok] at failed
          exact failed
        have notCommitted : (commit left).1 = .error failure := by
          cases told : (commit left).1 with
          | ok _ => rw [told] at mapped; cases mapped
          | error cause => rw [told] at mapped; cases mapped; rfl
        obtain ⟨refusal, refused, rfl⟩ := commit_of_error notCommitted
        exact .notCommitted refusal begun succeeds (reached ▸ refused) rfl
      | error cause =>
        have fails := takes.fails _ _ cause took
        cases failed
        exact .rolledBack cause left _ begun fails (raised_of_failsFirst fails) (undo_told left)
          (cause.tells_annotate _)
  · have told : atomically body c = _ := Action.bind_of_error notStarted _
    rw [told] at failed
    cases failed
    exact .notBegun refusal refused rfl

end Transaction

/-- A write that fails tells the truth about it. Either its transaction could not be begun or
could not be committed, and that alone is told, or the first of its steps that fails decides: its
failure is told with its kind and its statement, and once with the outcome of the rollback, which
succeeds just if the transaction was still open. A read that fails tells its failure alone. This
holds of tables of any content of which any may be missing, wherever mishaps befall the statements,
and also where a transaction is open already. -/
theorem failures_reported (c : Connection) (now : Instant) (operation : Operation)
    (failure : Failure) (failed : (Registry.perform now operation c).1 = .error failure) :
    (operation.isWrite = true → Reported now operation.steps c failure) ∧
      (operation.isWrite = false → failure.Raised) := by
  constructor
  · intro writes
    obtain ⟨α, answer, body, same, takes⟩ := Store.takes_of_write now writes
    change (Store.perform now operation c).1 = _ at failed
    rw [same, Store.answering_eq] at failed
    apply Transaction.reported_atomically takes
    cases told : (Transaction.atomically body c).1 with
    | ok a => rw [told] at failed; cases failed
    | error cause => rw [told] at failed; cases failed; rfl
  · exact fun reads => Store.raises_of_read now reads c failure failed

/-- While the table of memberships is missing, a cluster cannot be given members. The creation tells
the missing table and its rollback, and the list of clusters tells the missing table alone. -/
theorem missing_table_reported :
    let cluster : Cluster := { uid := ⟨"u"⟩, name := ⟨"n"⟩, members := [⟨"a"⟩] }
    let before : Connection := { foreignKeys := true, stored := { missing := [.memberships] } }
    let creation := Operation.createCluster cluster
    let lacking : Refusal := .noSuchTable .memberships
    let told : Failure := .statement (Statement.insertMemberships 1).sql
      (.over (lacking.message ++ ": [Successful rollback upon error]") (.root lacking.message))
    let listing := Statement.selectMemberships.failure lacking
    (Registry.perform Instant.epoch creation before).1 = .error told ∧
      Reported .epoch creation.steps before told ∧
      (Registry.perform Instant.epoch .listClusters before).1 = .error listing ∧
      listing.Raised := by
  intro cluster before creation lacking told listing
  have creationFails : (Registry.perform Instant.epoch creation before).1 = .error told := rfl
  have listingFails : (Registry.perform Instant.epoch .listClusters before).1 = .error listing :=
    rfl
  exact ⟨creationFails, (failures_reported _ _ creation _ creationFails).1 rfl,
    listingFails, (failures_reported _ _ .listClusters _ listingFails).2 rfl⟩

end Database

end Roster
