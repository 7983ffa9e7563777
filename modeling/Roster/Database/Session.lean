import Roster.Database.Transaction

/-!
A transaction whose steps are chosen one by one. A step that fails undoes only its own failing
statement, and later steps still run.
-/

namespace Roster.Database

inductive Step where
  | insertCluster (cluster : Cluster)
  | updateCluster (cluster : Cluster)
  | deleteCluster (uid : ClusterUid)
  | addMembers (uid : ClusterUid) (agents : List AgentId)
  | deleteMembers (uid : ClusterUid)
  | loadCluster (uid : ClusterUid)
  | putAgent (agent : AgentId) (plugin : Option String)
  | putAttestation (entry : Attestation)

/-- A step has no result, apart from the cluster that was loaded. -/
def Step.action (now : Instant) : Step → Action (Option Cluster)
  | .insertCluster cluster => do Transaction.insertCluster now cluster; return none
  | .updateCluster cluster => do Transaction.updateCluster cluster; return none
  | .deleteCluster uid => do Transaction.deleteCluster uid; return none
  | .addMembers uid agents => do Transaction.addMembers uid agents; return none
  | .deleteMembers uid => do Transaction.deleteMembers uid; return none
  | .loadCluster uid => do return some (← Transaction.loadCluster uid)
  | .putAgent agent plugin => do Transaction.putAgent agent plugin; return none
  | .putAttestation entry => do Transaction.putAttestation entry; return none

inductive Ending where
  | commit
  /-- Commits or rolls back as the last step succeeded or failed. -/
  | finish
  /-- Rolls back because of the given failure, or else of the last step that failed. -/
  | rollback (cause : Option Failure)
  /-- The transaction is given up while it is open. -/
  | drop

namespace Session

abbrev Results := List (Except Failure (Option Cluster))

/-- Takes the steps one after the other. -/
def runSteps (now : Instant) : List Step → Connection → Results × Connection
  | [], c => ([], c)
  | step :: rest, c =>
    let (result, c) := step.action now c
    let (results, c) := runSteps now rest c
    (result :: results, c)

def lastFailure? (results : Results) : Option Failure :=
  results.reverse.findSome? fun
    | .error failure => some failure
    | .ok _ => none

def lastResult (results : Results) : Except Failure Unit :=
  match results.getLast? with
  | some (.error failure) => .error failure
  | _ => .ok ()

def runEnding (ending : Ending) (results : Results) : Action Unit :=
  match ending with
  | .commit => Transaction.commit
  | .finish => Transaction.finish (lastResult results)
  | .rollback cause => Transaction.rollback (cause <|> lastFailure? results)
  | .drop => fun c => (.ok (), (Transaction.undo c).2)

/-- What the steps and the ending of a session answer. -/
structure Report where
  steps : Results
  ending : Except Failure Unit

/-- Runs a session, unless no transaction can be begun. -/
def run (now : Instant) (steps : List Step) (ending : Ending) : Action Report := do
  Transaction.begin
  fun c =>
    let (results, c) := runSteps now steps c
    let (last, c) := runEnding ending results c
    (.ok ⟨results, last⟩, c)

end Session

end Roster.Database
