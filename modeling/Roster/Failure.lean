import Roster.Invalid
import Roster.Json.Error

/-!
Why a store operation fails, and what is said about the rollback that follows.
-/

namespace Roster

/-- What came of rolling a transaction back. -/
inductive RollbackOutcome where
  | succeeded
  | failed (reason : String)
  deriving DecidableEq

namespace RollbackOutcome

def isSuccess : RollbackOutcome → Bool
  | .succeeded => true
  | .failed _ => false

def message : RollbackOutcome → String
  | .succeeded => "[Successful rollback upon error]"
  | .failed reason => "[Unsuccessful rollback [" ++ reason ++ "] upon error]"

end RollbackOutcome

/-- An error text, with the error behind it if there is one. -/
inductive Cause where
  | root (text : String)
  | over (text : String) (source : Cause)
  deriving DecidableEq

namespace Cause

def message : Cause → String
  | .root text => text
  | .over text _ => text

/-- The texts from the outermost error to the innermost one. -/
def chain : Cause → List String
  | .root text => [text]
  | .over text source => text :: source.chain

def annotate (cause : Cause) (outcome : RollbackOutcome) : Cause :=
  .over (cause.message ++ ": " ++ outcome.message) cause

end Cause

/-- What is wrong with stored data that cannot be turned into records. -/
inductive Defect where
  | undecodable (error : Json.DecodeError)
  | invalid (reason : Invalid)
  | described (text : String)
  deriving DecidableEq

def Defect.message : Defect → String
  | .undecodable error => error.message
  | .invalid reason => reason.message
  | .described text => text

inductive Failure where
  /-- A statement failed. Its text has marks in the places of the values bound to it. -/
  | statement (sql : String) (cause : Cause)
  /-- A rule of the registry forbids the write. -/
  | conflict (text : String)
  | notFound (text : String)
  | connection (text : String)
  /-- Stored data is no valid record. -/
  | corrupt (defect : Defect)
  /-- A transaction was rolled back although nothing had failed. -/
  | rollbackWithoutCause (outcome : RollbackOutcome)
  | other (text : String)
  deriving DecidableEq

namespace Failure

def message : Failure → String
  | .statement sql cause => "statement failed [" ++ sql ++ "]: " ++ cause.message
  | .conflict text => "conflict: " ++ text
  | .notFound text => "not found: " ++ text
  | .connection text => "connection error: " ++ text
  | .corrupt defect => "invalid persisted data: " ++ defect.message
  | .rollbackWithoutCause outcome =>
    "rollback handler called upon no error: " ++ outcome.message
  | .other text => text

/-- Adds the outcome of the rollback to the message. A statement keeps its text, and conflicts and
lookups keep their kind. Any other failure keeps its message only. -/
def annotate (failure : Failure) (outcome : RollbackOutcome) : Failure :=
  match failure with
  | .statement sql cause => .statement sql (cause.annotate outcome)
  | .conflict text => .conflict (text ++ ": " ++ outcome.message)
  | .notFound text => .notFound (text ++ ": " ++ outcome.message)
  | failure => .other (failure.message ++ ": " ++ outcome.message)

/-- Adds one outcome after the other. -/
def annotateAll (failure : Failure) (outcomes : List RollbackOutcome) : Failure :=
  outcomes.foldl annotate failure

def clusterExists : Failure := .conflict "cluster already exists"

def clusterMissing : Failure := .conflict "cluster does not exist"

def agentAssigned : Failure := .conflict "agent already assigned to another cluster"

def clusterNotFound : Failure := .notFound "cluster does not exist"

def agentNotFound : Failure := .notFound "agent does not exist"

def agentWithoutCluster : Failure := .notFound "agent has no cluster"

def attestationNotFound : Failure := .notFound "agent selectors do not exist"

end Failure

end Roster
