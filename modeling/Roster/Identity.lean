import Roster.Invalid
import Roster.Text.Blank
import Roster.Text.Order

/-!
Identities of agents, and uids and names of clusters. Each wraps a text of any kind: what comes
from a payload is taken as it is. The functions named `parse` are the checked way in. They trim
the text and refuse a blank one.
-/

namespace Roster

structure AgentId where
  text : String
  deriving DecidableEq

structure ClusterUid where
  text : String
  deriving DecidableEq

/-- A name for people. No two clusters of a registry share one. -/
structure ClusterName where
  text : String
  deriving DecidableEq

/-- The trimmed text, or `reason` where nothing is left of it. -/
def nonBlank (reason : Invalid) (s : String) : Except Invalid String :=
  let trimmed := Text.trim s
  if trimmed = "" then .error reason else .ok trimmed

def ClusterUid.parse (s : String) : Except Invalid ClusterUid :=
  (nonBlank .blankUid s).map .mk

def ClusterName.parse (s : String) : Except Invalid ClusterName :=
  (nonBlank .blankName s).map .mk

namespace AgentId

def parse (s : String) : Except Invalid AgentId :=
  (nonBlank .blankAgent s).map .mk

def scheme : List Char :=
  "spiffe://".toList

/-- What stands before the first slash after the scheme, if the identity has the scheme. -/
def trustDomain? (agent : AgentId) : Option (List Char) :=
  let cs := agent.text.toList
  if scheme.isPrefixOf cs then some ((cs.drop scheme.length).takeWhile (· ≠ '/')) else none

/-- An identity is a `spiffe://` URI if it has the scheme and a trust domain that is neither empty
nor holds white space. Anything may follow the trust domain. -/
def isSpiffe (agent : AgentId) : Bool :=
  match agent.trustDomain? with
  | some domain => !domain.isEmpty && !domain.any Text.isBlank
  | none => false

def parseSpiffe (s : String) : Except Invalid AgentId :=
  match parse s with
  | .ok agent => if agent.isSpiffe then .ok agent else .error (.notSpiffe agent.text)
  | .error reason => .error reason

/-- Reads a batch after the identities in `seen`. -/
def parseBatchAfter (seen : List AgentId) : List String → Except Invalid (List AgentId)
  | [] => .ok []
  | s :: rest =>
    match parse s with
    | .error reason => .error reason
    | .ok agent =>
      if agent ∈ seen then .error (.repeatedAgent agent.text)
      else (parseBatchAfter (agent :: seen) rest).map (agent :: ·)

/-- Reads a batch from left to right. The first entry that is blank or repeats an earlier one
decides the refusal. -/
def parseBatch (entries : List String) : Except Invalid (List AgentId) :=
  parseBatchAfter [] entries

/-- Reads a list in which an identity may occur more than once. -/
def parseAll (entries : List String) : Except Invalid (List AgentId) :=
  entries.mapM parse

/-- The identities in ascending order. -/
def sort (agents : List AgentId) : List AgentId :=
  Text.sortOn AgentId.text agents

end AgentId

end Roster
