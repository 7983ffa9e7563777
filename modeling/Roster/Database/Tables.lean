/-!
The tables of a database, and why it refuses a statement.

Rows of agents and clusters have numbers by which other rows refer to them. A number is greater
than every number given before in its table, as long as the table is not dropped.
-/

namespace Roster.Database

inductive TableName where
  | agents
  | clusters
  | memberships
  | selectors
  deriving DecidableEq

namespace TableName

def text : TableName → String
  | .agents => "agents"
  | .clusters => "clusters"
  | .memberships => "cluster_memberships"
  | .selectors => "agent_selectors"

def all : List TableName :=
  [.agents, .clusters, .memberships, .selectors]

def ofText? (s : String) : Option TableName :=
  all.find? fun table => table.text = s

end TableName

structure AgentRow where
  id : Nat
  spiffeid : String
  plugin : Option String
  deriving DecidableEq

structure ClusterRow where
  id : Nat
  uid : String
  name : String
  createdAt : String
  domainName : String
  managedBy : String
  platformType : String
  deriving DecidableEq

structure MembershipRow where
  agentId : Nat
  clusterId : Nat
  deriving DecidableEq

structure SelectorRow where
  agentId : Nat
  plugin : String
  /-- The selectors as JSON. -/
  selectors : String
  deriving DecidableEq

/-- Something that was set up to go wrong whenever a row is inserted into the table of clusters. -/
inductive Trigger where
  /-- Leaves a reference broken that is looked at upon commit, if references are enforced. -/
  | failCommit
  /-- Refuses the row. -/
  | abort
  /-- Refuses the row and rolls the transaction back. -/
  | rollback
  deriving DecidableEq

structure Tables where
  agents : List AgentRow := []
  clusters : List ClusterRow := []
  memberships : List MembershipRow := []
  selectors : List SelectorRow := []
  lastAgentId : Nat := 0
  lastClusterId : Nat := 0
  /-- Tables that were dropped. They have no rows. -/
  missing : List TableName := []
  /-- The newest trigger comes first. -/
  triggers : List Trigger := []
  /-- Whether a reference is broken that is looked at upon commit. -/
  brokenReference : Bool := false
  deriving DecidableEq

inductive Refusal where
  /-- More values are bound to the statement than may be. -/
  | tooManyValues
  | noSuchTable (table : TableName)
  /-- A table is missing that rows refer to, although no part of the statement names it, or that an
  index or a trigger is made for. -/
  | noSuchParent (table : TableName)
  | missingValue (table : TableName) (column : String)
  | duplicateValue (table : TableName) (column : String)
  | brokenReference
  | nestedTransaction
  /-- There is no transaction that could be ended in the given way. -/
  | noTransaction (ending : String)
  /-- A commit was refused, and so was the rollback because of it. -/
  | notUndone (commit rollback : Refusal)
  /-- A selection that must find a row finds none. -/
  | noRow
  | injectedAbort
  | injectedRollback
  /-- Something went wrong around the database, such as a full disk. -/
  | mishap (text : String) (endsTransaction : Bool)
  deriving DecidableEq

namespace Refusal

def message : Refusal → String
  | .tooManyValues => "too many SQL variables"
  | .noSuchTable table => "no such table: " ++ table.text
  | .noSuchParent table => "no such table: main." ++ table.text
  | .missingValue table column => "NOT NULL constraint failed: " ++ table.text ++ "." ++ column
  | .duplicateValue table column => "UNIQUE constraint failed: " ++ table.text ++ "." ++ column
  | .brokenReference => "FOREIGN KEY constraint failed"
  | .nestedTransaction => "cannot start a transaction within a transaction"
  | .noTransaction ending => "cannot " ++ ending ++ " - no transaction is active"
  | .notUndone commit rollback =>
    "Transaction rollback failed: " ++ rollback.message ++
      " Rollback attempted because of failure to commit: " ++ commit.message
  | .noRow => "Record not found"
  | .injectedAbort => "injected abort"
  | .injectedRollback => "injected rollback"
  | .mishap text _ => text

/-- Whether the database rolls the transaction back by itself. -/
def endsTransaction : Refusal → Bool
  | .injectedRollback => true
  | .mishap _ endsTransaction => endsTransaction
  | _ => false

def isDuplicate : Refusal → Bool
  | .duplicateValue _ _ => true
  | _ => false

end Refusal

namespace Tables

/-- A database without any tables. -/
def bare : Tables := { missing := TableName.all }

/-- Refuses a statement on tables of which one is missing. The first of them is named. -/
def require (t : Tables) (tables : List TableName) : Except Refusal Unit :=
  match tables.find? (· ∈ t.missing) with
  | some table => .error (.noSuchTable table)
  | none => .ok ()

def has (t : Tables) (table : TableName) : Bool :=
  !decide (table ∈ t.missing)

/-! ## Rows by number and by text -/

def agent? (t : Tables) (id : Nat) : Option AgentRow :=
  t.agents.find? (·.id = id)

def cluster? (t : Tables) (id : Nat) : Option ClusterRow :=
  t.clusters.find? (·.id = id)

def agentNamed? (t : Tables) (spiffeid : String) : Option AgentRow :=
  t.agents.find? (·.spiffeid = spiffeid)

def clusterWith? (t : Tables) (uid : String) : Option ClusterRow :=
  t.clusters.find? (·.uid = uid)

end Tables

end Roster.Database
