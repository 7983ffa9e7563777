import Roster.Calendar
import Roster.Database.Connection
import Roster.Payload

/-!
Transactions: the steps of which multi-row writes are made, and the ways in which a transaction
ends. What is read back from the tables is checked as texts from a caller are.
-/

namespace Roster.Database

/-- The failure for stored texts that are no valid record. -/
def corrupt {α : Type} : Except Invalid α → Except Failure α
  | .ok a => .ok a
  | .error reason => .error (.corrupt (.invalid reason))

/-- The stored identities, checked from left to right. -/
def parseMembers (spiffeids : List String) : Except Failure (List AgentId) :=
  spiffeids.mapM fun spiffeid => corrupt (AgentId.parse spiffeid)

/-- The record of a stored cluster. -/
def ClusterRow.toCluster (row : ClusterRow) (members : List AgentId) : Except Failure Cluster := do
  let uid ← corrupt (ClusterUid.parse row.uid)
  let name ← corrupt (ClusterName.parse row.name)
  return { uid, name, created := some row.createdAt, domain := row.domainName,
           manager := row.managedBy, platform := row.platformType, members }

/-- A change without a result. -/
def silently (change : Except Refusal Tables) : Except Refusal (Unit × Tables) :=
  change.map fun t => ((), t)

namespace Transaction

/-! ## Steps -/

def insertCluster (now : Instant) (cluster : Cluster) : Action Unit :=
  Action.runUnique .insertCluster .clusterExists fun foreignKeys t =>
    silently <| t.insertCluster foreignKeys
      { uid := cluster.uid.text, name := cluster.name.text, createdAt := now.stamp,
        domainName := cluster.domain, managedBy := cluster.manager,
        platformType := cluster.platform }

/-- The failure of a write that should have found one cluster. -/
def requireRow (count : Nat) : Action Unit :=
  if count = 0 then Action.fail .clusterMissing else Action.done ()

def updateCluster (cluster : Cluster) : Action Unit := do
  let count ← Action.runUnique .updateCluster .clusterExists fun _ t =>
    t.updateCluster cluster.uid.text cluster.name.text cluster.domain cluster.manager
      cluster.platform
  requireRow count

def deleteCluster (uid : ClusterUid) : Action Unit := do
  let count ← Action.run .deleteCluster fun foreignKeys t => t.deleteCluster foreignKeys uid.text
  requireRow count

/-- Makes agents members of a cluster. Agents that are not known yet are added first, without a
plugin. No agents are no work. -/
def addMembers (uid : ClusterUid) (agents : List AgentId) : Action Unit :=
  if agents.isEmpty then Action.done ()
  else do
    let spiffeids := agents.map AgentId.text
    Action.run (.insertAgents agents.length) fun _ t => silently (t.insertAgents spiffeids)
    Action.runUnique (.insertMemberships agents.length) .agentAssigned fun _ t =>
      silently (t.insertMemberships uid.text spiffeids)

def deleteMembers (uid : ClusterUid) : Action Unit :=
  Action.run .deleteMembers fun foreignKeys t => silently (t.deleteMembers foreignKeys uid.text)

/-- The cluster and its members as the transaction sees them. -/
def loadCluster (uid : ClusterUid) : Action Cluster := do
  match ← Action.read .selectCluster fun t => t.selectCluster uid.text with
  | none => Action.fail .clusterNotFound
  | some row =>
    let members ← Action.read .selectClusterMembers fun t => t.selectClusterMembers row.id
    Action.lift do row.toCluster (← parseMembers members)

/-- Adds an agent, or replaces its plugin. -/
def putAgent (agent : AgentId) (plugin : Option String) : Action Unit :=
  Action.run (.upsertAgent plugin.isSome) fun _ t => silently (t.upsertAgent agent.text plugin)

def putAttestation (entry : Attestation) : Action Unit := do
  Action.run .ensureAgent fun _ t => silently (t.insertAgent entry.agent.text)
  match ← Action.read .selectAgentId fun t => t.selectAgentId entry.agent.text with
  | none => Action.fail (Statement.selectAgentId.failure .noRow)
  | some agentId =>
    let selectors := Attestation.selectorsCodec.encode entry.selectors
    Action.run .upsertSelectors fun _ t =>
      silently (t.upsertSelectors agentId entry.plugin selectors)

/-! ## Beginning and ending -/

def begin : Action Unit := fun c =>
  match c.begin with
  | (.ok (), c) => (.ok (), c)
  | (.error refusal, c) => (.error (Statement.begin.failure refusal), c)

def commit : Action Unit := fun c =>
  match c.commit with
  | (.ok (), c) => (.ok (), c)
  | (.error refusal, c) => (.error (Statement.commit.failure refusal), c)

/-- Rolls back, and tells what came of it. -/
def undo (c : Connection) : RollbackOutcome × Connection :=
  match c.rollback with
  | (.ok (), c) => (.succeeded, c)
  | (.error refusal, c) => (.failed refusal.message, c)

/-- The failure to be reported after a rollback: its cause with the outcome, if it has a cause. -/
def reported (cause : Option Failure) (outcome : RollbackOutcome) : Failure :=
  match cause with
  | some failure => failure.annotate outcome
  | none => .rollbackWithoutCause outcome

/-- Rolls back because of a failure. -/
def rollback {α : Type} (cause : Option Failure) : Action α := fun c =>
  (.error (reported cause (undo c).1), (undo c).2)

/-- Commits after a success, and rolls back after a failure. -/
def finish {α : Type} : Except Failure α → Action α
  | .ok a => do
    commit
    return a
  | .error failure => rollback (some failure)

/-- Does all of an action or nothing of it. -/
def atomically {α : Type} (body : Action α) : Action α := do
  begin
  fun c => finish (body c).1 (body c).2

end Transaction

end Roster.Database
