import Roster.Database.Statement

/-!
What the statements that write do to the tables. A refused statement does nothing.
-/

namespace Roster.Database

namespace Tables

/-! ## References

With references enforced, rows that refer to a deleted row are deleted too. A statement that may
delete memberships then needs the tables that memberships refer to, even where no row is deleted. -/

/-- Refuses to delete memberships while a table that they refer to is missing. -/
def requireParents (t : Tables) (foreignKeys : Bool) : Except Refusal Unit :=
  if foreignKeys && t.has .memberships then
    match [TableName.clusters, .agents].find? (· ∈ t.missing) with
    | some table => .error (.noSuchParent table)
    | none => .ok ()
  else .ok ()

/-- Deletes the rows that refer to the agents with the given numbers. -/
def cascadeAgents (t : Tables) (ids : List Nat) : Tables :=
  { t with memberships := t.memberships.filter (·.agentId ∉ ids)
           selectors := t.selectors.filter (·.agentId ∉ ids) }

/-- Deletes the rows that refer to the clusters with the given numbers. -/
def cascadeClusters (t : Tables) (ids : List Nat) : Tables :=
  { t with memberships := t.memberships.filter (·.clusterId ∉ ids) }

/-! ## Agents -/

/-- Takes the next number for an agent. An agent that is offered takes it before it is looked at
whether the agent is there already. -/
def takeAgentId (t : Tables) : Tables :=
  { t with lastAgentId := t.lastAgentId + 1 }

/-- Adds an agent under the number taken last. -/
def addAgent (t : Tables) (spiffeid : String) (plugin : Option String) : Tables :=
  { t with agents := t.agents ++ [{ id := t.lastAgentId, spiffeid, plugin }] }

/-- Adds an agent without a plugin unless it is there. -/
def ensureAgent (t : Tables) (spiffeid : String) : Tables :=
  let t := t.takeAgentId
  if (t.agentNamed? spiffeid).isSome then t else t.addAgent spiffeid none

def insertAgents (t : Tables) (spiffeids : List String) : Except Refusal Tables := do
  t.accept (.insertAgents spiffeids.length)
  return spiffeids.foldl ensureAgent t

def insertAgent (t : Tables) (spiffeid : String) : Except Refusal Tables := do
  t.require Statement.ensureAgent.tables
  return t.ensureAgent spiffeid

def upsertAgent (t : Tables) (spiffeid : String) (plugin : Option String) :
    Except Refusal Tables := do
  t.require (Statement.upsertAgent plugin.isSome).tables
  let t := t.takeAgentId
  return if (t.agentNamed? spiffeid).isSome then
    { t with agents := t.agents.map fun row =>
      if row.spiffeid = spiffeid then { row with plugin } else row }
  else t.addAgent spiffeid plugin

/-! ## Clusters -/

/-- What a cluster row says, its number apart. -/
structure ClusterColumns where
  uid : String
  name : String
  createdAt : String
  domainName : String
  managedBy : String
  platformType : String

def insertCluster (t : Tables) (foreignKeys : Bool) (columns : ClusterColumns) :
    Except Refusal Tables := do
  t.require Statement.insertCluster.tables
  match t.triggers.find? (· ≠ .failCommit) with
  | some .rollback => .error .injectedRollback
  | some _ => .error .injectedAbort
  | none =>
    if t.clusters.any (·.uid = columns.uid) then .error (.duplicateValue .clusters "uid")
    else if t.clusters.any (·.name = columns.name) then .error (.duplicateValue .clusters "name")
    else
      let row : ClusterRow :=
        { id := t.lastClusterId + 1, uid := columns.uid, name := columns.name,
          createdAt := columns.createdAt, domainName := columns.domainName,
          managedBy := columns.managedBy, platformType := columns.platformType }
      .ok { t with
        clusters := t.clusters ++ [row]
        lastClusterId := t.lastClusterId + 1
        brokenReference := t.brokenReference || foreignKeys && .failCommit ∈ t.triggers }

/-- Overwrites the cluster with the given uid, apart from its creation time. Also gives the number
of rows that were updated. -/
def updateCluster (t : Tables) (uid name domainName managedBy platformType : String) :
    Except Refusal (Nat × Tables) := do
  t.require Statement.updateCluster.tables
  match t.clusterWith? uid with
  | none => .ok (0, t)
  | some _ =>
    if t.clusters.any fun row => row.name = name && row.uid ≠ uid then
      .error (.duplicateValue .clusters "name")
    else
      .ok (1, { t with clusters := t.clusters.map fun row =>
        if row.uid = uid then { row with name, domainName, managedBy, platformType } else row })

/-- Deletes the cluster with the given uid. Also gives the number of rows that were deleted. -/
def deleteCluster (t : Tables) (foreignKeys : Bool) (uid : String) :
    Except Refusal (Nat × Tables) := do
  t.require Statement.deleteCluster.tables
  t.requireParents foreignKeys
  let gone := t.clusters.filter (·.uid = uid)
  let kept := { t with clusters := t.clusters.filter (·.uid ≠ uid) }
  return (gone.length, if foreignKeys then kept.cascadeClusters (gone.map (·.id)) else kept)

/-! ## Memberships -/

/-- Inserts the membership of one agent. That its columns have values is looked at before that no
other row has the agent. -/
def insertMembership (uid : String) (t : Tables) (spiffeid : String) : Except Refusal Tables :=
  match t.agentNamed? spiffeid, t.clusterWith? uid with
  | none, _ => .error (.missingValue .memberships "agent_id")
  | some _, none => .error (.missingValue .memberships "cluster_id")
  | some agent, some cluster =>
    if t.memberships.any (·.agentId = agent.id) then
      .error (.duplicateValue .memberships "agent_id")
    else
      .ok { t with memberships := t.memberships ++ [⟨agent.id, cluster.id⟩] }

def insertMemberships (t : Tables) (uid : String) (spiffeids : List String) :
    Except Refusal Tables := do
  t.accept (.insertMemberships spiffeids.length)
  spiffeids.foldlM (insertMembership uid) t

def deleteMembers (t : Tables) (foreignKeys : Bool) (uid : String) : Except Refusal Tables := do
  t.require Statement.deleteMembers.tables
  t.requireParents foreignKeys
  let ids := (t.clusters.filter (·.uid = uid)).map (·.id)
  return t.cascadeClusters ids

/-! ## Selectors -/

def upsertSelectors (t : Tables) (agentId : Nat) (plugin selectors : String) :
    Except Refusal Tables := do
  t.require Statement.upsertSelectors.tables
  return if t.selectors.any (·.agentId = agentId) then
    { t with selectors := t.selectors.map fun row =>
      if row.agentId = agentId then { row with plugin, selectors } else row }
  else { t with selectors := t.selectors ++ [{ agentId, plugin, selectors }] }

end Tables

end Roster.Database
