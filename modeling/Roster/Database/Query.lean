import Roster.Database.Statement
import Roster.Text.Order

/-!
What the statements that read find in the tables.
-/

namespace Roster.Database.Tables

/-- The agents of a membership row and its cluster, where the rows are there. -/
def memberRows (t : Tables) : List (Nat × String) :=
  t.memberships.filterMap fun m => (t.agent? m.agentId).map fun a => (m.clusterId, a.spiffeid)

/-- The memberships of which both the agent and the cluster are there. -/
def placedMembers (t : Tables) : List (ClusterRow × String) :=
  t.memberRows.filterMap fun (clusterId, spiffeid) =>
    (t.cluster? clusterId).map fun cluster => (cluster, spiffeid)

def selectAgents (t : Tables) : Except Refusal (List (String × Option String)) := do
  t.require Statement.selectAgents.tables
  return (Text.sortOn (·.spiffeid) t.agents).map fun row => (row.spiffeid, row.plugin)

def selectPlugin (t : Tables) (spiffeid : String) : Except Refusal (Option (Option String)) := do
  t.require Statement.selectPlugin.tables
  return (t.agentNamed? spiffeid).map (·.plugin)

def selectAgentId (t : Tables) (spiffeid : String) : Except Refusal (Option Nat) := do
  t.require Statement.selectAgentId.tables
  return (t.agentNamed? spiffeid).map (·.id)

/-- The plugin and the selectors of an agent as they are stored. -/
def selectSelectors (t : Tables) (spiffeid : String) :
    Except Refusal (Option (String × String)) := do
  t.require Statement.selectSelectors.tables
  return (t.agentNamed? spiffeid).bind fun agent =>
    (t.selectors.find? (·.agentId = agent.id)).map fun row => (row.plugin, row.selectors)

def selectCluster (t : Tables) (uid : String) : Except Refusal (Option ClusterRow) := do
  t.require Statement.selectCluster.tables
  return t.clusterWith? uid

def selectClusters (t : Tables) : Except Refusal (List ClusterRow) := do
  t.require Statement.selectClusters.tables
  return Text.sortOn (·.name) t.clusters

def selectClusterMembers (t : Tables) (clusterId : Nat) : Except Refusal (List String) := do
  t.require Statement.selectClusterMembers.tables
  return Text.sortOn id ((t.memberRows.filter (·.1 = clusterId)).map (·.2))

def selectMemberships (t : Tables) : Except Refusal (List (Nat × String)) := do
  t.require Statement.selectMemberships.tables
  return Text.sortOn (·.2) t.memberRows

def selectClusterName (t : Tables) (spiffeid : String) : Except Refusal (Option String) := do
  t.require Statement.selectClusterName.tables
  return (t.placedMembers.find? (·.2 = spiffeid)).map (·.1.name)

def selectMembersOf (t : Tables) (uid : String) : Except Refusal (List String) := do
  t.require Statement.selectMembersOf.tables
  return Text.sortOn id ((t.placedMembers.filter (·.1.uid = uid)).map (·.2))

/-- The name of the cluster that an agent row is a member of, where that cluster is there. -/
def clusterNameOf? (t : Tables) (agent : AgentRow) : Option String :=
  (t.memberships.find? (·.agentId = agent.id)).bind fun m =>
    (t.cluster? m.clusterId).map (·.name)

/-- Agents with their plugins and the names of their clusters: the wanted ones, or all of them if
none is wanted. -/
def selectMetadata (t : Tables) (wanted : List String) :
    Except Refusal (List (String × Option String × Option String)) := do
  t.accept (.selectMetadata wanted.length)
  let rows := t.agents.filter fun row => wanted.isEmpty || row.spiffeid ∈ wanted
  return (Text.sortOn (·.spiffeid) rows).map fun row =>
    (row.spiffeid, row.plugin, t.clusterNameOf? row)

end Roster.Database.Tables
