import Roster.Database.Tables
import Roster.Failure

/-!
The statements that the registry sends to its database, and their texts. Values are bound to the
marks in a text and never stand in it. So a text depends on the statement alone, on how many rows a
batch or a filter has, and on whether an agent is given a plugin, for a column without a value is
left out. No more values can be bound to a statement than there is room for.
-/

namespace Roster.Database

inductive Statement where
  | begin
  | commit
  | insertCluster
  | updateCluster
  | deleteCluster
  | deleteMembers
  /-- Inserts a batch of agents. -/
  | insertAgents (count : Nat)
  /-- Inserts the memberships of a batch of agents. -/
  | insertMemberships (count : Nat)
  | selectCluster
  | selectClusterMembers
  | upsertAgent (withPlugin : Bool)
  | ensureAgent
  | selectAgentId
  | upsertSelectors
  | selectAgents
  | selectPlugin
  | selectSelectors
  | selectClusters
  | selectMemberships
  | selectClusterName
  | selectMembersOf
  /-- Selects the agents of a filter, or all agents if the filter is empty. -/
  | selectMetadata (count : Nat)
  deriving DecidableEq

namespace Statement

/-- `count` copies of a text with commas between them. -/
def copies (text : String) (count : Nat) : String :=
  String.intercalate ", " (List.replicate count text)

def agentsHead : String := "INSERT OR IGNORE INTO agents (spiffeid, plugin) VALUES "

def agentsRow : String := "(?, NULL)"

def membershipsHead : String :=
  "INSERT OR ABORT INTO cluster_memberships (agent_id, cluster_id) VALUES "

def membershipsRow : String :=
  "((SELECT id FROM agents WHERE spiffeid = ?), (SELECT id FROM clusters WHERE uid = ?))"

/-- A statement that inserts `count` rows at once. -/
def batch (head row : String) (count : Nat) : String :=
  head ++ copies row count

def clusterColumns : String :=
  "`clusters`.`id`, `clusters`.`uid`, `clusters`.`name`, `clusters`.`created_at`, " ++
    "`clusters`.`domain_name`, `clusters`.`managed_by`, `clusters`.`platform_type`"

def membersJoin : String :=
  "(`cluster_memberships` INNER JOIN `agents` ON " ++
    "(`cluster_memberships`.`agent_id` = `agents`.`id`))"

def fullJoin : String :=
  "(" ++ membersJoin ++
    " INNER JOIN `clusters` ON (`cluster_memberships`.`cluster_id` = `clusters`.`id`))"

def metadataJoin : String :=
  "((`agents` LEFT OUTER JOIN `cluster_memberships` ON " ++
    "(`cluster_memberships`.`agent_id` = `agents`.`id`)) LEFT OUTER JOIN `clusters` ON " ++
    "(`clusters`.`id` = `cluster_memberships`.`cluster_id`))"

def byAgent : String := " ORDER BY `agents`.`spiffeid` ASC"

def sql : Statement → String
  | .begin => "BEGIN"
  | .commit => "COMMIT"
  | .insertCluster =>
    "INSERT INTO `clusters` (`uid`, `name`, `created_at`, `domain_name`, `managed_by`, " ++
      "`platform_type`) VALUES (?, ?, ?, ?, ?, ?)"
  | .updateCluster =>
    "UPDATE `clusters` SET `name` = ?, `domain_name` = ?, `managed_by` = ?, " ++
      "`platform_type` = ? WHERE (`clusters`.`uid` = ?)"
  | .deleteCluster => "DELETE FROM `clusters` WHERE (`clusters`.`uid` = ?)"
  | .deleteMembers =>
    "DELETE FROM `cluster_memberships` WHERE (`cluster_memberships`.`cluster_id` IN " ++
      "(SELECT `clusters`.`id` FROM `clusters` WHERE (`clusters`.`uid` = ?)))"
  | .insertAgents count => batch agentsHead agentsRow count
  | .insertMemberships count => batch membershipsHead membershipsRow count
  | .selectCluster =>
    "SELECT " ++ clusterColumns ++ " FROM `clusters` WHERE (`clusters`.`uid` = ?)"
  | .selectClusterMembers =>
    "SELECT `agents`.`spiffeid` FROM " ++ membersJoin ++
      " WHERE (`cluster_memberships`.`cluster_id` = ?)" ++ byAgent
  | .upsertAgent withPlugin =>
    (if withPlugin then "INSERT INTO `agents` (`spiffeid`, `plugin`) VALUES (?, ?)"
      else "INSERT INTO `agents` (`spiffeid`) VALUES (?)") ++
      " ON CONFLICT (`spiffeid`) DO UPDATE SET `plugin` = excluded.`plugin`"
  | .ensureAgent => "INSERT OR IGNORE INTO `agents` (`spiffeid`) VALUES (?)"
  | .selectAgentId => "SELECT `agents`.`id` FROM `agents` WHERE (`agents`.`spiffeid` = ?)"
  | .upsertSelectors =>
    "INSERT INTO `agent_selectors` (`agent_id`, `plugin`, `selectors`) VALUES (?, ?, ?) " ++
      "ON CONFLICT (`agent_id`) DO UPDATE SET `plugin` = excluded.`plugin`, " ++
      "`selectors` = excluded.`selectors`"
  | .selectAgents =>
    "SELECT `agents`.`spiffeid`, `agents`.`plugin` FROM `agents`" ++ byAgent
  | .selectPlugin => "SELECT `agents`.`plugin` FROM `agents` WHERE (`agents`.`spiffeid` = ?)"
  | .selectSelectors =>
    "SELECT `agent_selectors`.`plugin`, `agent_selectors`.`selectors` FROM (`agent_selectors` " ++
      "INNER JOIN `agents` ON (`agent_selectors`.`agent_id` = `agents`.`id`)) WHERE " ++
      "(`agents`.`spiffeid` = ?)"
  | .selectClusters =>
    "SELECT " ++ clusterColumns ++ " FROM `clusters` ORDER BY `clusters`.`name` ASC"
  | .selectMemberships =>
    "SELECT `cluster_memberships`.`cluster_id`, `agents`.`spiffeid` FROM " ++ membersJoin ++ byAgent
  | .selectClusterName =>
    "SELECT `clusters`.`name` FROM " ++ fullJoin ++ " WHERE (`agents`.`spiffeid` = ?)"
  | .selectMembersOf =>
    "SELECT `agents`.`spiffeid` FROM " ++ fullJoin ++ " WHERE (`clusters`.`uid` = ?)" ++ byAgent
  | .selectMetadata count =>
    "SELECT `agents`.`spiffeid`, `agents`.`plugin`, `clusters`.`name` FROM " ++ metadataJoin ++
      (if count = 0 then "" else " WHERE (`agents`.`spiffeid` IN (" ++ copies "?" count ++ "))") ++
      byAgent

/-- The tables of a statement in the order in which they are looked up: the table written to, or
those selected from, and then those of the selections inside. -/
def tables : Statement → List TableName
  | .begin | .commit => []
  | .insertCluster | .updateCluster | .deleteCluster | .selectCluster | .selectClusters =>
    [.clusters]
  | .deleteMembers => [.memberships, .clusters]
  | .insertAgents _ | .upsertAgent _ | .ensureAgent | .selectAgentId | .selectAgents
  | .selectPlugin => [.agents]
  | .insertMemberships _ => [.memberships, .agents, .clusters]
  | .selectClusterMembers | .selectMemberships => [.memberships, .agents]
  | .upsertSelectors => [.selectors]
  | .selectSelectors => [.selectors, .agents]
  | .selectClusterName | .selectMembersOf => [.memberships, .agents, .clusters]
  | .selectMetadata _ => [.agents, .memberships, .clusters]

/-- How many values are bound to the statement, one to each mark in its text. -/
def values : Statement → Nat
  | .begin | .commit | .selectAgents | .selectClusters | .selectMemberships => 0
  | .deleteCluster | .deleteMembers | .selectCluster | .selectClusterMembers | .ensureAgent
  | .selectAgentId | .selectPlugin | .selectSelectors | .selectClusterName | .selectMembersOf => 1
  | .upsertAgent withPlugin => if withPlugin then 2 else 1
  | .upsertSelectors => 3
  | .updateCluster => 5
  | .insertCluster => 6
  | .insertAgents count | .selectMetadata count => count
  | .insertMemberships count => 2 * count

/-- How many values can be bound to one statement. -/
def maxValues : Nat := 32766

/-- The values of the statement can be bound. -/
def Fits (s : Statement) : Prop :=
  s.values ≤ maxValues

instance (s : Statement) : Decidable s.Fits :=
  inferInstanceAs (Decidable (s.values ≤ maxValues))

/-- The failure of a statement that the database refuses. -/
def failure (s : Statement) (refusal : Refusal) : Failure :=
  .statement s.sql (.root refusal.message)

end Statement

/-- Refuses a statement to which too many values are bound, and one of which a table is missing. Of
the statements without a batch or a filter all fit. -/
def Tables.accept (t : Tables) (s : Statement) : Except Refusal Unit :=
  if s.Fits then t.require s.tables else .error .tooManyValues

end Roster.Database
