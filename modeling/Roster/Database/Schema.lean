import Roster.Database.Connection

/-!
The schema of the database, and how a store applies it when it is opened. What is missing is created
and what is there is left alone, so that the schema can be applied every time.
-/

namespace Roster.Database

/-- A definition of the schema, which does nothing if there is something of its name already. -/
inductive Definition where
  | table (table : TableName)
  /-- An index of the rows of a table, which changes nothing that a statement finds. -/
  | index (table : TableName)

namespace Schema

/-- The definitions in the order of the script. -/
def definitions : List Definition :=
  [.table .agents, .table .clusters, .table .memberships, .index .memberships, .table .selectors]

/-- The script as it is sent to the database. -/
def sql : String :=
  String.intercalate "\n" [
    "-- Agent and cluster metadata tables.",
    "-- Statements are idempotent so the schema can be applied every time a store opens.",
    "",
    "CREATE TABLE IF NOT EXISTS agents (",
    "    id INTEGER PRIMARY KEY AUTOINCREMENT NOT NULL,",
    "    spiffeid TEXT NOT NULL,",
    "    plugin TEXT,",
    "    CONSTRAINT agents_spiffeid_unique UNIQUE (spiffeid)",
    ");",
    "",
    "CREATE TABLE IF NOT EXISTS clusters (",
    "    id INTEGER PRIMARY KEY AUTOINCREMENT NOT NULL,",
    "    uid TEXT NOT NULL,",
    "    name TEXT NOT NULL,",
    "    created_at TEXT NOT NULL,",
    "    domain_name TEXT NOT NULL,",
    "    managed_by TEXT NOT NULL,",
    "    platform_type TEXT NOT NULL,",
    "    CONSTRAINT clusters_uid_unique UNIQUE (uid),",
    "    CONSTRAINT clusters_name_unique UNIQUE (name)",
    ");",
    "",
    "-- An agent belongs to at most one cluster.",
    "CREATE TABLE IF NOT EXISTS cluster_memberships (",
    "    id INTEGER PRIMARY KEY AUTOINCREMENT NOT NULL,",
    "    agent_id INTEGER NOT NULL REFERENCES agents (id) ON DELETE CASCADE,",
    "    cluster_id INTEGER NOT NULL REFERENCES clusters (id) ON DELETE CASCADE,",
    "    CONSTRAINT cluster_memberships_agent_unique UNIQUE (agent_id)",
    ");",
    "",
    "CREATE INDEX IF NOT EXISTS idx_cluster_memberships_cluster",
    "    ON cluster_memberships (cluster_id);",
    "",
    "CREATE TABLE IF NOT EXISTS agent_selectors (",
    "    id INTEGER PRIMARY KEY AUTOINCREMENT NOT NULL,",
    "    agent_id INTEGER NOT NULL REFERENCES agents (id) ON DELETE CASCADE,",
    "    plugin TEXT NOT NULL,",
    "    selectors TEXT NOT NULL,",
    "    CONSTRAINT agent_selectors_agent_unique UNIQUE (agent_id)",
    ");",
    ""]

end Schema

namespace Tables

/-- The tables without the rows of one of them, and without all else that belongs to it. -/
def emptied (t : Tables) : TableName → Tables
  | .agents => { t with agents := [], lastAgentId := 0 }
  | .clusters => { t with clusters := [], lastClusterId := 0, triggers := [] }
  | .memberships => { t with memberships := [] }
  | .selectors => { t with selectors := [] }

/-- Creates a table without rows, unless it is there. -/
def create (t : Tables) (table : TableName) : Tables :=
  if t.has table then t
  else { t.emptied table with missing := t.missing.filter (· ≠ table) }

/-- An index needs its table. -/
def define (t : Tables) : Definition → Except Refusal Tables
  | .table table => .ok (t.create table)
  | .index table => if t.has table then .ok t else .error (.noSuchParent table)

end Tables

namespace Connection

/-- Runs a change that gives nothing but tables. -/
def alter (c : Connection) (change : Tables → Except Refusal Tables) :
    Except Refusal Unit × Connection :=
  c.execute fun t => (change t).map ((), ·)

/-- Runs definitions one after the other, up to the first that is refused. Each of them commits by
itself. -/
def define (c : Connection) : List Definition → Except Refusal Unit × Connection
  | [] => (.ok (), c)
  | definition :: rest =>
    match c.alter fun t => t.define definition with
    | (.ok (), c) => c.define rest
    | (.error refusal, c) => (.error refusal, c)

end Connection

namespace Store

/-- A refusal is told with the whole script. -/
def applySchema : Action Unit := fun c =>
  match c.define Schema.definitions with
  | (.ok (), c) => (.ok (), c)
  | (.error refusal, c) => (.error (.statement Schema.sql (.root refusal.message)), c)

/-- Opens a store on the given tables by a connection of its own. -/
def opened (settings : Settings) (stored : Tables) : Except Failure Unit × Connection :=
  applySchema { foreignKeys := settings.foreignKeys, inMemory := settings.isInMemory, stored }

end Store

end Roster.Database
