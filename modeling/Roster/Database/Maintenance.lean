import Roster.Database.Schema

/-!
Work on a database beside the registry: direct changes of rows, dropped tables, triggers, stores
that are opened once more, and views of all that is stored. Each change commits by itself.
-/

namespace Roster.Database

namespace Tables

/-- Deletes the row of an agent. Also gives the number of rows that were deleted, without those
that referred to it. -/
def deleteAgent (t : Tables) (foreignKeys : Bool) (spiffeid : String) :
    Except Refusal (Nat × Tables) := do
  t.require [.agents]
  t.requireParents foreignKeys
  let gone := t.agents.filter (·.spiffeid = spiffeid)
  let kept := { t with agents := t.agents.filter (·.spiffeid ≠ spiffeid) }
  return (gone.length, if foreignKeys then kept.cascadeAgents (gone.map (·.id)) else kept)

/-- Overwrites the stored selectors of an agent. Also gives the number of rows. -/
def setSelectors (t : Tables) (spiffeid selectors : String) : Except Refusal (Nat × Tables) := do
  t.require [.selectors, .agents]
  match t.agentNamed? spiffeid with
  | none => .ok (0, t)
  | some agent =>
    .ok ((t.selectors.filter (·.agentId = agent.id)).length, { t with
      selectors := t.selectors.map fun row =>
        if row.agentId = agent.id then { row with selectors } else row })

/-- Takes a table away, with its rows and all else that belongs to it. -/
def without (t : Tables) (table : TableName) : Tables :=
  { t.emptied table with missing := table :: t.missing }

/-- Drops a table. With references enforced, the rows that refer to its rows are deleted first. -/
def drop (t : Tables) (foreignKeys : Bool) (table : TableName) : Except Refusal Tables := do
  t.require [table]
  match table with
  | .agents => do
    t.requireParents foreignKeys
    let t := if foreignKeys then t.cascadeAgents (t.agents.map (·.id)) else t
    return t.without table
  | .clusters => do
    t.requireParents foreignKeys
    let t := if foreignKeys then t.cascadeClusters (t.clusters.map (·.id)) else t
    return t.without table
  | .memberships | .selectors => return t.without table

def addTrigger (t : Tables) (trigger : Trigger) : Except Refusal Tables :=
  if t.has .clusters then .ok { t with triggers := trigger :: t.triggers }
  else .error (.noSuchParent .clusters)

/-! ## Views -/

/-- The rows of a view, unless one of its tables is missing. -/
def view {α : Type} (t : Tables) (tables : List TableName) (rows : List α) : Option (List α) :=
  if tables.all t.has then some rows else none

def count? (t : Tables) (table : TableName) : Option Nat :=
  if t.has table then
    some <| match table with
      | .agents => t.agents.length
      | .clusters => t.clusters.length
      | .memberships => t.memberships.length
      | .selectors => t.selectors.length
  else none

/-- A missing text comes before every text. -/
def noneFirst : Option String → Option String → Bool
  | none, _ => true
  | some _, none => false
  | some left, some right => decide (left ≤ right)

/-- All that is stored, with names in the places of numbers. -/
structure Dump where
  /-- Identities and plugins, by identity. -/
  agents : Option (List (String × Option String))
  /-- Uids, names and creation times, by name. -/
  clusters : Option (List (String × String × String))
  /-- Identities and uids, by identity and then by uid. -/
  memberships : Option (List (Option String × Option String))
  /-- Identities, plugins and selectors, by identity. -/
  selectors : Option (List (Option String × String × String))

def dump (t : Tables) : Dump where
  agents := t.view [.agents] <|
    (Text.sortOn (·.spiffeid) t.agents).map fun row => (row.spiffeid, row.plugin)
  clusters := t.view [.clusters] <|
    (Text.sortOn (·.name) t.clusters).map fun row => (row.uid, row.name, row.createdAt)
  memberships := t.view [.memberships, .agents, .clusters] <|
    let rows := t.memberships.map fun row =>
      ((t.agent? row.agentId).map (·.spiffeid), (t.cluster? row.clusterId).map (·.uid))
    let byUid := rows.mergeSort fun left right => noneFirst left.2 right.2
    byUid.mergeSort fun left right => noneFirst left.1 right.1
  selectors := t.view [.selectors, .agents] <|
    let rows := t.selectors.map fun row =>
      ((t.agent? row.agentId).map (·.spiffeid), row.plugin, row.selectors)
    rows.mergeSort fun left right => noneFirst left.1 right.1

end Tables

namespace Connection

/-- Opens a store once more on the same database, and closes it again. A database in memory is
private to its connection, so that another one is opened in its place. -/
def reopen (settings : Settings) (c : Connection) : Connection :=
  if settings.isInMemory then c else { c with stored := (Store.opened settings c.stored).2.stored }

end Connection

end Roster.Database
