import Roster.Database.Change
import Roster.Database.Query
import Roster.Settings

/-!
A connection to a database, with at most one transaction open on it. While a transaction is open,
statements work on tables of its own, which take the place of the stored ones upon commit.

Any statement may fail for a reason that lies outside of the database. A connection carries the list
of these mishaps, so that whatever holds for every connection holds whenever they happen.
-/

namespace Roster.Database

/-- What goes wrong around the database while it works on a statement. -/
structure Mishap where
  text : String
  /-- Whether the database rolls the transaction back because of it. -/
  endsTransaction : Bool
  deriving DecidableEq

structure Connection where
  /-- Whether references are enforced. -/
  foreignKeys : Bool
  /-- Whether the database is private to the connection, and gone with it. -/
  inMemory : Bool := false
  stored : Tables := {}
  /-- The tables as the open transaction has them. -/
  working : Option Tables := none
  /-- What befalls the statements to come, one after the other. Nothing befalls those after them. -/
  mishaps : List (Option Mishap) := []
  deriving DecidableEq

namespace Connection

/-- The connection to a new database. -/
def connect (settings : Settings) : Connection :=
  { foreignKeys := settings.foreignKeys, inMemory := settings.isInMemory }

/-- The tables as a statement finds them. -/
def tables (c : Connection) : Tables :=
  c.working.getD c.stored

/-- Lets a statement be worked on, unless a mishap befalls it. -/
def approach (c : Connection) : Except Refusal Unit × Connection :=
  match c.mishaps with
  | [] => (.ok (), c)
  | none :: rest => (.ok (), { c with mishaps := rest })
  | some mishap :: rest =>
    (.error (.mishap mishap.text mishap.endsTransaction), { c with mishaps := rest })

/-- The connection after a statement that was refused. -/
def afterRefusal (c : Connection) (refusal : Refusal) : Connection :=
  if refusal.endsTransaction then { c with working := none } else c

/-- Runs a statement that reads. -/
def select {α : Type} (c : Connection) (query : Tables → Except Refusal α) :
    Except Refusal α × Connection :=
  match c.approach with
  | (.error refusal, c) => (.error refusal, c.afterRefusal refusal)
  | (.ok (), c) => (query c.tables, c)

/-- Runs a statement that writes. Outside of a transaction it commits by itself. -/
def execute {α : Type} (c : Connection) (change : Tables → Except Refusal (α × Tables)) :
    Except Refusal α × Connection :=
  match c.approach with
  | (.error refusal, c) => (.error refusal, c.afterRefusal refusal)
  | (.ok (), c) =>
    match change c.tables with
    | .error refusal => (.error refusal, c.afterRefusal refusal)
    | .ok (a, t) =>
      match c.working with
      | some _ => (.ok a, { c with working := some t })
      | none =>
        if t.brokenReference then (.error .brokenReference, c)
        else (.ok a, { c with stored := t })

def begin (c : Connection) : Except Refusal Unit × Connection :=
  match c.approach with
  | (.error refusal, c) => (.error refusal, c)
  | (.ok (), c) =>
    match c.working with
    | some _ => (.error .nestedTransaction, c)
    | none => (.ok (), { c with working := some c.stored })

/-- The connection that takes the place of this one when it is given up. A database in a file is
there as it was stored. One in memory is lost, and the new one has no tables. -/
def replaced (c : Connection) : Connection :=
  { c with stored := if c.inMemory then .bare else c.stored, working := none }

/-- A rollback is stopped by nothing but the lack of a transaction. A connection on which it fails is
no longer trusted and given up. -/
def rollback (c : Connection) : Except Refusal Unit × Connection :=
  match c.working with
  | none => (.error (.noTransaction "rollback"), c.replaced)
  | some _ => (.ok (), { c with working := none })

/-- Rolls back because a commit was refused. -/
def undoCommit (c : Connection) (refusal : Refusal) : Except Refusal Unit × Connection :=
  match c.rollback with
  | (.ok (), c) => (.error refusal, c)
  | (.error cause, c) => (.error (.notUndone refusal cause), c)

/-- A commit that fails undoes the transaction. Whatever befalls a commit is taken to leave the
transaction open until then: that the database rolls it back by itself upon its commit, so that it
cannot be undone any more, is left out. -/
def commit (c : Connection) : Except Refusal Unit × Connection :=
  match c.approach with
  | (.error refusal, c) => c.undoCommit refusal
  | (.ok (), c) =>
    match c.working with
    | none => c.undoCommit (.noTransaction "commit")
    | some t =>
      if t.brokenReference then c.undoCommit .brokenReference
      else (.ok (), { c with stored := t, working := none })

end Connection

/-- Something done with a connection, which may fail. -/
def Action (α : Type) := Connection → Except Failure α × Connection

namespace Action

def done {α : Type} (a : α) : Action α := fun c => (.ok a, c)

def fail {α : Type} (failure : Failure) : Action α := fun c => (.error failure, c)

/-- Does the second action with the result of the first one, if that succeeds. -/
def andThen {α β : Type} (first : Action α) (second : α → Action β) : Action β := fun c =>
  match first c with
  | (.ok a, c) => second a c
  | (.error failure, c) => (.error failure, c)

instance : Monad Action where
  pure := done
  bind := andThen

/-- A computation that may fail and leaves the connection alone. -/
def lift {α : Type} : Except Failure α → Action α
  | .ok a => done a
  | .error failure => fail failure

/-- Runs a statement that writes. -/
def run {α : Type} (s : Statement) (change : Bool → Tables → Except Refusal (α × Tables)) :
    Action α := fun c =>
  match c.execute (change c.foreignKeys) with
  | (.ok a, c) => (.ok a, c)
  | (.error refusal, c) => (.error (s.failure refusal), c)

/-- Runs a statement that writes. If it breaks a rule that no two rows share a value, the failure
is the given conflict instead. -/
def runUnique {α : Type} (s : Statement) (conflict : Failure)
    (change : Bool → Tables → Except Refusal (α × Tables)) : Action α := fun c =>
  match c.execute (change c.foreignKeys) with
  | (.ok a, c) => (.ok a, c)
  | (.error refusal, c) =>
    (.error (if refusal.isDuplicate then conflict else s.failure refusal), c)

/-- Runs a statement that reads. -/
def read {α : Type} (s : Statement) (query : Tables → Except Refusal α) : Action α := fun c =>
  match c.select query with
  | (.ok a, c) => (.ok a, c)
  | (.error refusal, c) => (.error (s.failure refusal), c)

end Action

end Roster.Database
