import Roster.Json.Record

/-!
Settings of a database store, as a configuration file or a caller gives them, and what a connection
makes of them.
-/

namespace Roster

open Json

structure Settings where
  databaseUrl : String := "agentdb.sqlite3"
  maxConnections : UInt32 := 4
  busyTimeoutMs : UInt64 := 5000
  foreignKeys : Bool := true
  deriving DecidableEq

/-- A span of time. -/
structure Span where
  seconds : Nat
  /-- Fewer than a thousand million. -/
  nanos : Nat

/-- The whole milliseconds of a span. -/
def Span.milliseconds (span : Span) : Nat :=
  span.seconds * 1000 + span.nanos / 1000000

namespace Settings

def memoryUrl : String := ":memory:"

def ofUrl (url : String) : Settings := { databaseUrl := url }

/-- A private database in memory. Each connection to it has a database of its own, so there is one
connection. -/
def inMemory : Settings := { databaseUrl := memoryUrl, maxConnections := 1 }

def withMaxConnections (settings : Settings) (count : UInt32) : Settings :=
  { settings with maxConnections := count }

/-- A timeout is cut to whole milliseconds, and to 64 bits. -/
def withBusyTimeout (settings : Settings) (timeout : Span) : Settings :=
  { settings with busyTimeoutMs := UInt64.ofNat (min timeout.milliseconds (UInt64.size - 1)) }

def withForeignKeys (settings : Settings) (enabled : Bool) : Settings :=
  { settings with foreignKeys := enabled }

def isInMemory (settings : Settings) : Bool :=
  settings.databaseUrl = memoryUrl

/-- How many connections to the database are open at most. -/
def poolSize (settings : Settings) : Nat :=
  settings.maxConnections.toNat

/-- The greatest timeout that a database takes, as a signed number of 32 bits. -/
def greatestTimeout : Nat := 2147483647

/-- How many milliseconds a connection waits for a lock. The database takes a number that is too
great as zero. -/
def busyTimeoutInForce (settings : Settings) : Nat :=
  if settings.busyTimeoutMs.toNat ≤ greatestTimeout then settings.busyTimeoutMs.toNat else 0

def fields : Fields [String, UInt32, UInt64, Bool] :=
  let defaults : Settings := {}
  .cons { key := "database_url", codec := Codec.text, default := some defaults.databaseUrl } <|
  .cons { key := "max_connections", codec := (Codec.word 32).wrap .ofBitVec UInt32.toBitVec,
          default := some defaults.maxConnections } <|
  .cons { key := "busy_timeout_ms", codec := (Codec.word 64).wrap .ofBitVec UInt64.toBitVec,
          default := some defaults.busyTimeoutMs } <|
  .cons { key := "foreign_keys", codec := Codec.flag, default := some defaults.foreignKeys } .nil

def codec : Codec Settings :=
  (fields.record "StoreConfig").wrap
    (fun (databaseUrl, maxConnections, busyTimeoutMs, foreignKeys, _) =>
      { databaseUrl, maxConnections, busyTimeoutMs, foreignKeys })
    (fun s => (s.databaseUrl, s.maxConnections, s.busyTimeoutMs, s.foreignKeys, ()))

end Settings

end Roster
