import Mathlib.Data.List.Induction
import Roster.Proofs.Payload.Rows

/-!
How many connections a store in memory has.

Each connection to a database in memory has a database of its own, so that operations see the same
data only if there is one connection. Where settings come from decides whether the database is in
memory, and whoever speaks last of the connections decides how many there are.
-/

namespace Roster.Settings

open Json

/-! ## Changing settings -/

/-- A change of settings that were made before. -/
inductive Setter where
  | maxConnections (count : UInt32)
  | busyTimeout (timeout : Span)
  | foreignKeys (enabled : Bool)

def Setter.apply (settings : Settings) : Setter → Settings
  | .maxConnections count => settings.withMaxConnections count
  | .busyTimeout timeout => settings.withBusyTimeout timeout
  | .foreignKeys enabled => settings.withForeignKeys enabled

/-- The settings after the changes, one after the other. -/
def adjusted (setters : List Setter) (settings : Settings) : Settings :=
  setters.foldl Setter.apply settings

def Setter.count? : Setter → Option UInt32
  | .maxConnections count => some count
  | .busyTimeout _ | .foreignKeys _ => none

/-- The number of connections that was asked for last. -/
def lastCount? (setters : List Setter) : Option UInt32 :=
  setters.reverse.findSome? Setter.count?

theorem lastCount?_append_singleton (earlier : List Setter) (setter : Setter) :
    lastCount? (earlier ++ [setter]) = setter.count?.or (lastCount? earlier) := by
  rw [lastCount?, List.reverse_append, List.reverse_singleton, List.singleton_append,
    List.findSome?_cons]
  cases setter.count? <;> rfl

theorem databaseUrl_adjusted (setters : List Setter) (settings : Settings) :
    (adjusted setters settings).databaseUrl = settings.databaseUrl := by
  induction setters generalizing settings with
  | nil => rfl
  | cons setter rest ih =>
    change (adjusted rest (setter.apply settings)).databaseUrl = _
    rw [ih]
    cases setter <;> rfl

theorem maxConnections_apply (settings : Settings) (setter : Setter) :
    (setter.apply settings).maxConnections = setter.count?.getD settings.maxConnections := by
  cases setter <;> rfl

theorem maxConnections_adjusted (setters : List Setter) (settings : Settings) :
    (adjusted setters settings).maxConnections =
      (lastCount? setters).getD settings.maxConnections := by
  induction setters using List.reverseRecOn with
  | nil => rfl
  | append_singleton earlier setter ih =>
    rw [adjusted, List.foldl_append, lastCount?_append_singleton]
    change (setter.apply (adjusted earlier settings)).maxConnections = _
    rw [maxConnections_apply, ih]
    cases setter.count? <;> rfl

/-! ## Where settings come from -/

inductive Origin where
  | standard
  | ofUrl (url : String)
  | inMemory
  /-- A configuration file. -/
  | text (document : String)

def Origin.settings : Origin → Except DecodeError Settings
  | .standard => .ok {}
  | .ofUrl url => .ok (Settings.ofUrl url)
  | .inMemory => .ok Settings.inMemory
  | .text document => codec.decode document

/-- What the first of the values stands for. -/
def given? {α : Type} (codec : Codec α) (values : List Spelling) : Option α :=
  values.head?.bind fun v => (codec.decode v.written).toOption

/-- Which url and which number of connections the origin of settings gives, if any. -/
inductive Origin.Gives : Origin → Option String → Option UInt32 → Prop where
  | standard : Gives .standard none none
  | ofUrl (url : String) : Gives (.ofUrl url) (some url) none
  | inMemory : Gives .inMemory (some memoryUrl) (some 1)
  | object (o : Object) : Gives (.text o.document)
      (given? Codec.text (o.said "database_url")) (given? countCodec (o.said "max_connections"))
  | row (row : Row) : Gives (.text row.document)
      (given? Codec.text (row.values.take 1))
      (given? countCodec ((row.values.drop 1).take 1))

theorem eq_given {α : Type} {codec : Codec α} {values : List Spelling} {standard a : α}
    (read : ∀ v ∈ values, codec.decode v.written = .ok a)
    (missing : values = [] → some standard = some a) : a = (given? codec values).getD standard := by
  cases values with
  | nil => exact (Option.some.inj (missing rfl)).symm
  | cons v rest =>
    rw [given?, List.head?_cons, Option.bind_some, read v List.mem_cons_self]
    rfl

theorem told_url (values : List Spelling) : told columns values "database_url" = values.take 1 := by
  cases values with
  | nil => rfl
  | cons v rest => exact told_cons_self (by decide)

theorem told_count (values : List Spelling) :
    told columns values "max_connections" = (values.drop 1).take 1 := by
  match values with
  | [] => rfl
  | [v] => rfl
  | v :: w :: rest =>
    change told (.plain "database_url" false :: .plain "max_connections" false :: _) _ _ = _
    rw [told_cons_of_ne (by decide)]
    exact told_cons_self (by decide)

/-- A row is read as an object that says its values. -/
theorem exists_object {row : Row} {settings : Settings}
    (decoded : codec.decode row.document = .ok settings) :
    ∃ o : Object, codec.decode o.document = .ok settings ∧
      ∀ key, (o.said key).Perm (told columns row.values key) := by
  have reads : codec.ReadsRows parts columns :=
    Fields.readsRows fits lawful_fields.isLocal (by decide) "StoreConfig"
  have within : row.values.length ≤ columns.length :=
    ((reads.accepts row).mp ⟨settings, decoded⟩).1
  obtain ⟨o, holds⟩ := reads.possible row within
  have same := reads.agrees row o holds
  rw [decoded] at same
  exact ⟨o, toOption_eq_some.mp same.symm, holds.said_perm⟩

/-- The url and the number of connections by what is said of them, in any order. -/
theorem of_object {o : Object} {settings : Settings} {urls counts : List Spelling}
    (decoded : codec.decode o.document = .ok settings)
    (urlSaid : (o.said "database_url").Perm urls)
    (countSaid : (o.said "max_connections").Perm counts) :
    settings.databaseUrl = (given? Codec.text urls).getD ({} : Settings).databaseUrl ∧
      settings.maxConnections =
        (given? countCodec counts).getD ({} : Settings).maxConnections := by
  have url := readsObjects.reads o settings decoded _ List.mem_cons_self
  have count := readsObjects.reads o settings decoded _
    (List.mem_cons_of_mem _ List.mem_cons_self)
  constructor
  · refine eq_given (fun v member => url.1 v (urlSaid.mem_iff.mpr member)) fun missing => ?_
    rw [missing] at urlSaid
    exact url.2 urlSaid.eq_nil
  · refine eq_given (fun v member => count.1 v (countSaid.mem_iff.mpr member)) fun missing => ?_
    rw [missing] at countSaid
    exact count.2 countSaid.eq_nil

theorem Origin.Gives.settings {origin : Origin} {url : Option String} {count : Option UInt32}
    {settings : Settings} (gives : origin.Gives url count)
    (obtained : origin.settings = .ok settings) :
    settings.databaseUrl = url.getD ({} : Settings).databaseUrl ∧
      settings.maxConnections = count.getD ({} : Settings).maxConnections := by
  cases gives with
  | standard => cases obtained; exact ⟨rfl, rfl⟩
  | ofUrl url => cases obtained; exact ⟨rfl, rfl⟩
  | inMemory => cases obtained; exact ⟨rfl, rfl⟩
  | object o => exact of_object obtained (.refl _) (.refl _)
  | row row =>
    obtain ⟨o, decoded, said⟩ := exists_object obtained
    have urlSaid := said "database_url"
    have countSaid := said "max_connections"
    rw [told_url] at urlSaid
    rw [told_count] at countSaid
    exact of_object decoded urlSaid countSaid

/-! ## The connections -/

/-- How many connections there are with settings of an origin that were changed afterwards, and
whether they are to a database in memory. -/
structure Pools (origin : Origin) (setters : List Setter) (settings : Settings) : Prop where
  /-- Changes leave the database where it is. -/
  place : (adjusted setters settings).isInMemory = settings.isInMemory
  size : (adjusted setters settings).poolSize =
    ((lastCount? setters).getD settings.maxConnections).toNat
  inMemory : ∀ url count, origin.Gives url count →
    ((adjusted setters settings).isInMemory = true ↔ url = some memoryUrl)
  /-- There is one connection at most just if that was asked for, and nothing else was asked for
  later. The url does not matter. -/
  single : ∀ url count, origin.Gives url count →
    ((adjusted setters settings).poolSize ≤ 1 ↔
      ∃ asked, (lastCount? setters).or count = some asked ∧ asked.toNat ≤ 1)

theorem pools_as_asked {origin : Origin} {settings : Settings}
    (obtained : origin.settings = .ok settings) (setters : List Setter) :
    Pools origin setters settings where
  place := by rw [isInMemory, databaseUrl_adjusted, isInMemory]
  size := by rw [poolSize, maxConnections_adjusted]
  inMemory url count gives := by
    rw [isInMemory, databaseUrl_adjusted, (gives.settings obtained).1, decide_eq_true_eq]
    cases url with
    | none => exact iff_of_false (by decide) nofun
    | some url => exact Option.some_inj.symm
  single url count gives := by
    rw [poolSize, maxConnections_adjusted, (gives.settings obtained).2]
    cases lastCount? setters with
    | some asked => simp
    | none =>
      cases count with
      | some asked => simp
      | none => exact iff_of_false (by decide) (by simp)

/-- A database in memory that was asked for by its url, with one connection that was asked for by
itself. -/
theorem single_connection_asked_for :
    let setters : List Setter := [.foreignKeys false, .maxConnections 1]
    (Origin.ofUrl memoryUrl).settings = .ok (ofUrl memoryUrl) ∧
      Pools (.ofUrl memoryUrl) setters (ofUrl memoryUrl) ∧
      (adjusted setters (ofUrl memoryUrl)).isInMemory = true ∧
      (adjusted setters (ofUrl memoryUrl)).poolSize ≤ 1 := by
  intro setters
  have obtained : (Origin.ofUrl memoryUrl).settings = .ok (ofUrl memoryUrl) := rfl
  have pools := pools_as_asked obtained setters
  have inMemory := (pools.inMemory _ _ (.ofUrl memoryUrl)).mpr rfl
  have single := (pools.single _ _ (.ofUrl memoryUrl)).mpr ⟨1, rfl, by decide⟩
  exact ⟨obtained, pools, inMemory, single⟩

/-- The url of a database in memory does not make for a single connection, and the single connection
of the settings for such a database can be changed to several. -/
theorem memory_urls_pooled :
    (Origin.ofUrl memoryUrl).settings = .ok (ofUrl memoryUrl) ∧
      (ofUrl memoryUrl).isInMemory = true ∧ ¬(ofUrl memoryUrl).poolSize ≤ 1 ∧
      Origin.inMemory.settings = .ok inMemory ∧
      (adjusted [.maxConnections 4] inMemory).isInMemory = true ∧
      ¬(adjusted [.maxConnections 4] inMemory).poolSize ≤ 1 :=
  ⟨rfl, by decide, by decide, rfl, by decide, by decide⟩

end Roster.Settings
