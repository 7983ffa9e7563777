import Mathlib.Data.List.Basic
import Roster.Database.Schema
import Roster.Proofs.Database.Calm
import Roster.Proofs.Database.Ending

/-!
What the schema does to a database that it is applied to.

A table that is missing has no rows, so the tables that are created for it are all that changes. The
definitions commit one by one. If a mishap stops them, some tables are created and others are not,
but nothing is lost, and the next time the rest is created.
-/

namespace Roster.Database

namespace Tables

variable {t t' : Tables}

/-! ## Missing tables -/

/-- Nothing is left of a table that is missing. -/
structure Vacant (t : Tables) : Prop where
  agents : .agents ∈ t.missing → t.agents = [] ∧ t.lastAgentId = 0
  clusters : .clusters ∈ t.missing → t.clusters = [] ∧ t.lastClusterId = 0 ∧ t.triggers = []
  memberships : .memberships ∈ t.missing → t.memberships = []
  selectors : .selectors ∈ t.missing → t.selectors = []

namespace Vacant

theorem emptied_eq (vacant : t.Vacant) {table : TableName} (missing : table ∈ t.missing) :
    t.emptied table = t := by
  cases table with
  | agents =>
    obtain ⟨rows, counter⟩ := vacant.agents missing
    change { t with agents := [], lastAgentId := 0 } = t
    rw [← rows, ← counter]
  | clusters =>
    obtain ⟨rows, counter, triggers⟩ := vacant.clusters missing
    change { t with clusters := [], lastClusterId := 0, triggers := [] } = t
    rw [← rows, ← counter, ← triggers]
  | memberships =>
    change { t with memberships := [] } = t
    rw [← vacant.memberships missing]
  | selectors =>
    change { t with selectors := [] } = t
    rw [← vacant.selectors missing]

/-- Some of the missing tables may be created. -/
theorem fewer (vacant : t.Vacant) {missing : List TableName} (fewer : missing ⊆ t.missing) :
    Vacant { t with missing } where
  agents still := vacant.agents (fewer still)
  clusters still := vacant.clusters (fewer still)
  memberships still := vacant.memberships (fewer still)
  selectors still := vacant.selectors (fewer still)

theorem cascadeAgents (vacant : t.Vacant) (ids : List Nat) : (t.cascadeAgents ids).Vacant where
  __ := vacant
  memberships missing := by simp [Tables.cascadeAgents, vacant.memberships missing]
  selectors missing := by simp [Tables.cascadeAgents, vacant.selectors missing]

theorem cascadeClusters (vacant : t.Vacant) (ids : List Nat) :
    (t.cascadeClusters ids).Vacant where
  __ := vacant
  memberships missing := by simp [Tables.cascadeClusters, vacant.memberships missing]

theorem withoutCluster (vacant : t.Vacant) (uid : String) : (t.withoutCluster uid).Vacant where
  __ := vacant
  clusters missing := by
    obtain ⟨rows, rest⟩ := vacant.clusters missing
    exact ⟨by simp [Tables.withoutCluster, rows], rest⟩

end Vacant

/-- Rows are added only to tables that are there. -/
theorem unbreakable_vacant (terms : Terms) : Unbreakable terms Vacant := by
  intro t t' changes vacant
  cases changes with
  | takeAgentId there | addAgent _ _ _ _ there | setPlugin _ _ there =>
    exact { vacant with agents := fun missing => absurd missing there }
  | addCluster _ _ _ _ _ _ _ there =>
    exact { vacant with clusters := fun missing => absurd missing there }
  | setCluster =>
    refine { vacant with clusters := fun missing => ?_ }
    obtain ⟨rows, rest⟩ := vacant.clusters missing
    exact ⟨by simp [rows], rest⟩
  | removeCluster uid => exact (vacant.withoutCluster uid).cascadeClusters _
  | forgetCluster uid => exact vacant.withoutCluster uid
  | addMembership _ _ _ _ _ there =>
    exact { vacant with memberships := fun missing => absurd missing there }
  | removeMembers => exact vacant.cascadeClusters _
  | addSelectors _ _ _ _ _ there =>
    exact { vacant with selectors := fun missing => absurd missing there }
  | setSelectors =>
    exact { vacant with selectors := fun missing => by simp [vacant.selectors missing] }

/-! ## Definitions -/

/-- Some of the missing tables are created, and nothing else is changed. -/
structure Grows (t t' : Tables) : Prop where
  fewer : t'.missing ⊆ t.missing
  kept : t' = { t with missing := t'.missing }

theorem Grows.refl (t : Tables) : t.Grows t :=
  ⟨List.Subset.refl _, rfl⟩

theorem Grows.brokenReference (grows : t.Grows t') : t'.brokenReference = t.brokenReference := by
  rw [grows.kept]

theorem Grows.trans {last : Tables} (first : t.Grows t') (second : t'.Grows last) :
    t.Grows last where
  fewer := List.Subset.trans second.fewer first.fewer
  kept := by rw [second.kept, first.kept]

theorem create_of_present {table : TableName} (there : table ∉ t.missing) :
    t.create table = t :=
  if_pos (by simpa [has] using there)

theorem create_missing (t : Tables) (table : TableName) :
    (t.create table).missing = t.missing.filter (· ≠ table) := by
  by_cases missing : table ∈ t.missing
  · simp [create, has, missing]
  · rw [create_of_present missing, eq_comm, List.filter_eq_self]
    intro other listed
    exact decide_eq_true fun same => missing (same ▸ listed)

namespace Vacant

theorem grows (vacant : t.Vacant) (grows : t.Grows t') : t'.Vacant := by
  rw [grows.kept]
  exact vacant.fewer grows.fewer

theorem grows_create (vacant : t.Vacant) (table : TableName) : t.Grows (t.create table) := by
  by_cases missing : table ∈ t.missing
  · have created : t.create table = { t with missing := t.missing.filter (· ≠ table) } := by
      simp [create, has, missing, vacant.emptied_eq missing]
    rw [created]
    exact ⟨List.filter_subset_self _, rfl⟩
  · rw [create_of_present missing]
    exact .refl t

theorem grows_define (vacant : t.Vacant) {definition : Definition}
    (defined : t.define definition = .ok t') : t.Grows t' := by
  cases definition with
  | table table =>
    cases defined
    exact vacant.grows_create table
  | index table =>
    simp only [define] at defined
    split at defined
    next => cases defined; exact .refl t
    next => cases defined

end Vacant

theorem Grows.create (grows : t.Grows t') (vacant : t.Vacant) (table : TableName) :
    t.Grows (t'.create table) :=
  grows.trans ((vacant.grows grows).grows_create table)

/-- The definitions are carried out one after the other, and each finds the table that it needs. -/
theorem Vacant.define_all (vacant : t.Vacant) :
    Schema.definitions.foldlM define t = .ok { t with missing := [] } := by
  let agents := t.create .agents
  let clusters := agents.create .clusters
  let memberships := clusters.create .memberships
  let selectors := memberships.create .selectors
  have indexed : memberships.define (.index .memberships) = .ok memberships := by
    simp [define, has, memberships, create_missing]
  have grown : t.Grows selectors :=
    (((vacant.grows_create .agents).create vacant .clusters).create vacant .memberships).create
      vacant .selectors
  have complete : selectors.missing = [] := by
    simp only [selectors, memberships, clusters, agents, create_missing, List.filter_filter]
    rw [List.filter_eq_nil_iff]
    intro table _
    cases table <;> simp
  calc Schema.definitions.foldlM define t
    _ = (memberships.define (.index .memberships) >>= fun t => .ok (t.create .selectors)) := rfl
    _ = .ok selectors := by rw [indexed]; rfl
    _ = .ok { t with missing := [] } := by rw [grown.kept, complete]

end Tables

/-! ## The script -/

namespace Connection

variable {c : Connection}

/-- Outside of a transaction a statement stores what its change makes of the tables, or nothing. It
stores no broken reference. -/
theorem execute_outside {α : Type} (idle : c.working = none)
    (change : Tables → Except Refusal (α × Tables)) :
    (c.execute change).2.stored = c.stored ∨
      ∃ a, change c.stored = .ok (a, (c.execute change).2.stored) ∧
        (c.execute change).2.stored.brokenReference = false := by
  have stored := c.approach_stored
  have tables := c.approach_tables
  rw [tables_of_idle idle] at tables
  unfold execute
  split
  next found =>
    rw [found] at stored
    exact .inl ((afterRefusal_stored _ _).trans stored)
  next later found =>
    rw [found] at stored tables
    change later.tables = c.stored at tables
    rw [tables]
    split
    next => exact .inl ((afterRefusal_stored _ _).trans stored)
    next a t changed =>
      split
      next => exact .inl stored
      next =>
        split
        next => exact .inl stored
        next unbroken => exact .inr ⟨a, changed, by simpa using unbroken⟩

theorem alter_idle (idle : c.working = none) (change : Tables → Except Refusal Tables) :
    (c.alter change).2.working = none :=
  execute_idle c _ idle

theorem alter_outside (idle : c.working = none) (change : Tables → Except Refusal Tables) :
    (c.alter change).2.stored = c.stored ∨ change c.stored = .ok (c.alter change).2.stored := by
  obtain same | ⟨_, changed, _⟩ := execute_outside idle fun t => (change t).map ((), ·)
  · exact .inl same
  · obtain ⟨made, done, same⟩ := of_map_eq_ok changed
    rw [done, (Prod.mk.inj same).2.symm]
    exact .inr rfl

theorem alter_calm (idle : c.working = none) (calm : c.mishaps = [])
    {change : Tables → Except Refusal Tables} {t : Tables} (changed : change c.stored = .ok t)
    (unbroken : t.brokenReference = false) :
    c.alter change = (.ok (), { c with stored := t }) := by
  apply execute_outside_eq calm idle _ unbroken
  rw [changed]
  rfl

/-- Where nothing befalls the definitions, all of them are carried out. -/
theorem define_calm (idle : c.working = none) (calm : c.mishaps = []) (vacant : c.stored.Vacant)
    (unbroken : c.stored.brokenReference = false) {definitions : List Definition} {t : Tables}
    (defined : definitions.foldlM Tables.define c.stored = .ok t) :
    c.define definitions = (.ok (), { c with stored := t }) := by
  induction definitions generalizing c with
  | nil => cases defined; rfl
  | cons definition rest ih =>
    rw [List.foldlM_cons] at defined
    obtain ⟨first, did, later⟩ := of_bind_eq_ok defined
    have grows : c.stored.Grows first := vacant.grows_define did
    have firstUnbroken : first.brokenReference = false := grows.brokenReference.trans unbroken
    rw [define, alter_calm idle calm did firstUnbroken]
    exact ih (c := { c with stored := first }) idle calm (vacant.grows grows) firstUnbroken later

/-- Whatever befalls the definitions, they do no harm. -/
theorem define_grows (idle : c.working = none) (vacant : c.stored.Vacant)
    (definitions : List Definition) : c.stored.Grows (c.define definitions).2.stored := by
  induction definitions generalizing c with
  | nil => exact .refl _
  | cons definition rest ih =>
    have later := alter_idle idle fun t => t.define definition
    have grows : c.stored.Grows (c.alter fun t => t.define definition).2.stored := by
      obtain same | defined := alter_outside idle fun t => t.define definition
      · rw [same]
        exact .refl _
      · exact vacant.grows_define defined
    unfold define
    split
    next found =>
      rw [found] at later grows
      exact grows.trans (ih later (vacant.grows grows))
    next found =>
      rw [found] at grows
      exact grows

end Connection

namespace Store

variable {t : Tables}

/-- A store that is opened finds all tables or creates them. -/
theorem opened_eq (vacant : t.Vacant) (unbroken : t.brokenReference = false)
    (settings : Settings) :
    opened settings t = (.ok (), {
      foreignKeys := settings.foreignKeys
      inMemory := settings.isInMemory
      stored := { t with missing := [] } }) := by
  rw [opened, applySchema, Connection.define_calm rfl rfl vacant unbroken vacant.define_all]

/-- An empty file becomes a new database. -/
theorem opened_new (settings : Settings) :
    opened settings { missing := TableName.all } = (.ok (), .connect settings) :=
  opened_eq ⟨fun _ => ⟨rfl, rfl⟩, fun _ => ⟨rfl, rfl, rfl⟩, fun _ => rfl, fun _ => rfl⟩ rfl settings

theorem applySchema_connection (c : Connection) :
    (applySchema c).2 = (c.define Schema.definitions).2 := by
  unfold applySchema
  split <;> next found => rw [found]

end Store

end Roster.Database
