import Roster.Database.Maintenance
import Roster.Proofs.Database.Integrity
import Roster.Proofs.Database.Schema

/-!
What work beside the registry keeps.

Agents are deleted and selectors are overwritten behind the back of the registry, tables are
dropped, triggers are set up, and stores are opened once more on the same file. After any of this,
among any work of callers, nothing is left of a table that is missing. With references enforced the
tables keep their rules too. A table takes the rows that refer to it with it when it is dropped.
-/

namespace Roster.Database

namespace Tables

variable {terms : Terms} {t t' : Tables}

namespace Vacant

theorem without (vacant : t.Vacant) (table : TableName) : (t.without table).Vacant := by
  have before {other : TableName} (missing : other ∈ table :: t.missing)
      (different : other ≠ table) : other ∈ t.missing :=
    (List.mem_cons.mp missing).resolve_left different
  cases table with
  | agents =>
    exact {
      agents := fun _ => ⟨rfl, rfl⟩
      clusters := fun missing => vacant.clusters (before missing nofun)
      memberships := fun missing => vacant.memberships (before missing nofun)
      selectors := fun missing => vacant.selectors (before missing nofun) }
  | clusters =>
    exact {
      agents := fun missing => vacant.agents (before missing nofun)
      clusters := fun _ => ⟨rfl, rfl, rfl⟩
      memberships := fun missing => vacant.memberships (before missing nofun)
      selectors := fun missing => vacant.selectors (before missing nofun) }
  | memberships =>
    exact {
      agents := fun missing => vacant.agents (before missing nofun)
      clusters := fun missing => vacant.clusters (before missing nofun)
      memberships := fun _ => rfl
      selectors := fun missing => vacant.selectors (before missing nofun) }
  | selectors =>
    exact {
      agents := fun missing => vacant.agents (before missing nofun)
      clusters := fun missing => vacant.clusters (before missing nofun)
      memberships := fun missing => vacant.memberships (before missing nofun)
      selectors := fun _ => rfl }

theorem withoutAgent (vacant : t.Vacant) (spiffeid : String) :
    Vacant { t with agents := t.agents.filter (·.spiffeid ≠ spiffeid) } := by
  refine { vacant with agents := fun missing => ?_ }
  obtain ⟨rows, counter⟩ := vacant.agents missing
  exact ⟨by simp [rows], counter⟩

theorem addTrigger (vacant : t.Vacant) {trigger : Trigger}
    (changed : t.addTrigger trigger = .ok t') : t'.Vacant := by
  unfold Tables.addTrigger at changed
  split at changed
  next there =>
    cases changed
    refine { vacant with clusters := fun missing => absurd missing ?_ }
    simpa [has] using there
  next => cases changed

end Vacant

namespace Intact

theorem withoutAgent (intact : t.Intact terms) {spiffeid : String}
    (noMembers : ∀ row ∈ t.memberships, row.agentId ∉
      (t.agents.filter (·.spiffeid = spiffeid)).map (·.id))
    (noEntries : ∀ row ∈ t.selectors, row.agentId ∉
      (t.agents.filter (·.spiffeid = spiffeid)).map (·.id)) :
    Intact terms { t with agents := t.agents.filter (·.spiffeid ≠ spiffeid) } where
  __ := intact
  agentIds := nodup_map_filter intact.agentIds _
  agentsBelow := List.forall_mem_map.mpr fun _ kept =>
    intact.agentsBelow _ (List.mem_map_of_mem (List.mem_of_mem_filter kept))
  spiffeids := nodup_map_filter intact.spiffeids _
  agentTexts := List.forall_mem_map.mpr fun _ kept =>
    intact.agentTexts _ (List.mem_map_of_mem (List.mem_of_mem_filter kept))
  known row member := mem_map_filter_not (intact.known row member) (noMembers row member)
  attestedKnown row member :=
    mem_map_filter_not (intact.attestedKnown row member) (noEntries row member)

theorem cascadeAgents (intact : t.Intact terms) (ids : List Nat) :
    (t.cascadeAgents ids).Intact terms where
  __ := intact
  members := nodup_map_filter intact.members _
  known row member := intact.known row (List.mem_of_mem_filter member)
  placedBelow row member := intact.placedBelow row (List.mem_of_mem_filter member)
  placed enforced row member := intact.placed enforced row (List.mem_of_mem_filter member)
  attested := nodup_map_filter intact.attested _
  attestedKnown row member := intact.attestedKnown row (List.mem_of_mem_filter member)

theorem addTrigger (intact : t.Intact terms) {trigger : Trigger}
    (changed : t.addTrigger trigger = .ok t') : t'.Intact terms := by
  unfold Tables.addTrigger at changed
  split at changed
  next => cases changed; exact { intact with }
  next => cases changed

/-- A table that others refer to is dropped when nothing refers to it any more. -/
theorem withoutAgents (intact : t.Intact terms) (noMembers : ∀ row, row ∉ t.memberships)
    (noEntries : ∀ row, row ∉ t.selectors) : (t.without .agents).Intact terms where
  __ := intact
  agentIds := .nil
  agentsBelow := nofun
  spiffeids := .nil
  agentTexts := nofun
  known row member := absurd member (noMembers row)
  attestedKnown row member := absurd member (noEntries row)

theorem withoutClusters (intact : t.Intact terms) (noMembers : ∀ row, row ∉ t.memberships) :
    (t.without .clusters).Intact terms where
  __ := intact
  clusterIds := .nil
  clustersBelow := nofun
  uids := .nil
  uidTexts := nofun
  names := .nil
  nameTexts := nofun
  placedBelow row member := absurd member (noMembers row)
  placed _ row member := absurd member (noMembers row)

theorem withoutMemberships (intact : t.Intact terms) : (t.without .memberships).Intact terms where
  __ := intact
  members := .nil
  known := nofun
  placedBelow := nofun
  placed _ := nofun

theorem withoutSelectors (intact : t.Intact terms) : (t.without .selectors).Intact terms where
  __ := intact
  attested := .nil
  attestedKnown := nofun

end Intact

/-- Nothing is left of a table that is missing, and tables with enforced references keep their
rules. -/
structure Orderly (foreignKeys : Bool) (t : Tables) : Prop where
  vacant : t.Vacant
  intact : foreignKeys = true → t.Intact (.any true)

theorem unbreakable_orderly (foreignKeys : Bool) :
    Unbreakable (.any foreignKeys) (Orderly foreignKeys) := by
  intro t t' changes orderly
  refine ⟨unbreakable_vacant _ t t' changes orderly.vacant, ?_⟩
  rintro rfl
  exact unbreakable_intact _ t t' changes (orderly.intact rfl)

namespace Orderly

variable {foreignKeys : Bool}

theorem complete (orderly : t.Orderly foreignKeys) :
    Orderly foreignKeys { t with missing := [] } where
  vacant := orderly.vacant.fewer (List.nil_subset _)
  intact enforced := { orderly.intact enforced with }

theorem deleteAgent (orderly : t.Orderly foreignKeys) {spiffeid : String} {count : Nat}
    (changed : t.deleteAgent foreignKeys spiffeid = .ok (count, t')) :
    t'.Orderly foreignKeys := by
  obtain ⟨_, _, rest⟩ := of_bind_eq_ok changed
  obtain ⟨_, _, rest⟩ := of_bind_eq_ok rest
  cases rest
  have vacant := orderly.vacant.withoutAgent spiffeid
  split
  next enforced =>
    refine ⟨vacant.cascadeAgents _, fun _ => ?_⟩
    -- What refers to the agent goes first, so that nothing does when it goes.
    apply ((orderly.intact enforced).cascadeAgents _).withoutAgent
    · intro row member
      exact of_decide_eq_true (List.mem_filter.mp member).2
    · intro row member
      exact of_decide_eq_true (List.mem_filter.mp member).2
  next unenforced => exact ⟨vacant, fun enforced => absurd enforced unenforced⟩

theorem setSelectors (orderly : t.Orderly foreignKeys) {spiffeid selectors : String} {count : Nat}
    (changed : t.setSelectors spiffeid selectors = .ok (count, t')) : t'.Orderly foreignKeys := by
  obtain ⟨_, required, rest⟩ := of_bind_eq_ok changed
  have there : .selectors ∉ t.missing := of_require required List.mem_cons_self
  split at rest
  next => cases rest; exact orderly
  next =>
    cases rest
    exact {
      vacant := { orderly.vacant with selectors := fun missing => absurd missing there }
      intact := fun enforced =>
        (orderly.intact enforced).overwriteSelectors _ fun _ => rfl }

theorem addTrigger (orderly : t.Orderly foreignKeys) {trigger : Trigger}
    (changed : t.addTrigger trigger = .ok t') : t'.Orderly foreignKeys where
  vacant := orderly.vacant.addTrigger changed
  intact enforced := (orderly.intact enforced).addTrigger changed

theorem drop (orderly : t.Orderly foreignKeys) {table : TableName}
    (changed : t.drop foreignKeys table = .ok t') : t'.Orderly foreignKeys := by
  obtain ⟨_, _, rest⟩ := of_bind_eq_ok changed
  cases table with
  | agents =>
    obtain ⟨_, _, rest⟩ := of_bind_eq_ok rest
    cases rest
    split
    next enforced =>
      have intact := orderly.intact enforced
      refine ⟨(orderly.vacant.cascadeAgents _).without .agents, fun _ => ?_⟩
      apply (intact.cascadeAgents _).withoutAgents
      · intro row member
        obtain ⟨before, unknown⟩ := List.mem_filter.mp member
        exact of_decide_eq_true unknown (intact.known row before)
      · intro row member
        obtain ⟨before, unknown⟩ := List.mem_filter.mp member
        exact of_decide_eq_true unknown (intact.attestedKnown row before)
    next unenforced =>
      exact ⟨orderly.vacant.without .agents, fun enforced => absurd enforced unenforced⟩
  | clusters =>
    obtain ⟨_, _, rest⟩ := of_bind_eq_ok rest
    cases rest
    split
    next enforced =>
      have intact := orderly.intact enforced
      refine ⟨(orderly.vacant.cascadeClusters _).without .clusters, fun _ => ?_⟩
      apply (intact.cascadeClusters _).withoutClusters
      intro row member
      obtain ⟨before, unplaced⟩ := List.mem_filter.mp member
      exact of_decide_eq_true unplaced (intact.placed rfl row before)
    next unenforced =>
      exact ⟨orderly.vacant.without .clusters, fun enforced => absurd enforced unenforced⟩
  | memberships =>
    cases rest
    exact ⟨orderly.vacant.without _, fun enforced => (orderly.intact enforced).withoutMemberships⟩
  | selectors =>
    cases rest
    exact ⟨orderly.vacant.without _, fun enforced => (orderly.intact enforced).withoutSelectors⟩

end Orderly

end Tables

/-! ## Connections -/

namespace Connection

variable {c : Connection}

/-- No broken reference is ever stored. -/
theorem execute_unbroken {α : Type} (change : Tables → Except Refusal (α × Tables))
    (unbroken : c.stored.brokenReference = false) :
    (c.execute change).2.stored.brokenReference = false := by
  by_cases idle : c.working = none
  · obtain same | ⟨_, _, later⟩ := execute_outside idle change
    · rw [same]
      exact unbroken
    · exact later
  · rw [execute_stored c change (Option.isSome_iff_ne_none.mpr idle)]
    exact unbroken

theorem rollback_unbroken (unbroken : c.stored.brokenReference = false) :
    c.rollback.2.stored.brokenReference = false := by
  unfold rollback
  split
  next =>
    unfold replaced
    split
    next => rfl
    next => exact unbroken
  next => exact unbroken

theorem commit_unbroken (unbroken : c.stored.brokenReference = false) :
    c.commit.2.stored.brokenReference = false := by
  rcases c.commit_cases with ⟨refusal, undone, _⟩ | ⟨t, _, _, kept, stored⟩
  · rw [undone, undoCommit_connection]
    apply rollback_unbroken
    rw [approach_stored]
    exact unbroken
  · rw [stored]
    exact kept

/-- The database is in a file, the stored tables and those of the open transaction are orderly, and
what is stored has no broken reference. -/
structure Orderly (foreignKeys : Bool) (c : Connection) : Prop extends
    c.Satisfies foreignKeys (Tables.Orderly foreignKeys) where
  onFile : c.inMemory = false
  unbroken : c.stored.brokenReference = false

theorem Orderly.later {foreignKeys : Bool} {later : Connection} (orderly : c.Orderly foreignKeys)
    (precedes : c.Precedes later) (satisfies : later.Satisfies foreignKeys (Tables.Orderly foreignKeys))
    (unbroken : later.stored.brokenReference = false) : later.Orderly foreignKeys :=
  ⟨satisfies, precedes.inMemory.trans orderly.onFile, unbroken⟩

/-- What is in a file is not lost. -/
theorem Orderly.never_lost {foreignKeys : Bool} (orderly : c.Orderly foreignKeys) {P : Prop} :
    c.inMemory = true → c.working = none → P := by
  intro inMemory
  rw [orderly.onFile] at inMemory
  cases inMemory

theorem lasting_orderly (foreignKeys : Bool) :
    Lasting (.any foreignKeys) (Orderly foreignKeys) (Orderly foreignKeys) := by
  have select {α : Type} (c : Connection) (query : Tables → Except Refusal α)
      (orderly : c.Orderly foreignKeys) : (c.select query).2.Orderly foreignKeys :=
    orderly.later (c.precedes_select query) (orderly.toSatisfies.select query)
      (c.select_stored query ▸ orderly.unbroken)
  have begins (c : Connection) (orderly : c.Orderly foreignKeys) :
      c.begin.2.Orderly foreignKeys :=
    orderly.later c.precedes_begin orderly.toSatisfies.begin (c.begin_stored ▸ orderly.unbroken)
  have kept := kept_satisfies (Tables.unbreakable_orderly foreignKeys)
  exact {
    foreignKeys := fun _ orderly => orderly.foreignKeys
    select := select
    reads := select
    execute := fun c change orderly regular =>
      orderly.later (c.precedes_execute change) (kept.execute c change orderly.toSatisfies regular)
        (execute_unbroken change orderly.unbroken)
    begun := fun c orderly _ => begins c orderly
    notBegun := fun c _ orderly _ => begins c orderly
    commit := fun c orderly =>
      orderly.later c.precedes_commit (orderly.toSatisfies.commit orderly.never_lost)
        (commit_unbroken orderly.unbroken)
    rollback := fun c orderly =>
      orderly.later c.precedes_rollback (orderly.toSatisfies.rollback orderly.never_lost)
        (rollback_unbroken orderly.unbroken) }

namespace Orderly

variable {foreignKeys : Bool}

/-- A change beside the registry need not be regular. -/
theorem execute {α : Type} (orderly : c.Orderly foreignKeys)
    {change : Tables → Except Refusal (α × Tables)}
    (kept : ∀ a t, change c.tables = .ok (a, t) → t.Orderly foreignKeys) :
    (c.execute change).2.Orderly foreignKeys :=
  orderly.later (c.precedes_execute change) (orderly.toSatisfies.execute kept)
    (execute_unbroken change orderly.unbroken)

theorem alter (orderly : c.Orderly foreignKeys) {change : Tables → Except Refusal Tables}
    (kept : ∀ t, change c.tables = .ok t → t.Orderly foreignKeys) :
    (c.alter change).2.Orderly foreignKeys := by
  apply orderly.execute
  intro _ t changed
  obtain ⟨made, done, same⟩ := of_map_eq_ok changed
  rw [(Prod.mk.inj same).2]
  exact kept made done

theorem opened_eq (orderly : c.Orderly foreignKeys) (settings : Settings) :
    Store.opened settings c.stored = (.ok (), {
      foreignKeys := settings.foreignKeys
      inMemory := settings.isInMemory
      stored := { c.stored with missing := [] } }) :=
  Store.opened_eq orderly.stored.vacant orderly.unbroken settings

/-- A database in memory is private to its connection. -/
theorem reopen_eq (orderly : c.Orderly foreignKeys) {settings : Settings}
    (onFile : settings.isInMemory = false) :
    c.reopen settings = { c with stored := { c.stored with missing := [] } } := by
  rw [Connection.reopen, onFile, orderly.opened_eq]
  rfl

theorem reopen (orderly : c.Orderly foreignKeys) (settings : Settings) :
    (c.reopen settings).Orderly foreignKeys := by
  cases place : settings.isInMemory with
  | true =>
    rw [Connection.reopen, place]
    exact orderly
  | false =>
    rw [orderly.reopen_eq place]
    exact {
      foreignKeys := orderly.foreignKeys
      stored := orderly.stored.complete
      working := orderly.working
      onFile := orderly.onFile
      unbroken := orderly.unbroken }

end Orderly

end Connection

/-! ## Episodes -/

/-- Work on a database beside the registry. -/
inductive Upkeep where
  | deleteAgent (spiffeid : String)
  | setSelectors (spiffeid selectors : String)
  | drop (table : TableName)
  | addTrigger (trigger : Trigger)
  /-- A store with these settings is opened on the same database, and closed again. -/
  | reopen (settings : Settings)

/-- The connection after the work has been done on it. -/
def Upkeep.after : Upkeep → Connection → Connection
  | .deleteAgent spiffeid, c => (c.execute fun t => t.deleteAgent c.foreignKeys spiffeid).2
  | .setSelectors spiffeid selectors, c =>
    (c.execute fun t => t.setSelectors spiffeid selectors).2
  | .drop table, c => (c.alter fun t => t.drop c.foreignKeys table).2
  | .addTrigger trigger, c => (c.alter fun t => t.addTrigger trigger).2
  | .reopen settings, c => c.reopen settings

/-- What may happen to a database. -/
inductive Episode where
  | call (now : Instant) (work : Work)
  | beside (upkeep : Upkeep)

namespace Episode

def after : Episode → Connection → Connection
  | .call now work, c => work.after now c
  | .beside upkeep, c => upkeep.after c

/-- The connection after all that is given has happened. -/
def afterAll (episodes : List Episode) (c : Connection) : Connection :=
  episodes.foldl (fun c episode => episode.after c) c

variable {foreignKeys : Bool} {c : Connection}

theorem after_orderly (orderly : c.Orderly foreignKeys) (episode : Episode) :
    (episode.after c).Orderly foreignKeys := by
  have same := orderly.foreignKeys
  cases episode with
  | call now work =>
    exact Work.after_keeps (Connection.lasting_orderly foreignKeys) now
      (work.admitted_any foreignKeys) orderly
  | beside upkeep =>
    cases upkeep with
    | deleteAgent spiffeid =>
      apply orderly.execute
      rw [same]
      exact fun _ _ => orderly.tables.deleteAgent
    | setSelectors spiffeid selectors =>
      apply orderly.execute
      exact fun _ _ => orderly.tables.setSelectors
    | drop table =>
      apply orderly.alter
      rw [same]
      exact fun _ => orderly.tables.drop
    | addTrigger trigger =>
      apply orderly.alter
      exact fun _ => orderly.tables.addTrigger
    | reopen settings => exact orderly.reopen settings

theorem afterAll_orderly (orderly : c.Orderly foreignKeys) (episodes : List Episode) :
    (afterAll episodes c).Orderly foreignKeys := by
  induction episodes generalizing c with
  | nil => exact orderly
  | cons episode rest ih => exact ih (after_orderly orderly episode)

theorem after_idle (idle : c.working = none) (episode : Episode) :
    (episode.after c).working = none := by
  cases episode with
  | call now work => exact Work.afterAll_idle [(now, work)] c idle
  | beside upkeep =>
    cases upkeep with
    | deleteAgent | setSelectors => exact Connection.execute_idle c _ idle
    | drop | addTrigger => exact Connection.alter_idle idle _
    | reopen settings =>
      change (c.reopen settings).working = none
      unfold Connection.reopen
      split <;> exact idle

theorem afterAll_idle (idle : c.working = none) (episodes : List Episode) :
    (afterAll episodes c).working = none := by
  induction episodes generalizing c with
  | nil => exact idle
  | cons episode rest ih => exact ih (after_idle idle episode)

end Episode

/-- A new database is orderly. -/
theorem Connection.orderly_new (foreignKeys : Bool) (mishaps : List (Option Mishap)) :
    Connection.Orderly foreignKeys { foreignKeys, mishaps } where
  foreignKeys := rfl
  stored := ⟨⟨nofun, nofun, nofun, nofun⟩, fun _ => .empty _ [] []⟩
  working := nofun
  onFile := rfl
  unbroken := rfl

end Roster.Database
