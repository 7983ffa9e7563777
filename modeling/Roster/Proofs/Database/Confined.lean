import Roster.Database.Transaction

/-!
What single statements do to a connection, and what chains of statements do to it.

Inside of a transaction a statement never touches the stored tables, and it succeeds only if the
transaction is still open afterwards. Both carry over to chains of statements, of which the first
that fails is the last that runs. A statement that reads touches the stored tables nowhere. Whatever
befalls a statement, it opens no transaction.

A database in memory is lost when its connection is given up, which happens where a transaction is
to be rolled back and is not there. In all other cases the end of a transaction leaves the stored
tables alone, unless it commits.
-/

namespace Roster.Database

namespace Connection

theorem tables_of_idle {c : Connection} (idle : c.working = none) : c.tables = c.stored := by
  rw [tables, idle]
  rfl

@[simp] theorem approach_stored (c : Connection) : c.approach.2.stored = c.stored := by
  unfold approach
  split <;> rfl

@[simp] theorem approach_working (c : Connection) : c.approach.2.working = c.working := by
  unfold approach
  split <;> rfl

theorem approach_mishaps (c : Connection) : c.approach.2.mishaps = c.mishaps.tail := by
  unfold approach
  split <;> next stored => rw [stored]; rfl

@[simp] theorem approach_tables (c : Connection) : c.approach.2.tables = c.tables := by
  rw [tables, approach_stored, approach_working, tables]

@[simp] theorem afterRefusal_stored (c : Connection) (refusal : Refusal) :
    (c.afterRefusal refusal).stored = c.stored := by
  unfold afterRefusal
  split <;> rfl

theorem afterRefusal_mishaps (c : Connection) (refusal : Refusal) :
    (c.afterRefusal refusal).mishaps = c.mishaps := by
  unfold afterRefusal
  split <;> rfl

theorem afterRefusal_of_gentle (c : Connection) {refusal : Refusal}
    (gentle : refusal.endsTransaction = false) : c.afterRefusal refusal = c := by
  rw [afterRefusal, gentle]
  rfl

theorem afterRefusal_idle (c : Connection) (refusal : Refusal) (idle : c.working = none) :
    (c.afterRefusal refusal).working = none := by
  unfold afterRefusal
  split
  · rfl
  · exact idle

theorem select_stored {α : Type} (c : Connection) (query : Tables → Except Refusal α) :
    (c.select query).2.stored = c.stored := by
  have stored := c.approach_stored
  unfold select
  split
  next found => rw [found] at stored; rw [afterRefusal_stored]; exact stored
  next found => rw [found] at stored; exact stored

theorem select_working {α : Type} (c : Connection) (query : Tables → Except Refusal α)
    (a : α) (read : (c.select query).1 = .ok a) : (c.select query).2.working = c.working := by
  have working := c.approach_working
  unfold select at read ⊢
  split at read
  next => cases read
  next found => rw [found] at working; exact working

theorem select_idle {α : Type} (c : Connection) (query : Tables → Except Refusal α)
    (idle : c.working = none) : (c.select query).2.working = none := by
  have working := c.approach_working
  unfold select
  split
  next found => rw [found] at working; exact afterRefusal_idle _ _ (working.trans idle)
  next found => rw [found] at working; exact working.trans idle

theorem execute_stored {α : Type} (c : Connection) (change : Tables → Except Refusal (α × Tables))
    (inside : c.working.isSome) : (c.execute change).2.stored = c.stored := by
  have stored := c.approach_stored
  have working := c.approach_working
  unfold execute
  split
  next found => rw [found] at stored; rw [afterRefusal_stored]; exact stored
  next later found =>
    rw [found] at stored working
    split
    · rw [afterRefusal_stored]; exact stored
    · split
      · exact stored
      next outside => rw [← working, outside] at inside; cases inside

theorem execute_inside {α : Type} (c : Connection)
    (change : Tables → Except Refusal (α × Tables)) (inside : c.working.isSome) (a : α)
    (written : (c.execute change).1 = .ok a) : (c.execute change).2.working.isSome := by
  have working := c.approach_working
  unfold execute at written ⊢
  split at written
  next => cases written
  next later found =>
    rw [found] at working
    split at written
    next => cases written
    next value t changed =>
      split at written
      next => rfl
      next outside => rw [← working, outside] at inside; cases inside

theorem begin_stored (c : Connection) : c.begin.2.stored = c.stored := by
  have stored := c.approach_stored
  unfold begin
  split
  next found => rw [found] at stored; exact stored
  next found =>
    rw [found] at stored
    split <;> exact stored

/-- Where no transaction is open, `begin` opens one just if it succeeds. -/
theorem begin_inside (c : Connection) (idle : c.working = none) :
    c.begin.2.working.isSome = c.begin.1.isOk := by
  have working := c.approach_working
  unfold begin
  split
  next found =>
    rw [found] at working
    change Option.isSome _ = false
    rw [working, idle, Option.isSome_none]
  next later found =>
    rw [found] at working
    split
    next nested => rw [working.trans idle] at nested; cases nested
    next => rfl

/-- Wherever a transaction has been begun, one is open. -/
theorem begin_opens (c : Connection) (begun : c.begin.1 = .ok ()) : c.begin.2.working.isSome := by
  unfold begin at begun ⊢
  split at begun
  next => cases begun
  next =>
    split at begun
    next => cases begun
    next => rfl

/-! ### Ends -/

theorem replaced_onFile {c : Connection} (onFile : c.inMemory = false) :
    c.replaced = { c with working := none } := by
  rw [replaced, onFile]
  rfl

theorem replaced_inMemory {c : Connection} (inMemory : c.inMemory = true) :
    c.replaced.stored = .bare := by
  rw [replaced, inMemory]
  rfl

theorem rollback_outside {c : Connection} (idle : c.working = none) :
    c.rollback = (.error (.noTransaction "rollback"), c.replaced) := by
  rw [rollback, idle]

theorem rollback_inside {c : Connection} (inside : c.working.isSome) :
    c.rollback = (.ok (), { c with working := none }) := by
  obtain ⟨t, inside⟩ := Option.isSome_iff_exists.mp inside
  rw [rollback, inside]

/-- A rollback ends outside of any transaction, whether there was one to undo or not. -/
theorem rollback_idle (c : Connection) : c.rollback.2.working = none := by
  unfold rollback
  split <;> rfl

/-- A rollback that finds a transaction leaves the stored tables alone, and on a file every rollback
does. -/
theorem rollback_stored {c : Connection} (safe : c.inMemory = true → c.working.isSome) :
    c.rollback.2.stored = c.stored := by
  cases inside : c.working with
  | some t => rw [rollback_inside (inside ▸ rfl)]
  | none =>
    have onFile : c.inMemory = false := by
      rw [← Bool.not_eq_true]
      intro inMemory
      have found := safe inMemory
      rw [inside] at found
      cases found
    rw [rollback_outside inside, replaced_onFile onFile]

theorem undoCommit_connection (c : Connection) (refusal : Refusal) :
    (c.undoCommit refusal).2 = c.rollback.2 := by
  unfold undoCommit
  split <;> next found => rw [found]

theorem undoCommit_inside {c : Connection} (inside : c.working.isSome) (refusal : Refusal) :
    c.undoCommit refusal = (.error refusal, { c with working := none }) := by
  rw [undoCommit, rollback_inside inside]

theorem undoCommit_refused (c : Connection) (refusal : Refusal) :
    ∃ told, (c.undoCommit refusal).1 = .error told := by
  unfold undoCommit
  split <;> exact ⟨_, rfl⟩

/-- What a commit can do. It is undone, or it stores the tables of the transaction, and it is undone
only for a mishap or for what is in these tables. -/
theorem commit_cases (c : Connection) :
    (∃ refusal, c.commit = c.approach.2.undoCommit refusal ∧
        (c.approach.1 = .ok () → ∀ t, c.working = some t → t.brokenReference = true)) ∨
      ∃ t, c.approach.1 = .ok () ∧ c.working = some t ∧ t.brokenReference = false ∧
        c.commit = (.ok (), { c.approach.2 with stored := t, working := none }) := by
  have working := c.approach_working
  unfold commit
  split
  next refusal later found =>
    rw [found]
    exact .inl ⟨refusal, rfl, nofun⟩
  next later found =>
    rw [found] at working ⊢
    rw [← working]
    split
    next outside =>
      refine .inl ⟨_, rfl, fun _ t inside => ?_⟩
      rw [outside] at inside
      cases inside
    next t inside =>
      split
      next broken =>
        refine .inl ⟨_, rfl, fun _ other same => ?_⟩
        cases inside.symm.trans same
        exact broken
      next unbroken => exact .inr ⟨t, rfl, inside, (Bool.not_eq_true _).mp unbroken, rfl⟩

/-- A commit ends the transaction, even if it fails. -/
theorem commit_idle (c : Connection) : c.commit.2.working = none := by
  rcases c.commit_cases with ⟨refusal, undone, _⟩ | ⟨t, _, _, _, stored⟩
  · rw [undone, undoCommit_connection]
    exact rollback_idle _
  · rw [stored]

/-- A commit of a transaction that is open leaves the stored tables alone if it fails. -/
theorem commit_stored_of_error (c : Connection) (inside : c.working.isSome) (refusal : Refusal)
    (failed : c.commit.1 = .error refusal) : c.commit.2.stored = c.stored := by
  rcases c.commit_cases with ⟨cause, undone, _⟩ | ⟨t, _, _, _, stored⟩
  · have still : c.approach.2.working.isSome := c.approach_working ▸ inside
    rw [undone, undoCommit_inside still]
    exact c.approach_stored
  · rw [stored] at failed
    cases failed

/-! ### What is settled from the beginning -/

/-- The connection at a later time. Mishaps are used up one after the other. -/
structure Precedes (c later : Connection) : Prop where
  foreignKeys : later.foreignKeys = c.foreignKeys
  inMemory : later.inMemory = c.inMemory
  mishaps : later.mishaps <:+ c.mishaps

theorem Precedes.refl (c : Connection) : c.Precedes c :=
  ⟨rfl, rfl, List.suffix_rfl⟩

theorem Precedes.trans {first second third : Connection} (precedes : first.Precedes second)
    (later : second.Precedes third) : first.Precedes third where
  foreignKeys := later.foreignKeys.trans precedes.foreignKeys
  inMemory := later.inMemory.trans precedes.inMemory
  mishaps := later.mishaps.trans precedes.mishaps

theorem precedes_approach (c : Connection) : c.Precedes c.approach.2 := by
  refine ⟨?_, ?_, c.approach_mishaps ▸ List.tail_suffix _⟩ <;>
  · unfold approach
    split <;> rfl

theorem precedes_afterRefusal (c : Connection) (refusal : Refusal) :
    c.Precedes (c.afterRefusal refusal) := by
  unfold afterRefusal
  split
  · exact ⟨rfl, rfl, List.suffix_rfl⟩
  · exact .refl c

theorem precedes_select {α : Type} (c : Connection) (query : Tables → Except Refusal α) :
    c.Precedes (c.select query).2 := by
  have precedes := c.precedes_approach
  unfold select
  split
  next found => rw [found] at precedes; exact precedes.trans (precedes_afterRefusal _ _)
  next found => rw [found] at precedes; exact precedes

theorem precedes_execute {α : Type} (c : Connection)
    (change : Tables → Except Refusal (α × Tables)) : c.Precedes (c.execute change).2 := by
  have precedes := c.precedes_approach
  unfold execute
  split
  next found => rw [found] at precedes; exact precedes.trans (precedes_afterRefusal _ _)
  next found =>
    rw [found] at precedes
    split
    next => exact precedes.trans (precedes_afterRefusal _ _)
    next =>
      split
      next => exact ⟨precedes.foreignKeys, precedes.inMemory, precedes.mishaps⟩
      next => split <;> exact ⟨precedes.foreignKeys, precedes.inMemory, precedes.mishaps⟩

theorem precedes_begin (c : Connection) : c.Precedes c.begin.2 := by
  have precedes := c.precedes_approach
  unfold begin
  split
  next found => rw [found] at precedes; exact precedes
  next found =>
    rw [found] at precedes
    split <;> exact ⟨precedes.foreignKeys, precedes.inMemory, precedes.mishaps⟩

theorem precedes_rollback (c : Connection) : c.Precedes c.rollback.2 := by
  unfold rollback
  split <;> exact ⟨rfl, rfl, List.suffix_rfl⟩

theorem precedes_commit (c : Connection) : c.Precedes c.commit.2 := by
  have precedes := c.precedes_approach
  rcases c.commit_cases with ⟨refusal, undone, _⟩ | ⟨t, _, _, _, stored⟩
  · rw [undone, undoCommit_connection]
    exact precedes.trans (precedes_rollback _)
  · rw [stored]
    exact ⟨precedes.foreignKeys, precedes.inMemory, precedes.mishaps⟩

/-- None of the mishaps to come makes the database roll a transaction back by itself. -/
def Gentle (c : Connection) : Prop :=
  ∀ mishap, some mishap ∈ c.mishaps → mishap.endsTransaction = false

theorem Precedes.gentle {c later : Connection} (precedes : c.Precedes later) (gentle : c.Gentle) :
    later.Gentle :=
  fun mishap toCome => gentle mishap (precedes.mishaps.mem toCome)

theorem Gentle.refused {c : Connection} (gentle : c.Gentle) {refusal : Refusal}
    (refused : c.approach.1 = .error refusal) : refusal.endsTransaction = false := by
  unfold approach at refused
  split at refused
  next => cases refused
  next => cases refused
  next mishap rest found =>
    cases refused
    exact gentle mishap (found ▸ List.mem_cons_self)

theorem select_stays_open {α : Type} {c : Connection} (gentle : c.Gentle)
    (inside : c.working.isSome) (query : Tables → Except Refusal α) :
    (c.select query).2.working.isSome := by
  have working := c.approach_working
  have refused := @gentle.refused
  unfold select
  split
  next refusal later found =>
    rw [found] at working refused
    rw [afterRefusal_of_gentle _ (refused rfl)]
    exact working ▸ inside
  next later found => rw [found] at working; exact working ▸ inside

theorem execute_stays_open {α : Type} {c : Connection} (gentle : c.Gentle)
    (inside : c.working.isSome) {change : Tables → Except Refusal (α × Tables)}
    (spares : ∀ refusal, change c.tables = .error refusal → refusal.endsTransaction = false) :
    (c.execute change).2.working.isSome := by
  have working := c.approach_working
  have tables := c.approach_tables
  have refused := @gentle.refused
  unfold execute
  split
  next refusal later found =>
    rw [found] at working refused
    rw [afterRefusal_of_gentle _ (refused rfl)]
    exact working ▸ inside
  next later found =>
    rw [found] at working tables
    split
    next refusal changed =>
      rw [afterRefusal_of_gentle _ (spares refusal (tables ▸ changed))]
      exact working ▸ inside
    next =>
      split
      next => rfl
      next outside => rw [← working, outside] at inside; cases inside

end Connection

namespace Action

variable {α β : Type}

/-- Inside of a transaction the action leaves the stored tables alone, and where it succeeds the
transaction is still open. -/
structure Confined (action : Action α) : Prop where
  precedes : ∀ c : Connection, c.Precedes (action c).2
  stored : ∀ c : Connection, c.working.isSome → (action c).2.stored = c.stored
  inside : ∀ (c : Connection) (a : α), c.working.isSome → (action c).1 = .ok a →
    (action c).2.working.isSome

theorem confined_done (a : α) : (done a).Confined where
  precedes := .refl
  stored _ _ := rfl
  inside _ _ inside _ := inside

theorem confined_fail (failure : Failure) : (fail failure : Action α).Confined where
  precedes := .refl
  stored _ _ := rfl
  inside _ _ _ succeeded := by cases succeeded

theorem confined_lift (result : Except Failure α) : (lift result).Confined := by
  cases result with
  | error failure => exact confined_fail failure
  | ok a => exact confined_done a

/-- Time does not go back from one action to the next. -/
theorem precedes_bind {first : Action α} {second : α → Action β} {c : Connection}
    (precedes : c.Precedes (first c).2)
    (next : ∀ a (later : Connection), later.Precedes (second a later).2) :
    c.Precedes ((first >>= second) c).2 := by
  change c.Precedes (andThen first second c).2
  unfold andThen
  split
  next found => rw [found] at precedes; exact precedes.trans (next _ _)
  next found => rw [found] at precedes; exact precedes

theorem Confined.bind {first : Action α} {second : α → Action β} (confined : first.Confined)
    (next : ∀ a, (second a).Confined) : (first >>= second).Confined where
  precedes c := precedes_bind (confined.precedes c) fun a => (next a).precedes
  stored c inside := by
    have stored := confined.stored c inside
    have kept := confined.inside c
    change (andThen first second c).2.stored = c.stored
    unfold andThen
    split
    next a later found =>
      rw [found] at stored kept
      exact ((next a).stored later (kept a inside rfl)).trans stored
    next found => rw [found] at stored; exact stored
  inside c b inside succeeded := by
    have kept := confined.inside c
    change (andThen first second c).1 = .ok b at succeeded
    change (andThen first second c).2.working.isSome
    unfold andThen at succeeded ⊢
    split at succeeded
    next a later found =>
      rw [found] at kept
      exact (next a).inside later b (kept a inside rfl) succeeded
    next => cases succeeded

/-- However a refusal is told, a statement that writes is confined to the transaction. -/
theorem confined_of_execute {action : Action α} (tell : Refusal → Failure)
    (change : Bool → Tables → Except Refusal (α × Tables))
    (acts : ∀ c, action c = match c.execute (change c.foreignKeys) with
      | (.ok a, c) => (.ok a, c)
      | (.error refusal, c) => (.error (tell refusal), c)) : action.Confined where
  precedes c := by
    have precedes := c.precedes_execute (change c.foreignKeys)
    rw [acts]
    split <;> next found => rw [found] at precedes; exact precedes
  stored c inside := by
    have stored := c.execute_stored (change c.foreignKeys) inside
    rw [acts]
    split <;> next found => rw [found] at stored; exact stored
  inside c a inside succeeded := by
    have kept := c.execute_inside (change c.foreignKeys) inside
    rw [acts] at succeeded ⊢
    split at succeeded
    next found => rw [found] at kept; exact kept _ rfl
    next => cases succeeded

theorem confined_run (s : Statement) (change : Bool → Tables → Except Refusal (α × Tables)) :
    (run s change).Confined :=
  confined_of_execute s.failure change fun _ => rfl

theorem confined_runUnique (s : Statement) (conflict : Failure)
    (change : Bool → Tables → Except Refusal (α × Tables)) :
    (runUnique s conflict change).Confined :=
  confined_of_execute (fun refusal => if refusal.isDuplicate then conflict else s.failure refusal)
    change fun _ => rfl

theorem precedes_read (s : Statement) (query : Tables → Except Refusal α) (c : Connection) :
    c.Precedes (read s query c).2 := by
  have precedes := c.precedes_select query
  unfold read
  split <;> next found => rw [found] at precedes; exact precedes

theorem confined_read (s : Statement) (query : Tables → Except Refusal α) :
    (read s query).Confined where
  precedes := precedes_read s query
  stored c _ := by
    have stored := c.select_stored query
    unfold read
    split <;> next found => rw [found] at stored; exact stored
  inside c a inside succeeded := by
    have kept := c.select_working query
    unfold read at succeeded ⊢
    split at succeeded
    next found =>
      rw [found] at kept
      rw [kept _ rfl]
      exact inside
    next => cases succeeded

theorem confined_requireRow (count : Nat) : (Transaction.requireRow count).Confined := by
  unfold Transaction.requireRow
  split
  · exact confined_fail _
  · exact confined_done ()

/-- The action changes nothing that is stored, and opens no transaction. -/
structure ReadsOnly (action : Action α) : Prop where
  precedes : ∀ c : Connection, c.Precedes (action c).2
  stored : ∀ c : Connection, (action c).2.stored = c.stored
  idle : ∀ c : Connection, c.working = none → (action c).2.working = none

theorem readsOnly_done (a : α) : (done a).ReadsOnly where
  precedes := .refl
  stored _ := rfl
  idle _ idle := idle

theorem readsOnly_fail (failure : Failure) : (fail failure : Action α).ReadsOnly where
  precedes := .refl
  stored _ := rfl
  idle _ idle := idle

theorem readsOnly_lift (result : Except Failure α) : (lift result).ReadsOnly := by
  cases result with
  | error failure => exact readsOnly_fail failure
  | ok a => exact readsOnly_done a

theorem readsOnly_read (s : Statement) (query : Tables → Except Refusal α) :
    (read s query).ReadsOnly where
  precedes := precedes_read s query
  stored c := by
    have stored := c.select_stored query
    unfold read
    split <;> next found => rw [found] at stored; exact stored
  idle c idle := by
    have kept := c.select_idle query idle
    unfold read
    split <;> next found => rw [found] at kept; exact kept

theorem ReadsOnly.bind {first : Action α} {second : α → Action β} (reads : first.ReadsOnly)
    (next : ∀ a, (second a).ReadsOnly) : (first >>= second).ReadsOnly where
  precedes c := precedes_bind (reads.precedes c) fun a => (next a).precedes
  stored c := by
    have stored := reads.stored c
    change (andThen first second c).2.stored = c.stored
    unfold andThen
    split
    next a later found => rw [found] at stored; exact ((next a).stored later).trans stored
    next found => rw [found] at stored; exact stored
  idle c idle := by
    have kept := reads.idle c idle
    change (andThen first second c).2.working = none
    unfold andThen
    split
    next a later found => rw [found] at kept; exact (next a).idle later kept
    next found => rw [found] at kept; exact kept

end Action

end Roster.Database
