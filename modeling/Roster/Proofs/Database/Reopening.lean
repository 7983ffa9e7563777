import Roster.Proofs.Database.Upkeep

/-!
Stores that are opened on a database that is in use.

Whatever has happened to a database, a store can be opened on it. The tables that were dropped are
there again without rows, and nothing else is changed, so that it makes no difference to open
another store. As long as no table is missing, callers cannot tell whether one has been opened in
between.
-/

namespace Roster.Database

/-! ## What callers are told -/

/-- What callers are told of their work. -/
inductive Told where
  | answer (outcome : Except Failure Answer)
  | report (outcome : Except Failure Session.Report)

namespace Work

def told (now : Instant) : Work → Connection → Told
  | .perform operation, c => .answer (Registry.perform now operation c).1
  | .session steps ending, c => .report (Session.run now steps ending c).1

/-- What callers are told of the given works, one after the other. -/
def toldAll : List (Instant × Work) → Connection → List Told
  | [], _ => []
  | work :: rest, c => work.2.told work.1 c :: toldAll rest (work.2.after work.1 c)

variable (earlier later : List (Instant × Work)) (c : Connection)

theorem afterAll_append : afterAll (earlier ++ later) c = afterAll later (afterAll earlier c) :=
  List.foldl_append

theorem toldAll_append :
    toldAll (earlier ++ later) c = toldAll earlier c ++ toldAll later (afterAll earlier c) := by
  induction earlier generalizing c with
  | nil => rfl
  | cons work rest ih => exact congrArg (work.2.told work.1 c :: ·) (ih (work.2.after work.1 c))

end Work

/-! ## What a store makes of a database -/

/-- All tables are there, those that were missing are empty, and all else is as it was. -/
structure Tables.Completed (t t' : Tables) : Prop where
  present : ∀ table, t'.has table
  kept : { t' with missing := t.missing } = t
  empty : ∀ table ∈ t.missing, t'.count? table = some 0

theorem Tables.Vacant.completed {t : Tables} (vacant : t.Vacant) :
    t.Completed { t with missing := [] } where
  present table := rfl
  kept := rfl
  empty table missing := by
    cases table with
    | agents => simp [count?, has, (vacant.agents missing).1]
    | clusters => simp [count?, has, (vacant.clusters missing).1]
    | memberships => simp [count?, has, vacant.memberships missing]
    | selectors => simp [count?, has, vacant.selectors missing]

/-- The work of callers drops no table. -/
theorem Work.afterAll_complete {c : Connection} (onFile : c.inMemory = false)
    (idle : c.working = none) (complete : c.stored.missing = []) (works : List (Instant × Work)) :
    (afterAll works c).stored.missing = [] := by
  have endures : c.Endures (Terms.any c.foreignKeys).foreignKeys fun t => t.missing = [] :=
    ⟨.of_idle idle complete, .of_onFile onFile⟩
  exact (afterAll_endures (Tables.unbreakable_complete _) (fun work _ => work.2.admitted_any _)
    endures).stored

theorem Connection.Orderly.reopen_complete {foreignKeys : Bool} {c : Connection}
    (orderly : c.Orderly foreignKeys) (complete : c.stored.missing = []) (settings : Settings) :
    c.reopen settings = c := by
  cases place : settings.isInMemory with
  | true => rw [Connection.reopen, if_pos place]
  | false => rw [orderly.reopen_eq place, ← complete]

/-- Whatever callers and others have done to a database, and whatever mishaps befell them, a store
can be opened on its file. All tables are there afterwards. The rows of those that were there are
kept, and those that had been dropped are empty. With references enforced the tables keep their
rules from then on, whatever follows. To open yet another store changes nothing. If no table was
missing, callers are told the same, and the same comes to be stored, when a store is opened between
any of their works. -/
theorem reopening_lossless (foreignKeys : Bool) (mishaps : List (Option Mishap))
    (episodes : List Episode) (settings : Settings) (onFile : settings.isInMemory = false) :
    let c := Episode.afterAll episodes { foreignKeys, mishaps }
    let reopened := c.reopen settings
    (Store.opened settings c.stored).1 = .ok () ∧
      c.stored.Completed reopened.stored ∧
      (foreignKeys = true → ∀ following, (Episode.afterAll following reopened).stored.KeepsRules) ∧
      (∀ again, reopened.reopen again = reopened) ∧
      (c.stored.missing = [] → ∀ earlier later,
        let interrupted := (Work.afterAll earlier c).reopen settings
        Work.toldAll (earlier ++ later) c =
            Work.toldAll earlier c ++ Work.toldAll later interrupted ∧
          Work.afterAll (earlier ++ later) c = Work.afterAll later interrupted) := by
  intro c reopened
  have orderly : c.Orderly foreignKeys :=
    Episode.afterAll_orderly (Connection.orderly_new foreignKeys mishaps) episodes
  have idle : c.working = none := Episode.afterAll_idle rfl episodes
  have stored : reopened.stored = { c.stored with missing := [] } :=
    congrArg Connection.stored (orderly.reopen_eq onFile)
  have orderlyStill : reopened.Orderly foreignKeys := orderly.reopen settings
  refine ⟨?_, ?_, ?_, ?_, ?_⟩
  · rw [orderly.opened_eq]
  · rw [stored]
    exact orderly.stored.vacant.completed
  · intro enforced following
    have orderlyLater := Episode.afterAll_orderly orderlyStill following
    exact (orderlyLater.stored.intact enforced).keepsRules rfl
  · exact orderlyStill.reopen_complete (congrArg Tables.missing stored)
  · intro complete earlier later interrupted
    have inBetween : (Work.afterAll earlier c).Orderly foreignKeys :=
      Work.afterAll_keeps (Connection.lasting_orderly foreignKeys)
        (fun work _ => work.2.admitted_any foreignKeys) orderly
    have same : interrupted = Work.afterAll earlier c :=
      inBetween.reopen_complete (Work.afterAll_complete orderly.onFile idle complete earlier) settings
    rw [same]
    exact ⟨Work.toldAll_append earlier later c, Work.afterAll_append earlier later c⟩

/-- The memberships are dropped, and the table is there again without rows. Before that, a store
that is opened between two operations is not noticed. -/
theorem dropped_memberships_reopened :
    let cluster : Cluster := { uid := ⟨"u"⟩, name := ⟨"n"⟩ }
    let filled : Episode :=
      .call .epoch (.session [.insertCluster cluster, .addMembers ⟨"u"⟩ [⟨"a"⟩]] .commit)
    let before := Episode.afterAll [filled] { foreignKeys := true }
    let after := Episode.afterAll [filled, .beside (.drop .memberships)] { foreignKeys := true }
    let reopened := after.reopen {}
    let listed : Instant × Work := (.epoch, .perform (.membersOf ⟨"u"⟩))
    let deleted : Instant × Work := (.epoch, .perform (.deleteCluster ⟨"u"⟩))
    Settings.isInMemory {} = false ∧ before.stored.missing = [] ∧
      after.stored.missing = [.memberships] ∧ after.stored.Completed reopened.stored ∧
      reopened.stored.clusters.map (·.uid) = ["u"] ∧
      reopened.stored.agents.map (·.spiffeid) = ["a"] ∧ reopened.stored.memberships = [] ∧
      Work.toldAll [deleted, listed] before =
        Work.toldAll [deleted] before ++
          Work.toldAll [listed] ((Work.afterAll [deleted] before).reopen {}) := by
  intro cluster filled before after reopened listed deleted
  have onFile : Settings.isInMemory {} = false := by decide
  obtain ⟨_, completed, _⟩ :=
    reopening_lossless true [] [filled, .beside (.drop .memberships)] {} onFile
  obtain ⟨_, _, _, _, unnoticed⟩ := reopening_lossless true [] [filled] {} onFile
  exact ⟨onFile, rfl, rfl, completed, by decide +kernel, by decide +kernel, by decide +kernel,
    (unnoticed rfl [deleted] [listed]).1⟩

/-- Whatever befalls the script while a store is opened, nothing is lost, and the next store that is
opened finds or creates the same tables. -/
theorem opening_resumed (foreignKeys : Bool) (mishaps : List (Option Mishap))
    (episodes : List Episode) (settings : Settings) (befalling : List (Option Mishap)) :
    let c := Episode.afterAll episodes { foreignKeys, mishaps }
    let t := c.stored
    let opening : Connection :=
      { foreignKeys := settings.foreignKeys, stored := t, mishaps := befalling }
    let stopped := (Store.applySchema opening).2.stored
    t.Grows stopped ∧ Store.opened settings stopped = Store.opened settings t := by
  intro c t opening stopped
  have orderly : c.Orderly foreignKeys :=
    Episode.afterAll_orderly (Connection.orderly_new foreignKeys mishaps) episodes
  have grows : t.Grows stopped := by
    change t.Grows (Store.applySchema opening).2.stored
    rw [Store.applySchema_connection]
    exact Connection.define_grows (c := opening) rfl orderly.stored.vacant _
  refine ⟨grows, ?_⟩
  rw [Store.opened_eq (orderly.stored.vacant.grows grows)
    (grows.brokenReference.trans orderly.unbroken), grows.kept]
  exact (orderly.opened_eq settings).symm

end Roster.Database
