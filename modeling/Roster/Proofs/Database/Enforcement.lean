import Roster.Proofs.Database.Ending
import Roster.Proofs.Database.Integrity
import Roster.Proofs.Run

/-!
That references are enforced cannot be noticed by callers of the registry.

Three statements look at the setting. The creation of a cluster does so only if a trigger was set
up, and the deletion of members only if a table is missing. The deletion of a cluster would delete
its memberships too, but by then the registry has deleted them. So no reference is ever broken, with
or without enforcement.
-/

namespace Roster.Database

/-- The connection with references not enforced. -/
def Connection.unenforced (c : Connection) : Connection :=
  { c with foreignKeys := false }

/-- No table is missing, or all are lost, and no trigger was set up. -/
structure Tables.Plain (t : Tables) : Prop where
  missing : t.missing = [] ∨ t.missing = TableName.all
  triggers : t.triggers = []

theorem Tables.plain_bare : Plain .bare :=
  ⟨.inr rfl, rfl⟩

theorem Tables.unbreakable_plain (terms : Terms) : Unbreakable terms Plain := by
  intro t t' changes plain
  refine ⟨?_, changes.frame.2.trans plain.triggers⟩
  rw [changes.frame.1]
  exact plain.missing

namespace Connection

/-! ## Statements -/

variable {α : Type} (c : Connection)

theorem approach_unenforced :
    c.unenforced.approach = (c.approach.1, c.approach.2.unenforced) := by
  obtain ⟨foreignKeys, inMemory, stored, working, mishaps⟩ := c
  obtain _ | ⟨_ | mishap, rest⟩ := mishaps <;> rfl

theorem afterRefusal_unenforced (refusal : Refusal) :
    c.unenforced.afterRefusal refusal = (c.afterRefusal refusal).unenforced := by
  unfold afterRefusal
  split <;> rfl

theorem select_unenforced (query : Tables → Except Refusal α) :
    c.unenforced.select query = ((c.select query).1, (c.select query).2.unenforced) := by
  unfold select
  rw [approach_unenforced]
  obtain ⟨refusal | ⟨⟨⟩⟩, later⟩ := c.approach
  · exact congrArg _ (later.afterRefusal_unenforced refusal)
  · rfl

theorem execute_unenforced {change unenforcedChange : Tables → Except Refusal (α × Tables)}
    (same : unenforcedChange c.tables = change c.tables) :
    c.unenforced.execute unenforcedChange =
      ((c.execute change).1, (c.execute change).2.unenforced) := by
  have tables := c.approach_tables
  unfold execute
  rw [approach_unenforced]
  rcases approached : c.approach with ⟨refusal | ⟨⟨⟩⟩, later⟩
  · exact congrArg _ (later.afterRefusal_unenforced refusal)
  · rw [approached] at tables
    change later.tables = c.tables at tables
    have unenforcedTables : later.unenforced.tables = c.tables := tables
    dsimp only
    rw [unenforcedTables, tables, same]
    cases change c.tables with
    | error refusal => exact congrArg _ (later.afterRefusal_unenforced refusal)
    | ok written =>
      obtain ⟨foreignKeys, inMemory, stored, working, mishaps⟩ := later
      cases working with
      | some inside => rfl
      | none =>
        dsimp only [unenforced]
        split <;> rfl

theorem rollback_unenforced :
    c.unenforced.rollback = (c.rollback.1, c.rollback.2.unenforced) := by
  obtain ⟨foreignKeys, inMemory, stored, working, mishaps⟩ := c
  cases working <;> rfl

end Connection

namespace Action

variable {α β : Type} {c : Connection}

/-- The action does the same on the connection whether references are enforced or not. -/
def Alike (action : Action α) (c : Connection) : Prop :=
  action c.unenforced = ((action c).1, (action c).2.unenforced)

theorem Alike.answer {action : Action α} (alike : action.Alike c) :
    (action c.unenforced).1 = (action c).1 := by
  unfold Alike at alike
  rw [alike]

theorem Alike.connection {action : Action α} (alike : action.Alike c) :
    (action c.unenforced).2 = (action c).2.unenforced := by
  unfold Alike at alike
  rw [alike]

theorem alike_done (a : α) : (done a).Alike c :=
  rfl

theorem alike_fail (failure : Failure) : (fail failure : Action α).Alike c :=
  rfl

theorem alike_lift (result : Except Failure α) : (lift result).Alike c := by
  cases result <;> rfl

theorem Alike.bind {first : Action α} {second : α → Action β} (alike : first.Alike c)
    (next : ∀ a c', first c = (.ok a, c') → (second a).Alike c') :
    (first >>= second).Alike c := by
  change andThen first second c.unenforced =
    ((andThen first second c).1, (andThen first second c).2.unenforced)
  unfold andThen
  rw [alike]
  cases told : first c with
  | mk result c' =>
    cases result with
    | error failure => rfl
    | ok a => exact next a c' told

/-- However a refusal is told, a statement that writes does the same if its change of the tables is
the same. -/
theorem alike_of_execute {action : Action α} (tell : Refusal → Failure)
    {change : Bool → Tables → Except Refusal (α × Tables)}
    (acts : ∀ c, action c = match c.execute (change c.foreignKeys) with
      | (.ok a, c) => (.ok a, c)
      | (.error refusal, c) => (.error (tell refusal), c))
    (same : change false c.tables = change c.foreignKeys c.tables) : action.Alike c := by
  unfold Alike
  rw [acts, acts]
  have executed := c.execute_unenforced same
  change c.unenforced.execute (change c.unenforced.foreignKeys) = _ at executed
  rw [executed]
  obtain ⟨refusal | a, later⟩ := c.execute (change c.foreignKeys) <;> rfl

theorem alike_run {s : Statement} {change : Bool → Tables → Except Refusal (α × Tables)}
    (same : change false c.tables = change c.foreignKeys c.tables) : (run s change).Alike c :=
  alike_of_execute s.failure (fun _ => rfl) same

theorem alike_runUnique {s : Statement} {conflict : Failure}
    {change : Bool → Tables → Except Refusal (α × Tables)}
    (same : change false c.tables = change c.foreignKeys c.tables) :
    (runUnique s conflict change).Alike c :=
  alike_of_execute (fun refusal => if refusal.isDuplicate then conflict else s.failure refusal)
    (fun _ => rfl) same

theorem alike_read (s : Statement) (query : Tables → Except Refusal α) :
    (read s query).Alike c := by
  unfold Alike read
  rw [c.select_unenforced]
  obtain ⟨refusal | a, later⟩ := c.select query <;> rfl

end Action

open Database.Action

/-! ## Steps -/

namespace Tables

variable {t : Tables}

theorem requireParents_of_complete (complete : t.missing = []) (foreignKeys : Bool) :
    t.requireParents foreignKeys = .ok () := by
  unfold Tables.requireParents
  rw [complete]
  simp

/-- Where all tables are lost, a statement is refused for the first one that it looks up. -/
theorem require_of_lost (lost : t.missing = TableName.all) (first : TableName)
    (others : List TableName) : t.require (first :: others) = .error (.noSuchTable first) := by
  have missing : decide (first ∈ t.missing) = true := by
    rw [lost]
    cases first <;> rfl
  have found : (first :: others).find? (· ∈ t.missing) = some first :=
    List.find?_cons_of_pos missing
  rw [Tables.require, found]

/-- Only a trigger breaks references. -/
theorem Plain.insertCluster (plain : t.Plain) (foreignKeys : Bool) (columns : ClusterColumns) :
    t.insertCluster false columns = t.insertCluster foreignKeys columns := by
  unfold Tables.insertCluster
  simp [plain.triggers]

theorem Plain.deleteMembers (plain : t.Plain) (foreignKeys : Bool) (uid : String) :
    t.deleteMembers false uid = t.deleteMembers foreignKeys uid := by
  unfold Tables.deleteMembers
  rcases plain.missing with complete | lost
  · rw [requireParents_of_complete complete, requireParents_of_complete complete]
  · rw [Statement.tables, require_of_lost lost]
    rfl

/-- No agent is a member of the cluster. -/
def Deserted (t : Tables) (uid : String) : Prop :=
  ∀ row ∈ t.memberships, row.clusterId ∉ t.idsWith uid

theorem deserted_of_deleteMembers {foreignKeys : Bool} {uid : String} {t' : Tables}
    (changed : t.deleteMembers foreignKeys uid = .ok t') : t'.Deserted uid := by
  obtain ⟨_, _, rest⟩ := of_bind_eq_ok changed
  obtain ⟨_, _, rest⟩ := of_bind_eq_ok rest
  cases rest
  intro row member
  exact of_decide_eq_true (List.mem_filter.mp member).2

/-- A deserted cluster takes no memberships with it. -/
theorem Plain.deleteCluster (plain : t.Plain) (foreignKeys : Bool) {uid : String}
    (deserted : t.Deserted uid) : t.deleteCluster false uid = t.deleteCluster foreignKeys uid := by
  have nothing : t.memberships.filter (·.clusterId ∉ t.idsWith uid) = t.memberships :=
    List.filter_eq_self.mpr fun row member => by simpa using deserted row member
  have cascade : (t.withoutCluster uid).cascadeClusters (t.idsWith uid) = t.withoutCluster uid := by
    unfold cascadeClusters withoutCluster
    rw [nothing]
  unfold Tables.deleteCluster
  rcases plain.missing with complete | lost
  · rw [requireParents_of_complete complete, requireParents_of_complete complete]
    cases foreignKeys with
    | false => rfl
    | true =>
      apply bind_congr
      intro _
      exact congrArg (fun t => Except.ok (_, t)) cascade.symm
  · rw [Statement.tables, require_of_lost lost]
    rfl

end Tables

namespace Transaction

variable {c : Connection}

theorem alike_requireRow (count : Nat) : (requireRow count).Alike c := by
  unfold requireRow
  split
  · exact alike_fail _
  · exact alike_done ()

theorem alike_insertCluster (plain : c.tables.Plain) (now : Instant) (cluster : Cluster) :
    (insertCluster now cluster).Alike c :=
  alike_runUnique (congrArg silently (plain.insertCluster _ _))

theorem alike_updateCluster (cluster : Cluster) : (updateCluster cluster).Alike c :=
  (alike_runUnique rfl).bind fun count _ _ => alike_requireRow count

theorem alike_addMembers (uid : ClusterUid) (agents : List AgentId) :
    (addMembers uid agents).Alike c := by
  unfold addMembers
  split
  · exact alike_done ()
  · exact (alike_run rfl).bind fun _ _ _ => alike_runUnique rfl

theorem alike_deleteMembers (plain : c.tables.Plain) (uid : ClusterUid) :
    (deleteMembers uid).Alike c :=
  alike_run (congrArg silently (plain.deleteMembers _ _))

theorem alike_deleteCluster (plain : c.tables.Plain) {uid : ClusterUid}
    (deserted : c.tables.Deserted uid.text) : (deleteCluster uid).Alike c :=
  (alike_run (plain.deleteCluster _ deserted)).bind fun count _ _ => alike_requireRow count

theorem deserted_of_deleteMembers {uid : ClusterUid} {c' : Connection}
    (told : deleteMembers uid c = (.ok (), c')) : c'.tables.Deserted uid.text := by
  obtain ⟨t, changed, same⟩ := of_map_eq_ok (of_run told)
  cases same
  exact Tables.deserted_of_deleteMembers changed

theorem alike_loadCluster (uid : ClusterUid) : (loadCluster uid).Alike c := by
  apply (alike_read _ _).bind
  rintro (_ | row) _ _
  · exact alike_fail _
  · exact (alike_read _ _).bind fun _ _ _ => alike_lift _

theorem alike_putAgent (agent : AgentId) (plugin : Option String) :
    (putAgent agent plugin).Alike c :=
  alike_run rfl

theorem alike_putAttestation (entry : Attestation) : (putAttestation entry).Alike c := by
  apply (alike_run rfl).bind
  intro _ _ _
  apply (alike_read _ _).bind
  rintro (_ | agentId) _ _
  · exact alike_fail _
  · exact alike_run rfl

/-! ## Beginning and ending -/

theorem alike_begin : begin.Alike c := by
  unfold Alike begin Connection.begin
  rw [c.approach_unenforced]
  rcases c.approach with ⟨refusal | ⟨⟨⟩⟩, foreignKeys, inMemory, stored, working, mishaps⟩
  · rfl
  · cases working <;> rfl

theorem alike_commit : commit.Alike c := by
  unfold Alike commit Connection.commit
  rw [c.approach_unenforced]
  rcases c.approach with ⟨refusal | ⟨⟨⟩⟩, foreignKeys, inMemory, stored, working, mishaps⟩
  · cases working <;> rfl
  · cases working with
    | none => rfl
    | some t =>
      dsimp only [Connection.unenforced]
      cases t.brokenReference <;> rfl

theorem undo_unenforced (c : Connection) :
    undo c.unenforced = ((undo c).1, (undo c).2.unenforced) := by
  unfold undo
  rw [c.rollback_unenforced]
  obtain ⟨refusal | ⟨⟨⟩⟩, later⟩ := c.rollback <;> rfl

variable {α : Type}

theorem alike_finish (result : Except Failure α) : (finish result).Alike c := by
  cases result with
  | error failure =>
    change (_, (undo c.unenforced).2) = _
    rw [undo_unenforced]
    rfl
  | ok a => exact alike_commit.bind fun _ _ _ => alike_done a

theorem alike_atomically {foreignKeys : Bool} {body : Action α}
    (plain : c.Satisfies foreignKeys Tables.Plain)
    (alike : ∀ c' : Connection, c'.Satisfies foreignKeys Tables.Plain → body.Alike c') :
    (atomically body).Alike c := by
  have later := satisfies_begin plain
  apply alike_begin.bind
  intro _ c' told
  rw [told] at later
  change finish (body c'.unenforced).1 (body c'.unenforced).2 = _
  rw [alike c' later]
  exact alike_finish _

end Transaction

/-! ## Operations -/

namespace Store

variable {foreignKeys : Bool} {c : Connection}

theorem alike_createCluster (plain : c.Satisfies foreignKeys Tables.Plain) (now : Instant)
    (cluster : Cluster) : (createCluster now cluster).Alike c := by
  apply Transaction.alike_atomically plain
  intro c' inside
  apply (Transaction.alike_insertCluster inside.tables now cluster).bind
  intro _ _ _
  exact (Transaction.alike_addMembers _ _).bind fun _ _ _ => Transaction.alike_loadCluster _

theorem alike_editCluster (plain : c.Satisfies foreignKeys Tables.Plain) (cluster : Cluster) :
    (editCluster cluster).Alike c := by
  apply Transaction.alike_atomically plain
  intro c' inside
  have kept := Connection.kept_satisfies (Tables.unbreakable_plain (.any foreignKeys))
  have updates := Transaction.keeps_updateCluster kept (Terms.any_admits foreignKeys cluster)
  have later := updates c' inside
  apply (Transaction.alike_updateCluster cluster).bind
  intro _ c'' told
  rw [told] at later
  apply (Transaction.alike_deleteMembers later.tables cluster.uid).bind
  intro _ _ _
  exact (Transaction.alike_addMembers _ _).bind fun _ _ _ => Transaction.alike_loadCluster _

/-- The members are deleted before their cluster, so that they are not deleted along with it. -/
theorem alike_deleteCluster (plain : c.Satisfies foreignKeys Tables.Plain) (uid : ClusterUid) :
    (deleteCluster uid).Alike c := by
  apply Transaction.alike_atomically plain
  intro c' inside
  have kept := Connection.kept_satisfies (Tables.unbreakable_plain (.any foreignKeys))
  have later := Transaction.keeps_deleteMembers kept uid c' inside
  apply (Transaction.alike_deleteMembers inside.tables uid).bind
  intro _ c'' told
  rw [told] at later
  exact Transaction.alike_deleteCluster later.tables (Transaction.deserted_of_deleteMembers told)

theorem alike_answering {α : Type} {action : Action α} (alike : action.Alike c)
    (answer : α → Answer) : (answering answer action).Alike c :=
  alike.bind fun _ _ _ => alike_done _

theorem alike_perform (plain : c.Satisfies foreignKeys Tables.Plain) (now : Instant)
    (operation : Operation) : (perform now operation).Alike c := by
  cases operation with
  | putAgent agent =>
    exact alike_answering
      (Transaction.alike_atomically plain fun _ _ => Transaction.alike_putAgent _ _) _
  | putAttestation entry =>
    exact alike_answering
      (Transaction.alike_atomically plain fun _ _ => Transaction.alike_putAttestation entry) _
  | createCluster cluster => exact alike_answering (alike_createCluster plain now cluster) _
  | editCluster cluster => exact alike_answering (alike_editCluster plain cluster) _
  | deleteCluster uid => exact alike_answering (alike_deleteCluster plain uid) _
  | listAgents => exact alike_answering ((alike_read _ _).bind fun _ _ _ => alike_lift _) _
  | listClusters =>
    exact alike_answering ((alike_read _ _).bind fun _ _ _ =>
      (alike_read _ _).bind fun _ _ _ => alike_lift _) _
  | membersOf uid => exact alike_answering ((alike_read _ _).bind fun _ _ _ => alike_lift _) _
  | describeAgents filter =>
    exact alike_answering ((alike_read _ _).bind fun _ _ _ => alike_lift _) _
  | findAgent agent =>
    refine alike_answering ((alike_read _ _).bind fun found _ _ => ?_) _
    cases found with
    | none => exact alike_fail _
    | some plugin => exact alike_done _
  | findAttestation agent =>
    refine alike_answering ((alike_read _ _).bind fun found _ _ => ?_) _
    cases found with
    | none => exact alike_fail _
    | some row => exact alike_lift _
  | clusterOf agent =>
    refine alike_answering ((alike_read _ _).bind fun found _ _ => ?_) _
    cases found with
    | none => exact alike_fail _
    | some name => exact alike_lift _

/-- Two runs of the same operations that differ in the setting alone still do so afterwards. -/
theorem after_unenforced (plain : c.Satisfies foreignKeys Tables.Plain)
    (steps : List (Instant × Operation)) :
    Registry.after steps c.unenforced = (Registry.after steps c).unenforced ∧
      (Registry.after steps c).Satisfies foreignKeys Tables.Plain := by
  apply Registry.after_related
    (fun lax enforcing : Connection =>
      lax = enforcing.unenforced ∧ enforcing.Satisfies foreignKeys Tables.Plain)
    (fun _ => True) ?_ steps (fun _ _ => trivial) _ _ ⟨rfl, plain⟩
  have lasting := Connection.lasting_satisfies (Tables.unbreakable_plain (.any foreignKeys))
    Tables.plain_bare
  rintro now operation _ enforcing _ ⟨rfl, plain⟩
  exact ⟨(alike_perform plain now operation).connection,
    keeps_perform lasting now (Work.admitted_any foreignKeys (.perform operation)) enforcing plain⟩

end Store

/-- A new database, used by operations of the registry alone, gives the same answers and stores the
same rows whether references are enforced or not. Either way all references are kept. Any texts may
be given, and statements may fail, as long as the same mishaps befall both databases. -/
theorem enforcement_unnoticed (inMemory : Bool) (mishaps : List (Option Mishap))
    (steps : List (Instant × Operation)) :
    let enforcing : Connection := Registry.after steps { foreignKeys := true, inMemory, mishaps }
    let lax : Connection := Registry.after steps { foreignKeys := false, inMemory, mishaps }
    (∀ now operation, (Registry.perform now operation lax).1 =
        (Registry.perform now operation enforcing).1) ∧
      lax.stored = enforcing.stored ∧ enforcing.stored.KeepsRules ∧ lax.stored.KeepsRules := by
  intro enforcing lax
  obtain ⟨same, plain⟩ := Store.after_unenforced (c := { foreignKeys := true, inMemory, mishaps })
    ⟨rfl, ⟨.inl rfl, rfl⟩, nofun⟩ steps
  change lax = enforcing.unenforced at same
  have rules : enforcing.stored.KeepsRules := by
    have satisfies : enforcing.Satisfies true (Tables.Intact (.any true)) :=
      Registry.after_keeps (fun c : Connection => c.Satisfies true (Tables.Intact (.any true)))
        (fun _ => True)
        (fun now operation c _ kept =>
          Store.keeps_perform (Connection.lasting_intact true) now
            (Work.admitted_any true (.perform operation)) c kept)
        steps (fun _ _ => trivial) _ ⟨rfl, .empty _ [] [], nofun⟩
    exact satisfies.stored.keepsRules rfl
  rw [same]
  refine ⟨fun now operation => ?_, rfl, rules, rules⟩
  exact (Store.alike_perform plain now operation).answer

end Roster.Database
