import Mathlib.Logic.Relation
import Roster.Database.Transaction
import Roster.Proofs.Outcome

/-!
What statements do to the tables, row by row.

A statement that writes makes one change or several, one for each row of a batch. There are few
kinds of changes, and with each comes what the statement made sure of before. So what no change of
any kind breaks is broken by no statement.

A statement that is refused does nothing. Only a trigger makes the database roll the transaction
back because of it.
-/

namespace Roster.Database

/-- On which terms a database is used: whether references are enforced, and which texts are given
to it as identities, uids and names. -/
structure Terms where
  foreignKeys : Bool
  agent : String → Prop
  uid : String → Prop
  name : String → Prop

namespace Tables

/-- The row of a new cluster. -/
def newCluster (t : Tables) (columns : ClusterColumns) : ClusterRow where
  id := t.lastClusterId + 1
  uid := columns.uid
  name := columns.name
  createdAt := columns.createdAt
  domainName := columns.domainName
  managedBy := columns.managedBy
  platformType := columns.platformType

/-- The numbers of the clusters with a uid, of which there is one at most. -/
def idsWith (t : Tables) (uid : String) : List Nat :=
  (t.clusters.filter (·.uid = uid)).map (·.id)

def withoutCluster (t : Tables) (uid : String) : Tables :=
  { t with clusters := t.clusters.filter (·.uid ≠ uid) }

/-- What becomes of the tables by a change of one row, or by the deletion of rows. Rows are added
only to a table that is there, and only such a table gives numbers. -/
inductive Changes (terms : Terms) (t : Tables) : Tables → Prop where
  /-- An agent that is there takes a number too. -/
  | takeAgentId (there : .agents ∉ t.missing) : Changes terms t t.takeAgentId
  | addAgent (spiffeid : String) (plugin : Option String) (admitted : terms.agent spiffeid)
      (new : ∀ row ∈ t.agents, row.spiffeid ≠ spiffeid) (there : .agents ∉ t.missing) :
      Changes terms t (t.takeAgentId.addAgent spiffeid plugin)
  | setPlugin (spiffeid : String) (plugin : Option String) (there : .agents ∉ t.missing) :
      Changes terms t { t.takeAgentId with agents := t.agents.map fun row =>
        if row.spiffeid = spiffeid then { row with plugin } else row }
  | addCluster (columns : ClusterColumns) (broken : Bool) (uidAdmitted : terms.uid columns.uid)
      (nameAdmitted : terms.name columns.name)
      (newUid : ∀ row ∈ t.clusters, row.uid ≠ columns.uid)
      (newName : ∀ row ∈ t.clusters, row.name ≠ columns.name)
      (harmless : terms.foreignKeys = false → broken = t.brokenReference)
      (there : .clusters ∉ t.missing) :
      Changes terms t { t with
        clusters := t.clusters ++ [t.newCluster columns]
        lastClusterId := t.lastClusterId + 1
        brokenReference := broken }
  | setCluster (uid name domainName managedBy platformType : String)
      (admitted : terms.name name)
      (free : ∀ row ∈ t.clusters, row.uid ≠ uid → row.name ≠ name) :
      Changes terms t { t with clusters := t.clusters.map fun row =>
        if row.uid = uid then { row with name, domainName, managedBy, platformType } else row }
  /-- With references enforced, the members of the cluster go with it. -/
  | removeCluster (uid : String) (enforced : terms.foreignKeys = true) :
      Changes terms t ((t.withoutCluster uid).cascadeClusters (t.idsWith uid))
  /-- With references not enforced, the memberships are left behind. -/
  | forgetCluster (uid : String) (unenforced : terms.foreignKeys = false) :
      Changes terms t (t.withoutCluster uid)
  | addMembership (agent : AgentRow) (cluster : ClusterRow) (known : agent ∈ t.agents)
      (present : cluster ∈ t.clusters) (free : ∀ row ∈ t.memberships, row.agentId ≠ agent.id)
      (there : .memberships ∉ t.missing) :
      Changes terms t { t with memberships := t.memberships ++ [⟨agent.id, cluster.id⟩] }
  | removeMembers (uid : String) : Changes terms t (t.cascadeClusters (t.idsWith uid))
  | addSelectors (agent : AgentRow) (plugin selectors : String) (known : agent ∈ t.agents)
      (free : ∀ row ∈ t.selectors, row.agentId ≠ agent.id) (there : .selectors ∉ t.missing) :
      Changes terms t { t with selectors := t.selectors ++ [⟨agent.id, plugin, selectors⟩] }
  | setSelectors (agentId : Nat) (plugin selectors : String) :
      Changes terms t { t with selectors := t.selectors.map fun row =>
        if row.agentId = agentId then { row with plugin, selectors } else row }

/-- What becomes of the tables by any number of changes, one after the other. -/
def Becomes (terms : Terms) : Tables → Tables → Prop :=
  Relation.ReflTransGen (Changes terms)

/-- No change breaks the property. -/
def Unbreakable (terms : Terms) (P : Tables → Prop) : Prop :=
  ∀ t t', t.Changes terms t' → P t → P t'

theorem Unbreakable.becomes {terms : Terms} {P : Tables → Prop}
    (unbreakable : Unbreakable terms P) {t t' : Tables} (becomes : t.Becomes terms t')
    (kept : P t) : P t' := by
  induction becomes with
  | refl => exact kept
  | tail _ change ih => exact unbreakable _ _ change ih

/-! ## Statements -/

variable {terms : Terms} {t t' : Tables}

/-- The tables of a statement are there if it is not refused for want of them. -/
theorem of_require {tables : List TableName} (required : t.require tables = .ok ())
    {table : TableName} (needed : table ∈ tables) : table ∉ t.missing := by
  unfold require at required
  split at required
  next => cases required
  next found =>
    intro missing
    exact absurd (decide_eq_true missing) (List.find?_eq_none.mp found table needed)

/-- Each agent of a batch takes one value as an agent and two as a member. -/
theorem fits_insertAgents {count : Nat} (room : (Statement.insertMemberships count).Fits) :
    (Statement.insertAgents count).Fits := by
  unfold Statement.Fits at room ⊢
  simp only [Statement.values] at room ⊢
  omega

/-- A statement that is not refused at once fits, and its tables are there. -/
theorem of_accept {s : Statement} (accepted : t.accept s = .ok ()) :
    s.Fits ∧ t.require s.tables = .ok () := by
  unfold accept at accepted
  split at accepted
  next fits => exact ⟨fits, accepted⟩
  next => cases accepted

theorem accept_of_fits {s : Statement} (fits : s.Fits) (t : Tables) :
    t.accept s = t.require s.tables :=
  if_pos fits

theorem accept_of_excess {s : Statement} (excess : ¬s.Fits) (t : Tables) :
    t.accept s = .error .tooManyValues :=
  if_neg excess

theorem fits_of_insertAgents {spiffeids : List String}
    (inserted : t.insertAgents spiffeids = .ok t') :
    (Statement.insertAgents spiffeids.length).Fits := by
  obtain ⟨_, accepted, _⟩ := of_bind_eq_ok inserted
  exact (of_accept accepted).1

theorem fits_of_insertMemberships {uid : String} {spiffeids : List String}
    (inserted : t.insertMemberships uid spiffeids = .ok t') :
    (Statement.insertMemberships spiffeids.length).Fits := by
  obtain ⟨_, accepted, _⟩ := of_bind_eq_ok inserted
  exact (of_accept accepted).1

theorem fits_of_selectMetadata {wanted : List String}
    {rows : List (String × Option String × Option String)}
    (selected : t.selectMetadata wanted = .ok rows) :
    (Statement.selectMetadata wanted.length).Fits := by
  obtain ⟨_, accepted, _⟩ := of_bind_eq_ok selected
  exact (of_accept accepted).1

theorem not_named (absent : ¬(t.agentNamed? spiffeid).isSome) :
    ∀ row ∈ t.agents, row.spiffeid ≠ spiffeid := by
  rw [Bool.not_eq_true, Option.isSome_eq_false_iff, Option.isNone_iff_eq_none, agentNamed?,
    List.find?_eq_none] at absent
  simpa using absent

/-- What stays as it is, whatever is changed. -/
theorem Changes.frame (changes : t.Changes terms t') :
    t'.missing = t.missing ∧ t'.triggers = t.triggers := by
  cases changes <;> exact ⟨rfl, rfl⟩

theorem Becomes.frame (becomes : t.Becomes terms t') :
    t'.missing = t.missing ∧ t'.triggers = t.triggers := by
  induction becomes with
  | refl => exact ⟨rfl, rfl⟩
  | tail _ change ih => exact ⟨change.frame.1.trans ih.1, change.frame.2.trans ih.2⟩

theorem changes_ensureAgent {spiffeid : String} (admitted : terms.agent spiffeid)
    (there : .agents ∉ t.missing) : t.Changes terms (t.ensureAgent spiffeid) := by
  simp only [ensureAgent]
  split
  next => exact .takeAgentId there
  next absent => exact .addAgent spiffeid none admitted (not_named absent) there

theorem becomes_foldl_ensureAgent {spiffeids : List String}
    (admitted : ∀ spiffeid ∈ spiffeids, terms.agent spiffeid) (there : .agents ∉ t.missing) :
    t.Becomes terms (spiffeids.foldl ensureAgent t) := by
  induction spiffeids generalizing t with
  | nil => exact .refl
  | cons spiffeid rest ih =>
    have first := changes_ensureAgent (admitted spiffeid List.mem_cons_self) there
    apply Relation.ReflTransGen.head first
    apply ih fun other member => admitted other (List.mem_cons_of_mem _ member)
    rw [first.frame.1]
    exact there

theorem becomes_insertAgents {spiffeids : List String}
    (admitted : ∀ spiffeid ∈ spiffeids, terms.agent spiffeid)
    (changed : t.insertAgents spiffeids = .ok t') : t.Becomes terms t' := by
  obtain ⟨_, accepted, rest⟩ := of_bind_eq_ok changed
  cases rest
  exact becomes_foldl_ensureAgent admitted (of_require (of_accept accepted).2 List.mem_cons_self)

theorem becomes_insertAgent {spiffeid : String} (admitted : terms.agent spiffeid)
    (changed : t.insertAgent spiffeid = .ok t') : t.Becomes terms t' := by
  obtain ⟨_, required, rest⟩ := of_bind_eq_ok changed
  cases rest
  exact .single (changes_ensureAgent admitted (of_require required List.mem_cons_self))

theorem becomes_upsertAgent {spiffeid : String} {plugin : Option String}
    (admitted : terms.agent spiffeid) (changed : t.upsertAgent spiffeid plugin = .ok t') :
    t.Becomes terms t' := by
  obtain ⟨_, required, rest⟩ := of_bind_eq_ok changed
  have there := of_require required List.mem_cons_self
  cases rest
  split
  next => exact .single (.setPlugin spiffeid plugin there)
  next absent => exact .single (.addAgent spiffeid plugin admitted (not_named absent) there)

theorem becomes_insertCluster {columns : ClusterColumns} (uidAdmitted : terms.uid columns.uid)
    (nameAdmitted : terms.name columns.name)
    (changed : t.insertCluster terms.foreignKeys columns = .ok t') : t.Becomes terms t' := by
  obtain ⟨_, required, rest⟩ := of_bind_eq_ok changed
  split at rest
  next => cases rest
  next => cases rest
  next =>
    split at rest
    next => cases rest
    next newUid =>
      split at rest
      next => cases rest
      next newName =>
        cases rest
        refine .single (.addCluster columns _ uidAdmitted nameAdmitted ?_ ?_ ?_ ?_)
        · simpa using newUid
        · simpa using newName
        · intro unenforced
          rw [unenforced, Bool.false_and, Bool.or_false]
        · exact of_require required List.mem_cons_self

theorem becomes_updateCluster {uid name domain manager platform : String} {count : Nat}
    (admitted : terms.name name)
    (changed : t.updateCluster uid name domain manager platform = .ok (count, t')) :
    t.Becomes terms t' := by
  obtain ⟨_, _, rest⟩ := of_bind_eq_ok changed
  split at rest
  next => cases rest; exact .refl
  next =>
    split at rest
    next => cases rest
    next free =>
      cases rest
      refine .single (.setCluster uid name domain manager platform admitted ?_)
      intro row member different same
      apply free
      exact List.any_eq_true.mpr ⟨row, member, by simp [different, same]⟩

theorem becomes_deleteCluster {uid : String} {count : Nat}
    (changed : t.deleteCluster terms.foreignKeys uid = .ok (count, t')) :
    t.Becomes terms t' := by
  obtain ⟨_, _, rest⟩ := of_bind_eq_ok changed
  obtain ⟨_, _, rest⟩ := of_bind_eq_ok rest
  cases rest
  split
  next enforced => exact .single (.removeCluster uid enforced)
  next unenforced => exact .single (.forgetCluster uid (by simpa using unenforced))

theorem becomes_insertMembership {uid spiffeid : String} (there : .memberships ∉ t.missing)
    (changed : insertMembership uid t spiffeid = .ok t') : t.Becomes terms t' := by
  unfold insertMembership at changed
  split at changed
  next => cases changed
  next => cases changed
  next agent cluster known present =>
    split at changed
    next => cases changed
    next free =>
      cases changed
      refine .single (.addMembership agent cluster (List.mem_of_find?_eq_some known)
        (List.mem_of_find?_eq_some present) ?_ there)
      simpa using free

theorem becomes_foldlM_insertMembership {uid : String} {spiffeids : List String}
    (there : .memberships ∉ t.missing)
    (changed : spiffeids.foldlM (insertMembership uid) t = .ok t') : t.Becomes terms t' := by
  induction spiffeids generalizing t with
  | nil => cases changed; exact .refl
  | cons spiffeid rest ih =>
    rw [List.foldlM_cons] at changed
    obtain ⟨first, inserted, later⟩ := of_bind_eq_ok changed
    have becomes : t.Becomes terms first := becomes_insertMembership there inserted
    refine becomes.trans (ih ?_ later)
    rw [becomes.frame.1]
    exact there

theorem becomes_insertMemberships {uid : String} {spiffeids : List String}
    (changed : t.insertMemberships uid spiffeids = .ok t') : t.Becomes terms t' := by
  obtain ⟨_, accepted, rest⟩ := of_bind_eq_ok changed
  exact becomes_foldlM_insertMembership (of_require (of_accept accepted).2 List.mem_cons_self) rest

theorem becomes_deleteMembers {uid : String}
    (changed : t.deleteMembers terms.foreignKeys uid = .ok t') : t.Becomes terms t' := by
  obtain ⟨_, _, rest⟩ := of_bind_eq_ok changed
  obtain ⟨_, _, rest⟩ := of_bind_eq_ok rest
  cases rest
  exact .single (.removeMembers uid)

theorem becomes_upsertSelectors {agent : AgentRow} {plugin selectors : String}
    (known : agent ∈ t.agents) (changed : t.upsertSelectors agent.id plugin selectors = .ok t') :
    t.Becomes terms t' := by
  obtain ⟨_, required, rest⟩ := of_bind_eq_ok changed
  have there := of_require required List.mem_cons_self
  cases rest
  split
  next => exact .single (.setSelectors agent.id plugin selectors)
  next free =>
    exact .single (.addSelectors agent plugin selectors known (by simpa using free) there)

/-! ## Refusals -/

section Refusals

variable {α β : Type}

/-- Where there is no trigger that does so, no refusal ends the transaction. -/
def Spares (t : Tables) (outcome : Except Refusal α) : Prop :=
  ∀ refusal, outcome = .error refusal → refusal.endsTransaction = true → .rollback ∈ t.triggers

theorem spares_ok (t : Tables) (a : α) : t.Spares (.ok a) :=
  nofun

theorem spares_error (t : Tables) {refusal : Refusal} (gentle : refusal.endsTransaction = false) :
    t.Spares (.error refusal : Except Refusal α) := by
  rintro _ ⟨rfl⟩ ends
  rw [gentle] at ends
  cases ends

theorem Spares.bind {first : Except Refusal α} {next : α → Except Refusal β}
    (spares : t.Spares first) (spared : ∀ a, t.Spares (next a)) : t.Spares (first >>= next) := by
  cases first with
  | ok a => exact spared a
  | error refusal =>
    rintro _ ⟨rfl⟩
    exact spares refusal rfl

theorem spares_require (t : Tables) (tables : List TableName) : t.Spares (t.require tables) := by
  unfold require
  split
  · exact t.spares_error rfl
  · exact t.spares_ok ()

theorem spares_accept (t : Tables) (s : Statement) : t.Spares (t.accept s) := by
  unfold accept
  split
  · exact t.spares_require _
  · exact t.spares_error rfl

theorem spares_requireParents (t : Tables) (foreignKeys : Bool) :
    t.Spares (t.requireParents foreignKeys) := by
  unfold requireParents
  split
  · split
    · exact t.spares_error rfl
    · exact t.spares_ok ()
  · exact t.spares_ok ()

theorem spares_insertCluster (t : Tables) (foreignKeys : Bool) (columns : ClusterColumns) :
    t.Spares (t.insertCluster foreignKeys columns) := by
  apply (t.spares_require _).bind
  intro _
  split
  next found => exact fun _ _ _ => List.mem_of_find?_eq_some found
  next => exact t.spares_error rfl
  next =>
    split
    next => exact t.spares_error rfl
    next =>
      split
      next => exact t.spares_error rfl
      next => exact t.spares_ok _

theorem spares_updateCluster (t : Tables) (uid name domain manager platform : String) :
    t.Spares (t.updateCluster uid name domain manager platform) := by
  apply (t.spares_require _).bind
  intro _
  split
  next => exact t.spares_ok _
  next =>
    split
    next => exact t.spares_error rfl
    next => exact t.spares_ok _

/-- The tables that a row of a batch finds are not those that the statement found. -/
theorem spares_insertMembership (t found : Tables) (uid spiffeid : String) :
    t.Spares (insertMembership uid found spiffeid) := by
  unfold insertMembership
  split
  next => exact t.spares_error rfl
  next => exact t.spares_error rfl
  next =>
    split
    next => exact t.spares_error rfl
    next => exact t.spares_ok _

theorem spares_foldlM_insertMembership (t found : Tables) (uid : String)
    (spiffeids : List String) :
    t.Spares (spiffeids.foldlM (insertMembership uid) found) := by
  induction spiffeids generalizing found with
  | nil => exact t.spares_ok found
  | cons spiffeid rest ih =>
    rw [List.foldlM_cons]
    exact (t.spares_insertMembership found uid spiffeid).bind ih

end Refusals

/-! ## What a statement may do -/

/-- A statement changes the tables by the given terms, or else it is refused and spares the
transaction. -/
structure Regular {α : Type} (terms : Terms) (t : Tables) (outcome : Except Refusal (α × Tables)) :
    Prop where
  becomes : ∀ a t', outcome = .ok (a, t') → t.Becomes terms t'
  spares : t.Spares outcome

/-- Where no trigger makes the database roll the transaction back, no refusal does. -/
theorem Regular.gentle {α : Type} {outcome : Except Refusal (α × Tables)}
    (regular : t.Regular terms outcome) (quiet : .rollback ∉ t.triggers) {refusal : Refusal}
    (refused : outcome = .error refusal) : refusal.endsTransaction = false := by
  rw [← Bool.not_eq_true]
  exact fun ends => quiet (regular.spares refusal refused ends)

theorem regular_silently {change : Except Refusal Tables}
    (becomes : ∀ t', change = .ok t' → t.Becomes terms t') (spares : t.Spares change) :
    Regular terms t (silently change) where
  becomes := by
    rintro _ t' changed
    obtain ⟨_, done, same⟩ := of_map_eq_ok changed
    cases same
    exact becomes t' done
  spares := by
    cases change with
    | ok t' => exact t.spares_ok _
    | error refusal =>
      rintro _ ⟨rfl⟩
      exact spares refusal rfl

theorem regular_insertAgents {spiffeids : List String}
    (admitted : ∀ spiffeid ∈ spiffeids, terms.agent spiffeid) :
    Regular terms t (silently (t.insertAgents spiffeids)) :=
  regular_silently (fun _ => becomes_insertAgents admitted)
    ((t.spares_accept _).bind fun _ => t.spares_ok _)

theorem regular_insertAgent {spiffeid : String} (admitted : terms.agent spiffeid) :
    Regular terms t (silently (t.insertAgent spiffeid)) :=
  regular_silently (fun _ => becomes_insertAgent admitted)
    ((t.spares_require _).bind fun _ => t.spares_ok _)

theorem regular_upsertAgent {spiffeid : String} (admitted : terms.agent spiffeid)
    (plugin : Option String) : Regular terms t (silently (t.upsertAgent spiffeid plugin)) :=
  regular_silently (fun _ => becomes_upsertAgent admitted)
    ((t.spares_require _).bind fun _ => t.spares_ok _)

theorem regular_insertCluster {columns : ClusterColumns} (uidAdmitted : terms.uid columns.uid)
    (nameAdmitted : terms.name columns.name) :
    Regular terms t (silently (t.insertCluster terms.foreignKeys columns)) :=
  regular_silently (fun _ => becomes_insertCluster uidAdmitted nameAdmitted)
    (t.spares_insertCluster _ columns)

theorem regular_updateCluster {name : String} (admitted : terms.name name)
    (uid domain manager platform : String) :
    Regular terms t (t.updateCluster uid name domain manager platform) where
  becomes _ _ := becomes_updateCluster admitted
  spares := t.spares_updateCluster uid name domain manager platform

theorem regular_deleteCluster (uid : String) :
    Regular terms t (t.deleteCluster terms.foreignKeys uid) where
  becomes _ _ := becomes_deleteCluster
  spares := (t.spares_require _).bind fun _ =>
    (t.spares_requireParents _).bind fun _ => t.spares_ok _

theorem regular_insertMemberships (uid : String) (spiffeids : List String) :
    Regular terms t (silently (t.insertMemberships uid spiffeids)) :=
  regular_silently (fun _ => becomes_insertMemberships)
    ((t.spares_accept _).bind fun _ => t.spares_foldlM_insertMembership t uid spiffeids)

theorem regular_deleteMembers (uid : String) :
    Regular terms t (silently (t.deleteMembers terms.foreignKeys uid)) :=
  regular_silently (fun _ => becomes_deleteMembers)
    ((t.spares_require _).bind fun _ => (t.spares_requireParents _).bind fun _ => t.spares_ok _)

theorem regular_upsertSelectors {agent : AgentRow} (known : agent ∈ t.agents)
    (plugin selectors : String) :
    Regular terms t (silently (t.upsertSelectors agent.id plugin selectors)) :=
  regular_silently (fun _ => becomes_upsertSelectors known)
    ((t.spares_require _).bind fun _ => t.spares_ok _)

end Tables

end Roster.Database
