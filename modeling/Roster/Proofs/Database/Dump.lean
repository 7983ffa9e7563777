import Roster.Database.Maintenance
import Roster.Proofs.Database.Content

/-!
Dumps of the tables.

A dump says what is stored without the numbers, and in an order of its own. Keys are unique, so that
tables that hold the same are dumped alike, whatever numbers their rows have and in whichever order
they were inserted.
-/

namespace Roster.Database.Tables

variable {t : Tables}

/-- What the rows say of their agents. -/
def entries (rows : List AgentRow) : List (String × Option String) :=
  rows.map fun row => (row.spiffeid, row.plugin)

/-- A membership with identity and uid in the places of numbers. -/
def placement (t : Tables) (row : MembershipRow) : Option String × Option String :=
  ((t.agent? row.agentId).map (·.spiffeid), (t.cluster? row.clusterId).map (·.uid))

/-- What is attested of an agent, with its identity in the place of its number. -/
def attestation (t : Tables) (row : SelectorRow) : Option String × String × String :=
  ((t.agent? row.agentId).map (·.spiffeid), row.plugin, row.selectors)

/-- The tables hold the same, up to the numbers and the order of rows. -/
structure SameContents (t other : Tables) : Prop where
  missing : t.missing = other.missing
  agents : (entries t.agents).Perm (entries other.agents)
  clusters : t.clusters = other.clusters
  memberships : (t.memberships.map t.placement).Perm (other.memberships.map other.placement)
  selectors : t.selectors.map t.attestation = other.selectors.map other.attestation

/-! ## The order of rows -/

theorem noneFirst_trans {first second third : Option String} (below : noneFirst first second)
    (above : noneFirst second third) : noneFirst first third := by
  cases first with
  | none => rfl
  | some first =>
    cases second with
    | none => cases below
    | some second =>
      cases third with
      | none => cases above
      | some third =>
        exact decide_eq_true (String.le_trans (of_decide_eq_true below) (of_decide_eq_true above))

theorem noneFirst_total (first second : Option String) :
    (noneFirst first second || noneFirst second first) = true := by
  cases first with
  | none => rfl
  | some first =>
    cases second with
    | none => rfl
    | some second => simpa [noneFirst] using String.le_total first second

theorem noneFirst_antisymm {first second : Option String} (below : noneFirst first second)
    (above : noneFirst second first) : first = second := by
  cases first with
  | none =>
    cases second with
    | none => rfl
    | some second => cases above
  | some first =>
    cases second with
    | none => cases below
    | some second =>
      rw [String.le_antisymm (of_decide_eq_true below) (of_decide_eq_true above)]

/-- Rows that are told apart by their first columns are sorted by them in one way only. -/
theorem mergeSort_noneFirst {β : Type} {first second : List (Option String × β)}
    (distinct : (first.map (·.1)).Nodup) (perm : first.Perm second) :
    (first.mergeSort fun left right => noneFirst left.1 right.1) =
      second.mergeSort fun left right => noneFirst left.1 right.1 := by
  let sort (rows : List (Option String × β)) :=
    rows.mergeSort fun left right => noneFirst left.1 right.1
  have sorted (rows : List (Option String × β)) :
      (sort rows).Pairwise fun left right => noneFirst left.1 right.1 := by
    apply List.pairwise_mergeSort
    · exact fun _ _ _ => noneFirst_trans
    · exact fun left right => noneFirst_total left.1 right.1
  have same (rows : List (Option String × β)) : (sort rows).Perm rows := List.mergeSort_perm rows _
  have perms : (sort first).Perm (sort second) := (same first).trans (perm.trans (same second).symm)
  apply perms.eq_of_pairwise _ (sorted first) (sorted second)
  intro left right leftMember rightMember below above
  exact List.inj_on_of_nodup_map distinct ((same first).mem_iff.mp leftMember)
    ((same first).mem_iff.mp (perms.mem_iff.mpr rightMember)) (noneFirst_antisymm below above)

/-! ## Sorted contents -/

theorem Intact.placements_distinct {terms : Terms} (intact : t.Intact terms) :
    ((t.memberships.map t.placement).map (·.1)).Nodup := by
  rw [List.map_map]
  apply intact.members.of_map.map_on
  intro row member other otherMember same
  obtain ⟨agent, known, number⟩ := List.mem_map.mp (intact.known row member)
  obtain ⟨agentToo, knownToo, numberToo⟩ := List.mem_map.mp (intact.known other otherMember)
  change (t.agent? row.agentId).map (·.spiffeid) = (t.agent? other.agentId).map (·.spiffeid) at same
  rw [← number, ← numberToo, intact.agent?_eq known, intact.agent?_eq knownToo] at same
  have agents := List.inj_on_of_nodup_map intact.spiffeids known knownToo (Option.some.inj same)
  apply List.inj_on_of_nodup_map intact.members member otherMember
  rw [← number, ← numberToo, agents]

theorem SameContents.dump {terms : Terms} {other : Tables} (same : t.SameContents other)
    (intact : t.Intact terms) : t.dump = other.dump := by
  have views {α : Type} (tables : List TableName) (rows : List α) :
      t.view tables rows = other.view tables rows := by
    unfold view has
    rw [same.missing]
  have sortedEntries (rows : List AgentRow) :
      (Text.sortOn (·.spiffeid) rows).map (fun row => (row.spiffeid, row.plugin)) =
        Text.sortOn (·.1) (entries rows) :=
    (Text.sortOn_map (·.1) (fun row => (row.spiffeid, row.plugin)) rows).symm
  have distinct : ((entries t.agents).map (·.1)).Nodup := by
    rw [entries, List.map_map]
    exact intact.spiffeids
  have agents := Text.sortOn_of_perm (Text.distinguishes_of_nodup distinct) same.agents
  let byUid (rows : List (Option String × Option String)) :=
    rows.mergeSort fun left right => noneFirst left.2 right.2
  have sorted (rows : List (Option String × Option String)) : (byUid rows).Perm rows :=
    List.mergeSort_perm rows _
  have memberships := mergeSort_noneFirst
    (((sorted (t.memberships.map t.placement)).map _).nodup_iff.mpr intact.placements_distinct)
    ((sorted _).trans (same.memberships.trans (sorted _).symm))
  have selectors := congrArg
    (fun rows => List.mergeSort rows fun left right => noneFirst left.1 right.1) same.selectors
  change Dump.mk _ _ _ _ = Dump.mk _ _ _ _
  congr 1
  · rw [views, sortedEntries, sortedEntries, agents]
  · rw [views, same.clusters]
  · exact (views _ _).trans (congrArg (other.view _) memberships)
  · exact (views _ _).trans (congrArg (other.view _) selectors)

end Roster.Database.Tables
