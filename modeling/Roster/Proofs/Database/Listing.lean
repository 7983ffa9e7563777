import Roster.Proofs.Database.Content
import Roster.Proofs.Database.Ending

/-!
The list of clusters, while others write.

The clusters are selected first and their members later, in no transaction together. What others
commit in between shows in the members only, so that the list may have the clusters of one state
with the members of another.
-/

namespace Roster.Database

open Text

/-- The members of the cluster with a number, in the order in which they are selected. -/
def Tables.membersAt (t : Tables) (clusterId : Nat) : List AgentId :=
  ((sortOn (·.2) t.memberRows).filter fun member => member.1 = clusterId).map fun member =>
    ⟨member.2⟩

/-- The record of a row whose texts pass the checks. -/
def ClusterRow.record (row : ClusterRow) (members : List AgentId) : Cluster where
  uid := ⟨row.uid⟩
  name := ⟨row.name⟩
  created := some row.createdAt
  domain := row.domainName
  manager := row.managedBy
  platform := row.platformType
  members

theorem ClusterRow.toCluster_of_tidy {row : ClusterRow} (uidTidy : Text.Tidy row.uid)
    (nameTidy : Text.Tidy row.name) (members : List AgentId) :
    row.toCluster members = .ok (row.record members) := by
  let uid : ClusterUid := ⟨row.uid⟩
  let name : ClusterName := ⟨row.name⟩
  have uidRead : ClusterUid.parse row.uid = .ok uid := @ClusterUid.parse_of_tidy uid uidTidy
  have nameRead : ClusterName.parse row.name = .ok name := @ClusterName.parse_of_tidy name nameTidy
  rw [ClusterRow.toCluster, uidRead, nameRead]
  rfl

namespace Store

/-- With nobody else around, both selections find the same tables. -/
theorem listClusters_alone {c : Connection} (calm : c.mishaps = []) :
    (listClusters c).1 = listClustersAcross c.tables c.tables := by
  rw [listClusters, listClustersAcross]
  cases rows : c.tables.selectClusters with
  | error refusal => rw [Action.bind_of_error (Action.read_of_error calm rows)]
  | ok clusters =>
    rw [Action.bind_of_ok (Action.read_of_ok calm rows)]
    cases members : c.tables.selectMemberships with
    | error refusal => rw [Action.bind_of_error (Action.read_of_error calm members)]
    | ok entries =>
      rw [Action.bind_of_ok (Action.read_of_ok calm members)]
      change (Action.lift (assemble clusters entries) c).1 = assemble clusters entries
      cases assemble clusters entries <;> rfl

variable {foreignKeys : Bool} {first second : Tables}

/-- The clusters are those of the first tables, and the members are those of the second ones. -/
theorem listClustersAcross_eq (firstIntact : first.Intact (.tidy foreignKeys))
    (firstComplete : first.missing = []) (secondIntact : second.Intact (.tidy foreignKeys))
    (secondComplete : second.missing = []) :
    listClustersAcross first second = .ok ((sortOn (·.name) first.clusters).map fun row =>
      row.record (second.membersAt row.id)) := by
  rw [listClustersAcross, Tables.selectClusters_eq firstComplete,
    Tables.selectMemberships_eq secondComplete]
  change assemble _ _ = _
  rw [assemble_of_tidy secondIntact.tidy_members]
  apply mapM_eq_ok
  intro row sorted
  have listed := mem_sortOn.mp sorted
  exact ClusterRow.toCluster_of_tidy (firstIntact.uidTexts _ (List.mem_map_of_mem listed))
    (firstIntact.nameTexts _ (List.mem_map_of_mem listed)) _

theorem listClustersAcross_eq_iff (firstIntact : first.Intact (.tidy foreignKeys))
    (firstComplete : first.missing = []) (secondIntact : second.Intact (.tidy foreignKeys))
    (secondComplete : second.missing = []) :
    listClustersAcross first second = listClustersAcross first first ↔
      ∀ row ∈ first.clusters, second.membersAt row.id = first.membersAt row.id := by
  rw [listClustersAcross_eq firstIntact firstComplete secondIntact secondComplete,
    listClustersAcross_eq firstIntact firstComplete firstIntact firstComplete, Except.ok.injEq,
    List.map_inj_left]
  simp only [mem_sortOn]
  constructor
  · exact fun same row listed => congrArg Cluster.members (same row listed)
  · exact fun same row listed => congrArg row.record (same row listed)

end Store

/-- After any operations and sessions with tidy texts, and with others doing such works in between
the two selections, a list of clusters tells the clusters as they were before these works, with the
members that they have afterwards. So it is the list of the state before just if no cluster of that
state has got other members. -/
theorem listing_across_states (foreignKeys : Bool) (triggers : List Trigger)
    (mishaps others : List (Option Mishap)) (before between : List (Instant × Work))
    (admittedBefore : ∀ work ∈ before, work.2.Admitted (.tidy foreignKeys))
    (admittedBetween : ∀ work ∈ between, work.2.Admitted (.tidy foreignKeys)) :
    let used := Work.afterAll before { foreignKeys, stored := { triggers }, mishaps }
    let c := { used with mishaps := [] }
    let first := c.stored
    let second :=
      (Work.afterAll between { foreignKeys, stored := first, mishaps := others }).stored
    Store.listClustersAcross first second = .ok ((sortOn (·.name) first.clusters).map fun row =>
        row.record (second.membersAt row.id)) ∧
      (Store.listClustersAcross first second = (Store.listClusters c).1 ↔
        ∀ row ∈ first.clusters, second.membersAt row.id = first.membersAt row.id) := by
  intro used c first second
  have sees : c.tables = first := Connection.tables_of_idle (Work.afterAll_idle before _ rfl)
  obtain ⟨intact, complete⟩ : first.Intact (.tidy foreignKeys) ∧ first.missing = [] :=
    Work.stored_afterAll admittedBefore (.empty _ [] triggers) rfl (.of_onFile rfl)
  obtain ⟨laterIntact, laterComplete⟩ : second.Intact (.tidy foreignKeys) ∧ second.missing = [] :=
    Work.stored_afterAll admittedBetween intact complete (.of_onFile rfl)
  refine ⟨Store.listClustersAcross_eq intact complete laterIntact laterComplete, ?_⟩
  rw [Store.listClusters_alone rfl, sees]
  exact Store.listClustersAcross_eq_iff intact complete laterIntact laterComplete

/-- A cluster is deleted in between the two selections. The list tells it without its member. -/
theorem deleted_amid_listing :
    let cluster : Cluster := { uid := ⟨"u"⟩, name := ⟨"n"⟩, members := [⟨"a"⟩] }
    let before : List (Instant × Work) := [(.epoch, .perform (.createCluster cluster))]
    let between : List (Instant × Work) := [(.epoch, .perform (.deleteCluster ⟨"u"⟩))]
    let c := { Work.afterAll before { foreignKeys := true } with mishaps := [] }
    let second := (Work.afterAll between { foreignKeys := true, stored := c.stored }).stored
    ((∀ work ∈ before, work.2.Admitted (.tidy true)) ∧
        ∀ work ∈ between, work.2.Admitted (.tidy true)) ∧
      Store.listClustersAcross c.stored second ≠ (Store.listClusters c).1 := by
  intro cluster before between c second
  have admittedBefore : ∀ work ∈ before, work.2.Admitted (.tidy true) := by
    have clusterTidy : cluster.Tidy := by decide
    exact List.forall_mem_singleton.mpr ⟨clusterTidy.uid, clusterTidy.name, clusterTidy.members⟩
  have admittedBetween : ∀ work ∈ between, work.2.Admitted (.tidy true) :=
    List.forall_mem_singleton.mpr trivial
  obtain ⟨_, same⟩ :=
    listing_across_states true [] [] [] before between admittedBefore admittedBetween
  have changed : ¬∀ row ∈ c.stored.clusters,
      second.membersAt row.id = c.stored.membersAt row.id := by
    decide +kernel
  exact ⟨⟨admittedBefore, admittedBetween⟩, fun equal => changed (same.mp equal)⟩

/-- A cluster is renamed and gets another member in between the two selections. The list tells the
old name with the new member, which is told in no state from before to after. -/
theorem edited_amid_listing :
    let cluster : Cluster := { uid := ⟨"u"⟩, name := ⟨"n"⟩, members := [⟨"a"⟩] }
    let edited : Cluster := { uid := ⟨"u"⟩, name := ⟨"m"⟩, members := [⟨"b"⟩] }
    let edits : List (Instant × Operation) := [(.epoch, .editCluster edited)]
    let c := Registry.after [(.epoch, .createCluster cluster)] (Connection.connect {})
    let told := Store.listClustersAcross c.stored (Registry.after edits c).stored
    told = .ok [{ cluster with created := some Instant.epoch.stamp, members := [⟨"b"⟩] }] ∧
      ∀ count, told ≠ (Store.listClusters (Registry.after (edits.take count) c)).1 := by
  intro cluster edited edits c told
  refine ⟨by decide +kernel, fun count => ?_⟩
  cases count with
  | zero => decide +kernel
  | succ count =>
    rw [List.take_of_length_le (Nat.le_add_left 1 count)]
    decide +kernel

end Roster.Database
