import Roster.Proofs.Database.Integrity
import Roster.Proofs.Database.Reading

/-!
The registry that tables hold.

Tables that keep their rules hold a registry, even if memberships were left behind when their
cluster was deleted. No selection tells such a membership as one of a cluster, so that what is read
of agents, clusters and members is what the registry says of them.
-/

namespace Roster.Database

open Text

/-- Texts that no blank surrounds may be given. -/
def Terms.tidy (foreignKeys : Bool) : Terms :=
  { foreignKeys, agent := Text.Tidy, uid := Text.Tidy, name := Text.Tidy }

/-- What a row says of its agent. -/
def AgentRow.entry (row : AgentRow) : AgentId × Option String :=
  (⟨row.spiffeid⟩, row.plugin)

/-- What a row says of its cluster. -/
def ClusterRow.entry (row : ClusterRow) : ClusterUid × StoredCluster :=
  (⟨row.uid⟩, ⟨⟨row.name⟩, row.createdAt, row.domainName, row.managedBy, row.platformType⟩)

namespace Tables

/-! ## Rows by their keys -/

theorem find?_of_nodup {α β : Type} [DecidableEq β] {rows : List α} {key : α → β} {row : α}
    (unique : (rows.map key).Nodup) (member : row ∈ rows) :
    rows.find? (fun other => key other = key row) = some row := by
  cases found : rows.find? fun other => key other = key row with
  | none => exact absurd (List.find?_eq_none.mp found row member) (by simp)
  | some other =>
    obtain ⟨listed, same⟩ := of_find? found
    rw [List.inj_on_of_nodup_map unique listed member same]

namespace Intact

variable {terms : Terms} {t : Tables}

theorem agent?_eq (intact : t.Intact terms) {row : AgentRow} (member : row ∈ t.agents) :
    t.agent? row.id = some row :=
  find?_of_nodup intact.agentIds member

theorem agentNamed?_eq (intact : t.Intact terms) {row : AgentRow} (member : row ∈ t.agents) :
    t.agentNamed? row.spiffeid = some row :=
  find?_of_nodup intact.spiffeids member

theorem cluster?_eq (intact : t.Intact terms) {row : ClusterRow} (member : row ∈ t.clusters) :
    t.cluster? row.id = some row :=
  find?_of_nodup intact.clusterIds member

theorem clusterWith?_eq (intact : t.Intact terms) {row : ClusterRow} (member : row ∈ t.clusters) :
    t.clusterWith? row.uid = some row :=
  find?_of_nodup intact.uids member

end Intact

/-- Rows that are written back as they were read. -/
theorem eq_map_map {α β : Type} {rows : List α} {read : α → β} {write : β → α}
    (same : ∀ row ∈ rows, write (read row) = row) : rows = (rows.map read).map write := by
  rw [List.map_map]
  exact ((List.map_congr_left same).trans (List.map_id rows)).symm

/-! ## The registry -/

/-- The memberships of clusters that are there. -/
def placedRows (t : Tables) : List MembershipRow :=
  t.memberships.filter fun row => (t.cluster? row.clusterId).isSome

/-- The tables without what the lists of agents and clusters do not depend on. -/
def pruned (t : Tables) : Tables :=
  { t with memberships := t.placedRows, selectors := [], triggers := [], brokenReference := false }

/-- The identity of the agent with a number. -/
def agentOf (t : Tables) (id : Nat) : AgentId :=
  ⟨((t.agent? id).map (·.spiffeid)).getD ""⟩

/-- The uid of the cluster with a number. -/
def uidOf (t : Tables) (id : Nat) : ClusterUid :=
  ⟨((t.cluster? id).map (·.uid)).getD ""⟩

/-- The registry that the tables hold, without what is attested of the agents. -/
def registry (t : Tables) : Memory where
  agents := t.agents.map (·.entry)
  clusters := t.clusters.map (·.entry)
  memberships := t.placedRows.map fun row => (t.agentOf row.agentId, t.uidOf row.clusterId)

/-- The numbers that the tables give to agents and clusters. -/
def numbering (t : Tables) : Numbering where
  agent agent := ((t.agentNamed? agent.text).map (·.id)).getD 0
  cluster uid := ((t.clusterWith? uid.text).map (·.id)).getD 0

namespace Intact

variable {terms : Terms} {t : Tables}

theorem agent_number (intact : t.Intact terms) {row : AgentRow} (member : row ∈ t.agents) :
    t.numbering.agent ⟨row.spiffeid⟩ = row.id := by
  change ((t.agentNamed? row.spiffeid).map (·.id)).getD 0 = row.id
  rw [intact.agentNamed?_eq member]
  rfl

theorem cluster_number (intact : t.Intact terms) {row : ClusterRow} (member : row ∈ t.clusters) :
    t.numbering.cluster ⟨row.uid⟩ = row.id := by
  change ((t.clusterWith? row.uid).map (·.id)).getD 0 = row.id
  rw [intact.clusterWith?_eq member]
  rfl

/-- The agent of a membership. -/
theorem agentOf_member (intact : t.Intact terms) {row : MembershipRow}
    (member : row ∈ t.memberships) :
    ∃ agent ∈ t.agents, agent.id = row.agentId ∧ t.agentOf row.agentId = ⟨agent.spiffeid⟩ := by
  obtain ⟨agent, known, same⟩ := List.mem_map.mp (intact.known row member)
  refine ⟨agent, known, same, ?_⟩
  rw [agentOf, ← same, intact.agent?_eq known]
  rfl

/-- The cluster of a membership that was not left behind. -/
theorem uidOf_placed (row : MembershipRow) (placed : row ∈ t.placedRows) :
    ∃ cluster ∈ t.clusters, cluster.id = row.clusterId ∧ t.uidOf row.clusterId = ⟨cluster.uid⟩ := by
  obtain ⟨cluster, found⟩ := Option.isSome_iff_exists.mp (List.mem_filter.mp placed).2
  obtain ⟨present, number⟩ := of_find? found
  refine ⟨cluster, present, number, ?_⟩
  rw [uidOf, found]
  rfl

theorem agentRow_entry (intact : t.Intact terms) {row : AgentRow} (member : row ∈ t.agents) :
    t.numbering.agentRow row.entry = row := by
  rw [Numbering.agentRow, AgentRow.entry, intact.agent_number member]

theorem clusterRow_entry (intact : t.Intact terms) {row : ClusterRow}
    (member : row ∈ t.clusters) : t.numbering.clusterRow row.entry = row := by
  rw [Numbering.clusterRow, ClusterRow.entry, intact.cluster_number member]

theorem membershipRow_entry (intact : t.Intact terms) {row : MembershipRow}
    (placed : row ∈ t.placedRows) :
    t.numbering.membershipRow (t.agentOf row.agentId, t.uidOf row.clusterId) = row := by
  obtain ⟨agent, known, agentId, named⟩ := intact.agentOf_member (List.mem_of_mem_filter placed)
  obtain ⟨cluster, present, clusterId, identified⟩ := uidOf_placed row placed
  rw [Numbering.membershipRow, named, identified, intact.agent_number known,
    intact.cluster_number present, agentId, clusterId]

theorem mem_agents_keys {agent : AgentId} :
    agent ∈ t.registry.agents.keys ↔ ∃ row ∈ t.agents, ⟨row.spiffeid⟩ = agent := by
  rw [Directory.keys, registry, List.map_map, List.mem_map]
  rfl

theorem mem_clusters_keys {uid : ClusterUid} :
    uid ∈ t.registry.clusters.keys ↔ ∃ row ∈ t.clusters, ⟨row.uid⟩ = uid := by
  rw [Directory.keys, registry, List.map_map, List.mem_map]
  rfl

theorem encodes (intact : t.Intact terms) (complete : t.missing = []) :
    t.numbering.Encodes t.registry t.pruned where
  agents := eq_map_map fun row member => intact.agentRow_entry member
  clusters := eq_map_map fun row member => intact.clusterRow_entry member
  memberships := eq_map_map fun row placed => intact.membershipRow_entry placed
  selectors := rfl
  agentNumbers := by
    intro first firstKnown second secondKnown same
    obtain ⟨row, member, rfl⟩ := mem_agents_keys.mp firstKnown
    obtain ⟨other, otherMember, rfl⟩ := mem_agents_keys.mp secondKnown
    rw [intact.agent_number member, intact.agent_number otherMember] at same
    rw [List.inj_on_of_nodup_map intact.agentIds member otherMember same]
  agentsBelow := by
    intro agent known
    obtain ⟨row, member, rfl⟩ := mem_agents_keys.mp known
    rw [intact.agent_number member]
    exact intact.agentsBelow _ (List.mem_map_of_mem member)
  clusterNumbers := by
    intro first firstPresent second secondPresent same
    obtain ⟨row, member, rfl⟩ := mem_clusters_keys.mp firstPresent
    obtain ⟨other, otherMember, rfl⟩ := mem_clusters_keys.mp secondPresent
    rw [intact.cluster_number member, intact.cluster_number otherMember] at same
    rw [List.inj_on_of_nodup_map intact.clusterIds member otherMember same]
  clustersBelow := by
    intro uid present
    obtain ⟨row, member, rfl⟩ := mem_clusters_keys.mp present
    rw [intact.cluster_number member]
    exact intact.clustersBelow _ (List.mem_map_of_mem member)
  missing := complete
  triggers := rfl
  unbroken := rfl

theorem sound (intact : t.Intact terms) : t.registry.Sound where
  agents := by
    apply List.Nodup.of_map AgentId.text
    rw [Directory.keys, registry, List.map_map, List.map_map]
    exact intact.spiffeids
  attestations := .nil
  clusters := by
    apply List.Nodup.of_map ClusterUid.text
    rw [Directory.keys, registry, List.map_map, List.map_map]
    exact intact.uids
  memberships := by
    apply List.Nodup.of_map t.numbering.agent
    have numbers := List.map_congr_left fun row placed =>
      congrArg MembershipRow.agentId (intact.membershipRow_entry placed)
    rw [Directory.keys, registry, List.map_map, List.map_map]
    exact numbers ▸ nodup_map_filter intact.members _
  names := by
    apply List.Nodup.of_map ClusterName.text
    rw [registry, List.map_map, List.map_map]
    exact intact.names
  known := by
    intro agent member
    obtain ⟨entry, listed, rfl⟩ := List.mem_map.mp member
    obtain ⟨row, placed, rfl⟩ := List.mem_map.mp listed
    obtain ⟨known, member, _, named⟩ := intact.agentOf_member (List.mem_of_mem_filter placed)
    exact mem_agents_keys.mpr ⟨known, member, named.symm⟩
  placed := by
    intro entry listed
    obtain ⟨row, placed, rfl⟩ := List.mem_map.mp listed
    obtain ⟨cluster, present, _, identified⟩ := uidOf_placed row placed
    exact mem_clusters_keys.mpr ⟨cluster, present, identified.symm⟩
  attested := nofun

theorem tidy {foreignKeys : Bool} (intact : t.Intact (.tidy foreignKeys)) : t.registry.Tidy where
  agents := by
    intro agent known
    obtain ⟨row, member, rfl⟩ := mem_agents_keys.mp known
    exact intact.agentTexts _ (List.mem_map_of_mem member)
  uids := by
    intro uid present
    obtain ⟨row, member, rfl⟩ := mem_clusters_keys.mp present
    exact intact.uidTexts _ (List.mem_map_of_mem member)
  names := by
    intro entry listed
    obtain ⟨row, member, rfl⟩ := List.mem_map.mp listed
    exact intact.nameTexts _ (List.mem_map_of_mem member)
  attestations := nofun

end Intact

/-! ## Selections -/

variable {terms : Terms} {t : Tables}

/-- Whether a row that refers to this cluster was not left behind. -/
def live (t : Tables) (clusterId : Nat) : Bool :=
  (t.cluster? clusterId).isSome

theorem memberRows_pruned (t : Tables) :
    t.pruned.memberRows = t.memberRows.filter fun member => t.live member.1 := by
  change (t.memberships.filter fun row => t.live row.clusterId).filterMap _ = _
  rw [memberRows, List.filterMap_filter, List.filter_filterMap]
  apply List.filterMap_congr
  intro row _
  change (if t.live row.clusterId then (t.agent? row.agentId).map _ else none) = _
  cases t.agent? row.agentId with
  | none => simp
  | some agent => simp [Option.filter_some]

theorem placedMembers_pruned (t : Tables) : t.pruned.placedMembers = t.placedMembers := by
  rw [placedMembers, memberRows_pruned, List.filterMap_filter, placedMembers]
  apply List.filterMap_congr
  rintro ⟨clusterId, spiffeid⟩ _
  change (if (t.cluster? clusterId).isSome then (t.cluster? clusterId).map _ else none) =
    (t.cluster? clusterId).map _
  cases t.cluster? clusterId <;> rfl

theorem selectMembersOf_pruned (t : Tables) (uid : String) :
    t.pruned.selectMembersOf uid = t.selectMembersOf uid := by
  rw [selectMembersOf, placedMembers_pruned]
  rfl

theorem selectClusterName_pruned (t : Tables) (spiffeid : String) :
    t.pruned.selectClusterName spiffeid = t.selectClusterName spiffeid := by
  rw [selectClusterName, placedMembers_pruned]
  rfl

theorem selectClusterMembers_pruned {clusterId : Nat} (present : t.live clusterId = true) :
    t.pruned.selectClusterMembers clusterId = t.selectClusterMembers clusterId := by
  have chosen : (t.memberRows.filter fun member => t.live member.1).filter
      (fun member => member.1 = clusterId) =
        t.memberRows.filter fun member => member.1 = clusterId := by
    rw [List.filter_filter]
    apply List.filter_congr
    intro member _
    by_cases same : member.1 = clusterId
    · simp [same, present]
    · simp [same]
  rw [selectClusterMembers, memberRows_pruned, chosen]
  rfl

/-- A look-up under a unique key may pass over rows that tell nothing. -/
theorem find?_filter_bind {α β γ : Type} [DecidableEq β] {rows : List α} {key : α → β}
    (unique : (rows.map key).Nodup) {keeps : α → Bool} {tells : α → Option γ}
    (silent : ∀ row, keeps row = false → tells row = none) (wanted : β) :
    ((rows.filter keeps).find? (key · = wanted)).bind tells =
      (rows.find? (key · = wanted)).bind tells := by
  induction rows with
  | nil => rfl
  | cons row rest ih =>
    rw [List.map_cons, List.nodup_cons] at unique
    have later := ih unique.2
    rw [List.find?_cons]
    cases kept : keeps row with
    | true =>
      rw [List.filter_cons_of_pos kept, List.find?_cons]
      split
      next => rfl
      next => exact later
    | false =>
      rw [List.filter_cons_of_neg (by simp [kept]), later]
      split
      next same =>
        have absent : rest.find? (key · = wanted) = none := by
          apply List.find?_eq_none.mpr
          intro other member equal
          apply unique.1
          rw [of_decide_eq_true same, ← of_decide_eq_true equal]
          exact List.mem_map_of_mem member
        rw [absent, Option.bind_some, silent row kept]
        rfl
      next => rfl

theorem clusterNameOf?_pruned (intact : t.Intact terms) (agent : AgentRow) :
    t.pruned.clusterNameOf? agent = t.clusterNameOf? agent := by
  refine find?_filter_bind intact.members (fun row behind => ?_) agent.id
  have gone : t.cluster? row.clusterId = none := by simpa using behind
  change (t.cluster? row.clusterId).map _ = none
  rw [gone]
  rfl

theorem selectMetadata_pruned (intact : t.Intact terms) (wanted : List String) :
    t.pruned.selectMetadata wanted = t.selectMetadata wanted := by
  have told : t.pruned.clusterNameOf? = t.clusterNameOf? :=
    funext fun agent => clusterNameOf?_pruned intact agent
  rw [selectMetadata, told]
  rfl

theorem require_of_there {tables : List TableName} (there : ∀ table ∈ tables, table ∉ t.missing) :
    t.require tables = .ok () := by
  have none : tables.find? (· ∈ t.missing) = none :=
    List.find?_eq_none.mpr fun table needed => by simpa using there table needed
  rw [require, none]

theorem require_of_complete (complete : t.missing = []) (tables : List TableName) :
    t.require tables = .ok () :=
  require_of_there fun _ _ => complete ▸ List.not_mem_nil

theorem selectClusters_eq (complete : t.missing = []) :
    t.selectClusters = .ok (sortOn (·.name) t.clusters) := by
  rw [selectClusters, require_of_complete complete]
  rfl

theorem selectMemberships_eq (complete : t.missing = []) :
    t.selectMemberships = .ok (sortOn (·.2) t.memberRows) := by
  rw [selectMemberships, require_of_complete complete]
  rfl

theorem Intact.tidy_members {foreignKeys : Bool} (intact : t.Intact (.tidy foreignKeys)) :
    ∀ member ∈ sortOn (·.2) t.memberRows, Text.Tidy member.2 := by
  rintro ⟨clusterId, spiffeid⟩ listed
  obtain ⟨_, _, _, agent, known, _, rfl⟩ := of_mem_memberRows (mem_sortOn.mp listed)
  exact intact.agentTexts _ (List.mem_map_of_mem known)

/-- No other selection finds memberships that were left behind. -/
theorem selectMemberships_pruned (intact : t.Intact terms) :
    t.pruned.selectMemberships =
      t.selectMemberships.map (·.filter fun member => t.live member.1) := by
  have distinct : Distinguishes (·.2) t.memberRows := by
    rintro ⟨first, spiffeid⟩ listed ⟨second, _⟩ otherListed rfl
    rw [intact.oneMember listed otherListed]
  rw [selectMemberships, memberRows_pruned, ← filter_sortOn distinct, selectMemberships]
  change (t.require _ >>= fun _ => _) = _
  cases t.require Statement.selectMemberships.tables <;> rfl

end Tables

/-! ## Reads -/

/-- The connection to the pruned tables that this one sees. -/
def Connection.pruned (c : Connection) : Connection :=
  { c with stored := c.tables.pruned, working := none }

namespace Action

variable {α β : Type} {c : Connection}

/-- A read answers alike on two connections if it selects alike and goes on alike. -/
theorem read_alike {c' : Connection} (calm : c.mishaps = []) (calmToo : c'.mishaps = [])
    {s : Statement} {query : Tables → Except Refusal α} {next : α → Action β}
    (selects : query c.tables = query c'.tables)
    (continues : ∀ a, query c.tables = .ok a → (next a c).1 = (next a c').1) :
    ((read s query >>= next) c).1 = ((read s query >>= next) c').1 := by
  cases selected : query c.tables with
  | error refusal =>
    rw [bind_of_error (read_of_error calm selected),
      bind_of_error (read_of_error calmToo (selects.symm.trans selected))]
  | ok a =>
    rw [bind_of_ok (read_of_ok calm selected),
      bind_of_ok (read_of_ok calmToo (selects.symm.trans selected))]
    exact continues a selected

theorem read_pruned (calm : c.mishaps = []) {s : Statement}
    {query : Tables → Except Refusal α} {next : α → Action β}
    (selects : query c.tables.pruned = query c.tables)
    (continues : ∀ a, query c.tables = .ok a → (next a c).1 = (next a c.pruned).1) :
    ((read s query >>= next) c).1 = ((read s query >>= next) c.pruned).1 := by
  have calmToo : c.pruned.mishaps = [] := calm
  exact read_alike calm calmToo selects.symm continues

theorem lift_alike (result : Except Failure α) (c c' : Connection) :
    (lift result c).1 = (lift result c').1 := by
  cases result <;> rfl

end Action

/-! ## The list of clusters -/

/-- Where all identities pass the check, each cluster gets the members with its number. -/
theorem Store.assemble_of_tidy {rows : List ClusterRow} {members : List (Nat × String)}
    (tidy : ∀ member ∈ members, Text.Tidy member.2) :
    assemble rows members = rows.mapM fun row => row.toCluster
      ((members.filter fun member => member.1 = row.id).map fun member => ⟨member.2⟩) := by
  rw [assemble_of_legible fun member listed => AgentId.legible_of_tidy (tidy member listed)]
  apply mapM_congr
  intro row _
  congr 1
  apply List.map_congr_left
  intro member chosen
  exact AgentId.trimmed_of_tidy (tidy member (List.mem_of_mem_filter chosen))

/-- Members of clusters that are not listed may be left out. -/
theorem Store.assemble_filter {rows : List ClusterRow} {members : List (Nat × String)}
    (tidy : ∀ member ∈ members, Text.Tidy member.2) {keeps : Nat × String → Bool}
    (listed : ∀ row ∈ rows, ∀ spiffeid, keeps (row.id, spiffeid) = true) :
    assemble rows (members.filter keeps) = assemble rows members := by
  have kept : ∀ member ∈ members.filter keeps, Text.Tidy member.2 :=
    fun member chosen => tidy member (List.mem_of_mem_filter chosen)
  rw [assemble_of_tidy tidy, assemble_of_tidy kept]
  apply mapM_congr
  intro row present
  rw [List.filter_filter]
  congr 2
  apply List.filter_congr
  intro member _
  by_cases same : member.1 = row.id
  · have all := listed row present member.2
    rw [← same] at all
    simp [same, all]
  · simp [same]

/-! ## Answers -/

/-- A statement on this connection finds tables that keep their rules and hold tidy texts. -/
structure Readable (foreignKeys : Bool) (c : Connection) : Prop where
  calm : c.mishaps = []
  intact : c.tables.Intact (.tidy foreignKeys)
  complete : c.tables.missing = []

namespace Readable

variable {foreignKeys : Bool} {c : Connection}

theorem sees (readable : Readable foreignKeys c) : Sees c.pruned c.tables.registry where
  calm := readable.calm
  sound := readable.intact.sound
  tidy := readable.intact.tidy
  encoded := ⟨_, readable.intact.encodes readable.complete⟩

theorem findAgent (readable : Readable foreignKeys c) (agent : AgentId) :
    (Store.findAgent agent c).1 = c.tables.registry.findAgent agent := by
  refine Eq.trans ?_ (congrArg Prod.fst (Store.findAgent_eq readable.sees.finds agent))
  apply Action.read_pruned readable.calm rfl
  intro found _
  cases found <;> rfl

theorem clusterOf (readable : Readable foreignKeys c) (agent : AgentId) :
    (Store.clusterOf agent c).1 = c.tables.registry.clusterOf agent := by
  refine Eq.trans ?_ (congrArg Prod.fst (Store.clusterOf_eq readable.sees agent))
  apply Action.read_pruned readable.calm (c.tables.selectClusterName_pruned agent.text)
  intro name _
  cases name with
  | none => rfl
  | some name => exact Action.lift_alike _ c _

theorem membersOf (readable : Readable foreignKeys c) (uid : ClusterUid) :
    (Store.membersOf uid c).1 = .ok (c.tables.registry.members uid) := by
  refine Eq.trans ?_ (congrArg Prod.fst (Store.membersOf_eq readable.sees uid))
  apply Action.read_pruned readable.calm (c.tables.selectMembersOf_pruned uid.text)
  exact fun members _ => Action.lift_alike _ c _

theorem describeAgents (readable : Readable foreignKeys c) {filter : AgentFilter}
    (room : (Statement.selectMetadata filter.agents.length).Fits) :
    (Store.describeAgents filter c).1 = .ok (c.tables.registry.describeAgents filter) := by
  refine Eq.trans ?_ (congrArg Prod.fst (Store.describeAgents_eq readable.sees room))
  apply Action.read_pruned readable.calm (Tables.selectMetadata_pruned readable.intact _)
  exact fun rows _ => Action.lift_alike _ c _

/-- The cluster that was found is there, so none of its members was left behind. -/
theorem loadCluster (readable : Readable foreignKeys c) (uid : ClusterUid) :
    (Transaction.loadCluster uid c).1 = c.tables.registry.findCluster uid := by
  refine Eq.trans ?_ (congrArg Prod.fst (Transaction.loadCluster_eq readable.sees uid))
  apply Action.read_pruned readable.calm rfl
  intro found selected
  cases found with
  | none => rfl
  | some row =>
    obtain ⟨_, _, found⟩ := of_bind_eq_ok selected
    have member : row ∈ c.tables.clusters := List.mem_of_find?_eq_some (Except.ok.inj found)
    have present : c.tables.live row.id = true := by
      rw [Tables.live, readable.intact.cluster?_eq member]
      rfl
    apply Action.read_pruned readable.calm (Tables.selectClusterMembers_pruned present)
    exact fun members _ => Action.lift_alike _ c _

/-- Memberships that were left behind are selected too, but no cluster gets them. -/
theorem listClusters (readable : Readable foreignKeys c) :
    (Store.listClusters c).1 = .ok c.tables.registry.listClusters := by
  have intact := readable.intact
  have encodes := intact.encodes readable.complete
  have rows := Tables.selectClusters_eq readable.complete
  have members := Tables.selectMemberships_eq readable.complete
  have sameRows := Except.ok.inj (rows.symm.trans encodes.selectClusters)
  have sameMembers := Tables.selectMemberships_pruned intact
  rw [encodes.selectMemberships intact.sound, members] at sameMembers
  have assembled := Store.assemble_eq encodes intact.sound intact.tidy
  rw [← sameRows, Except.ok.inj sameMembers, Store.assemble_filter intact.tidy_members] at assembled
  · rw [Store.listClusters, Action.bind_of_ok (Action.read_of_ok readable.calm rows),
      Action.bind_of_ok (Action.read_of_ok readable.calm members), assembled]
    rfl
  · intro row listed _
    change c.tables.live row.id = true
    rw [Tables.live, intact.cluster?_eq (mem_sortOn.mp listed)]
    rfl

end Readable

theorem Readable.of_idle {foreignKeys : Bool} {c : Connection} (calm : c.mishaps = [])
    (idle : c.working = none) (intact : c.stored.Intact (.tidy foreignKeys))
    (complete : c.stored.missing = []) : Readable foreignKeys c where
  calm := calm
  intact := Connection.tables_of_idle idle ▸ intact
  complete := Connection.tables_of_idle idle ▸ complete

/-- Tables that keep their rules, hold tidy texts and are all there stay so if they are not lost. -/
theorem Work.stored_afterAll {foreignKeys inMemory : Bool} {works : List (Instant × Work)}
    (admitted : ∀ work ∈ works, work.2.Admitted (.tidy foreignKeys)) {t : Tables}
    (intact : t.Intact (.tidy foreignKeys)) (complete : t.missing = [])
    {mishaps : List (Option Mishap)}
    (durable : Connection.Durable { foreignKeys, inMemory, stored := t, mishaps }) :
    let later := Work.afterAll works { foreignKeys, inMemory, stored := t, mishaps }
    later.stored.Intact (.tidy foreignKeys) ∧ later.stored.missing = [] := by
  have unbreakable : Tables.Unbreakable (.tidy foreignKeys) fun t =>
      t.Intact (.tidy foreignKeys) ∧ t.missing = [] := by
    rintro t t' changes ⟨intact, complete⟩
    exact ⟨Tables.unbreakable_intact _ t t' changes intact, changes.frame.1.trans complete⟩
  have start : Connection.Endures foreignKeys (fun t =>
      t.Intact (.tidy foreignKeys) ∧ t.missing = [])
      { foreignKeys, inMemory, stored := t, mishaps } :=
    ⟨⟨rfl, ⟨intact, complete⟩, fun _ inside => by cases inside⟩, durable⟩
  exact (Work.afterAll_endures unbreakable admitted start).stored

end Roster.Database
