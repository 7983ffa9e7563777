import Mathlib.Data.List.Nodup
import Roster.Proofs.Database.Invariant

/-!
The rules of the tables, which hold after every run.

Keys are unique, and rows refer to rows that are there. That memberships are deleted along with
their cluster takes enforced references. Without them memberships may be left behind, but the number
of their cluster is never given to another one.
-/

namespace Roster.Database

namespace Tables

/-! ## Keys -/

section Keys

variable {α β : Type} {rows : List α} {key : α → β}

theorem nodup_map_append {row : α} (unique : (rows.map key).Nodup)
    (new : ∀ other ∈ rows, key other ≠ key row) : ((rows ++ [row]).map key).Nodup := by
  rw [List.map_append, List.map_singleton, List.nodup_append]
  refine ⟨unique, List.nodup_singleton _, ?_⟩
  intro first listed second same
  obtain ⟨other, member, rfl⟩ := List.mem_map.mp listed
  rw [List.mem_singleton.mp same]
  exact new other member

theorem forall_mem_map_append {P : β → Prop} {row : α} (old : ∀ other ∈ rows.map key, P other)
    (new : P (key row)) : ∀ other ∈ (rows ++ [row]).map key, P other := by
  rw [List.map_append, List.forall_mem_append]
  exact ⟨old, List.forall_mem_singleton.mpr new⟩

theorem mem_map_append {value : β} {row : α} (listed : value ∈ rows.map key) :
    value ∈ (rows ++ [row]).map key := by
  rw [List.map_append]
  exact List.mem_append_left _ listed

theorem nodup_map_filter (unique : (rows.map key).Nodup) (keeps : α → Bool) :
    ((rows.filter keeps).map key).Nodup :=
  unique.sublist (List.filter_sublist.map key)

/-- Of two kinds of rows that are all rows, a key of none of the first is a key of the second. -/
theorem mem_map_filter_not {gone : α → Prop} [DecidablePred gone] {value : β}
    (listed : value ∈ rows.map key) (kept : value ∉ (rows.filter (gone ·)).map key) :
    value ∈ (rows.filter (¬gone ·)).map key := by
  obtain ⟨row, member, rfl⟩ := List.mem_map.mp listed
  apply List.mem_map_of_mem
  rw [List.mem_filter, decide_eq_true_eq]
  refine ⟨member, fun isGone => kept ?_⟩
  exact List.mem_map_of_mem (List.mem_filter.mpr ⟨member, decide_eq_true isGone⟩)

/-- Overwriting rows leaves the keys that it does not write. -/
theorem map_overwrite {changed : α → Prop} [DecidablePred changed] {overwrite : α → α}
    (leaves : ∀ row, key (overwrite row) = key row) :
    (rows.map fun row => if changed row then overwrite row else row).map key = rows.map key := by
  rw [List.map_map]
  apply List.map_congr_left
  intro row _
  rw [Function.comp_apply]
  split
  next => exact leaves row
  next => rfl

/-- A row that was found under a key. -/
theorem of_find? [DecidableEq β] {row : α} {value : β}
    (found : rows.find? (fun other => key other = value) = some row) :
    row ∈ rows ∧ key row = value :=
  ⟨List.mem_of_find?_eq_some found, of_decide_eq_true (List.find?_some found :)⟩

end Keys

/-- The tables keep their rules, and hold texts that were allowed. -/
structure Intact (terms : Terms) (t : Tables) : Prop where
  agentIds : (t.agents.map (·.id)).Nodup
  agentsBelow : ∀ id ∈ t.agents.map (·.id), id ≤ t.lastAgentId
  spiffeids : (t.agents.map (·.spiffeid)).Nodup
  agentTexts : ∀ spiffeid ∈ t.agents.map (·.spiffeid), terms.agent spiffeid
  clusterIds : (t.clusters.map (·.id)).Nodup
  clustersBelow : ∀ id ∈ t.clusters.map (·.id), id ≤ t.lastClusterId
  uids : (t.clusters.map (·.uid)).Nodup
  uidTexts : ∀ uid ∈ t.clusters.map (·.uid), terms.uid uid
  names : (t.clusters.map (·.name)).Nodup
  nameTexts : ∀ name ∈ t.clusters.map (·.name), terms.name name
  members : (t.memberships.map (·.agentId)).Nodup
  known : ∀ row ∈ t.memberships, row.agentId ∈ t.agents.map (·.id)
  /-- No later cluster gets the number of a membership that was left behind. -/
  placedBelow : ∀ row ∈ t.memberships, row.clusterId ≤ t.lastClusterId
  placed : terms.foreignKeys = true → ∀ row ∈ t.memberships, row.clusterId ∈ t.clusters.map (·.id)
  attested : (t.selectors.map (·.agentId)).Nodup
  attestedKnown : ∀ row ∈ t.selectors, row.agentId ∈ t.agents.map (·.id)

namespace Intact

variable {terms : Terms} {t : Tables}

/-- A database without rows. -/
theorem empty (terms : Terms) (missing : List TableName) (triggers : List Trigger) :
    Intact terms { missing, triggers } where
  agentIds := .nil
  agentsBelow := nofun
  spiffeids := .nil
  agentTexts := nofun
  clusterIds := .nil
  clustersBelow := nofun
  uids := .nil
  uidTexts := nofun
  names := .nil
  nameTexts := nofun
  members := .nil
  known := nofun
  placedBelow := nofun
  placed := nofun
  attested := .nil
  attestedKnown := nofun

/-! ## Agents -/

theorem takeAgentId (intact : t.Intact terms) : t.takeAgentId.Intact terms :=
  { intact with
    agentsBelow := fun id listed => Nat.le_succ_of_le (intact.agentsBelow id listed) }

theorem addAgent (intact : t.Intact terms) {spiffeid : String} (admitted : terms.agent spiffeid)
    (new : ∀ row ∈ t.agents, row.spiffeid ≠ spiffeid) (plugin : Option String) :
    (t.takeAgentId.addAgent spiffeid plugin).Intact terms where
  __ := intact
  agentIds := by
    apply nodup_map_append intact.agentIds
    intro row member
    have below := intact.agentsBelow _ (List.mem_map_of_mem member)
    exact Nat.ne_of_lt (Nat.lt_succ_of_le below)
  agentsBelow := forall_mem_map_append intact.takeAgentId.agentsBelow (Nat.le_refl _)
  spiffeids := nodup_map_append intact.spiffeids new
  agentTexts := forall_mem_map_append intact.agentTexts admitted
  known := fun row member => mem_map_append (intact.known row member)
  attestedKnown := fun row member => mem_map_append (intact.attestedKnown row member)

theorem setPlugin (intact : t.Intact terms) (spiffeid : String) (plugin : Option String) :
    Intact terms { t.takeAgentId with agents := t.agents.map fun row =>
      if row.spiffeid = spiffeid then { row with plugin } else row } := by
  have ids : (t.agents.map fun row =>
      if row.spiffeid = spiffeid then { row with plugin } else row).map (·.id) =
      t.agents.map (·.id) := map_overwrite fun _ => rfl
  have spiffeids : (t.agents.map fun row =>
      if row.spiffeid = spiffeid then { row with plugin } else row).map (·.spiffeid) =
      t.agents.map (·.spiffeid) := map_overwrite fun _ => rfl
  exact { intact with
    agentIds := ids ▸ intact.agentIds
    agentsBelow := ids ▸ intact.takeAgentId.agentsBelow
    spiffeids := spiffeids ▸ intact.spiffeids
    agentTexts := spiffeids ▸ intact.agentTexts
    known := ids ▸ intact.known
    attestedKnown := ids ▸ intact.attestedKnown }

/-! ## Clusters -/

theorem addCluster (intact : t.Intact terms) {columns : ClusterColumns} (broken : Bool)
    (uidAdmitted : terms.uid columns.uid) (nameAdmitted : terms.name columns.name)
    (newUid : ∀ row ∈ t.clusters, row.uid ≠ columns.uid)
    (newName : ∀ row ∈ t.clusters, row.name ≠ columns.name) :
    Intact terms { t with
      clusters := t.clusters ++ [t.newCluster columns]
      lastClusterId := t.lastClusterId + 1
      brokenReference := broken } where
  __ := intact
  clusterIds := by
    apply nodup_map_append intact.clusterIds
    intro row member
    have below := intact.clustersBelow _ (List.mem_map_of_mem member)
    exact Nat.ne_of_lt (Nat.lt_succ_of_le below)
  clustersBelow := forall_mem_map_append
    (fun id listed => Nat.le_succ_of_le (intact.clustersBelow id listed)) (Nat.le_refl _)
  uids := nodup_map_append intact.uids newUid
  uidTexts := forall_mem_map_append intact.uidTexts uidAdmitted
  names := nodup_map_append intact.names newName
  nameTexts := forall_mem_map_append intact.nameTexts nameAdmitted
  placedBelow := fun row member => Nat.le_succ_of_le (intact.placedBelow row member)
  placed := fun enforced row member => mem_map_append (intact.placed enforced row member)

/-- A name that no other cluster has is given to one cluster only. -/
theorem names_overwrite (intact : t.Intact terms) {uid name : String}
    (free : ∀ row ∈ t.clusters, row.uid ≠ uid → row.name ≠ name)
    {overwrite : ClusterRow → ClusterRow} (named : ∀ row, (overwrite row).name = name) :
    List.Nodup ((t.clusters.map fun row =>
      if row.uid = uid then overwrite row else row).map (·.name)) := by
  rw [List.map_map]
  apply intact.uids.of_map.map_on
  intro first firstMember second secondMember same
  simp only [Function.comp_apply] at same
  split at same
  next firstUid =>
    split at same
    next secondUid =>
      exact List.inj_on_of_nodup_map intact.uids firstMember secondMember
        (firstUid.trans secondUid.symm)
    next other => exact absurd (same.symm.trans (named first)) (free second secondMember other)
  next other =>
    split at same
    next => exact absurd (same.trans (named second)) (free first firstMember other)
    next => exact List.inj_on_of_nodup_map intact.names firstMember secondMember same

theorem setCluster (intact : t.Intact terms) {uid name : String}
    (domainName managedBy platformType : String) (admitted : terms.name name)
    (free : ∀ row ∈ t.clusters, row.uid ≠ uid → row.name ≠ name) :
    Intact terms { t with clusters := t.clusters.map fun row =>
      if row.uid = uid then { row with name, domainName, managedBy, platformType } else row } := by
  have ids : (t.clusters.map fun row =>
      if row.uid = uid then { row with name, domainName, managedBy, platformType } else row).map
        (·.id) = t.clusters.map (·.id) := map_overwrite fun _ => rfl
  have uids : (t.clusters.map fun row =>
      if row.uid = uid then { row with name, domainName, managedBy, platformType } else row).map
        (·.uid) = t.clusters.map (·.uid) := map_overwrite fun _ => rfl
  exact { intact with
    clusterIds := ids ▸ intact.clusterIds
    clustersBelow := ids ▸ intact.clustersBelow
    uids := uids ▸ intact.uids
    uidTexts := uids ▸ intact.uidTexts
    names := names_overwrite intact free fun _ => rfl
    nameTexts := by
      rw [List.forall_mem_map, List.forall_mem_map]
      intro row member
      split
      next => exact admitted
      next => exact intact.nameTexts _ (List.mem_map_of_mem member)
    placed := ids ▸ intact.placed }

theorem cascadeClusters (intact : t.Intact terms) (ids : List Nat) :
    (t.cascadeClusters ids).Intact terms where
  __ := intact
  members := nodup_map_filter intact.members _
  known := fun row member => intact.known row (List.mem_of_mem_filter member)
  placedBelow := fun row member => intact.placedBelow row (List.mem_of_mem_filter member)
  placed := fun enforced row member => intact.placed enforced row (List.mem_of_mem_filter member)

/-- Memberships of the cluster may be there only if references are not enforced. -/
theorem withoutCluster (intact : t.Intact terms) {uid : String}
    (placed : terms.foreignKeys = true → ∀ row ∈ t.memberships, row.clusterId ∉ t.idsWith uid) :
    (t.withoutCluster uid).Intact terms := by
  have kept {cluster : ClusterRow} (member : cluster ∈ (t.withoutCluster uid).clusters) :
      cluster ∈ t.clusters := List.mem_of_mem_filter member
  exact { intact with
    clusterIds := nodup_map_filter intact.clusterIds _
    clustersBelow := List.forall_mem_map.mpr fun cluster member =>
      intact.clustersBelow _ (List.mem_map_of_mem (kept member))
    uids := nodup_map_filter intact.uids _
    uidTexts := List.forall_mem_map.mpr fun cluster member =>
      intact.uidTexts _ (List.mem_map_of_mem (kept member))
    names := nodup_map_filter intact.names _
    nameTexts := List.forall_mem_map.mpr fun cluster member =>
      intact.nameTexts _ (List.mem_map_of_mem (kept member))
    placed := fun enforced row member =>
      mem_map_filter_not (intact.placed enforced row member) (placed enforced row member) }

/-! ## Memberships and selectors -/

theorem addMembership (intact : t.Intact terms) {agent : AgentRow} {cluster : ClusterRow}
    (known : agent ∈ t.agents) (present : cluster ∈ t.clusters)
    (free : ∀ row ∈ t.memberships, row.agentId ≠ agent.id) :
    Intact terms { t with memberships := t.memberships ++ [⟨agent.id, cluster.id⟩] } where
  __ := intact
  members := nodup_map_append intact.members free
  known := List.forall_mem_append.mpr
    ⟨intact.known, List.forall_mem_singleton.mpr (List.mem_map_of_mem known)⟩
  placedBelow := List.forall_mem_append.mpr ⟨intact.placedBelow,
    List.forall_mem_singleton.mpr (intact.clustersBelow _ (List.mem_map_of_mem present))⟩
  placed := fun enforced => List.forall_mem_append.mpr
    ⟨intact.placed enforced, List.forall_mem_singleton.mpr (List.mem_map_of_mem present)⟩

theorem addSelectors (intact : t.Intact terms) {agent : AgentRow} (plugin selectors : String)
    (known : agent ∈ t.agents) (free : ∀ row ∈ t.selectors, row.agentId ≠ agent.id) :
    Intact terms { t with selectors := t.selectors ++ [⟨agent.id, plugin, selectors⟩] } where
  __ := intact
  attested := nodup_map_append intact.attested free
  attestedKnown := List.forall_mem_append.mpr
    ⟨intact.attestedKnown, List.forall_mem_singleton.mpr (List.mem_map_of_mem known)⟩

theorem overwriteSelectors (intact : t.Intact terms) (agentId : Nat)
    {overwrite : SelectorRow → SelectorRow}
    (leaves : ∀ row, (overwrite row).agentId = row.agentId) :
    Intact terms { t with selectors := t.selectors.map fun row =>
      if row.agentId = agentId then overwrite row else row } := by
  have ids : (t.selectors.map fun row =>
      if row.agentId = agentId then overwrite row else row).map (·.agentId) =
      t.selectors.map (·.agentId) := map_overwrite leaves
  exact { intact with
    attested := ids ▸ intact.attested
    attestedKnown := by
      rw [← List.forall_mem_map (P := (· ∈ t.agents.map (·.id))), ids, List.forall_mem_map]
      exact intact.attestedKnown }

end Intact

theorem unbreakable_intact (terms : Terms) : Unbreakable terms (Intact terms) := by
  intro t t' changes intact
  cases changes with
  | takeAgentId => exact intact.takeAgentId
  | addAgent spiffeid plugin admitted new => exact intact.addAgent admitted new plugin
  | setPlugin spiffeid plugin => exact intact.setPlugin spiffeid plugin
  | addCluster columns broken uidAdmitted nameAdmitted newUid newName =>
    exact intact.addCluster broken uidAdmitted nameAdmitted newUid newName
  | setCluster uid name domainName managedBy platformType admitted free =>
    exact intact.setCluster domainName managedBy platformType admitted free
  | removeCluster uid enforced =>
    -- The members go first, so that the cluster has none when it goes.
    apply (intact.cascadeClusters (t.idsWith uid)).withoutCluster
    intro _ row member
    exact of_decide_eq_true (List.mem_filter.mp member).2
  | forgetCluster uid unenforced =>
    apply intact.withoutCluster
    intro enforced
    rw [unenforced] at enforced
    cases enforced
  | addMembership agent cluster known present free => exact intact.addMembership known present free
  | removeMembers uid => exact intact.cascadeClusters _
  | addSelectors agent plugin selectors known free =>
    exact intact.addSelectors plugin selectors known free
  | setSelectors agentId plugin selectors => exact intact.overwriteSelectors agentId fun _ => rfl

/-! ## Rules -/

theorem of_mem_memberRows {t : Tables} {clusterId : Nat} {spiffeid : String}
    (listed : (clusterId, spiffeid) ∈ t.memberRows) :
    ∃ row ∈ t.memberships, row.clusterId = clusterId ∧
      ∃ agent ∈ t.agents, agent.id = row.agentId ∧ agent.spiffeid = spiffeid := by
  obtain ⟨row, member, joined⟩ := List.mem_filterMap.mp listed
  obtain ⟨agent, found, same⟩ := Option.map_eq_some_iff.mp joined
  cases same
  obtain ⟨known, number⟩ := of_find? found
  exact ⟨row, member, rfl, agent, known, number, rfl⟩

/-- An agent has one membership at most. -/
theorem Intact.oneMember {terms : Terms} {t : Tables} (intact : t.Intact terms)
    {first second : Nat} {spiffeid : String} (firstListed : (first, spiffeid) ∈ t.memberRows)
    (secondListed : (second, spiffeid) ∈ t.memberRows) : first = second := by
  obtain ⟨row, listed, rfl, agent, known, number, named⟩ := of_mem_memberRows firstListed
  obtain ⟨other, otherListed, rfl, same, sameKnown, sameNumber, sameNamed⟩ :=
    of_mem_memberRows secondListed
  have agents : agent = same :=
    List.inj_on_of_nodup_map intact.spiffeids known sameKnown (named.trans sameNamed.symm)
  have numbers : row.agentId = other.agentId := by rw [← number, ← sameNumber, agents]
  rw [List.inj_on_of_nodup_map intact.members listed otherListed numbers]

/-- The rules that the tables are declared with. -/
structure KeepsRules (t : Tables) : Prop where
  agentIds : (t.agents.map (·.id)).Nodup
  spiffeids : (t.agents.map (·.spiffeid)).Nodup
  clusterIds : (t.clusters.map (·.id)).Nodup
  uids : (t.clusters.map (·.uid)).Nodup
  names : (t.clusters.map (·.name)).Nodup
  oneMembership : (t.memberships.map (·.agentId)).Nodup
  oneEntry : (t.selectors.map (·.agentId)).Nodup
  membersKnown : ∀ row ∈ t.memberships, ∃ agent ∈ t.agents, agent.id = row.agentId
  membersPlaced : ∀ row ∈ t.memberships, ∃ cluster ∈ t.clusters, cluster.id = row.clusterId
  selectorsKnown : ∀ row ∈ t.selectors, ∃ agent ∈ t.agents, agent.id = row.agentId
  oneCluster : ∀ spiffeid first second, (first, spiffeid) ∈ t.placedMembers →
    (second, spiffeid) ∈ t.placedMembers → first = second

theorem Intact.keepsRules {terms : Terms} {t : Tables} (intact : t.Intact terms)
    (enforced : terms.foreignKeys = true) : t.KeepsRules where
  agentIds := intact.agentIds
  spiffeids := intact.spiffeids
  clusterIds := intact.clusterIds
  uids := intact.uids
  names := intact.names
  oneMembership := intact.members
  oneEntry := intact.attested
  membersKnown := fun row member => List.mem_map.mp (intact.known row member)
  membersPlaced := fun row member => List.mem_map.mp (intact.placed enforced row member)
  selectorsKnown := fun row member => List.mem_map.mp (intact.attestedKnown row member)
  oneCluster := by
    intro spiffeid first second firstPlaced secondPlaced
    obtain ⟨⟨number, _⟩, listed, joined⟩ := List.mem_filterMap.mp firstPlaced
    obtain ⟨⟨other, _⟩, otherListed, otherJoined⟩ := List.mem_filterMap.mp secondPlaced
    obtain ⟨cluster, found, same⟩ := Option.map_eq_some_iff.mp joined
    cases same
    obtain ⟨cluster, otherFound, same⟩ := Option.map_eq_some_iff.mp otherJoined
    cases same
    rw [intact.oneMember listed otherListed] at found
    exact Option.some.inj (found.symm.trans otherFound)

end Tables

/-- Where all tables are lost, there is nothing that could break a rule. -/
theorem Connection.lasting_intact (foreignKeys : Bool) :
    Lasting (.any foreignKeys) (Satisfies foreignKeys (Tables.Intact (.any foreignKeys)))
      (Satisfies foreignKeys (Tables.Intact (.any foreignKeys))) :=
  lasting_satisfies (Tables.unbreakable_intact (.any foreignKeys)) (.empty _ TableName.all [])

/-- The tables of a new database are intact after any work. -/
theorem Work.intact_afterAll (foreignKeys inMemory : Bool) (missing : List TableName)
    (triggers : List Trigger) (mishaps : List (Option Mishap)) (works : List (Instant × Work)) :
    (afterAll works { foreignKeys, inMemory, stored := { missing, triggers }, mishaps }).Satisfies
      foreignKeys (Tables.Intact (.any foreignKeys)) :=
  afterAll_keeps (Connection.lasting_intact foreignKeys)
    (fun work _ => work.2.admitted_any foreignKeys) ⟨rfl, .empty _ missing triggers, nofun⟩

/-- A database that enforces references keeps the rules of its tables, so that no agent is ever in
two clusters. They hold after all operations and sessions that callers may have done, and inside of
a session after any steps. Any values may be given, any table may be missing, any statement may
fail, and a session may go on after a failure and end in any way, even if a database in memory is
lost with it. -/
theorem rules_kept (inMemory : Bool) (missing : List TableName) (triggers : List Trigger)
    (mishaps : List (Option Mishap)) (works : List (Instant × Work)) :
    let c := Work.afterAll works
      { foreignKeys := true, inMemory, stored := { missing, triggers }, mishaps }
    c.stored.KeepsRules ∧
      ∀ now steps, (Session.runSteps now steps (Transaction.begin c).2).2.tables.KeepsRules := by
  intro c
  have satisfies := Work.intact_afterAll true inMemory missing triggers mishaps works
  refine ⟨satisfies.stored.keepsRules rfl, fun now steps => ?_⟩
  have stepped : (Session.runSteps now steps (Transaction.begin c).2).2.Satisfies true
      (Tables.Intact (.any true)) :=
    Session.runSteps_keeps (Connection.lasting_intact true).toKept now
      (fun step _ => step.admitted_any true) (Transaction.satisfies_begin satisfies)
  exact stepped.tables.keepsRules rfl

end Roster.Database
