import Roster.Database.Store
import Roster.Proofs.Database.Calm
import Roster.Proofs.Database.Changes
import Roster.Proofs.Database.Encoding
import Roster.Proofs.Payload.RoundTrip
import Roster.Proofs.Memory.Legible

/-!
Reads of a database that holds a registry answer as the registry does.

First what each selection finds in the tables of the registry, then what the read makes of it. The
texts that were selected pass the checks as long as none of them is blank, and lose the white space
at their ends. A registry that holds tidy values only is read unchanged.
-/

namespace Roster.Database

open Text

namespace Numbering.Encodes

variable {n : Numbering} {m : Memory} {t : Tables}

/-! ## Selections -/

theorem selectAgents (encodes : n.Encodes m t) :
    t.selectAgents =
      .ok ((sortOn (·.1.text) m.agents).map fun entry => (entry.1.text, entry.2)) := by
  rw [Tables.selectAgents, encodes.require, encodes.agents, sortOn_map, List.map_map]
  rfl

theorem selectPlugin (encodes : n.Encodes m t) (agent : AgentId) :
    t.selectPlugin agent.text = .ok (m.agents.find? agent) := by
  rw [Tables.selectPlugin, encodes.require, encodes.agentNamed?]
  cases m.agents.find? agent <;> rfl

theorem selectAgentId (encodes : n.Encodes m t) {agent : AgentId}
    (known : agent ∈ m.agents.keys) :
    t.selectAgentId agent.text = .ok (some (n.agent agent)) := by
  obtain ⟨plugin, found⟩ := Directory.exists_find? known
  rw [Tables.selectAgentId, encodes.require, encodes.agentNamed?, found]
  rfl

/-- Nothing is attested of an agent that is not known. -/
theorem selectSelectors (encodes : n.Encodes m t) (sound : m.Sound) (agent : AgentId) :
    t.selectSelectors agent.text = .ok ((m.attestations.find? agent).map fun entry =>
      (entry.plugin, Attestation.selectorsCodec.encode entry.selectors)) := by
  rw [Tables.selectSelectors, encodes.require, encodes.agentNamed?]
  cases found : m.agents.find? agent with
  | none =>
    have absent : m.attestations.find? agent = none := by
      rw [Directory.find?_eq_none_iff] at found ⊢
      intro listed
      obtain ⟨entry, member⟩ := Directory.mem_keys.mp listed
      exact found (sound.attested _ member).2
    rw [absent]
    rfl
  | some plugin =>
    have known := Directory.mem_keys_of_find? found
    change Except.ok ((t.selectors.find? (·.agentId = n.agent agent)).map _) = _
    rw [encodes.find?_selectors sound known, Option.map_map]
    rfl

theorem selectCluster (encodes : n.Encodes m t) (uid : ClusterUid) :
    t.selectCluster uid.text =
      .ok ((m.clusters.find? uid).map fun stored => n.clusterRow (uid, stored)) := by
  rw [Tables.selectCluster, encodes.require, encodes.clusterWith?]
  rfl

theorem selectClusters (encodes : n.Encodes m t) :
    t.selectClusters = .ok ((sortOn (·.2.name.text) m.clusters).map n.clusterRow) := by
  rw [Tables.selectClusters, encodes.require, encodes.clusters, sortOn_map]
  rfl

theorem sortOn_members (uid : ClusterUid) :
    sortOn id ((m.memberships.filter fun entry => entry.2 = uid).map fun entry => entry.1.text) =
      (m.members uid).map AgentId.text := by
  rw [Memory.members, AgentId.sort, sortOn_map, sortOn_map, List.map_map]
  rfl

theorem selectClusterMembers (encodes : n.Encodes m t) (sound : m.Sound) {uid : ClusterUid}
    (present : uid ∈ m.clusters.keys) :
    t.selectClusterMembers (n.cluster uid) = .ok ((m.members uid).map AgentId.text) := by
  have chosen : (m.memberships.map fun entry => (n.cluster entry.2, entry.1.text)).filter
      (fun member => member.1 = n.cluster uid) =
        (m.memberships.filter fun entry => entry.2 = uid).map fun entry =>
          (n.cluster entry.2, entry.1.text) := by
    rw [List.filter_map]
    congr 1
    apply List.filter_congr
    intro entry member
    exact encodes.tells_cluster (sound.placed entry member) present
  rw [Tables.selectClusterMembers, encodes.require, encodes.memberRows sound, chosen,
    List.map_map, ← sortOn_members]
  rfl

theorem selectMemberships (encodes : n.Encodes m t) (sound : m.Sound) :
    t.selectMemberships = .ok ((sortOn (·.1.text) m.memberships).map fun entry =>
      (n.cluster entry.2, entry.1.text)) := by
  rw [Tables.selectMemberships, encodes.require, encodes.memberRows sound, sortOn_map]
  rfl

theorem selectClusterName (encodes : n.Encodes m t) (sound : m.Sound) (agent : AgentId) :
    t.selectClusterName agent.text = .ok ((m.clusterNameOf? agent).map ClusterName.text) := by
  have found : (m.memberships.map fun entry =>
      (n.clusterRow (entry.2, m.stored entry.2), entry.1.text)).find?
        (fun member => member.2 = agent.text) =
      (m.memberships.find? agent).map fun uid => (n.clusterRow (uid, m.stored uid), agent.text) :=
    Directory.find?_rows fun entry _ => by simp
  rw [Tables.selectClusterName, encodes.require, encodes.placedMembers sound, found,
    Memory.clusterNameOf?]
  cases member : m.memberships.find? agent with
  | none => rfl
  | some uid =>
    rw [Option.bind_some, Memory.find?_stored (sound.placed _ (Directory.mem_of_find? member))]
    rfl

theorem selectMembersOf (encodes : n.Encodes m t) (sound : m.Sound) (uid : ClusterUid) :
    t.selectMembersOf uid.text = .ok ((m.members uid).map AgentId.text) := by
  have chosen : (m.memberships.map fun entry =>
      (n.clusterRow (entry.2, m.stored entry.2), entry.1.text)).filter
        (fun member => member.1.uid = uid.text) =
      (m.memberships.filter fun entry => entry.2 = uid).map fun entry =>
        (n.clusterRow (entry.2, m.stored entry.2), entry.1.text) := by
    rw [List.filter_map]
    congr 1
    apply List.filter_congr
    intro entry _
    simp [clusterRow]
  rw [Tables.selectMembersOf, encodes.require, encodes.placedMembers sound, chosen,
    List.map_map, ← sortOn_members]
  rfl

/-- Selecting the agents of a filter and sorting them changes places with sorting all agents. -/
theorem selectMetadata (encodes : n.Encodes m t) (sound : m.Sound) {filter : AgentFilter}
    (room : (Statement.selectMetadata filter.agents.length).Fits) :
    t.selectMetadata (filter.agents.map AgentId.text) =
      .ok ((m.describeAgents filter).map fun agent =>
        (agent.id.text, agent.plugin, agent.cluster.map ClusterName.text)) := by
  let wanted := filter.agents.map AgentId.text
  have chosen : (m.agents.map n.agentRow).filter
      (fun row => wanted.isEmpty || row.spiffeid ∈ wanted) =
        (m.agents.filter fun entry => filter.selects entry.1).map n.agentRow := by
    rw [List.filter_map]
    congr 1
    apply List.filter_congr
    intro entry _
    simp [wanted, agentRow, AgentFilter.selects, AgentFilter.selectsAll]
  have described : (t.selectMetadata wanted) =
      .ok ((sortOn (·.spiffeid) ((m.agents.map n.agentRow).filter
        fun row => wanted.isEmpty || row.spiffeid ∈ wanted)).map fun row =>
          (row.spiffeid, row.plugin, t.clusterNameOf? row)) := by
    have length : wanted.length = filter.agents.length := List.length_map _
    rw [← length] at room
    rw [Tables.selectMetadata, Tables.accept_of_fits room, encodes.require, encodes.agents]
    rfl
  have distinct := distinguishes_of_nodup (AgentId.nodup_texts sound.agents)
  rw [described, chosen, sortOn_map, Memory.describeAgents, Memory.listAgents, List.filter_map,
    List.map_map, List.map_map, List.map_map]
  change Except.ok ((sortOn (·.1.text) (m.agents.filter fun entry => filter.selects entry.1)).map _)
    = Except.ok (((sortOn (·.1.text) m.agents).filter fun entry => filter.selects entry.1).map _)
  rw [filter_sortOn distinct]
  congr 1
  apply List.map_congr_left
  intro entry member
  have known : entry.1 ∈ m.agents.keys :=
    Directory.mem_keys_of_mem (List.mem_filter.mp (mem_sortOn.mp member)).1
  change (entry.1.text, entry.2, t.clusterNameOf? (n.agentRow (entry.1, entry.2))) = _
  rw [encodes.clusterNameOf? sound known]
  rfl

end Numbering.Encodes

/-! ## Connections -/

/-- A statement on this connection finds the tables of the registry, which holds tidy values. -/
structure Sees (c : Connection) (m : Memory) : Prop where
  calm : c.mishaps = []
  sound : m.Sound
  tidy : m.Tidy
  encoded : ∃ n : Numbering, n.Encodes m c.tables

/-- A statement on this connection finds the tables of the registry, in which no cluster has a blank
text. -/
structure Finds (c : Connection) (m : Memory) : Prop where
  calm : c.mishaps = []
  sound : m.Sound
  legible : m.Legible
  encoded : ∃ n : Numbering, n.Encodes m c.tables

theorem Sees.finds {c : Connection} {m : Memory} (sees : Sees c m) : Finds c m where
  calm := sees.calm
  sound := sees.sound
  legible := Memory.legible_of_tidy sees.sound sees.tidy
  encoded := sees.encoded

/-! ## Checks of what was selected -/

theorem of_corrupt {α : Type} {result : Except Invalid α} {a : α}
    (passed : corrupt result = .ok a) : result = .ok a := by
  cases result with
  | error reason => cases passed
  | ok told => cases passed; rfl

theorem parseMembers_of_legible {agents : List AgentId}
    (legible : ∀ agent ∈ agents, agent.Legible) :
    parseMembers (agents.map AgentId.text) = .ok (agents.map AgentId.trimmed) := by
  have passes : ∀ agent ∈ agents,
      ((fun spiffeid => corrupt (AgentId.parse spiffeid)) ∘ AgentId.text) agent =
        .ok agent.trimmed := by
    intro agent member
    rw [Function.comp_apply, AgentId.parse_of_legible (legible agent member)]
    rfl
  rw [parseMembers, List.mapM_map, mapM_eq_ok passes]

theorem of_parseMembers {agents read : List AgentId}
    (parsed : parseMembers (agents.map AgentId.text) = .ok read) :
    read = agents.map AgentId.trimmed ∧ ∀ agent ∈ agents, agent.Legible := by
  induction agents generalizing read with
  | nil => cases parsed; exact ⟨rfl, nofun⟩
  | cons agent rest ih =>
    rw [parseMembers, List.map_cons, List.mapM_cons] at parsed
    obtain ⟨first, checked, later⟩ := of_bind_eq_ok parsed
    obtain ⟨others, remaining, same⟩ := of_bind_eq_ok later
    cases same
    obtain ⟨rfl, legible⟩ := AgentId.of_parse (of_corrupt checked)
    obtain ⟨rfl, othersLegible⟩ := ih remaining
    exact ⟨rfl, List.forall_mem_cons.mpr ⟨legible, othersLegible⟩⟩

namespace Numbering

variable {n : Numbering} {m : Memory} {uid : ClusterUid} {stored : StoredCluster}

theorem toCluster_of_legible (legible : (m.toCluster uid stored).Legible) :
    (n.clusterRow (uid, stored)).toCluster ((m.members uid).map AgentId.trimmed) =
      .ok (m.toCluster uid stored).trimmed := by
  have uidRead : ClusterUid.parse (n.clusterRow (uid, stored)).uid = .ok uid.trimmed :=
    ClusterUid.parse_of_legible legible.uid
  have nameRead : ClusterName.parse (n.clusterRow (uid, stored)).name = .ok stored.name.trimmed :=
    ClusterName.parse_of_legible legible.name
  rw [ClusterRow.toCluster, uidRead, nameRead]
  rfl

theorem of_toCluster {members : List AgentId} {record : Cluster}
    (read : (n.clusterRow (uid, stored)).toCluster members = .ok record) :
    uid.Legible ∧ stored.name.Legible ∧ record =
      { uid := uid.trimmed, name := stored.name.trimmed, created := some stored.created,
        domain := stored.domain, manager := stored.manager, platform := stored.platform,
        members } := by
  obtain ⟨readUid, checked, rest⟩ := of_bind_eq_ok read
  obtain ⟨readName, named, same⟩ := of_bind_eq_ok rest
  cases same
  obtain ⟨rfl, uidLegible⟩ := ClusterUid.of_parse (of_corrupt checked)
  obtain ⟨rfl, nameLegible⟩ := ClusterName.of_parse (of_corrupt named)
  exact ⟨uidLegible, nameLegible, rfl⟩

end Numbering

namespace Store

variable {c : Connection} {m : Memory}

theorem listAgents_trimmed (finds : Finds c m) (legible : ∀ agent ∈ m.agents.keys, agent.Legible) :
    listAgents c = (.ok (m.listAgents.map Agent.trimmed), c) := by
  obtain ⟨n, encodes⟩ := finds.encoded
  rw [listAgents, Action.bind_of_ok (Action.read_of_ok finds.calm encodes.selectAgents),
    List.mapM_map, mapM_eq_ok (f := fun entry => { id := entry.1.trimmed, plugin := entry.2 }),
    Memory.listAgents, List.map_map]
  · rfl
  intro entry listed
  have known := Directory.mem_keys_of_mem (mem_sortOn.mp listed)
  have read := AgentId.parse_of_legible (legible _ known)
  simp only [Function.comp, read]
  rfl

theorem listAgents_eq (sees : Sees c m) : listAgents c = (.ok m.listAgents, c) := by
  have legible : ∀ agent ∈ m.agents.keys, agent.Legible :=
    fun agent known => AgentId.legible_of_tidy (sees.tidy.agents agent known)
  rw [listAgents_trimmed sees.finds legible, List.map_congr_left, List.map_id]
  intro agent member
  obtain ⟨entry, sorted, rfl⟩ := List.mem_map.mp member
  have known := Directory.mem_keys_of_mem (mem_sortOn.mp sorted)
  exact Agent.trimmed_of_tidy (sees.tidy.agents _ known) nofun

theorem findAgent_eq (finds : Finds c m) (agent : AgentId) :
    findAgent agent c = (m.findAgent agent, c) := by
  obtain ⟨n, encodes⟩ := finds.encoded
  rw [findAgent, Action.bind_of_ok (Action.read_of_ok finds.calm (encodes.selectPlugin agent)),
    Memory.findAgent]
  cases m.agents.find? agent <;> rfl

/-- What was attested is read as it is if it is tidy, whatever else the registry holds. -/
theorem findAttestation_eq (finds : Finds c m) (tidy : ∀ entry ∈ m.attestations, entry.2.Tidy)
    (agent : AgentId) : findAttestation agent c = (m.findAttestation agent, c) := by
  obtain ⟨n, encodes⟩ := finds.encoded
  rw [findAttestation,
    Action.bind_of_ok (Action.read_of_ok finds.calm (encodes.selectSelectors finds.sound agent)),
    Memory.findAttestation]
  cases found : m.attestations.find? agent with
  | none => rfl
  | some entry =>
    have member := Directory.mem_of_find? found
    have same : entry.agent = agent := (finds.sound.attested _ member).1
    have read : readAttestation agent entry.plugin
        (Attestation.selectorsCodec.encode entry.selectors) = .ok entry := by
      rw [readAttestation, Attestation.decode_encode, ← same]
      exact congrArg corrupt (Attestation.check_of_tidy (tidy _ member))
    change Action.lift (readAttestation agent entry.plugin
      (Attestation.selectorsCodec.encode entry.selectors)) c = _
    rw [read]
    rfl

theorem clusterOf_trimmed (finds : Finds c m) (agent : AgentId) :
    clusterOf agent c = ((m.clusterOf agent).map ClusterName.trimmed, c) := by
  obtain ⟨n, encodes⟩ := finds.encoded
  rw [clusterOf,
    Action.bind_of_ok (Action.read_of_ok finds.calm (encodes.selectClusterName finds.sound agent)),
    Memory.clusterOf]
  cases named : m.clusterNameOf? agent with
  | none => rfl
  | some name =>
    change Action.lift (corrupt (ClusterName.parse name.text)) c = _
    rw [ClusterName.parse_of_legible (finds.legible.clusterNameOf? named)]
    rfl

theorem clusterOf_eq (sees : Sees c m) (agent : AgentId) :
    clusterOf agent c = (m.clusterOf agent, c) := by
  rw [clusterOf_trimmed sees.finds, Memory.clusterOf_trimmed sees.tidy]

theorem membersOf_trimmed (finds : Finds c m) (uid : ClusterUid) :
    membersOf uid c = (.ok ((m.members uid).map AgentId.trimmed), c) := by
  obtain ⟨n, encodes⟩ := finds.encoded
  rw [membersOf,
    Action.bind_of_ok (Action.read_of_ok finds.calm (encodes.selectMembersOf finds.sound uid)),
    parseMembers_of_legible (finds.legible.members finds.sound uid)]
  rfl

theorem membersOf_eq (sees : Sees c m) (uid : ClusterUid) :
    membersOf uid c = (.ok (m.members uid), c) := by
  rw [membersOf_trimmed sees.finds,
    AgentId.map_trimmed_of_tidy (Memory.tidy_members sees.sound sees.tidy uid)]

theorem describe_of_legible {agent : Agent} (legible : agent.id.Legible)
    (clusterLegible : ∀ name ∈ agent.cluster, name.Legible) :
    describe agent.id.text agent.plugin (agent.cluster.map ClusterName.text) =
      .ok agent.trimmed := by
  obtain ⟨id, plugin, cluster⟩ := agent
  have read : (cluster.map ClusterName.text).mapM
      (fun name => corrupt (ClusterName.parse name)) = .ok (cluster.map ClusterName.trimmed) := by
    cases cluster with
    | none => rfl
    | some name =>
      change some <$> corrupt (ClusterName.parse name.text) = _
      rw [ClusterName.parse_of_legible (clusterLegible name rfl)]
      rfl
  simp only [describe, read, AgentId.parse_of_legible legible]
  rfl

/-- An agent that is described is known, and has the name of its cluster. -/
theorem of_mem_describeAgents {filter : AgentFilter} {agent : Agent}
    (member : agent ∈ m.describeAgents filter) :
    agent.id ∈ m.agents.keys ∧ agent.cluster = m.clusterNameOf? agent.id := by
  obtain ⟨listed, chosen, rfl⟩ := List.mem_map.mp member
  obtain ⟨entry, sorted, rfl⟩ := List.mem_map.mp (List.mem_filter.mp chosen).1
  exact ⟨Directory.mem_keys_of_mem (mem_sortOn.mp sorted), rfl⟩

theorem describeAgents_trimmed (finds : Finds c m)
    (legible : ∀ agent ∈ m.agents.keys, agent.Legible) {filter : AgentFilter}
    (room : (Statement.selectMetadata filter.agents.length).Fits) :
    describeAgents filter c = (.ok ((m.describeAgents filter).map Agent.trimmed), c) := by
  obtain ⟨n, encodes⟩ := finds.encoded
  rw [describeAgents,
    Action.bind_of_ok (Action.read_of_ok finds.calm (encodes.selectMetadata finds.sound room)),
    List.mapM_map, mapM_eq_ok (f := Agent.trimmed)]
  · rfl
  intro agent member
  obtain ⟨known, placed⟩ := of_mem_describeAgents member
  apply describe_of_legible (legible _ known)
  intro name named
  exact finds.legible.clusterNameOf? (placed.symm.trans named)

theorem describeAgents_eq (sees : Sees c m) {filter : AgentFilter}
    (room : (Statement.selectMetadata filter.agents.length).Fits) :
    describeAgents filter c = (.ok (m.describeAgents filter), c) := by
  have legible : ∀ agent ∈ m.agents.keys, agent.Legible :=
    fun agent known => AgentId.legible_of_tidy (sees.tidy.agents agent known)
  rw [describeAgents_trimmed sees.finds legible room, List.map_congr_left, List.map_id]
  intro agent member
  obtain ⟨known, placed⟩ := of_mem_describeAgents member
  apply Agent.trimmed_of_tidy (sees.tidy.agents _ known)
  intro name named
  obtain ⟨stored, present, rfl⟩ := Memory.mem_of_clusterNameOf? (placed.symm.trans named)
  exact sees.tidy.names stored present

/-- A filter that is too long is refused before anything is looked at. -/
theorem describeAgents_of_excess (calm : c.mishaps = []) {filter : AgentFilter}
    (excess : ¬(Statement.selectMetadata filter.agents.length).Fits) :
    describeAgents filter c =
      (.error ((Statement.selectMetadata filter.agents.length).failure .tooManyValues), c) := by
  let wanted := filter.agents.map AgentId.text
  have length : wanted.length = filter.agents.length := List.length_map _
  rw [← length] at excess ⊢
  have refused : c.tables.selectMetadata wanted = .error .tooManyValues := by
    rw [Tables.selectMetadata, Tables.accept_of_excess excess]
    rfl
  have read : Action.read (.selectMetadata wanted.length) (fun t => t.selectMetadata wanted) c =
      (.error ((Statement.selectMetadata wanted.length).failure .tooManyValues), c) :=
    Action.read_of_error calm refused
  exact Action.bind_of_error read _

/-- Where no identity is blank, each cluster gets the members with its number. -/
theorem assemble_of_legible {rows : List ClusterRow} {members : List (Nat × String)}
    (legible : ∀ member ∈ members, AgentId.Legible ⟨member.2⟩) :
    assemble rows members = rows.mapM fun row => row.toCluster
      ((members.filter fun member => member.1 = row.id).map fun member =>
        AgentId.trimmed ⟨member.2⟩) := by
  rw [assemble, mapM_eq_ok (f := fun member => (member.1, AgentId.trimmed ⟨member.2⟩)), ok_bind]
  · apply mapM_congr
    intro row _
    rw [List.filter_map, List.map_map]
    rfl
  · rintro ⟨clusterId, spiffeid⟩ listed
    let agent : AgentId := ⟨spiffeid⟩
    have visible : agent.Legible := legible (clusterId, spiffeid) listed
    have read : AgentId.parse spiffeid = .ok agent.trimmed := AgentId.parse_of_legible visible
    simp only [read]
    rfl

/-- The members of a cluster among those of all clusters, which are sorted already. -/
theorem members_of_all {n : Numbering} {t : Tables} (encodes : n.Encodes m t) (sound : m.Sound)
    {uid : ClusterUid} (present : uid ∈ m.clusters.keys) :
    (((sortOn (·.1.text) m.memberships).map fun entry => (n.cluster entry.2, entry.1.text)).filter
      fun member => member.1 = n.cluster uid).map (fun member => AgentId.trimmed ⟨member.2⟩) =
        (m.members uid).map AgentId.trimmed := by
  have chosen : ((sortOn (·.1.text) m.memberships).map fun entry =>
      (n.cluster entry.2, entry.1.text)).filter (fun member => member.1 = n.cluster uid) =
        ((sortOn (·.1.text) m.memberships).filter fun entry => entry.2 = uid).map fun entry =>
          (n.cluster entry.2, entry.1.text) := by
    rw [List.filter_map]
    congr 1
    apply List.filter_congr
    intro entry member
    exact encodes.tells_cluster (sound.placed entry (mem_sortOn.mp member)) present
  have distinct := distinguishes_of_nodup (AgentId.nodup_texts sound.memberships)
  rw [chosen, List.map_map, filter_sortOn distinct, Memory.members, AgentId.sort, sortOn_map,
    List.map_map]
  rfl

theorem assemble_trimmed {n : Numbering} {t : Tables} (encodes : n.Encodes m t) (sound : m.Sound)
    (legible : m.Legible) :
    assemble ((sortOn (·.2.name.text) m.clusters).map n.clusterRow)
      ((sortOn (·.1.text) m.memberships).map fun entry => (n.cluster entry.2, entry.1.text)) =
        .ok (m.listClusters.map Cluster.trimmed) := by
  rw [assemble_of_legible, List.mapM_map,
    mapM_eq_ok (f := fun entry => (m.toCluster entry.1 entry.2).trimmed), Memory.listClusters,
    sortOn_map, List.map_map]
  · rfl
  · intro entry sorted
    have listed := mem_sortOn.mp sorted
    have members := members_of_all encodes sound (Directory.mem_keys_of_mem listed)
    change (n.clusterRow entry).toCluster (((_ : List (Nat × String)).filter fun member =>
      member.1 = n.cluster entry.1).map fun member => AgentId.trimmed ⟨member.2⟩) = _
    rw [members]
    exact Numbering.toCluster_of_legible (legible.toCluster listed)
  · intro member selected
    obtain ⟨entry, sorted, rfl⟩ := List.mem_map.mp selected
    have assigned := Memory.mem_members.mpr (mem_sortOn.mp sorted)
    exact legible.members sound entry.2 entry.1 assigned

theorem assemble_eq {n : Numbering} {t : Tables} (encodes : n.Encodes m t) (sound : m.Sound)
    (tidy : m.Tidy) :
    assemble ((sortOn (·.2.name.text) m.clusters).map n.clusterRow)
      ((sortOn (·.1.text) m.memberships).map fun entry => (n.cluster entry.2, entry.1.text)) =
        .ok m.listClusters := by
  rw [assemble_trimmed encodes sound (Memory.legible_of_tidy sound tidy),
    Memory.listClusters_trimmed sound tidy]

theorem listClusters_trimmed (finds : Finds c m) :
    listClusters c = (.ok (m.listClusters.map Cluster.trimmed), c) := by
  obtain ⟨n, encodes⟩ := finds.encoded
  rw [listClusters, Action.bind_of_ok (Action.read_of_ok finds.calm encodes.selectClusters),
    Action.bind_of_ok (Action.read_of_ok finds.calm (encodes.selectMemberships finds.sound)),
    assemble_trimmed encodes finds.sound finds.legible]
  rfl

theorem listClusters_eq (sees : Sees c m) : listClusters c = (.ok m.listClusters, c) := by
  rw [listClusters_trimmed sees.finds, Memory.listClusters_trimmed sees.sound sees.tidy]

end Store

theorem Transaction.loadCluster_trimmed {c : Connection} {m : Memory} (finds : Finds c m)
    (uid : ClusterUid) :
    Transaction.loadCluster uid c = ((m.findCluster uid).map Cluster.trimmed, c) := by
  obtain ⟨n, encodes⟩ := finds.encoded
  rw [Transaction.loadCluster,
    Action.bind_of_ok (Action.read_of_ok finds.calm (encodes.selectCluster uid)),
    Memory.findCluster]
  cases found : m.clusters.find? uid with
  | none => rfl
  | some stored =>
    have listed := Directory.mem_of_find? found
    have present := Directory.mem_keys_of_mem listed
    have members := encodes.selectClusterMembers finds.sound present
    refine (Action.bind_of_ok (Action.read_of_ok finds.calm members) _).trans ?_
    have legible : (m.toCluster uid stored).Legible := finds.legible.toCluster listed
    have parsed := parseMembers_of_legible (finds.legible.members finds.sound uid)
    rw [parsed, ok_bind, Numbering.toCluster_of_legible legible]
    rfl

theorem Transaction.loadCluster_eq {c : Connection} {m : Memory} (sees : Sees c m)
    (uid : ClusterUid) : Transaction.loadCluster uid c = (m.findCluster uid, c) := by
  rw [Transaction.loadCluster_trimmed sees.finds, Memory.findCluster]
  cases found : m.clusters.find? uid with
  | none => rfl
  | some stored =>
    have tidy := Memory.tidy_toCluster sees.sound sees.tidy (Directory.mem_of_find? found)
    exact congrArg (fun record => (Except.ok record, c)) (Cluster.trimmed_of_tidy tidy)

end Roster.Database
