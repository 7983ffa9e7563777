import Roster.Proofs.Memory.Alike

/-!
Agents that become known and nothing else.

Those of a batch that were not known are listed at their places among the others, without a plugin
and without a cluster. Nothing else that is read changes.
-/

namespace Roster

/-- An agent of which no more is known than its identity. -/
def Agent.plain (id : AgentId) : Agent := { id }

namespace Memory

open Text

variable {m other : Memory} {batch : List AgentId} {agent : AgentId}

/-- The registry with the agents of a batch known. -/
def learned (m : Memory) (batch : List AgentId) : Memory :=
  { m with agents := learn batch m.agents }

/-- The agents of a batch that are not known yet. -/
def newcomers (m : Memory) (batch : List AgentId) : List AgentId :=
  batch.filter fun agent => !m.agents.contains agent

theorem mem_newcomers : agent ∈ m.newcomers batch ↔ agent ∈ batch ∧ agent ∉ m.agents.keys := by
  rw [newcomers, List.mem_filter, Bool.not_eq_true', Directory.contains_eq_false_iff]

theorem find?_learned (m : Memory) (batch : List AgentId) (agent : AgentId) :
    (m.learned batch).agents.find? agent =
      (m.agents.find? agent).or (if agent ∈ batch then some none else none) :=
  find?_learn batch m.agents agent

theorem sound_learned (sound : m.Sound) (batch : List AgentId) : (m.learned batch).Sound :=
  sound_learn sound batch

theorem Alike.learned (alike : m.Alike other) (batch : List AgentId) :
    (m.learned batch).Alike (other.learned batch) :=
  { alike with
    agents := fun agent => by rw [find?_learned, find?_learned, alike.agents] }

/-! ## Reads -/

theorem findAgent_learned (m : Memory) (batch : List AgentId) (agent : AgentId) :
    (m.learned batch).findAgent agent =
      if agent ∈ m.newcomers batch then .ok (.plain agent) else m.findAgent agent := by
  rw [findAgent, find?_learned, findAgent]
  by_cases known : agent ∈ m.agents.keys
  · obtain ⟨plugin, found⟩ := Directory.exists_find? known
    have old : agent ∉ m.newcomers batch := fun new => (mem_newcomers.mp new).2 known
    rw [if_neg old, found]
    rfl
  · rw [Directory.find?_eq_none_iff.mpr known]
    by_cases batched : agent ∈ batch
    · rw [if_pos batched, if_pos (mem_newcomers.mpr ⟨batched, known⟩)]
      rfl
    · rw [if_neg batched, if_neg fun new => batched (mem_newcomers.mp new).1]
      rfl

theorem learned_perm (sound : m.Sound) (distinct : batch.Nodup) :
    (m.learned batch).agents.Perm (m.agents ++ (m.newcomers batch).map (·, none)) := by
  have newKeys : Directory.keys ((m.newcomers batch).map fun agent => (agent, (none : Option String)))
      = m.newcomers batch := by
    rw [Directory.keys, List.map_map]
    exact List.map_id _
  have keys : (Directory.keys (m.agents ++ (m.newcomers batch).map (·, none))).Nodup := by
    rw [Directory.keys, List.map_append]
    change (m.agents.keys ++ Directory.keys _).Nodup
    rw [newKeys, List.nodup_append]
    refine ⟨sound.agents, distinct.filter _, ?_⟩
    intro old known new member same
    exact (mem_newcomers.mp member).2 (same ▸ known)
  apply Directory.perm_of_find? (sound_learned sound batch).agents keys
  intro agent
  rw [find?_learned, Directory.find?_append, find?_batch]
  by_cases known : agent ∈ m.agents.keys
  · obtain ⟨plugin, found⟩ := Directory.exists_find? known
    rw [found]
    rfl
  · have same : agent ∈ m.newcomers batch ↔ agent ∈ batch :=
      mem_newcomers.trans (and_iff_left known)
    simp only [same]

/-- A list that says something of each agent, in the order of their identities. -/
def tabulate (keep : AgentId → Bool) (row : AgentId × Option String → Agent)
    (agents : Directory AgentId (Option String)) : List Agent :=
  sortOn (·.id.text) ((agents.filter fun entry => keep entry.1).map row)

theorem tabulate_learned (sound : m.Sound) (distinct : batch.Nodup) (keep : AgentId → Bool)
    (row : AgentId × Option String → Agent) (named : ∀ entry, (row entry).id = entry.1) :
    tabulate keep row (m.learned batch).agents = sortOn (·.id.text)
      (tabulate keep row m.agents ++
        ((m.newcomers batch).filter keep).map fun agent => row (agent, none)) := by
  have perm := ((learned_perm sound distinct).filter fun entry => keep entry.1).map row
  rw [List.filter_append, List.map_append, List.filter_map, List.map_map] at perm
  have ids : (((m.learned batch).agents.filter fun entry => keep entry.1).map row).map
      (·.id.text) = (((m.learned batch).agents.filter fun entry => keep entry.1).map
        fun entry => entry.1.text) := by
    rw [List.map_map]
    exact List.map_congr_left fun entry _ => congrArg AgentId.text (named entry)
  apply sortOn_of_perm
  · apply distinguishes_of_nodup
    rw [ids]
    exact (AgentId.nodup_texts (sound_learned sound batch).agents).sublist
      (List.filter_sublist.map _)
  · exact perm.trans ((sortOn_perm _ _).symm.append_right _)

theorem listAgents_eq_tabulate (m : Memory) :
    m.listAgents =
      tabulate (fun _ => true) (fun entry => { id := entry.1, plugin := entry.2 }) m.agents := by
  have all : m.agents.filter (fun _ => true) = m.agents := List.filter_eq_self.mpr fun _ _ => rfl
  rw [tabulate, all, sortOn_map]
  rfl

theorem describeAgents_eq_tabulate (sound : m.Sound) (filter : AgentFilter) :
    m.describeAgents filter = tabulate filter.selects
      (fun entry => { id := entry.1, plugin := entry.2, cluster := m.clusterNameOf? entry.1 })
      m.agents := by
  have distinct := distinguishes_of_nodup (AgentId.nodup_texts sound.agents)
  rw [tabulate, sortOn_map, describeAgents, listAgents, List.filter_map, List.map_map,
    filter_sortOn distinct]
  rfl

theorem listAgents_learned (sound : m.Sound) (distinct : batch.Nodup) :
    (m.learned batch).listAgents =
      sortOn (·.id.text) (m.listAgents ++ (m.newcomers batch).map Agent.plain) := by
  have rows := tabulate_learned sound distinct (fun _ => true)
    (fun entry => { id := entry.1, plugin := entry.2 }) fun _ => rfl
  have all : (m.newcomers batch).filter (fun _ => true) = m.newcomers batch :=
    List.filter_eq_self.mpr fun _ _ => rfl
  rw [all] at rows
  rw [listAgents_eq_tabulate, listAgents_eq_tabulate]
  exact rows

/-- An agent that was not known is a member of no cluster. -/
theorem describeAgents_learned (sound : m.Sound) (distinct : batch.Nodup) (filter : AgentFilter) :
    (m.learned batch).describeAgents filter = sortOn (·.id.text) (m.describeAgents filter ++
      ((m.newcomers batch).filter filter.selects).map Agent.plain) := by
  have rows := tabulate_learned sound distinct filter.selects
    (fun entry =>
      { id := entry.1, plugin := entry.2, cluster := m.clusterNameOf? entry.1 }) fun _ => rfl
  have bare : ((m.newcomers batch).filter filter.selects).map (fun agent =>
      ({ id := agent, plugin := none, cluster := m.clusterNameOf? agent } : Agent)) =
        ((m.newcomers batch).filter filter.selects).map Agent.plain := by
    apply List.map_congr_left
    intro agent member
    have unknown := (mem_newcomers.mp (List.mem_filter.mp member).1).2
    have outside : m.memberships.find? agent = none :=
      Directory.find?_eq_none_iff.mpr fun listed => unknown (sound.known agent listed)
    rw [clusterNameOf?, outside]
    rfl
  rw [describeAgents_eq_tabulate (sound_learned sound batch), describeAgents_eq_tabulate sound,
    ← bare]
  exact rows

end Memory

end Roster
