import Roster.Proofs.Text.Tidy

/-!
What reading makes of texts that were stored unchecked. A text that is not blank is read without the
white space at its ends, and a blank one is refused.
-/

namespace Roster

theorem nonBlank_of_legible {s : String} (legible : Text.trim s ≠ "") (reason : Invalid) :
    nonBlank reason s = .ok (Text.trim s) := by
  simp only [nonBlank, if_neg legible]

theorem of_nonBlank {reason : Invalid} {s t : String} (passed : nonBlank reason s = .ok t) :
    t = Text.trim s ∧ Text.trim s ≠ "" := by
  simp only [nonBlank] at passed
  split at passed
  next => cases passed
  next legible => cases passed; exact ⟨rfl, legible⟩

/-! ## Identities, uids and names -/

namespace AgentId

def trimmed (agent : AgentId) : AgentId := ⟨Text.trim agent.text⟩

/-- Whether anything is left of the identity. -/
def Legible (agent : AgentId) : Prop := Text.trim agent.text ≠ ""

theorem parse_of_legible {agent : AgentId} (legible : agent.Legible) :
    parse agent.text = .ok agent.trimmed := by
  rw [parse, nonBlank_of_legible legible]
  rfl

theorem of_parse {s : String} {agent : AgentId} (parsed : parse s = .ok agent) :
    agent = trimmed ⟨s⟩ ∧ Legible ⟨s⟩ := by
  obtain ⟨t, passed, rfl⟩ := of_map_eq_ok parsed
  obtain ⟨rfl, legible⟩ := of_nonBlank passed
  exact ⟨rfl, legible⟩

theorem trimmed_of_tidy {agent : AgentId} (tidy : agent.Tidy) : agent.trimmed = agent := by
  rw [trimmed, tidy.trimmed]

theorem legible_of_tidy {agent : AgentId} (tidy : agent.Tidy) : agent.Legible := by
  rw [Legible, tidy.trimmed]
  exact tidy.nonempty

theorem map_trimmed_of_tidy {agents : List AgentId} (tidy : ∀ agent ∈ agents, agent.Tidy) :
    agents.map trimmed = agents := by
  rw [List.map_congr_left fun agent member => trimmed_of_tidy (tidy agent member), List.map_id']

theorem eq_map_of_parseBatchAfter {seen agents : List AgentId} {entries : List String}
    (parsed : parseBatchAfter seen entries = .ok agents) :
    agents = entries.map fun s => trimmed ⟨s⟩ := by
  induction entries generalizing seen agents with
  | nil => cases parsed; rfl
  | cons s rest ih =>
    unfold parseBatchAfter at parsed
    split at parsed
    next => cases parsed
    next first checked =>
      split at parsed
      next => cases parsed
      next =>
        obtain ⟨tail, others, rfl⟩ := of_map_eq_ok parsed
        rw [List.map_cons, (of_parse checked).1, ih others]

end AgentId

namespace ClusterUid

def trimmed (uid : ClusterUid) : ClusterUid := ⟨Text.trim uid.text⟩

def Legible (uid : ClusterUid) : Prop := Text.trim uid.text ≠ ""

theorem parse_of_legible {uid : ClusterUid} (legible : uid.Legible) :
    parse uid.text = .ok uid.trimmed := by
  rw [parse, nonBlank_of_legible legible]
  rfl

theorem of_parse {s : String} {uid : ClusterUid} (parsed : parse s = .ok uid) :
    uid = trimmed ⟨s⟩ ∧ Legible ⟨s⟩ := by
  obtain ⟨t, passed, rfl⟩ := of_map_eq_ok parsed
  obtain ⟨rfl, legible⟩ := of_nonBlank passed
  exact ⟨rfl, legible⟩

theorem trimmed_of_tidy {uid : ClusterUid} (tidy : uid.Tidy) : uid.trimmed = uid := by
  rw [trimmed, tidy.trimmed]

end ClusterUid

namespace ClusterName

def trimmed (name : ClusterName) : ClusterName := ⟨Text.trim name.text⟩

def Legible (name : ClusterName) : Prop := Text.trim name.text ≠ ""

theorem parse_of_legible {name : ClusterName} (legible : name.Legible) :
    parse name.text = .ok name.trimmed := by
  rw [parse, nonBlank_of_legible legible]
  rfl

theorem of_parse {s : String} {name : ClusterName} (parsed : parse s = .ok name) :
    name = trimmed ⟨s⟩ ∧ Legible ⟨s⟩ := by
  obtain ⟨t, passed, rfl⟩ := of_map_eq_ok parsed
  obtain ⟨rfl, legible⟩ := of_nonBlank passed
  exact ⟨rfl, legible⟩

theorem trimmed_of_tidy {name : ClusterName} (tidy : name.Tidy) : name.trimmed = name := by
  rw [trimmed, tidy.trimmed]

end ClusterName

/-! ## Clusters -/

namespace Cluster

/-- The cluster as it is read back. -/
def trimmed (cluster : Cluster) : Cluster :=
  { cluster with
    uid := cluster.uid.trimmed
    name := cluster.name.trimmed
    members := cluster.members.map AgentId.trimmed }

/-- Neither the uid nor the name nor any member is blank. -/
structure Legible (cluster : Cluster) : Prop where
  uid : cluster.uid.Legible
  name : cluster.name.Legible
  members : ∀ agent ∈ cluster.members, agent.Legible

theorem trimmed_of_tidy {cluster : Cluster} (tidy : cluster.Tidy) : cluster.trimmed = cluster := by
  rw [trimmed, ClusterUid.trimmed_of_tidy tidy.uid, ClusterName.trimmed_of_tidy tidy.name,
    AgentId.map_trimmed_of_tidy tidy.members]

theorem legible_of_tidy {cluster : Cluster} (tidy : cluster.Tidy) : cluster.Legible where
  uid := by
    rw [ClusterUid.Legible, tidy.uid.trimmed]
    exact tidy.uid.nonempty
  name := by
    rw [ClusterName.Legible, tidy.name.trimmed]
    exact tidy.name.nonempty
  members := fun agent member => AgentId.legible_of_tidy (tidy.members agent member)

end Cluster

/-! ## Agents -/

namespace Agent

/-- The agent as it is read back. -/
def trimmed (agent : Agent) : Agent :=
  { agent with id := agent.id.trimmed, cluster := agent.cluster.map ClusterName.trimmed }

theorem trimmed_of_tidy {agent : Agent} (tidy : agent.id.Tidy)
    (clusterTidy : ∀ name ∈ agent.cluster, name.Tidy) : agent.trimmed = agent := by
  obtain ⟨id, plugin, cluster⟩ := agent
  have id_same : id.trimmed = id := AgentId.trimmed_of_tidy tidy
  cases cluster with
  | none => rw [trimmed, id_same, Option.map_none]
  | some name =>
    rw [trimmed, id_same, Option.map_some, ClusterName.trimmed_of_tidy (clusterTidy name rfl)]

end Agent

/-! ## Answers -/

/-- The answer as it is read back. -/
def Answer.trimmed : Answer → Answer
  | .cluster record => .cluster record.trimmed
  | .clusters records => .clusters (records.map Cluster.trimmed)
  | .clusterName name => .clusterName name.trimmed
  | .members listed => .members (listed.map AgentId.trimmed)
  | answer => answer

/-- Nothing that a write reads back for the answer is blank. -/
def Answer.Legible : Answer → Prop
  | .cluster record => record.Legible
  | _ => True

end Roster
