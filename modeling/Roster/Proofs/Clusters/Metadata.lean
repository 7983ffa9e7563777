import Roster.Proofs.Clusters.Views
import Roster.Proofs.Ledger

/-!
What a registry tells of the metadata of agents.

A filter takes agents out of the list of all agents and does nothing else. Neither the order of its
identities nor repetitions among them matter, and identities of unknown agents take nothing out. The
full list says of each agent what the queries for a single agent say, and it is the list of agents
with the clusters added.
-/

namespace Roster

open Database

variable {σ τ : Type} [Registry σ] [Registry τ]

/-- With these agents as the metadata of all agents, the metadata for any filter, the list of agents
and the queries for a single agent agree. -/
structure MetadataAgrees (admitted : AgentFilter → Prop) (registry : σ) (agents : List Agent) :
    Prop where
  describes : Describes registry agents
  ascends : agents.Pairwise fun first second => first.id.text < second.id.text
  filters : ∀ now (filter : AgentFilter), admitted filter →
    (Registry.perform now (.describeAgents filter) registry).1 = .ok (.agents
      (if filter.agents = [] then agents else agents.filter (·.id ∈ filter.agents)))
  plugins : ∀ now agent, (Registry.perform now (.findAgent agent) registry).1 =
    match agents.find? (·.id = agent) with
    | some entry => .ok (.agent { id := agent, plugin := entry.plugin })
    | none => .error .agentNotFound
  clusters : ∀ now agent, (Registry.perform now (.clusterOf agent) registry).1 =
    match (agents.find? (·.id = agent)).bind Agent.cluster with
    | some name => .ok (.clusterName name)
    | none => .error .agentWithoutCluster
  lists : ∀ now, (Registry.perform now .listAgents registry).1 =
    .ok (.agents (agents.map fun entry => { entry with cluster := none }))

/-- A registry that answers reads as another one does agrees with itself where the other does. -/
theorem MetadataAgrees.of_reads {first : σ} {second : τ} {agents : List Agent}
    (agrees : MetadataAgrees (fun _ => True) first agents)
    (same : ∀ now operation, operation.Tidy → operation.Fits → operation.isWrite = false →
      (Registry.perform now operation second).1 = (Registry.perform now operation first).1) :
    MetadataAgrees (fun filter => (Operation.describeAgents filter).Fits) second agents where
  describes now :=
    (same now (.describeAgents .all) trivial (Nat.zero_le _) rfl).trans (agrees.describes now)
  ascends := agrees.ascends
  filters now filter room :=
    (same now (.describeAgents filter) trivial room rfl).trans (agrees.filters now filter trivial)
  plugins now agent :=
    (same now (.findAgent agent) trivial trivial rfl).trans (agrees.plugins now agent)
  clusters now agent :=
    (same now (.clusterOf agent) trivial trivial rfl).trans (agrees.clusters now agent)
  lists now := (same now .listAgents trivial trivial rfl).trans (agrees.lists now)

theorem AgentFilter.filter_selects (filter : AgentFilter) (agents : List Agent) :
    (agents.filter fun agent => filter.selects agent.id) =
      if filter.agents = [] then agents else agents.filter (·.id ∈ filter.agents) := by
  split
  next empty =>
    apply List.filter_eq_self.mpr
    intro agent _
    rw [selects, selectsAll, empty]
    rfl
  next listed =>
    apply List.filter_congr
    intro agent _
    rw [selects, selectsAll, List.isEmpty_eq_false_iff.mpr listed,
      Bool.false_or]

namespace Memory

variable {m : Memory}

/-- A filter goes by the identities, which the added clusters leave as they are. -/
theorem describeAgents_eq_filter (m : Memory) (filter : AgentFilter) :
    m.describeAgents filter =
      (m.describeAgents .all).filter fun agent => filter.selects agent.id := by
  have every : m.listAgents.filter (fun agent => AgentFilter.all.selects agent.id) =
      m.listAgents := List.filter_eq_self.mpr fun _ _ => rfl
  rw [describeAgents, describeAgents, every, List.filter_map]
  rfl

/-- An agent that is not known is a member of no cluster. -/
theorem clusterNameOf?_of_unknown (sound : m.Sound) {agent : AgentId}
    (unknown : m.agents.find? agent = none) : m.clusterNameOf? agent = none := by
  have free : m.memberships.find? agent = none := by
    rw [Directory.find?_eq_none_iff] at unknown ⊢
    exact fun member => unknown (sound.known agent member)
  rw [clusterNameOf?, free]
  rfl

theorem metadataAgrees (sound : m.Sound) :
    MetadataAgrees (fun _ => True) m (m.describeAgents .all) where
  describes := describes m
  ascends := ascending_describeAgents sound.agents
  filters now filter _ := by
    change Except.ok (Answer.agents (m.describeAgents filter)) = _
    rw [describeAgents_eq_filter, AgentFilter.filter_selects]
  plugins now agent := by
    change (m.findAgent agent).map Answer.agent = _
    rw [find?_describeAgents sound.agents, findAgent]
    cases m.agents.find? agent <;> rfl
  clusters now agent := by
    change (m.clusterOf agent).map Answer.clusterName = _
    rw [find?_describeAgents sound.agents, clusterOf]
    cases known : m.agents.find? agent with
    | none =>
      rw [clusterNameOf?_of_unknown sound known]
      rfl
    | some plugin => cases m.clusterNameOf? agent <;> rfl
  lists now := by
    change Except.ok (Answer.agents m.listAgents) = _
    rw [describeAgents_all, List.map_map]
    rfl

end Memory

/-- After any calls the metadata for any filter is the metadata of all agents, restricted to the
filter, and agrees with the other queries. This holds in memory, and in a database for filters that
fit, with references enforced or not, and whatever mishaps befell the statements of the calls, as
long as none befalls the reading, and none makes a database in memory lose its tables. -/
theorem metadata_agrees (foreignKeys inMemory : Bool) (mishaps : List (Option Mishap))
    (gentle : inMemory = true → ∀ mishap, some mishap ∈ mishaps → mishap.endsTransaction = false)
    (calls : List Call) :
    let fresh : Connection := { foreignKeys, inMemory, mishaps }
    (∃ agents, MetadataAgrees (fun _ => True) (Call.afterAll calls ({} : Memory)) agents) ∧
      ∃ agents, MetadataAgrees (fun filter => (Operation.describeAgents filter).Fits)
        { Call.afterAll calls fresh with mishaps := [] } agents := by
  intro fresh
  constructor
  · exact ⟨_, Memory.metadataAgrees (Memory.sound_afterAll calls)⟩
  · obtain ⟨m, stands⟩ := stands_afterAll foreignKeys gentle calls
    exact ⟨_, (Memory.metadataAgrees stands.records.sound).of_reads (read_eq stands.holds)⟩

/-- A filter that names an agent twice and an unknown one takes out the one agent that is known. -/
theorem repeated_filter_described :
    let calls : List Call := [⟨.epoch, fun _ => 0, .createCluster (some "u")
      { name := "n", members := ["a", "b"] }⟩]
    let fresh : Connection := { foreignKeys := true, inMemory := true }
    let filter : AgentFilter := ⟨[⟨"b"⟩, ⟨"c"⟩, ⟨"b"⟩]⟩
    (∀ mishap, some mishap ∈ fresh.mishaps → mishap.endsTransaction = false) ∧
      (Operation.describeAgents filter).Fits ∧
      ∃ agents, Describes { Call.afterAll calls fresh with mishaps := [] } agents ∧
        (Registry.perform .epoch (.describeAgents filter)
          { Call.afterAll calls fresh with mishaps := [] }).1 =
            .ok (.agents (agents.filter (·.id ∈ filter.agents))) := by
  intro calls fresh filter
  obtain ⟨agents, agrees⟩ := (metadata_agrees true true [] (fun _ _ => nofun) calls).2
  have room : (Operation.describeAgents filter).Fits := of_decide_eq_true rfl
  exact ⟨fun _ => nofun, room, agents, agrees.describes, agrees.filters .epoch filter room⟩

end Roster
