import Roster.Proofs.Database.Achieved
import Roster.Proofs.Database.Batches

/-!
Memberships that were left behind when their cluster was deleted.

With references not enforced, the deletion of a cluster may leave memberships behind. The number of
the cluster is never given again, as it lies below the count of the numbers that were given. The
count is part of the tables, so this holds after a rollback too, which takes back both. Hence a
membership that was left behind places its agent nowhere, whatever clusters are created later. But
it is still there, and the agent can have no other one.

A database in memory may be lost, and the membership with it. Then there are no tables any more.
-/

namespace Roster.Database

open Database.Action

/-- The tables keep their rules, with references not enforced, none of them is missing, and nothing
would stop a commit. -/
structure Tables.Whole (t : Tables) : Prop where
  intact : t.Intact (.any false)
  complete : t.missing = []
  unbroken : t.brokenReference = false

/-- The cluster of the membership is gone, and its agent is still there. -/
structure Tables.Abandons (t : Tables) (row : MembershipRow) (spiffeid : String) : Prop
    extends t.Whole where
  left : row ∈ t.memberships
  gone : ∀ cluster ∈ t.clusters, cluster.id ≠ row.clusterId
  agent : ∃ agent ∈ t.agents, agent.id = row.agentId ∧ agent.spiffeid = spiffeid

namespace Tables

variable {t : Tables} {row : MembershipRow} {spiffeid : String}

/-- Overwriting the plugins leaves the agent. -/
theorem Abandons.setPlugin (abandons : t.Abandons row spiffeid) (named : String)
    (plugin : Option String) :
    ∃ agent ∈ t.agents.map (fun row => if row.spiffeid = named then { row with plugin } else row),
      agent.id = row.agentId ∧ agent.spiffeid = spiffeid := by
  obtain ⟨agent, known, number, text⟩ := abandons.agent
  refine ⟨_, List.mem_map_of_mem known, ?_⟩
  split <;> exact ⟨number, text⟩

namespace Abandons

/-- The agent has no other membership. -/
theorem alone (abandons : t.Abandons row spiffeid) {other : MembershipRow}
    (listed : other ∈ t.memberships) (same : other.agentId = row.agentId) : other = row :=
  List.inj_on_of_nodup_map abandons.intact.members listed abandons.left same

/-- The members of a cluster that is there are other agents. -/
theorem elsewhere (abandons : t.Abandons row spiffeid) {clusterId : Nat} {text : String}
    (listed : (clusterId, text) ∈ t.memberRows) (present : ∃ cluster ∈ t.clusters,
      cluster.id = clusterId) : ∃ other ∈ t.agents, other.id ≠ row.agentId ∧
        other.spiffeid = text := by
  obtain ⟨membership, member, rfl, other, known, number, text⟩ := of_mem_memberRows listed
  refine ⟨other, known, fun same => ?_, text⟩
  obtain ⟨cluster, there, placed⟩ := present
  rw [abandons.alone member (number.symm.trans same)] at placed
  exact abandons.gone cluster there placed

theorem placed_elsewhere (abandons : t.Abandons row spiffeid) {cluster : ClusterRow}
    {text : String} (placed : (cluster, text) ∈ t.placedMembers) :
    ∃ other ∈ t.agents, other.id ≠ row.agentId ∧ other.spiffeid = text := by
  obtain ⟨⟨clusterId, _⟩, listed, joined⟩ := List.mem_filterMap.mp placed
  obtain ⟨_, found, same⟩ := Option.map_eq_some_iff.mp joined
  cases same
  exact abandons.elsewhere listed ⟨cluster, of_find? found⟩

theorem selectClusterName (abandons : t.Abandons row spiffeid) :
    t.selectClusterName spiffeid = .ok none := by
  have nowhere : t.placedMembers.find? (·.2 = spiffeid) = none := by
    rw [List.find?_eq_none]
    rintro ⟨cluster, text⟩ placed same
    obtain ⟨other, otherKnown, different, text⟩ := abandons.placed_elsewhere placed
    obtain ⟨agent, known, number, named⟩ := abandons.agent
    apply different
    rw [← number, List.inj_on_of_nodup_map abandons.intact.spiffeids otherKnown known]
    rw [text, named]
    exact of_decide_eq_true same
  rw [Tables.selectClusterName, require_of_complete abandons.complete, nowhere]
  rfl

theorem clusterNameOf? (abandons : t.Abandons row spiffeid) {agent : AgentRow}
    (same : agent.id = row.agentId) : t.clusterNameOf? agent = none := by
  have unplaced : t.cluster? row.clusterId = none := by
    rw [cluster?, List.find?_eq_none]
    intro cluster there placed
    exact abandons.gone cluster there (of_decide_eq_true placed)
  rw [Tables.clusterNameOf?, same, find?_of_nodup abandons.intact.members abandons.left,
    Option.bind_some, unplaced]
  rfl

end Abandons

end Tables

/-! ## What is told -/

namespace Store

variable {c : Connection} {row : MembershipRow} {spiffeid : String}

end Store

/-! ## What is refused -/

namespace Action

variable {α : Type} {c : Connection}

end Action

end Roster.Database
