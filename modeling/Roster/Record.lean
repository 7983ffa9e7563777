import Roster.Identity

/-!
The records that a registry keeps and gives out: agents, what was attested of them, and clusters.
-/

namespace Roster

/-- An agent with its plugin and the name of its cluster, where it has them. -/
structure Agent where
  id : AgentId
  plugin : Option String := none
  cluster : Option ClusterName := none
  deriving DecidableEq

/-- Which agents a query is about: the listed ones, or all of them when none is listed. -/
structure AgentFilter where
  agents : List AgentId
  deriving DecidableEq

namespace AgentFilter

def all : AgentFilter := ⟨[]⟩

def selectsAll (filter : AgentFilter) : Bool :=
  filter.agents.isEmpty

def selects (filter : AgentFilter) (agent : AgentId) : Bool :=
  filter.selectsAll || agent ∈ filter.agents

end AgentFilter

/-- The plugin that attested an agent, and the selectors that it attested. -/
structure Attestation where
  agent : AgentId
  plugin : String
  selectors : List String
  deriving DecidableEq

/-- The trimmed selectors, if none of them is blank. The first of them has the given index. -/
def checkSelectors (index : Nat) : List String → Except Invalid (List String)
  | [] => .ok []
  | s :: rest =>
    match nonBlank (.blankSelector index) s with
    | .ok selector => (checkSelectors (index + 1) rest).map (selector :: ·)
    | .error reason => .error reason

/-- The plugin is looked at before the selectors. -/
def Attestation.check (agent : AgentId) (plugin : String) (selectors : List String) :
    Except Invalid Attestation :=
  match nonBlank .blankPlugin plugin with
  | .ok plugin => (checkSelectors 0 selectors).map fun selectors => { agent, plugin, selectors }
  | .error reason => .error reason

/-- A cluster with its members. The store sets the creation time. It ignores the one that a
request carries. -/
structure Cluster where
  uid : ClusterUid
  name : ClusterName
  created : Option String := none
  domain : String := ""
  manager : String := ""
  platform : String := ""
  members : List AgentId := []
  deriving DecidableEq

/-- The first cluster with exactly this uid. -/
def Cluster.find? (uid : ClusterUid) (clusters : List Cluster) : Option Cluster :=
  clusters.find? (·.uid = uid)

/-- What a caller says of a cluster, unchecked. The uid stands apart, since it may be missing. -/
structure ClusterDraft where
  name : String
  domain : String := ""
  manager : String := ""
  platform : String := ""
  members : List String := []

/-- The name is looked at before the members. -/
def ClusterDraft.check (draft : ClusterDraft) (uid : ClusterUid) : Except Invalid Cluster :=
  match ClusterName.parse draft.name with
  | .error reason => .error reason
  | .ok name => (AgentId.parseBatch draft.members).map fun members =>
    { uid, name, domain := draft.domain, manager := draft.manager, platform := draft.platform,
      members }

end Roster
