import Roster.Directory
import Roster.Operation

/-!
A registry in memory. A write of several steps works on a copy, which takes the place of the
registry only if every step succeeds.
-/

namespace Roster

/-- What is kept of a cluster under its uid. The members are kept apart. -/
structure StoredCluster where
  name : ClusterName
  created : String
  domain : String
  manager : String
  platform : String
  deriving DecidableEq

structure Memory where
  /-- The plugins of the agents. -/
  agents : Directory AgentId (Option String) := []
  attestations : Directory AgentId Attestation := []
  clusters : Directory ClusterUid StoredCluster := []
  /-- The cluster of each agent that has one. -/
  memberships : Directory AgentId ClusterUid := []

namespace Memory

/-! ## Reading -/

def members (m : Memory) (uid : ClusterUid) : List AgentId :=
  AgentId.sort ((m.memberships.filter fun entry => entry.2 = uid).map (·.1))

def toCluster (m : Memory) (uid : ClusterUid) (stored : StoredCluster) : Cluster where
  uid
  name := stored.name
  created := some stored.created
  domain := stored.domain
  manager := stored.manager
  platform := stored.platform
  members := m.members uid

def findCluster (m : Memory) (uid : ClusterUid) : Except Failure Cluster :=
  match m.clusters.find? uid with
  | some stored => .ok (m.toCluster uid stored)
  | none => .error .clusterNotFound

def clusterNameOf? (m : Memory) (agent : AgentId) : Option ClusterName :=
  (m.memberships.find? agent).bind fun uid => (m.clusters.find? uid).map (·.name)

def nameTaken (m : Memory) (name : ClusterName) (besides : Option ClusterUid) : Bool :=
  m.clusters.any fun entry => entry.2.name = name && some entry.1 ≠ besides

def listAgents (m : Memory) : List Agent :=
  (Text.sortOn (·.1.text) m.agents).map fun entry => { id := entry.1, plugin := entry.2 }

def findAgent (m : Memory) (agent : AgentId) : Except Failure Agent :=
  match m.agents.find? agent with
  | some plugin => .ok { id := agent, plugin }
  | none => .error .agentNotFound

def findAttestation (m : Memory) (agent : AgentId) : Except Failure Attestation :=
  match m.attestations.find? agent with
  | some entry => .ok entry
  | none => .error .attestationNotFound

def listClusters (m : Memory) : List Cluster :=
  Text.sortOn (·.name.text) (m.clusters.map fun entry => m.toCluster entry.1 entry.2)

def clusterOf (m : Memory) (agent : AgentId) : Except Failure ClusterName :=
  match m.clusterNameOf? agent with
  | some name => .ok name
  | none => .error .agentWithoutCluster

def describeAgents (m : Memory) (filter : AgentFilter) : List Agent :=
  (m.listAgents.filter fun agent => filter.selects agent.id).map fun agent =>
    { agent with cluster := m.clusterNameOf? agent.id }

/-! ## Steps of a write -/

def insertCluster (now : Instant) (cluster : Cluster) (m : Memory) : Except Failure Memory :=
  if m.clusters.contains cluster.uid || m.nameTaken cluster.name none then
    .error .clusterExists
  else
    let stored : StoredCluster :=
      { name := cluster.name, created := now.stamp, domain := cluster.domain,
        manager := cluster.manager, platform := cluster.platform }
    .ok { m with clusters := m.clusters.put cluster.uid stored }

def updateCluster (cluster : Cluster) (m : Memory) : Except Failure Memory :=
  match m.clusters.find? cluster.uid with
  | none => .error .clusterMissing
  | some stored =>
    if m.nameTaken cluster.name (some cluster.uid) then .error .clusterExists
    else
      let stored := { stored with
        name := cluster.name, domain := cluster.domain, manager := cluster.manager,
        platform := cluster.platform }
      .ok { m with clusters := m.clusters.put cluster.uid stored }

def removeMembers (uid : ClusterUid) (m : Memory) : Memory :=
  { m with memberships := m.memberships.filter fun entry => entry.2 ≠ uid }

/-- Makes the agents members one by one. -/
def assign (uid : ClusterUid) :
    List AgentId → Directory AgentId ClusterUid → Except Failure (Directory AgentId ClusterUid)
  | [], memberships => .ok memberships
  | agent :: rest, memberships =>
    if memberships.contains agent then .error .agentAssigned
    else assign uid rest (memberships.put agent uid)

/-- Adds members to a cluster. Agents that are not known yet become known, without a plugin. -/
def addMembers (uid : ClusterUid) (agents : List AgentId) (m : Memory) : Except Failure Memory :=
  if agents.isEmpty then .ok m
  else if !m.clusters.contains uid then
    .error (.other ("membership insert failed: unknown cluster " ++ uid.text))
  else
    (assign uid agents m.memberships).map fun memberships =>
      { m with agents := agents.foldl (fun known agent => known.putNew agent none) m.agents
               memberships }

/-! ## Writing -/

def putAgent (agent : Agent) (m : Memory) : Memory :=
  { m with agents := m.agents.put agent.id agent.plugin }

def putAttestation (entry : Attestation) (m : Memory) : Memory :=
  { m with agents := m.agents.putNew entry.agent none
           attestations := m.attestations.put entry.agent entry }

def createCluster (now : Instant) (cluster : Cluster) (m : Memory) :
    Except Failure (Cluster × Memory) := do
  let m ← m.insertCluster now cluster
  let m ← m.addMembers cluster.uid cluster.members
  return (← m.findCluster cluster.uid, m)

def editCluster (cluster : Cluster) (m : Memory) : Except Failure (Cluster × Memory) := do
  let m ← m.updateCluster cluster
  let m ← (m.removeMembers cluster.uid).addMembers cluster.uid cluster.members
  return (← m.findCluster cluster.uid, m)

def deleteCluster (uid : ClusterUid) (m : Memory) : Except Failure Memory :=
  if m.clusters.contains uid then
    .ok { m.removeMembers uid with clusters := m.clusters.remove uid }
  else .error .clusterMissing

/-- The answer of a write, and the registry as it was where the write failed. -/
def publish {α : Type} (answer : α → Answer) (m : Memory) :
    Except Failure (α × Memory) → Except Failure Answer × Memory
  | .ok (a, written) => (.ok (answer a), written)
  | .error failure => (.error failure, m)

def perform (now : Instant) (operation : Operation) (m : Memory) :
    Except Failure Answer × Memory :=
  match operation with
  | .putAgent agent => (.ok .done, m.putAgent agent)
  | .listAgents => (.ok (.agents m.listAgents), m)
  | .findAgent agent => ((m.findAgent agent).map .agent, m)
  | .putAttestation entry => (.ok .done, m.putAttestation entry)
  | .findAttestation agent => ((m.findAttestation agent).map .attestation, m)
  | .listClusters => (.ok (.clusters m.listClusters), m)
  | .createCluster cluster => m.publish .cluster (m.createCluster now cluster)
  | .editCluster cluster => m.publish .cluster (m.editCluster cluster)
  | .deleteCluster uid => m.publish (fun () => .done) ((m.deleteCluster uid).map ((), ·))
  | .clusterOf agent => ((m.clusterOf agent).map .clusterName, m)
  | .membersOf uid => (.ok (.members (m.members uid)), m)
  | .describeAgents filter => (.ok (.agents (m.describeAgents filter)), m)

instance : Registry Memory := ⟨perform⟩

end Memory

end Roster
