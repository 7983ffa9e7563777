import Roster.Database.Transaction
import Roster.Operation

/-!
A registry in a database. Every write is one transaction. Every read is one selection, apart from
the list of clusters, which takes two: the clusters first and then their members.
-/

namespace Roster.Database

namespace Store

/-! ## Reading -/

def listAgents : Action (List Agent) := do
  let rows ← Action.read .selectAgents Tables.selectAgents
  Action.lift <| rows.mapM fun (spiffeid, plugin) => do
    return { id := ← corrupt (AgentId.parse spiffeid), plugin }

def findAgent (agent : AgentId) : Action Agent := do
  match ← Action.read .selectPlugin fun t => t.selectPlugin agent.text with
  | none => Action.fail .agentNotFound
  | some plugin => return { id := agent, plugin }

/-- The record of what is stored for an agent. -/
def readAttestation (agent : AgentId) (plugin selectors : String) :
    Except Failure Attestation :=
  match Attestation.selectorsCodec.decode selectors with
  | .error error => .error (.corrupt (.undecodable error))
  | .ok selectors => corrupt (Attestation.check agent plugin selectors)

def findAttestation (agent : AgentId) : Action Attestation := do
  match ← Action.read .selectSelectors fun t => t.selectSelectors agent.text with
  | none => Action.fail .attestationNotFound
  | some (plugin, selectors) => Action.lift (readAttestation agent plugin selectors)

/-- The members of each cluster row, checked in the order of all members. -/
def assemble (rows : List ClusterRow) (members : List (Nat × String)) :
    Except Failure (List Cluster) := do
  let members ← members.mapM fun (clusterId, spiffeid) => do
    return (clusterId, ← corrupt (AgentId.parse spiffeid))
  rows.mapM fun row =>
    row.toCluster ((members.filter fun member => member.1 = row.id).map (·.2))

/-- The list of clusters, where the members may be selected later than the clusters, and from
other tables. -/
def listClustersAcross (first second : Tables) : Except Failure (List Cluster) :=
  match first.selectClusters with
  | .error refusal => .error (Statement.selectClusters.failure refusal)
  | .ok rows =>
    match second.selectMemberships with
    | .error refusal => .error (Statement.selectMemberships.failure refusal)
    | .ok members => assemble rows members

def listClusters : Action (List Cluster) := do
  let rows ← Action.read .selectClusters Tables.selectClusters
  let members ← Action.read .selectMemberships Tables.selectMemberships
  Action.lift (assemble rows members)

def clusterOf (agent : AgentId) : Action ClusterName := do
  match ← Action.read .selectClusterName fun t => t.selectClusterName agent.text with
  | none => Action.fail .agentWithoutCluster
  | some name => Action.lift (corrupt (ClusterName.parse name))

def membersOf (uid : ClusterUid) : Action (List AgentId) := do
  let members ← Action.read .selectMembersOf fun t => t.selectMembersOf uid.text
  Action.lift (parseMembers members)

/-- The record of a selected agent. Its cluster is checked before its identity. -/
def describe (spiffeid : String) (plugin cluster : Option String) : Except Failure Agent := do
  let cluster ← cluster.mapM fun name => corrupt (ClusterName.parse name)
  return { id := ← corrupt (AgentId.parse spiffeid), plugin, cluster }

def describeAgents (filter : AgentFilter) : Action (List Agent) := do
  let wanted := filter.agents.map AgentId.text
  let rows ← Action.read (.selectMetadata wanted.length) fun t => t.selectMetadata wanted
  Action.lift <| rows.mapM fun (spiffeid, plugin, cluster) => describe spiffeid plugin cluster

/-! ## Writing -/

def putAgent (agent : Agent) : Action Unit :=
  Transaction.atomically (Transaction.putAgent agent.id agent.plugin)

def putAttestation (entry : Attestation) : Action Unit :=
  Transaction.atomically (Transaction.putAttestation entry)

def createCluster (now : Instant) (cluster : Cluster) : Action Cluster :=
  Transaction.atomically do
    Transaction.insertCluster now cluster
    Transaction.addMembers cluster.uid cluster.members
    Transaction.loadCluster cluster.uid

def editCluster (cluster : Cluster) : Action Cluster :=
  Transaction.atomically do
    Transaction.updateCluster cluster
    Transaction.deleteMembers cluster.uid
    Transaction.addMembers cluster.uid cluster.members
    Transaction.loadCluster cluster.uid

def deleteCluster (uid : ClusterUid) : Action Unit :=
  Transaction.atomically do
    Transaction.deleteMembers uid
    Transaction.deleteCluster uid

/-! ## Operations -/

/-- The action with its result as an answer. -/
def answering {α : Type} (answer : α → Answer) (action : Action α) : Action Answer := do
  return answer (← action)

def perform (now : Instant) : Operation → Action Answer
  | .putAgent agent => answering (fun () => .done) (putAgent agent)
  | .listAgents => answering .agents listAgents
  | .findAgent agent => answering .agent (findAgent agent)
  | .putAttestation entry => answering (fun () => .done) (putAttestation entry)
  | .findAttestation agent => answering .attestation (findAttestation agent)
  | .listClusters => answering .clusters listClusters
  | .createCluster cluster => answering .cluster (createCluster now cluster)
  | .editCluster cluster => answering .cluster (editCluster cluster)
  | .deleteCluster uid => answering (fun () => .done) (deleteCluster uid)
  | .clusterOf agent => answering .clusterName (clusterOf agent)
  | .membersOf uid => answering .members (membersOf uid)
  | .describeAgents filter => answering .agents (describeAgents filter)

end Store

instance : Registry Connection := ⟨Store.perform⟩

end Roster.Database
