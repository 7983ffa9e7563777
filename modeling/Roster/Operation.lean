import Roster.Calendar
import Roster.Failure
import Roster.Record

/-!
What a registry is asked and what it answers. The texts of an operation are taken as they are.
-/

namespace Roster

inductive Operation where
  /-- Adds an agent, or replaces the plugin of a known one. -/
  | putAgent (agent : Agent)
  | listAgents
  | findAgent (agent : AgentId)
  /-- Records what was attested of an agent in place of what was recorded before. -/
  | putAttestation (entry : Attestation)
  | findAttestation (agent : AgentId)
  | listClusters
  | createCluster (cluster : Cluster)
  /-- Overwrites a cluster and replaces its members. -/
  | editCluster (cluster : Cluster)
  | deleteCluster (uid : ClusterUid)
  | clusterOf (agent : AgentId)
  | membersOf (uid : ClusterUid)
  | describeAgents (filter : AgentFilter)

def Operation.isWrite : Operation → Bool
  | .putAgent _ | .putAttestation _ | .createCluster _ | .editCluster _ | .deleteCluster _ => true
  | _ => false

inductive Answer where
  | done
  | agent (agent : Agent)
  | agents (agents : List Agent)
  | attestation (entry : Attestation)
  | cluster (cluster : Cluster)
  | clusters (clusters : List Cluster)
  | clusterName (name : ClusterName)
  | members (agents : List AgentId)
  deriving DecidableEq

/-- A registry of agents and clusters. Clusters get their creation time from the instant at which
the operation is performed. -/
class Registry (σ : Type) where
  perform : Instant → Operation → σ → Except Failure Answer × σ

end Roster
