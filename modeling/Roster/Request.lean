import Roster.Operation

/-!
Requests as callers make them, with unchecked texts. A request is checked before the registry sees
it, so a refused request leaves the registry as it was.
-/

namespace Roster

inductive Request where
  | registerAgent (agent : String) (plugin : Option String)
  | agentPlugin (agent : String)
  | listAgents
  | recordSelectors (agent plugin : String) (selectors : List String)
  | agentSelectors (agent : String)
  | createCluster (uid : Option String) (draft : ClusterDraft)
  | editCluster (uid : Option String) (draft : ClusterDraft)
  | deleteCluster (uid : String)
  | listClusters
  | clusterAgents (uid : String)
  | agentCluster (agent : String)
  | agentsMetadata (agents : List String)

namespace Request

/-- The operation that a request asks for, or the first problem of its texts. A cluster that is
created without a uid gets `fresh`. One that is edited must have one. -/
def check (fresh : ClusterUid) : Request → Except Invalid Operation
  | .registerAgent agent plugin => do return .putAgent { id := ← AgentId.parse agent, plugin }
  | .agentPlugin agent => do return .findAgent (← AgentId.parse agent)
  | .listAgents => .ok .listAgents
  | .recordSelectors agent plugin selectors => do
    return .putAttestation (← Attestation.check (← AgentId.parse agent) plugin selectors)
  | .agentSelectors agent => do return .findAttestation (← AgentId.parse agent)
  | .createCluster uid draft => do
    let uid ← match uid with
      | some uid => ClusterUid.parse uid
      | none => .ok fresh
    return .createCluster (← draft.check uid)
  | .editCluster uid draft => do
    return .editCluster (← draft.check (← ClusterUid.parse (uid.getD "")))
  | .deleteCluster uid => do return .deleteCluster (← ClusterUid.parse uid)
  | .listClusters => .ok .listClusters
  | .clusterAgents uid => do return .membersOf (← ClusterUid.parse uid)
  | .agentCluster agent => do return .clusterOf (← AgentId.parse agent)
  | .agentsMetadata agents => do return .describeAgents ⟨← AgentId.parseAll agents⟩

end Request

/-- Why a request is not fulfilled. -/
inductive Denial where
  | invalid (reason : Invalid)
  | failed (failure : Failure)
  deriving DecidableEq

/-- Where the registry has nothing to say about a write, the caller gets the record written. -/
def Operation.receipt : Operation → Answer → Answer
  | .putAgent agent, _ => .agent agent
  | .putAttestation entry, _ => .attestation entry
  | _, answer => answer

/-- Checks a request and performs it. -/
def serve {σ : Type} [Registry σ] (now : Instant) (fresh : ClusterUid) (request : Request)
    (registry : σ) : Except Denial Answer × σ :=
  match request.check fresh with
  | .error reason => (.error (.invalid reason), registry)
  | .ok operation =>
    match Registry.perform now operation registry with
    | (.ok answer, registry) => (.ok (operation.receipt answer), registry)
    | (.error failure, registry) => (.error (.failed failure), registry)

end Roster
