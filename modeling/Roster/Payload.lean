import Roster.Json.Record
import Roster.Record

/-!
The JSON form of the records. The texts in it are taken as they are, neither trimmed nor checked.
-/

namespace Roster

open Json

def AgentId.codec : Codec AgentId := Codec.text.wrap .mk AgentId.text

def ClusterUid.codec : Codec ClusterUid := Codec.text.wrap .mk ClusterUid.text

def ClusterName.codec : Codec ClusterName := Codec.text.wrap .mk ClusterName.text

/-- A field that may be missing or `null`, and is not written without a value. -/
def optionalField {α : Type} (key : String) (codec : Codec α) : Json.Field (Option α) where
  key
  codec := codec.optional
  default := some none
  omits := Option.isNone

namespace Agent

def fields : Fields [AgentId, Option String, Option ClusterName] :=
  .cons { key := "spiffeid", codec := AgentId.codec } <|
  .cons (optionalField "plugin" Codec.text) <|
  .cons (optionalField "cluster" ClusterName.codec) .nil

def codec : Codec Agent :=
  (fields.record "AgentInfo").wrap
    (fun (id, plugin, cluster, _) => { id, plugin, cluster })
    (fun agent => (agent.id, agent.plugin, agent.cluster, ()))

def listFields : Fields [List Agent] :=
  .cons { key := "agents", codec := codec.sequence } .nil

def listCodec : Codec (List Agent) :=
  (listFields.record "AgentInfoList").wrap (fun (agents, _) => agents) (fun agents => (agents, ()))

end Agent

namespace AgentFilter

def fields : Fields [List AgentId] :=
  .cons { key := "agents", codec := AgentId.codec.sequence, default := some [] } .nil

def codec : Codec AgentFilter :=
  (fields.record "AgentMetadataRequest").wrap (fun (agents, _) => ⟨agents⟩)
    (fun filter => (filter.agents, ()))

end AgentFilter

namespace Attestation

def fields : Fields [AgentId, String, List String] :=
  .cons { key := "spiffeid", codec := AgentId.codec } <|
  .cons { key := "plugin", codec := Codec.text } <|
  .cons { key := "selectors", codec := Codec.text.sequence } .nil

def codec : Codec Attestation :=
  (fields.record "AgentSelectors").wrap
    (fun (agent, plugin, selectors, _) => { agent, plugin, selectors })
    (fun entry => (entry.agent, entry.plugin, entry.selectors, ()))

/-- The selectors alone, as a database keeps them. -/
def selectorsCodec : Codec (List String) := Codec.text.sequence

end Attestation

namespace Cluster

def fields : Fields
    [ClusterUid, ClusterName, Option String, String, String, String, List AgentId] :=
  .cons { key := "uid", codec := ClusterUid.codec } <|
  .cons { key := "name", codec := ClusterName.codec } <|
  .cons (optionalField "creationTime" Codec.text) <|
  .cons { key := "domainName", codec := Codec.text, default := some "" } <|
  .cons { key := "managedBy", codec := Codec.text, default := some "" } <|
  .cons { key := "platformType", codec := Codec.text, default := some "" } <|
  .cons { key := "agentsList", codec := AgentId.codec.sequence, default := some [] } .nil

def codec : Codec Cluster :=
  (fields.record "ClusterInfo").wrap
    (fun (uid, name, created, domain, manager, platform, members, _) =>
      { uid, name, created, domain, manager, platform, members })
    (fun c => (c.uid, c.name, c.created, c.domain, c.manager, c.platform, c.members, ()))

def listFields : Fields [List Cluster] :=
  .cons { key := "clusters", codec := codec.sequence } .nil

def listCodec : Codec (List Cluster) :=
  (listFields.record "ClusterInfoList").wrap (fun (clusters, _) => clusters)
    (fun clusters => (clusters, ()))

end Cluster

end Roster
