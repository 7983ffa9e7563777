import Roster.Proofs.Json.Rows
import Roster.Proofs.Payload.Objects

/-!
The payloads and the settings as rows: the order of their columns, which of them may be left away at
the end of a row, and the lists, whose items are records that may be rows themselves.
-/

namespace Roster

open Json

/-! ## Columns -/

namespace Agent

def columns : List Column :=
  [.plain "spiffeid" true, .plain "plugin" false, .plain "cluster" false]

def listColumns : List Column :=
  [{ key := "agents", required := true, nesting := (Nesting.record columns).items }]

theorem fits : fields.Fits columns :=
  .plain rfl rfl <| .plain rfl rfl <| .plain rfl rfl .nil

theorem keeps : codec.reader.Keeps (.record columns) :=
  Fields.keeps_record fits lawful_fields.isLocal (by decide) "AgentInfo" _ _

theorem list_fits : listFields.Fits listColumns :=
  .cons rfl rfl (keeps.sequence lawful.localReader) .nil

end Agent

namespace AgentFilter

def columns : List Column :=
  [.plain "agents" false]

theorem fits : fields.Fits columns :=
  .plain rfl rfl .nil

end AgentFilter

namespace Attestation

def columns : List Column :=
  [.plain "spiffeid" true, .plain "plugin" true, .plain "selectors" true]

theorem fits : fields.Fits columns :=
  .plain rfl rfl <| .plain rfl rfl <| .plain rfl rfl .nil

end Attestation

namespace Cluster

def columns : List Column :=
  [.plain "uid" true, .plain "name" true, .plain "creationTime" false, .plain "domainName" false,
    .plain "managedBy" false, .plain "platformType" false, .plain "agentsList" false]

def listColumns : List Column :=
  [{ key := "clusters", required := true, nesting := (Nesting.record columns).items }]

theorem fits : fields.Fits columns :=
  .plain rfl rfl <| .plain rfl rfl <| .plain rfl rfl <| .plain rfl rfl <| .plain rfl rfl <|
    .plain rfl rfl <| .plain rfl rfl .nil

theorem keeps : codec.reader.Keeps (.record columns) :=
  Fields.keeps_record fits lawful_fields.isLocal (by decide) "ClusterInfo" _ _

theorem list_fits : listFields.Fits listColumns :=
  .cons rfl rfl (keeps.sequence lawful.localReader) .nil

end Cluster

namespace Settings

def columns : List Column :=
  [.plain "database_url" false, .plain "max_connections" false, .plain "busy_timeout_ms" false,
    .plain "foreign_keys" false]

theorem fits : fields.Fits columns :=
  .plain rfl rfl <| .plain rfl rfl <| .plain rfl rfl <| .plain rfl rfl .nil

end Settings

/-! ## All of them -/

/-- A row is read as the object with the same members, and neither too short nor too long a row is
accepted, but every other row of acceptable values. Rows and objects may stand within each
other. -/
theorem rows_read_as_objects :
    Agent.codec.ReadsRows Agent.parts Agent.columns ∧
    Agent.listCodec.ReadsRows Agent.listParts Agent.listColumns ∧
    AgentFilter.codec.ReadsRows AgentFilter.parts AgentFilter.columns ∧
    Attestation.codec.ReadsRows Attestation.parts Attestation.columns ∧
    Cluster.codec.ReadsRows Cluster.parts Cluster.columns ∧
    Cluster.listCodec.ReadsRows Cluster.listParts Cluster.listColumns ∧
    Settings.codec.ReadsRows Settings.parts Settings.columns :=
  ⟨Fields.readsRows Agent.fits Agent.lawful_fields.isLocal (by decide) "AgentInfo",
    Fields.readsRows Agent.list_fits Agent.lawful_listFields.isLocal (by decide) "AgentInfoList",
    Fields.readsRows AgentFilter.fits AgentFilter.lawful_fields.isLocal (by decide)
      "AgentMetadataRequest",
    Fields.readsRows Attestation.fits Attestation.lawful_fields.isLocal (by decide)
      "AgentSelectors",
    Fields.readsRows Cluster.fits Cluster.lawful_fields.isLocal (by decide) "ClusterInfo",
    Fields.readsRows Cluster.list_fits Cluster.lawful_listFields.isLocal (by decide)
      "ClusterInfoList",
    Fields.readsRows Settings.fits Settings.lawful_fields.isLocal (by decide) "StoreConfig"⟩

end Roster
