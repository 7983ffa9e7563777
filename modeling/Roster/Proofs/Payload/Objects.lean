import Roster.Proofs.Json.Objects
import Roster.Proofs.Payload.RoundTrip
import Roster.Settings

/-!
The payloads and the settings as objects: the members that each of them knows, with their defaults,
and the law by which all of them are read.
-/

namespace Roster

open Json

/-! ## Parts -/

def Agent.parts : List (Constituent Agent) :=
  [⟨{ key := "spiffeid", codec := AgentId.codec }, Agent.id⟩,
    ⟨{ key := "plugin", codec := Codec.text.optional, default := some none,
       omits := Option.isNone }, Agent.plugin⟩,
    ⟨{ key := "cluster", codec := ClusterName.codec.optional, default := some none,
       omits := Option.isNone }, Agent.cluster⟩]

def Agent.listParts : List (Constituent (List Agent)) :=
  [⟨{ key := "agents", codec := Agent.codec.sequence }, fun agents => agents⟩]

def AgentFilter.parts : List (Constituent AgentFilter) :=
  [⟨{ key := "agents", codec := AgentId.codec.sequence, default := some [] }, AgentFilter.agents⟩]

def Attestation.parts : List (Constituent Attestation) :=
  [⟨{ key := "spiffeid", codec := AgentId.codec }, Attestation.agent⟩,
    ⟨{ key := "plugin", codec := Codec.text }, Attestation.plugin⟩,
    ⟨{ key := "selectors", codec := Codec.text.sequence }, Attestation.selectors⟩]

def Cluster.parts : List (Constituent Cluster) :=
  [⟨{ key := "uid", codec := ClusterUid.codec }, Cluster.uid⟩,
    ⟨{ key := "name", codec := ClusterName.codec }, Cluster.name⟩,
    ⟨{ key := "creationTime", codec := Codec.text.optional, default := some none,
       omits := Option.isNone }, Cluster.created⟩,
    ⟨{ key := "domainName", codec := Codec.text, default := some "" }, Cluster.domain⟩,
    ⟨{ key := "managedBy", codec := Codec.text, default := some "" }, Cluster.manager⟩,
    ⟨{ key := "platformType", codec := Codec.text, default := some "" }, Cluster.platform⟩,
    ⟨{ key := "agentsList", codec := AgentId.codec.sequence, default := some [] }, Cluster.members⟩]

def Cluster.listParts : List (Constituent (List Cluster)) :=
  [⟨{ key := "clusters", codec := Cluster.codec.sequence }, fun clusters => clusters⟩]

namespace Settings

def countCodec : Codec UInt32 :=
  (Codec.word 32).wrap .ofBitVec UInt32.toBitVec

def timeoutCodec : Codec UInt64 :=
  (Codec.word 64).wrap .ofBitVec UInt64.toBitVec

/-- What is missing is as in the settings that nobody has changed. -/
def parts : List (Constituent Settings) :=
  let unchanged : Settings := {}
  [⟨{ key := "database_url", codec := Codec.text, default := some unchanged.databaseUrl },
      databaseUrl⟩,
    ⟨{ key := "max_connections", codec := countCodec, default := some unchanged.maxConnections },
      maxConnections⟩,
    ⟨{ key := "busy_timeout_ms", codec := timeoutCodec, default := some unchanged.busyTimeoutMs },
      busyTimeoutMs⟩,
    ⟨{ key := "foreign_keys", codec := Codec.flag, default := some unchanged.foreignKeys },
      foreignKeys⟩]

theorem lawful_count : countCodec.Lawful :=
  (Codec.lawful_word (by decide)).wrap fun _ => rfl

theorem lawful_timeout : timeoutCodec.Lawful :=
  (Codec.lawful_word (by decide)).wrap fun _ => rfl

theorem lawful_fields : fields.Lawful :=
  ⟨lawful_requiredField _ Codec.lawful_text _, lawful_requiredField _ lawful_count _,
    lawful_requiredField _ lawful_timeout _, lawful_requiredField _ Codec.lawful_flag _, trivial⟩

end Settings

/-! ## The law -/

theorem optional_null {α : Type} {codec : Codec α} (lawful : codec.Lawful) :
    codec.optional.reader.value? .null = some none :=
  (Reader.means_optional lawful.localReader).value?_eq .null

namespace Agent

theorem readsObjects : codec.ReadsObjects parts ["plugin", "cluster"] := by
  refine Fields.readsObjects lawful_fields.isLocal (by decide) "AgentInfo" (fun _ => rfl) ?_
  change ∀ part ∈ parts, _
  simp only [parts, List.forall_mem_cons]
  exact ⟨fun known => absurd known (by decide), fun _ => optional_null Codec.lawful_text,
    fun _ => optional_null ClusterName.lawful, nofun⟩

theorem list_readsObjects : listCodec.ReadsObjects listParts [] :=
  Fields.readsObjects lawful_listFields.isLocal (by decide) "AgentInfoList" (fun _ => rfl)
    fun _ _ => nofun

end Agent

theorem AgentFilter.readsObjects : codec.ReadsObjects parts [] :=
  Fields.readsObjects lawful_fields.isLocal (by decide) "AgentMetadataRequest" (fun _ => rfl)
    fun _ _ => nofun

theorem Attestation.readsObjects : codec.ReadsObjects parts [] :=
  Fields.readsObjects lawful_fields.isLocal (by decide) "AgentSelectors" (fun _ => rfl)
    fun _ _ => nofun

namespace Cluster

theorem readsObjects : codec.ReadsObjects parts ["creationTime"] := by
  refine Fields.readsObjects lawful_fields.isLocal (by decide) "ClusterInfo" (fun _ => rfl) ?_
  change ∀ part ∈ parts, _
  simp only [parts, List.forall_mem_cons]
  exact ⟨fun known => absurd known (by decide), fun known => absurd known (by decide),
    fun _ => optional_null Codec.lawful_text, fun known => absurd known (by decide),
    fun known => absurd known (by decide), fun known => absurd known (by decide),
    fun known => absurd known (by decide), nofun⟩

theorem list_readsObjects : listCodec.ReadsObjects listParts [] :=
  Fields.readsObjects lawful_listFields.isLocal (by decide) "ClusterInfoList" (fun _ => rfl)
    fun _ _ => nofun

end Cluster

theorem Settings.readsObjects : codec.ReadsObjects parts [] :=
  Fields.readsObjects lawful_fields.isLocal (by decide) "StoreConfig" (fun _ => rfl)
    fun _ _ => nofun

/-! ## All of them -/

/-- Objects are read by what they say for the keys of the parts, whatever else they hold, and the
numbers among the settings are read from digits alone. -/
theorem objects_read_by_parts :
    Agent.codec.ReadsObjects Agent.parts ["plugin", "cluster"] ∧
    Agent.listCodec.ReadsObjects Agent.listParts [] ∧
    AgentFilter.codec.ReadsObjects AgentFilter.parts [] ∧
    Attestation.codec.ReadsObjects Attestation.parts [] ∧
    Cluster.codec.ReadsObjects Cluster.parts ["creationTime"] ∧
    Cluster.listCodec.ReadsObjects Cluster.listParts [] ∧
    Settings.codec.ReadsObjects Settings.parts [] ∧
    Settings.countCodec.ReadsWords UInt32.size UInt32.toNat ∧
    Settings.timeoutCodec.ReadsWords UInt64.size UInt64.toNat :=
  ⟨Agent.readsObjects, Agent.list_readsObjects, AgentFilter.readsObjects, Attestation.readsObjects,
    Cluster.readsObjects, Cluster.list_readsObjects, Settings.readsObjects,
    Codec.readsWords_wrap 32 (by decide) (fun _ => rfl) fun _ => rfl,
    Codec.readsWords_wrap 64 (by decide) (fun _ => rfl) fun _ => rfl⟩

end Roster
