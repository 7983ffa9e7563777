import Roster.Payload
import Roster.Proofs.Json.Lawful

/-!
The codecs of all payloads are lawful, so that a payload that is written and read again is the same.
Nothing is asked of the texts in it.
-/

namespace Roster

open Json

/-! ## Names and identities -/

theorem AgentId.lawful : AgentId.codec.Lawful :=
  Codec.lawful_text.wrap fun _ => rfl

theorem ClusterUid.lawful : ClusterUid.codec.Lawful :=
  Codec.lawful_text.wrap fun _ => rfl

theorem ClusterName.lawful : ClusterName.codec.Lawful :=
  Codec.lawful_text.wrap fun _ => rfl

theorem text_refuses_null : Codec.text.reader.value? .null = none :=
  Reader.means_text.value?_eq .null

theorem ClusterName.refuses_null : ClusterName.codec.reader.value? .null = none :=
  (Reader.value?_map _ _ _).trans (congrArg _ text_refuses_null)

/-! ## Fields -/

theorem lawful_requiredField {α : Type} (key : String) {codec : Codec α} (lawful : codec.Lawful)
    (default : Option α) : ({ key, codec, default } : Json.Field α).Lawful where
  codec := lawful
  omitted _ omitted := nomatch omitted

theorem lawful_optionalField {α : Type} (key : String) {codec : Codec α} (lawful : codec.Lawful)
    (strict : codec.reader.value? .null = none) : (optionalField key codec).Lawful where
  codec := lawful.optional strict
  omitted a omitted := by
    cases a with
    | none => rfl
    | some => cases omitted

/-! ## Records -/

namespace Agent

theorem lawful_fields : fields.Lawful :=
  ⟨lawful_requiredField _ AgentId.lawful _,
    lawful_optionalField _ Codec.lawful_text text_refuses_null,
    lawful_optionalField _ ClusterName.lawful ClusterName.refuses_null, trivial⟩

theorem lawful : codec.Lawful :=
  (lawful_fields.record (by decide) _).wrap fun _ => rfl

theorem lawful_listFields : listFields.Lawful :=
  ⟨lawful_requiredField _ lawful.sequence _, trivial⟩

theorem lawful_list : listCodec.Lawful :=
  (lawful_listFields.record (by decide) _).wrap fun _ => rfl

end Agent

namespace AgentFilter

theorem lawful_fields : fields.Lawful :=
  ⟨lawful_requiredField _ AgentId.lawful.sequence _, trivial⟩

theorem lawful : codec.Lawful :=
  (lawful_fields.record (by decide) _).wrap fun _ => rfl

end AgentFilter

namespace Attestation

theorem lawful_fields : fields.Lawful :=
  ⟨lawful_requiredField _ AgentId.lawful _, lawful_requiredField _ Codec.lawful_text _,
    lawful_requiredField _ Codec.lawful_text.sequence _, trivial⟩

theorem lawful : codec.Lawful :=
  (lawful_fields.record (by decide) _).wrap fun _ => rfl

/-- Whatever the selectors are, a database reads them as they were recorded. -/
theorem decode_encode (selectors : List String) :
    selectorsCodec.decode (selectorsCodec.encode selectors) = .ok selectors :=
  Codec.lawful_text.sequence.decode_encode selectors

end Attestation

namespace Cluster

theorem lawful_fields : fields.Lawful :=
  ⟨lawful_requiredField _ ClusterUid.lawful _, lawful_requiredField _ ClusterName.lawful _,
    lawful_optionalField _ Codec.lawful_text text_refuses_null,
    lawful_requiredField _ Codec.lawful_text _, lawful_requiredField _ Codec.lawful_text _,
    lawful_requiredField _ Codec.lawful_text _, lawful_requiredField _ AgentId.lawful.sequence _,
    trivial⟩

theorem lawful : codec.Lawful :=
  (lawful_fields.record (by decide) _).wrap fun _ => rfl

theorem lawful_listFields : listFields.Lawful :=
  ⟨lawful_requiredField _ lawful.sequence _, trivial⟩

theorem lawful_list : listCodec.Lawful :=
  (lawful_listFields.record (by decide) _).wrap fun _ => rfl

end Cluster

/-- Every payload is read as it was written, whatever texts it holds, whichever of its optional
values are missing, and however long its lists are. -/
theorem payloads_round_trip :
    (∀ agent, AgentId.codec.decode (AgentId.codec.encode agent) = .ok agent) ∧
    (∀ uid, ClusterUid.codec.decode (ClusterUid.codec.encode uid) = .ok uid) ∧
    (∀ name, ClusterName.codec.decode (ClusterName.codec.encode name) = .ok name) ∧
    (∀ agent, Agent.codec.decode (Agent.codec.encode agent) = .ok agent) ∧
    (∀ agents, Agent.listCodec.decode (Agent.listCodec.encode agents) = .ok agents) ∧
    (∀ filter, AgentFilter.codec.decode (AgentFilter.codec.encode filter) = .ok filter) ∧
    (∀ entry, Attestation.codec.decode (Attestation.codec.encode entry) = .ok entry) ∧
    (∀ cluster, Cluster.codec.decode (Cluster.codec.encode cluster) = .ok cluster) ∧
    (∀ clusters, Cluster.listCodec.decode (Cluster.listCodec.encode clusters) = .ok clusters) :=
  ⟨AgentId.lawful.decode_encode, ClusterUid.lawful.decode_encode, ClusterName.lawful.decode_encode,
    Agent.lawful.decode_encode, Agent.lawful_list.decode_encode, AgentFilter.lawful.decode_encode,
    Attestation.lawful.decode_encode, Cluster.lawful.decode_encode,
    Cluster.lawful_list.decode_encode⟩

end Roster
