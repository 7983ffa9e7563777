import Mathlib.Data.List.DropRight
import Roster.Identity.Random
import Roster.Proofs.Outcome
import Roster.Request

/-!
Texts that are not blank and have no white space at their ends, and the values made of such texts.
The checked ways in give tidy values only, and a tidy value passes every check unchanged.
-/

namespace Roster

namespace Text

theorem strip_eq (cs : List Char) : strip cs = (cs.dropWhile isBlank).rdropWhile isBlank := rfl

/-- Cutting at the end leaves the first character, if it leaves any, so that there is nothing more
to cut at the beginning. -/
theorem dropWhile_strip (cs : List Char) : (strip cs).dropWhile isBlank = strip cs := by
  rw [List.dropWhile_eq_self_iff]
  intro nonempty blank
  have starts : strip cs <+: cs.dropWhile isBlank := List.rdropWhile_prefix isBlank _
  have longer : 0 < (cs.dropWhile isBlank).length := lt_of_lt_of_le nonempty starts.length_le
  have same := starts.getElem nonempty
  rw [same] at blank
  exact List.dropWhile_get_zero_not isBlank cs longer blank

theorem strip_strip (cs : List Char) : strip (strip cs) = strip cs := by
  rw [strip_eq (strip cs), dropWhile_strip, strip_eq, List.rdropWhile_idempotent]

theorem trim_trim (s : String) : trim (trim s) = trim s := by
  unfold trim
  rw [String.toList_ofList, strip_strip]

/-- Not blank, and without white space at the ends. -/
structure Tidy (s : String) : Prop where
  trimmed : trim s = s
  nonempty : s ≠ ""

instance (s : String) : Decidable (Tidy s) :=
  decidable_of_iff (trim s = s ∧ s ≠ "")
    ⟨fun both => ⟨both.1, both.2⟩, fun tidy => ⟨tidy.trimmed, tidy.nonempty⟩⟩

theorem tidy_trim (s : String) (nonempty : trim s ≠ "") : Tidy (trim s) :=
  ⟨trim_trim s, nonempty⟩

theorem tidy_of_no_blank (s : String) (nonempty : s ≠ "")
    (visible : ∀ c ∈ s.toList, isBlank c = false) : Tidy s where
  trimmed := by
    have front : s.toList.dropWhile isBlank = s.toList := by
      rw [List.dropWhile_eq_self_iff]
      intro _
      simp [visible _ (List.getElem_mem _)]
    have back : s.toList.rdropWhile isBlank = s.toList := by
      rw [List.rdropWhile_eq_self_iff]
      intro _
      simp [visible _ (List.getLast_mem _)]
    unfold trim
    rw [strip_eq, front, back, String.ofList_toList]
  nonempty := nonempty

end Text

theorem nonBlank_of_tidy {s : String} (tidy : Text.Tidy s) (reason : Invalid) :
    nonBlank reason s = .ok s := by
  simp only [nonBlank, tidy.trimmed, if_neg tidy.nonempty]

theorem tidy_of_nonBlank {reason : Invalid} {s t : String} (passed : nonBlank reason s = .ok t) :
    Text.Tidy t := by
  simp only [nonBlank] at passed
  split at passed
  next => cases passed
  next nonempty => cases passed; exact Text.tidy_trim s nonempty

theorem map_nonBlank_of_tidy {α : Type} {wrap : String → α} {s : String} (tidy : Text.Tidy s)
    (reason : Invalid) : (nonBlank reason s).map wrap = .ok (wrap s) := by
  rw [nonBlank_of_tidy tidy]
  rfl

theorem of_map_nonBlank {α : Type} {wrap : String → α} {reason : Invalid} {s : String} {a : α}
    (passed : (nonBlank reason s).map wrap = .ok a) : ∃ t, Text.Tidy t ∧ a = wrap t := by
  obtain ⟨t, checked, wrapped⟩ := of_map_eq_ok passed
  exact ⟨t, tidy_of_nonBlank checked, wrapped⟩

/-! ## Identities, uids and names -/

def AgentId.Tidy (agent : AgentId) : Prop := Text.Tidy agent.text

def ClusterUid.Tidy (uid : ClusterUid) : Prop := Text.Tidy uid.text

def ClusterName.Tidy (name : ClusterName) : Prop := Text.Tidy name.text

instance (agent : AgentId) : Decidable agent.Tidy :=
  inferInstanceAs (Decidable (Text.Tidy agent.text))

instance (uid : ClusterUid) : Decidable uid.Tidy :=
  inferInstanceAs (Decidable (Text.Tidy uid.text))

instance (name : ClusterName) : Decidable name.Tidy :=
  inferInstanceAs (Decidable (Text.Tidy name.text))

theorem ClusterUid.parse_of_tidy {uid : ClusterUid} (tidy : uid.Tidy) :
    ClusterUid.parse uid.text = .ok uid :=
  map_nonBlank_of_tidy tidy _

theorem ClusterName.parse_of_tidy {name : ClusterName} (tidy : name.Tidy) :
    ClusterName.parse name.text = .ok name :=
  map_nonBlank_of_tidy tidy _

theorem AgentId.tidy_of_parse {s : String} {agent : AgentId} (parsed : parse s = .ok agent) :
    agent.Tidy := by
  obtain ⟨t, tidy, rfl⟩ := of_map_nonBlank parsed
  exact tidy

theorem ClusterUid.tidy_of_parse {s : String} {uid : ClusterUid} (parsed : parse s = .ok uid) :
    uid.Tidy := by
  obtain ⟨t, tidy, rfl⟩ := of_map_nonBlank parsed
  exact tidy

theorem ClusterName.tidy_of_parse {s : String} {name : ClusterName}
    (parsed : parse s = .ok name) : name.Tidy := by
  obtain ⟨t, tidy, rfl⟩ := of_map_nonBlank parsed
  exact tidy

theorem AgentId.tidy_of_parseBatchAfter {seen agents : List AgentId} {entries : List String}
    (parsed : parseBatchAfter seen entries = .ok agents) : ∀ agent ∈ agents, agent.Tidy := by
  induction entries generalizing seen agents with
  | nil => cases parsed; simp
  | cons s rest ih =>
    unfold parseBatchAfter at parsed
    split at parsed
    next => cases parsed
    next first checked =>
      split at parsed
      next => cases parsed
      next =>
        obtain ⟨tail, others, rfl⟩ := of_map_eq_ok parsed
        intro agent member
        rcases List.mem_cons.mp member with same | later
        · exact same ▸ tidy_of_parse checked
        · exact ih others agent later

/-- The digits of a drawn uid are no white space, nor are the dashes between them. -/
theorem ClusterUid.tidy_ofNibbles (nibbles : Fin 32 → Fin 16) : (ofNibbles nibbles).Tidy := by
  have digit (n : Nat) (small : n < 16) : Text.isBlank (Nat.digitChar n) = false := by
    have all : ∀ n : Fin 16, Text.isBlank (Nat.digitChar n) = false := by decide
    exact all ⟨n, small⟩
  have dash : Text.isBlank '-' = false := by decide
  apply Text.tidy_of_no_blank
  · intro empty
    have lengths := congrArg String.length empty
    simp [ofNibbles, String.length_ofList] at lengths
  · simp only [ofNibbles, String.toList_ofList]
    generalize drawn : (List.finRange 32).map _ = digits
    have visible : ∀ c ∈ digits, Text.isBlank c = false := by
      subst drawn
      intro c member
      obtain ⟨i, _, rfl⟩ := List.mem_map.mp member
      apply digit
      split_ifs <;> omega
    have group (start count : Nat) :
        ∀ c ∈ (digits.drop start).take count, Text.isBlank c = false :=
      fun c member => visible c (List.mem_of_mem_drop (List.mem_of_mem_take member))
    intro c member
    simp only [List.mem_append, List.mem_cons, or_assoc] at member
    rcases member with first | rfl | second | rfl | third | rfl | fourth | rfl | fifth
    · exact group _ _ c first
    · exact dash
    · exact group _ _ c second
    · exact dash
    · exact group _ _ c third
    · exact dash
    · exact group _ _ c fourth
    · exact dash
    · exact group _ _ c fifth

/-! ## Records and operations -/

theorem tidy_of_checkSelectors {index : Nat} {texts selectors : List String}
    (checked : checkSelectors index texts = .ok selectors) :
    ∀ selector ∈ selectors, Text.Tidy selector := by
  induction texts generalizing index selectors with
  | nil => cases checked; simp
  | cons s rest ih =>
    unfold checkSelectors at checked
    split at checked
    next first passed =>
      obtain ⟨tail, others, rfl⟩ := of_map_eq_ok checked
      intro selector member
      rcases List.mem_cons.mp member with same | later
      · exact same ▸ tidy_of_nonBlank passed
      · exact ih others selector later
    next => cases checked

theorem checkSelectors_of_tidy {selectors : List String}
    (tidy : ∀ selector ∈ selectors, Text.Tidy selector) (index : Nat) :
    checkSelectors index selectors = .ok selectors := by
  induction selectors generalizing index with
  | nil => rfl
  | cons s rest ih =>
    have first := tidy s List.mem_cons_self
    have others := ih (fun selector member => tidy selector (List.mem_cons_of_mem _ member))
    simp only [checkSelectors, nonBlank_of_tidy first, others]
    rfl

structure Attestation.Tidy (entry : Attestation) : Prop where
  agent : entry.agent.Tidy
  plugin : Text.Tidy entry.plugin
  selectors : ∀ selector ∈ entry.selectors, Text.Tidy selector

instance (entry : Attestation) : Decidable entry.Tidy :=
  decidable_of_iff (entry.agent.Tidy ∧ Text.Tidy entry.plugin ∧
      ∀ selector ∈ entry.selectors, Text.Tidy selector)
    ⟨fun ⟨agent, plugin, selectors⟩ => ⟨agent, plugin, selectors⟩,
      fun tidy => ⟨tidy.agent, tidy.plugin, tidy.selectors⟩⟩

theorem Attestation.check_of_tidy {entry : Attestation} (tidy : entry.Tidy) :
    Attestation.check entry.agent entry.plugin entry.selectors = .ok entry := by
  simp only [check, nonBlank_of_tidy tidy.plugin, checkSelectors_of_tidy tidy.selectors]
  rfl

theorem Attestation.tidy_of_check {agent : AgentId} {plugin : String} {selectors : List String}
    {entry : Attestation} (tidy : agent.Tidy)
    (checked : Attestation.check agent plugin selectors = .ok entry) : entry.Tidy := by
  unfold check at checked
  split at checked
  next passed =>
    obtain ⟨tail, others, rfl⟩ := of_map_eq_ok checked
    exact ⟨tidy, tidy_of_nonBlank passed, tidy_of_checkSelectors others⟩
  next => cases checked

/-- What a store sets by itself and what it only passes on may be any text. -/
structure Cluster.Tidy (cluster : Cluster) : Prop where
  uid : cluster.uid.Tidy
  name : cluster.name.Tidy
  members : ∀ agent ∈ cluster.members, agent.Tidy

instance (cluster : Cluster) : Decidable cluster.Tidy :=
  decidable_of_iff (cluster.uid.Tidy ∧ cluster.name.Tidy ∧ ∀ agent ∈ cluster.members, agent.Tidy)
    ⟨fun ⟨uid, name, members⟩ => ⟨uid, name, members⟩,
      fun tidy => ⟨tidy.uid, tidy.name, tidy.members⟩⟩

theorem ClusterDraft.tidy_of_check {draft : ClusterDraft} {uid : ClusterUid} {cluster : Cluster}
    (tidy : uid.Tidy) (checked : draft.check uid = .ok cluster) : cluster.Tidy := by
  unfold check at checked
  split at checked
  next => cases checked
  next name named =>
    obtain ⟨members, batch, rfl⟩ := of_map_eq_ok checked
    exact ⟨tidy, ClusterName.tidy_of_parse named, AgentId.tidy_of_parseBatchAfter batch⟩

/-- Whether all values that an operation would store are tidy. One that stores nothing may be about
any values. -/
def Operation.Tidy : Operation → Prop
  | .putAgent agent => agent.id.Tidy
  | .putAttestation entry => entry.Tidy
  | .createCluster cluster | .editCluster cluster => cluster.Tidy
  | _ => True

instance (operation : Operation) : Decidable operation.Tidy :=
  match operation with
  | .putAgent agent => inferInstanceAs (Decidable agent.id.Tidy)
  | .putAttestation entry => inferInstanceAs (Decidable entry.Tidy)
  | .createCluster cluster | .editCluster cluster => inferInstanceAs (Decidable cluster.Tidy)
  | .listAgents | .findAgent _ | .findAttestation _ | .listClusters | .deleteCluster _
  | .clusterOf _ | .membersOf _ | .describeAgents _ => inferInstanceAs (Decidable True)

/-- A cluster is created under the uid that is given, or else under a fresh one. -/
theorem Request.of_check_createCluster {fresh : ClusterUid} {uid : Option String}
    {draft : ClusterDraft} {operation : Operation}
    (checked : (Request.createCluster uid draft).check fresh = .ok operation) :
    ∃ chosen cluster, uid.elim (.ok fresh) ClusterUid.parse = .ok chosen ∧
      draft.check chosen = .ok cluster ∧ operation = .createCluster cluster := by
  cases uid with
  | none =>
    obtain ⟨chosen, taken, rest⟩ := of_bind_eq_ok checked
    obtain ⟨cluster, drafted, last⟩ := of_bind_eq_ok rest
    exact ⟨chosen, cluster, taken, drafted, (Except.ok.inj last).symm⟩
  | some uid =>
    obtain ⟨chosen, given, rest⟩ := of_bind_eq_ok checked
    obtain ⟨cluster, drafted, last⟩ := of_bind_eq_ok rest
    exact ⟨chosen, cluster, given, drafted, (Except.ok.inj last).symm⟩

/-- A request that passes the checks asks for a tidy operation. -/
theorem Request.tidy_of_check {fresh : ClusterUid} {request : Request} {operation : Operation}
    (tidy : fresh.Tidy) (checked : request.check fresh = .ok operation) : operation.Tidy := by
  cases request with
  | registerAgent agent plugin =>
    obtain ⟨id, parsed, rest⟩ := of_bind_eq_ok checked
    cases rest
    exact AgentId.tidy_of_parse parsed
  | recordSelectors agent plugin selectors =>
    obtain ⟨id, parsed, rest⟩ := of_bind_eq_ok checked
    obtain ⟨entry, attested, rest⟩ := of_bind_eq_ok rest
    cases rest
    exact Attestation.tidy_of_check (AgentId.tidy_of_parse parsed) attested
  | createCluster uid draft =>
    obtain ⟨chosen, cluster, origin, drafted, rfl⟩ := Request.of_check_createCluster checked
    cases uid with
    | none =>
      cases origin
      exact ClusterDraft.tidy_of_check tidy drafted
    | some uid => exact ClusterDraft.tidy_of_check (ClusterUid.tidy_of_parse origin) drafted
  | editCluster uid draft =>
    obtain ⟨chosen, given, rest⟩ := of_bind_eq_ok checked
    obtain ⟨cluster, drafted, rest⟩ := of_bind_eq_ok rest
    cases rest
    exact ClusterDraft.tidy_of_check (ClusterUid.tidy_of_parse given) drafted
  | listAgents | listClusters => cases checked; trivial
  | agentPlugin | agentSelectors | deleteCluster | clusterAgents | agentCluster
  | agentsMetadata =>
    obtain ⟨id, parsed, rest⟩ := of_bind_eq_ok checked
    cases rest
    trivial

end Roster
