import Roster.Database.Store
import Roster.Memory
import Roster.Proofs.Run
import Roster.Proofs.Text.Blank

/-!
White space around the texts of a request goes unnoticed. Each text that names an agent, a cluster
or a selector is trimmed before it is compared, stored or reported, so that a padded request asks
for the same operation, or is refused for the same reason. Hence a run of padded requests gets the
same answers and leaves the same registry.
-/

namespace Roster

open Text (Padded)

/-! ## Padded requests -/

/-- The second draft is the first one with white space around its name and its members. -/
structure ClusterDraft.Padded (draft padded : ClusterDraft) : Prop where
  name : Text.Padded draft.name padded.name
  members : List.Forall₂ Text.Padded draft.members padded.members
  domain : padded.domain = draft.domain
  manager : padded.manager = draft.manager
  platform : padded.platform = draft.platform

/-- The second request is the first one with white space around identities, uids, names, selectors
and the plugins that attest them. The plugin that an agent is registered with is no such text. -/
inductive Request.Padded : Request → Request → Prop where
  | registerAgent {agent agent' : String} (plugin : Option String)
      (identity : Text.Padded agent agent') :
      Request.Padded (.registerAgent agent plugin) (.registerAgent agent' plugin)
  | agentPlugin {agent agent' : String} (identity : Text.Padded agent agent') :
      Request.Padded (.agentPlugin agent) (.agentPlugin agent')
  | listAgents : Request.Padded .listAgents .listAgents
  | recordSelectors {agent agent' plugin plugin' : String} {selectors selectors' : List String}
      (identity : Text.Padded agent agent') (attestor : Text.Padded plugin plugin')
      (each : List.Forall₂ Text.Padded selectors selectors') :
      Request.Padded (.recordSelectors agent plugin selectors)
        (.recordSelectors agent' plugin' selectors')
  | agentSelectors {agent agent' : String} (identity : Text.Padded agent agent') :
      Request.Padded (.agentSelectors agent) (.agentSelectors agent')
  | createCluster {uid uid' : Option String} {draft draft' : ClusterDraft}
      (given : Option.Rel Text.Padded uid uid') (drafts : draft.Padded draft') :
      Request.Padded (.createCluster uid draft) (.createCluster uid' draft')
  | editCluster {uid uid' : Option String} {draft draft' : ClusterDraft}
      (given : Option.Rel Text.Padded uid uid') (drafts : draft.Padded draft') :
      Request.Padded (.editCluster uid draft) (.editCluster uid' draft')
  | deleteCluster {uid uid' : String} (given : Text.Padded uid uid') :
      Request.Padded (.deleteCluster uid) (.deleteCluster uid')
  | listClusters : Request.Padded .listClusters .listClusters
  | clusterAgents {uid uid' : String} (given : Text.Padded uid uid') :
      Request.Padded (.clusterAgents uid) (.clusterAgents uid')
  | agentCluster {agent agent' : String} (identity : Text.Padded agent agent') :
      Request.Padded (.agentCluster agent) (.agentCluster agent')
  | agentsMetadata {agents agents' : List String} (each : List.Forall₂ Text.Padded agents agents') :
      Request.Padded (.agentsMetadata agents) (.agentsMetadata agents')

/-- The second call is the first one with a padded request. -/
structure Call.Padded (call padded : Call) : Prop where
  now : padded.now = call.now
  nibbles : padded.nibbles = call.nibbles
  request : call.request.Padded padded.request

/-! ## Checks of padded texts -/

theorem AgentId.parse_of_padded {s t : String} (padded : Padded s t) : parse t = parse s := by
  rw [parse, nonBlank_of_padded padded, parse]

theorem ClusterUid.parse_of_padded {s t : String} (padded : Padded s t) : parse t = parse s := by
  rw [parse, nonBlank_of_padded padded, parse]

theorem ClusterName.parse_of_padded {s t : String} (padded : Padded s t) : parse t = parse s := by
  rw [parse, nonBlank_of_padded padded, parse]

theorem AgentId.parseBatchAfter_of_padded {entries padded : List String}
    (each : List.Forall₂ Padded entries padded) (seen : List AgentId) :
    parseBatchAfter seen padded = parseBatchAfter seen entries := by
  induction each generalizing seen with
  | nil => rfl
  | cons first _ ih => simp only [parseBatchAfter, parse_of_padded first, ih]

theorem AgentId.parseAll_of_padded {entries padded : List String}
    (each : List.Forall₂ Padded entries padded) : parseAll padded = parseAll entries := by
  unfold parseAll
  induction each with
  | nil => rfl
  | cons first _ ih => rw [List.mapM_cons, List.mapM_cons, parse_of_padded first, ih]

theorem checkSelectors_of_padded {selectors padded : List String}
    (each : List.Forall₂ Padded selectors padded) (index : Nat) :
    checkSelectors index padded = checkSelectors index selectors := by
  induction each generalizing index with
  | nil => rfl
  | cons first _ ih => simp only [checkSelectors, nonBlank_of_padded first, ih]

theorem Attestation.check_of_padded {plugin plugin' : String} {selectors selectors' : List String}
    (attestor : Padded plugin plugin') (each : List.Forall₂ Padded selectors selectors')
    (agent : AgentId) : check agent plugin' selectors' = check agent plugin selectors := by
  simp only [check, nonBlank_of_padded attestor, checkSelectors_of_padded each]

theorem ClusterDraft.check_of_padded {draft padded : ClusterDraft} (drafts : draft.Padded padded)
    (uid : ClusterUid) : padded.check uid = draft.check uid := by
  simp only [check, ClusterName.parse_of_padded drafts.name, AgentId.parseBatch,
    AgentId.parseBatchAfter_of_padded drafts.members, drafts.domain, drafts.manager,
    drafts.platform]

/-- A padded request asks for the same operation, or has the same first problem. -/
theorem Request.check_of_padded {request padded : Request} (pads : request.Padded padded)
    (fresh : ClusterUid) : padded.check fresh = request.check fresh := by
  cases pads with
  | listAgents | listClusters => rfl
  | registerAgent _ identity | agentPlugin identity | agentSelectors identity
  | agentCluster identity =>
    simp only [check, AgentId.parse_of_padded identity]
  | deleteCluster given | clusterAgents given =>
    simp only [check, ClusterUid.parse_of_padded given]
  | recordSelectors identity attestor each =>
    simp only [check, AgentId.parse_of_padded identity, Attestation.check_of_padded attestor each]
  | createCluster given drafts =>
    cases given with
    | none => simp only [check, ClusterDraft.check_of_padded drafts]
    | some given =>
      simp only [check, ClusterUid.parse_of_padded given, ClusterDraft.check_of_padded drafts]
  | editCluster given drafts =>
    cases given with
    | none => simp only [check, ClusterDraft.check_of_padded drafts]
    | some given =>
      simp only [check, Option.getD_some, ClusterUid.parse_of_padded given,
        ClusterDraft.check_of_padded drafts]
  | agentsMetadata each => simp only [check, AgentId.parseAll_of_padded each]

/-! ## Runs -/

namespace Call

variable {σ : Type} [Registry σ]

theorem serve_of_padded {call padded : Call} (pads : call.Padded padded) (registry : σ) :
    padded.serve registry = call.serve registry := by
  have checked := Request.check_of_padded pads.request (.ofNibbles call.nibbles)
  rw [serve, serve, pads.now, pads.nibbles, Roster.serve, Roster.serve, checked]

/-- The answers to the given calls, one after the other. -/
def answers : List Call → σ → List (Except Denial Answer)
  | [], _ => []
  | call :: rest, registry =>
    (call.serve registry).1 :: answers rest (call.serve registry).2

theorem run_of_padded {calls padded : List Call} (pads : List.Forall₂ Call.Padded calls padded)
    (registry : σ) :
    answers padded registry = answers calls registry ∧
      afterAll padded registry = afterAll calls registry := by
  induction pads generalizing registry with
  | nil => exact ⟨rfl, rfl⟩
  | @cons call other _ _ first _ ih =>
    have served := serve_of_padded first registry
    have ⟨sameAnswers, sameEnd⟩ := ih (call.serve registry).2
    constructor
    · rw [answers, answers, served, sameAnswers]
    · change afterAll _ (other.serve registry).2 = afterAll _ (call.serve registry).2
      rw [served, sameEnd]

end Call

/-- Padded requests get the answers of those without padding, step by step, and leave a registry
that is the same for every later operation, in memory and in a database alike. -/
theorem padding_unnoticed {calls padded : List Call}
    (pads : List.Forall₂ Call.Padded calls padded) (m : Memory) (c : Database.Connection) :
    Call.answers padded m = Call.answers calls m ∧
      Call.answers padded c = Call.answers calls c ∧
      Call.afterAll padded m = Call.afterAll calls m ∧
      Call.afterAll padded c = Call.afterAll calls c :=
  have inMemory := Call.run_of_padded pads m
  have inDatabase := Call.run_of_padded pads c
  ⟨inMemory.1, inDatabase.1, inMemory.2, inDatabase.2⟩

/-- Selectors that are recorded with white space around every text are found under the identity
with other white space around it. -/
theorem padded_selectors_found :
    let calls : List Call := [⟨.epoch, fun _ => 0, .recordSelectors "a" "k8s" ["x:1", "y"]⟩,
      ⟨.epoch, fun _ => 0, .agentSelectors "a"⟩]
    let padded : List Call := [⟨.epoch, fun _ => 0,
        .recordSelectors " a" "k8s\n" ["\u3000x:1", "y  "]⟩,
      ⟨.epoch, fun _ => 0, .agentSelectors "a\t "⟩]
    let entry : Attestation := { agent := ⟨"a"⟩, plugin := "k8s", selectors := ["x:1", "y"] }
    List.Forall₂ Call.Padded calls padded ∧
      Call.answers padded ({} : Memory) = [.ok (.attestation entry), .ok (.attestation entry)] := by
  intro calls padded entry
  have blank {cs : List Char} (all : cs.all Text.isBlank = true) :
      ∀ c ∈ cs, Text.isBlank c = true := List.all_eq_true.mp all
  have recording : Request.Padded (.recordSelectors "a" "k8s" ["x:1", "y"])
      (.recordSelectors " a" "k8s\n" ["\u3000x:1", "y  "]) :=
    .recordSelectors ⟨[' '], [], blank rfl, blank rfl, by decide⟩
      ⟨[], ['\n'], blank rfl, blank rfl, by decide⟩ <|
      .cons ⟨['\u3000'], [], blank rfl, blank rfl, by decide⟩ <|
      .cons ⟨[], [' ', ' '], blank rfl, blank rfl, by decide⟩ .nil
  have asking : Request.Padded (.agentSelectors "a") (.agentSelectors "a\t ") :=
    .agentSelectors ⟨[], ['\t', ' '], blank rfl, blank rfl, by decide⟩
  have pads : List.Forall₂ Call.Padded calls padded :=
    .cons ⟨rfl, rfl, recording⟩ (.cons ⟨rfl, rfl, asking⟩ .nil)
  refine ⟨pads, ?_⟩
  rw [(padding_unnoticed pads {} (Database.Connection.connect {})).1]
  decide +kernel

end Roster
