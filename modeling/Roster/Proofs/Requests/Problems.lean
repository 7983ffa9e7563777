import Roster.Database.Store
import Roster.Memory
import Roster.Proofs.Run
import Roster.Proofs.Text.Blank

/-!
What is wrong with a request is a matter of its texts alone. The texts are looked at in a fixed
order, and the first that is at fault is reported by every registry, none of which is touched.

The checks stop at the first fault. They are compared with the list of all problems, text by text,
in which each entry of a batch is looked at with the entries before it.
-/

namespace Roster

/-! ## Problems -/

/-- The problem with a text that must not be blank. -/
def blankAs (reason : Invalid) (s : String) : Option Invalid :=
  if Text.Blank s then some reason else none

/-- The problem with an entry of a batch, after the given ones. -/
def entryProblem (earlier : List String) (s : String) : Option Invalid :=
  if Text.Blank s then some .blankAgent
  else if Text.trim s ∈ earlier.map Text.trim then some (.repeatedAgent (Text.trim s))
  else none

/-- The problems with the entries of a batch, each with all that come before it. -/
def batchProblems (entries : List String) : List (Option Invalid) :=
  entries.zipIdx.map fun (s, i) => entryProblem (entries.take i) s

def ClusterDraft.problems (draft : ClusterDraft) : List (Option Invalid) :=
  blankAs .blankName draft.name :: batchProblems draft.members

namespace Request

/-- What is wrong with each of the texts that a request must have right, in the order in which they
matter. A uid that is missing counts as a blank one where a cluster is edited. Where a cluster is
created there is nothing wrong with that. -/
def problems : Request → List (Option Invalid)
  | .registerAgent agent _ | .agentPlugin agent | .agentSelectors agent | .agentCluster agent =>
    [blankAs .blankAgent agent]
  | .listAgents | .listClusters => []
  | .recordSelectors agent plugin selectors =>
    blankAs .blankAgent agent :: blankAs .blankPlugin plugin ::
      selectors.zipIdx.map fun (s, i) => blankAs (.blankSelector i) s
  | .createCluster uid draft => (uid.map (blankAs .blankUid)).toList ++ draft.problems
  | .editCluster uid draft => uid.elim (some .blankUid) (blankAs .blankUid) :: draft.problems
  | .deleteCluster uid | .clusterAgents uid => [blankAs .blankUid uid]
  | .agentsMetadata agents => agents.map (blankAs .blankAgent)

/-- The first problem with a request, if there is any. -/
def firstProblem? (request : Request) : Option Invalid :=
  request.problems.findSome? id

end Request

/-! ## Checks that report the first problem -/

/-- The check fails with the first of the problems, and passes if there is none. -/
def DecidedBy {α : Type} (check : Except Invalid α) (problems : List (Option Invalid)) : Prop :=
  match problems.findSome? id with
  | some reason => check = .error reason
  | none => ∃ a, check = .ok a

section

variable {α β : Type} {check : Except Invalid α} {problems later : List (Option Invalid)}

theorem decidedBy_ok (a : α) : DecidedBy (.ok a) [] :=
  ⟨a, rfl⟩

theorem DecidedBy.bind {next : α → Except Invalid β} (first : DecidedBy check problems)
    (second : ∀ a, check = .ok a → DecidedBy (next a) later) :
    DecidedBy (check >>= next) (problems ++ later) := by
  unfold DecidedBy at first
  cases found : problems.findSome? id with
  | some reason =>
    rw [found] at first
    rw [DecidedBy, List.findSome?_append, found, first]
    rfl
  | none =>
    rw [found] at first
    obtain ⟨a, passed⟩ := first
    rw [DecidedBy, List.findSome?_append, found, passed]
    exact second a passed

theorem DecidedBy.error_iff (decided : DecidedBy check problems) {reason : Invalid} :
    check = .error reason ↔ problems.findSome? id = some reason := by
  unfold DecidedBy at decided
  cases found : problems.findSome? id with
  | some first =>
    rw [found] at decided
    rw [decided, Except.error.injEq, Option.some.injEq]
  | none =>
    rw [found] at decided
    obtain ⟨a, passed⟩ := decided
    exact iff_of_false (by rw [passed]; exact nofun) nofun

theorem DecidedBy.map (decided : DecidedBy check problems) (f : α → β) :
    DecidedBy (check.map f) problems := by
  have onward (a : α) (_ : check = .ok a) : DecidedBy (.ok (f a)) [] := decidedBy_ok (f a)
  have mapped := decided.bind onward
  rw [List.append_nil] at mapped
  exact mapped

theorem DecidedBy.andReturn (decided : DecidedBy check problems) (f : α → β) :
    DecidedBy (check >>= fun a => pure (f a)) problems := by
  cases check <;> exact decided.map f

theorem decidedBy_nonBlank (reason : Invalid) (s : String) :
    DecidedBy (nonBlank reason s) [blankAs reason s] := by
  rw [nonBlank_eq]
  unfold blankAs
  split
  next => exact rfl
  next => exact ⟨_, rfl⟩

theorem blankAs_empty (reason : Invalid) : blankAs reason "" = some reason :=
  if_pos fun c member => by simp at member

/-- A list is checked from left to right. -/
theorem decidedBy_mapM {γ : Type} {entries : List γ} {check : γ → Except Invalid α}
    {problem : γ → Option Invalid} (each : ∀ entry, DecidedBy (check entry) [problem entry]) :
    DecidedBy (entries.mapM check) (entries.map problem) := by
  induction entries with
  | nil => exact decidedBy_ok []
  | cons entry rest ih =>
    rw [List.mapM_cons]
    exact (each entry).bind fun a _ => ih.map (a :: ·)

end

/-! ## Identities, uids, names and selectors -/

theorem AgentId.decidedBy_parse (s : String) : DecidedBy (parse s) [blankAs .blankAgent s] :=
  (decidedBy_nonBlank _ s).map _

theorem ClusterUid.decidedBy_parse (s : String) : DecidedBy (parse s) [blankAs .blankUid s] :=
  (decidedBy_nonBlank _ s).map _

theorem ClusterName.decidedBy_parse (s : String) : DecidedBy (parse s) [blankAs .blankName s] :=
  (decidedBy_nonBlank _ s).map _

/-- Selectors are counted on from the given index. -/
theorem decidedBy_checkSelectors (index : Nat) (selectors : List String) :
    DecidedBy (checkSelectors index selectors)
      ((selectors.zipIdx index).map fun (s, i) => blankAs (.blankSelector i) s) := by
  induction selectors generalizing index with
  | nil => exact decidedBy_ok []
  | cons s rest ih =>
    have split_up : checkSelectors index (s :: rest) =
        nonBlank (.blankSelector index) s >>= fun selector =>
          (checkSelectors (index + 1) rest).map (selector :: ·) := by
      rw [checkSelectors]
      cases nonBlank (.blankSelector index) s <;> rfl
    rw [split_up]
    exact (decidedBy_nonBlank _ s).bind fun selector _ => (ih (index + 1)).map (selector :: ·)

theorem Attestation.decidedBy_check (agent : AgentId) (plugin : String) (selectors : List String) :
    DecidedBy (check agent plugin selectors)
      (blankAs .blankPlugin plugin ::
        selectors.zipIdx.map fun (s, i) => blankAs (.blankSelector i) s) := by
  have split_up : check agent plugin selectors = nonBlank .blankPlugin plugin >>= fun plugin =>
      (checkSelectors 0 selectors).map fun selectors => { agent, plugin, selectors } := by
    rw [check]
    cases nonBlank .blankPlugin plugin <;> rfl
  rw [split_up]
  exact (decidedBy_nonBlank _ plugin).bind fun _ _ => (decidedBy_checkSelectors 0 selectors).map _

/-! ## Batches -/

namespace AgentId

/-- What a batch is compared with is what was read before. -/
theorem decidedBy_parseBatchAfter {seen : List AgentId} {earlier : List String}
    (same : ∀ agent : AgentId, agent ∈ seen ↔ agent.text ∈ earlier.map Text.trim)
    (entries : List String) :
    DecidedBy (parseBatchAfter seen entries)
      ((entries.zipIdx earlier.length).map fun (s, i) =>
        entryProblem ((earlier ++ entries).take i) s) := by
  induction entries generalizing seen earlier with
  | nil => exact decidedBy_ok []
  | cons s rest ih =>
    have before : (earlier ++ s :: rest).take earlier.length = earlier := List.take_left
    have onward : earlier ++ s :: rest = (earlier ++ [s]) ++ rest := by
      rw [List.append_assoc, List.singleton_append]
    have counted : earlier.length + 1 = (earlier ++ [s]).length := by
      rw [List.length_append, List.length_singleton]
    simp only [List.zipIdx_cons, List.map_cons, before]
    rw [parseBatchAfter, parse, nonBlank_eq, entryProblem]
    by_cases blank : Text.Blank s
    · rw [if_pos blank, if_pos blank]
      exact rfl
    · rw [if_neg blank, if_neg blank]
      change DecidedBy (if AgentId.mk (Text.trim s) ∈ seen then _ else _) _
      simp only [same]
      split
      next repeated => exact rfl
      next fresh =>
        have extended : ∀ agent : AgentId, agent ∈ AgentId.mk (Text.trim s) :: seen ↔
            agent.text ∈ (earlier ++ [s]).map Text.trim := by
          intro agent
          rw [List.mem_cons, same, List.map_append, List.mem_append, List.map_singleton,
            List.mem_singleton, or_comm, AgentId.mk.injEq]
        have later := (ih extended).map (AgentId.mk (Text.trim s) :: ·)
        rw [onward, counted]
        exact later

theorem decidedBy_parseBatch (entries : List String) :
    DecidedBy (parseBatch entries) (batchProblems entries) := by
  have none_seen (agent : AgentId) :
      agent ∈ ([] : List AgentId) ↔ agent.text ∈ ([] : List String).map Text.trim := by simp
  exact decidedBy_parseBatchAfter none_seen entries

end AgentId

theorem ClusterDraft.decidedBy_check (draft : ClusterDraft) (uid : ClusterUid) :
    DecidedBy (draft.check uid) draft.problems := by
  have split_up : draft.check uid = ClusterName.parse draft.name >>= fun name =>
      (AgentId.parseBatch draft.members).map fun members =>
        { uid, name, domain := draft.domain, manager := draft.manager, platform := draft.platform,
          members } := by
    rw [check]
    cases ClusterName.parse draft.name <;> rfl
  rw [split_up]
  exact (ClusterName.decidedBy_parse _).bind fun _ _ => (AgentId.decidedBy_parseBatch _).map _

/-! ## Requests -/

theorem Request.decidedBy_check (fresh : ClusterUid) (request : Request) :
    DecidedBy (request.check fresh) request.problems := by
  cases request with
  | registerAgent agent | agentPlugin agent | agentSelectors agent | agentCluster agent =>
    exact (AgentId.decidedBy_parse agent).andReturn _
  | deleteCluster uid | clusterAgents uid => exact (ClusterUid.decidedBy_parse uid).andReturn _
  | listAgents | listClusters => exact decidedBy_ok _
  | recordSelectors agent plugin selectors =>
    exact (AgentId.decidedBy_parse agent).bind fun id _ =>
      (Attestation.decidedBy_check id plugin selectors).andReturn _
  | createCluster uid draft =>
    cases uid with
    | none =>
      rw [check, ok_bind]
      exact (draft.decidedBy_check fresh).andReturn _
    | some uid =>
      exact (ClusterUid.decidedBy_parse uid).bind fun uid _ =>
        (draft.decidedBy_check uid).andReturn _
  | editCluster uid draft =>
    have edited (s : String) : DecidedBy
        (ClusterUid.parse s >>= fun uid => draft.check uid >>= fun cluster =>
          pure (Operation.editCluster cluster)) (blankAs .blankUid s :: draft.problems) :=
      (ClusterUid.decidedBy_parse s).bind fun uid _ => (draft.decidedBy_check uid).andReturn _
    cases uid with
    | none =>
      have missing := edited ""
      rw [blankAs_empty] at missing
      exact missing
    | some uid => exact edited uid
  | agentsMetadata agents =>
    exact (decidedBy_mapM AgentId.decidedBy_parse).andReturn _

/-- A refused request does not reach the registry, and no other request is called invalid. -/
theorem serve_decided {σ : Type} [Registry σ] (now : Instant) (fresh : ClusterUid)
    (request : Request) (registry : σ) :
    match request.firstProblem? with
    | some reason => serve now fresh request registry = (.error (.invalid reason), registry)
    | none => ∀ reason, (serve now fresh request registry).1 ≠ .error (.invalid reason) := by
  have decided := request.decidedBy_check fresh
  unfold DecidedBy at decided
  unfold Request.firstProblem?
  split at decided
  next reason first => exact serve_of_invalid decided registry
  next =>
    obtain ⟨operation, checked⟩ := decided
    intro reason
    rw [serve_of_check checked]
    cases (Registry.perform now operation registry).1 <;> simp [Except.map, Except.mapError]

/-- The first problem with a request is what every registry answers, in any state and without a
change. A request without a problem is never called invalid. -/
theorem first_problem_answered (request : Request) (now : Instant) (fresh : ClusterUid)
    (m : Memory) (c : Database.Connection) :
    match request.firstProblem? with
    | some reason =>
      serve now fresh request m = (.error (.invalid reason), m) ∧
        serve now fresh request c = (.error (.invalid reason), c)
    | none => ∀ reason, (serve now fresh request m).1 ≠ .error (.invalid reason) ∧
        (serve now fresh request c).1 ≠ .error (.invalid reason) := by
  have inMemory := serve_decided now fresh request m
  have inDatabase := serve_decided now fresh request c
  split
  next reason first =>
    rw [first] at inMemory inDatabase
    exact ⟨inMemory, inDatabase⟩
  next clear =>
    rw [clear] at inMemory inDatabase
    exact fun reason => ⟨inMemory reason, inDatabase reason⟩

example : (Request.editCluster none { name := " ", members := ["a"] }).firstProblem? =
    some .blankUid := by decide

example : (Request.createCluster none
    { name := "n", members := ["a", " b", "b\t", ""] }).firstProblem? =
    some (.repeatedAgent "b") := by decide

end Roster
