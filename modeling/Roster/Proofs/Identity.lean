import Mathlib.Data.List.Nodup
import Mathlib.Data.Nat.Find
import Roster.Proofs.Requests.Problems
import Roster.Proofs.Text.Trimmed

/-!
Which batches of texts are read as identities, and which texts are `spiffe://` URIs.

A batch is refused at the first entry that is blank or that repeats an earlier one, whatever comes
after it. The identities that were read from a batch are read again as they are. The form of a URI
is given by its parts, with nothing said of how a check would look for them.
-/

namespace Roster

/-! ## Lists -/

theorem findSome?_id_eq_some_iff {α : Type} {problems : List (Option α)} {problem : α} :
    problems.findSome? id = some problem ↔
      ∃ i : Nat, problems[i]? = some (some problem) ∧
        ∀ j < i, ∀ other : α, problems[j]? ≠ some (some other) := by
  rw [List.findSome?_eq_some_iff]
  constructor
  · rintro ⟨before, found, after, rfl, rfl, clear⟩
    refine ⟨before.length, by simp, fun j earlier other there => ?_⟩
    rw [List.getElem?_append_left earlier] at there
    exact nomatch clear _ (List.mem_of_getElem? there)
  · rintro ⟨i, here, clear⟩
    obtain ⟨within, same⟩ := List.getElem?_eq_some_iff.mp here
    refine ⟨problems.take i, some problem, problems.drop (i + 1), ?_, rfl, ?_⟩
    · rw [← same, List.getElem_cons_drop, List.take_append_drop]
    · intro found member
      obtain ⟨j, there⟩ := List.mem_iff_getElem?.mp member
      rw [List.getElem?_take] at there
      split at there
      next earlier =>
        cases found with
        | none => rfl
        | some other => exact absurd there (clear j earlier other)
      next => cases there

theorem mem_take_iff {α : Type} {items : List α} {i : Nat} {item : α} :
    item ∈ items.take i ↔ ∃ j < i, items[j]? = some item := by
  rw [List.mem_iff_getElem?]
  refine exists_congr fun j => ?_
  rw [List.getElem?_take]
  split
  next earlier => exact ⟨fun there => ⟨earlier, there⟩, And.right⟩
  next later => exact iff_of_false nofun fun there => later there.1

theorem takeWhile_eq_iff {α : Type} {p : α → Bool} {items front : List α} :
    items.takeWhile p = front ↔
      ∃ rest, items = front ++ rest ∧ (∀ item ∈ front, p item = true) ∧
        ∀ item ∈ rest.head?, p item = false := by
  constructor
  · rintro rfl
    refine ⟨items.dropWhile p, List.takeWhile_append_dropWhile.symm,
      fun _ => List.mem_takeWhile_imp, fun item stops => ?_⟩
    have first := List.head?_dropWhile_not p items
    rw [stops] at first
    exact first
  · rintro ⟨rest, rfl, passes, stops⟩
    rw [List.takeWhile_append_of_pos passes]
    cases rest with
    | nil => rw [List.takeWhile_nil, List.append_nil]
    | cons item rest =>
      rw [List.takeWhile_cons_of_neg (by rw [stops item rfl]; decide), List.append_nil]

namespace AgentId

/-! ## Batches -/

/-- The entry at this place is blank, or it is an earlier one up to white space at the ends. -/
def FaultAt (entries : List String) (i : Nat) : Prop :=
  ∃ s, entries[i]? = some s ∧ (Text.Blank s ∨ Text.trim s ∈ (entries.take i).map Text.trim)

structure FirstFault (entries : List String) (i : Nat) : Prop where
  fault : FaultAt entries i
  first : ∀ j < i, ¬FaultAt entries j

/-- What an entry is refused for if it is at fault. One that is not blank is a repetition then. -/
def refusal (s : String) : Invalid :=
  if Text.Blank s then .blankAgent else .repeatedAgent (Text.trim s)

theorem entryProblem_eq_some_iff {earlier : List String} {s : String} {reason : Invalid} :
    entryProblem earlier s = some reason ↔
      (Text.Blank s ∨ Text.trim s ∈ earlier.map Text.trim) ∧ reason = refusal s := by
  unfold entryProblem refusal
  by_cases blank : Text.Blank s
  · rw [if_pos blank, if_pos blank, Option.some.injEq, eq_comm]
    exact (and_iff_right (.inl blank)).symm
  · rw [if_neg blank, if_neg blank, or_iff_right blank]
    split
    next repeated => rw [Option.some.injEq, eq_comm, and_iff_right repeated]
    next fresh => exact iff_of_false nofun fun fault => fresh fault.1

theorem problem_at_iff {entries : List String} {i : Nat} {reason : Invalid} :
    (batchProblems entries)[i]? = some (some reason) ↔
      FaultAt entries i ∧ ∃ s, entries[i]? = some s ∧ reason = refusal s := by
  rw [batchProblems, List.getElem?_map, List.getElem?_zipIdx, FaultAt]
  cases entries[i]? with
  | none => exact iff_of_false nofun fun there => nomatch there.1.choose_spec.1
  | some s =>
    simp only [Option.map_some, Option.some.injEq, Nat.zero_add, entryProblem_eq_some_iff,
      exists_eq_left']

theorem faultAt_iff {entries : List String} {i : Nat} :
    FaultAt entries i ↔ ∃ reason, (batchProblems entries)[i]? = some (some reason) := by
  constructor
  · intro fault
    have ⟨s, there, _⟩ := fault
    exact ⟨refusal s, problem_at_iff.mpr ⟨fault, s, there, rfl⟩⟩
  · rintro ⟨reason, there⟩
    exact (problem_at_iff.mp there).1

theorem parseBatch_eq_error_iff {entries : List String} {reason : Invalid} :
    parseBatch entries = .error reason ↔
      ∃ i s, FirstFault entries i ∧ entries[i]? = some s ∧ reason = refusal s := by
  rw [(decidedBy_parseBatch entries).error_iff, findSome?_id_eq_some_iff]
  constructor
  · rintro ⟨i, here, clear⟩
    obtain ⟨fault, s, there, same⟩ := problem_at_iff.mp here
    refine ⟨i, s, ⟨fault, fun j earlier other => ?_⟩, there, same⟩
    obtain ⟨reason, found⟩ := faultAt_iff.mp other
    exact clear j earlier reason found
  · rintro ⟨i, s, first, there, same⟩
    refine ⟨i, problem_at_iff.mpr ⟨first.fault, s, there, same⟩, fun j earlier other found => ?_⟩
    exact first.first j earlier (problem_at_iff.mp found).1

/-- A list without a fault is one of texts that are not blank and differ once they are trimmed. -/
theorem forall_not_faultAt_iff {entries : List String} :
    (∀ i, ¬FaultAt entries i) ↔
      (∀ s ∈ entries, ¬Text.Blank s) ∧ (entries.map Text.trim).Nodup := by
  rw [List.nodup_iff_getElem?_ne_getElem?]
  constructor
  · intro clear
    refine ⟨fun s member blank => ?_, fun i j earlier within same => ?_⟩
    · obtain ⟨i, there⟩ := List.mem_iff_getElem?.mp member
      exact clear i ⟨s, there, .inl blank⟩
    · rw [List.length_map] at within
      have there := List.getElem?_eq_getElem within
      have repeated : Text.trim entries[j] ∈ (entries.map Text.trim).take j := by
        rw [List.getElem?_map (i := j), there] at same
        exact mem_take_iff.mpr ⟨i, earlier, same⟩
      rw [← List.map_take] at repeated
      exact clear j ⟨_, there, .inr repeated⟩
  · rintro ⟨visible, distinct⟩ i ⟨s, there, blank | repeated⟩
    · exact visible s (List.mem_of_getElem? there) blank
    · rw [List.map_take] at repeated
      obtain ⟨j, earlier, same⟩ := mem_take_iff.mp repeated
      have within := (List.getElem?_eq_some_iff.mp there).1
      refine distinct j i earlier (by rwa [List.length_map]) ?_
      rw [same, List.getElem?_map, there, Option.map_some]

theorem FaultAt.exists_first {entries : List String} {i : Nat} (fault : FaultAt entries i) :
    ∃ first, FirstFault entries first := by
  classical
  have faulty : ∃ i, FaultAt entries i := ⟨i, fault⟩
  exact ⟨Nat.find faulty, Nat.find_spec faulty, fun _ earlier => Nat.find_min faulty earlier⟩

theorem FirstFault.refused {entries : List String} {i : Nat} (first : FirstFault entries i) :
    ∃ reason, parseBatch entries = .error reason := by
  obtain ⟨s, there, _⟩ := first.fault
  exact ⟨refusal s, parseBatch_eq_error_iff.mpr ⟨i, s, first, there, rfl⟩⟩

theorem parseBatch_eq_ok_iff {entries : List String} {agents : List AgentId} :
    parseBatch entries = .ok agents ↔
      (∀ s ∈ entries, ¬Text.Blank s) ∧ (entries.map Text.trim).Nodup ∧
        agents = entries.map fun s => ⟨Text.trim s⟩ := by
  rw [← and_assoc, ← forall_not_faultAt_iff]
  constructor
  · intro parsed
    refine ⟨fun i fault => ?_, eq_map_of_parseBatchAfter parsed⟩
    obtain ⟨first, earliest⟩ := fault.exists_first
    obtain ⟨reason, refused⟩ := earliest.refused
    rw [parsed] at refused
    cases refused
  · -- A refusal would name a place with a fault, and what is accepted can only be the trimmed list.
    rintro ⟨clear, rfl⟩
    cases parsed : parseBatch entries with
    | error reason =>
      obtain ⟨i, s, first, _⟩ := parseBatch_eq_error_iff.mp parsed
      exact absurd first.fault (clear i)
    | ok agents => rw [eq_map_of_parseBatchAfter parsed]; rfl

/-- Whether there is a fault at a place depends on the entries up to there. -/
theorem faultAt_congr {entries others : List String} {i : Nat}
    (same : entries.take (i + 1) = others.take (i + 1)) :
    FaultAt entries i ↔ FaultAt others i := by
  have here (list : List String) : list[i]? = (list.take (i + 1))[i]? :=
    List.getElem?_take_of_succ.symm
  have before (list : List String) : list.take i = (list.take (i + 1)).take i := by
    rw [List.take_take, Nat.min_eq_left (Nat.le_succ i)]
  rw [FaultAt, FaultAt, here entries, before entries, same, ← here, ← before]

theorem FirstFault.within {entries : List String} {i : Nat} (first : FirstFault entries i) :
    i < entries.length := by
  obtain ⟨s, there, _⟩ := first.fault
  exact (List.getElem?_eq_some_iff.mp there).1

/-- Nothing is looked at behind the first fault. -/
theorem FirstFault.parseBatch_eq {entries : List String} {i : Nat} (first : FirstFault entries i)
    (others : List String) :
    parseBatch (entries.take (i + 1) ++ others) = parseBatch entries := by
  have upTo {j : Nat} (le : j ≤ i) :
      (entries.take (i + 1) ++ others).take (j + 1) = entries.take (j + 1) := by
    have within := first.within
    rw [List.take_append_of_le_length (by rw [List.length_take]; omega), List.take_take,
      Nat.min_eq_left (by omega)]
  -- Both lists have the same faults up to this place, so that it is the first one in both.
  have kept : FirstFault (entries.take (i + 1) ++ others) i :=
    ⟨(faultAt_congr (upTo le_rfl)).mpr first.fault,
      fun j earlier other => first.first j earlier ((faultAt_congr (upTo earlier.le)).mp other)⟩
  obtain ⟨s, there, _⟩ := first.fault
  have still : (entries.take (i + 1) ++ others)[i]? = some s := by
    rw [← List.getElem?_take_of_succ, upTo le_rfl, List.getElem?_take_of_succ, there]
  rw [parseBatch_eq_error_iff.mpr ⟨i, s, kept, still, rfl⟩,
    parseBatch_eq_error_iff.mpr ⟨i, s, first, there, rfl⟩]

theorem parseBatch_again {entries : List String} {agents : List AgentId}
    (parsed : parseBatch entries = .ok agents) : parseBatch (agents.map text) = .ok agents := by
  obtain ⟨visible, distinct, rfl⟩ := parseBatch_eq_ok_iff.mp parsed
  have texts : (entries.map fun s => AgentId.mk (Text.trim s)).map text = entries.map Text.trim :=
    List.map_map
  have trimmed : (entries.map Text.trim).map Text.trim = entries.map Text.trim := by
    rw [List.map_map]
    exact List.map_congr_left fun s _ => Text.trim_trim s
  rw [texts, parseBatch_eq_ok_iff]
  refine ⟨?_, by rwa [trimmed], ?_⟩
  · rintro _ member blank
    obtain ⟨s, given, rfl⟩ := List.mem_map.mp member
    rw [← Text.trim_eq_empty_iff, Text.trim_trim, Text.trim_eq_empty_iff] at blank
    exact visible s given blank
  · rw [List.map_map]
    exact List.map_congr_left fun s _ => congrArg AgentId.mk (Text.trim_trim s).symm

/-- What a batch is read as, and what it is refused for. -/
structure BatchLaw (entries : List String) : Prop where
  accepted : ∀ agents, parseBatch entries = .ok agents ↔
    (∀ s ∈ entries, ¬Text.Blank s) ∧ (entries.map Text.trim).Nodup ∧
      agents = entries.map fun s => ⟨Text.trim s⟩
  refused : ∀ reason, parseBatch entries = .error reason ↔
    ∃ i s, FirstFault entries i ∧ entries[i]? = some s ∧ reason = refusal s
  /-- What follows the first fault does not matter. -/
  rest : ∀ i, FirstFault entries i → ∀ others,
    parseBatch (entries.take (i + 1) ++ others) = parseBatch entries
  again : ∀ agents, parseBatch entries = .ok agents → parseBatch (agents.map text) = .ok agents

theorem batch_read_to_first_fault (entries : List String) : BatchLaw entries where
  accepted _ := parseBatch_eq_ok_iff
  refused _ := parseBatch_eq_error_iff
  rest _ first others := first.parseBatch_eq others
  again _ parsed := parseBatch_again parsed

/-! ## URIs -/

/-- A `spiffe://` URI by its parts: the scheme, a trust domain, and either nothing more or whatever
comes after a slash. -/
def SpiffeForm (s : String) : Prop :=
  ∃ domain rest : String, s = "spiffe://" ++ domain ++ rest ∧ domain ≠ "" ∧
    (∀ c ∈ domain.toList, c ≠ '/' ∧ Text.isBlank c = false) ∧
    (rest = "" ∨ rest.toList.head? = some '/')

theorem trustDomain?_eq_some_iff {agent : AgentId} {domain : List Char} :
    agent.trustDomain? = some domain ↔
      ∃ rest, agent.text.toList = scheme ++ (domain ++ rest) ∧ (∀ c ∈ domain, c ≠ '/') ∧
        (rest = [] ∨ rest.head? = some '/') := by
  have stops (rest : List Char) : (∀ c ∈ rest.head?, decide (c ≠ '/') = false) ↔
      rest = [] ∨ rest.head? = some '/' := by
    cases rest <;> simp
  have segment (after : List Char) : after.takeWhile (· ≠ '/') = domain ↔
      ∃ rest, after = domain ++ rest ∧ (∀ c ∈ domain, c ≠ '/') ∧
        (rest = [] ∨ rest.head? = some '/') := by
    simp only [takeWhile_eq_iff, stops, decide_eq_true_eq]
  rw [trustDomain?]
  split
  next hasScheme =>
    obtain ⟨after, same⟩ := List.isPrefixOf_iff_prefix.mp hasScheme
    simp only [← same, List.drop_left, Option.some.injEq, segment, List.append_cancel_left_eq]
  next other =>
    refine iff_of_false nofun ?_
    rintro ⟨rest, same, _⟩
    exact other (List.isPrefixOf_iff_prefix.mpr ⟨_, same.symm⟩)

theorem scheme_eq : scheme = "spiffe://".toList := rfl

theorem eq_parts_iff {s domain rest : String} :
    s = "spiffe://" ++ domain ++ rest ↔ s.toList = scheme ++ (domain.toList ++ rest.toList) := by
  rw [← String.toList_inj, String.toList_append, String.toList_append, List.append_assoc, scheme_eq]

theorem isSpiffe_iff (agent : AgentId) : agent.isSpiffe = true ↔ SpiffeForm agent.text := by
  have checks : agent.isSpiffe = true ↔ ∃ domain, agent.trustDomain? = some domain ∧
      domain ≠ [] ∧ ∀ c ∈ domain, Text.isBlank c = false := by
    rw [isSpiffe]
    cases agent.trustDomain? <;> simp
  rw [checks]
  constructor
  · rintro ⟨domain, found, nonempty, visible⟩
    obtain ⟨rest, same, inside, ends⟩ := trustDomain?_eq_some_iff.mp found
    refine ⟨String.ofList domain, String.ofList rest, ?_, ?_, ?_, ?_⟩
    · rw [eq_parts_iff, same, String.toList_ofList, String.toList_ofList]
    · rwa [Ne, String.ofList_eq_empty_iff]
    · rw [String.toList_ofList]
      exact fun c member => ⟨inside c member, visible c member⟩
    · rwa [String.ofList_eq_empty_iff, String.toList_ofList]
  · rintro ⟨domain, rest, same, nonempty, characters, ends⟩
    refine ⟨domain.toList, trustDomain?_eq_some_iff.mpr ⟨rest.toList, ?_, ?_, ?_⟩, ?_, ?_⟩
    · exact eq_parts_iff.mp same
    · exact fun c member => (characters c member).1
    · rwa [String.toList_eq_nil_iff]
    · rwa [Ne, String.toList_eq_nil_iff]
    · exact fun c member => (characters c member).2

instance (s : String) : Decidable (SpiffeForm s) :=
  decidable_of_iff _ (isSpiffe_iff ⟨s⟩)

/-- A text with the scheme is not blank. -/
theorem SpiffeForm.visible {s : String} (form : SpiffeForm (Text.trim s)) : ¬Text.Blank s := by
  intro blank
  obtain ⟨domain, rest, same, _⟩ := form
  rw [(Text.trim_eq_empty_iff s).mpr blank, eq_parts_iff] at same
  exact absurd same (by rw [scheme_eq]; simp)

theorem parseSpiffe_eq (s : String) : parseSpiffe s =
    if SpiffeForm (Text.trim s) then .ok ⟨Text.trim s⟩
    else .error (if Text.Blank s then .blankAgent else .notSpiffe (Text.trim s)) := by
  rw [parseSpiffe, parse, nonBlank_eq]
  -- The check asks for a blank text first, the equation for the form, which no blank text has.
  by_cases blank : Text.Blank s
  · have formless : ¬SpiffeForm (Text.trim s) := fun form => form.visible blank
    rw [if_pos blank, if_neg formless, if_pos blank]
    rfl
  · have checked := isSpiffe_iff ⟨Text.trim s⟩
    rw [if_neg blank, if_neg blank]
    change (if (AgentId.mk (Text.trim s)).isSpiffe = true then _ else _) = _
    simp only [checked]

theorem parseSpiffe_eq_ok_iff {s : String} {agent : AgentId} :
    parseSpiffe s = .ok agent ↔ SpiffeForm (Text.trim s) ∧ agent = ⟨Text.trim s⟩ := by
  rw [parseSpiffe_eq]
  split
  next form => rw [Except.ok.injEq, eq_comm, and_iff_right form]
  next formless => exact iff_of_false nofun fun both => formless both.1

theorem parseSpiffe_eq_error_iff {s : String} {reason : Invalid} :
    parseSpiffe s = .error reason ↔ ¬SpiffeForm (Text.trim s) ∧
      reason = if Text.Blank s then .blankAgent else .notSpiffe (Text.trim s) := by
  rw [parseSpiffe_eq]
  split
  next form => exact iff_of_false nofun fun both => both.1 form
  next formless => rw [Except.error.injEq, eq_comm, and_iff_right formless]

/-- Which texts are read as URIs, and what the others are refused for. -/
structure SpiffeLaw (s : String) : Prop where
  accepted : ∀ agent, parseSpiffe s = .ok agent ↔
    SpiffeForm (Text.trim s) ∧ agent = ⟨Text.trim s⟩
  blank : parseSpiffe s = .error .blankAgent ↔ Text.Blank s
  refused : ∀ reason, parseSpiffe s = .error reason ↔
    ¬SpiffeForm (Text.trim s) ∧
      reason = if Text.Blank s then .blankAgent else .notSpiffe (Text.trim s)
  /-- An identity that was read without regard to its form has the form if and only if the same
  text is read as a URI. -/
  built : ∀ agent, parse s = .ok agent →
    (agent.isSpiffe = true ↔ ∃ accepted, parseSpiffe s = .ok accepted)

theorem uris_read_by_form (s : String) : SpiffeLaw s where
  accepted _ := parseSpiffe_eq_ok_iff
  blank := by
    rw [parseSpiffe_eq_error_iff]
    constructor
    · rintro ⟨_, same⟩
      by_contra visible
      rw [if_neg visible] at same
      cases same
    · intro blank
      exact ⟨fun form => form.visible blank, (if_pos blank).symm⟩
  refused _ := parseSpiffe_eq_error_iff
  built := by
    intro agent parsed
    have trimmed : agent.text = Text.trim s := congrArg text (of_parse parsed).1
    rw [isSpiffe_iff, trimmed]
    constructor
    · intro form
      exact ⟨⟨Text.trim s⟩, parseSpiffe_eq_ok_iff.mpr ⟨form, rfl⟩⟩
    · rintro ⟨accepted, read⟩
      exact (parseSpiffe_eq_ok_iff.mp read).1

example : SpiffeForm "spiffe://a/ b" ∧ ¬SpiffeForm "spiffe://" ∧ ¬SpiffeForm "spiffe:///b" ∧
    ¬SpiffeForm "spiffe://a c/b" := by decide

end AgentId

end Roster
