import Mathlib.Data.List.Induction
import Roster.Failure

/-!
What becomes of a failure to which the outcomes of several rollbacks are added.

The message grows at its end only. A conflict and a lookup take the outcome into their text, and a
statement into the cause behind it, so that the words in front are said once. Any other failure is
turned into its message, which has these words already. A statement keeps each of its former causes
behind the one that tells of one outcome more.
-/

namespace Roster

/-! ## Kinds of failures -/

inductive Failure.Kind where
  | statement
  | conflict
  | notFound
  | connection
  | corrupt
  | rollbackWithoutCause
  | other
  deriving DecidableEq

def Failure.kind : Failure → Kind
  | .statement _ _ => .statement
  | .conflict _ => .conflict
  | .notFound _ => .notFound
  | .connection _ => .connection
  | .corrupt _ => .corrupt
  | .rollbackWithoutCause _ => .rollbackWithoutCause
  | .other _ => .other

/-! ## One outcome -/

namespace Failure

theorem annotate_conflict_message (text : String) (outcome : RollbackOutcome) :
    ((Failure.conflict text).annotate outcome).message =
      (Failure.conflict text).message ++ ": " ++ outcome.message := by
  change "conflict: " ++ (text ++ ": " ++ outcome.message) = "conflict: " ++ text ++ ": " ++ _
  rw [String.append_assoc, String.append_assoc, String.append_assoc]

theorem message_annotate (cause : Failure) (outcome : RollbackOutcome) :
    (cause.annotate outcome).message = cause.message ++ ": " ++ outcome.message := by
  cases cause with
  | statement sql reason =>
    change _ ++ (reason.message ++ ": " ++ outcome.message) = _ ++ reason.message ++ ": " ++ _
    rw [← String.append_assoc, ← String.append_assoc]
  | conflict text => exact annotate_conflict_message text outcome
  | notFound text =>
    change _ ++ (text ++ ": " ++ outcome.message) = _ ++ text ++ ": " ++ _
    rw [← String.append_assoc, ← String.append_assoc]
  | connection | corrupt | rollbackWithoutCause | other => rfl

/-- The kind of a failure with an outcome. -/
def Kind.annotated : Kind → Kind
  | .statement => .statement
  | .conflict => .conflict
  | .notFound => .notFound
  | .connection | .corrupt | .rollbackWithoutCause | .other => .other

theorem Kind.annotated_annotated (kind : Kind) : kind.annotated.annotated = kind.annotated := by
  cases kind <;> rfl

theorem kind_annotate (failure : Failure) (outcome : RollbackOutcome) :
    (failure.annotate outcome).kind = failure.kind.annotated := by
  cases failure <;> rfl

end Failure

/-! ## Several outcomes -/

namespace RollbackOutcome

/-- The outcomes one after the other, as a message tells them. -/
def notes (outcomes : List RollbackOutcome) : String :=
  String.join (outcomes.map fun outcome => ": " ++ outcome.message)

theorem notes_cons (outcome : RollbackOutcome) (outcomes : List RollbackOutcome) :
    notes (outcome :: outcomes) = ": " ++ outcome.message ++ notes outcomes := by
  rw [notes, List.map_cons, String.join_cons, notes]

theorem notes_concat (outcomes : List RollbackOutcome) (outcome : RollbackOutcome) :
    notes (outcomes ++ [outcome]) = notes outcomes ++ (": " ++ outcome.message) := by
  rw [notes, List.map_append, String.join_append, notes, List.map_singleton, String.join_cons,
    String.join_nil, String.append_empty]

end RollbackOutcome

open RollbackOutcome (notes)

namespace Cause

/-- Adds one outcome after the other. -/
def annotateAll (cause : Cause) (outcomes : List RollbackOutcome) : Cause :=
  outcomes.foldl annotate cause

theorem annotateAll_concat (cause : Cause) (outcomes : List RollbackOutcome)
    (outcome : RollbackOutcome) :
    cause.annotateAll (outcomes ++ [outcome]) = (cause.annotateAll outcomes).annotate outcome := by
  rw [annotateAll, List.foldl_append, List.foldl_cons, List.foldl_nil, annotateAll]

theorem message_annotateAll (cause : Cause) (outcomes : List RollbackOutcome) :
    (cause.annotateAll outcomes).message = cause.message ++ notes outcomes := by
  induction outcomes using List.reverseRecOn with
  | nil => exact String.append_empty.symm
  | append_singleton outcomes outcome ih =>
    rw [annotateAll_concat, RollbackOutcome.notes_concat]
    change (cause.annotateAll outcomes).message ++ ": " ++ outcome.message = _
    rw [ih, String.append_assoc, String.append_assoc]

/-- The text of the cause with all of the outcomes, with all but the last, and so on down to the
first one alone. -/
def annotatedTexts (cause : Cause) (outcomes : List RollbackOutcome) : List String :=
  (List.range outcomes.length).map fun left =>
    cause.message ++ notes (outcomes.take (outcomes.length - left))

theorem annotatedTexts_concat (cause : Cause) (outcomes : List RollbackOutcome)
    (outcome : RollbackOutcome) :
    cause.annotatedTexts (outcomes ++ [outcome]) =
      (cause.message ++ notes (outcomes ++ [outcome])) :: cause.annotatedTexts outcomes := by
  have shorter (left : Nat) :
      (outcomes ++ [outcome]).take (outcomes.length + 1 - (left + 1)) =
        outcomes.take (outcomes.length - left) := by
    rw [Nat.add_sub_add_right, List.take_append_of_le_length (Nat.sub_le _ _)]
  have whole : (outcomes ++ [outcome]).take (outcomes.length + 1 - 0) = outcomes ++ [outcome] :=
    List.take_of_length_le (by simp)
  rw [annotatedTexts, List.length_append, List.length_singleton, List.range_succ_eq_map,
    List.map_cons, List.map_map, whole, annotatedTexts]
  congr 1
  apply List.map_congr_left
  intro left _
  exact congrArg (cause.message ++ notes ·) (shorter left)

theorem chain_annotateAll (cause : Cause) (outcomes : List RollbackOutcome) :
    (cause.annotateAll outcomes).chain = cause.annotatedTexts outcomes ++ cause.chain := by
  -- By the last outcome, since it is the one whose text comes first.
  induction outcomes using List.reverseRecOn with
  | nil => rfl
  | append_singleton outcomes outcome ih =>
    have last_message := message_annotateAll cause (outcomes ++ [outcome])
    rw [annotateAll_concat] at last_message ⊢
    calc ((cause.annotateAll outcomes).annotate outcome).chain
      _ = ((cause.annotateAll outcomes).annotate outcome).message ::
          (cause.annotateAll outcomes).chain := rfl
      _ = cause.annotatedTexts (outcomes ++ [outcome]) ++ cause.chain := by
        rw [last_message, ih, annotatedTexts_concat, List.cons_append]

end Cause

namespace Failure

theorem message_annotateAll (failure : Failure) (outcomes : List RollbackOutcome) :
    (failure.annotateAll outcomes).message = failure.message ++ notes outcomes := by
  induction outcomes generalizing failure with
  | nil => exact String.append_empty.symm
  | cons outcome outcomes ih =>
    change ((failure.annotate outcome).annotateAll outcomes).message = _
    rw [ih, message_annotate, RollbackOutcome.notes_cons, String.append_assoc, String.append_assoc,
      String.append_assoc]

theorem annotateAll_statement (sql : String) (cause : Cause) (outcomes : List RollbackOutcome) :
    (Failure.statement sql cause).annotateAll outcomes =
      .statement sql (cause.annotateAll outcomes) := by
  induction outcomes generalizing cause with
  | nil => rfl
  | cons outcome outcomes ih => exact ih (cause.annotate outcome)

/-- The first outcome decides the kind. -/
theorem kind_annotateAll (failure : Failure) (outcome : RollbackOutcome)
    (outcomes : List RollbackOutcome) :
    (failure.annotateAll (outcome :: outcomes)).kind = failure.kind.annotated := by
  induction outcomes generalizing failure outcome with
  | nil => exact kind_annotate failure outcome
  | cons next rest ih =>
    change ((failure.annotate outcome).annotateAll (next :: rest)).kind = _
    rw [ih, kind_annotate, Kind.annotated_annotated]

/-- How a failure stands to the one that it was before the outcomes were added, in this order. -/
structure Annotated (failure : Failure) (outcomes : List RollbackOutcome) (result : Failure) :
    Prop where
  message : result.message = failure.message ++ notes outcomes
  kind : outcomes ≠ [] → result.kind = failure.kind.annotated
  /-- The former causes are still there, each behind the one made of it, and what was behind the
  first of them is as it was. -/
  statement : ∀ sql cause, failure = .statement sql cause → ∃ annotated,
    result = .statement sql annotated ∧
      annotated.chain = cause.annotatedTexts outcomes ++ cause.chain

theorem outcomes_told_in_order (failure : Failure) (outcomes : List RollbackOutcome) :
    Annotated failure outcomes (failure.annotateAll outcomes) where
  message := message_annotateAll failure outcomes
  kind added := by
    obtain ⟨first, rest, rfl⟩ := List.exists_cons_of_ne_nil added
    exact kind_annotateAll failure first rest
  statement := by
    rintro sql cause rfl
    exact ⟨cause.annotateAll outcomes, annotateAll_statement sql cause outcomes,
      cause.chain_annotateAll outcomes⟩

example : (Cause.root "disk full").annotatedTexts [.failed "busy", .succeeded] =
    ["disk full: [Unsuccessful rollback [busy] upon error]: [Successful rollback upon error]",
      "disk full: [Unsuccessful rollback [busy] upon error]"] := by decide

end Failure

end Roster
