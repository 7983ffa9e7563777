import Mathlib.Data.List.Induction
import Mathlib.Data.List.SplitLengths
import Roster.Database.Transaction
import Roster.Proofs.Text.Separated

/-!
The texts of batches, and the values that are bound to them.

A batch is sent as a text with a row for each of its agents, and the values are bound to the text
one agent after the other. The text knows nothing of the agents, and the values know nothing of the
rows. That each agent comes into its own row follows from two counts: what stands before the rows
and between them has no marks, and a row has as many marks as an agent has values.
-/

namespace Roster.Database

open List (replicate)

namespace Statement

/-! ## Marks -/

/-- The place of a value in a text. -/
def mark : Char := '?'

/-- How many values a text takes. -/
def marks (text : String) : Nat :=
  text.toList.count mark

theorem marks_append (first second : String) :
    marks (first ++ second) = marks first + marks second := by
  rw [marks, String.toList_append, List.count_append, marks, marks]

theorem marks_separator : marks ", " = 0 := by decide

theorem copies_succ (text : String) (count : Nat) :
    copies text (count + 1) = text ++ String.join (replicate count (", " ++ text)) := by
  induction count with
  | zero => exact String.append_empty.symm
  | succ count ih =>
    calc copies text (count + 2)
      _ = text ++ ", " ++ copies text (count + 1) := String.intercalate_cons_cons
      _ = text ++ ((", " ++ text) ++ String.join (replicate count (", " ++ text))) := by
        rw [ih]
        simp only [String.append_assoc]
      _ = _ := by rw [List.replicate_succ, String.join_cons]

theorem marks_copies (text : String) (count : Nat) :
    marks (copies text count) = marks text * count := by
  have repeated (count : Nat) :
      marks (String.join (replicate count (", " ++ text))) = marks text * count := by
    induction count with
    | zero => rfl
    | succ count ih =>
      rw [List.replicate_succ, String.join_cons, marks_append, marks_append, marks_separator, ih,
        Nat.mul_succ]
      omega
  cases count with
  | zero => rfl
  | succ count => rw [copies_succ, marks_append, repeated, Nat.mul_succ, Nat.add_comm]

/-! ## Texts of batches -/

/-- The rows of a batch can be told apart, and nothing but them takes values. -/
structure Itemised (head row : String) : Prop where
  plain : marks head = 0
  whole : Text.IsRow row
  marked : 0 < marks row

/-- The rows of a text with the given head. -/
def rowsAfter (head text : String) : List String :=
  Text.rows (text.toList.drop head.toList.length)

variable {head row : String} {count : Nat}

theorem rowsAfter_append (head text : String) :
    rowsAfter head (head ++ text) = Text.rows text.toList := by
  rw [rowsAfter, String.toList_append, List.drop_left]

theorem Itemised.marks_batch (itemised : Itemised head row) (count : Nat) :
    marks (batch head row count) = marks row * count := by
  rw [batch, marks_append, itemised.plain, Nat.zero_add, marks_copies]

theorem Itemised.isRow_replicate (itemised : Itemised head row) (count : Nat) :
    ∀ text ∈ replicate count row, Text.IsRow text := by
  intro text member
  rw [List.eq_of_mem_replicate member]
  exact itemised.whole

theorem replicate_ne_nil (positive : 0 < count) : replicate count row ≠ [] := by
  simp only [ne_eq, List.replicate_eq_nil_iff]
  omega

theorem Itemised.rowsAfter_batch (itemised : Itemised head row) (positive : 0 < count) :
    rowsAfter head (batch head row count) = replicate count row := by
  rw [batch, rowsAfter_append, copies]
  exact Text.rows_intercalate (replicate_ne_nil positive) (itemised.isRow_replicate count)

/-- Rows that make up a batch are copies of the one that it was made of. -/
theorem Itemised.eq_replicate (itemised : Itemised head row) (positive : 0 < count)
    {texts : List String} (rows : ∀ text ∈ texts, Text.IsRow text)
    (same : batch head row count = head ++ ", ".intercalate texts) :
    texts = replicate count row := by
  have joined : copies row count = ", ".intercalate texts := (String.append_right_inj head).mp same
  have nonempty : texts ≠ [] := by
    -- Without rows there would be no marks.
    rintro rfl
    have counts : marks row * count = 0 := by
      rw [← marks_copies, joined]
      rfl
    exact absurd counts (Nat.ne_of_gt (Nat.mul_pos itemised.marked positive))
  exact Text.intercalate_rows_inj nonempty (replicate_ne_nil positive) rows
    (itemised.isRow_replicate count) joined.symm

/-- How the text of a batch is made up, and what can be told from it. -/
structure Shape (head row : String) (marksPerRow count : Nat) : Prop where
  spelled : batch head row count =
    head ++ (row ++ String.join (replicate (count - 1) (", " ++ row)))
  counted : marks (batch head row count) = marksPerRow * count
  /-- There is one way to take the text apart into rows. -/
  apart : ∃! texts : List String, (∀ text ∈ texts, Text.IsRow text) ∧
    batch head row count = head ++ ", ".intercalate texts
  rows : rowsAfter head (batch head row count) = replicate count row
  distinct : ∀ other, batch head row other = batch head row count → other = count

theorem Itemised.shape (itemised : Itemised head row) (positive : 0 < count) :
    Shape head row (marks row) count where
  spelled := by
    obtain ⟨count, rfl⟩ := Nat.exists_eq_add_one_of_ne_zero (Nat.ne_of_gt positive)
    rw [batch, copies_succ, Nat.add_sub_cancel]
  counted := itemised.marks_batch count
  apart := ⟨replicate count row, ⟨itemised.isRow_replicate count, rfl⟩,
    fun _ texts => itemised.eq_replicate positive texts.1 texts.2⟩
  rows := itemised.rowsAfter_batch positive
  distinct := by
    intro other same
    have counts : marks row * other = marks row * count := by
      rw [← itemised.marks_batch, same, itemised.marks_batch]
    exact Nat.eq_of_mul_eq_mul_left itemised.marked counts

theorem sql_insertAgents (count : Nat) :
    (insertAgents count).sql = batch agentsHead agentsRow count := rfl

theorem sql_insertMemberships (count : Nat) :
    (insertMemberships count).sql = batch membershipsHead membershipsRow count := rfl

theorem itemised_agents : Itemised agentsHead agentsRow := by
  constructor <;> decide +kernel

theorem itemised_memberships : Itemised membershipsHead membershipsRow := by
  constructor <;> decide +kernel

theorem marks_agentsRow : marks agentsRow = 1 := by decide +kernel

theorem marks_membershipsRow : marks membershipsRow = 2 := by decide +kernel

/-! ## Values in the places of marks -/

/-- A text with values in the places of its marks, the first value in the first place. A mark stays
if there is no value left for it. -/
def fill : List Char → List String → List (Char ⊕ String)
  | [], _ => []
  | c :: rest, [] => .inl c :: fill rest []
  | c :: rest, value :: values =>
    if c = mark then .inr value :: fill rest values else .inl c :: fill rest (value :: values)

/-- A text without values. -/
def unfilled (text : String) : List (Char ⊕ String) :=
  text.toList.map .inl

theorem fill_cons_of_ne {c : Char} (other : c ≠ mark) (rest : List Char) (values : List String) :
    fill (c :: rest) values = .inl c :: fill rest values := by
  cases values with
  | nil => rw [fill]
  | cons => rw [fill, if_neg other]

/-- What takes no values leaves them all to what follows. -/
theorem fill_append_of_plain {text : List Char} (plain : text.count mark = 0) (rest : List Char)
    (values : List String) : fill (text ++ rest) values = text.map .inl ++ fill rest values := by
  induction text with
  | nil => rfl
  | cons c text ih =>
    have other : c ≠ mark := by
      rintro rfl
      simp at plain
    rw [List.count_cons_of_ne other] at plain
    rw [List.cons_append, fill_cons_of_ne other, ih plain, List.map_cons, List.cons_append]

/-- What takes all of the first values leaves the others to what follows. -/
theorem fill_append {text : List Char} {values : List String}
    (fits : text.count mark = values.length) (rest : List Char) (others : List String) :
    fill (text ++ rest) (values ++ others) = fill text values ++ fill rest others := by
  induction text generalizing values with
  | nil =>
    obtain rfl : values = [] := List.length_eq_zero_iff.mp fits.symm
    rfl
  | cons c text ih =>
    by_cases place : c = mark
    · -- The mark takes the first value, and the rest of the text fits the rest of the values.
      subst place
      rw [List.count_cons_self] at fits
      obtain ⟨value, values, rfl⟩ := List.exists_cons_of_length_eq_add_one fits.symm
      have fits : text.count mark = values.length := by simpa using fits
      simp only [List.cons_append, fill, if_true, ih fits]
    · rw [List.count_cons_of_ne place] at fits
      rw [List.cons_append, fill_cons_of_ne place, fill_cons_of_ne place, ih fits,
        List.cons_append]

/-- The values of each row. A row takes as many of them as it has marks. -/
def deal (rows values : List String) : List (List String) :=
  (rows.map marks).splitLengths values

variable {dealt : List (List String)}

theorem deal_replicate (fits : ∀ values ∈ dealt, values.length = marks row) :
    deal (replicate dealt.length row) dealt.flatten = dealt := by
  induction dealt with
  | nil => rfl
  | cons values rest ih =>
    rw [List.forall_mem_cons] at fits
    rw [deal] at ih ⊢
    rw [List.length_cons, List.replicate_succ, List.map_cons, List.splitLengths_cons,
      List.flatten_cons, ← fits.1, List.take_left, List.drop_left, ih fits.2]

theorem fill_copies (fits : ∀ values ∈ dealt, values.length = marks row) :
    fill (copies row dealt.length).toList dealt.flatten =
      (unfilled ", ").intercalate (dealt.map (fill row.toList)) := by
  rw [copies, String.toList_intercalate, List.map_replicate]
  induction dealt with
  | nil => rfl
  | cons values rest ih =>
    rw [List.forall_mem_cons] at fits
    have own : row.toList.count mark = values.length := fits.1.symm
    cases rest with
    | nil => simp
    | cons next rest =>
      have later := ih fits.2
      rw [List.length_cons, List.replicate_succ] at later
      -- The separator takes no values, so that the next row begins with its own.
      rw [List.length_cons, List.length_cons, List.replicate_succ, List.replicate_succ,
        List.intercalate_cons_cons, List.append_assoc, List.flatten_cons, fill_append own,
        fill_append_of_plain marks_separator, later]
      simp only [unfilled, List.map_cons, List.intercalate_cons_cons, List.append_assoc]

theorem Itemised.fill_batch (itemised : Itemised head row)
    (fits : ∀ values ∈ dealt, values.length = marks row) :
    fill (batch head row dealt.length).toList dealt.flatten =
      unfilled head ++ (unfilled ", ").intercalate (dealt.map (fill row.toList)) := by
  rw [batch, String.toList_append, fill_append_of_plain itemised.plain, fill_copies fits]
  rfl

end Statement

open Statement

/-! ## Batches as they are sent -/

/-- A text and the values that are bound to its marks, the first value to the first mark. -/
structure Prepared where
  text : String
  values : List String

namespace Prepared

/-- Binds one more value. -/
def bind (prepared : Prepared) (value : String) : Prepared :=
  { prepared with values := prepared.values ++ [value] }

/-- A batch of agents, with the values of each agent bound after those of the agents before. -/
def ofBatch (s : Statement) (columns : AgentId → List String) (agents : List AgentId) : Prepared :=
  agents.foldl (fun prepared agent => (columns agent).foldl bind prepared) ⟨s.sql, []⟩

/-- The values in the rows of a text with the given head. -/
def rows (head : String) (prepared : Prepared) : List (List String) :=
  deal (rowsAfter head prepared.text) prepared.values

theorem foldl_bind (prepared : Prepared) (values : List String) :
    values.foldl bind prepared = { prepared with values := prepared.values ++ values } := by
  induction values generalizing prepared with
  | nil => simp
  | cons value rest ih => simp [ih, bind]

/-- The values are bound in the order of the agents. -/
theorem ofBatch_eq (s : Statement) (columns : AgentId → List String) (agents : List AgentId) :
    ofBatch s columns agents = ⟨s.sql, (agents.map columns).flatten⟩ := by
  induction agents using List.reverseRecOn with
  | nil => rfl
  | append_singleton agents agent ih =>
    rw [ofBatch, List.foldl_append, ← ofBatch, ih, List.foldl_cons, List.foldl_nil, foldl_bind]
    simp

/-- A batch with the values of each row in that row, and in no other. -/
structure FilledByRow (prepared : Prepared) (head row : String) (dealt : List (List String)) :
    Prop where
  text : prepared.text = batch head row dealt.length
  /-- No mark lacks a value, and no value lacks a mark. -/
  enough : prepared.values.length = marks prepared.text
  filled : fill prepared.text.toList prepared.values =
    unfilled head ++ (unfilled ", ").intercalate (dealt.map (fill row.toList))
  rows : prepared.rows head = dealt

theorem filled_ofBatch {head row : String} (itemised : Itemised head row) {s : Statement}
    {columns : AgentId → List String} {agents : List AgentId} (nonempty : agents ≠ [])
    (sent : s.sql = batch head row agents.length)
    (fits : ∀ agent, (columns agent).length = marks row) :
    (ofBatch s columns agents).FilledByRow head row (agents.map columns) := by
  have some : 0 < (agents.map columns).length := by
    rw [List.length_map]
    exact List.length_pos_of_ne_nil nonempty
  have all : ∀ values ∈ agents.map columns, values.length = marks row :=
    List.forall_mem_map.mpr fun agent _ => fits agent
  rw [ofBatch_eq, sent, ← List.length_map columns]
  generalize agents.map columns = dealt at some all
  exact {
    text := rfl
    enough := by
      rw [itemised.marks_batch, List.length_flatten, List.map_congr_left all, List.map_const',
        List.sum_replicate_nat, Nat.mul_comm]
    filled := itemised.fill_batch all
    rows := by
      rw [rows, itemised.rowsAfter_batch some]
      exact deal_replicate all }

end Prepared

namespace Tables

/-- Offers the agent of a row. A row without an identity is passed over. -/
def offerRow (t : Tables) : List String → Tables
  | [spiffeid] => t.ensureAgent spiffeid
  | _ => t

def insertAgentRows (t : Tables) (rows : List (List String)) : Except Refusal Tables := do
  t.accept (.insertAgents rows.length)
  return rows.foldl offerRow t

/-- Inserts the membership of a row. A row without an identity and a uid is refused. -/
def insertMembershipRow (t : Tables) : List String → Except Refusal Tables
  | [spiffeid, uid] => insertMembership uid t spiffeid
  | _ => .error (.missingValue .memberships "agent_id")

def insertMembershipRows (t : Tables) (rows : List (List String)) : Except Refusal Tables := do
  t.accept (.insertMemberships rows.length)
  rows.foldlM insertMembershipRow t

theorem insertAgentRows_eq (t : Tables) (spiffeids : List String) :
    t.insertAgentRows (spiffeids.map fun spiffeid => [spiffeid]) = t.insertAgents spiffeids := by
  rw [insertAgentRows, insertAgents, List.foldl_map, List.length_map]
  rfl

theorem insertMembershipRows_eq (t : Tables) (uid : String) (spiffeids : List String) :
    t.insertMembershipRows (spiffeids.map fun spiffeid => [spiffeid, uid]) =
      t.insertMemberships uid spiffeids := by
  rw [insertMembershipRows, insertMemberships, List.foldlM_map, List.length_map]
  rfl

end Tables

namespace Transaction

def sentAgents (agents : List AgentId) : Prepared :=
  .ofBatch (.insertAgents agents.length) (fun agent => [agent.text]) agents

def sentMemberships (uid : ClusterUid) (agents : List AgentId) : Prepared :=
  .ofBatch (.insertMemberships agents.length) (fun agent => [agent.text, uid.text]) agents

/-- Makes agents members of a cluster as the rows of the texts say. -/
def addByRow (uid : ClusterUid) (agents : List AgentId) : Action Unit :=
  if agents.isEmpty then Action.done ()
  else do
    Action.run (.insertAgents agents.length) fun _ t =>
      silently (t.insertAgentRows ((sentAgents agents).rows agentsHead))
    Action.runUnique (.insertMemberships agents.length) .agentAssigned fun _ t =>
      silently (t.insertMembershipRows ((sentMemberships uid agents).rows membershipsHead))

theorem filled_sentAgents {agents : List AgentId} (nonempty : agents ≠ []) :
    (sentAgents agents).FilledByRow agentsHead agentsRow (agents.map fun agent => [agent.text]) :=
  Prepared.filled_ofBatch itemised_agents nonempty (sql_insertAgents _) fun _ =>
    marks_agentsRow.symm

theorem filled_sentMemberships (uid : ClusterUid) {agents : List AgentId} (nonempty : agents ≠ []) :
    (sentMemberships uid agents).FilledByRow membershipsHead membershipsRow
      (agents.map fun agent => [agent.text, uid.text]) :=
  Prepared.filled_ofBatch itemised_memberships nonempty (sql_insertMemberships _) fun _ =>
    marks_membershipsRow.symm

theorem addMembers_eq_addByRow (uid : ClusterUid) (agents : List AgentId) :
    addMembers uid agents = addByRow uid agents := by
  by_cases nonempty : agents = []
  · rw [nonempty, addMembers, addByRow, List.isEmpty_nil, if_pos rfl, if_pos rfl]
  · have offered (t : Tables) : t.insertAgentRows ((sentAgents agents).rows agentsHead) =
        t.insertAgents (agents.map AgentId.text) := by
      rw [(filled_sentAgents nonempty).rows, ← t.insertAgentRows_eq, List.map_map]
      rfl
    have placed (t : Tables) :
        t.insertMembershipRows ((sentMemberships uid agents).rows membershipsHead) =
          t.insertMemberships uid.text (agents.map AgentId.text) := by
      rw [(filled_sentMemberships uid nonempty).rows, ← t.insertMembershipRows_eq, List.map_map]
      rfl
    simp only [addByRow, offered, placed]
    rfl

end Transaction

open Transaction

/-- A batch of members as it is sent and as it is worked on. -/
structure SentByRow (uid : ClusterUid) (agents : List AgentId) : Prop where
  identities : (sentAgents agents).FilledByRow agentsHead agentsRow
    (agents.map fun agent => [agent.text])
  memberships : (sentMemberships uid agents).FilledByRow membershipsHead membershipsRow
    (agents.map fun agent => [agent.text, uid.text])
  worked : addMembers uid agents = addByRow uid agents

/-- The two texts for a batch of members consist of a head and a copy of a row for each agent, with
one mark in each row or two. They can be taken apart into these rows and into no others, so that
they tell how many agents there are. The identity of each agent, and the uid with it, comes into the
agent's own row, and the batch does to the tables what the rows say. -/
theorem batches_filled_row_by_row (count : Nat) (positive : 0 < count) :
    Shape agentsHead agentsRow 1 count ∧ Shape membershipsHead membershipsRow 2 count ∧
      ∀ (uid : ClusterUid) (agents : List AgentId), agents.length = count →
        SentByRow uid agents := by
  refine ⟨?_, ?_, ?_⟩
  · exact marks_agentsRow ▸ itemised_agents.shape positive
  · exact marks_membershipsRow ▸ itemised_memberships.shape positive
  · intro uid agents length
    have nonempty : agents ≠ [] := List.ne_nil_of_length_pos (length ▸ positive)
    exact ⟨filled_sentAgents nonempty, filled_sentMemberships uid nonempty,
      addMembers_eq_addByRow uid agents⟩

/-- Two agents and a cluster. -/
theorem two_agents_filled :
    let agents : List AgentId := [⟨"a"⟩, ⟨"b"⟩]
    let sent := sentMemberships ⟨"u"⟩ agents
    0 < 2 ∧ agents.length = 2 ∧ marks (batch membershipsHead membershipsRow 2) = 4 ∧
      sent.values = ["a", "u", "b", "u"] ∧ sent.rows membershipsHead = [["a", "u"], ["b", "u"]] ∧
      addMembers ⟨"u"⟩ agents = addByRow ⟨"u"⟩ agents := by
  intro agents sent
  obtain ⟨_, shape, filled⟩ := batches_filled_row_by_row 2 (by decide)
  have byRow := filled ⟨"u"⟩ agents rfl
  exact ⟨by decide, rfl, shape.counted, rfl, byRow.memberships.rows, byRow.worked⟩

end Roster.Database
