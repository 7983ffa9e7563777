import Roster.Identity
import Roster.Proofs.Directory

/-!
Sorted lists. Where no two items share a key, a list is sorted in one way only, so that sorting may
change places with every other way to get at a sorted list of the same items.
-/

namespace Roster.Text

open scoped List

variable {α β : Type}

/-- No two different items of the list share a key. -/
def Distinguishes (key : α → String) (items : List α) : Prop :=
  ∀ first ∈ items, ∀ second ∈ items, key first = key second → first = second

theorem distinguishes_of_nodup {key : α → String} {items : List α}
    (distinct : (items.map key).Nodup) : Distinguishes key items := by
  induction items with
  | nil => intro first member; cases member
  | cons item rest ih =>
    rw [List.map_cons, List.nodup_cons] at distinct
    intro first firstMember second secondMember same
    rcases List.mem_cons.mp firstMember with rfl | firstLater
    · rcases List.mem_cons.mp secondMember with rfl | secondLater
      · rfl
      · exact absurd (same ▸ List.mem_map_of_mem secondLater) distinct.1
    · rcases List.mem_cons.mp secondMember with rfl | secondLater
      · exact absurd (same ▸ List.mem_map_of_mem firstLater) distinct.1
      · exact ih distinct.2 first firstLater second secondLater same

theorem pairwise_sortOn (key : α → String) (items : List α) :
    (sortOn key items).Pairwise fun left right => key left ≤ key right := by
  apply List.Pairwise.imp (fun {_ _} inOrder => of_decide_eq_true inOrder)
  apply List.pairwise_mergeSort
  · intro first second third below above
    exact decide_eq_true (String.le_trans (of_decide_eq_true below) (of_decide_eq_true above))
  · intro first second
    simpa using String.le_total (key first) (key second)

theorem eq_of_sorted {key : α → String} {first second : List α}
    (distinct : Distinguishes key first) (perm : first.Perm second)
    (firstSorted : first.Pairwise fun left right => key left ≤ key right)
    (secondSorted : second.Pairwise fun left right => key left ≤ key right) :
    first = second := by
  apply perm.eq_of_pairwise _ firstSorted secondSorted
  intro left right leftMember rightMember below above
  exact distinct left leftMember right (perm.mem_iff.mpr rightMember)
    (String.le_antisymm below above)

theorem distinguishes_sortOn {key : α → String} {items : List α}
    (distinct : Distinguishes key items) : Distinguishes key (sortOn key items) :=
  fun first firstMember second secondMember =>
    distinct first (mem_sortOn.mp firstMember) second (mem_sortOn.mp secondMember)

theorem sortOn_of_perm {key : α → String} {first second : List α}
    (distinct : Distinguishes key first) (perm : first.Perm second) :
    sortOn key first = sortOn key second :=
  eq_of_sorted (distinguishes_sortOn distinct)
    ((sortOn_perm key first).trans (perm.trans (sortOn_perm key second).symm))
    (pairwise_sortOn key first) (pairwise_sortOn key second)

theorem pairwise_lt_sortOn {key : α → String} {items : List α}
    (distinct : (items.map key).Nodup) :
    (sortOn key items).Pairwise fun left right => key left < key right := by
  have different : ((sortOn key items).map key).Nodup :=
    ((sortOn_perm key items).map key).nodup_iff.mpr distinct
  rw [List.Nodup, List.pairwise_map] at different
  apply (pairwise_sortOn key items).imp₂ _ different
  intro left right below unequal
  exact String.not_le.mp fun above => unequal (String.le_antisymm below above)

theorem sortOn_map (key : β → String) (f : α → β) (items : List α) :
    sortOn key (items.map f) = (sortOn (fun item => key (f item)) items).map f :=
  (List.map_mergeSort (f := f) fun _ _ _ _ => rfl).symm

theorem filter_sortOn {key : α → String} {items : List α} (distinct : Distinguishes key items)
    (keep : α → Bool) : (sortOn key items).filter keep = sortOn key (items.filter keep) := by
  symm
  apply eq_of_sorted
  · intro first firstMember second secondMember
    exact distinct first (List.mem_filter.mp (mem_sortOn.mp firstMember)).1
      second (List.mem_filter.mp (mem_sortOn.mp secondMember)).1
  · exact (sortOn_perm key _).trans ((sortOn_perm key items).symm.filter keep)
  · exact pairwise_sortOn key _
  · exact (pairwise_sortOn key items).filter keep

/-- A sorted list falls into the items below a key and those above it, if no item has it. -/
theorem split_sortOn {key : α → String} {items : List α} (distinct : Distinguishes key items)
    (pivot : String) (absent : pivot ∉ items.map key) :
    ∃ front back, sortOn key items = front ++ back ∧
      (∀ other ∈ front, key other < pivot) ∧ ∀ other ∈ back, pivot < key other := by
  let below (other : α) : Bool := decide (key other < pivot)
  let front := (sortOn key items).filter below
  let back := (sortOn key items).filter fun other => !below other
  have frontBelow : ∀ other ∈ front, key other < pivot :=
    fun other member => of_decide_eq_true (List.mem_filter.mp member).2
  have backAbove : ∀ other ∈ back, pivot < key other := by
    intro other member
    obtain ⟨listed, notBelow⟩ := List.mem_filter.mp member
    rw [Bool.not_eq_true'] at notBelow
    have above : pivot ≤ key other := String.not_lt.mp (of_decide_eq_false notBelow)
    apply String.not_le.mp
    intro same
    apply absent
    rw [String.le_antisymm above same]
    exact List.mem_map_of_mem (mem_sortOn.mp listed)
  refine ⟨front, back, ?_, frontBelow, backAbove⟩
  apply eq_of_sorted (distinguishes_sortOn distinct) (List.filter_append_perm below _).symm
  · exact pairwise_sortOn key items
  · refine List.pairwise_append.mpr ⟨(pairwise_sortOn key items).filter _,
      (pairwise_sortOn key items).filter _, ?_⟩
    intro left leftMember right rightMember
    exact String.not_lt.mp (String.lt_asymm
      (String.lt_trans (frontBelow left leftMember) (backAbove right rightMember)))

/-- The second list is the first one with an item added at its place. -/
def Placed (key : α → String) (item : α) (before after : List α) : Prop :=
  ∃ front back, before = front ++ back ∧ after = front ++ item :: back ∧
    (∀ other ∈ front, key other < key item) ∧ ∀ other ∈ back, key item < key other

theorem placed_sortOn {key : α → String} {item : α} {items : List α}
    (distinct : (items.map key).Nodup) (absent : key item ∉ items.map key) :
    Placed key item (sortOn key items) (sortOn key (items ++ [item])) := by
  obtain ⟨front, back, split, frontBelow, backAbove⟩ :=
    split_sortOn (distinguishes_of_nodup distinct) (key item) absent
  refine ⟨front, back, split, ?_, frontBelow, backAbove⟩
  have parts : (front ++ back).Perm items := split ▸ sortOn_perm key items
  have sorted := pairwise_sortOn key items
  rw [split, List.pairwise_append] at sorted
  obtain ⟨frontSorted, backSorted, across⟩ := sorted
  apply eq_of_sorted
  · apply distinguishes_sortOn
    apply distinguishes_of_nodup
    rw [List.map_append]
    exact (List.perm_append_singleton _ _).nodup_iff.mpr (List.nodup_cons.mpr ⟨absent, distinct⟩)
  · calc sortOn key (items ++ [item])
      _ ~ items ++ [item] := sortOn_perm key _
      _ ~ front ++ back ++ [item] := parts.symm.append_right [item]
      _ ~ item :: (front ++ back) := List.perm_append_singleton item _
      _ ~ front ++ item :: back := List.perm_middle.symm
  · exact pairwise_sortOn key _
  · refine List.pairwise_append.mpr ⟨frontSorted, List.pairwise_cons.mpr ⟨?_, backSorted⟩, ?_⟩
    · exact fun other member => String.not_lt.mp (String.lt_asymm (backAbove other member))
    · intro left leftMember right rightMember
      rcases List.mem_cons.mp rightMember with rfl | later
      · exact String.not_lt.mp (String.lt_asymm (frontBelow left leftMember))
      · exact across left leftMember right later

end Roster.Text

/-! ## Identities as keys -/

namespace Roster

@[simp] theorem AgentId.text_inj {first second : AgentId} :
    first.text = second.text ↔ first = second :=
  ⟨fun same => congrArg AgentId.mk same, congrArg AgentId.text⟩

@[simp] theorem ClusterUid.text_inj {first second : ClusterUid} :
    first.text = second.text ↔ first = second :=
  ⟨fun same => congrArg ClusterUid.mk same, congrArg ClusterUid.text⟩

@[simp] theorem ClusterName.text_inj {first second : ClusterName} :
    first.text = second.text ↔ first = second :=
  ⟨fun same => congrArg ClusterName.mk same, congrArg ClusterName.text⟩

theorem AgentId.nodup_texts {ν : Type} {d : Directory AgentId ν} (distinct : d.keys.Nodup) :
    (List.map (fun entry => entry.1.text) d).Nodup := by
  rw [Directory.keys, List.Nodup, List.pairwise_map] at distinct
  rw [List.Nodup, List.pairwise_map]
  exact distinct.imp fun different same => different (AgentId.text_inj.mp same)

end Roster
