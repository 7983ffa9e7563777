/-!
Texts in the order of their code points, which is also the order of their UTF-8 bytes.
-/

namespace Roster.Text

/-- The items in ascending order of their keys. Items with one key keep their order. -/
def sortOn {α : Type} (key : α → String) (items : List α) : List α :=
  items.mergeSort fun left right => decide (key left ≤ key right)

theorem sortOn_perm {α : Type} (key : α → String) (items : List α) :
    (sortOn key items).Perm items :=
  List.mergeSort_perm items _

theorem mem_sortOn {α : Type} {key : α → String} {items : List α} {item : α} :
    item ∈ sortOn key items ↔ item ∈ items :=
  (sortOn_perm key items).mem_iff

end Roster.Text
