import Mathlib.Data.List.Forall2
import Mathlib.Data.List.Sort

/-!
# Lists whose items are related one by one

Sorting keeps the relation when the two orders agree on related items.
-/

namespace Ois.Library

variable {Item Other : Type} {relation : Item → Other → Prop}

variable {items : List Item} {others : List Other}

theorem exists_of_related {item : Item} (related : List.Forall₂ relation items others)
    (mem : item ∈ items) : ∃ other ∈ others, relation item other := by
  induction related with
  | nil => simp at mem
  | cons first rest ih =>
    rcases List.mem_cons.mp mem with here | later
    · exact ⟨_, List.mem_cons_self, here ▸ first⟩
    · obtain ⟨other, present, same⟩ := ih later
      exact ⟨other, List.mem_cons_of_mem _ present, same⟩

theorem exists_of_related_right {other : Other} (related : List.Forall₂ relation items others)
    (mem : other ∈ others) : ∃ item ∈ items, relation item other :=
  exists_of_related related.flip mem

theorem map_eq_of_related {Value : Type} {value : Item → Value} {otherValue : Other → Value}
    (agree : ∀ item other, relation item other → value item = otherValue other)
    (related : List.Forall₂ relation items others) : items.map value = others.map otherValue := by
  induction related with
  | nil => rfl
  | cons first rest ih => rw [List.map_cons, List.map_cons, agree _ _ first, ih]

theorem related_concat {item : Item} {other : Other}
    (related : List.Forall₂ relation items others) (last : relation item other) :
    List.Forall₂ relation (items ++ [item]) (others ++ [other]) :=
  List.rel_append related (List.Forall₂.cons last List.Forall₂.nil)

theorem related_append {front back : List Item}
    (related : List.Forall₂ relation (front ++ back) others) :
    ∃ left right, others = left ++ right ∧ List.Forall₂ relation front left ∧
      List.Forall₂ relation back right := by
  induction front generalizing others with
  | nil => exact ⟨[], others, rfl, List.Forall₂.nil, related⟩
  | cons item rest ih =>
    cases related with
    | @cons _ other _ tail same later =>
      obtain ⟨left, right, split, fronts, backs⟩ := ih later
      exact ⟨other :: left, right, by rw [split, List.cons_append],
        List.Forall₂.cons same fronts, backs⟩

theorem related_filter {kept : Item → Bool} {keptOther : Other → Bool}
    (agree : ∀ item other, relation item other → keptOther other = kept item)
    (related : List.Forall₂ relation items others) :
    List.Forall₂ relation (items.filter kept) (others.filter keptOther) := by
  induction related with
  | nil => exact List.Forall₂.nil
  | @cons item other rest tail same _ ih =>
    rw [List.filter_cons, List.filter_cons, agree item other same]
    split_ifs
    · exact List.Forall₂.cons same ih
    · exact ih

section sorting

variable {first : Item → Item → Prop} {second : Other → Other → Prop} [DecidableRel first]
  [DecidableRel second]
  (agree : ∀ item other item' other', relation item other → relation item' other' →
    (first item item' ↔ second other other'))

include agree

theorem related_ordered_insert {items : List Item} {others : List Other} {item : Item}
    {other : Other} (same : relation item other) (related : List.Forall₂ relation items others) :
    List.Forall₂ relation (items.orderedInsert first item) (others.orderedInsert second other) := by
  induction related with
  | nil => exact List.Forall₂.cons same List.Forall₂.nil
  | @cons head headOther tail tailOther held rest ih =>
    rw [List.orderedInsert, List.orderedInsert]
    by_cases before : first item head
    · rw [if_pos before, if_pos ((agree _ _ _ _ same held).mp before)]
      exact List.Forall₂.cons same (List.Forall₂.cons held rest)
    · rw [if_neg before, if_neg (before ∘ (agree _ _ _ _ same held).mpr)]
      exact List.Forall₂.cons held ih

theorem related_insertion_sort {items : List Item} {others : List Other}
    (related : List.Forall₂ relation items others) :
    List.Forall₂ relation (items.insertionSort first) (others.insertionSort second) := by
  induction related with
  | nil => exact List.Forall₂.nil
  | cons same rest ih => exact related_ordered_insert agree same ih

end sorting

theorem filter_insertion_sort {order : Item → Item → Prop} [DecidableRel order] {kept : Item → Bool}
    (tied : ∀ item other, kept item = true → kept other = true → order item other)
    (items : List Item) : (items.insertionSort order).filter kept = items.filter kept := by
  have ordered : (items.filter kept).Pairwise order := by
    apply List.pairwise_of_forall_mem_list
    intro item mem other among
    exact tied item other (List.mem_filter.mp mem).2 (List.mem_filter.mp among).2
  have inside := (List.sublist_insertionSort ordered List.filter_sublist).filter kept
  simp only [List.filter_filter, Bool.and_self] at inside
  have lengths := ((List.perm_insertionSort order items).filter kept).length_eq
  exact (inside.eq_of_length lengths.symm).symm

end Ois.Library
