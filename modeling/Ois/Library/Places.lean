import Mathlib.Data.List.Sort

/-!
# Places in a stable order

A stable sort leaves the items that rank alike in the order they come in.
-/

namespace Ois.Library

namespace Places

variable {Item : Type} {order : Item → Item → Prop} [DecidableRel order]

def Among (order : Item → Item → Prop) [DecidableRel order] (limit : Nat) (items : List Item)
    (item : Item) : Prop :=
  ∃ front back, items = front ++ item :: back ∧ front.countP (fun other => order other item) +
      back.countP (fun other => ¬order item other) < limit

theorem insert_before {past item : Item} (left right : List Item) (before : order past item) :
    ∃ grown, (left ++ item :: right).orderedInsert order past = grown ++ item :: right ∧
      grown.length = left.length + 1 := by
  induction left with
  | nil =>
    exact ⟨[past], List.orderedInsert_cons_of_le order right before, rfl⟩
  | cons head rest ih =>
    by_cases first : order past head
    · exact ⟨past :: head :: rest, List.orderedInsert_cons_of_le order _ first, rfl⟩
    · obtain ⟨grown, inserted, size⟩ := ih
      have placed := List.orderedInsert_of_not_le order (rest ++ item :: right) first
      exact ⟨head :: grown, by rw [List.cons_append, placed, inserted, List.cons_append],
        by rw [List.length_cons, size, List.length_cons]⟩

theorem insert_after {later item : Item} (left right : List Item)
    (after : ∀ other ∈ left, ¬order later other) (behind : ¬order later item) :
    (left ++ item :: right).orderedInsert order later =
      left ++ item :: right.orderedInsert order later := by
  induction left with
  | nil => exact List.orderedInsert_of_not_le order right behind
  | cons head rest ih =>
    have tail := ih fun other mem => after other (List.mem_cons_of_mem _ mem)
    rw [List.cons_append, List.orderedInsert_of_not_le order _ (after head List.mem_cons_self),
      tail, List.cons_append]

section total

variable [IsTrans Item order]

theorem count_in_order {item : Item} {items : List Item} (ordered : items.Pairwise order) :
    (items.takeWhile fun other => ¬order item other).length =
      items.countP fun other => ¬order item other := by
  induction items with
  | nil => rfl
  | cons head rest ih =>
    rw [List.pairwise_cons] at ordered
    by_cases before : order item head
    · have none : rest.countP (fun other => ¬order item other) = 0 := by
        rw [List.countP_eq_zero]
        intro other mem
        simpa using trans_of order before (ordered.1 other mem)
      rw [List.takeWhile_cons_of_neg (by simpa using before),
        List.countP_cons_of_neg (by simpa using before), none]
      rfl
    · rw [List.takeWhile_cons_of_pos (by simpa using before),
        List.countP_cons_of_pos (by simpa using before), List.length_cons, ih ordered.2]

variable [Std.Total order]

variable (order) in
theorem placed (front back : List Item) (item : Item) :
    ∃ left right, (front ++ item :: back).insertionSort order = left ++ item :: right ∧
      left.length = front.countP (fun other => order other item) +
      back.countP (fun other => ¬order item other) := by
  induction front with
  | nil =>
    have ordered := List.pairwise_insertionSort order back
    have same := (List.perm_insertionSort order back).countP_eq
      (fun other => decide ¬order item other)
    exact ⟨_, _, List.insertionSort_cons_eq_take_drop order item back,
      by rw [count_in_order ordered, same, List.countP_nil, Nat.zero_add]⟩
  | cons head rest ih =>
    obtain ⟨left, right, sorted, size⟩ := ih
    have ordered := List.pairwise_insertionSort order (rest ++ item :: back)
    rw [sorted, List.pairwise_append] at ordered
    rw [List.cons_append, List.insertionSort_cons, sorted]
    by_cases before : order head item
    · obtain ⟨grown, inserted, grew⟩ := insert_before left right before
      rw [List.countP_cons_of_pos (by simpa using before)]
      exact ⟨grown, right, inserted, by omega⟩
    · have after : ∀ other ∈ left, ¬order head other := by
        intro other mem first
        exact before (trans_of order first (ordered.2.2 other mem item List.mem_cons_self))
      rw [List.countP_cons_of_neg (by simpa using before)]
      exact ⟨left, _, insert_after left right after before, size⟩

theorem mem_take_iff {items : List Item} (distinct : items.Nodup) (limit : Nat) (item : Item) :
    item ∈ (items.insertionSort order).take limit ↔ Among order limit items item := by
  constructor
  · intro taken
    have mem := (List.mem_insertionSort order).mp (List.mem_of_mem_take taken)
    obtain ⟨front, back, split⟩ := List.append_of_mem mem
    obtain ⟨left, right, sorted, size⟩ := placed order front back item
    have once := (List.perm_insertionSort order items).nodup_iff.mpr distinct
    rw [split, sorted] at once
    have fresh : item ∉ left := by
      intro present
      exact (List.nodup_append.mp once).2.2 item present item List.mem_cons_self rfl
    rw [split, sorted, List.take_append] at taken
    refine ⟨front, back, split, ?_⟩
    rw [← size]
    by_contra long
    have none : limit - left.length = 0 := by omega
    rw [none, List.take_zero, List.append_nil] at taken
    exact fresh (List.mem_of_mem_take taken)
  · intro ⟨front, back, split, few⟩
    obtain ⟨left, right, sorted, size⟩ := placed order front back item
    have room : limit - left.length = limit - left.length - 1 + 1 := by omega
    rw [split, sorted, List.take_append, room, List.take_succ_cons]
    exact List.mem_append_right _ List.mem_cons_self

end total

end Places

end Ois.Library
