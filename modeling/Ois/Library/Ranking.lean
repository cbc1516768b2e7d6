import Mathlib.Data.List.Sort
import Mathlib.Data.List.TakeWhile

/-!
# The first readable item of an order with ties

Items are arranged by an order in which several may rank alike, and those come in any order. What
is taken is the first item of the arrangement that can be read.
-/

namespace Ois.Library

namespace Ranking

variable {Item Value : Type} (above : Item → Item → Prop) (read : Item → Option Value)

def Arranged (items rows : List Item) : Prop := rows.Perm items ∧ rows.Pairwise above

structure Newest (items : List Item) (item : Item) : Prop where
  member : item ∈ items
  readable : (read item).isSome
  first : ∀ other ∈ items, (read other).isSome → above item other

variable {above read} {items rows : List Item}

theorem finds_newest [Std.Refl above] (ordered : rows.Pairwise above)
    (some : ∃ item ∈ rows, (read item).isSome) :
    ∃ item, Newest above read rows item ∧ rows.findSome? read = read item := by
  induction rows with
  | nil => simp at some
  | cons row rest ih =>
    rw [List.pairwise_cons] at ordered
    cases reads : read row with
    | some value =>
      refine ⟨row, ⟨List.mem_cons_self, by simp [reads], ?_⟩, by simp [reads]⟩
      intro other mem _
      rcases List.mem_cons.mp mem with rfl | later
      · exact Std.Refl.refl other
      · exact ordered.1 other later
    | none =>
      have later : ∃ item ∈ rest, (read item).isSome := by
        obtain ⟨item, mem, readable⟩ := some
        rcases List.mem_cons.mp mem with rfl | later
        · simp [reads] at readable
        · exact ⟨item, later, readable⟩
      obtain ⟨item, newest, found⟩ := ih ordered.2 later
      refine ⟨item, ⟨List.mem_cons_of_mem _ newest.member, newest.readable, ?_⟩, ?_⟩
      · intro other mem readable
        rcases List.mem_cons.mp mem with rfl | later
        · simp [reads] at readable
        · exact newest.first other later readable
      · rw [List.findSome?_cons, reads, found]

section arrangements

variable [DecidableRel above] [IsTrans Item above] [Std.Total above]

theorem arrangement_of_newest {item : Item} (newest : Newest above read items item) :
    ∃ rows, Arranged above items rows ∧ rows.findSome? read = read item := by
  obtain ⟨before, after, split⟩ := List.append_of_mem newest.member
  let others := (before ++ after).insertionSort above
  have sorted : others.Pairwise above := List.pairwise_insertionSort above (before ++ after)
  refine ⟨others.orderedInsert above item, ⟨?_, sorted.orderedInsert item others⟩, ?_⟩
  · rw [split]
    have inserted := List.perm_orderedInsert above item others
    have listed := (List.perm_insertionSort above (before ++ after)).cons item
    exact inserted.trans (listed.trans List.perm_middle.symm)
  · have unreadable : (others.takeWhile fun other => decide ¬above item other).findSome? read =
        none := by
      rw [List.findSome?_eq_none_iff]
      intro other mem
      have below : ¬above item other := by
        simpa using List.mem_takeWhile_imp mem
      have among : other ∈ items := by
        have present := (List.perm_insertionSort above (before ++ after)).mem_iff.mp
          ((List.takeWhile_sublist _).mem mem)
        rw [split]
        rcases List.mem_append.mp present with left | right
        · exact List.mem_append_left _ left
        · exact List.mem_append_right _ (List.mem_cons_of_mem _ right)
      by_contra reads
      have readable : (read other).isSome := Option.isSome_iff_ne_none.mpr reads
      exact below (newest.first other among readable)
    obtain ⟨value, reads⟩ := Option.isSome_iff_exists.mp newest.readable
    rw [List.orderedInsert_eq_take_drop, List.findSome?_append, unreadable, Option.none_or,
      List.findSome?_cons, reads]

theorem every_arrangement_finds_iff (value : Value) :
    (∀ rows, Arranged above items rows → rows.findSome? read = some value) ↔
      (∃ item ∈ items, (read item).isSome) ∧
      ∀ item, Newest above read items item → read item = some value := by
  constructor
  · intro finds
    constructor
    · have sorted : Arranged above items (items.insertionSort above) :=
        ⟨List.perm_insertionSort above items, List.pairwise_insertionSort above items⟩
      obtain ⟨item, mem, reads⟩ := List.exists_of_findSome?_eq_some (finds _ sorted)
      exact ⟨item, sorted.1.mem_iff.mp mem, by simp [reads]⟩
    · intro item newest
      obtain ⟨rows, arranged, found⟩ := arrangement_of_newest newest
      rw [← found]
      exact finds rows arranged
  · intro ⟨⟨item, mem, readable⟩, agree⟩ rows ⟨same, ordered⟩
    have reflexive : Std.Refl above := ⟨fun row => (Std.Total.total row row).elim id id⟩
    obtain ⟨row, newest, found⟩ :=
      finds_newest ordered ⟨item, same.mem_iff.mpr mem, readable⟩
    rw [found]
    apply agree row
    refine ⟨same.mem_iff.mp newest.member, newest.readable, ?_⟩
    intro other among reads
    exact newest.first other (same.mem_iff.mpr among) reads

end arrangements

end Ranking

end Ois.Library
