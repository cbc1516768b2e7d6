import Mathlib.Data.List.Forall2
import Mathlib.Data.List.Induction

/-!
# Linked entries

The entries of a list are linked when each of them names the link that the entry
before it left, and the first names the start. When what an entry leaves commits to
the entry, the last link of a chain commits to the whole chain.
-/

namespace Ois.Library

namespace HashChain

variable {Entry Link : Type} (names leaves : Entry → Link)

def Linked : Link → List Entry → Prop
  | _, [] => True
  | start, entry :: rest => names entry = start ∧ Linked (leaves entry) rest

def tip : Link → List Entry → Link
  | start, [] => start
  | _, entry :: rest => tip (leaves entry) rest

variable {names leaves}

theorem tip_append (start : Link) (first second : List Entry) :
    tip leaves start (first ++ second) = tip leaves (tip leaves start first) second := by
  induction first generalizing start with
  | nil => rfl
  | cons entry rest ih => exact ih (leaves entry)

@[simp] theorem tip_concat (start : Link) (entries : List Entry) (entry : Entry) :
    tip leaves start (entries ++ [entry]) = leaves entry := by
  rw [tip_append]
  rfl

theorem tip_eq_getLast (start : Link) (entries : List Entry) :
    tip leaves start entries = (entries.getLast?.map leaves).getD start := by
  rcases List.eq_nil_or_concat entries with rfl | ⟨others, last, rfl⟩
  · rfl
  · simp

variable {start : Link} {entries : List Entry}

theorem linked_append {first second : List Entry} :
    Linked names leaves start (first ++ second) ↔ Linked names leaves start first ∧
      Linked names leaves (tip leaves start first) second := by
  induction first generalizing start with
  | nil => simp [Linked, tip]
  | cons entry rest ih => simp only [List.cons_append, Linked, tip, ih, and_assoc]

theorem linked_concat {entry : Entry} :
    Linked names leaves start (entries ++ [entry]) ↔
      Linked names leaves start entries ∧ names entry = tip leaves start entries := by
  rw [linked_append]
  simp [Linked]

theorem names_of_linked (linked : Linked names leaves start entries) :
    entries.map names = (start :: entries.map leaves).dropLast := by
  induction entries generalizing start with
  | nil => rfl
  | cons entry rest ih =>
    rw [List.map_cons, ih linked.2, linked.1]
    rfl

theorem names_nodup (linked : Linked names leaves start entries)
    (distinct : (start :: entries.map leaves).Nodup) : (entries.map names).Nodup := by
  rw [names_of_linked linked]
  exact distinct.sublist (List.dropLast_sublist _)

theorem forall₂_of_tip {same : Entry → Entry → Prop} {valid : Entry → Prop}
    (commits : ∀ entry other, valid entry → valid other → leaves entry = leaves other →
      same entry other ∧ names entry = names other)
    {entries others : List Entry} (linked : Linked names leaves start entries)
    (otherLinked : Linked names leaves start others) (allValid : ∀ entry ∈ entries, valid entry)
    (othersValid : ∀ entry ∈ others, valid entry) (length : entries.length = others.length)
    (tips : tip leaves start entries = tip leaves start others) :
    List.Forall₂ same entries others := by
  -- from the last entry back: it fixes the link that the chain before it ends in
  induction entries using List.reverseRecOn generalizing others with
  | nil =>
    rw [List.length_nil] at length
    rw [List.eq_nil_of_length_eq_zero length.symm]
    exact .nil
  | append_singleton past last ih =>
    rcases List.eq_nil_or_concat others with rfl | ⟨before, final, rfl⟩
    · simp at length
    · rw [List.concat_eq_append] at *
      rw [tip_concat, tip_concat] at tips
      rw [linked_concat] at linked otherLinked
      obtain ⟨matching, named⟩ := commits last final (allValid last (by simp))
        (othersValid final (by simp)) tips
      have front : List.Forall₂ same past before := by
        apply ih linked.1 otherLinked.1
        · exact fun entry mem => allValid entry (List.mem_append_left _ mem)
        · exact fun entry mem => othersValid entry (List.mem_append_left _ mem)
        · simpa using length
        · rw [← linked.2, ← otherLinked.2, named]
      exact List.rel_append front (.cons matching .nil)

end HashChain

end Ois.Library
