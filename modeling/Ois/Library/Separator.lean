import Mathlib.Data.List.Basic
import Mathlib.Data.String.Basic

/-!
# Texts that are joined at a mark

A list that is split at a mark can be put together from other parts as well, but not from parts
whose tail holds as many marks. If one of several fields has a fixed length, only some of the marks
in the fields matter.
-/

namespace Ois.Library

theorem append_mark_cases {Item : Type} {mark : Item} {left right tail rest : List Item}
    (same : left ++ mark :: tail = right ++ mark :: rest) :
    (left = right ∧ tail = rest) ∨
      (∃ between, right = left ++ mark :: between ∧ tail = between ++ mark :: rest) ∨
      ∃ between, left = right ++ mark :: between ∧ rest = between ++ mark :: tail := by
  rcases List.append_eq_append_iff.mp same with
    ⟨between, longer, split⟩ | ⟨between, longer, split⟩
  · cases between with
    | nil =>
      rw [List.append_nil] at longer
      rw [List.nil_append, List.cons.injEq] at split
      exact Or.inl ⟨longer.symm, split.2⟩
    | cons first others =>
      rw [List.cons_append, List.cons.injEq] at split
      rw [← split.1] at longer
      exact Or.inr (Or.inl ⟨others, longer, split.2⟩)
  · cases between with
    | nil =>
      rw [List.append_nil] at longer
      rw [List.nil_append, List.cons.injEq] at split
      exact Or.inl ⟨longer, split.2.symm⟩
    | cons first others =>
      rw [List.cons_append, List.cons.injEq] at split
      rw [← split.1] at longer
      exact Or.inr (Or.inr ⟨others, longer, split.2⟩)

theorem append_mark_inj {Item : Type} [DecidableEq Item] {mark : Item}
    {left right tail rest : List Item} (counts : tail.count mark = rest.count mark) :
    left ++ mark :: tail = right ++ mark :: rest ↔ left = right ∧ tail = rest := by
  constructor
  · intro same
    rcases append_mark_cases same with equal | ⟨between, _, longer⟩ | ⟨between, _, longer⟩
    · exact equal
    · rw [longer, List.count_append, List.count_cons_self] at counts
      omega
    · rw [longer, List.count_append, List.count_cons_self] at counts
      omega
  · intro both
    rw [both.1, both.2]

def marks (mark : Char) (text : String) : Nat := text.toList.count mark

theorem append_colon_inj {left right tail rest : String}
    (counts : marks ':' tail = marks ':' rest) :
    left ++ ":" ++ tail = right ++ ":" ++ rest ↔ left = right ∧ tail = rest := by
  have lists : left.toList ++ ':' :: tail.toList = right.toList ++ ':' :: rest.toList ↔
      left.toList = right.toList ∧ tail.toList = rest.toList := append_mark_inj counts
  constructor
  · intro same
    have split : left.toList ++ ':' :: tail.toList = right.toList ++ ':' :: rest.toList := by
      simpa using congrArg String.toList same
    obtain ⟨heads, tails⟩ := lists.mp split
    exact ⟨String.toList_injective heads, String.toList_injective tails⟩
  · intro both
    rw [both.1, both.2]

theorem marks_number (n : Nat) : marks ':' (toString n) = 0 := by
  apply List.count_eq_zero.mpr
  intro mem
  have digits : ':' ∈ Nat.toDigits 10 n := by simpa using mem
  exact absurd (Nat.isDigit_of_mem_toDigits (by decide) (by decide) digits) (by decide)

theorem number_text_injective : Function.Injective (fun n : Nat => toString n) := by
  intro n other same
  have digits : Nat.toDigits 10 n = Nat.toDigits 10 other := by
    simpa using congrArg String.toList same
  rw [← @Nat.ofDigitChars_ten_toDigits n, digits, Nat.ofDigitChars_ten_toDigits]

theorem numbered_inj {left right : String} {n other : Nat} :
    left ++ ":" ++ toString n = right ++ ":" ++ toString other ↔
      left = right ∧ n = other := by
  have counts : marks ':' (toString n) = marks ':' (toString other) :=
    (marks_number n).trans (marks_number other).symm
  exact (append_colon_inj counts).trans (and_congr_right' number_text_injective.eq_iff)

variable {Item : Type} {mark : Item}

def framed (mark : Item) (first second third last : List Item) : List Item :=
  first ++ mark :: (second ++ mark :: (third ++ mark :: last))

theorem unmarked_inj {left right tail rest : List Item} (plain : mark ∉ left)
    (other : mark ∉ right) (same : left ++ mark :: tail = right ++ mark :: rest) :
    left = right ∧ tail = rest := by
  rcases append_mark_cases same with equal | ⟨between, longer, _⟩ | ⟨between, longer, _⟩
  · exact equal
  · exact absurd (by rw [longer]; simp) other
  · exact absurd (by rw [longer]; simp) plain

theorem mem_drop_last_iff {text : List Item} :
    mark ∈ text.dropLast ↔ ∃ before after, text = before ++ mark :: after ∧ after ≠ [] := by
  constructor
  · intro mem
    obtain ⟨before, between, split⟩ := List.append_of_mem mem
    have filled : text ≠ [] := by
      intro empty
      rw [empty] at mem
      simp at mem
    refine ⟨before, between ++ [text.getLast filled], ?_, by simp⟩
    rw [← List.cons_append, ← List.append_assoc, ← split, List.dropLast_append_getLast]
  · intro cut
    obtain ⟨before, after, split, filled⟩ := cut
    rw [split, List.dropLast_append_of_ne_nil (by simp), List.dropLast_cons_of_ne_nil filled]
    simp

theorem last_fields_inj {third last other behind : List Item} (plain : mark ∉ third)
    (ended : mark ∉ last.dropLast) (filled : behind ≠ [])
    (same : other ++ mark :: behind = third ++ mark :: last) :
    other = third ∧ behind = last := by
  rcases append_mark_cases same with equal | ⟨between, longer, _⟩ | ⟨between, _, longer⟩
  · exact equal
  · exact absurd (by rw [longer]; simp) plain
  · exact absurd (mem_drop_last_iff.mpr ⟨between, behind, longer, filled⟩) ended

def OnePlace (mark : Item) (first second : List Item) : Prop :=
  ∀ before between after, first ++ mark :: second = before ++ mark :: (between ++ mark :: after) →
    between.length ≠ second.length

theorem framed_inj {first second third last other next between behind : List Item}
    (place : OnePlace mark first second) (plain : mark ∉ third) (ended : mark ∉ last.dropLast)
    (width : next.length = second.length) (filled : behind ≠ [])
    (same : framed mark other next between behind = framed mark first second third last) :
    other = first ∧ next = second ∧ between = third ∧ behind = last := by
  unfold framed at same
  rcases append_mark_cases same with ⟨firsts, rest⟩ | ⟨part, longer, rest⟩ | ⟨part, longer, rest⟩
  · obtain ⟨seconds, tails⟩ := List.append_inj rest width
    rw [List.cons.injEq] at tails
    obtain ⟨thirds, lasts⟩ := last_fields_inj plain ended filled tails.2
    exact ⟨firsts, seconds, thirds, lasts⟩
  · -- the other second field lies inside the first two fields
    have inside : next ++ mark :: (between ++ mark :: behind) =
        (part ++ mark :: second) ++ mark :: (third ++ mark :: last) := by
      rw [rest, List.append_assoc, List.cons_append]
    rcases append_mark_cases inside with ⟨equal, _⟩ | ⟨after, equal, _⟩ | ⟨after, equal, _⟩
    · have lengths := congrArg List.length equal
      rw [List.length_append, List.length_cons] at lengths
      omega
    · apply absurd width
      apply place other next after
      rw [longer, List.append_assoc, List.cons_append, equal]
    · have lengths := congrArg List.length equal
      simp only [List.length_append, List.length_cons] at lengths
      omega
  · -- the other second field ends behind the third mark
    have behindIt : second ++ mark :: (third ++ mark :: last) =
        (part ++ mark :: next) ++ mark :: (between ++ mark :: behind) := by
      rw [rest, List.append_assoc, List.cons_append]
    rcases append_mark_cases behindIt with ⟨equal, _⟩ | ⟨after, _, tails⟩ | ⟨after, equal, _⟩
    · have lengths := congrArg List.length equal
      rw [List.length_append, List.length_cons] at lengths
      omega
    · have lasts := last_fields_inj plain ended (by simp) tails.symm
      exact absurd (mem_drop_last_iff.mpr ⟨between, behind, lasts.2.symm, filled⟩) ended
    · have lengths := congrArg List.length equal
      simp only [List.length_append, List.length_cons] at lengths
      omega

theorem framed_readings {first second third last : List Item}
    (unique : ∀ other next between behind, next.length = second.length → behind ≠ [] →
      framed mark other next between behind = framed mark first second third last →
      other = first ∧ next = second ∧ between = third ∧ behind = last) :
    OnePlace mark first second ∧ mark ∉ third ∧ mark ∉ last.dropLast := by
  refine ⟨?_, ?_, ?_⟩
  · intro before between after split width
    have reading := unique before between after (third ++ mark :: last) width (by simp)
    have text : framed mark before between after (third ++ mark :: last) =
        framed mark first second third last := by
      have joined := congrArg (· ++ mark :: (third ++ mark :: last)) split
      simpa [framed] using joined.symm
    have lengths := congrArg List.length (reading text).2.2.2
    rw [List.length_append, List.length_cons] at lengths
    omega
  · intro mem
    obtain ⟨before, after, split⟩ := List.append_of_mem mem
    have reading := unique first second before (after ++ mark :: last) rfl (by simp)
    have text : framed mark first second before (after ++ mark :: last) =
        framed mark first second third last := by
      simp [framed, split]
    have lengths := congrArg List.length (reading text).2.2.2
    rw [List.length_append, List.length_cons] at lengths
    omega
  · intro mem
    obtain ⟨before, after, split, filled⟩ := mem_drop_last_iff.mp mem
    have reading := unique first second (third ++ mark :: before) after rfl filled
    have text : framed mark first second (third ++ mark :: before) after =
        framed mark first second third last := by
      simp [framed, split]
    have lengths := congrArg List.length (reading text).2.2.2
    rw [split, List.length_append, List.length_cons] at lengths
    omega

end Ois.Library
