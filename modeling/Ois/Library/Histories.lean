import Ois.Library.Machine

/-!
# Runs and their histories

What a call may do often depends on the calls before it, of which the state of the machine keeps a
part.
-/

namespace Ois.Library

theorem historically_congr {Call : Type} {right condition : List Call → Call → Prop}
    (holds : List Call → Prop)
    (keeps : ∀ before call, holds before → condition before call → holds (before ++ [call]))
    (base : holds [])
    (exactly : ∀ before call, holds before → (right before call ↔ condition before call))
    (calls : List Call) : Historically right calls ↔ Historically condition calls := by
  have reached (calls : List Call) (all : Historically condition calls) : holds calls := by
    induction calls using List.reverseRecOn with
    | nil => exact base
    | append_singleton past call ih =>
      have both := historically_concat.mp all
      exact keeps past call (ih both.1) both.2
  induction calls using List.reverseRecOn with
  | nil => exact iff_of_true (historically_nil right) (historically_nil condition)
  | append_singleton past call ih =>
    rw [historically_concat, historically_concat]
    constructor
    · intro both
      have all := ih.mp both.1
      exact ⟨all, (exactly past call (reached past all)).mp both.2⟩
    · intro both
      exact ⟨ih.mpr both.1, (exactly past call (reached past both.1)).mpr both.2⟩

def Since {Item Fact : Type} (starts : List Item → Item → Fact → Prop)
    (ends : Fact → Item → Prop) (items : List Item) (fact : Fact) : Prop :=
  ∃ past item later, items = past ++ item :: later ∧ starts past item fact ∧
    ∀ next ∈ later, ¬ends fact next

theorem since_concat {Item Fact : Type} {starts : List Item → Item → Fact → Prop}
    {ends : Fact → Item → Prop} {items : List Item} {item : Item} {fact : Fact} :
    Since starts ends (items ++ [item]) fact ↔
      (Since starts ends items fact ∧ ¬ends fact item) ∨ starts items item fact := by
  constructor
  · intro since
    obtain ⟨past, first, later, split, started, lasting⟩ := since
    cases later using List.reverseRecOn with
    | nil =>
      right
      obtain ⟨same, last⟩ := List.append_inj' split rfl
      rw [same, List.singleton_inj.mp last]
      exact started
    | append_singleton between last =>
      left
      rw [← List.cons_append, ← List.append_assoc] at split
      obtain ⟨same, final⟩ := List.append_inj' split rfl
      rw [List.singleton_inj.mp final]
      refine ⟨⟨past, first, between, same, started, ?_⟩, lasting last (by simp)⟩
      intro next mem
      exact lasting next (by simp [mem])
  · intro either
    cases either with
    | inl kept =>
      obtain ⟨⟨past, first, later, split, started, lasting⟩, spared⟩ := kept
      refine ⟨past, first, later ++ [item], by rw [split]; simp, started, ?_⟩
      intro next mem
      cases List.mem_append.mp mem with
      | inl inside => exact lasting next inside
      | inr last =>
        rw [List.mem_singleton.mp last]
        exact spared
    | inr started => exact ⟨items, item, [], rfl, started, fun _ mem => by cases mem⟩

theorem since_nil {Item Fact : Type} (starts : List Item → Item → Fact → Prop)
    (ends : Fact → Item → Prop) (fact : Fact) : ¬Since starts ends [] fact := by
  intro since
  obtain ⟨past, item, later, split, _⟩ := since
  simp at split

namespace Machine

variable {Call State Answer : Type} {machine : Machine Call State Answer} {start : State}
  {condition : Call → State → Prop} (holds : List Call → State → Prop)

theorem log_nodup_iff {Entry : Type} (entry : Call → State → Option Entry) (calls : List Call) :
    (machine.log entry calls start).Nodup ↔
      Historically (fun before call => ∀ item ∈ entry call (machine.run before start),
      item ∉ machine.log entry before start) calls := by
  induction calls using List.reverseRecOn with
  | nil => exact iff_of_true List.nodup_nil (historically_nil _)
  | append_singleton past call ih =>
    rw [log_concat, List.nodup_append, historically_concat, ← ih]
    cases entered : entry call (machine.run past start) with
    | none => simp
    | some item =>
      have single : [item].Nodup := by simp
      simp only [Option.toList_some, single, true_and, List.mem_singleton,
        forall_eq, Option.mem_some_iff, forall_eq']
      exact and_congr_right fun _ => List.forall_mem_ne'

theorem historically_iff_throughout {right : List Call → Call → Prop}
    (keeps : ∀ before call, holds before (machine.run before start) →
      condition call (machine.run before start) →
      holds (before ++ [call]) (machine.next call (machine.run before start)))
    (base : holds [] start)
    (exactly : ∀ before call, holds before (machine.run before start) →
      (right before call ↔ condition call (machine.run before start)))
    (calls : List Call) :
    Historically right calls ↔ machine.Throughout condition calls start := by
  rw [throughout_iff]
  apply historically_congr fun calls => holds calls (machine.run calls start)
  · intro before call held here
    rw [run_concat]
    exact keeps before call held here
  · exact base
  · exact exactly

end Machine

end Ois.Library
