import Mathlib.Data.List.Induction

/-!
# Machines of atomic calls

A machine takes one call at a time, moves its state and answers. Calls of any number of callers
reach it in some order, so a run is a list of calls, and what holds for every interleaving is what
holds for every list.
-/

namespace Ois.Library

/-- Every call meets a condition on the calls before it. -/
def Historically {Call : Type} (condition : List Call → Call → Prop) (calls : List Call) : Prop :=
  ∀ before call after, calls = before ++ call :: after → condition before call

theorem historically_concat {Call : Type} {condition : List Call → Call → Prop}
    {calls : List Call} {call : Call} :
    Historically condition (calls ++ [call]) ↔
      Historically condition calls ∧ condition calls call := by
  constructor
  · intro whole
    constructor
    · intro before other after split
      apply whole before other (after ++ [call])
      rw [split, List.append_assoc, List.cons_append]
    · exact whole calls call [] rfl
  · rintro ⟨past, last⟩ before other after split
    rcases List.eq_nil_or_concat after with rfl | ⟨between, final, rfl⟩
    · obtain ⟨rfl, same⟩ := List.append_inj' split rfl
      exact List.singleton_inj.mp same ▸ last
    · rw [List.concat_eq_append, ← List.cons_append, ← List.append_assoc] at split
      exact past before other between (List.append_inj' split rfl).1

theorem historically_nil {Call : Type} (condition : List Call → Call → Prop) :
    Historically condition [] := by
  intro before call after split
  simp at split

abbrev Machine (Call State Answer : Type) := Call → State → State × Answer

namespace Machine

variable {Call State Answer : Type} (machine : Machine Call State Answer)

def next (call : Call) (state : State) : State := (machine call state).1

def answer (call : Call) (state : State) : Answer := (machine call state).2

def run : List Call → State → State
  | [], state => state
  | call :: rest, state => run rest (machine.next call state)

theorem run_append (first second : List Call) (state : State) :
    machine.run (first ++ second) state = machine.run second (machine.run first state) := by
  induction first generalizing state with
  | nil => rfl
  | cons call rest ih => exact ih (machine.next call state)

theorem run_concat (calls : List Call) (call : Call) (state : State) :
    machine.run (calls ++ [call]) state = machine.next call (machine.run calls state) := by
  rw [run_append]
  rfl

/-- Every call meets the condition in the state in which it is made. -/
def Throughout (condition : Call → State → Prop) : List Call → State → Prop
  | [], _ => True
  | call :: rest, state =>
    condition call state ∧ Throughout condition rest (machine.next call state)

variable {machine} {condition : Call → State → Prop}

instance decidableThroughout [∀ call state, Decidable (condition call state)] :
    ∀ (calls : List Call) (state : State), Decidable (machine.Throughout condition calls state)
  | [], _ => .isTrue trivial
  | call :: rest, state =>
    have := decidableThroughout rest (machine.next call state)
    inferInstanceAs (Decidable (_ ∧ _))

variable {state : State} {holds : State → Prop}

theorem throughout_append {first second : List Call} :
    machine.Throughout condition (first ++ second) state ↔
      machine.Throughout condition first state ∧
      machine.Throughout condition second (machine.run first state) := by
  induction first generalizing state with
  | nil => simp [Throughout, run]
  | cons call rest ih => simp [Throughout, run, ih, and_assoc]

theorem throughout_iff {calls : List Call} :
    machine.Throughout condition calls state ↔
      ∀ before call after, calls = before ++ call :: after →
      condition call (machine.run before state) := by
  constructor
  · intro throughout before call after split
    rw [split] at throughout
    exact (throughout_append.mp throughout).2.1
  · intro each
    induction calls generalizing state with
    | nil => trivial
    | cons call rest ih =>
      apply And.intro (each [] call rest rfl)
      apply ih
      intro before other after split
      exact each (call :: before) other after (by rw [split]; rfl)

theorem throughout_and {also : Call → State → Prop} {calls : List Call} :
    machine.Throughout (fun call state => condition call state ∧ also call state) calls state ↔
      machine.Throughout condition calls state ∧ machine.Throughout also calls state := by
  induction calls generalizing state with
  | nil => exact ⟨fun _ => ⟨trivial, trivial⟩, fun _ => trivial⟩
  | cons call rest ih =>
    simp only [Throughout, ih]
    exact and_and_and_comm

theorem run_keeps
    (keeps : ∀ call state, condition call state → holds state → holds (machine.next call state))
    {calls : List Call} (throughout : machine.Throughout condition calls state)
    (base : holds state) : holds (machine.run calls state) := by
  induction calls generalizing state with
  | nil => exact base
  | cons call rest ih => exact ih throughout.2 (keeps call state throughout.1 base)

theorem run_invariant (keeps : ∀ call state, holds state → holds (machine.next call state))
    (calls : List Call) (base : holds state) : holds (machine.run calls state) := by
  induction calls generalizing state with
  | nil => exact base
  | cons call rest ih => exact ih (keeps call state base)

theorem run_breaks {calls : List Call} (base : holds state)
    (broken : ¬holds (machine.run calls state)) :
    ∃ before call after, calls = before ++ call :: after ∧ holds (machine.run before state) ∧
      ¬holds (machine.next call (machine.run before state)) := by
  induction calls generalizing state with
  | nil => exact absurd base broken
  | cons call rest ih =>
    by_cases kept : holds (machine.next call state)
    · obtain ⟨before, other, after, split, here, lost⟩ := ih kept broken
      exact ⟨call :: before, other, after, by rw [split]; rfl, here, lost⟩
    · exact ⟨[], call, rest, rfl, base, kept⟩

variable (machine) in
def answers : List Call → State → List Answer
  | [], _ => []
  | call :: rest, state => machine.answer call state :: answers rest (machine.next call state)

theorem answers_append (first second : List Call) (state : State) :
    machine.answers (first ++ second) state =
      machine.answers first state ++ machine.answers second (machine.run first state) := by
  induction first generalizing state with
  | nil => rfl
  | cons call rest ih =>
    rw [List.cons_append, answers, ih]
    rfl

theorem answers_concat (calls : List Call) (call : Call) (state : State) :
    machine.answers (calls ++ [call]) state =
      machine.answers calls state ++ [machine.answer call (machine.run calls state)] := by
  rw [answers_append]
  rfl

variable (machine) in
theorem filter_map_answers_concat {Held : Type} (kept : Answer → Option Held)
    (calls : List Call) (call : Call) (state : State) :
    (machine.answers (calls ++ [call]) state).filterMap kept =
      (machine.answers calls state).filterMap kept ++
      (kept (machine.answer call (machine.run calls state))).toList := by
  rw [answers_concat, List.filterMap_append]
  apply congrArg ((machine.answers calls state).filterMap kept ++ ·)
  rw [List.filterMap_cons]
  cases kept (machine.answer call (machine.run calls state)) <;> rfl

theorem run_keeps_log {holds : List Answer → State → Prop}
    (keeps : ∀ call log state, condition call state → holds log state →
      holds (log ++ [machine.answer call state]) (machine.next call state))
    {calls : List Call} {state : State} (throughout : machine.Throughout condition calls state)
    (base : holds [] state) : holds (machine.answers calls state) (machine.run calls state) := by
  induction calls using List.reverseRecOn with
  | nil => exact base
  | append_singleton past call ih =>
    obtain ⟨before, here, _⟩ := throughout_append.mp throughout
    rw [answers_concat, run_concat]
    exact keeps call _ _ here (ih before)

variable (machine) in
def tally (counts : State → State → Bool) : List Call → State → Nat
  | [], _ => 0
  | call :: rest, state =>
    (if counts state (machine.next call state) then 1 else 0) +
      tally counts rest (machine.next call state)

theorem tally_append (counts : State → State → Bool) (first second : List Call)
    (state : State) :
    machine.tally counts (first ++ second) state =
      machine.tally counts first state + machine.tally counts second (machine.run first state) := by
  induction first generalizing state with
  | nil => simp [tally, run]
  | cons call rest ih => simp [tally, run, ih, Nat.add_assoc]

theorem tally_concat (counts : State → State → Bool) (calls : List Call) (call : Call)
    (state : State) :
    machine.tally counts (calls ++ [call]) state = machine.tally counts calls state +
      if counts (machine.run calls state) (machine.next call (machine.run calls state)) then 1
      else 0 := by
  simp [tally_append, tally]

theorem tally_of_done {done : State → Prop} {counts : State → State → Bool}
    (stays : ∀ call state, done state → done (machine.next call state))
    (fresh : ∀ state after, counts state after = true → ¬done state)
    (calls : List Call) {state : State} (reached : done state) :
    machine.tally counts calls state = 0 := by
  induction calls generalizing state with
  | nil => rfl
  | cons call rest ih =>
    rw [tally, ih (stays call state reached), if_neg]
    intro counted
    exact fresh state _ counted reached

theorem tally_le_one {done : State → Prop} {counts : State → State → Bool}
    (stays : ∀ call state, done state → done (machine.next call state))
    (fresh : ∀ state after, counts state after = true → ¬done state)
    (makes : ∀ state after, counts state after = true → done after)
    (calls : List Call) (state : State) : machine.tally counts calls state ≤ 1 := by
  induction calls generalizing state with
  | nil => exact Nat.zero_le 1
  | cons call rest ih =>
    rw [tally]
    by_cases counted : counts state (machine.next call state) = true
    · have later := tally_of_done stays fresh rest (makes state _ counted)
      rw [if_pos counted]
      omega
    · rw [if_neg counted, Nat.zero_add]
      exact ih (machine.next call state)

variable (machine) in
def log {Entry : Type} (entry : Call → State → Option Entry) : List Call → State → List Entry
  | [], _ => []
  | call :: rest, state => (entry call state).toList ++ log entry rest (machine.next call state)

theorem log_concat {Entry : Type} (entry : Call → State → Option Entry) (calls : List Call)
    (call : Call) (state : State) :
    machine.log entry (calls ++ [call]) state =
      machine.log entry calls state ++ (entry call (machine.run calls state)).toList := by
  induction calls generalizing state with
  | nil => simp [log, run]
  | cons first rest ih => rw [List.cons_append, log, ih, log, run, List.append_assoc]

theorem forall_mem_log {Entry : Type} {entry : Call → State → Option Entry} {holds : Entry → Prop}
    (each : ∀ call state, ∀ item ∈ entry call state, holds item) (calls : List Call)
    (state : State) : ∀ item ∈ machine.log entry calls state, holds item := by
  induction calls generalizing state with
  | nil => simp [log]
  | cons call rest ih =>
    intro item mem
    rw [log, List.mem_append, Option.mem_toList] at mem
    cases mem with
    | inl entered => exact each call state item entered
    | inr later => exact ih (machine.next call state) item later

/-- Each call of the run is answered alike by both machines. -/
def Agrees {Abstract Said : Type} (same : Answer → Said → Prop)
    (machine : Machine Call State Answer) (spec : Machine Call Abstract Said)
    (calls : List Call) (state : State) (abstract : Abstract) : Prop :=
  ∀ before call after, calls = before ++ call :: after →
    same (machine.answer call (machine.run before state))
      (spec.answer call (spec.run before abstract))

theorem agrees_of_simulation {Abstract Said : Type} {same : Answer → Said → Prop}
    {spec : Machine Call Abstract Said} {related : State → Abstract → Prop}
    (step : ∀ call state abstract, condition call state → related state abstract →
      same (machine.answer call state) (spec.answer call abstract) ∧
      related (machine.next call state) (spec.next call abstract))
    {calls : List Call} {state : State} {abstract : Abstract}
    (throughout : machine.Throughout condition calls state)
    (base : related state abstract) : Agrees same machine spec calls state abstract := by
  induction calls generalizing state abstract with
  | nil =>
    intro before call after split
    simp at split
  | cons first rest ih =>
    obtain ⟨here, kept⟩ := step first state abstract throughout.1 base
    intro before call after split
    cases before with
    | nil =>
      cases split
      exact here
    | cons head others =>
      cases split
      exact ih throughout.2 kept others call after rfl

end Machine

end Ois.Library
