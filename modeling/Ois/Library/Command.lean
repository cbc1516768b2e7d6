import Mathlib.Order.Defs.Unbundled

/-!
# Commands that keep their state when they raise

A command reads and changes a state and ends by returning a value or by raising an error; whatever
it changed before raising stays changed.
-/

namespace Ois.Library

abbrev Command (Error State Value : Type) := EStateM Error State Value

namespace Command

variable {Error State Value Other : Type}

def Ends (command : Command Error State Value) (ret : Value → State → Prop)
    (raised : Error → State → Prop) (state : State) : Prop :=
  match command state with
  | .ok value after => ret value after
  | .error err after => raised err after

/-- The state in which a run from `state` leaves off, however it ends. -/
def stateAfter (command : Command Error State Value) (state : State) : State :=
  match command state with
  | .ok _ after => after
  | .error _ after => after

def stateOf : EStateM.Result Error State Value → State
  | .ok _ after => after
  | .error _ after => after

def outcomeOf : EStateM.Result Error State Value → Except Error Value
  | .ok value _ => .ok value
  | .error err _ => .error err

theorem state_of_run (command : Command Error State Value) (state : State) :
    stateOf (command state) = command.stateAfter state := by
  unfold stateAfter
  cases command state <;> rfl

/-- How a run from `state` ends. -/
def outcome (command : Command Error State Value) (state : State) : Except Error Value :=
  match command state with
  | .ok value _ => .ok value
  | .error err _ => .error err

theorem bind_of_ok {first : Command Error State Other}
    {next : Other → Command Error State Value} {state middle : State} {value : Other}
    (run : first state = .ok value middle) : (first >>= next) state = next value middle := by
  simp only [bind, EStateM.bind, run]

section run

variable (state : State)

theorem run_bind (first : Command Error State Other)
    (next : Other → Command Error State Value) :
    (first >>= next) state = match first state with
      | .ok value middle => next value middle
      | .error err middle => .error err middle := rfl

theorem run_map (read : Other → Value) (command : Command Error State Other) :
    (read <$> command) state = match command state with
      | .ok value after => .ok (read value) after
      | .error err after => .error err after := rfl

theorem run_pure (value : Value) :
    (pure value : Command Error State Value) state = .ok value state := rfl

theorem run_throw (err : Error) :
    (throw err : Command Error State Value) state = .error err state := rfl

theorem run_get : (get : Command Error State State) state = .ok state state := rfl

theorem run_modify (change : State → State) :
    (modify change : Command Error State Unit) state = .ok () (change state) := rfl

theorem run_try_catch (body : Command Error State Value)
    (handler : Error → Command Error State Value) :
    (tryCatch body handler) state = match body state with
      | .ok value after => .ok value after
      | .error err after => handler err after := by
  show EStateM.tryCatch body handler state = _
  delta EStateM.tryCatch
  cases body state <;> rfl

end run

def focus {Inner Fault : Type} (part : State → Inner) (restore : Inner → State → State)
    (raise : Fault → Error) (command : Command Fault Inner Value) :
    Command Error State Value := fun state =>
  match command (part state) with
  | .ok value after => .ok value (restore after state)
  | .error fault after => .error (raise fault) (restore after state)

section rules

variable (ret : Value → State → Prop) (raised : Error → State → Prop) (state : State)

@[simp] theorem ends_pure (value : Value) :
    Ends (pure value) ret raised state ↔ ret value state := Iff.rfl

@[simp] theorem ends_throw (err : Error) :
    Ends (throw err) ret raised state ↔ raised err state := Iff.rfl

@[simp] theorem ends_bind (first : Command Error State Other)
    (next : Other → Command Error State Value) :
    Ends (first >>= next) ret raised state ↔
      Ends first (fun value => Ends (next value) ret raised) raised state := by
  simp only [Ends, bind, EStateM.bind]
  cases first state <;> exact Iff.rfl

@[simp] theorem ends_get (kept : State → State → Prop) :
    Ends (get : Command Error State State) kept raised state ↔ kept state state :=
  Iff.rfl

@[simp] theorem ends_modify (change : State → State) (moved : Unit → State → Prop) :
    Ends (modify change : Command Error State Unit) moved raised state ↔
      moved () (change state) := Iff.rfl

@[simp] theorem ends_modify_get (change : State → Value × State) :
    Ends (modifyGet change : Command Error State Value) ret raised state ↔
      ret (change state).1 (change state).2 := Iff.rfl

@[simp] theorem ends_of_ok (value : Value) :
    Ends (MonadExcept.ofExcept (.ok value) : Command Error State Value) ret raised state ↔
      ret value state := Iff.rfl

@[simp] theorem ends_of_error (err : Error) :
    Ends (MonadExcept.ofExcept (.error err : Except Error Value) : Command Error State Value)
      ret raised state ↔ raised err state := Iff.rfl

@[simp] theorem ends_try_catch (body : Command Error State Value)
    (handler : Error → Command Error State Value) :
    Ends (tryCatch body handler) ret raised state ↔
      Ends body ret (fun err => Ends (handler err) ret raised) state := by
  simp only [Ends, run_try_catch]
  cases body state <;> exact Iff.rfl

@[simp] theorem ends_focus {Inner Fault : Type} (part : State → Inner)
    (restore : Inner → State → State) (raise : Fault → Error)
    (command : Command Fault Inner Value) :
    Ends (focus part restore raise command) ret raised state ↔
      Ends command (fun value after => ret value (restore after state))
      (fun fault after => raised (raise fault) (restore after state)) (part state) := by
  simp only [Ends, focus]
  cases command (part state) <;> exact Iff.rfl

end rules

variable {command : Command Error State Value} {state : State}

theorem Ends.outcome (law : Except Error Value → State → Prop)
    (ends : Ends command (fun value => law (.ok value)) (fun err => law (.error err)) state) :
    law (command.outcome state) (command.stateAfter state) := by
  unfold Ends at ends
  unfold Command.outcome stateAfter
  cases run : command state with
  | ok | error =>
    rw [run] at ends
    exact ends

theorem ends_exactly (command : Command Error State Value) (state : State) :
    Ends command
      (fun value after => command.outcome state = .ok value ∧ after = command.stateAfter state)
      (fun err after => command.outcome state = .error err ∧
      after = command.stateAfter state) state := by
  unfold Ends Command.outcome stateAfter
  cases command state with
  | ok | error => exact ⟨rfl, rfl⟩

theorem ends_of_all {ret : Value → State → Prop} {raised : Error → State → Prop}
    (onReturn : ∀ value after, ret value after) (onRaise : ∀ err after, raised err after) :
    Ends command ret raised state := by
  unfold Ends
  cases command state with
  | ok value after => exact onReturn value after
  | error err after => exact onRaise err after

theorem ok_of_outcome {value : Value} (ret : command.outcome state = .ok value) :
    command state = .ok value (command.stateAfter state) := by
  unfold Command.outcome at ret
  unfold stateAfter
  cases run : command state with
  | error err after => simp [run] at ret
  | ok found after =>
    simp only [run, Except.ok.injEq] at ret
    rw [ret]

theorem Ends.of_ok {ret : Value → State → Prop} {raised : Error → State → Prop}
    {state after : State} {value : Value} (ends : Ends command ret raised state)
    (run : command state = .ok value after) : ret value after := by
  unfold Ends at ends
  rw [run] at ends
  exact ends

theorem Ends.mono {ret wider : Value → State → Prop} {raised looser : Error → State → Prop}
    (ends : Ends command ret raised state)
    (onReturn : ∀ value after, ret value after → wider value after)
    (onRaise : ∀ err after, raised err after → looser err after) :
    Ends command wider looser state := by
  unfold Ends at ends ⊢
  cases run : command state with
  | ok value after =>
    rw [run] at ends
    exact onReturn value after ends
  | error err after =>
    rw [run] at ends
    exact onRaise err after ends

theorem Ends.and {ret also : Value → State → Prop} {raised too : Error → State → Prop}
    (first : Ends command ret raised state) (second : Ends command also too state) :
    Ends command (fun value after => ret value after ∧ also value after)
      (fun err after => raised err after ∧ too err after) state := by
  unfold Ends at first second ⊢
  cases run : command state with
  | ok | error =>
    rw [run] at first second
    exact ⟨first, second⟩

section shows

variable {View : Type} (view : State → View)

def Shows (command : Command Error State Value) (ret : Value → View → Prop)
    (raised : Error → View → Prop) (seen : View) : Prop :=
  ∀ state, view state = seen → Ends command (fun value after => ret value (view after))
      (fun err after => raised err (view after)) state

variable {view} {ret : Value → View → Prop} {raised : Error → View → Prop} {seen : View}

theorem Shows.ends {command : Command Error State Value} {state : State}
    (shows_ : Shows view command ret raised (view state)) :
    Ends command (fun value after => ret value (view after))
      (fun err after => raised err (view after)) state :=
  shows_ state rfl

theorem Shows.mono {command : Command Error State Value}
    {wider : Value → View → Prop} {looser : Error → View → Prop}
    (shows_ : Shows view command ret raised seen)
    (onReturn : ∀ value after, ret value after → wider value after)
    (onRaise : ∀ err after, raised err after → looser err after) :
    Shows view command wider looser seen := by
  intro state looks
  exact (shows_ state looks).mono (fun value after => onReturn value (view after))
    (fun err after => onRaise err (view after))

theorem shows_pure {value : Value} (holds : ret value seen) :
    Shows view (pure value : Command Error State Value) ret raised seen := by
  rintro state rfl
  exact holds

theorem shows_throw {err : Error} (holds : raised err seen) :
    Shows view (throw err : Command Error State Value) ret raised seen := by
  rintro state rfl
  exact holds

theorem shows_bind {first : Command Error State Other} {next : Other → Command Error State Value}
    (both : Shows view first (fun value => Shows view (next value) ret raised) raised seen) :
    Shows view (first >>= next) ret raised seen := by
  intro state looks
  rw [ends_bind]
  exact (both state looks).mono (fun value after holds => holds after rfl) (fun _ _ holds => holds)

theorem shows_try_catch {body : Command Error State Value}
    {handler : Error → Command Error State Value}
    (both : Shows view body ret (fun err => Shows view (handler err) ret raised)
      seen) :
    Shows view (tryCatch body handler) ret raised seen := by
  intro state looks
  rw [ends_try_catch]
  exact (both state looks).mono (fun _ _ holds => holds) (fun err after holds => holds after rfl)

theorem shows_get_bind {next : State → Command Error State Value}
    (each : ∀ state, view state = seen → Shows view (next state) ret raised seen) :
    Shows view (get >>= next) ret raised seen := by
  intro state looks
  rw [ends_bind, ends_get]
  exact each state looks state looks

theorem shows_ite {condition : Prop} [Decidable condition]
    {whenTrue whenFalse : Command Error State Value}
    (onTrue : condition → Shows view whenTrue ret raised seen)
    (onFalse : ¬condition → Shows view whenFalse ret raised seen) :
    Shows view (if condition then whenTrue else whenFalse) ret raised seen := by
  by_cases holds : condition
  · rw [if_pos holds]
    exact onTrue holds
  · rw [if_neg holds]
    exact onFalse holds

end shows

def Moves (relation : State → State → Prop) (command : Command Error State Value) : Prop :=
  ∀ state, Ends command (fun _ => relation state) (fun _ => relation state) state

theorem Moves.after {relation : State → State → Prop}
    {command : Command Error State Value} (moves : Moves relation command)
    (state : State) : relation state (command.stateAfter state) := by
  have ends := moves state
  unfold Ends at ends
  unfold stateAfter
  cases run : command state with
  | ok | error =>
    rw [run] at ends
    exact ends

section moves

variable {relation : State → State → Prop}

theorem moves_pure [Std.Refl relation] (value : Value) :
    Moves relation (pure value : Command Error State Value) :=
  fun state => Std.Refl.refl (r := relation) state

theorem moves_throw [Std.Refl relation] (err : Error) :
    Moves relation (throw err : Command Error State Value) :=
  fun state => Std.Refl.refl (r := relation) state

theorem moves_get [Std.Refl relation] :
    Moves relation (get : Command Error State State) :=
  fun state => Std.Refl.refl (r := relation) state

theorem moves_bind [IsTrans State relation] {first : Command Error State Other}
    {next : Other → Command Error State Value} (firstMoves : Moves relation first)
    (nextMoves : ∀ value, Moves relation (next value)) :
    Moves relation (first >>= next) := by
  intro state
  rw [ends_bind]
  refine (firstMoves state).mono ?_ (fun _ _ moved => moved)
  intro value middle moved
  refine (nextMoves value middle).mono ?_ ?_
  · exact fun _ _ further => IsTrans.trans _ _ _ moved further
  · exact fun _ _ further => IsTrans.trans _ _ _ moved further

theorem moves_try_catch [IsTrans State relation] {body : Command Error State Value}
    {handler : Error → Command Error State Value} (bodyMoves : Moves relation body)
    (handlerMoves : ∀ err, Moves relation (handler err)) :
    Moves relation (tryCatch body handler) := by
  intro state
  rw [ends_try_catch]
  refine (bodyMoves state).mono (fun _ _ moved => moved) ?_
  intro err middle moved
  refine (handlerMoves err middle).mono ?_ ?_
  · exact fun _ _ further => IsTrans.trans _ _ _ moved further
  · exact fun _ _ further => IsTrans.trans _ _ _ moved further

theorem moves_focus {Inner Fault : Type} {inside : Inner → Inner → Prop}
    {part : State → Inner} {restore : Inner → State → State} (raise : Fault → Error)
    {command : Command Fault Inner Value}
    (restored : ∀ inner state, part (restore inner state) = inner)
    (moves : Moves inside command) :
    Moves (fun before after => inside (part before) (part after))
      (focus part restore raise command) := by
  intro state
  rw [ends_focus]
  refine (moves (part state)).mono ?_ ?_
  · intro value after moved
    simpa only [restored] using moved
  · intro fault after moved
    simpa only [restored] using moved

theorem moves_ite {condition : Prop} [Decidable condition]
    {whenTrue whenFalse : Command Error State Value}
    (trueMoves : condition → Moves relation whenTrue)
    (falseMoves : ¬condition → Moves relation whenFalse) :
    Moves relation (if condition then whenTrue else whenFalse) := by
  by_cases holds : condition
  · simpa [holds] using trueMoves holds
  · simpa [holds] using falseMoves holds

end moves

end Command

end Ois.Library
