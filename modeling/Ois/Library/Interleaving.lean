import Mathlib.Logic.Function.Basic
import Ois.Library.Machine

/-!
# Calls that take several statements

A call runs one statement after another on a state that all calls share, and between two of them
any other call may run its own.
-/

namespace Ois.Library

structure Stride (Point Shared Said : Type) where
  shared : Shared
  point : Option Point
  said : Said

namespace Stride

variable {Point Shared Said : Type}

def going (shared : Shared) (point : Point) (said : Said) : Stride Point Shared Said :=
  ⟨shared, some point, said⟩

def ending (shared : Shared) (said : Said) : Stride Point Shared Said := ⟨shared, none, said⟩

section fields

variable (shared : Shared) (point : Point) (said : Said)

@[simp] theorem going_shared : (going shared point said).shared = shared := rfl

@[simp] theorem going_point : (going shared point said).point = some point := rfl

@[simp] theorem going_said : (going shared point said).said = said := rfl

@[simp] theorem ending_shared :
    (ending shared said : Stride Point Shared Said).shared = shared := rfl

@[simp] theorem ending_point :
    (ending shared said : Stride Point Shared Said).point = none := rfl

@[simp] theorem ending_said :
    (ending shared said : Stride Point Shared Said).said = said := rfl

end fields

end Stride

structure Program (Request Input Point Shared Said : Type) where
  enter : Request → Input → Shared → Stride Point Shared Said
  proceed : Point → Input → Shared → Stride Point Shared Said

inductive Statement (Request Input : Type) where
  | enter (call : Nat) (req : Request) (input : Input)
  | proceed (call : Nat) (input : Input)
  | crash (call : Nat)

def Statement.number {Request Input : Type} : Statement Request Input → Nat
  | .enter call _ _ => call
  | .proceed call _ => call
  | .crash call => call

structure Scene (Point Shared : Type) where
  shared : Shared
  calls : Nat → Option Point

namespace Scene

variable {Point Shared Said : Type}

/-- No call is under way. -/
def quiet (shared : Shared) : Scene Point Shared := ⟨shared, fun _ => none⟩

def dropped (call : Nat) (scene : Scene Point Shared) : Scene Point Shared :=
  { scene with calls := Function.update scene.calls call none }

def strode (call : Nat) (stride : Stride Point Shared Said) (scene : Scene Point Shared) :
    Scene Point Shared :=
  { shared := stride.shared, calls := Function.update scene.calls call stride.point }

section fields

variable (call other : Nat) (stride : Stride Point Shared Said) (scene : Scene Point Shared)

@[simp] theorem quiet_calls (shared : Shared) :
    (quiet shared : Scene Point Shared).calls call = none := rfl

@[simp] theorem quiet_shared (shared : Shared) :
    (quiet shared : Scene Point Shared).shared = shared := rfl

@[simp] theorem dropped_shared : (scene.dropped call).shared = scene.shared := rfl

@[simp] theorem strode_shared : (scene.strode call stride).shared = stride.shared := rfl

theorem dropped_calls : (scene.dropped call).calls other =
    if other = call then none else scene.calls other := by
  simp [dropped, Function.update_apply]

theorem strode_calls : (scene.strode call stride).calls other =
    if other = call then stride.point else scene.calls other := by
  simp [strode, Function.update_apply]

end fields

end Scene

/-- What is asked of the point that a statement goes on from. -/
def Statement.GoesOn {Request Input Point Shared : Type} (condition : Point → Shared → Prop) :
    Statement Request Input → Scene Point Shared → Prop
  | .proceed call _, scene => ∀ point ∈ scene.calls call, condition point scene.shared
  | _, _ => True

instance {Request Input Point Shared : Type} (condition : Point → Shared → Prop)
    [∀ point shared, Decidable (condition point shared)] :
    ∀ (stmt : Statement Request Input) (scene : Scene Point Shared),
      Decidable (stmt.GoesOn condition scene)
  | .proceed call _, scene =>
    inferInstanceAs (Decidable (∀ point ∈ scene.calls call, condition point scene.shared))
  | .enter _ _ _, _ => .isTrue trivial
  | .crash _, _ => .isTrue trivial

namespace Program

variable {Request Input Point Shared Said : Type}

/-- A call number that is in use starts no second call, and one that is not in use has
nothing to go on with. -/
def machine (program : Program Request Input Point Shared Said) :
    Machine (Statement Request Input) (Scene Point Shared) (Option Said)
  | .enter call req input, scene =>
    match scene.calls call with
    | some _ => (scene, none)
    | none =>
      let stride := program.enter req input scene.shared
      (scene.strode call stride, some stride.said)
  | .proceed call input, scene =>
    match scene.calls call with
    | none => (scene, none)
    | some point =>
      let stride := program.proceed point input scene.shared
      (scene.strode call stride, some stride.said)
  | .crash call, scene => (scene.dropped call, none)

inductive Happens (program : Program Request Input Point Shared Said)
    (scene : Scene Point Shared) :
    Statement Request Input → Scene Point Shared × Option Said → Prop where
  | ignored (stmt : Statement Request Input) : Happens program scene stmt (scene, none)
  | crashed (call : Nat) : Happens program scene (.crash call) (scene.dropped call, none)
  | entered (call : Nat) (req : Request) (input : Input) (free : scene.calls call = none) :
      Happens program scene (.enter call req input)
        (scene.strode call (program.enter req input scene.shared),
          some (program.enter req input scene.shared).said)
  | proceeded (call : Nat) (point : Point) (input : Input)
      (reached : scene.calls call = some point) :
      Happens program scene (.proceed call input)
        (scene.strode call (program.proceed point input scene.shared),
          some (program.proceed point input scene.shared).said)

variable (program : Program Request Input Point Shared Said)

theorem machine_happens (stmt : Statement Request Input) (scene : Scene Point Shared) :
    Happens program scene stmt (program.machine stmt scene) := by
  cases stmt with
  | enter call req input =>
    cases free : scene.calls call with
    | some point =>
      simp only [machine, free]
      exact .ignored _
    | none =>
      simp only [machine, free]
      exact .entered call req input free
  | proceed call input =>
    cases reached : scene.calls call with
    | none =>
      simp only [machine, reached]
      exact .ignored _
    | some point =>
      simp only [machine, reached]
      exact .proceeded call point input reached
  | crash call => exact .crashed call

theorem next_of_free {number : Nat} {scene : Scene Point Shared} (req : Request)
    (input : Input) (free : scene.calls number = none) :
    program.machine.next (.enter number req input) scene =
      scene.strode number (program.enter req input scene.shared) := by
  simp [Machine.next, machine, free]

variable {number : Nat} {point : Point} {scene : Scene Point Shared} (input : Input)

theorem next_of_reached (reached : scene.calls number = some point) :
    program.machine.next (.proceed number input) scene =
      scene.strode number (program.proceed point input scene.shared) := by
  simp [Machine.next, machine, reached]

theorem answer_of_reached (reached : scene.calls number = some point) :
    program.machine.answer (.proceed number input) scene =
      some (program.proceed point input scene.shared).said := by
  simp [Machine.answer, machine, reached]

theorem calls_of_other (stmt : Statement Request Input) (scene : Scene Point Shared)
    {number : Nat} (other : stmt.number ≠ number) :
    (program.machine.next stmt scene).calls number = scene.calls number := by
  have happens := program.machine_happens stmt scene
  change (program.machine stmt scene).1.calls number = scene.calls number
  generalize program.machine stmt scene = res at happens ⊢
  cases happens with
  | ignored => rfl
  | crashed call =>
    rw [Scene.dropped_calls]
    exact if_neg (Ne.symm other)
  | entered | proceeded =>
    rw [Scene.strode_calls]
    exact if_neg (Ne.symm other)

theorem calls_of_others {stmts : List (Statement Request Input)} {number : Nat}
    (others : ∀ stmt ∈ stmts, stmt.number ≠ number)
    (scene : Scene Point Shared) :
    (program.machine.run stmts scene).calls number = scene.calls number := by
  induction stmts generalizing scene with
  | nil => rfl
  | cons stmt rest ih =>
    rw [Machine.run, ih fun later mem => others later (List.mem_cons_of_mem _ mem)]
    exact program.calls_of_other stmt scene (others stmt List.mem_cons_self)

theorem points_next (holds : Shared → Point → Prop) (stmt : Statement Request Input)
    (scene : Scene Point Shared)
    (entered : ∀ number req input point, stmt = .enter number req input →
      (program.enter req input scene.shared).point = some point →
      holds (program.enter req input scene.shared).shared point)
    (proceeded : ∀ number past input point, stmt = .proceed number input →
      scene.calls number = some past → holds scene.shared past →
      (program.proceed past input scene.shared).point = some point →
      holds (program.proceed past input scene.shared).shared point)
    (kept : ∀ point, holds scene.shared point →
      holds (program.machine.next stmt scene).shared point)
    (before : ∀ number point, scene.calls number = some point → holds scene.shared point) :
    ∀ number point, (program.machine.next stmt scene).calls number = some point →
      holds (program.machine.next stmt scene).shared point := by
  intro number point reached
  have happens := program.machine_happens stmt scene
  change (program.machine stmt scene).1.calls number = some point at reached
  change ∀ point, holds scene.shared point →
    holds (program.machine stmt scene).1.shared point at kept
  change holds (program.machine stmt scene).1.shared point
  generalize program.machine stmt scene = res at happens reached kept ⊢
  cases happens with
  | ignored => exact before number point reached
  | crashed call =>
    rw [Scene.dropped_calls] at reached
    split_ifs at reached
    exact before number point reached
  | entered call req input free =>
    rw [Scene.strode_calls] at reached
    split_ifs at reached with own
    · exact entered call req input point rfl reached
    · exact kept point (before number point reached)
  | proceeded call past input there =>
    rw [Scene.strode_calls] at reached
    split_ifs at reached with own
    · exact proceeded call past input point rfl there (before call past there) reached
    · exact kept point (before number point reached)

end Program

end Ois.Library
