import Mathlib.Data.Nat.Init
import Mathlib.Algebra.Order.Ring.Nat
import Mathlib.Tactic.Ring

/-!
# Fixed-width numerals

Numbers written with a fixed count of digits, most significant first, and the
reader that takes exactly that many characters off the front of its input.
-/

namespace Ois.Library.Numeral

def digits (base : Nat) : Nat → Nat → List Nat
  | 0, _ => []
  | width + 1, value => value / base ^ width % base :: digits base width value

def render (base width value : Nat) : List Char :=
  (digits base width value).map Nat.digitChar

def digitValue? (base : Nat) (char : Char) : Option Nat :=
  (List.range base).find? fun digit => Nat.digitChar digit == char.toLower

def read (base : Nat) : Nat → Nat → List Char → Option (Nat × List Char)
  | 0, value, input => some (value, input)
  | _ + 1, _, [] => none
  | width + 1, value, char :: rest => do
    let digit ← digitValue? base char
    read base width (value * base + digit) rest

def Legible (base : Nat) : Prop :=
  0 < base ∧ ∀ digit < base, digitValue? base (Nat.digitChar digit) = some digit

theorem decimal_legible : Legible 10 := by
  unfold Legible
  decide

theorem hexadecimal_legible : Legible 16 := by
  unfold Legible
  decide

@[simp] theorem render_length (base width value : Nat) :
    (render base width value).length = width := by
  unfold render
  rw [List.length_map]
  induction width with
  | zero => rfl
  | succ width ih => simp [digits, ih]

theorem render_succ (base width value : Nat) :
    render base (width + 1) value =
      Nat.digitChar (value / base ^ width % base) :: render base width value := rfl

theorem read_render_from {base : Nat} (legible : Legible base) (width start value : Nat)
    (rest : List Char) :
    read base width start (render base width value ++ rest) =
      some (start * base ^ width + value % base ^ width, rest) := by
  obtain ⟨positive, reads⟩ := legible
  induction width generalizing start with
  | zero => simp [read, render, digits, Nat.mod_one]
  | succ width ih =>
    have digit := reads (value / base ^ width % base) (Nat.mod_lt _ positive)
    rw [render_succ, List.cons_append, read, digit, Option.bind_eq_bind, Option.bind_some, ih]
    have split : value % base ^ (width + 1) =
        value % base ^ width + base ^ width * (value / base ^ width % base) :=
      Nat.mod_pow_succ
    rw [split]
    congr 2
    ring

theorem read_render {base : Nat} (legible : Legible base) (width value : Nat)
    (fits : value < base ^ width) (rest : List Char) :
    read base width 0 (render base width value ++ rest) = some (value, rest) := by
  rw [read_render_from legible, Nat.mod_eq_of_lt fits]
  simp

theorem digits_lt {base width value digit : Nat} (positive : 0 < base)
    (inside : digit ∈ digits base width value) : digit < base := by
  induction width with
  | zero => simp [digits] at inside
  | succ width ih =>
    rw [digits, List.mem_cons] at inside
    rcases inside with rfl | below
    · exact Nat.mod_lt _ positive
    · exact ih below

theorem mem_render {base width value : Nat} (positive : 0 < base) {char : Char}
    (mem : char ∈ render base width value) :
    ∃ digit < base, char = Nat.digitChar digit := by
  unfold render at mem
  obtain ⟨digit, inside, rfl⟩ := List.mem_map.mp mem
  exact ⟨digit, digits_lt positive inside, rfl⟩

end Ois.Library.Numeral
