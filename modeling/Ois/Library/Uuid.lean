import Ois.Library.Numeral

/-!
# UUIDs and their text

`str(UUID)` groups the 32 hexadecimal digits 8-4-4-4-12. The constructor drops
the dashes and takes exactly 32 digits; the other spellings it accepts (a URN, or
braces) are not the text of any UUID and are refused here.
-/

namespace Ois.Library

structure Uuid where
  value : Fin (2 ^ 128)
  deriving DecidableEq, Repr

namespace Uuid

instance values_inhabited : NeZero (2 ^ 128) := ⟨by decide⟩

def hexDigits (uuid : Uuid) : List Char := Numeral.render 16 32 uuid.value.val

/-- The characters of `str(uuid)`. -/
def chars (uuid : Uuid) : List Char :=
  uuid.hexDigits.take 8 ++ '-' :: (uuid.hexDigits.drop 8).take 4 ++
    '-' :: (uuid.hexDigits.drop 12).take 4 ++ '-' :: (uuid.hexDigits.drop 16).take 4 ++
      '-' :: uuid.hexDigits.drop 20

/-- `str(uuid)`. -/
def str (uuid : Uuid) : String := String.ofList uuid.chars

/-- `UUID(text)`; `none` is the `ValueError` of badly formed text. -/
def parse? (text : String) : Option Uuid :=
  match Numeral.read 16 32 0 (text.toList.filter fun char => char != '-') with
  | some (value, []) => if fits : value < 2 ^ 128 then some ⟨⟨value, fits⟩⟩ else none
  | _ => none

variable (uuid : Uuid)

theorem hex_digits_without_dash :
    uuid.hexDigits.filter (fun char => char != '-') = uuid.hexDigits := by
  apply List.filter_eq_self.mpr
  intro char mem
  obtain ⟨digit, bound, rfl⟩ := Numeral.mem_render (by decide) mem
  have undashed : ∀ digit < 16, (Nat.digitChar digit != '-') = true := by decide
  exact undashed digit bound

theorem chars_without_dashes :
    uuid.chars.filter (fun char => char != '-') = uuid.hexDigits := by
  have pieces : uuid.hexDigits.take 8 ++ (uuid.hexDigits.drop 8).take 4 ++
      (uuid.hexDigits.drop 12).take 4 ++ (uuid.hexDigits.drop 16).take 4 ++
        uuid.hexDigits.drop 20 = uuid.hexDigits := by
    have fourth := List.take_append_drop 4 (uuid.hexDigits.drop 16)
    have third := List.take_append_drop 4 (uuid.hexDigits.drop 12)
    have second := List.take_append_drop 4 (uuid.hexDigits.drop 8)
    have first := List.take_append_drop 8 uuid.hexDigits
    rw [List.drop_drop] at fourth third second
    rw [List.append_assoc, fourth, List.append_assoc, third, List.append_assoc, second, first]
  have undashed := hex_digits_without_dash uuid
  rw [← pieces] at undashed
  simp only [List.filter_append] at undashed
  rw [pieces] at undashed
  unfold chars
  simpa [List.filter_append, List.append_assoc] using undashed

@[simp] theorem parse_str : parse? uuid.str = some uuid := by
  have bound : uuid.value.val < 16 ^ 32 := by
    have inside := uuid.value.isLt
    norm_num at inside ⊢
    exact inside
  have digitsRead := Numeral.read_render Numeral.hexadecimal_legible 32 uuid.value.val bound []
  rw [List.append_nil] at digitsRead
  unfold parse? str
  rw [String.toList_ofList, chars_without_dashes, hexDigits, digitsRead]
  simp

theorem str_injective {uuid other : Uuid} (same : uuid.str = other.str) : uuid = other := by
  have parsed := congrArg parse? same
  rw [parse_str, parse_str] at parsed
  exact Option.some.inj parsed

end Uuid

end Ois.Library
