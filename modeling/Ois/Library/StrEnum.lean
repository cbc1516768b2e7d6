import Mathlib.Data.List.Nodup

/-!
# String enumerations

An enumeration whose members each have a distinct text. Looking a member up by
its text is the inverse of reading the text of a member.
-/

namespace Ois.Library

class StrEnum (Member : Type) where
  members : List Member
  value : Member → String
  complete : ∀ mem, mem ∈ members
  distinct : (members.map value).Nodup

namespace StrEnum

variable {Member : Type} [StrEnum Member]

/-- `Member(text)`; `none` is the `ValueError` of an unknown text. -/
def ofValue? (text : String) : Option Member :=
  members.find? fun mem => value mem == text

theorem value_injective {left right : Member} (same : value left = value right) :
    left = right :=
  List.inj_on_of_nodup_map distinct (complete left) (complete right) same

@[simp] theorem of_value_value (mem : Member) :
    ofValue? (value mem) = some mem := by
  unfold ofValue?
  cases found : (members : List Member).find? (fun other => value other == value mem) with
  | none =>
    have absent := List.find?_eq_none.mp found mem (complete mem)
    simp at absent
  | some other =>
    have same : value other = value mem := by
      simpa using List.find?_some found
    rw [value_injective same]

end StrEnum

end Ois.Library
