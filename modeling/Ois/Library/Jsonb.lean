import Ois.Library.Json

/-!
# Binary JSON columns

A `jsonb` column keeps the tree of a document and not its text.
-/

namespace Ois.Library

namespace Jsonb

abbrev Numeric := Json → Option Json

def holdText (text : String) : Option String :=
  if text.toList.any fun char => char.toNat == 0 then none else some text

mutual

def hold (numeric : Numeric) : Json → Option Json
  | .null => some .null
  | .bool value => some (.bool value)
  | .int value => numeric (.int value)
  | .float bits => numeric (.float bits)
  | .str text => (holdText text).map .str
  | .arr items => (holdItems numeric items).map .arr
  | .obj members => (holdMembers numeric members).map .obj

def holdItems (numeric : Numeric) : List Json → Option (List Json)
  | [] => some []
  | item :: rest => do
    let held ← hold numeric item
    let others ← holdItems numeric rest
    return held :: others

def holdMembers (numeric : Numeric) : List (String × Json) → Option (List (String × Json))
  | [] => some []
  | (key, value) :: rest => do
    let name ← holdText key
    let held ← hold numeric value
    let others ← holdMembers numeric rest
    return (name, held) :: others

end

variable {numeric : Numeric}

theorem hold_text_eq {text held : String} (accepted : holdText text = some held) :
    held = text := by
  unfold holdText at accepted
  split_ifs at accepted
  exact (Option.some.inj accepted).symm

@[simp] theorem hold_null : hold numeric .null = some .null := by simp [hold]

theorem hold_str {text : String} {held : Json} (accepted : hold numeric (.str text) = some held) :
    held = .str text := by
  rw [hold, Option.map_eq_some_iff] at accepted
  obtain ⟨same, kept, rfl⟩ := accepted
  rw [hold_text_eq kept]

theorem hold_obj {members : Members} {held : Json}
    (accepted : hold numeric (.obj members) = some held) :
    ∃ kept, holdMembers numeric members = some kept ∧ held = .obj kept := by
  rw [hold, Option.map_eq_some_iff] at accepted
  obtain ⟨kept, took, same⟩ := accepted
  exact ⟨kept, took, same.symm⟩

theorem hold_members_cons {key : String} {value : Json} {rest kept : List (String × Json)}
    (accepted : holdMembers numeric ((key, value) :: rest) = some kept) :
    ∃ held others, hold numeric value = some held ∧
      holdMembers numeric rest = some others ∧ kept = (key, held) :: others := by
  simp only [holdMembers, Option.bind_eq_bind, Option.bind_eq_some_iff] at accepted
  obtain ⟨name, named, held, took, others, rest, whole⟩ := accepted
  rw [hold_text_eq named] at whole
  exact ⟨held, others, took, rest, (Option.some.inj whole).symm⟩

theorem hold_of_lookup {members kept : Members} {key : String} {value : Json}
    (accepted : holdMembers numeric members = some kept)
    (found : members.lookup key = some value) :
    ∃ held, hold numeric value = some held ∧ kept.lookup key = some held := by
  induction members generalizing kept with
  | nil => simp at found
  | cons mem rest ih =>
    obtain ⟨name, cur⟩ := mem
    obtain ⟨held, others, took, restTook, rfl⟩ := hold_members_cons accepted
    simp only [List.lookup_cons] at found ⊢
    cases same : key == name with
    | true =>
      rw [same] at found
      exact ⟨held, Option.some.inj found ▸ took, rfl⟩
    | false =>
      rw [same] at found
      exact ih restTook found

end Jsonb

end Ois.Library
