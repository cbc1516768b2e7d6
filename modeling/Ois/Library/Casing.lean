import Mathlib.Data.List.Basic

/-!
# Lower case

`str.lower` of Python. The tables of the Unicode character database are a parameter, of which only
the ASCII part is fixed. A capital sigma is lowered by what stands around it.
-/

namespace Ois.Library

/-- The lower-case mappings of characters, and which of them are cased or are passed over when the
end of a word is looked for. -/
structure Casing where
  full : Char → List Char
  cased : Char → Bool
  ignorable : Char → Bool
  ascii (char : Char) (plain : char.toNat < 128) : full char = [char.toLower]

namespace Casing

variable (casing : Casing)

def finalSigma (before rest : List Char) : Bool :=
  let nearest := fun text : List Char => text.find? fun char => !casing.ignorable char
  (nearest before).any casing.cased && !(nearest rest).any casing.cased

def lowerChars (before : List Char) : List Char → List Char
  | [] => []
  | char :: rest =>
    let lowered :=
      if char = 'Σ' then [if casing.finalSigma before rest then 'ς' else 'σ']
      else casing.full char
    lowered ++ lowerChars (char :: before) rest

/-- `text.lower()`. -/
def lower (text : String) : String := String.ofList (casing.lowerChars [] text.toList)

theorem lower_chars_ascii (before front rest : List Char)
    (plain : ∀ char ∈ front, char.toNat < 128) :
    casing.lowerChars before (front ++ rest) =
      front.map Char.toLower ++ casing.lowerChars (front.reverse ++ before) rest := by
  induction front generalizing before with
  | nil => rfl
  | cons char others ih =>
    have small := plain char List.mem_cons_self
    have other : char ≠ 'Σ' := by
      intro same
      rw [same] at small
      exact absurd small (by decide)
    have later := ih (char :: before) fun next mem =>
      plain next (List.mem_cons_of_mem _ mem)
    rw [List.cons_append, lowerChars, if_neg other, casing.ascii char small, later]
    simp

theorem lower_ascii (text : String) (plain : ∀ char ∈ text.toList, char.toNat < 128) :
    casing.lower text = String.ofList (text.toList.map Char.toLower) := by
  have lowered := casing.lower_chars_ascii [] text.toList [] plain
  rw [List.append_nil] at lowered
  rw [lower, lowered, lowerChars, List.append_nil]

theorem lower_append (front rest : String) (plain : ∀ char ∈ front.toList, char.toNat < 128) :
    ∃ lowered, casing.lower (front ++ rest) = casing.lower front ++ lowered := by
  refine ⟨String.ofList (casing.lowerChars front.toList.reverse rest.toList), ?_⟩
  have lowered := casing.lower_chars_ascii [] front.toList rest.toList plain
  rw [List.append_nil] at lowered
  rw [lower_ascii casing front plain, lower, String.toList_append, lowered, String.ofList_append]

/-- No character outside ASCII has another lower case. -/
def simple : Casing where
  full char := [char.toLower]
  cased := Char.isAlpha
  ignorable := fun _ => false
  ascii := fun _ _ => rfl

end Casing

end Ois.Library
