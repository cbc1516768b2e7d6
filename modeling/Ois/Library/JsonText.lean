import Ois.Library.Json
import Ois.Library.Numeral

/-!
# A digest without collisions

Documents are written in a code of which no word is the start of another, so the text of
a document tells it apart from all others. Where a digest without collisions is asked
for, this text serves as one.
-/

namespace Ois.Library.Json

open Numeral

def writeNat : Nat → List Char
  | 0 => ['.']
  | value + 1 => '1' :: writeNat value

def writeChars : List Char → List Char
  | [] => ['.']
  | char :: rest => '+' :: char :: writeChars rest

mutual

def write : Json → List Char
  | .null => ['n']
  | .bool false => ['f']
  | .bool true => ['t']
  | .int (.ofNat value) => 'i' :: writeNat value
  | .int (.negSucc value) => 'j' :: writeNat value
  | .float bits => 'd' :: writeNat bits.toNat
  | .str text => 's' :: writeChars text.toList
  | .arr items => 'a' :: writeItems items
  | .obj members => 'o' :: writeMembers members

def writeItems : List Json → List Char
  | [] => ['.']
  | item :: rest => '+' :: (write item ++ writeItems rest)

def writeMembers : List (String × Json) → List Char
  | [] => ['.']
  | (key, value) :: rest =>
    '+' :: (writeChars key.toList ++ (write value ++ writeMembers rest))

end

theorem write_nat_cancel {value other : Nat} {rest tail : List Char}
    (same : writeNat value ++ rest = writeNat other ++ tail) : value = other ∧ rest = tail := by
  induction value generalizing other with
  | zero =>
    cases other with
    | zero => simpa [writeNat] using same
    | succ other => simp [writeNat] at same
  | succ value ih =>
    cases other with
    | zero => simp [writeNat] at same
    | succ other =>
      simp only [writeNat, List.cons_append, List.cons.injEq, true_and] at same
      obtain ⟨equal, tails⟩ := ih same
      exact ⟨congrArg (· + 1) equal, tails⟩

theorem write_chars_cancel {chars others rest tail : List Char}
    (same : writeChars chars ++ rest = writeChars others ++ tail) :
    chars = others ∧ rest = tail := by
  induction chars generalizing others with
  | nil =>
    cases others with
    | nil => simpa [writeChars] using same
    | cons other others => simp [writeChars] at same
  | cons char chars ih =>
    cases others with
    | nil => simp [writeChars] at same
    | cons other others =>
      simp only [writeChars, List.cons_append, List.cons.injEq, true_and] at same
      obtain ⟨equal, tails⟩ := ih same.2
      exact ⟨by rw [same.1, equal], tails⟩

mutual

theorem write_cancel : (value other : Json) → (rest tail : List Char) →
    write value ++ rest = write other ++ tail → value = other ∧ rest = tail
  | .null, other, rest, tail, same => by
    fun_cases write other <;> simp [write] at same ⊢
    exact same
  | .bool value, other, rest, tail, same => by
    cases value <;> fun_cases write other <;> simp [write] at same ⊢ <;> exact same
  | .int (.ofNat value), other, rest, tail, same => by
    fun_cases write other <;> simp only [write, List.cons_append, List.cons.injEq] at same <;>
      simp at same
    obtain ⟨equal, tails⟩ := write_nat_cancel same
    exact ⟨by rw [equal], tails⟩
  | .int (.negSucc value), other, rest, tail, same => by
    fun_cases write other <;> simp only [write, List.cons_append, List.cons.injEq] at same <;>
      simp at same
    obtain ⟨equal, tails⟩ := write_nat_cancel same
    exact ⟨by rw [equal], tails⟩
  | .float bits, other, rest, tail, same => by
    fun_cases write other <;> simp only [write, List.cons_append, List.cons.injEq] at same <;>
      simp at same
    obtain ⟨equal, tails⟩ := write_nat_cancel same
    exact ⟨by rw [UInt64.toNat_inj.mp equal], tails⟩
  | .str text, other, rest, tail, same => by
    fun_cases write other <;> simp only [write, List.cons_append, List.cons.injEq] at same <;>
      simp at same
    obtain ⟨equal, tails⟩ := write_chars_cancel same
    exact ⟨by rw [String.toList_inj.mp equal], tails⟩
  | .arr items, other, rest, tail, same => by
    fun_cases write other <;> simp only [write, List.cons_append, List.cons.injEq] at same <;>
      simp at same
    obtain ⟨equal, tails⟩ := write_items_cancel items _ rest tail same
    exact ⟨by rw [equal], tails⟩
  | .obj members, other, rest, tail, same => by
    fun_cases write other <;> simp only [write, List.cons_append, List.cons.injEq] at same <;>
      simp at same
    obtain ⟨equal, tails⟩ := write_members_cancel members _ rest tail same
    exact ⟨by rw [equal], tails⟩

theorem write_items_cancel : (items others : List Json) → (rest tail : List Char) →
    writeItems items ++ rest = writeItems others ++ tail → items = others ∧ rest = tail
  | [], others, rest, tail, same => by
    cases others with
    | nil => simpa [writeItems] using same
    | cons other others => simp [writeItems] at same
  | item :: items, others, rest, tail, same => by
    cases others with
    | nil => simp [writeItems] at same
    | cons other others =>
      simp only [writeItems, List.cons_append, List.append_assoc, List.cons.injEq,
      true_and] at same
      obtain ⟨first, remaining⟩ := write_cancel item other _ _ same
      obtain ⟨equal, tails⟩ := write_items_cancel items others rest tail remaining
      exact ⟨by rw [first, equal], tails⟩

theorem write_members_cancel : (members others : List (String × Json)) → (rest tail : List Char) →
    writeMembers members ++ rest = writeMembers others ++ tail → members = others ∧ rest = tail
  | [], others, rest, tail, same => by
    cases others with
    | nil => simpa [writeMembers] using same
    | cons other others => simp [writeMembers] at same
  | (key, value) :: members, others, rest, tail, same => by
    cases others with
    | nil => simp [writeMembers] at same
    | cons entry others =>
      obtain ⟨otherKey, other⟩ := entry
      simp only [writeMembers, List.cons_append, List.append_assoc, List.cons.injEq,
      true_and] at same
      obtain ⟨keys, afterKey⟩ := write_chars_cancel same
      obtain ⟨first, remaining⟩ := write_cancel value other _ _ afterKey
      obtain ⟨equal, tails⟩ := write_members_cancel members others rest tail remaining
      exact ⟨by rw [String.toList_inj.mp keys, first, equal], tails⟩

end

def Text.plain (text : Text) : String := String.ofList (write text.document)

theorem Text.plain_injective : Function.Injective Text.plain := by
  rintro ⟨value⟩ ⟨other⟩ same
  have written : write value ++ [] = write other ++ [] := by
    simpa [Text.plain] using congrArg String.toList same
  rw [(write_cancel value other [] [] written).1]

def writeCodes : List Char → List Char
  | [] => []
  | char :: rest => render 16 6 char.toNat ++ writeCodes rest

theorem code_fits (char : Char) : char.toNat < 16 ^ 6 := by
  have valid : char.toNat < 0xd800 ∨ 0xdfff < char.toNat ∧ char.toNat < 0x110000 := char.valid
  omega

theorem write_codes_injective : Function.Injective writeCodes := by
  intro chars
  induction chars with
  | nil =>
    intro others same
    cases others with
    | nil => rfl
    | cons other rest =>
      have lengths := congrArg List.length same
      rw [writeCodes, writeCodes, List.length_append, render_length] at lengths
      rw [List.length_nil] at lengths
      omega
  | cons char rest ih =>
    intro others same
    cases others with
    | nil =>
      have lengths := congrArg List.length same
      rw [writeCodes, writeCodes, List.length_append, render_length] at lengths
      rw [List.length_nil] at lengths
      omega
    | cons other tail =>
      have reads := read_render hexadecimal_legible 6 char.toNat (code_fits char) (writeCodes rest)
      rw [show render 16 6 char.toNat ++ writeCodes rest =
          render 16 6 other.toNat ++ writeCodes tail from same,
        read_render hexadecimal_legible 6 other.toNat (code_fits other)]
        at reads
      obtain ⟨codes, remaining⟩ := Prod.mk.inj (Option.some.inj reads)
      rw [Char.ext (UInt32.toNat_inj.mp codes), ih remaining.symm]

theorem mem_write_codes {chars : List Char} {char : Char} (mem : char ∈ writeCodes chars) :
    ∃ digit < 16, char = Nat.digitChar digit := by
  induction chars with
  | nil => simp [writeCodes] at mem
  | cons first rest ih =>
    rcases List.mem_append.mp mem with here | later
    · exact mem_render (by decide) here
    · exact ih later

def Text.coded (text : Text) : String := String.ofList (writeCodes (write text.document))

theorem Text.coded_injective : Function.Injective Text.coded := by
  intro text other same
  have written := write_codes_injective (String.ofList_injective same)
  exact Text.plain_injective (congrArg String.ofList written)

theorem Text.mem_coded {text : Text} {char : Char} (mem : char ∈ text.coded.toList) :
    ∃ digit < 16, char = Nat.digitChar digit := by
  rw [Text.coded, String.toList_ofList] at mem
  exact mem_write_codes mem

end Ois.Library.Json
