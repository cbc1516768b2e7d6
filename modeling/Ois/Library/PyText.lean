import Ois.Library.Uuid

/-!
# Texts as Python reads them

White space and digits are those of Unicode: `int(text, base)` takes decimal digits of every
script, one underscore between digits, a sign, and white space around the number.
-/

namespace Ois.Library

open Numeral

namespace PyText

/-- `char.isspace()`. -/
def isSpace (char : Char) : Bool :=
  let code := char.toNat
  (9 ≤ code && code ≤ 13) || (28 ≤ code && code ≤ 32) || (0x2000 ≤ code && code ≤ 0x200A) ||
    [0x85, 0xA0, 0x1680, 0x2028, 0x2029, 0x202F, 0x205F, 0x3000].contains code

/-- `text.strip(chars)` for a class of characters. -/
def stripChars (taken : Char → Bool) (text : List Char) : List Char :=
  ((text.dropWhile taken).reverse.dropWhile taken).reverse

/-- `text.strip()`. -/
def strip (text : String) : String := String.ofList (stripChars isSpace text.toList)

def zeros : List Nat :=
  [0x30, 0x660, 0x6F0, 0x7C0, 0x966, 0x9E6, 0xA66, 0xAE6, 0xB66, 0xBE6, 0xC66, 0xCE6, 0xD66,
    0xDE6, 0xE50, 0xED0, 0xF20, 0x1040, 0x1090, 0x17E0, 0x1810, 0x1946, 0x19D0, 0x1A80, 0x1A90,
    0x1B50, 0x1BB0, 0x1C40, 0x1C50, 0xA620, 0xA8D0, 0xA900, 0xA9D0, 0xA9F0, 0xAA50, 0xABF0,
    0xFF10, 0x104A0, 0x10D30, 0x11066, 0x110F0, 0x11136, 0x111D0, 0x112F0, 0x11450, 0x114D0,
    0x11650, 0x116C0, 0x11730, 0x118E0, 0x11950, 0x11C50, 0x11D50, 0x11DA0, 0x11F50, 0x16A60,
    0x16AC0, 0x16B50, 0x1D7CE, 0x1D7D8, 0x1D7E2, 0x1D7EC, 0x1D7F6, 0x1E140, 0x1E2F0, 0x1E4F0,
    0x1E950, 0x1FBF0]

def digit? (base : Nat) (char : Char) : Option Nat :=
  let code := char.toNat
  let value :=
    match zeros.find? fun start => start ≤ code && code < start + 10 with
    | some start => some (code - start)
    | none =>
      if 97 ≤ code ∧ code ≤ 122 then some (code - 87)
      else if 65 ≤ code ∧ code ≤ 90 then some (code - 55)
      else none
  value.filter (· < base)

def moreDigits? (base : Nat) : Nat → List Char → Option Nat
  | value, [] => some value
  | value, '_' :: char :: rest => do
    let digit ← digit? base char
    moreDigits? base (value * base + digit) rest
  | value, char :: rest => do
    let digit ← digit? base char
    moreDigits? base (value * base + digit) rest

def digits? (base : Nat) : List Char → Option Nat
  | [] => none
  | char :: rest => do
    let digit ← digit? base char
    moreDigits? base digit rest

/-- Base sixteen allows `0x` or `0X`, and an underscore after it. -/
def unprefixed (base : Nat) : List Char → List Char
  | '0' :: 'x' :: '_' :: rest => if base = 16 then rest else '0' :: 'x' :: '_' :: rest
  | '0' :: 'X' :: '_' :: rest => if base = 16 then rest else '0' :: 'X' :: '_' :: rest
  | '0' :: 'x' :: rest => if base = 16 then rest else '0' :: 'x' :: rest
  | '0' :: 'X' :: rest => if base = 16 then rest else '0' :: 'X' :: rest
  | chars => chars

/-- `int(text, base)`; `none` is the `ValueError` of other texts. -/
def int? (base : Nat) (text : List Char) : Option Int :=
  match stripChars isSpace text with
  | '+' :: rest => (digits? base (unprefixed base rest)).map Int.ofNat
  | '-' :: rest => (digits? base (unprefixed base rest)).map fun size => -Int.ofNat size
  | rest => (digits? base (unprefixed base rest)).map Int.ofNat

/-- `text.replace(pattern, "")`, with `skip` characters of a match still to drop. -/
def removed (pattern : List Char) : Nat → List Char → List Char
  | _, [] => []
  | skip + 1, _ :: rest => removed pattern skip rest
  | 0, char :: rest =>
    if pattern.isPrefixOf (char :: rest) then removed pattern (pattern.length - 1) rest
    else char :: removed pattern 0 rest

/-- The characters that `UUID(text)` reads as a number. -/
def uuidDigits (text : String) : List Char :=
  let bare := removed "uuid:".toList 0 (removed "urn:".toList 0 text.toList)
  (stripChars (fun char => char == Char.ofNat 123 || char == Char.ofNat 125) bare).filter
    fun char => char != '-'

/-- `UUID(text)`; `none` is the `ValueError` of badly formed text. -/
def uuid? (text : String) : Option Uuid :=
  let digits := uuidDigits text
  if digits.length = 32 then
    match int? 16 digits with
    | some (.ofNat value) => if fits : value < 2 ^ 128 then some ⟨⟨value, fits⟩⟩ else none
    | _ => none
  else none

theorem drop_while_of_none {taken : Char → Bool} {text : List Char}
    (untaken : ∀ char ∈ text, taken char = false) : text.dropWhile taken = text := by
  cases text with
  | nil => rfl
  | cons char rest =>
    exact List.dropWhile_cons_of_neg (by simp [untaken char List.mem_cons_self])

theorem strip_chars_of_none {taken : Char → Bool} {text : List Char}
    (untaken : ∀ char ∈ text, taken char = false) : stripChars taken text = text := by
  have backwards : ∀ char ∈ text.reverse, taken char = false := by
    intro char mem
    exact untaken char (List.mem_reverse.mp mem)
  rw [stripChars, drop_while_of_none untaken, drop_while_of_none backwards, List.reverse_reverse]

theorem removed_of_absent {first : Char} {others text : List Char} (absent : first ∉ text) :
    removed (first :: others) 0 text = text := by
  induction text with
  | nil => rfl
  | cons char rest ih =>
    rw [List.mem_cons, not_or] at absent
    have different : (first == char) = false := by simpa using absent.1
    rw [removed, List.isPrefixOf_cons_cons, different, Bool.false_and, if_neg (by simp),
      ih absent.2]

structure HexDigit (char : Char) (digit : Nat) : Prop where
  reads : digit? 16 char = some digit
  unspaced : isSpace char = false
  unmarked : char ∉ ['_', '+', '-', 'x', 'X', 'u', Char.ofNat 123, Char.ofNat 125]

theorem hex_digit : ∀ digit < 16, HexDigit (Nat.digitChar digit) digit := by
  have table : ∀ digit < 16, digit? 16 (Nat.digitChar digit) = some digit ∧
      isSpace (Nat.digitChar digit) = false ∧ Nat.digitChar digit ∉
        ['_', '+', '-', 'x', 'X', 'u', Char.ofNat 123, Char.ofNat 125] := by decide +kernel
  intro digit bound
  obtain ⟨reads, unspaced, unmarked⟩ := table digit bound
  exact ⟨reads, unspaced, unmarked⟩

theorem more_digits_render (width start value : Nat) :
    moreDigits? 16 start (render 16 width value) =
      some (start * 16 ^ width + value % 16 ^ width) := by
  induction width generalizing start with
  | zero => simp [render, digits, moreDigits?, Nat.mod_one]
  | succ width ih =>
    have digit := hex_digit (value / 16 ^ width % 16) (Nat.mod_lt _ (by decide))
    have unmarked : Nat.digitChar (value / 16 ^ width % 16) ≠ '_' := by
      intro same
      exact digit.unmarked (by simp [same])
    have split : value % 16 ^ (width + 1) =
        value % 16 ^ width + 16 ^ width * (value / 16 ^ width % 16) := Nat.mod_pow_succ
    rw [render_succ, moreDigits?]
    · rw [digit.reads, Option.bind_eq_bind, Option.bind_some, ih, split]
      congr 1
      ring
    · intro char rest same
      exact absurd same unmarked

section uuids

variable (uuid : Uuid)

theorem hex_of_mem {char : Char} (mem : char ∈ uuid.hexDigits) :
    ∃ digit, HexDigit char digit := by
  obtain ⟨digit, bound, rfl⟩ := mem_render (by decide) mem
  exact ⟨digit, hex_digit digit bound⟩

theorem mem_chars {char : Char} (mem : char ∈ uuid.chars) :
    char = '-' ∨ char ∈ uuid.hexDigits := by
  simp only [Uuid.chars, List.mem_append, List.mem_cons] at mem
  rcases mem with (((first | dash | second) | dash | third) | dash | fourth) | dash | fifth
  · exact Or.inr (List.mem_of_mem_take first)
  · exact Or.inl dash
  · exact Or.inr (List.mem_of_mem_drop (List.mem_of_mem_take second))
  · exact Or.inl dash
  · exact Or.inr (List.mem_of_mem_drop (List.mem_of_mem_take third))
  · exact Or.inl dash
  · exact Or.inr (List.mem_of_mem_drop (List.mem_of_mem_take fourth))
  · exact Or.inl dash
  · exact Or.inr (List.mem_of_mem_drop fifth)

theorem mark_not_mem {mark : Char} (isMark : mark ∈ ['u', Char.ofNat 123, Char.ofNat 125]) :
    mark ∉ uuid.chars := by
  intro mem
  rcases mem_chars uuid mem with rfl | digit
  · revert isMark
    decide
  · obtain ⟨value, hex⟩ := hex_of_mem uuid digit
    apply hex.unmarked
    revert isMark
    simp only [List.mem_cons, List.not_mem_nil, or_false]
    tauto

theorem uuid_digits_str : uuidDigits uuid.str = uuid.hexDigits := by
  have schemeless : removed "uuid:".toList 0 (removed "urn:".toList 0 uuid.chars) = uuid.chars := by
    have absent := @mark_not_mem uuid 'u' (by simp)
    have urn : removed "urn:".toList 0 uuid.chars = uuid.chars := removed_of_absent absent
    rw [urn]
    exact removed_of_absent absent
  have unbraced : ∀ char ∈ uuid.chars,
      (char == Char.ofNat 123 || char == Char.ofNat 125) = false := by
    intro char mem
    have opened : char ≠ Char.ofNat 123 := by
      rintro rfl
      exact mark_not_mem uuid (by simp) mem
    have closed : char ≠ Char.ofNat 125 := by
      rintro rfl
      exact mark_not_mem uuid (by simp) mem
    simp [opened, closed]
  have text : uuid.str.toList = uuid.chars := String.toList_ofList
  simp only [uuidDigits, text, schemeless, strip_chars_of_none unbraced]
  exact uuid.chars_without_dashes

theorem unprefixed_hex : unprefixed 16 uuid.hexDigits = uuid.hexDigits := by
  have unmarked : ∀ mark ∈ ['x', 'X'], mark ∉ uuid.hexDigits := by
    intro mark isMark mem
    obtain ⟨value, hex⟩ := hex_of_mem uuid mem
    apply hex.unmarked
    revert isMark
    simp only [List.mem_cons, List.not_mem_nil, or_false]
    tauto
  unfold unprefixed
  split
  · rename_i digits
    exact absurd (by simp [digits]) (unmarked 'x' (by simp))
  · rename_i digits
    exact absurd (by simp [digits]) (unmarked 'X' (by simp))
  · rename_i digits
    exact absurd (by simp [digits]) (unmarked 'x' (by simp))
  · rename_i digits
    exact absurd (by simp [digits]) (unmarked 'X' (by simp))
  · rfl

theorem int_hex : int? 16 uuid.hexDigits = some (Int.ofNat uuid.value.val) := by
  have unspaced : ∀ char ∈ uuid.hexDigits, isSpace char = false := by
    intro char mem
    obtain ⟨value, hex⟩ := hex_of_mem uuid mem
    exact hex.unspaced
  have unsigned : ∀ sign ∈ ['+', '-'], sign ∉ uuid.hexDigits := by
    intro sign isSign mem
    obtain ⟨value, hex⟩ := hex_of_mem uuid mem
    apply hex.unmarked
    revert isSign
    simp only [List.mem_cons, List.not_mem_nil, or_false]
    tauto
  have read : digits? 16 uuid.hexDigits = some uuid.value.val := by
    have inside : uuid.value.val < 16 ^ 32 := by
      have bound := uuid.value.isLt
      norm_num at bound ⊢
      exact bound
    have digit := hex_digit (uuid.value.val / 16 ^ 31 % 16) (Nat.mod_lt _ (by decide))
    have split : uuid.value.val % 16 ^ (31 + 1) =
        uuid.value.val % 16 ^ 31 + 16 ^ 31 * (uuid.value.val / 16 ^ 31 % 16) := Nat.mod_pow_succ
    rw [Nat.mod_eq_of_lt inside] at split
    rw [Uuid.hexDigits, render_succ, digits?, digit.reads, Option.bind_eq_bind,
      Option.bind_some, more_digits_render]
    congr 1
    omega
  unfold int?
  rw [strip_chars_of_none unspaced]
  split
  · rename_i rest digits
    exact absurd (by simp [digits]) (unsigned '+' (by simp))
  · rename_i rest digits
    exact absurd (by simp [digits]) (unsigned '-' (by simp))
  · rw [unprefixed_hex, read]
    rfl

theorem uuid_str : uuid? uuid.str = some uuid := by
  have length : uuid.hexDigits.length = 32 := render_length 16 32 uuid.value.val
  simp only [uuid?, uuid_digits_str, length, if_true, int_hex]
  simp

end uuids

example : int? 10 " -1_0 ".toList = some (-10) ∧ int? 10 "1__0".toList = none := by
  decide +kernel

end PyText

end Ois.Library
