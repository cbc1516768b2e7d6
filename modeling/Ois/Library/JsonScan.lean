import Ois.Library.Json

/-!
# Reading the text of a JSON document

`json.loads` on the characters of a text. `Json.Text` is the text of a document that the program
wrote itself, given by its tree; here the text comes from elsewhere and may be no document at all.
-/

namespace Ois.Library.JsonScan

def quote : Char := Char.ofNat 34

def backslash : Char := Char.ofNat 92

def openBrace : Char := Char.ofNat 123

def closeBrace : Char := Char.ofNat 125

def isSpace (char : Char) : Bool := [32, 9, 10, 13].contains char.toNat

def skipSpace (chars : List Char) : List Char := chars.dropWhile isSpace

/-- Where a reader stands in a text between quotes. `pair` and `pairMark` wait for the
partner of a high surrogate. -/
inductive StringMode where
  | plain
  | escaped
  | hex (left value : Nat) (high : Option Nat)
  | pair (high : Nat)
  | pairMark (high : Nat)
  deriving DecidableEq, Repr

def hexDigit? (char : Char) : Option Nat :=
  let code := char.toNat
  if 48 ≤ code ∧ code ≤ 57 then some (code - 48)
  else if 97 ≤ code ∧ code ≤ 102 then some (code - 87)
  else if 65 ≤ code ∧ code ≤ 70 then some (code - 55)
  else none

def unescaped? (char : Char) : Option Char :=
  if char = quote ∨ char = backslash ∨ char = '/' then some char
  else if char = 'b' then some (Char.ofNat 8)
  else if char = 'f' then some (Char.ofNat 12)
  else if char = 'n' then some (Char.ofNat 10)
  else if char = 'r' then some (Char.ofNat 13)
  else if char = 't' then some (Char.ofNat 9)
  else none

def isHigh (code : Nat) : Bool := 0xD800 ≤ code && code ≤ 0xDBFF

def isLow (code : Nat) : Bool := 0xDC00 ≤ code && code ≤ 0xDFFF

def joined (high low : Nat) : Char :=
  Char.ofNat (0x10000 + (high - 0xD800) * 0x400 + (low - 0xDC00))

inductive StringStep where
  | done
  | turn (mode : StringMode)
  | emit (char : Char)
  deriving DecidableEq, Repr

def stepString? (mode : StringMode) (char : Char) : Option StringStep :=
  match mode with
  | .plain =>
    if char = quote then some .done
    else if char = backslash then some (.turn .escaped)
    else if char.toNat < 32 then none
    else some (.emit char)
  | .escaped =>
    if char = 'u' then some (.turn (.hex 4 0 none)) else (unescaped? char).map .emit
  | .hex left value high => do
    let digit ← hexDigit? char
    let code := value * 16 + digit
    if 1 < left then some (.turn (.hex (left - 1) code high))
    else match high with
      | some high => if isLow code then some (.emit (joined high code)) else none
      | none =>
        if isHigh code then some (.turn (.pair code))
        else if isLow code then none
        else some (.emit (Char.ofNat code))
  | .pair high => if char = backslash then some (.turn (.pairMark high)) else none
  | .pairMark high => if char = 'u' then some (.turn (.hex 4 0 (some high))) else none

def scanString : StringMode → List Char → Option (List Char × List Char)
  | _, [] => none
  | mode, char :: rest => do
    match ← stepString? mode char with
    | .done => some ([], rest)
    | .turn next => scanString next rest
    | .emit read =>
      let (chars, after) ← scanString .plain rest
      some (read :: chars, after)

def isDigit (char : Char) : Bool := '0' ≤ char && char ≤ '9'

def natOf (digits : List Char) : Nat :=
  digits.foldl (fun value char => value * 10 + (char.toNat - 48)) 0

def fractionPart : List Char → List Char × List Char
  | '.' :: rest =>
    let (digits, after) := rest.span isDigit
    if digits = [] then ([], '.' :: rest) else ('.' :: digits, after)
  | chars => ([], chars)

def signPart : List Char → List Char × List Char
  | '+' :: rest => (['+'], rest)
  | '-' :: rest => (['-'], rest)
  | chars => ([], chars)

def exponentPart : List Char → List Char × List Char
  | [] => ([], [])
  | mark :: rest =>
    let (sign, unsigned) := signPart rest
    let (digits, after) := unsigned.span isDigit
    if (mark = 'e' ∨ mark = 'E') ∧ digits ≠ [] then (mark :: sign ++ digits, after)
    else ([], mark :: rest)

def integerPart : List Char → Option (List Char × List Char)
  | '0' :: rest => some (['0'], rest)
  | chars =>
    let (digits, after) := chars.span isDigit
    if digits = [] then none else some (digits, after)

section scanning

variable (double : List Char → UInt64)

def scanNumber (chars : List Char) : Option (Json × List Char) := do
  let (sign, unsigned) := match chars with
    | '-' :: rest => (['-'], rest)
    | _ => ([], chars)
  let (digits, rest) ← integerPart unsigned
  let (fraction, rest) := fractionPart rest
  let (exponent, rest) := exponentPart rest
  if fraction = [] ∧ exponent = [] then
    if 4300 < digits.length then none
    else some (.int (if sign = [] then natOf digits else -natOf digits), rest)
  else some (.float (double (sign ++ digits ++ fraction ++ exponent)), rest)

def scanWord? (chars : List Char) : Option (Json × List Char) :=
  let words : List (String × Json) :=
    [("null", .null), ("true", .bool true), ("false", .bool false),
      ("NaN", .float 0x7FF8000000000000), ("Infinity", .float 0x7FF0000000000000),
      ("-Infinity", .float 0xFFF0000000000000)]
  (words.find? fun word => word.1.toList.isPrefixOf chars).map fun word =>
    (word.2, chars.drop word.1.length)

mutual

/-- A value takes at least one character, and `fuel` twice as many steps as there are
characters. -/
def scanValue : Nat → List Char → Option (Json × List Char)
  | 0, _ => none
  | _, [] => none
  | fuel + 1, char :: rest =>
    if char = quote then
      (scanString .plain rest).map fun read => (.str (String.ofList read.1), read.2)
    else if char = '[' then
      match skipSpace rest with
      | ']' :: after => some (.arr [], after)
      | inner => (scanItems fuel inner).map fun read => (.arr read.1, read.2)
    else if char = openBrace then
      match skipSpace rest with
      | [] => none
      | first :: after =>
        if first = closeBrace then some (.obj [], after)
        else (scanMembers fuel (first :: after)).map fun read =>
          (.obj (Dict.ofPairs read.1), read.2)
    else (scanWord? (char :: rest)).or (scanNumber double (char :: rest))

def scanItems : Nat → List Char → Option (List Json × List Char)
  | 0, _ => none
  | fuel + 1, chars => do
    let (item, rest) ← scanValue fuel chars
    match skipSpace rest with
    | ']' :: after => some ([item], after)
    | ',' :: after =>
      let (items, after) ← scanItems fuel (skipSpace after)
      some (item :: items, after)
    | _ => none

def scanMembers : Nat → List Char → Option (List (String × Json) × List Char)
  | 0, _ => none
  | _, [] => none
  | fuel + 1, mark :: rest => do
    if mark ≠ quote then none
    let (key, rest) ← scanString .plain rest
    match skipSpace rest with
    | ':' :: after =>
      let (value, rest) ← scanValue fuel (skipSpace after)
      match skipSpace rest with
      | [] => none
      | next :: after =>
        if next = closeBrace then some ([(String.ofList key, value)], after)
        else if next = ',' then
          let (members, after) ← scanMembers fuel (skipSpace after)
          some ((String.ofList key, value) :: members, after)
        else none
    | _ => none

end

/-- `json.loads(text)`; `none` is its `ValueError`. -/
def loads? (text : String) : Option Json := do
  let chars := text.toList
  if chars.head? = some (Char.ofNat 0xFEFF) then none
  let (value, rest) ← scanValue double (2 * chars.length + 2) (skipSpace chars)
  if skipSpace rest = [] then some value else none

section lengths

variable {double}

theorem scan_string_shorter {mode : StringMode} {input chars after : List Char}
    (read : scanString mode input = some (chars, after)) :
    chars.length + after.length < input.length := by
  induction input generalizing mode chars with
  | nil => simp [scanString] at read
  | cons char rest ih =>
    simp only [scanString, Option.bind_eq_bind, Option.bind_eq_some_iff] at read
    obtain ⟨step, _, continues⟩ := read
    rw [List.length_cons]
    cases step with
    | done =>
      obtain ⟨rfl, rfl⟩ := Prod.mk.inj (Option.some.inj continues)
      simp
    | turn next =>
      have shorter := ih continues
      omega
    | emit emitted =>
      simp only [Option.bind_eq_some_iff] at continues
      obtain ⟨⟨others, left⟩, inner, whole⟩ := continues
      obtain ⟨rfl, rfl⟩ := Prod.mk.inj (Option.some.inj whole)
      have shorter : others.length + left.length < rest.length := ih inner
      change (emitted :: others).length + left.length < rest.length + 1
      rw [List.length_cons]
      omega

theorem scan_word_not_str {chars after : List Char} {value : String} :
    scanWord? chars ≠ some (.str value, after) := by
  intro read
  simp only [scanWord?, Option.map_eq_some_iff] at read
  obtain ⟨word, found, same⟩ := read
  have listed := List.mem_of_find?_eq_some found
  have text : word.2 = .str value := congrArg Prod.fst same
  simp only [List.mem_cons, List.not_mem_nil, or_false] at listed
  rcases listed with rfl | rfl | rfl | rfl | rfl | rfl <;> simp at text

theorem scan_number_not_str {chars after : List Char} {value : String} :
    scanNumber double chars ≠ some (.str value, after) := by
  intro read
  simp only [scanNumber, Option.bind_eq_bind, Option.bind_eq_some_iff] at read
  obtain ⟨digits, _, whole⟩ := read
  split_ifs at whole <;> simp at whole

theorem scan_value_str {fuel : Nat} {input after : List Char} {value : String}
    (read : scanValue double fuel input = some (.str value, after)) :
    value.length + 2 + after.length ≤ input.length := by
  cases fuel with
  | zero => simp [scanValue] at read
  | succ fuel =>
    cases input with
    | nil => simp [scanValue] at read
    | cons char rest =>
      rw [scanValue] at read
      split_ifs at read with quoted bracket brace
      · rw [Option.map_eq_some_iff] at read
        obtain ⟨⟨chars, left⟩, scanned, same⟩ := read
        rw [Prod.mk.injEq, Json.str.injEq] at same
        obtain ⟨rfl, rfl⟩ := same
        have shorter := scan_string_shorter scanned
        change (String.ofList chars).length + 2 + left.length ≤ _
        rw [String.length_ofList, List.length_cons]
        omega
      · split at read
        · simp at read
        · rw [Option.map_eq_some_iff] at read
          obtain ⟨_, _, same⟩ := read
          simp at same
      · split at read
        · simp at read
        · split_ifs at read
          · simp at read
          · rw [Option.map_eq_some_iff] at read
            obtain ⟨_, _, same⟩ := read
            simp at same
      · rcases Option.or_eq_some_iff.mp read with word | ⟨_, n⟩
        · exact absurd word scan_word_not_str
        · exact absurd n scan_number_not_str

theorem skip_space_length (chars : List Char) : (skipSpace chars).length ≤ chars.length :=
  (List.dropWhile_sublist _).length_le

theorem loads_str_longer {text value : String} (read : loads? double text = some (.str value)) :
    value.length + 2 ≤ text.length := by
  simp only [loads?, Option.bind_eq_bind] at read
  split_ifs at read with mark
  · simp at read
  simp only [Option.bind_eq_some_iff] at read
  obtain ⟨⟨doc, rest⟩, scanned, ended⟩ := read
  split_ifs at ended
  have same : doc = .str value := Option.some.inj ended
  rw [same] at scanned
  have inside := scan_value_str scanned
  have skipped := skip_space_length text.toList
  have whole : text.toList.length = text.length := String.length_toList
  omega

theorem loads_ne_self (text : String) : loads? double text ≠ some (.str text) := by
  intro read
  have longer := loads_str_longer read
  omega

end lengths

end scanning

example : loads? (fun _ => 0) "[1, true]" = some (.arr [.int 1, .bool true]) := by decide +kernel

end Ois.Library.JsonScan
