import Mathlib.Algebra.Ring.Int.Defs
import Ois.Library.DateTime
import Ois.Library.Json
import Ois.Kernel.Types

/-!
# Values as Python converts them

`repr`, `str`, `bool`, iteration, `dict` and `==` of the values that a JSON document can
hold. How Python writes a double is a parameter.
-/

namespace Ois.Kernel

open Ois.Library

section texts

variable (digits : UInt64 → String)

mutual

/-- `repr(value)`. -/
def reprOf : Json → String
  | .null => "None"
  | .bool true => "True"
  | .bool false => "False"
  | .int value => toString value
  | .float bits => digits bits
  | .str text => Kernel.reprStr text
  | .arr items => "[" ++ ", ".intercalate (reprItems items) ++ "]"
  | .obj members => "\x7b" ++ ", ".intercalate (reprMembers members) ++ "\x7d"

def reprItems : List Json → List String
  | [] => []
  | item :: rest => reprOf item :: reprItems rest

def reprMembers : List (String × Json) → List String
  | [] => []
  | (key, value) :: rest => (Kernel.reprStr key ++ ": " ++ reprOf value) :: reprMembers rest

end

/-- `str(value)`. -/
def strOf : Json → String
  | .str text => text
  | value => reprOf digits value

end texts

/-- `bool(value)`; both zeros of a double are false. -/
def truthy : Json → Bool
  | .null => false
  | .bool value => value
  | .int value => value != 0
  | .float bits => bits.toNat % 2 ^ 63 != 0
  | .str text => text != ""
  | .arr items => !items.isEmpty
  | .obj members => !members.isEmpty

/-- `type(value).__name__`. -/
def typeName : Json → String
  | .null => "NoneType"
  | .bool _ => "bool"
  | .int _ => "int"
  | .float _ => "float"
  | .str _ => "str"
  | .arr _ => "list"
  | .obj _ => "dict"

/-- The items that a `for` over the value goes through. -/
def iterate : Json → Except PyError (List Json)
  | .arr items => .ok items
  | .str text => .ok (text.toList.map fun char => .str (String.ofList [char]))
  | .obj members => .ok (members.map fun mem => .str mem.1)
  | value => .error ⟨.other "TypeError", "'" ++ typeName value ++ "' object is not iterable"⟩

/-- One element of the sequence that `dict` reads pairs from. A key that is not a text
has no place in a JSON object and is refused. -/
def pairOf (element : Json) : Except PyError (String × Json) := do
  match ← iterate element with
  | [.str key, value] => return (key, value)
  | [_, _] => throw ⟨.other "TypeError", "keys must be texts"⟩
  | _ => throw ⟨.valueError, "dictionary update sequence element has wrong length"⟩

/-- `dict(value)`. -/
def dictOf : Json → Except PyError Members
  | .obj members => .ok members
  | value => do
    let elements ← iterate value
    let pairs ← elements.mapM pairOf
    return pairs.foldl (fun members pair => members.set pair.1 pair.2) []

inductive PyNumber where
  | finite (numerator : Int) (denominator : Nat)
  | infinite (negative : Bool)
  | nan
  deriving DecidableEq, Repr

def PyNumber.ofDouble (bits : UInt64) : PyNumber :=
  let code := bits.toNat
  let negative := code / 2 ^ 63 == 1
  let exponent := code / 2 ^ 52 % 2 ^ 11
  let fraction := code % 2 ^ 52
  if exponent = 2047 then if fraction = 0 then .infinite negative else .nan
  else
    let size : Nat := if exponent = 0 then fraction else 2 ^ 52 + fraction
    let scale := if exponent = 0 then 1 else exponent
    .finite ((if negative then -1 else 1) * size * 2 ^ (scale - 1075)) (2 ^ (1075 - scale))

def PyNumber.equals : PyNumber → PyNumber → Bool
  | .finite left under, .finite right below => left * below == right * under
  | .infinite left, .infinite right => left == right
  | _, _ => false

def number? : Json → Option PyNumber
  | .bool value => some (.finite (if value then 1 else 0) 1)
  | .int value => some (.finite value 1)
  | .float bits => some (.ofDouble bits)
  | _ => none

mutual

/-- `left == right`. Numbers of different types may be equal, and the order of keys does
not count. -/
def pyEquals : Json → Json → Bool
  | .null, right => right == .null
  | .str left, right => right == .str left
  | .arr left, right =>
    match right with
    | .arr items => pyEqualItems left items
    | _ => false
  | .obj left, right =>
    match right with
    | .obj members => left.length == members.length && pyEqualMembers left members
    | _ => false
  | left, right =>
    match number? left, number? right with
    | some first, some second => first.equals second
    | _, _ => false

def pyEqualItems : List Json → List Json → Bool
  | [], right => right.isEmpty
  | left :: lefts, right =>
    match right with
    | [] => false
    | first :: rest => pyEquals left first && pyEqualItems lefts rest

def pyEqualMembers : List (String × Json) → Members → Bool
  | [], _ => true
  | (key, value) :: rest, members =>
    (match members.lookup key with
      | some other => pyEquals value other
      | none => false) && pyEqualMembers rest members

end

example : pyEquals (.int 1) (.float 0x3FF0000000000000) = true := by decide

/-- `moment + timedelta(seconds=seconds)` in UTC. -/
def plusSeconds (moment seconds : Int) : Except PyError Int :=
  let days := seconds.fdiv 86400
  let sum := moment + seconds * 1000000
  if 999999999 < days.natAbs then
    .error ⟨.other "OverflowError",
      "days=" ++ toString days ++ "; must have magnitude <= 999999999"⟩
  else if sum < 0 ∨
      (DateTime.daysBeforeYear 10000 * DateTime.microsecondsPerDay : Int) ≤ sum then
    .error ⟨.other "OverflowError", "date value out of range"⟩
  else .ok sum

end Ois.Kernel
