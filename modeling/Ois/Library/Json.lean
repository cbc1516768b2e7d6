import Mathlib.Data.List.Sort
import Mathlib.Data.String.Basic
import Ois.Library.Dict

/-!
# JSON documents

A document is a tree whose objects keep the order in which their members were written.
-/

namespace Ois.Library

/-- Floating-point numbers are carried by their IEEE bit pattern. -/
inductive Json where
  | null
  | bool (value : Bool)
  | int (value : Int)
  | float (bits : UInt64)
  | str (value : String)
  | arr (items : List Json)
  | obj (members : List (String × Json))
  deriving Repr, Inhabited

abbrev Members := Dict String Json

namespace Json

mutual

def decEq : (left right : Json) → Decidable (left = right)
  | .null, .null => isTrue rfl
  | .bool left, .bool right => decidable_of_iff (left = right) (by simp)
  | .int left, .int right => decidable_of_iff (left = right) (by simp)
  | .float left, .float right => decidable_of_iff (left = right) (by simp)
  | .str left, .str right => decidable_of_iff (left = right) (by simp)
  | .arr left, .arr right =>
    match decEqItems left right with
    | isTrue same => isTrue (by rw [same])
    | isFalse different => isFalse (by simpa using different)
  | .obj left, .obj right =>
    match decEqMembers left right with
    | isTrue same => isTrue (by rw [same])
    | isFalse different => isFalse (by simpa using different)
  | .null, .bool _ | .null, .int _ | .null, .float _ | .null, .str _
  | .null, .arr _ | .null, .obj _ | .bool _, .null | .bool _, .int _
  | .bool _, .float _ | .bool _, .str _ | .bool _, .arr _ | .bool _, .obj _
  | .int _, .null | .int _, .bool _ | .int _, .float _ | .int _, .str _
  | .int _, .arr _ | .int _, .obj _ | .float _, .null | .float _, .bool _
  | .float _, .int _ | .float _, .str _ | .float _, .arr _ | .float _, .obj _
  | .str _, .null | .str _, .bool _ | .str _, .int _ | .str _, .float _
  | .str _, .arr _ | .str _, .obj _ | .arr _, .null | .arr _, .bool _
  | .arr _, .int _ | .arr _, .float _ | .arr _, .str _ | .arr _, .obj _
  | .obj _, .null | .obj _, .bool _ | .obj _, .int _ | .obj _, .float _
  | .obj _, .str _ | .obj _, .arr _ => isFalse (by simp)

def decEqItems : (left right : List Json) → Decidable (left = right)
  | [], [] => isTrue rfl
  | [], _ :: _ => isFalse (by simp)
  | _ :: _, [] => isFalse (by simp)
  | left :: lefts, right :: rights =>
    match decEq left right, decEqItems lefts rights with
    | isTrue head, isTrue tail => isTrue (by rw [head, tail])
    | isFalse head, _ => isFalse (by simp [head])
    | _, isFalse tail => isFalse (by simp [tail])

def decEqMembers : (left right : List (String × Json)) → Decidable (left = right)
  | [], [] => isTrue rfl
  | [], _ :: _ => isFalse (by simp)
  | _ :: _, [] => isFalse (by simp)
  | (key, left) :: lefts, (other, right) :: rights =>
    if keys : key = other then
      match decEq left right, decEqMembers lefts rights with
      | isTrue head, isTrue tail => isTrue (by rw [keys, head, tail])
      | isFalse head, _ => isFalse (by simp [head])
      | _, isFalse tail => isFalse (by simp [tail])
    else isFalse (by simp [keys])

end

instance : DecidableEq Json := decEq

def KeyOrder (left right : String × Json) : Prop := left.1 ≤ right.1

instance : DecidableRel KeyOrder := fun left right =>
  inferInstanceAs (Decidable (left.1 ≤ right.1))

mutual

/-- The tree that `json.loads(json.dumps(value, sort_keys=True))` yields. -/
def sortKeys : Json → Json
  | .null => .null
  | .bool value => .bool value
  | .int value => .int value
  | .float bits => .float bits
  | .str value => .str value
  | .arr items => .arr (sortItems items)
  | .obj members => .obj ((sortValues members).insertionSort KeyOrder)

def sortItems : List Json → List Json
  | [] => []
  | item :: rest => sortKeys item :: sortItems rest

def sortValues : List (String × Json) → List (String × Json)
  | [] => []
  | (key, value) :: rest => (key, sortKeys value) :: sortValues rest

end

def sortMembers (members : Members) : Members :=
  (sortValues members).insertionSort KeyOrder

theorem sort_items_eq_map (items : List Json) :
    sortItems items = items.map sortKeys := by
  induction items with
  | nil => rfl
  | cons item rest ih => simp [sortItems, ih]

def sortMember (mem : String × Json) : String × Json :=
  (mem.1, sortKeys mem.2)

theorem sort_values_eq_map (members : List (String × Json)) :
    sortValues members = members.map sortMember := by
  induction members with
  | nil => rfl
  | cons mem rest ih =>
    obtain ⟨key, value⟩ := mem
    simp [sortValues, sortMember, ih]

variable (members : Members)

theorem sort_members_eq :
    sortMembers members = (members.map sortMember).insertionSort KeyOrder := by
  rw [sortMembers, sort_values_eq_map]

@[simp] theorem sort_keys_obj : sortKeys (.obj members) = .obj (sortMembers members) := rfl

@[simp] theorem sort_keys_arr (items : List Json) :
    sortKeys (.arr items) = .arr (items.map sortKeys) :=
  congrArg Json.arr (sort_items_eq_map items)

@[simp] theorem sort_keys_null : sortKeys .null = .null := rfl

@[simp] theorem sort_keys_bool (value : Bool) : sortKeys (.bool value) = .bool value := rfl

@[simp] theorem sort_keys_int (value : Int) : sortKeys (.int value) = .int value := rfl

@[simp] theorem sort_keys_float (bits : UInt64) : sortKeys (.float bits) = .float bits := rfl

@[simp] theorem sort_keys_str (value : String) : sortKeys (.str value) = .str value := rfl

instance : IsTrans (String × Json) KeyOrder :=
  ⟨fun _ _ _ first second => le_trans (α := String) first second⟩

instance : Std.Total (α := String × Json) KeyOrder :=
  ⟨fun left right => le_total (α := String) left.1 right.1⟩

theorem sorted_members_pairwise : (sortMembers members).Pairwise KeyOrder := by
  rw [sort_members_eq]
  exact List.pairwise_insertionSort KeyOrder _

theorem map_sort_member_insertion_sort :
    (members.insertionSort KeyOrder).map sortMember =
      (members.map sortMember).insertionSort KeyOrder :=
  List.map_insertionSort KeyOrder KeyOrder sortMember members (fun _ _ _ _ => Iff.rfl)

theorem sort_members_of_fixed
    (fixed : (members.map sortMember).map sortMember = members.map sortMember) :
    sortMembers (sortMembers members) = sortMembers members := by
  have values : (sortMembers members).map sortMember = sortMembers members := by
    rw [sort_members_eq, map_sort_member_insertion_sort, fixed]
  calc
    sortMembers (sortMembers members) =
        ((sortMembers members).map sortMember).insertionSort KeyOrder :=
      sort_members_eq _
    _ = (sortMembers members).insertionSort KeyOrder := by rw [values]
    _ = sortMembers members := (sorted_members_pairwise members).insertionSort_eq

mutual

@[simp] theorem sort_keys_idempotent : (doc : Json) →
    sortKeys (sortKeys doc) = sortKeys doc
  | .null => by simp
  | .bool _ => by simp
  | .int _ => by simp
  | .float _ => by simp
  | .str _ => by simp
  | .arr items => by
    have fixed := map_sort_keys_idempotent items
    simpa using fixed
  | .obj members => by
    have fixed := map_sort_member_idempotent members
    simp [sort_members_of_fixed members fixed]

theorem map_sort_keys_idempotent : (items : List Json) →
    (items.map sortKeys).map sortKeys = items.map sortKeys
  | [] => rfl
  | item :: rest => by
    have head := sort_keys_idempotent item
    have tail := map_sort_keys_idempotent rest
    rw [List.map_cons, List.map_cons, head, tail]

theorem map_sort_member_idempotent : (members : List (String × Json)) →
    (members.map sortMember).map sortMember = members.map sortMember
  | [] => rfl
  | (key, value) :: rest => by
    have head := sort_keys_idempotent value
    have tail := map_sort_member_idempotent rest
    rw [List.map_cons, List.map_cons, tail]
    simp [sortMember, head]

end

variable (members : Members) (key : String)

@[simp] theorem sort_members_idempotent : sortMembers (sortMembers members) = sortMembers members :=
  sort_members_of_fixed members (map_sort_member_idempotent members)

theorem lookup_ordered_insert (mem : String × Json) (members : Members)
    (key : String) :
    (members.orderedInsert KeyOrder mem).lookup key = (mem :: members).lookup key := by
  induction members with
  | nil => rfl
  | cons head rest ih =>
    rw [List.orderedInsert_cons]
    split_ifs with before
    · rfl
    · obtain ⟨headKey, headValue⟩ := head
      obtain ⟨newKey, newValue⟩ := mem
      have keysDiffer : headKey ≠ newKey := by
        intro same
        exact before (le_of_eq same.symm)
      rw [List.lookup_cons, ih]
      simp only [List.lookup_cons]
      by_cases atHead : key = headKey
      · subst atHead
        have notNew : (key == newKey) = false := by simpa using keysDiffer
        simp [notNew]
      · have notHead : (key == headKey) = false := by simpa using atHead
        simp [notHead]

theorem lookup_insertion_sort :
    (members.insertionSort KeyOrder).lookup key = members.lookup key := by
  induction members with
  | nil => rfl
  | cons mem rest ih =>
    obtain ⟨held, value⟩ := mem
    rw [List.insertionSort_cons, lookup_ordered_insert]
    simp only [List.lookup_cons, ih]

theorem lookup_map_sort_member :
    (members.map sortMember).lookup key = (members.lookup key).map sortKeys := by
  induction members with
  | nil => rfl
  | cons mem rest ih =>
    obtain ⟨held, value⟩ := mem
    simp only [List.map_cons, sortMember, List.lookup_cons]
    cases key == held with
    | true => rfl
    | false => exact ih

@[simp] theorem lookup_sort_members :
    (sortMembers members).lookup key = (members.lookup key).map sortKeys := by
  rw [sort_members_eq, lookup_insertion_sort, lookup_map_sort_member]

theorem lookup_of_sorted {members others : Members}
    (same : sortKeys (.obj members) = sortKeys (.obj others)) (key : String) :
    (members.lookup key).map sortKeys = (others.lookup key).map sortKeys := by
  rw [sort_keys_obj, sort_keys_obj, Json.obj.injEq] at same
  rw [← lookup_sort_members, ← lookup_sort_members, same]

/-- The text of a JSON document, given by the tree it denotes. -/
structure Text where
  document : Json
  deriving DecidableEq, Repr

/-- `json.dumps(value, sort_keys=True)`. -/
def dumpsSorted (value : Json) : Text := ⟨sortKeys value⟩

/-- `json.loads(text)`. -/
def loads (text : Text) : Json := text.document

@[simp] theorem loads_dumps_sorted (value : Json) :
    loads (dumpsSorted value) = sortKeys value := rfl

def asStr? : Json → Option String
  | .str value => some value
  | _ => none

def asInt? : Json → Option Int
  | .int value => some value
  | _ => none

def asMembers? : Json → Option Members
  | .obj members => some members
  | _ => none

def asItems? : Json → Option (List Json)
  | .arr items => some items
  | _ => none

/-- A field that may hold `None`. -/
def orNull? {Value : Type} (read : Json → Option Value) : Json → Option (Option Value)
  | .null => some none
  | doc => (read doc).map some

def ofOption {Value : Type} (write : Value → Json) : Option Value → Json
  | none => .null
  | some value => write value

example : sortKeys (.obj [("b", .int 1), ("a", .obj [("d", .null), ("c", .null)])]) =
    .obj [("a", .obj [("c", .null), ("d", .null)]), ("b", .int 1)] := by
  decide

end Json

end Ois.Library
