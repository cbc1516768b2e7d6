import Ois.Library.Json

/-!
# Python values and their JSON text

The values that `json.dumps` takes: lists and tuples, and dictionaries with texts and integers as
keys.
-/

namespace Ois.Library

open Dict

inductive PyKey where
  | text (value : String)
  | int (value : Int)
  deriving DecidableEq, Repr

inductive PyObject where
  | none
  | bool (value : Bool)
  | int (value : Int)
  | float (bits : UInt64)
  | str (value : String)
  | list (items : List PyObject)
  | tuple (items : List PyObject)
  | dict (entries : List (PyKey × PyObject))
  deriving Repr

structure PyWriting where
  text : String → String
  double : UInt64 → String

namespace PyObject

section writing

variable (writing : PyWriting)

def reprKey : PyKey → String
  | .text value => writing.text value
  | .int value => toString value

mutual

/-- `repr(value)`. -/
def repr : PyObject → String
  | .none => "None"
  | .bool true => "True"
  | .bool false => "False"
  | .int value => toString value
  | .float bits => writing.double bits
  | .str value => writing.text value
  | .list items => "[" ++ ", ".intercalate (reprItems items) ++ "]"
  | .tuple items =>
    match reprItems items with
    | [item] => "(" ++ item ++ ",)"
    | written => "(" ++ ", ".intercalate written ++ ")"
  | .dict entries => "\x7b" ++ ", ".intercalate (reprEntries entries) ++ "\x7d"

def reprItems : List PyObject → List String
  | [] => []
  | item :: rest => repr item :: reprItems rest

def reprEntries : List (PyKey × PyObject) → List String
  | [] => []
  | (key, value) :: rest =>
    (reprKey writing key ++ ": " ++ repr value) :: reprEntries rest

end

end writing

def keyText : PyKey → String
  | .text value => value
  | .int value => toString value

mutual

/-- The document of `json.dumps(value)`. -/
def dumps : PyObject → Json
  | .none => .null
  | .bool value => .bool value
  | .int value => .int value
  | .float bits => .float bits
  | .str value => .str value
  | .list items => .arr (dumpsItems items)
  | .tuple items => .arr (dumpsItems items)
  | .dict entries => .obj (dumpsEntries entries)

def dumpsItems : List PyObject → List Json
  | [] => []
  | item :: rest => dumps item :: dumpsItems rest

def dumpsEntries : List (PyKey × PyObject) → List (String × Json)
  | [] => []
  | (key, value) :: rest => (keyText key, dumps value) :: dumpsEntries rest

end

mutual

/-- `json.loads`, which makes a dictionary of the members one after another. -/
def loads : Json → PyObject
  | .null => .none
  | .bool value => .bool value
  | .int value => .int value
  | .float bits => .float bits
  | .str value => .str value
  | .arr items => .list (loadsItems items)
  | .obj members => .dict (ofPairs (loadsMembers members))

def loadsItems : List Json → List PyObject
  | [] => []
  | item :: rest => loads item :: loadsItems rest

def loadsMembers : List (String × Json) → List (PyKey × PyObject)
  | [] => []
  | (key, value) :: rest => (.text key, loads value) :: loadsMembers rest

end

mutual

/-- No dictionary in the value has a key twice. -/
def Valid : PyObject → Prop
  | .list items => ValidItems items
  | .tuple items => ValidItems items
  | .dict entries => (keys entries).Nodup ∧ ValidEntries entries
  | _ => True

def ValidItems : List PyObject → Prop
  | [] => True
  | item :: rest => Valid item ∧ ValidItems rest

def ValidEntries : List (PyKey × PyObject) → Prop
  | [] => True
  | (_, value) :: rest => Valid value ∧ ValidEntries rest

end

mutual

def Plain : PyObject → Prop
  | .list items => PlainItems items
  | .tuple _ => False
  | .dict entries => PlainEntries entries
  | _ => True

def PlainItems : List PyObject → Prop
  | [] => True
  | item :: rest => Plain item ∧ PlainItems rest

def PlainEntries : List (PyKey × PyObject) → Prop
  | [] => True
  | (.text _, value) :: rest => Plain value ∧ PlainEntries rest
  | (.int _, _) :: _ => False

end

theorem keys_loads_members (entries : List (PyKey × PyObject)) :
    keys (loadsMembers (dumpsEntries entries)) =
      (keys entries).map fun key => .text (keyText key) := by
  induction entries with
  | nil => rfl
  | cons entry rest ih =>
    obtain ⟨key, value⟩ := entry
    simp only [dumpsEntries, loadsMembers, keys_cons, List.map_cons, ih]

theorem keys_of_texts {keys : List PyKey} (texts : ∀ key ∈ keys, ∃ value, key = .text value) :
    (keys.map fun key => PyKey.text (keyText key)) = keys := by
  induction keys with
  | nil => rfl
  | cons key rest ih =>
    obtain ⟨value, same⟩ := texts key List.mem_cons_self
    rw [List.map_cons, ih fun other mem => texts other (List.mem_cons_of_mem _ mem), same]
    rfl

theorem of_pairs_loads_iff {entries : List (PyKey × PyObject)}
    (distinct : (keys entries).Nodup) :
    ofPairs (loadsMembers (dumpsEntries entries)) = entries ↔
      loadsMembers (dumpsEntries entries) = entries := by
  constructor
  · intro back
    have texts : ∀ key ∈ keys entries, ∃ value, key = PyKey.text value := by
      intro key mem
      rw [← back] at mem
      have written := mem_keys_of_pairs mem
      rw [keys_loads_members] at written
      obtain ⟨original, _, rfl⟩ := List.mem_map.mp written
      exact ⟨_, rfl⟩
    have same := keys_loads_members entries
    rw [keys_of_texts texts] at same
    rw [← same] at distinct
    rwa [of_pairs_of_nodup distinct] at back
  · intro back
    rw [back]
    exact of_pairs_of_nodup distinct

mutual

theorem loads_dumps_iff : (value : PyObject) → Valid value →
    (loads (dumps value) = value ↔ Plain value)
  | .none, _ => by simp [dumps, loads, Plain]
  | .bool _, _ => by simp [dumps, loads, Plain]
  | .int _, _ => by simp [dumps, loads, Plain]
  | .float _, _ => by simp [dumps, loads, Plain]
  | .str _, _ => by simp [dumps, loads, Plain]
  | .list items, valid => by
    rw [dumps, loads, Plain, PyObject.list.injEq]
    exact loads_dumps_items_iff items valid
  | .tuple items, _ => by simp [dumps, loads, Plain]
  | .dict entries, valid => by
    rw [dumps, loads, Plain, PyObject.dict.injEq, of_pairs_loads_iff valid.1]
    exact loads_dumps_entries_iff entries valid.2

theorem loads_dumps_items_iff : (items : List PyObject) → ValidItems items →
    (loadsItems (dumpsItems items) = items ↔ PlainItems items)
  | [], _ => by simp [dumpsItems, loadsItems, PlainItems]
  | item :: rest, valid => by
    rw [dumpsItems, loadsItems, PlainItems, List.cons.injEq, loads_dumps_iff item valid.1,
      loads_dumps_items_iff rest valid.2]

theorem loads_dumps_entries_iff : (entries : List (PyKey × PyObject)) → ValidEntries entries →
    (loadsMembers (dumpsEntries entries) = entries ↔ PlainEntries entries)
  | [], _ => by simp [dumpsEntries, loadsMembers, PlainEntries]
  | (.text key, value) :: rest, valid => by
    rw [dumpsEntries, loadsMembers, PlainEntries, List.cons.injEq, Prod.mk.injEq,
      loads_dumps_iff value valid.1, loads_dumps_entries_iff rest valid.2]
    simp [keyText]
  | (.int key, value) :: rest, valid => by
    simp [dumpsEntries, loadsMembers, PlainEntries]

end

end PyObject

end Ois.Library
