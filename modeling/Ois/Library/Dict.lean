import Mathlib.Data.List.Basic
import Mathlib.Data.List.Induction
import Mathlib.Data.List.Nodup

/-!
# Insertion-ordered dictionaries

A dictionary is the list of its entries in insertion order, which is what an
iteration over it sees. Reading a key is `List.lookup`. Assigning to a key that
is present keeps its position, and a new key goes to the end.
-/

namespace Ois.Library

theorem nodup_map_concat {Item Key : Type} {key : Item → Key} {items : List Item} {item : Item}
    (distinct : (items.map key).Nodup) (fresh : key item ∉ items.map key) :
    ((items ++ [item]).map key).Nodup := by
  rw [List.map_append, List.nodup_append]
  apply And.intro distinct
  apply And.intro (List.nodup_singleton _)
  intro held mem other single same
  rw [List.map_cons, List.map_nil, List.mem_singleton] at single
  rw [same, single] at mem
  exact fresh mem

instance text_pair_lawful : LawfulBEq (String × String) := inferInstance

abbrev Dict (Key Value : Type) := List (Key × Value)

namespace Dict

variable {Key Value : Type} [DecidableEq Key]

def keys (entries : Dict Key Value) : List Key := entries.map Prod.fst

/-- `d[key] = value`. -/
def set (key : Key) (value : Value) : Dict Key Value → Dict Key Value
  | [] => [(key, value)]
  | (held, cur) :: rest =>
    if held = key then (key, value) :: rest
    else (held, cur) :: set key value rest

/-- `d.setdefault(key, value)`: the first value written to a key stays. -/
def setdefault (key : Key) (value : Value) (entries : Dict Key Value) :
    Dict Key Value :=
  match entries.lookup key with
  | some _ => entries
  | none => entries ++ [(key, value)]

@[simp] theorem lookup_set_same (key : Key) (value : Value)
    (entries : Dict Key Value) : (set key value entries).lookup key = some value := by
  induction entries with
  | nil => simp [set]
  | cons entry rest ih =>
    obtain ⟨held, cur⟩ := entry
    by_cases same : held = key
    · simp [set, same]
    · have unequal : (key == held) = false := by
        simpa using fun equal => same equal.symm
      simp [set, same, List.lookup_cons, unequal, ih]

theorem lookup_set (key other : Key) (value : Value) (entries : Dict Key Value) :
    (set key value entries).lookup other =
      if other = key then some value else entries.lookup other := by
  by_cases same : other = key
  · rw [same, lookup_set_same, if_pos rfl]
  · rw [if_neg same]
    have unequal : (other == key) = false := by simpa using same
    induction entries with
    | nil => simp [set, List.lookup_cons, unequal]
    | cons entry rest ih =>
      obtain ⟨held, cur⟩ := entry
      by_cases found : held = key
      · simp [set, found, List.lookup_cons, unequal]
      · simp only [set, if_neg found, List.lookup_cons, ih]

inductive Found (key : Key) (value : Value) : Dict Key Value → Prop where
  | here (rest : Dict Key Value) : Found key value ((key, value) :: rest)
  | later (held : Key) (cur : Value) (rest : Dict Key Value) (unlike : held ≠ key)
      (found : Found key value rest) : Found key value ((held, cur) :: rest)

variable {key : Key} {value : Value} {entries : Dict Key Value} {kept : Key × Value → Bool}

theorem found_of_lookup (found : entries.lookup key = some value) : Found key value entries := by
  induction entries with
  | nil => cases found
  | cons entry rest ih =>
    obtain ⟨held, cur⟩ := entry
    rw [List.lookup_cons] at found
    by_cases same : held = key
    · subst same
      rw [beq_self_eq_true, Option.some.injEq] at found
      subst found
      exact .here rest
    · have unequal : (key == held) = false := by
        simpa using fun equal => same equal.symm
      rw [unequal] at found
      exact .later held cur rest same (ih found)

theorem set_of_lookup (found : entries.lookup key = some value) :
    set key value entries = entries := by
  replace found := found_of_lookup found
  induction found with
  | here rest => rw [set, if_pos rfl]
  | later held cur rest unlike _ ih => rw [set, if_neg unlike, ih]

theorem mem_of_lookup (found : entries.lookup key = some value) : (key, value) ∈ entries := by
  obtain ⟨before, after, split, _⟩ := List.lookup_eq_some_iff.mp found
  simp [split]

theorem mem_of_mem_set {entry : Key × Value} (mem : entry ∈ set key value entries) :
    entry ∈ entries ∨ entry = (key, value) := by
  induction entries with
  | nil => exact Or.inr (by simpa [set] using mem)
  | cons head rest ih =>
    obtain ⟨held, cur⟩ := head
    by_cases same : held = key
    · rw [set, if_pos same] at mem
      rcases List.mem_cons.mp mem with new | old
      · exact Or.inr new
      · exact Or.inl (List.mem_cons_of_mem _ old)
    · rw [set, if_neg same] at mem
      rcases List.mem_cons.mp mem with first | other
      · exact Or.inl (first ▸ List.mem_cons_self)
      · exact (ih other).imp_left (List.mem_cons_of_mem _)

theorem filter_set_sublist (dropped : kept (key, value) = false) (entries : Dict Key Value) :
    ((set key value entries).filter kept).Sublist (entries.filter kept) := by
  induction entries with
  | nil => simp [set, dropped]
  | cons head rest ih =>
    obtain ⟨held, cur⟩ := head
    by_cases same : held = key
    · rw [set, if_pos same, List.filter_cons_of_neg (by simp [dropped]), List.filter_cons]
      split_ifs
      · exact List.sublist_cons_self _ _
      · exact List.Sublist.refl _
    · rw [set, if_neg same, List.filter_cons, List.filter_cons]
      split_ifs
      · exact ih.cons_cons _
      · exact ih

theorem mem_set_of_mem {value cur : Value} {entry : Key × Value}
    (found : entries.lookup key = some cur) (mem : entry ∈ entries)
    (unlike : entry ≠ (key, cur)) : entry ∈ set key value entries := by
  replace found := found_of_lookup found
  induction found with
  | here rest =>
    rw [set, if_pos rfl]
    exact List.mem_cons_of_mem _ ((List.mem_cons.mp mem).resolve_left unlike)
  | later held first rest apart _ ih =>
    rw [set, if_neg apart]
    cases List.mem_cons.mp mem with
    | inl here => exact here ▸ List.mem_cons_self
    | inr there => exact List.mem_cons_of_mem _ (ih there)

theorem lookup_eq_none_of_fresh (fresh : key ∉ keys entries) : entries.lookup key = none := by
  cases found : entries.lookup key with
  | none => rfl
  | some value => exact absurd (List.mem_map_of_mem (mem_of_lookup found)) fresh

theorem lookup_filter (kept : Key × Value → Bool) (entries : Dict Key Value)
    (distinct : (keys entries).Nodup) (key : Key) :
    (entries.filter kept).lookup key =
      (entries.lookup key).filter fun value => kept (key, value) := by
  induction entries with
  | nil => rfl
  | cons entry rest ih =>
    obtain ⟨held, cur⟩ := entry
    rw [keys, List.map_cons, List.nodup_cons] at distinct
    have tail := ih distinct.2
    by_cases same : key = held
    · subst same
      have absent := lookup_eq_none_of_fresh distinct.1
      rw [absent] at tail
      by_cases keep : kept (key, cur) = true
      · simp [keep, Option.filter]
      · simp only [Bool.not_eq_true] at keep
        simp [keep, tail, Option.filter]
    · have unequal : (key == held) = false := by simpa using same
      by_cases keep : kept (held, cur) = true
      · simp [keep, List.lookup_cons, unequal, tail]
      · simp only [Bool.not_eq_true] at keep
        simp [keep, List.lookup_cons, unequal, tail]

theorem lookup_filter_of_kept (found : entries.lookup key = some value)
    (keep : kept (key, value) = true) : (entries.filter kept).lookup key = some value := by
  replace found := found_of_lookup found
  induction found with
  | here rest => rw [List.filter_cons_of_pos keep, List.lookup_cons_self]
  | later held cur rest unlike _ ih =>
    have unequal : (key == held) = false := by
      simpa using fun equal => unlike equal.symm
    rw [List.filter_cons]
    split_ifs
    · rw [List.lookup_cons, unequal, ih]
    · exact ih

theorem lookup_without (key other : Key) (entries : Dict Key Value) :
    (entries.filter fun entry => entry.1 != key).lookup other =
      if other = key then none else entries.lookup other := by
  induction entries with
  | nil => simp
  | cons entry rest ih =>
    obtain ⟨held, cur⟩ := entry
    rw [List.filter_cons]
    by_cases gone : held = key
    · rw [if_neg (by simp [gone]), ih, List.lookup_cons]
      by_cases same : other = key
      · simp [same]
      · have unequal : (other == held) = false := by simpa [gone] using same
        simp [same, unequal]
    · rw [if_pos (by simp [gone]), List.lookup_cons, ih, List.lookup_cons]
      by_cases same : other = key
      · have unequal : (other == held) = false := by
          simpa [same] using fun equal => gone equal.symm
        simp only [unequal, if_pos same]
      · simp only [if_neg same]

theorem filter_set_of_dropped {value next : Value} (found : entries.lookup key = some value)
    (dropped : kept (key, value) = false) (alsoDropped : kept (key, next) = false) :
    (set key next entries).filter kept = entries.filter kept := by
  replace found := found_of_lookup found
  induction found with
  | here rest =>
    rw [set, if_pos rfl, List.filter_cons_of_neg (by simp [alsoDropped]),
      List.filter_cons_of_neg (by simp [dropped])]
  | later held cur rest unlike _ ih =>
    rw [set, if_neg unlike, List.filter_cons, List.filter_cons, ih]

theorem filter_set_of_kept {value next : Value} (found : entries.lookup key = some value)
    (keep : kept (key, value) = true) (alsoKeep : kept (key, next) = true) :
    (set key next entries).filter kept = set key next (entries.filter kept) := by
  replace found := found_of_lookup found
  induction found with
  | here rest =>
    rw [set, if_pos rfl, List.filter_cons_of_pos alsoKeep, List.filter_cons_of_pos keep, set,
      if_pos rfl]
  | later held cur rest unlike _ ih =>
    rw [set, if_neg unlike, List.filter_cons, List.filter_cons, ih]
    split_ifs
    · rw [set, if_neg unlike]
    · rfl

theorem lookup_filter_of_missing (missing : entries.lookup key = none) :
    (entries.filter kept).lookup key = none := by
  induction entries with
  | nil => rfl
  | cons entry rest ih =>
    obtain ⟨held, cur⟩ := entry
    rw [List.lookup_cons] at missing
    cases same : key == held with
    | true => simp [same] at missing
    | false =>
      rw [same] at missing
      rw [List.filter_cons]
      split_ifs
      · rw [List.lookup_cons, same]
        exact ih missing
      · exact ih missing

theorem filter_setdefault (kept : Key × Value → Bool) (key : Key) (value : Value)
    (entries : Dict Key Value) :
    (setdefault key value entries).filter kept =
      entries.filter kept ++ if entries.lookup key = none ∧ kept (key, value) = true then
      [(key, value)] else [] := by
  unfold setdefault
  cases found : entries.lookup key with
  | some stored => simp
  | none =>
    rw [List.filter_append]
    by_cases keep : kept (key, value) = true
    · simp [keep]
    · simp [keep]

theorem lookup_of_mem (distinct : (keys entries).Nodup) (mem : (key, value) ∈ entries) :
    entries.lookup key = some value := by
  induction entries with
  | nil => simp at mem
  | cons entry rest ih =>
    obtain ⟨held, cur⟩ := entry
    rw [keys, List.map_cons, List.nodup_cons] at distinct
    rw [List.lookup_cons]
    rcases List.mem_cons.mp mem with here | there
    · rw [Prod.mk.injEq] at here
      rw [here.1, here.2, beq_self_eq_true]
    · have present : key ∈ List.map Prod.fst rest := List.mem_map_of_mem there
      have unequal : (key == held) = false := by
        rw [beq_eq_false_iff_ne]
        intro same
        exact distinct.1 (same ▸ present)
      rw [unequal]
      exact ih distinct.2 there

variable {Other : Type} (change : Value → Other)

theorem lookup_map_values (entries : Dict Key Value)
    (key : Key) :
    (entries.map fun entry => (entry.1, change entry.2)).lookup key =
      (entries.lookup key).map change := by
  induction entries with
  | nil => rfl
  | cons entry rest ih =>
    obtain ⟨held, cur⟩ := entry
    simp only [List.map_cons, List.lookup_cons, ih]
    cases key == held <;> rfl

omit [DecidableEq Key] in
theorem keys_map_values (entries : Dict Key Value) :
    keys (entries.map fun entry => (entry.1, change entry.2)) = keys entries := by
  simp [keys]

theorem map_values_set (key : Key) (value : Value)
    (entries : Dict Key Value) :
    (set key value entries).map (fun entry => (entry.1, change entry.2)) =
      set key (change value) (entries.map fun entry => (entry.1, change entry.2)) := by
  induction entries with
  | nil => rfl
  | cons entry rest ih =>
    by_cases same : entry.1 = key
    · simp only [set, if_pos same, List.map_cons]
    · simp only [set, if_neg same, List.map_cons, ih]

theorem nodup_keys_append_fresh {key : Key} {value : Value} {entries : Dict Key Value}
    (distinct : (keys entries).Nodup) (missing : entries.lookup key = none) :
    (keys (entries ++ [(key, value)])).Nodup := by
  have fresh : key ∉ keys entries := by
    intro mem
    obtain ⟨entry, present, rfl⟩ := List.mem_map.mp mem
    have found : entries.lookup entry.1 = some entry.2 := lookup_of_mem distinct present
    simp [missing] at found
  rw [keys, List.map_append]
  exact List.nodup_append.mpr ⟨distinct, by simp, by
    intro held mem other single
    rw [List.map_cons, List.map_nil, List.mem_singleton] at single
    intro same
    rw [same, single] at mem
    exact fresh mem⟩

omit [DecidableEq Key] in
theorem keys_cons (key : Key) (value : Value) (rest : Dict Key Value) :
    keys ((key, value) :: rest) = key :: keys rest := rfl

theorem filter_of_distinct {entries : Dict Key Value} (distinct : (keys entries).Nodup)
    (key : Key) (kept : Value → Bool) :
    (entries.filter fun entry => decide (entry.1 = key) && kept entry.2).map Prod.snd =
      ((entries.lookup key).filter kept).toList := by
  induction entries with
  | nil => rfl
  | cons entry rest ih =>
    rw [keys_cons, List.nodup_cons] at distinct
    rw [List.lookup_cons, List.filter_cons]
    by_cases same : entry.1 = key
    · have none : (rest.filter fun entry => decide (entry.1 = key) && kept entry.2) = [] := by
        rw [List.filter_eq_nil_iff]
        intro other mem both
        have equal : other.1 = key := of_decide_eq_true (Bool.and_eq_true_iff.mp both).1
        apply distinct.1
        rw [same, ← equal]
        exact List.mem_map_of_mem mem
      rw [none, same, beq_self_eq_true]
      cases keep : kept entry.2 with
      | true | false => simp [Option.filter, keep]
    · have unequal : (key == entry.1) = false :=
        beq_eq_false_iff_ne.mpr fun equal => same equal.symm
      rw [unequal, ← ih distinct.2]
      simp [same]

theorem keys_set (key : Key) (value : Value) (entries : Dict Key Value) :
    keys (set key value entries) =
      if key ∈ keys entries then keys entries else keys entries ++ [key] := by
  induction entries with
  | nil => simp [set, keys]
  | cons entry rest ih =>
    obtain ⟨held, cur⟩ := entry
    by_cases same : held = key
    · simp [set, keys_cons, same]
    · have unequal : key ≠ held := fun equal => same equal.symm
      rw [set, if_neg same, keys_cons, keys_cons, ih]
      simp only [List.mem_cons, unequal, false_or]
      split_ifs <;> simp

theorem nodup_keys_set {key : Key} {value : Value} {entries : Dict Key Value}
    (distinct : (keys entries).Nodup) : (keys (set key value entries)).Nodup := by
  rw [keys_set]
  split_ifs with present
  · exact distinct
  · exact List.nodup_append.mpr ⟨distinct, by simp, by
      intro held mem other single
      rw [List.mem_singleton] at single
      rw [single]
      exact fun same => present (same ▸ mem)⟩

variable {entries : Dict Key Value} {key : Key} {value : Value}

omit [DecidableEq Key] in
theorem nodup_keys_filter {kept : Key × Value → Bool} (distinct : (keys entries).Nodup) :
    (keys (entries.filter kept)).Nodup :=
  distinct.sublist (List.filter_sublist.map Prod.fst)

theorem lookup_append (left right : Dict Key Value) (key : Key) :
    (left ++ right).lookup key = (left.lookup key).or (right.lookup key) := by
  induction left with
  | nil => simp
  | cons entry rest ih =>
    obtain ⟨held, cur⟩ := entry
    simp only [List.cons_append, List.lookup_cons, ih]
    cases key == held <;> simp

theorem lookup_append_fresh (missing : entries.lookup key = none) (other : Key) :
    (entries ++ [(key, value)]).lookup other =
      if other = key then some value else entries.lookup other := by
  rw [lookup_append]
  by_cases same : other = key
  · rw [same, missing, if_pos rfl, Option.none_or, List.lookup_cons_self]
  · have unequal : (other == key) = false := by simpa using same
    rw [if_neg same, List.lookup_cons, unequal, List.lookup_nil, Option.or_none]

theorem lookup_setdefault (key other : Key) (value : Value)
    (entries : Dict Key Value) :
    (setdefault key value entries).lookup other =
      (entries.lookup other).or (if other = key then some value else none) := by
  unfold setdefault
  cases found : entries.lookup key with
  | some stored =>
    by_cases same : other = key
    · subst same
      simp [found]
    · simp [same]
  | none =>
    by_cases same : other = key
    · subst same
      simp [lookup_append, found]
    · have unequal : (other == key) = false := by simpa using same
      simp [lookup_append, same, List.lookup_cons, unequal]

theorem set_of_fresh (fresh : key ∉ keys entries) :
    set key value entries = entries ++ [(key, value)] := by
  induction entries with
  | nil => rfl
  | cons entry rest ih =>
    obtain ⟨held, cur⟩ := entry
    rw [keys_cons, List.mem_cons, not_or] at fresh
    rw [set, if_neg fun same => fresh.1 same.symm, ih fresh.2]
    rfl

theorem set_of_missing (missing : entries.lookup key = none) :
    set key value entries = entries ++ [(key, value)] := by
  apply set_of_fresh
  intro mem
  obtain ⟨entry, present, same⟩ := List.mem_map.mp mem
  have absent := List.lookup_eq_none_iff.mp missing entry present
  simp [same] at absent

theorem countP_set_le (counted : Key × Value → Bool) (key : Key) (value : Value)
    (entries : Dict Key Value) :
    (set key value entries).countP counted ≤
      entries.countP counted + if counted (key, value) then 1 else 0 := by
  induction entries with
  | nil => simp [set, List.countP_cons]
  | cons entry rest ih =>
    obtain ⟨held, cur⟩ := entry
    by_cases same : held = key
    · subst same
      rw [set, if_pos rfl, List.countP_cons, List.countP_cons]
      omega
    · rw [set, if_neg same, List.countP_cons, List.countP_cons]
      omega

theorem countP_without_lt {counted : Key × Value → Bool} (found : entries.lookup key = some value)
    (counts : counted (key, value) = true) :
    (entries.filter fun entry => entry.1 != key).countP counted < entries.countP counted := by
  replace found := found_of_lookup found
  induction found with
  | here rest =>
    have fewer : (rest.filter fun entry => entry.1 != key).countP counted ≤
        rest.countP counted := List.filter_sublist.countP_le
    rw [List.filter_cons_of_neg (by simp), List.countP_cons_of_pos counts]
    omega
  | later held cur rest unlike _ ih =>
    rw [List.filter_cons_of_pos (by simp [unlike]), List.countP_cons, List.countP_cons]
    omega

/-- `dict(pairs)`: the pairs are assigned one after another. -/
def ofPairs (pairs : List (Key × Value)) : Dict Key Value :=
  pairs.foldl (fun entries pair => set pair.1 pair.2 entries) []

theorem of_pairs_concat (pairs : List (Key × Value)) (key : Key) (value : Value) :
    ofPairs (pairs ++ [(key, value)]) = set key value (ofPairs pairs) := by
  rw [ofPairs, List.foldl_append]
  rfl

theorem of_pairs_of_nodup {pairs : List (Key × Value)} (distinct : (keys pairs).Nodup) :
    ofPairs pairs = pairs := by
  induction pairs using List.reverseRecOn with
  | nil => rfl
  | append_singleton past pair ih =>
    obtain ⟨key, value⟩ := pair
    rw [keys, List.map_append, List.nodup_append] at distinct
    obtain ⟨before, _, apart⟩ := distinct
    have fresh : key ∉ keys past := fun mem => apart key mem key (by simp) rfl
    rw [of_pairs_concat, ih before, set_of_fresh fresh]

theorem mem_keys_of_pairs {pairs : List (Key × Value)} (mem : key ∈ keys (ofPairs pairs)) :
    key ∈ keys pairs := by
  induction pairs using List.reverseRecOn with
  | nil => exact mem
  | append_singleton past pair ih =>
    obtain ⟨last, value⟩ := pair
    rw [of_pairs_concat, keys_set] at mem
    rw [keys, List.map_append, List.mem_append]
    split_ifs at mem
    · exact Or.inl (ih mem)
    · rcases List.mem_append.mp mem with before | new
      · exact Or.inl (ih before)
      · exact Or.inr new

end Dict

end Ois.Library
