import Ois.Library.Machine
import Ois.Library.Separator
import Ois.Library.DateTime
import Ois.Kernel.PyValues
import Ois.Library.RelatedLists

/-!
# The store of world facts

The facts of `KnowledgeWorldStore` in `knowledge_world.py`. A fact takes the next version of its
subject and predicate, and is named after the three, joined at colons.
-/

namespace Ois.Production

open Ois.Library Ois.Kernel DateTime Machine

structure WorldFact where
  factId : String
  subjectId : String
  predicate : String
  objectValue : Json
  source : String
  confidence : ℚ
  version : Nat
  observedAt : DateTime

/-- A row of `world_facts`. -/
structure FactRow where
  factId : String
  subjectId : String
  predicate : String
  objectJson : Json.Text
  source : String
  confidence : ℚ
  version : Nat
  observedAt : String

/-- The arguments of `assert_fact`, and what the clock shows. -/
structure FactCall where
  subjectId : String
  predicate : String
  objectValue : Json
  source : String
  confidence : ℚ := 1
  now : DateTime

def WorldFact.row (fact : WorldFact) : FactRow where
  factId := fact.factId
  subjectId := fact.subjectId
  predicate := fact.predicate
  objectJson := Json.dumpsSorted fact.objectValue
  source := fact.source
  confidence := fact.confidence
  version := fact.version
  observedAt := fact.observedAt.isoformat

def FactRow.read (row : FactRow) : Except PyError WorldFact :=
  match fromisoformat? row.observedAt with
  | none => .error ⟨.valueError, "Invalid isoformat string: " ++ Kernel.reprStr row.observedAt⟩
  | some observedAt => .ok
      { factId := row.factId, subjectId := row.subjectId, predicate := row.predicate
        objectValue := Json.loads row.objectJson, source := row.source
        confidence := row.confidence, version := row.version, observedAt := observedAt }

/-- `WHERE subject_id=? AND predicate=?`. -/
def FactRow.about (subjectId predicate : String) (row : FactRow) : Bool :=
  row.subjectId = subjectId ∧ row.predicate = predicate

/-- `COALESCE(MAX(version),0)` of a subject and a predicate. -/
def latestVersion (subjectId predicate : String) (rows : List FactRow) : Nat :=
  ((rows.filter (FactRow.about subjectId predicate)).map (·.version)).max?.getD 0

def factName (subjectId predicate : String) (version : Nat) : String :=
  subjectId ++ ":" ++ predicate ++ ":" ++ toString version

def FactCall.fact (call : FactCall) (version : Nat) : WorldFact where
  factId := factName call.subjectId call.predicate version
  subjectId := call.subjectId
  predicate := call.predicate
  objectValue := call.objectValue
  source := call.source
  confidence := call.confidence
  version := version
  observedAt := call.now

/-- `assert_fact(...)`. The key of the table is the name of the fact. -/
def assertFact : Machine FactCall (List FactRow) (Except PyError WorldFact) := fun call rows =>
  if call.source = "" then (rows, .error ⟨.valueError, "fact provenance source is required"⟩)
  else if ¬(0 ≤ call.confidence ∧ call.confidence ≤ 1) then
    (rows, .error ⟨.valueError, "confidence must be between 0 and 1"⟩)
  else
    let fact := call.fact (latestVersion call.subjectId call.predicate rows + 1)
    if fact.factId ∈ rows.map (·.factId) then
      (rows, .error ⟨.other "IntegrityError", "UNIQUE constraint failed: world_facts.fact_id"⟩)
    else (rows ++ [fact.row], .ok fact)

def VersionOrder (left right : FactRow) : Prop := left.version ≤ right.version

instance : DecidableRel VersionOrder := fun left right =>
  inferInstanceAs (Decidable (left.version ≤ right.version))

/-- `facts(subject_id, predicate)`. -/
def worldFacts (subjectId : String) (predicate : Option String) (rows : List FactRow) :
    Except PyError (List WorldFact) :=
  ((rows.filter fun row => row.subjectId = subjectId ∧
    ∀ wanted ∈ predicate, row.predicate = wanted).insertionSort VersionOrder).mapM FactRow.read

/-- A source is given, and the confidence is a probability. -/
def FactCall.Valid (call : FactCall) : Prop :=
  call.source ≠ "" ∧ 0 ≤ call.confidence ∧ call.confidence ≤ 1

def FactCall.about (subjectId predicate : String) (call : FactCall) : Bool :=
  call.subjectId = subjectId ∧ call.predicate = predicate

def FactCall.joined (call : FactCall) : String := call.subjectId ++ ":" ++ call.predicate

/-- No call is refused, each pair of a subject and a predicate has its versions in order, no two
facts share a name, and the values of a pair are read back in order. Dictionaries are the same
value whatever the order of their keys. -/
structure FactsKept (calls : List FactCall) : Prop where
  accepted : ∀ answer ∈ assertFact.answers calls [], answer.isOk = true
  versions : ∀ subjectId predicate,
    ((assertFact.run calls []).filter (FactRow.about subjectId predicate)).map (·.version) =
      List.range' 1 (calls.filter (FactCall.about subjectId predicate)).length
  unique : ((assertFact.run calls []).map (·.factId)).Nodup
  returned : ∀ subjectId predicate, ∃ facts,
    worldFacts subjectId (some predicate) (assertFact.run calls []) = .ok facts ∧
      facts.map (·.objectValue.sortKeys) =
        (calls.filter (FactCall.about subjectId predicate)).map (·.objectValue.sortKeys)

/-- Calls whose subject and predicate read the same have the same ones. -/
def PairsDistinct (calls : List FactCall) : Prop :=
  ∀ first ∈ calls, ∀ second ∈ calls, first.joined = second.joined →
    first.subjectId = second.subjectId ∧ first.predicate = second.predicate

structure Numbered (rows : List FactRow) : Prop where
  versions : ∀ subjectId predicate,
    (rows.filter (FactRow.about subjectId predicate)).map (·.version) =
      List.range' 1 (rows.filter (FactRow.about subjectId predicate)).length
  names : ∀ row ∈ rows, row.factId = factName row.subjectId row.predicate row.version

theorem max_range (length : Nat) : (List.range' 1 length).max?.getD 0 = length := by
  cases length with
  | zero => rfl
  | succ length =>
    have greatest : (List.range' 1 (length + 1)).max? = some (length + 1) := by
      apply List.max?_eq_some_iff.mpr
      constructor
      · exact List.mem_range'_1.mpr (by omega)
      · intro version mem
        have bounds := List.mem_range'_1.mp mem
        omega
    rw [greatest, Option.getD_some]

variable {rows : List FactRow} {calls : List FactCall}

theorem latest_version (numbered : Numbered rows) (subjectId predicate : String) :
    latestVersion subjectId predicate rows =
      (rows.filter (FactRow.about subjectId predicate)).length := by
  rw [latestVersion, numbered.versions, max_range]

theorem assert_fact_cases (call : FactCall) (rows : List FactRow) :
    ((∃ err, assertFact.answer call rows = .error err) ∧ assertFact.next call rows = rows) ∨
      ∃ fact, fact = call.fact (latestVersion call.subjectId call.predicate rows + 1) ∧
      assertFact.answer call rows = .ok fact ∧
      assertFact.next call rows = rows ++ [fact.row] := by
  unfold answer next assertFact
  dsimp only
  split_ifs
  · exact Or.inl ⟨⟨_, rfl⟩, rfl⟩
  · exact Or.inl ⟨⟨_, rfl⟩, rfl⟩
  · exact Or.inr ⟨_, rfl, rfl, rfl⟩
  · exact Or.inl ⟨⟨_, rfl⟩, rfl⟩

theorem about_row {call : FactCall} {subjectId predicate : String} {version : Nat} :
    FactRow.about subjectId predicate (call.fact version).row =
      call.about subjectId predicate := rfl

theorem numbered_concat (numbered : Numbered rows) (call : FactCall) :
    Numbered (rows ++
      [(call.fact (latestVersion call.subjectId call.predicate rows + 1)).row]) := by
  constructor
  · intro subjectId predicate
    rw [List.filter_append, List.map_append, numbered.versions, List.length_append]
    by_cases about : call.about subjectId predicate = true
    · have pair : call.subjectId = subjectId ∧ call.predicate = predicate := by
        simpa [FactCall.about] using about
      rw [List.filter_cons_of_pos (about_row.trans about), List.filter_nil,
        List.length_singleton, List.range'_1_concat, latest_version numbered, pair.1, pair.2,
        Nat.add_comm 1]
      rfl
    · rw [List.filter_cons_of_neg (by rw [about_row]; exact about)]
      simp
  · intro row mem
    cases List.mem_append.mp mem with
    | inl past => exact numbered.names row past
    | inr last =>
      rw [List.mem_singleton.mp last]
      rfl

theorem numbered_run (calls : List FactCall) : Numbered (assertFact.run calls []) := by
  apply run_invariant
  · intro call rows numbered
    cases assert_fact_cases call rows with
    | inl refused =>
      rw [refused.2]
      exact numbered
    | inr added =>
      obtain ⟨fact, same, _, next⟩ := added
      rw [next, same]
      exact numbered_concat numbered call
  · constructor
    · intro subjectId predicate
      rfl
    · intro row mem
      cases mem

theorem fact_name_inj {subjectId predicate otherId other : String} {version latest : Nat} :
    factName subjectId predicate version = factName otherId other latest ↔
      subjectId ++ ":" ++ predicate = otherId ++ ":" ++ other ∧ version = latest :=
  numbered_inj

theorem next_name_fresh (numbered : Numbered rows) {subjectId predicate : String}
    (distinct : ∀ row ∈ rows,
      row.subjectId ++ ":" ++ row.predicate = subjectId ++ ":" ++ predicate →
      row.subjectId = subjectId ∧ row.predicate = predicate) :
    factName subjectId predicate (latestVersion subjectId predicate rows + 1) ∉
      rows.map (·.factId) := by
  intro mem
  obtain ⟨row, present, name⟩ := List.mem_map.mp mem
  rw [numbered.names row present] at name
  obtain ⟨pairs, version⟩ := fact_name_inj.mp name
  have pair := distinct row present pairs
  have kept : row ∈ rows.filter (FactRow.about subjectId predicate) :=
    List.mem_filter.mpr ⟨present, decide_eq_true pair⟩
  have stored := List.mem_map_of_mem (f := (·.version)) kept
  rw [numbered.versions, List.mem_range'_1] at stored
  rw [latest_version numbered] at version
  omega

theorem assert_fact_ok {call : FactCall} (valid : call.Valid)
    (fresh : factName call.subjectId call.predicate
      (latestVersion call.subjectId call.predicate rows + 1) ∉ rows.map (·.factId)) :
    assertFact call rows =
      (rows ++ [(call.fact (latestVersion call.subjectId call.predicate rows + 1)).row],
      .ok (call.fact (latestVersion call.subjectId call.predicate rows + 1))) := by
  have probable : ¬¬(0 ≤ call.confidence ∧ call.confidence ≤ 1) := not_not.mpr valid.2
  unfold assertFact
  rw [if_neg valid.1, if_neg probable]
  exact if_neg fresh

def Asserts (call : FactCall) (fact : WorldFact) : Prop := ∃ version, fact = call.fact version

theorem facts_entered (valid : ∀ call ∈ calls, call.Valid) (distinct : PairsDistinct calls) :
    ∃ facts, List.Forall₂ Asserts calls facts ∧ assertFact.answers calls [] = facts.map .ok ∧
      assertFact.run calls [] = facts.map (·.row) ∧ (facts.map (·.factId)).Nodup := by
  induction calls using List.reverseRecOn with
  | nil => exact ⟨[], List.Forall₂.nil, rfl, rfl, List.nodup_nil⟩
  | append_singleton past call ih =>
    obtain ⟨facts, asserted, answered, stored, unique⟩ := ih
      (fun other mem => valid other (by simp [mem]))
      (fun first one second two => distinct first (by simp [one]) second (by simp [two]))
    have names : (assertFact.run past []).map (·.factId) = facts.map (·.factId) := by
      rw [stored, List.map_map]
      rfl
    have fresh : factName call.subjectId call.predicate
        (latestVersion call.subjectId call.predicate (assertFact.run past []) + 1) ∉
          (assertFact.run past []).map (·.factId) := by
      apply next_name_fresh (numbered_run past)
      intro row mem
      rw [stored] at mem
      obtain ⟨fact, present, same⟩ := List.mem_map.mp mem
      obtain ⟨first, one, version, entered⟩ := exists_of_related_right asserted present
      rw [← same, entered]
      exact distinct first (by simp [one]) call (by simp)
    have step := assert_fact_ok (valid call (by simp)) fresh
    generalize latestVersion call.subjectId call.predicate (assertFact.run past []) + 1 =
      version at fresh step
    refine ⟨facts ++ [call.fact version], related_concat asserted ⟨version, rfl⟩, ?_, ?_, ?_⟩
    · rw [answers_concat, answered, List.map_append, answer, step]
      rfl
    · rw [run_concat, next, step, stored, List.map_append]
      rfl
    · rw [names] at fresh
      rw [List.map_append]
      exact List.nodup_append.mpr ⟨unique, by simp, by
        intro name mem other last same
        rw [same, List.mem_singleton.mp last] at mem
        exact fresh mem⟩

theorem read_rows (facts : List WorldFact) :
    (facts.map (·.row)).mapM FactRow.read =
      .ok (facts.map fun fact => { fact with objectValue := fact.objectValue.sortKeys }) := by
  induction facts with
  | nil => rfl
  | cons fact rest ih =>
    have here : fact.row.read = .ok { fact with objectValue := fact.objectValue.sortKeys } := by
      unfold FactRow.read
      rw [WorldFact.row, fromisoformat_isoformat]
      rfl
    rw [List.map_cons, List.mapM_cons, here, ih]
    rfl

theorem world_facts_pair (numbered : Numbered rows) (subjectId predicate : String) :
    worldFacts subjectId (some predicate) rows =
      (rows.filter (FactRow.about subjectId predicate)).mapM FactRow.read := by
  have sorted : (rows.filter (FactRow.about subjectId predicate)).Pairwise VersionOrder := by
    have ordered : ((rows.filter (FactRow.about subjectId predicate)).map (·.version)).Pairwise
        (· ≤ ·) := by
      rw [numbered.versions]
      exact List.pairwise_le_range'
    rw [List.pairwise_map] at ordered
    exact ordered
  have kept : (fun row : FactRow => decide (row.subjectId = subjectId ∧
      ∀ wanted ∈ some predicate, row.predicate = wanted)) = FactRow.about subjectId predicate := by
    funext row
    simp [FactRow.about]
  rw [worldFacts, kept, sorted.insertionSort_eq]

theorem entered_about {facts : List WorldFact} (asserted : List.Forall₂ Asserts calls facts)
    (subjectId predicate : String) :
    List.Forall₂ Asserts (calls.filter (FactCall.about subjectId predicate))
      (facts.filter fun fact => fact.row.about subjectId predicate) := by
  apply related_filter _ asserted
  intro call fact same
  obtain ⟨version, entered⟩ := same
  rw [entered, about_row]

theorem kept_of_distinct (valid : ∀ call ∈ calls, call.Valid) (distinct : PairsDistinct calls) :
    FactsKept calls := by
  obtain ⟨facts, asserted, answered, stored, unique⟩ := facts_entered valid distinct
  have numbered := numbered_run calls
  have about (subjectId predicate : String) :
      (assertFact.run calls []).filter (FactRow.about subjectId predicate) =
        (facts.filter fun fact => fact.row.about subjectId predicate).map (·.row) := by
    rw [stored, List.filter_map]
    rfl
  constructor
  · intro answer mem
    rw [answered] at mem
    obtain ⟨fact, _, same⟩ := List.mem_map.mp mem
    rw [← same]
    rfl
  · intro subjectId predicate
    rw [numbered.versions, about, List.length_map,
      (entered_about asserted subjectId predicate).length_eq]
  · rw [stored, List.map_map]
    exact unique
  · intro subjectId predicate
    rw [world_facts_pair numbered, about, read_rows]
    refine ⟨_, rfl, ?_⟩
    rw [List.map_map]
    apply (map_eq_of_related _ (entered_about asserted subjectId predicate)).symm
    intro call fact same
    obtain ⟨version, entered⟩ := same
    rw [entered]
    simp [FactCall.fact]

theorem first_version_stored (kept : FactsKept calls) {call : FactCall} (mem : call ∈ calls) :
    ∃ row ∈ assertFact.run calls [], row.subjectId = call.subjectId ∧
      row.predicate = call.predicate ∧ row.factId = factName call.subjectId call.predicate 1 := by
  have present : call ∈ calls.filter (FactCall.about call.subjectId call.predicate) :=
    List.mem_filter.mpr ⟨mem, by simp [FactCall.about]⟩
  have positive := List.length_pos_of_mem present
  have version : 1 ∈ ((assertFact.run calls []).filter
      (FactRow.about call.subjectId call.predicate)).map (·.version) := by
    rw [kept.versions, List.mem_range'_1]
    omega
  obtain ⟨row, inside, first⟩ := List.mem_map.mp version
  obtain ⟨stored, about⟩ := List.mem_filter.mp inside
  have pair : row.subjectId = call.subjectId ∧ row.predicate = call.predicate := by
    simpa [FactRow.about] using about
  refine ⟨row, stored, pair.1, pair.2, ?_⟩
  rw [(numbered_run calls).names row stored, pair.1, pair.2, first]

/-- Valid calls keep all facts apart exactly if no two pairs of a subject and a predicate read the
same when they are joined. -/
theorem facts_kept_iff_pairs_distinct (calls : List FactCall)
    (valid : ∀ call ∈ calls, call.Valid) : FactsKept calls ↔ PairsDistinct calls := by
  constructor
  · intro kept first one second two same
    obtain ⟨row, stored, subject, predicate, name⟩ := first_version_stored kept one
    obtain ⟨other, entered, otherSubject, otherPredicate, otherName⟩ :=
      first_version_stored kept two
    have names : row.factId = other.factId := by
      rw [name, otherName]
      exact fact_name_inj.mpr ⟨same, rfl⟩
    have rows := List.inj_on_of_nodup_map kept.unique stored entered names
    rw [← subject, ← predicate, rows]
    exact ⟨otherSubject, otherPredicate⟩
  · exact kept_of_distinct valid

/-- Facts about two predicates that hold colons. The first has two versions. -/
def priceCalls : List FactCall :=
  [{ subjectId := "odds", predicate := "home:open", objectValue := .int 2
     source := "feed", now := epoch },
   { subjectId := "odds", predicate := "away:open", objectValue := .int 3
     source := "feed", now := epoch },
   { subjectId := "odds", predicate := "home:open", objectValue := .int 4
     source := "feed", now := epoch }]

theorem price_calls_kept : (∀ call ∈ priceCalls, call.Valid) ∧ FactsKept priceCalls := by
  have valid : ∀ call ∈ priceCalls, call.Valid := by
    unfold FactCall.Valid
    decide +kernel
  have distinct : PairsDistinct priceCalls := by
    unfold PairsDistinct
    decide +kernel
  exact ⟨valid, (facts_kept_iff_pairs_distinct priceCalls valid).mpr distinct⟩

/-- The second of two facts is refused, since its subject and predicate read as those of the
first. -/
def collidingCalls : List FactCall :=
  [{ subjectId := "a:b", predicate := "c", objectValue := .int 1
     source := "feed", now := epoch },
   { subjectId := "a", predicate := "b:c", objectValue := .int 2
     source := "feed", now := epoch }]

theorem colliding_calls_refused :
    (∀ call ∈ collidingCalls, call.Valid) ∧ ¬FactsKept collidingCalls := by
  constructor
  · unfold FactCall.Valid
    decide +kernel
  · intro kept
    have refused : ((assertFact.answers collidingCalls []).map (·.isOk)) = [true, false] := by
      decide +kernel
    have accepted : false ∈ (assertFact.answers collidingCalls []).map (·.isOk) := by
      rw [refused]
      simp
    obtain ⟨answer, mem, failed⟩ := List.mem_map.mp accepted
    rw [kept.accepted answer mem] at failed
    exact Bool.noConfusion failed

end Ois.Production
