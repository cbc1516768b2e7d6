import Ois.Library.RelatedLists
import Ois.Football.Backtests

/-!
# Predictions do not see results

A fixture is known by its place in the list that a run is given.
-/

namespace Ois.Football

open Ois.Library Ois.Kernel TeamStrengthModel PredictionRecord

variable {Real : Type}

structure SameHeader (left right : FixtureRecord Real) : Prop where
  fixtureId : right.fixtureId = left.fixtureId
  kickoffAt : right.kickoffAt = left.kickoffAt
  homeTeamId : right.homeTeamId = left.homeTeamId
  awayTeamId : right.awayTeamId = left.awayTeamId
  completed : right.completed = left.completed

/-- Only the goals and expected goals of the fixture at `index`, and of fixtures with a
later kickoff, are replaced. -/
structure Rewrites (games rewritten : List (FixtureRecord Real)) (index : Nat)
    (target : FixtureRecord Real) : Prop where
  found : games[index]? = some target
  length : rewritten.length = games.length
  header : ∀ (place : Nat) left right, games[place]? = some left →
    rewritten[place]? = some right → SameHeader left right
  others : ∀ (place : Nat) left right, games[place]? = some left →
    rewritten[place]? = some right → place ≠ index →
    ¬target.kickoffAt.instant < left.kickoffAt.instant → right = left

def numberedTurns (kept : FixtureRecord Real → Bool) (games : List (FixtureRecord Real)) :
    List (FixtureRecord Real × Nat) :=
  (games.zipIdx.filter fun entry => kept entry.1).insertionSort
    fun left right => left.1.kickoffAt.instant ≤ right.1.kickoffAt.instant

/-- The turn of the fixture at `index`. -/
def turnOf (kept : FixtureRecord Real → Bool) (games : List (FixtureRecord Real))
    (index : Nat) : Nat :=
  ((numberedTurns kept games).map Prod.snd).idxOf index

section predictions

variable (floats : Floats Real) (now : Nat → DateTime) (games : List (FixtureRecord Real))
  (index : Nat)

/-- The prediction that `build_predictions` makes for the fixture at `index` in its turn. It is lost
if the run raises later on. -/
def originMade (hashing : OriginHashing) (version : String) : Option (PredictionRecord Real) :=
  (buildPredictions floats hashing version now games).1[turnOf (fun _ => true) games index]?

/-- The prediction that `build_predictions` returns for the fixture at `index`. -/
def originPrediction (hashing : OriginHashing) (version : String) :
    Option (PredictionRecord Real) :=
  match (buildPredictions floats hashing version now games).2 with
  | .ok res => res.predictions[turnOf (fun _ => true) games index]?
  | .error _ => none

/-- The prediction that `WalkForwardEvaluator.evaluate` makes for the fixture at `index` in its
turn. -/
def walkMade (minTrain : Int) : Option (PredictionRecord Real) :=
  let turn := turnOf FixtureRecord.completed games index
  if minTrain ≤ turn then (walkForward floats now minTrain games).1[turn - minTrain.toNat]?
  else none

/-- The prediction that `WalkForwardEvaluator.evaluate` scores for the fixture at `index`. -/
def walkPrediction (minTrain : Int) : Option (PredictionRecord Real) :=
  match (walkForward floats now minTrain games).2 with
  | .ok _ => walkMade floats now games index minTrain
  | .error _ => none

end predictions

section order

variable (kept : FixtureRecord Real → Bool) (games : List (FixtureRecord Real))

theorem filter_zip_idx_map (start : Nat) :
    ((games.zipIdx start).filter fun entry => kept entry.1).map Prod.fst =
      games.filter kept := by
  induction games generalizing start with
  | nil => rfl
  | cons fixture rest ih =>
    rw [List.zipIdx_cons, List.filter_cons, List.filter_cons]
    split_ifs with taken
    · rw [List.map_cons, ih]
    · exact ih (start + 1)

theorem numbered_turns_fixtures :
    (numberedTurns kept games).map Prod.fst =
      (games.filter kept).insertionSort fun left right =>
      left.kickoffAt.instant ≤ right.kickoffAt.instant := by
  unfold numberedTurns
  rw [← filter_zip_idx_map kept games 0]
  exact List.map_insertionSort (r := fun left right : FixtureRecord Real × Nat =>
    left.1.kickoffAt.instant ≤ right.1.kickoffAt.instant) _ _ _ (fun _ _ _ _ => Iff.rfl)

theorem numbered_turns_places : ((numberedTurns kept games).map Prod.snd).Nodup := by
  have places : ((games.zipIdx.filter fun entry => kept entry.1).map Prod.snd).Nodup := by
    apply List.Nodup.sublist (List.filter_sublist.map Prod.snd)
    rw [List.zipIdx_map_snd]
    exact List.nodup_range'
  exact ((List.perm_insertionSort _ _).map Prod.snd).nodup_iff.mpr places

theorem mem_numbered_turns (fixture : FixtureRecord Real) (index : Nat) :
    (fixture, index) ∈ numberedTurns kept games ↔
      games[index]? = some fixture ∧ kept fixture = true := by
  unfold numberedTurns
  rw [List.mem_insertionSort, List.mem_filter, List.mem_zipIdx_iff_getElem?]

theorem numbered_turns_ordered :
    (numberedTurns kept games).Pairwise fun left right =>
      left.1.kickoffAt.instant ≤ right.1.kickoffAt.instant := by
  have total : Std.Total fun left right : FixtureRecord Real × Nat =>
      left.1.kickoffAt.instant ≤ right.1.kickoffAt.instant :=
    ⟨fun left right => Int.le_total _ _⟩
  have trans : IsTrans (FixtureRecord Real × Nat) fun left right =>
      left.1.kickoffAt.instant ≤ right.1.kickoffAt.instant :=
    ⟨fun first second third => Int.le_trans⟩
  exact List.pairwise_insertionSort _ _

theorem turn_split {index : Nat} {target : FixtureRecord Real}
    (found : games[index]? = some target) (keeps : kept target = true) :
    ∃ before after, numberedTurns kept games = before ++ (target, index) :: after ∧
      before.length = turnOf kept games index ∧
      ∀ entry ∈ before, entry.2 ≠ index ∧
      entry.1.kickoffAt.instant ≤ target.kickoffAt.instant := by
  have mem := (mem_numbered_turns kept games target index).mpr ⟨found, keeps⟩
  obtain ⟨before, after, split⟩ := List.append_of_mem mem
  have places := numbered_turns_places kept games
  have ordered := numbered_turns_ordered kept games
  rw [split, List.map_append, List.map_cons] at places
  rw [split, List.pairwise_append] at ordered
  have fresh : index ∉ before.map Prod.snd := fun past =>
    (List.nodup_append.mp places).2.2 index past index List.mem_cons_self rfl
  refine ⟨before, after, split, ?_, ?_⟩
  · rw [turnOf, split, List.map_append, List.map_cons, List.idxOf_append_of_notMem fresh,
      List.idxOf_cons_self, List.length_map, Nat.add_zero]
  · intro entry past
    constructor
    · intro same
      exact fresh (same ▸ List.mem_map_of_mem past)
    · exact ordered.2.2 entry past (target, index) List.mem_cons_self

end order

section related

variable {games rewritten : List (FixtureRecord Real)} {index : Nat}
  {target : FixtureRecord Real}

structure Hidden (index : Nat) (target : FixtureRecord Real)
    (left right : FixtureRecord Real × Nat) : Prop where
  place : right.2 = left.2
  header : SameHeader left.1 right.1
  shown : left.2 ≠ index → ¬target.kickoffAt.instant < left.1.kickoffAt.instant → right.1 = left.1

theorem hidden_zip_idx (rewrites : Rewrites games rewritten index target) :
    List.Forall₂ (Hidden index target) games.zipIdx rewritten.zipIdx := by
  apply List.forall₂_of_length_eq_of_get
  · simp [rewrites.length]
  · intro place inside insideOther
    rw [List.length_zipIdx] at inside insideOther
    simp only [List.get_eq_getElem, List.getElem_zipIdx, Nat.zero_add]
    have left := List.getElem?_eq_getElem inside
    have right := List.getElem?_eq_getElem insideOther
    exact ⟨rfl, rewrites.header place _ _ left right, rewrites.others place _ _ left right⟩

theorem hidden_turns {kept : FixtureRecord Real → Bool}
    (agree : ∀ left right : FixtureRecord Real, SameHeader left right → kept right = kept left)
    (rewrites : Rewrites games rewritten index target) :
    List.Forall₂ (Hidden index target) (numberedTurns kept games)
      (numberedTurns kept rewritten) := by
  apply related_insertion_sort
  · intro left right left' right' hidden hidden'
    rw [hidden.header.kickoffAt, hidden'.header.kickoffAt]
  · exact related_filter (fun left right hidden => agree _ _ hidden.header)
      (hidden_zip_idx rewrites)

theorem same_before {kept : FixtureRecord Real → Bool}
    (agree : ∀ left right : FixtureRecord Real, SameHeader left right → kept right = kept left)
    (rewrites : Rewrites games rewritten index target) (keeps : kept target = true) :
    ∃ before replaced after later, SameHeader target replaced ∧
      (numberedTurns kept games).map Prod.fst = before ++ target :: after ∧
      (numberedTurns kept rewritten).map Prod.fst = before ++ replaced :: later ∧
      before.length = turnOf kept games index ∧
      before.length = turnOf kept rewritten index := by
  have related := hidden_turns agree rewrites
  obtain ⟨before, after, split, turn, past⟩ := turn_split kept games rewrites.found keeps
  have places : (numberedTurns kept rewritten).map Prod.snd =
      (numberedTurns kept games).map Prod.snd :=
    (map_eq_of_related (fun left right hidden => hidden.place.symm) related).symm
  have sameTurn : turnOf kept rewritten index = turnOf kept games index := by
    unfold turnOf
    rw [places]
  rw [split] at related
  obtain ⟨front, back, splitOther, frontRelated, backRelated⟩ := related_append related
  cases backRelated with
  | @cons _ other _ rest hidden restRelated =>
    have sameFront : front.map Prod.fst = before.map Prod.fst := by
      clear turn split splitOther related
      induction frontRelated with
      | nil => rfl
      | @cons left right lefts rights held _ ih =>
        have order := past left List.mem_cons_self
        rw [List.map_cons, List.map_cons, held.shown order.1 (by omega),
          ih fun entry mem => past entry (List.mem_cons_of_mem _ mem)]
    refine ⟨before.map Prod.fst, other.1, after.map Prod.fst, rest.map Prod.fst,
      hidden.header, ?_, ?_, ?_, ?_⟩
    · rw [split, List.map_append, List.map_cons]
    · rw [splitOther, List.map_append, List.map_cons, sameFront]
    · rw [List.length_map, turn]
    · rw [List.length_map, turn, sameTurn]

end related

section runs

structure PredictsBefore (turn : Nat → TeamStrengthModel Real → FixtureRecord Real → Turn Real)
    (predicts : Nat → Bool) : Prop where
  silent : ∀ n model fixture, predicts n = false → (turn n model fixture).1 = none
  speaks : ∀ n model fixture, predicts n = true →
    (turn n model fixture).1.isSome ∨ ∃ err, (turn n model fixture).2 = .error err
  blind : ∀ n model left right, predicts n = true → SameHeader left right →
    (turn n model right).1 = (turn n model left).1
  names : ∀ n model fixture pred, (turn n model fixture).1 = some pred →
    pred.fixtureId = fixture.fixtureId

variable {turn : Nat → TeamStrengthModel Real → FixtureRecord Real → Turn Real}
  {predicts : Nat → Bool}

theorem same_prediction (before : PredictsBefore turn predicts)
    {target replaced : FixtureRecord Real} (same : SameHeader target replaced)
    (past after later : List (FixtureRecord Real)) (n : Nat)
    (model : TeamStrengthModel Real) (asked : predicts (n + past.length) = true) :
    (runTurns turn n model (past ++ replaced :: later)).1[
      (List.range' n past.length).countP predicts]? =
      (runTurns turn n model (past ++ target :: after)).1[
      (List.range' n past.length).countP predicts]? := by
  induction past generalizing n model with
  | nil =>
    have blind := before.blind n model target replaced asked same
    have left := before.speaks n model target asked
    have right := before.speaks n model replaced asked
    simp only [List.nil_append, runTurns, List.length_nil, List.range'_zero, List.countP_nil]
    cases taken : turn n model target with
    | mk made ends =>
      cases takenOther : turn n model replaced with
      | mk madeOther endsOther =>
        rw [taken, takenOther] at blind
        rw [taken] at left
        rw [takenOther] at right
        simp only at blind left right
        subst blind
        cases madeOther with
        | some pred => cases ends <;> cases endsOther <;> simp
        | none =>
          cases ends with
          | ok next => simp at left
          | error err =>
            cases endsOther with
            | ok next => simp at right
            | error other => rfl
  | cons first rest ih =>
    have shifted := ih (n + 1)
    simp only [List.cons_append, runTurns, List.length_cons, List.range'_succ, List.countP_cons]
    have silent := before.silent n model first
    have speaks := before.speaks n model first
    cases taken : turn n model first with
    | mk made ends =>
      rw [taken] at silent speaks
      cases ends with
      | error err => rfl
      | ok next =>
        have tail := shifted next (by
          rw [← asked, List.length_cons]
          congr 1
          omega)
        cases asks : predicts n with
        | false =>
          have nothing : made = none := silent asks
          subst nothing
          simpa using tail
        | true =>
          have something : made.isSome := by simpa using speaks asks
          obtain ⟨pred, held⟩ := Option.isSome_iff_exists.mp something
          subst held
          simpa using tail

theorem run_names (before : PredictsBefore turn predicts) (n : Nat)
    (model : TeamStrengthModel Real) (games : List (FixtureRecord Real))
    (ended : (runTurns turn n model games).2 = .ok ()) :
    (runTurns turn n model games).1.map fixtureId =
      ((games.zipIdx n).filter fun entry => predicts entry.2).map
      fun entry => entry.1.fixtureId := by
  induction games generalizing n model with
  | nil => rfl
  | cons first rest ih =>
    have silent := before.silent n model first
    have speaks := before.speaks n model first
    have names := before.names n model first
    rw [List.zipIdx_cons, List.filter_cons]
    simp only [runTurns] at ended ⊢
    cases taken : turn n model first with
    | mk made ends =>
      rw [taken] at silent speaks names ended
      cases ends with
      | error err => simp at ended
      | ok next =>
        have tail := ih (n + 1) next ended
        cases asks : predicts n with
        | false =>
          have nothing : made = none := silent asks
          subst nothing
          simpa using tail
        | true =>
          have something : made.isSome := by simpa using speaks asks
          obtain ⟨pred, held⟩ := Option.isSome_iff_exists.mp something
          subst held
          simpa [names pred rfl] using tail

end runs

section turns

variable (floats : Floats Real) {pricing : Real → Real → Except PyError (Real × Real × Real)}

variable (version : String) (now : DateTime)
  (observe : TeamStrengthModel Real → FixtureRecord Real → Except PyError (TeamStrengthModel Real))

theorem predict_fixture_blind (model : TeamStrengthModel Real) {left right : FixtureRecord Real}
    (same : SameHeader left right) :
    predictFixture floats pricing version now model right =
      predictFixture floats pricing version now model left := by
  unfold predictFixture
  rw [same.homeTeamId, same.awayTeamId, same.fixtureId]

variable (model : TeamStrengthModel Real) (fixture : FixtureRecord Real)

theorem predict_then_first :
    (predictThen floats pricing version now observe model fixture).1 =
      (predictFixture floats pricing version now model fixture).toOption := by
  unfold predictThen
  cases predictFixture floats pricing version now model fixture <;> rfl

theorem predict_then_speaks :
    (predictThen floats pricing version now observe model fixture).1.isSome ∨
      ∃ err, (predictThen floats pricing version now observe model fixture).2 = .error err := by
  unfold predictThen
  cases predictFixture floats pricing version now model fixture with
  | error err => exact .inr ⟨err, rfl⟩
  | ok pred => exact .inl rfl

theorem predict_then_names (pred : PredictionRecord Real)
    (made : (predictThen floats pricing version now observe model fixture).1 = some pred) :
    pred.fixtureId = fixture.fixtureId := by
  rw [predict_then_first] at made
  unfold predictFixture at made
  cases home : model.snapshot floats fixture.homeTeamId with
  | error err => simp [home, bind, Except.bind, Except.toOption] at made
  | ok homeRating =>
    cases away : model.snapshot floats fixture.awayTeamId with
    | error err => simp [home, away, bind, Except.bind, Except.toOption] at made
    | ok awayRating =>
      simp only [home, away, bind, Except.bind] at made
      split at made
      · simp [Except.toOption] at made
      · simp only [pure, Except.pure, Except.toOption, Option.some.injEq] at made
        rw [← made]

theorem origin_predicts_before (now : Nat → DateTime) :
    PredictsBefore (originTurn floats version now) fun _ => true where
  silent := by
    intro n model fixture never
    cases never
  speaks := fun n model fixture _ => predict_then_speaks floats _ _ _ model fixture
  blind := by
    intro n model left right _ same
    unfold originTurn
    rw [predict_then_first, predict_then_first, predict_fixture_blind floats _ _ _ same]
  names := fun n model fixture => predict_then_names floats _ _ _ model fixture

theorem walk_predicts_before (minTrain : Int) (now : Nat → DateTime) :
    PredictsBefore (walkTurn floats minTrain now) fun n => decide (minTrain ≤ n) where
  silent := by
    intro n model fixture early
    have trains : (n : Int) < minTrain := by simpa using early
    unfold walkTurn
    rw [if_pos trains]
  speaks := by
    intro n model fixture asked
    have predicts : ¬(n : Int) < minTrain := by simpa using asked
    unfold walkTurn
    rw [if_neg predicts]
    exact predict_then_speaks floats _ _ _ model fixture
  blind := by
    intro n model left right asked same
    have predicts : ¬(n : Int) < minTrain := by simpa using asked
    unfold walkTurn
    rw [if_neg predicts, if_neg predicts, predict_then_first, predict_then_first,
      predict_fixture_blind floats _ _ _ same]
  names := by
    intro n model fixture pred made
    unfold walkTurn at made
    split_ifs at made
    exact predict_then_names floats _ _ _ model fixture pred made

end turns

section sorting

variable (kept : FixtureRecord Real → Bool) (games rewritten : List (FixtureRecord Real))

def Comparable (kickoffs : List DateTime) : Prop :=
  (∀ kickoff ∈ kickoffs, kickoff.utcoffset.isSome) ∨ ∀ kickoff ∈ kickoffs, kickoff.utcoffset.isNone

instance (kickoffs : List DateTime) : Decidable (Comparable kickoffs) :=
  inferInstanceAs (Decidable (_ ∨ _))

theorem sorted_by_kickoff_eq :
    sortedByKickoff (games.filter kept) =
      if Comparable ((games.filter kept).map FixtureRecord.kickoffAt) then
      .ok ((numberedTurns kept games).map Prod.fst)
      else .error mixedKickoffs := by
  rw [numbered_turns_fixtures]
  unfold sortedByKickoff
  congr 1
  simp only [Comparable, List.forall_mem_map, Bool.or_eq_true, List.all_eq_true]

variable {kept games rewritten} {index : Nat} {target : FixtureRecord Real}

theorem same_kickoffs
    (agree : ∀ left right : FixtureRecord Real, SameHeader left right → kept right = kept left)
    (rewrites : Rewrites games rewritten index target) :
    (rewritten.filter kept).map FixtureRecord.kickoffAt =
      (games.filter kept).map FixtureRecord.kickoffAt := by
  have related : List.Forall₂ (Hidden index target)
      (games.zipIdx.filter fun entry => kept entry.1)
      (rewritten.zipIdx.filter fun entry => kept entry.1) :=
    related_filter (fun left right hidden => agree _ _ hidden.header) (hidden_zip_idx rewrites)
  have kickoffs : (games.zipIdx.filter fun entry => kept entry.1).map
        (fun entry => entry.1.kickoffAt) =
      (rewritten.zipIdx.filter fun entry => kept entry.1).map fun entry => entry.1.kickoffAt :=
    map_eq_of_related (fun left right hidden => hidden.header.kickoffAt.symm) related
  rw [← filter_zip_idx_map kept games 0, ← filter_zip_idx_map kept rewritten 0,
    List.map_map, List.map_map]
  exact kickoffs.symm

theorem sorted_cases (kept : FixtureRecord Real → Bool)
    (agree : ∀ left right : FixtureRecord Real, SameHeader left right → kept right = kept left)
    (rewrites : Rewrites games rewritten index target) (keeps : kept target = true) :
    (sortedByKickoff (games.filter kept) = .error mixedKickoffs ∧
      sortedByKickoff (rewritten.filter kept) = .error mixedKickoffs) ∨
    ∃ before replaced after later, SameHeader target replaced ∧
      sortedByKickoff (games.filter kept) = .ok (before ++ target :: after) ∧
      sortedByKickoff (rewritten.filter kept) = .ok (before ++ replaced :: later) ∧
      after.length = later.length ∧
      before.length = turnOf kept games index ∧
      before.length = turnOf kept rewritten index := by
  have lengths := (hidden_turns agree rewrites).length_eq
  obtain ⟨before, replaced, after, later, same, split, splitOther, turn, turnOther⟩ :=
    same_before agree rewrites keeps
  rw [sorted_by_kickoff_eq, sorted_by_kickoff_eq, same_kickoffs agree rewrites, split, splitOther]
  by_cases comparable : Comparable ((games.filter kept).map FixtureRecord.kickoffAt)
  · right
    rw [if_pos comparable, if_pos comparable]
    refine ⟨before, replaced, after, later, same, rfl, rfl, ?_, turn, turnOther⟩
    have left := congrArg List.length split
    have right := congrArg List.length splitOther
    simp only [List.length_map, List.length_append, List.length_cons] at left right
    omega
  · left
    rw [if_neg comparable, if_neg comparable]
    exact ⟨rfl, rfl⟩

end sorting

section leakage

variable (floats : Floats Real) (now : Nat → DateTime)
  {games rewritten : List (FixtureRecord Real)} {index : Nat} {target : FixtureRecord Real}

theorem origin_made_same (hashing : OriginHashing) (version : String)
    (rewrites : Rewrites games rewritten index target) :
    originMade floats now rewritten index hashing version =
      originMade floats now games index hashing version := by
  have sorted := sorted_cases (fun _ => true) (fun _ _ _ => rfl) rewrites rfl
  unfold originMade buildPredictions
  rw [List.filter_true, List.filter_true] at sorted
  cases sorted with
  | inl mixed =>
    rw [mixed.1, mixed.2]
    simp
  | inr taken =>
    obtain ⟨before, replaced, after, later, same, left, right, _, turn, turnOther⟩ := taken
    rw [left, right, ← turn, ← turnOther]
    have predicted := same_prediction (origin_predicts_before floats version now) same before
      after later 0 (initial floats) rfl
    simpa using predicted

variable (minTrain : Int)

theorem count_from (turn : Nat) (reached : minTrain ≤ turn) :
    (List.range' 0 turn).countP (fun n : Nat => decide (minTrain ≤ (n : Int))) =
      turn - minTrain.toNat := by
  induction turn with
  | zero => simp
  | succ turn ih =>
    rw [List.range'_concat, List.countP_append]
    by_cases past : minTrain ≤ (turn : Int)
    · rw [ih past]
      simp [past]
      omega
    · have none : (List.range' 0 turn).countP
          (fun n : Nat => decide (minTrain ≤ (n : Int))) = 0 := by
        rw [List.countP_eq_zero]
        intro n mem
        have bound := (List.mem_range'_1.mp mem).2
        simp
        omega
      rw [none]
      simp [past]
      omega

theorem walk_made_same (rewrites : Rewrites games rewritten index target)
    (completed : target.completed = true) :
    walkMade floats now rewritten index minTrain =
      walkMade floats now games index minTrain := by
  have sorted := sorted_cases FixtureRecord.completed
    (fun _ _ same => same.completed) rewrites completed
  unfold walkMade walkForward
  cases sorted with
  | inl mixed =>
    rw [mixed.1, mixed.2]
    simp
  | inr taken =>
    obtain ⟨before, replaced, after, later, same, left, right, lengths, turn, turnOther⟩ := taken
    rw [left, right, ← turn, ← turnOther]
    simp only [List.length_append, List.length_cons, lengths]
    by_cases asked : minTrain ≤ (before.length : Int)
    · rw [if_pos asked, if_pos asked]
      have predicted := same_prediction (walk_predicts_before floats minTrain now) same before
        after later 0 (initial floats) (by simpa using asked)
      rw [count_from minTrain before.length asked] at predicted
      split_ifs
      · rfl
      · exact predicted
    · rw [if_neg asked, if_neg asked]

theorem zip_idx_from (games : List (FixtureRecord Real)) (start : Nat) :
    (((games.zipIdx start).filter fun entry => decide (minTrain ≤ (entry.2 : Int))).map
      fun entry => entry.1.fixtureId) =
      (games.drop (minTrain - start).toNat).map FixtureRecord.fixtureId := by
  induction games generalizing start with
  | nil => simp
  | cons first rest ih =>
    rw [List.zipIdx_cons, List.filter_cons]
    by_cases reached : minTrain ≤ (start : Int)
    · have now : (minTrain - start).toNat = 0 := by omega
      have next : (minTrain - ((start + 1 : Nat) : Int)).toNat = 0 := by omega
      have tail := ih (start + 1)
      rw [next, List.drop_zero] at tail
      rw [if_pos (by simpa using reached), now, List.drop_zero, List.map_cons, List.map_cons, tail]
    · have next : (minTrain - start).toNat =
          (minTrain - ((start + 1 : Nat) : Int)).toNat + 1 := by omega
      rw [if_neg (by simpa using reached), ih (start + 1), next, List.drop_succ_cons]

theorem origin_names (hashing : OriginHashing) (version : String)
    (games : List (FixtureRecord Real)) (res : FootballRunResult Real)
    (ret : (buildPredictions floats hashing version now games).2 = .ok res) :
    ∃ ordered, sortedByKickoff games = .ok ordered ∧
      res.predictions = (buildPredictions floats hashing version now games).1 ∧
      res.predictions.map fixtureId =
      ordered.map FixtureRecord.fixtureId := by
  unfold buildPredictions at ret ⊢
  cases sorted : sortedByKickoff games with
  | error err => simp [sorted] at ret
  | ok ordered =>
    simp only [sorted] at ret ⊢
    cases ended : (runTurns (originTurn floats version now) 0 (initial floats) ordered).2 with
    | error err => simp [ended, Except.map] at ret
    | ok done =>
      simp only [ended, Except.map, Except.ok.injEq] at ret
      have names := run_names (origin_predicts_before floats version now) 0
        (initial floats) ordered ended
      refine ⟨ordered, rfl, by rw [← ret], ?_⟩
      rw [← ret, names]
      simp only [List.filter_true]
      rw [← Function.comp_def FixtureRecord.fixtureId Prod.fst, ← List.map_map, List.zipIdx_map_fst]

theorem walk_names (games : List (FixtureRecord Real)) (report : BacktestReport Real)
    (ret : (walkForward floats now minTrain games).2 = .ok report) :
    ∃ ordered, sortedByKickoff (games.filter FixtureRecord.completed) = .ok ordered ∧
      (walkForward floats now minTrain games).1.map fixtureId =
      (ordered.drop minTrain.toNat).map FixtureRecord.fixtureId := by
  unfold walkForward at ret ⊢
  cases sorted : sortedByKickoff (games.filter FixtureRecord.completed) with
  | error err => simp [sorted] at ret
  | ok ordered =>
    refine ⟨ordered, rfl, ?_⟩
    simp only [sorted] at ret ⊢
    by_cases few : (ordered.length : Int) ≤ minTrain
    · rw [if_pos few, List.drop_eq_nil_of_le (by omega)]
      rfl
    · rw [if_neg few] at ret ⊢
      cases ended : (runTurns (walkTurn floats minTrain now) 0 (initial floats) ordered).2 with
      | error err => simp [ended, bind, Except.bind] at ret
      | ok done =>
        have names := run_names (walk_predicts_before floats minTrain now) 0
          (initial floats) ordered ended
        have taken := zip_idx_from minTrain ordered 0
        simp only [Nat.cast_zero, Int.sub_zero] at taken
        rw [names, taken]

end leakage

section claims

variable (floats : Floats Real) (now : Nat → DateTime) (hashing : OriginHashing)
  (version : String) (minTrain : Int) (games : List (FixtureRecord Real))

/-- What the runs over a list of fixtures promise. Later results decide nothing but whether a run
raises after the turn of a fixture. -/
structure NoTargetLeakage : Prop where
  originMade : ∀ rewritten index target, Rewrites games rewritten index target →
    originMade floats now rewritten index hashing version =
      originMade floats now games index hashing version
  origin : ∀ rewritten index target, Rewrites games rewritten index target →
    (buildPredictions floats hashing version now games).2.isOk = true →
      (buildPredictions floats hashing version now rewritten).2.isOk = true →
        originPrediction floats now rewritten index hashing version =
          originPrediction floats now games index hashing version
  walkMade : ∀ rewritten index target, Rewrites games rewritten index target →
    target.completed = true → walkMade floats now rewritten index minTrain =
      walkMade floats now games index minTrain
  walk : ∀ rewritten index target, Rewrites games rewritten index target →
    target.completed = true → (walkForward floats now minTrain games).2.isOk = true →
      (walkForward floats now minTrain rewritten).2.isOk = true →
        walkPrediction floats now rewritten index minTrain =
          walkPrediction floats now games index minTrain
  turns : ∀ kept ordered, sortedByKickoff (games.filter kept) = .ok ordered →
    ordered.Perm (games.filter kept) ∧
      (ordered.Pairwise fun left right => left.kickoffAt.instant ≤ right.kickoffAt.instant) ∧
      ∀ index target, games[index]? = some target → kept target = true →
        ordered[turnOf kept games index]? = some target
  once : ∀ res, (buildPredictions floats hashing version now games).2 = .ok res →
    ∃ ordered, sortedByKickoff games = .ok ordered ∧
      res.predictions = (buildPredictions floats hashing version now games).1 ∧
      res.predictions.map fixtureId = ordered.map FixtureRecord.fixtureId
  walkOnce : ∀ report, (walkForward floats now minTrain games).2 = .ok report →
    ∃ ordered, sortedByKickoff (games.filter FixtureRecord.completed) = .ok ordered ∧
      (walkForward floats now minTrain games).1.map fixtureId =
        (ordered.drop minTrain.toNat).map FixtureRecord.fixtureId

theorem origin_returned (index : Nat)
    (ret : (buildPredictions floats hashing version now games).2.isOk = true) :
    originPrediction floats now games index hashing version =
      originMade floats now games index hashing version := by
  unfold originPrediction originMade
  cases ended : (buildPredictions floats hashing version now games).2 with
  | error err =>
    rw [ended] at ret
    cases ret
  | ok res =>
    obtain ⟨_, _, same, _⟩ := origin_names floats now hashing version games res ended
    simp only [same]

theorem walk_returned (index : Nat)
    (ret : (walkForward floats now minTrain games).2.isOk = true) :
    walkPrediction floats now games index minTrain =
      walkMade floats now games index minTrain := by
  unfold walkPrediction
  cases ended : (walkForward floats now minTrain games).2 with
  | error err =>
    rw [ended] at ret
    cases ret
  | ok report => rfl

theorem turn_taken (kept : FixtureRecord Real → Bool) (ordered : List (FixtureRecord Real))
    (sorted : sortedByKickoff (games.filter kept) = .ok ordered) :
    ordered = (numberedTurns kept games).map Prod.fst := by
  rw [sorted_by_kickoff_eq] at sorted
  split_ifs at sorted
  exact (Except.ok.inj sorted).symm

theorem no_target_leakage : NoTargetLeakage floats now hashing version minTrain games where
  originMade := fun _ _ _ rewrites => origin_made_same floats now hashing version rewrites
  origin := by
    intro rewritten index target rewrites ret returns
    rw [origin_returned _ _ _ _ _ _ ret, origin_returned _ _ _ _ _ _ returns]
    exact origin_made_same floats now hashing version rewrites
  walkMade := fun _ _ _ rewrites completed =>
    walk_made_same floats now minTrain rewrites completed
  walk := by
    intro rewritten index target rewrites completed ret returns
    rw [walk_returned _ _ _ _ _ ret, walk_returned _ _ _ _ _ returns]
    exact walk_made_same floats now minTrain rewrites completed
  turns := by
    intro kept ordered sorted
    have taken := turn_taken games kept ordered sorted
    refine ⟨?_, ?_, ?_⟩
    · rw [taken, numbered_turns_fixtures]
      exact List.perm_insertionSort _ _
    · rw [taken, List.pairwise_map]
      exact numbered_turns_ordered kept games
    · intro index target found keeps
      obtain ⟨before, after, split, turn, _⟩ := turn_split kept games found keeps
      rw [taken, split, ← turn, List.map_append, List.map_cons,
        List.getElem?_append_right (by simp)]
      simp
  once := origin_names floats now hashing version games
  walkOnce := walk_names floats now minTrain games

end claims

section overflow

/-- `float(number)`. -/
def floatOfInt (n : Int) : Except PyError ℚ :=
  if n.natAbs < 2 ^ 1024 then .ok n
  else .error ⟨.other "OverflowError", "int too large to convert to float"⟩

def limitedFloats : Floats ℚ := { seriesFloats with ofInt := floatOfInt }

def wonBy (homeGoals : Int) : FixtureRecord ℚ :=
  { fixtureId := "m1", kickoffAt := .epoch, homeTeamId := "a", awayTeamId := "b"
    homeGoals := some homeGoals, awayGoals := some 0 }

/-- With another score of the fixture the run raises after its turn and returns no prediction. -/
theorem huge_score_loses_prediction :
    Rewrites [wonBy 1] [wonBy (10 ^ 400)] 0 (wonBy 1) ∧
      (originPrediction limitedFloats (fun _ => .epoch) [wonBy (10 ^ 400)] 0
        ⟨fun _ => "", fun _ => ""⟩ "v1").isSome = false ∧
      (originPrediction limitedFloats (fun _ => .epoch) [wonBy 1] 0
        ⟨fun _ => "", fun _ => ""⟩ "v1").isSome = true := by
  refine ⟨⟨rfl, rfl, ?_, ?_⟩, by decide +kernel, by decide +kernel⟩
  · intro place left right found there
    cases place with
    | succ place => simp at found
    | zero =>
      cases found
      cases there
      exact ⟨rfl, rfl, rfl, rfl, rfl⟩
  · intro place left right found _ other
    cases place with
    | succ place => simp at found
    | zero => exact absurd rfl other

end overflow

end Ois.Football
