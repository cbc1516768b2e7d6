import Mathlib
import Ois.Football.Settlement

/-!
# How the markets of one match fit together

The settlements of the selections of a match, for every score and every line: what wins, which
statuses are opposite, and what happens when the teams change places.
-/

namespace Ois.Football

open Ois.Kernel

def Selection.parts : Selection → Option (Selection × Selection)
  | homeOrDraw => some (homeWin, draw)
  | drawOrAway => some (draw, awayWin)
  | homeOrAway => some (homeWin, awayWin)
  | _ => none

def Selection.opposed : Selection → Option Selection
  | «over» => some under
  | homeOver => some homeUnder
  | awayOver => some awayUnder
  | bttsYes => some bttsNo
  | homeHandicap => some awayHandicap
  | _ => none

def Selection.mirrored : Selection → Selection
  | homeWin => awayWin
  | awayWin => homeWin
  | homeOrDraw => drawOrAway
  | drawOrAway => homeOrDraw
  | homeOver => awayOver
  | homeUnder => awayUnder
  | awayOver => homeOver
  | awayUnder => homeUnder
  | homeHandicap => awayHandicap
  | awayHandicap => homeHandicap
  | home1up => away1up
  | away1up => home1up
  | selection => selection

def OutcomeStatus.opposite : OutcomeStatus → OutcomeStatus
  | win => loss
  | loss => win
  | status => status

open OutcomeStatus

def MarketType.lined (marketType : MarketType) : Prop :=
  marketType ∈ [.totalGoals, .teamGoals, .handicap]

instance (marketType : MarketType) : Decidable marketType.lined :=
  inferInstanceAs (Decidable (marketType ∈ _))

theorem validate_contract_ok {Line : Type} {marketType : MarketType} {selection : Selection}
    {line : Option Line} (valid : validateContract marketType selection line = .ok ()) :
    selection ∈ marketType.selections ∧ (marketType.lined → line.isSome) := by
  unfold validateContract validateMarketSelection at valid
  by_cases outside : selection ∉ marketType.selections
  · rw [if_pos outside] at valid
    cases valid
  · rw [if_neg outside] at valid
    apply And.intro (not_not.mp outside)
    intro lined
    by_contra none
    have missing : line.isNone ∧ marketType ∈ [.totalGoals, .teamGoals, .handicap] := by
      exact ⟨by simpa using none, lined⟩
    simp only [bind, Except.bind, if_pos missing] at valid
    cases valid

theorem MarketEvent.line_of_lined {Line : Type} (event : MarketEvent Line)
    (lined : event.marketType.lined) : ∃ line, event.line = some line :=
  Option.isSome_iff_exists.mp ((validate_contract_ok event.valid).2 lined)

def Selection.market : Selection → MarketType
  | homeWin | draw | awayWin => .result
  | homeOrDraw | drawOrAway | homeOrAway => .doubleChance
  | «over» | under => .totalGoals
  | homeOver | homeUnder | awayOver | awayUnder => .teamGoals
  | bttsYes | bttsNo => .btts
  | homeHandicap | awayHandicap => .handicap
  | home1up | away1up => .special

theorem market_of_member {marketType : MarketType} {selection : Selection}
    (mem : selection ∈ marketType.selections) : marketType = selection.market := by
  cases marketType with
  | result | doubleChance | totalGoals | teamGoals | btts | handicap | special =>
    simp only [MarketType.selections, List.mem_cons, List.not_mem_nil, or_false] at mem
    rcases mem with rfl | rfl | rfl | rfl <;> rfl

theorem MarketEvent.market {Line : Type} (event : MarketEvent Line) :
    event.marketType = event.selection.market :=
  market_of_member (validate_contract_ok event.valid).1

section lines

variable {Line : Type} [LinearOrder Line]

theorem over_under_opposite (value line : Line) :
    overUnderStatus value line .under = (overUnderStatus value line .over).opposite := by
  unfold overUnderStatus
  by_cases same : value = line
  · rw [if_pos same, if_pos same]
    rfl
  · rw [if_neg same, if_neg same]
    by_cases above : line < value
    · simp [above, opposite]
    · simp [above, opposite]

theorem over_under_settled (value line : Line) (selection : Selection) :
    overUnderStatus value line selection ∈ [win, .loss, .push] := by
  unfold overUnderStatus
  split_ifs
  · simp
  · simp
  · simp

end lines

def marginSign (margin : Int) : Int := if 0 < margin then 1 else if margin = 0 then 0 else -1

theorem margin_sign_cases (margin : Int) :
    0 < margin ∧ marginSign margin = 1 ∨ margin = 0 ∧ marginSign margin = 0 ∨
      margin < 0 ∧ marginSign margin = -1 := by
  unfold marginSign
  split_ifs with more same
  · exact Or.inl ⟨more, rfl⟩
  · exact Or.inr (Or.inl ⟨same, rfl⟩)
  · exact Or.inr (Or.inr ⟨by omega, rfl⟩)

section events

variable {Line : Type} [Ring Line] [LinearOrder Line]

namespace MarketEvent

variable (event : MarketEvent Line) (homeGoals awayGoals : Int)

def status : Option OutcomeStatus :=
  (settleMarket event homeGoals awayGoals).toOption.map (·.status)

def Is (marketType : MarketType) (selection : Selection) : Prop :=
  event.marketType = marketType ∧ event.selection = selection

def Wins : Prop := event.status homeGoals awayGoals = some .win

instance : Decidable (event.Wins homeGoals awayGoals) :=
  inferInstanceAs (Decidable (_ = _))

def Opposes (other : MarketEvent Line) : Prop :=
  other.marketType = event.marketType ∧ event.selection.opposed = some other.selection ∧
    (event.marketType.lined → other.line =
      if event.marketType = .handicap then event.line.map (-·) else event.line)

variable {event : MarketEvent Line} {homeGoals awayGoals : Nat}

theorem settle_of_status {status : OutcomeStatus}
    (settled : settledStatus event.marketType event.selection event.line homeGoals awayGoals =
      .ok status) :
    settleMarket event homeGoals awayGoals =
      .ok ⟨event.eventId, status, some ((homeGoals + awayGoals : Int) : Line)⟩ := by
  have positive : ¬((homeGoals : Int) < 0 ∨ (awayGoals : Int) < 0) := by omega
  unfold settleMarket
  rw [if_neg positive, settled]
  rfl

theorem status_of_settled {status : OutcomeStatus}
    (settled : settledStatus event.marketType event.selection event.line homeGoals awayGoals =
      .ok status) : event.status homeGoals awayGoals = some status := by
  unfold MarketEvent.status
  rw [settle_of_status settled]
  rfl

theorem settled (event : MarketEvent Line) (homeGoals awayGoals : Nat) :
    ∃ status, settledStatus event.marketType event.selection event.line homeGoals awayGoals =
      .ok status := by
  have mem := (validate_contract_ok event.valid).1
  have lined := line_of_lined event
  generalize event.marketType = marketType at mem lined ⊢
  generalize event.selection = selection at mem ⊢
  cases marketType with
  | result | doubleChance =>
    simp only [MarketType.selections, List.mem_cons, List.not_mem_nil, or_false] at mem
    rcases mem with rfl | rfl | rfl
    · exact ⟨_, rfl⟩
    · exact ⟨_, rfl⟩
    · exact ⟨_, rfl⟩
  | totalGoals | teamGoals =>
    obtain ⟨line, there⟩ := lined (by decide)
    rw [there]
    exact ⟨_, rfl⟩
  | btts => exact ⟨_, rfl⟩
  | handicap =>
    obtain ⟨line, there⟩ := lined (by decide)
    rw [there]
    exact ⟨_, rfl⟩
  | special =>
    by_cases home : selection = .home1up
    · exact ⟨won (1 ≤ (homeGoals - awayGoals : Int)), by simp [settledStatus, home]; rfl⟩
    · exact ⟨won ((homeGoals - awayGoals : Int) ≤ -1), by simp [settledStatus, home]; rfl⟩

theorem wins_iff {marketType : MarketType} {selection : Selection} {condition : Prop}
    [Decidable condition] (is : event.Is marketType selection)
    (settled : settledStatus marketType selection event.line homeGoals awayGoals =
      .ok (won condition)) : event.Wins homeGoals awayGoals ↔ condition := by
  rw [← is.1, ← is.2] at settled
  unfold Wins
  rw [status_of_settled settled]
  unfold won
  split_ifs with holds
  · simp [holds]
  · simp [holds]

section results

variable {event : MarketEvent Line} (homeGoals awayGoals : Nat)

theorem wins_home (is : event.Is .result .homeWin) :
    event.Wins homeGoals awayGoals ↔ awayGoals < homeGoals := by
  have sign : event.Wins homeGoals awayGoals ↔ marginSign (homeGoals - awayGoals) = 1 :=
    wins_iff is rfl
  have signs := margin_sign_cases (homeGoals - awayGoals)
  rw [sign]
  omega

theorem wins_draw (is : event.Is .result .draw) :
    event.Wins homeGoals awayGoals ↔ homeGoals = awayGoals := by
  have sign : event.Wins homeGoals awayGoals ↔ marginSign (homeGoals - awayGoals) = 0 :=
    wins_iff is rfl
  have signs := margin_sign_cases (homeGoals - awayGoals)
  rw [sign]
  omega

theorem wins_away (is : event.Is .result .awayWin) :
    event.Wins homeGoals awayGoals ↔ homeGoals < awayGoals := by
  have sign : event.Wins homeGoals awayGoals ↔ marginSign (homeGoals - awayGoals) = -1 :=
    wins_iff is rfl
  have signs := margin_sign_cases (homeGoals - awayGoals)
  rw [sign]
  omega

theorem one_result {home draw away : MarketEvent Line} (isHome : home.Is .result .homeWin)
    (isDraw : draw.Is .result .draw) (isAway : away.Is .result .awayWin) :
    ([home, draw, away].filter fun event => event.Wins homeGoals awayGoals).length = 1 := by
  have homeWins := wins_home homeGoals awayGoals isHome
  have drawWins := wins_draw homeGoals awayGoals isDraw
  have awayWins := wins_away homeGoals awayGoals isAway
  rcases Nat.lt_trichotomy homeGoals awayGoals with less | same | more
  · simp [homeWins, drawWins, awayWins, less, less.ne, less.le]
  · rw [same] at homeWins drawWins awayWins ⊢
    simp [homeWins, drawWins, awayWins]
  · simp [homeWins, drawWins, awayWins, more, more.ne', more.le]

theorem double_chance {double first second : MarketEvent Line}
    (doubles : double.marketType = .doubleChance) (results : first.marketType = .result)
    (resultsToo : second.marketType = .result)
    (parts : double.selection.parts = some (first.selection, second.selection)) :
    double.Wins homeGoals awayGoals ↔
      first.Wins homeGoals awayGoals ∨ second.Wins homeGoals awayGoals := by
  cases chosen : double.selection with
  | homeOrDraw =>
    rw [chosen, Selection.parts, Option.some.injEq, Prod.mk.injEq] at parts
    rw [wins_iff ⟨doubles, chosen⟩ rfl, wins_home _ _ ⟨results, parts.1.symm⟩,
      wins_draw _ _ ⟨resultsToo, parts.2.symm⟩, decide_eq_true_iff]
    omega
  | drawOrAway =>
    rw [chosen, Selection.parts, Option.some.injEq, Prod.mk.injEq] at parts
    rw [wins_iff ⟨doubles, chosen⟩ rfl, wins_draw _ _ ⟨results, parts.1.symm⟩,
      wins_away _ _ ⟨resultsToo, parts.2.symm⟩, decide_eq_true_iff]
    omega
  | homeOrAway =>
    rw [chosen, Selection.parts, Option.some.injEq, Prod.mk.injEq] at parts
    rw [wins_iff ⟨doubles, chosen⟩ rfl, wins_home _ _ ⟨results, parts.1.symm⟩,
      wins_away _ _ ⟨resultsToo, parts.2.symm⟩, decide_eq_true_iff]
    omega
  | homeWin | draw | awayWin | «over» | under | homeOver | homeUnder | awayOver | awayUnder
  | bttsYes | bttsNo | homeHandicap | awayHandicap | home1up | away1up =>
    rw [chosen] at parts
    cases parts

end results

theorem status_of_parts {event : MarketEvent Line} {homeGoals awayGoals : Nat}
    {marketType : MarketType} {selection : Selection} {line : Option Line}
    {status : OutcomeStatus} (is : event.Is marketType selection) (there : event.line = line)
    (settled : settledStatus marketType selection line homeGoals awayGoals = .ok status) :
    event.status homeGoals awayGoals = some status := by
  apply status_of_settled
  rw [is.1, is.2, there]
  exact settled

end MarketEvent

section opposite

variable [IsStrictOrderedRing Line] {event other : MarketEvent Line} (homeGoals awayGoals : Nat)

def signStatus (adjusted : Line) : OutcomeStatus :=
  if 0 < adjusted then .win else if adjusted < 0 then .loss else .push

theorem sign_status_neg (adjusted : Line) :
    signStatus (-adjusted) = (signStatus adjusted).opposite := by
  unfold signStatus
  rcases lt_trichotomy 0 adjusted with more | same | less
  · rw [if_neg (neg_pos.not.mpr more.asymm), if_pos (neg_lt_zero.mpr more), if_pos more]
    rfl
  · rw [← same]
    simp [opposite]
  · rw [if_pos (neg_pos.mpr less), if_neg less.asymm, if_pos less]
    rfl

omit [IsStrictOrderedRing Line] in
theorem sign_settled (adjusted : Line) :
    signStatus adjusted ∈ [win, .loss, .push] := by
  unfold signStatus
  split_ifs
  · simp
  · simp
  · simp

omit [IsStrictOrderedRing Line] in
theorem lined_opposite {marketType : MarketType} {selection opposed : Selection} {value : Line}
    (is : event.Is marketType selection) (isToo : other.Is marketType opposed)
    (lined : marketType.lined) (lines : other.line = event.line)
    (above : ∀ line, settledStatus marketType selection (some line) homeGoals awayGoals =
      .ok (overUnderStatus value line .over))
    (below : ∀ line, settledStatus marketType opposed (some line) homeGoals awayGoals =
      .ok (overUnderStatus value line .under)) :
    ∃ status ∈ [win, .loss, .push], event.status homeGoals awayGoals = some status ∧
      other.status homeGoals awayGoals = some status.opposite := by
  obtain ⟨line, there⟩ := event.line_of_lined (is.1 ▸ lined)
  apply Exists.intro (overUnderStatus value line .over)
  apply And.intro (over_under_settled _ _ _)
  rw [← over_under_opposite]
  constructor
  · exact MarketEvent.status_of_parts is there (above line)
  · exact MarketEvent.status_of_parts isToo (lines.trans there) (below line)

theorem opposite_statuses (opposes : event.Opposes other) :
    ∃ status ∈ [win, .loss, .push], event.status homeGoals awayGoals = some status ∧
      other.status homeGoals awayGoals = some status.opposite := by
  obtain ⟨sameType, opposed, lines⟩ := opposes
  have market := event.market
  cases chosen : event.selection with
  | «over» | homeOver | awayOver =>
    rw [chosen] at market opposed
    rw [market] at sameType lines
    exact lined_opposite _ _ ⟨market, chosen⟩ ⟨sameType, (Option.some.inj opposed).symm⟩
      (by decide) (lines (by decide)) (fun _ => rfl) (fun _ => rfl)
  | bttsYes =>
    rw [chosen] at market opposed
    rw [market] at sameType
    have yes : event.status homeGoals awayGoals = some (won (decide
        (0 < (homeGoals : Int) ∧ 0 < (awayGoals : Int)) = true)) :=
      MarketEvent.status_of_parts ⟨market, chosen⟩ rfl rfl
    have no : other.status homeGoals awayGoals = some (won (decide
        (0 < (homeGoals : Int) ∧ 0 < (awayGoals : Int)) = false)) :=
      MarketEvent.status_of_parts ⟨sameType, (Option.some.inj opposed).symm⟩ rfl rfl
    rw [yes, no]
    cases decide (0 < (homeGoals : Int) ∧ 0 < (awayGoals : Int)) with
    | true => exact ⟨.win, by decide, rfl, rfl⟩
    | false => exact ⟨.loss, by decide, rfl, rfl⟩
  | homeHandicap =>
    rw [chosen] at market opposed
    rw [market] at sameType lines
    obtain ⟨line, there⟩ := event.line_of_lined (market ▸ by decide)
    have thereToo : other.line = some (-line) := by
      rw [lines (by decide), there]
      rfl
    apply Exists.intro (signStatus (((homeGoals - awayGoals : Int) : Line) + line))
    apply And.intro (sign_settled _)
    rw [← sign_status_neg, neg_add]
    constructor
    · exact MarketEvent.status_of_parts ⟨market, chosen⟩ there rfl
    · exact MarketEvent.status_of_parts ⟨sameType, (Option.some.inj opposed).symm⟩ thereToo rfl
  | homeWin | draw | awayWin | homeOrDraw | drawOrAway | homeOrAway | under | homeUnder
  | awayUnder | bttsNo | awayHandicap | home1up | away1up =>
    rw [chosen] at opposed
    cases opposed

end opposite

theorem won_congr {first second : Prop} [Decidable first] [Decidable second]
    (same : first ↔ second) : won first = won second := by
  unfold won
  exact if_congr same rfl rfl

theorem settled_mirrored {marketType : MarketType} {selection : Selection}
    (mem : selection ∈ marketType.selections) (line : Option Line)
    (homeGoals awayGoals : Int) :
    settledStatus marketType selection.mirrored line awayGoals homeGoals =
      settledStatus marketType selection line homeGoals awayGoals := by
  have margins :
      ((awayGoals - homeGoals : Int) : Line) = -((homeGoals - awayGoals : Int) : Line) := by
    rw [← Int.cast_neg, neg_sub]
  have totals : awayGoals + homeGoals = homeGoals + awayGoals := Int.add_comm _ _
  have scored : decide (0 < awayGoals ∧ 0 < homeGoals) = decide (0 < homeGoals ∧ 0 < awayGoals) :=
    decide_eq_decide.mpr and_comm
  have signs := margin_sign_cases (homeGoals - awayGoals)
  have mirrored := margin_sign_cases (awayGoals - homeGoals)
  obtain rfl := market_of_member mem
  cases selection with
  | homeWin =>
    have same : marginSign (awayGoals - homeGoals) = -1 ↔
        marginSign (homeGoals - awayGoals) = 1 := by omega
    exact congrArg Except.ok (won_congr same)
  | draw =>
    have same : marginSign (awayGoals - homeGoals) = 0 ↔
        marginSign (homeGoals - awayGoals) = 0 := by omega
    exact congrArg Except.ok (won_congr same)
  | awayWin =>
    have same : marginSign (awayGoals - homeGoals) = 1 ↔
        marginSign (homeGoals - awayGoals) = -1 := by omega
    exact congrArg Except.ok (won_congr same)
  | homeOrDraw | drawOrAway | homeOrAway =>
    apply congrArg Except.ok
    apply won_congr
    simp only [decide_eq_true_iff]
    omega
  | «over» | under =>
    unfold settledStatus
    dsimp only [Selection.market, Selection.mirrored]
    rw [totals]
  | homeOver | homeUnder | awayOver | awayUnder => rfl
  | bttsYes | bttsNo =>
    apply congrArg Except.ok
    apply won_congr
    rw [scored]
    rfl
  | homeHandicap =>
    cases line with
    | none => rfl
    | some line =>
      have adjusted : -((awayGoals - homeGoals : Int) : Line) + line =
          ((homeGoals - awayGoals : Int) : Line) + line := by
        rw [margins, neg_neg]
      exact congrArg Except.ok (congrArg signStatus adjusted)
  | awayHandicap =>
    cases line with
    | none => rfl
    | some line =>
      exact congrArg Except.ok (congrArg (fun m : Line => signStatus (m + line)) margins)
  | home1up | away1up =>
    apply congrArg Except.ok
    apply won_congr
    omega

end events

/-- How the settlements of a match with this score fit together. -/
structure Coherent (Line : Type) [Ring Line] [LinearOrder Line] (homeGoals awayGoals : Nat) :
    Prop where
  settles : ∀ event : MarketEvent Line, ∃ out,
    settleMarket event homeGoals awayGoals = .ok out
  result : ∀ home draw away : MarketEvent Line, home.Is .result .homeWin →
    draw.Is .result .draw → away.Is .result .awayWin →
      ([home, draw, away].filter fun event => event.Wins homeGoals awayGoals).length = 1
  doubleChance : ∀ double first second : MarketEvent Line, double.marketType = .doubleChance →
    first.marketType = .result → second.marketType = .result →
      double.selection.parts = some (first.selection, second.selection) →
        (double.Wins homeGoals awayGoals ↔
          first.Wins homeGoals awayGoals ∨ second.Wins homeGoals awayGoals)
  opposite : ∀ event other : MarketEvent Line, event.Opposes other → ∃ status ∈ [win, .loss, .push],
      event.status homeGoals awayGoals = some status ∧
        other.status homeGoals awayGoals = some status.opposite
  mirrored : ∀ event other : MarketEvent Line, other.selection = event.selection.mirrored →
    other.line = event.line → other.status awayGoals homeGoals = event.status homeGoals awayGoals

/-- The settlements of every match fit together. -/
theorem settlement_coherent {Line : Type} [Ring Line] [LinearOrder Line]
    [IsStrictOrderedRing Line] (homeGoals awayGoals : Nat) :
    Coherent Line homeGoals awayGoals := by
  constructor
  · intro event
    obtain ⟨status, settled⟩ := event.settled homeGoals awayGoals
    exact ⟨_, MarketEvent.settle_of_status settled⟩
  · intro home draw away isHome isDraw isAway
    exact MarketEvent.one_result homeGoals awayGoals isHome isDraw isAway
  · intro double first second doubles results resultsToo parts
    exact MarketEvent.double_chance homeGoals awayGoals doubles results resultsToo parts
  · intro event other opposes
    exact opposite_statuses homeGoals awayGoals opposes
  · intro event other chosen lines
    obtain ⟨status, settled⟩ := event.settled homeGoals awayGoals
    rw [MarketEvent.status_of_settled settled]
    apply MarketEvent.status_of_settled
    have swapped := settled_mirrored (validate_contract_ok event.valid).1 event.line
      homeGoals awayGoals
    have market : other.marketType = event.marketType := by
      rw [other.market, chosen, event.market]
      cases event.selection <;> rfl
    rw [market, chosen, lines, swapped]
    exact settled

theorem rational_lines_coherent : Coherent ℚ 2 1 := settlement_coherent 2 1

/-- At a whole line the bets on the line are pushed. -/
example : overUnderStatus (3 : ℚ) 3 .over = .push ∧ overUnderStatus (3 : ℚ) 3 .under = .push := by
  decide

end Ois.Football
