import Mathlib.Data.List.Infix
import Ois.Library.Casing
import Ois.Library.Dict

/-!
# Markets and their keys

`market_catalog.py` of the football markets: the catalog, the keys of the providers, and
`normalize_market_key`, which takes the first market of the catalog of which some name occurs in
the text.
-/

namespace Ois.Football

open Ois.Library

structure MarketDefinition where
  key : String
  name : String
  aliases : List String := []
  deriving DecidableEq

def marketCatalog : List MarketDefinition :=
  [{ key := "1x2", name := "1X2 / Match Result"
     aliases := ["moneyline", "match winner", "winner"] },
    { key := "double_chance", name := "Double Chance" },
    { key := "draw_no_bet", name := "Draw No Bet" },
    { key := "handicap", name := "European Handicap" },
    { key := "asian_handicap", name := "Asian Handicap", aliases := ["asian spread"] },
    { key := "totals", name := "Total Goals Over/Under", aliases := ["over under", "goals o/u"] },
    { key := "team_totals", name := "Team Total Goals" },
    { key := "btts", name := "Both Teams To Score", aliases := ["gg/ng", "gg", "ng"] },
    { key := "correct_score", name := "Correct Score" },
    { key := "exact_goals", name := "Exact Match Goals" },
    { key := "halftime_1x2", name := "1st Half Result" },
    { key := "halftime_fulltime", name := "Half Time / Full Time" },
    { key := "corners", name := "Corners Over/Under" },
    { key := "corners_1x2", name := "Corners 1X2" },
    { key := "team_corners", name := "Team Corners" },
    { key := "cards", name := "Match Cards / Bookings" },
    { key := "booking_points", name := "Booking Points" },
    { key := "free_kicks", name := "Free Kicks" },
    { key := "offsides", name := "Offsides" },
    { key := "penalties", name := "Penalties" },
    { key := "goalscorer", name := "Goalscorer" },
    { key := "player_goals", name := "Player Goals" },
    { key := "player_assists", name := "Player Assists" },
    { key := "player_shots", name := "Player Shots" },
    { key := "player_shots_on_target", name := "Player Shots on Target" },
    { key := "player_passes", name := "Player Passes" },
    { key := "player_tackles", name := "Player Tackles" },
    { key := "player_cards", name := "Player Cards" },
    { key := "next_goal", name := "Next Goal" },
    { key := "next_goalscorer", name := "Next Goalscorer" },
    { key := "next_scoring_type", name := "Next Scoring Type" },
    { key := "rest_of_match", name := "Rest of Match" },
    { key := "to_qualify", name := "To Qualify" },
    { key := "outright", name := "Outright / Futures" },
    { key := "combo", name := "Combination / Bet Builder" },
    { key := "special", name := "Special / Novelty" }]

/-- `_PROVIDER_MARKET_KEYS`. -/
def providerMarketKeys : Dict String (Dict String String) :=
  [("the-odds-api",
      [("h2h", "1x2"), ("double_chance", "double_chance"), ("draw_no_bet", "draw_no_bet"),
       ("spreads", "asian_handicap"), ("alternate_spreads", "asian_handicap"),
       ("totals", "totals"), ("alternate_totals", "totals"), ("team_totals", "team_totals"),
       ("alternate_team_totals", "team_totals"), ("btts", "btts"),
       ("correct_score", "correct_score"), ("correct_score_h1", "correct_score"),
       ("corners_1x2", "corners_1x2"), ("alternate_spreads_corners", "corners"),
       ("alternate_totals_corners", "corners"),
       ("alternate_team_totals_corners", "team_corners"), ("alternate_spreads_cards", "cards"),
       ("alternate_totals_cards", "cards"), ("halftime_fulltime", "halftime_fulltime"),
       ("to_qualify", "to_qualify"), ("player_shots", "player_shots"),
       ("player_assists", "player_assists")]),
    ("sportybet", [("1", "1x2"), ("10", "double_chance"), ("11", "draw_no_bet"), ("14", "handicap"),
       ("16", "asian_handicap"), ("18", "totals"), ("29", "btts"), ("45", "correct_score"),
       ("47", "halftime_fulltime"), ("60", "halftime_1x2"), ("219", "1x2"), ("223", "handicap"),
       ("225", "totals"), ("227", "team_totals"), ("228", "team_totals")]),
    ("sportmonks", [("16", "asian_handicap")]),
    ("stake", []),
    ("bet365", [])]

variable (casing : Casing)

def keysOfProvider (provider : String) : Dict String String :=
  (providerMarketKeys.lookup (casing.lower provider)).getD []

/-- `text.replace("_", " ")`. -/
def spaced (text : String) : String :=
  String.ofList (text.toList.map fun char => if char = '_' then ' ' else char)

/-- `name in text`. -/
def occurs (name text : String) : Bool := decide (name.toList <:+: text.toList)

/-- The texts that a market is known by. -/
def MarketDefinition.names (market : MarketDefinition) : List String :=
  market.key :: market.name :: market.aliases

def MarketDefinition.occursIn (market : MarketDefinition) (haystack : String) : Bool :=
  market.names.any fun name => occurs (spaced (casing.lower name)) haystack

def haystack (providerKey description : String) : String :=
  spaced (casing.lower (providerKey ++ " " ++ description))

/-- `normalize_market_key(provider, provider_key, description)`. -/
def normalizeMarketKey (provider providerKey description : String) : Option String :=
  match (keysOfProvider casing provider).lookup providerKey with
  | some key => some key
  | none =>
    (marketCatalog.find? fun market =>
      market.occursIn casing (haystack casing providerKey description)).map (·.key)

section first

variable {Item Key : Type} [DecidableEq Key] {key : Item → Key} {items : List Item} {item : Item}
  {found : Item → Bool}

theorem first_found_iff (mem : item ∈ items) (distinct : (items.map key).Nodup)
    (present : found item = true) :
    (items.find? found).map key = some (key item) ↔
      ∀ other ∈ items.takeWhile (fun other => key other ≠ key item), found other = false := by
  induction items with
  | nil => simp at mem
  | cons head rest ih =>
    rw [List.map_cons, List.nodup_cons] at distinct
    by_cases same : key head = key item
    · have equal : item = head := by
        rcases List.mem_cons.mp mem with here | later
        · exact here
        · exact absurd (List.mem_map_of_mem later) (same ▸ distinct.1)
      rw [List.takeWhile_cons_of_neg (by simpa using same), List.find?_cons, ← equal, present]
      simp
    · have later : item ∈ rest := by
        rcases List.mem_cons.mp mem with here | later
        · exact absurd (congrArg key here).symm same
        · exact later
      rw [List.takeWhile_cons_of_pos (by simpa using same), List.forall_mem_cons, List.find?_cons]
      cases first : found head with
      | true => simp [same]
      | false => simpa using ih later distinct.2

end first

theorem spaced_append (front rest : String) :
    spaced (front ++ rest) = spaced front ++ spaced rest := by
  simp [spaced]

theorem keys_plain : ∀ market ∈ marketCatalog, ∀ char ∈ market.key.toList, char.toNat < 128 := by
  -- as a test of each list, since the deciders in Batteries would go through all characters
  have plain : (marketCatalog.all fun market =>
      market.key.toList.all fun char => char.toNat < 128) = true := by
    decide +kernel
  simpa only [List.all_eq_true, decide_eq_true_eq] using plain

theorem keys_distinct : (marketCatalog.map fun market => market.key).Nodup := by
  decide +kernel

theorem occurs_in_own {market : MarketDefinition} (listed : market ∈ marketCatalog)
    (description : String) :
    market.occursIn casing (haystack casing market.key description) = true := by
  obtain ⟨lowered, begins⟩ := casing.lower_append market.key (" " ++ description)
    (keys_plain market listed)
  have named : occurs (spaced (casing.lower market.key))
      (haystack casing market.key description) = true := by
    rw [haystack, String.append_assoc, begins, spaced_append, occurs, String.toList_append]
    simpa using (List.prefix_append _ _).isInfix
  unfold MarketDefinition.occursIn MarketDefinition.names
  rw [List.any_cons, named, Bool.true_or]

def listedBefore (market : MarketDefinition) : List MarketDefinition :=
  marketCatalog.takeWhile fun other => other.key ≠ market.key

/-- No name of a market that is listed before this one occurs in its key and the description. -/
def NoEarlierName (market : MarketDefinition) (description : String) : Prop :=
  ∀ other ∈ listedBefore market, ∀ name ∈ other.names,
    ¬(spaced (casing.lower name)).toList <:+: (haystack casing market.key description).toList

instance (market : MarketDefinition) (description : String) :
    Decidable (NoEarlierName casing market description) :=
  inferInstanceAs (Decidable (∀ other ∈ listedBefore market, ∀ name ∈ other.names, ¬_ <:+: _))

theorem occurs_in_iff (market : MarketDefinition) (text : String) :
    market.occursIn casing text = false ↔
      ∀ name ∈ market.names, ¬(spaced (casing.lower name)).toList <:+: text.toList := by
  simp [MarketDefinition.occursIn, occurs]

/-- The key of a market is its own canonical key exactly if no name of an earlier market occurs in
it and the description. -/
theorem market_key_kept_iff {market : MarketDefinition} (listed : market ∈ marketCatalog)
    (provider description : String)
    (unmapped : (keysOfProvider casing provider).lookup market.key = none) :
    normalizeMarketKey casing provider market.key description = some market.key ↔
      NoEarlierName casing market description := by
  unfold normalizeMarketKey NoEarlierName
  rw [unmapped]
  simp only [← occurs_in_iff]
  exact first_found_iff listed keys_distinct (occurs_in_own casing listed description)

/-- A provider without keys of its own keeps the market without a bet on a draw. -/
theorem draw_no_bet_kept :
    normalizeMarketKey Casing.simple "stake" "draw_no_bet" "Full time" = some "draw_no_bet" :=
  (@market_key_kept_iff Casing.simple { key := "draw_no_bet", name := "Draw No Bet" }
    (by decide) "stake" "Full time" (by decide +kernel)).mpr (by decide +kernel)

/-- The result of the corners becomes the result of the match. -/
theorem corner_result_not_kept :
    ¬∀ market ∈ marketCatalog, ∀ provider description,
      (keysOfProvider Casing.simple provider).lookup market.key = none →
      normalizeMarketKey Casing.simple provider market.key description = some market.key := by
  intro kept
  have own := kept { key := "corners_1x2", name := "Corners 1X2" } (by decide) "stake" ""
    (by decide +kernel)
  revert own
  decide +kernel

end Ois.Football
