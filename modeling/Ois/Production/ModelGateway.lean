import Mathlib.Data.Finset.Sort
import Mathlib.Data.Prod.Lex
import Mathlib.Algebra.Order.Ring.Rat
import Ois.Kernel.PyValues

/-!
# The gateway to registered models

`ModelGateway` of `production/model_gateway.py`, over the registry of `registries/core.py`. A
model is registered under its own identifier and version. What a number of tokens costs is a
parameter.
-/

namespace Ois.Production

open Ois.Library Ois.Kernel

structure ModelSpec (Cost : Type) where
  modelId : String
  version : String
  capabilities : Finset String := ∅
  priority : Int := 100
  costPer1kTokens : Cost
  maxTokens : Int := 8192
  healthy : Bool := true

structure ModelRequest (Cost : Type) where
  capability : String
  prompt : String
  maxTokens : Int := 2048
  budget : Option Cost := none
  preferredModel : Option String := none

def ModelSpec.key {Cost : Type} (model : ModelSpec Cost) : String × String :=
  (model.modelId, model.version)

structure ModelGateway (Cost : Type) where
  models : List (ModelSpec Cost) := []
  health : Dict (String × String) Bool := []
  named : ∀ model ∈ models, model.modelId ≠ "" ∧ model.version ≠ ""
  distinct : (models.map ModelSpec.key).Nodup

namespace ModelGateway

variable {Cost : Type} (gateway : ModelGateway Cost)

/-- `snapshot()`: the models by their keys. -/
def snapshot : List (ModelSpec Cost) :=
  gateway.models.insertionSort fun left right => toLex left.key ≤ toLex right.key

/-- `_health.get((model_id, version), False)`. -/
def isHealthy (model : ModelSpec Cost) : Bool := (gateway.health.lookup model.key).getD false

end ModelGateway

def ModelRequest.fits {Cost : Type} (req : ModelRequest Cost) (model : ModelSpec Cost) : Bool :=
  req.capability ∈ model.capabilities ∧ req.maxTokens ≤ model.maxTokens

/-- `key=lambda m: (m.priority, m.model_id, m.version)`. -/
def ModelSpec.rank {Cost : Type} (model : ModelSpec Cost) : Int ×ₗ String ×ₗ String :=
  toLex (model.priority, toLex model.key)

def RankOrder {Cost : Type} (left right : ModelSpec Cost) : Prop := left.rank ≤ right.rank

instance {Cost : Type} : DecidableRel (@RankOrder Cost) := fun left right =>
  inferInstanceAs (Decidable (left.rank ≤ right.rank))

section resolving

variable {Cost : Type} [LinearOrder Cost] (estimate : Int → Cost → Cost)

def ModelRequest.affords (req : ModelRequest Cost) (model : ModelSpec Cost) : Bool :=
  req.budget.all fun budget => estimate req.maxTokens model.costPer1kTokens ≤ budget

def ModelRequest.arrange (req : ModelRequest Cost) (candidates : List (ModelSpec Cost)) :
    List (ModelSpec Cost) :=
  match req.preferredModel with
  | none => candidates
  | some preferred =>
    if preferred = "" then candidates
    else (candidates.filter fun model => model.modelId = preferred) ++
      candidates.filter fun model => model.modelId ≠ preferred

/-- The candidates of `resolve`, as they are sorted at last. -/
def ModelGateway.candidates (gateway : ModelGateway Cost) (req : ModelRequest Cost) :
    List (ModelSpec Cost) :=
  (req.arrange (gateway.snapshot.filter fun model =>
    req.fits model && gateway.isHealthy model)).insertionSort RankOrder

def ModelGateway.higherPriorityExists (gateway : ModelGateway Cost) (req : ModelRequest Cost)
    (candidate : ModelSpec Cost) : Bool :=
  gateway.snapshot.any fun model => decide (model.modelId ≠ candidate.modelId) &&
    req.fits model && decide (model.priority < candidate.priority)

def ModelRequest.preferredMissed (req : ModelRequest Cost) (candidate : ModelSpec Cost) :
    Bool :=
  req.preferredModel.any fun preferred => candidate.modelId ≠ preferred

/-- `resolve(request)`: a model, and whether it is a fallback. -/
def ModelGateway.resolve (gateway : ModelGateway Cost) (req : ModelRequest Cost) :
    Except PyError (ModelSpec Cost × Bool) :=
  match (gateway.candidates req).find? (req.affords estimate) with
  | some candidate =>
    .ok (candidate, gateway.higherPriorityExists req candidate ||
      req.preferredMissed candidate)
  | none => .error ⟨.other "ModelGatewayError", "No healthy model satisfies capability=" ++
      Kernel.reprStr req.capability ++ " and budget"⟩

end resolving

section models

variable {Cost : Type} (gateway : ModelGateway Cost) (req : ModelRequest Cost)

def PassedOver (model : ModelSpec Cost) : Prop :=
  ∃ other ∈ gateway.models, req.fits other = true ∧ other.modelId ≠ model.modelId ∧
    other.rank < model.rank

def PreferenceMissed (model : ModelSpec Cost) : Prop :=
  ∃ preferred ∈ req.preferredModel, model.modelId ≠ preferred

variable {gateway req}

theorem rank_injective {model other : ModelSpec Cost} (same : model.rank = other.rank) :
    model.key = other.key := by
  have pairs : (model.priority, toLex model.key) = (other.priority, toLex other.key) :=
    toLex.injective same
  exact toLex.injective (Prod.mk.inj pairs).2

theorem rank_lt_iff {model other : ModelSpec Cost} (differ : other.modelId ≠ model.modelId) :
    other.rank < model.rank ↔ other.priority < model.priority ∨
      other.priority = model.priority ∧ other.modelId < model.modelId := by
  unfold ModelSpec.rank
  rw [Prod.Lex.toLex_lt_toLex]
  apply or_congr_right
  apply and_congr_right'
  rw [Prod.Lex.toLex_lt_toLex]
  constructor
  · intro either
    cases either with
    | inl less => exact less
    | inr same => exact absurd same.1 differ
  · exact Or.inl

theorem mem_arrange (models : List (ModelSpec Cost)) (model : ModelSpec Cost) :
    model ∈ req.arrange models ↔ model ∈ models := by
  unfold ModelRequest.arrange
  cases req.preferredModel with
  | none => rfl
  | some preferred =>
    by_cases unnamed : preferred = ""
    · simp [unnamed]
    · by_cases here : model.modelId = preferred <;> simp [unnamed, here]

variable (model : ModelSpec Cost)

theorem mem_snapshot : model ∈ gateway.snapshot ↔ model ∈ gateway.models :=
  (List.perm_insertionSort _ _).mem_iff

instance : IsTrans (ModelSpec Cost) RankOrder := ⟨fun _ _ _ first second => le_trans first second⟩

instance : Std.Total (α := ModelSpec Cost) RankOrder := ⟨fun _ _ => le_total _ _⟩

theorem find_sorted {Item : Type} {order : Item → Item → Prop} [Std.Refl order]
    {kept : Item → Bool} {items : List Item} (sorted : items.Pairwise order) {item other : Item}
    (found : items.find? kept = some item) (mem : other ∈ items)
    (keeps : kept other = true) : order item other := by
  induction items with
  | nil => cases mem
  | cons first rest ih =>
    rw [List.pairwise_cons] at sorted
    rw [List.find?_cons] at found
    split at found
    · cases found
      cases List.mem_cons.mp mem with
      | inl here =>
        rw [here]
        exact Std.Refl.refl _
      | inr later => exact sorted.1 other later
    · next dropped =>
        cases List.mem_cons.mp mem with
        | inl here =>
          rw [here, dropped] at keeps
          cases keeps
        | inr later => exact ih sorted.2 found later

instance : Std.Refl (α := ModelSpec Cost) RankOrder := ⟨fun _ => le_rfl⟩

theorem missed_iff : req.preferredMissed model = true ↔ PreferenceMissed req model := by
  unfold ModelRequest.preferredMissed PreferenceMissed
  cases req.preferredModel <;> simp

theorem higher_iff :
    gateway.higherPriorityExists req model = true ↔
      ∃ other ∈ gateway.models, req.fits other = true ∧ other.modelId ≠ model.modelId ∧
        other.priority < model.priority := by
  unfold ModelGateway.higherPriorityExists
  rw [List.any_eq_true]
  constructor
  · intro found
    obtain ⟨other, mem, all⟩ := found
    simp only [Bool.and_eq_true, decide_eq_true_eq] at all
    exact ⟨other, (mem_snapshot other).mp mem, all.1.2, all.1.1, all.2⟩
  · intro found
    obtain ⟨other, mem, fits, differ, higher⟩ := found
    refine ⟨other, (mem_snapshot other).mpr mem, ?_⟩
    simp [fits, differ, higher]

theorem mark_iff :
    ((gateway.higherPriorityExists req model || req.preferredMissed model) = false ↔
        ¬PassedOver gateway req model ∧ ¬PreferenceMissed req model) ↔
      (¬PreferenceMissed req model →
        (∀ other ∈ gateway.models, req.fits other = true → other.modelId ≠ model.modelId →
          model.priority ≤ other.priority) →
        ∀ other ∈ gateway.models, req.fits other = true → other.modelId ≠ model.modelId →
          other.priority = model.priority → model.modelId < other.modelId) := by
  have higher : gateway.higherPriorityExists req model = false ↔
      ∀ other ∈ gateway.models, req.fits other = true → other.modelId ≠ model.modelId →
        model.priority ≤ other.priority := by
    rw [← Bool.not_eq_true, higher_iff]
    simp
  have missed : req.preferredMissed model = false ↔ ¬PreferenceMissed req model := by
    rw [← Bool.not_eq_true, missed_iff]
  rw [Bool.or_eq_false_iff, higher, missed]
  constructor
  · intro marked unmissed none other mem fits differ same
    by_contra notLess
    have before : other.modelId < model.modelId :=
      lt_of_le_of_ne (not_lt.mp notLess) differ
    exact (marked.mp ⟨none, unmissed⟩).1
      ⟨other, mem, fits, differ, (rank_lt_iff differ).mpr (Or.inr ⟨same, before⟩)⟩
  · intro broken
    constructor
    · intro both
      refine ⟨?_, both.2⟩
      intro passed
      obtain ⟨other, mem, fits, differ, before⟩ := passed
      cases (rank_lt_iff differ).mp before with
      | inl less => exact absurd (both.1 other mem fits differ) (not_le.mpr less)
      | inr tie =>
        exact lt_asymm (broken both.2 both.1 other mem fits differ tie.1) tie.2
    · intro neither
      refine ⟨?_, neither.2⟩
      intro other mem fits differ
      by_contra notLe
      exact neither.1
        ⟨other, mem, fits, differ, (rank_lt_iff differ).mpr (Or.inl (not_le.mp notLe))⟩

end models

section resolving

variable {Cost : Type} [LinearOrder Cost] (estimate : Int → Cost → Cost)
  (gateway : ModelGateway Cost) (req : ModelRequest Cost)

/-- A registered model that is healthy, capable, large enough and within the budget. -/
structure Usable (model : ModelSpec Cost) : Prop where
  registered : model ∈ gateway.models
  fits : req.fits model = true
  healthy : gateway.isHealthy model = true
  affordable : req.affords estimate model = true

def LeastUsable (model : ModelSpec Cost) : Prop :=
  Usable estimate gateway req model ∧
    ∀ other, Usable estimate gateway req other → model.rank ≤ other.rank

/-- A usable version of the preferred model is returned, else the first usable model, an error is
raised only if there is none, and a model is no fallback exactly if nothing is passed over. -/
structure ResolvesAsAsked : Prop where
  preferred : ∀ preferred ∈ req.preferredModel,
    (∃ model, Usable estimate gateway req model ∧ model.modelId = preferred) →
      ∃ model fallback, gateway.resolve estimate req = .ok (model, fallback) ∧
        model.modelId = preferred
  least : (¬∃ preferred ∈ req.preferredModel, ∃ model,
      Usable estimate gateway req model ∧ model.modelId = preferred) →
    ∀ model fallback, gateway.resolve estimate req = .ok (model, fallback) →
      LeastUsable estimate gateway req model
  usable : ∀ model fallback, gateway.resolve estimate req = .ok (model, fallback) →
    Usable estimate gateway req model
  raises : (∃ err, gateway.resolve estimate req = .error err) →
    ¬∃ model, Usable estimate gateway req model
  fallback : ∀ model fallback, gateway.resolve estimate req = .ok (model, fallback) →
    (fallback = false ↔ ¬PassedOver gateway req model ∧ ¬PreferenceMissed req model)

/-- If a version of the preferred model is usable, one of them comes before every usable model of
another name. -/
def PreferredFirst : Prop :=
  ∀ preferred ∈ req.preferredModel,
    (∃ model, Usable estimate gateway req model ∧ model.modelId = preferred) →
      ∃ model, Usable estimate gateway req model ∧ model.modelId = preferred ∧
        ∀ other, Usable estimate gateway req other → other.modelId ≠ preferred →
          model.rank < other.rank

/-- If the first usable model is as preferred, and no other model that fits has a smaller priority,
then no other one has the same priority and a smaller name. -/
def TiesFirst : Prop :=
  ∀ model, LeastUsable estimate gateway req model → ¬PreferenceMissed req model →
    (∀ other ∈ gateway.models, req.fits other = true → other.modelId ≠ model.modelId →
      model.priority ≤ other.priority) →
    ∀ other ∈ gateway.models, req.fits other = true → other.modelId ≠ model.modelId →
      other.priority = model.priority → model.modelId < other.modelId

variable {estimate gateway req}

theorem usable_iff (model : ModelSpec Cost) :
    model ∈ gateway.candidates req ∧ req.affords estimate model = true ↔
      Usable estimate gateway req model := by
  rw [ModelGateway.candidates, List.mem_insertionSort, mem_arrange, List.mem_filter,
    mem_snapshot, Bool.and_eq_true]
  constructor
  · intro all
    exact ⟨all.1.1, all.1.2.1, all.1.2.2, all.2⟩
  · intro usable
    exact ⟨⟨usable.registered, usable.fits, usable.healthy⟩, usable.affordable⟩

theorem resolve_ok {model : ModelSpec Cost} {fallback : Bool}
    (returns : gateway.resolve estimate req = .ok (model, fallback)) :
    LeastUsable estimate gateway req model ∧
      fallback = (gateway.higherPriorityExists req model || req.preferredMissed model) := by
  unfold ModelGateway.resolve at returns
  cases found : (gateway.candidates req).find? (req.affords estimate) with
  | none =>
    rw [found] at returns
    cases returns
  | some candidate =>
    rw [found] at returns
    cases returns
    have listed := (usable_iff model).mp
      ⟨List.mem_of_find?_eq_some found, List.find?_some found⟩
    refine ⟨⟨listed, ?_⟩, rfl⟩
    intro other usable
    obtain ⟨mem, affordable⟩ := (usable_iff other).mpr usable
    exact find_sorted (List.pairwise_insertionSort RankOrder _) found mem affordable

theorem resolve_of_usable {model : ModelSpec Cost}
    (usable : Usable estimate gateway req model) :
    ∃ chosen fallback, gateway.resolve estimate req = .ok (chosen, fallback) := by
  unfold ModelGateway.resolve
  cases found : (gateway.candidates req).find? (req.affords estimate) with
  | none =>
    obtain ⟨mem, affordable⟩ := (usable_iff model).mpr usable
    exact absurd affordable (List.find?_eq_none.mp found model mem)
  | some candidate => exact ⟨candidate, _, rfl⟩

theorem least_usable_unique {model other : ModelSpec Cost}
    (one : LeastUsable estimate gateway req model)
    (two : LeastUsable estimate gateway req other) : model = other := by
  have ranks := le_antisymm (one.2 other two.1) (two.2 model one.1)
  exact List.inj_on_of_nodup_map gateway.distinct one.1.registered two.1.registered
    (rank_injective ranks)

theorem preferred_iff :
    (∀ preferred ∈ req.preferredModel,
      (∃ model, Usable estimate gateway req model ∧ model.modelId = preferred) →
        ∃ model fallback, gateway.resolve estimate req = .ok (model, fallback) ∧
          model.modelId = preferred) ↔ PreferredFirst estimate gateway req := by
  constructor
  · intro honours preferred asked some
    obtain ⟨model, fallback, returns, named⟩ := honours preferred asked some
    have least := (resolve_ok returns).1
    refine ⟨model, least.1, named, ?_⟩
    intro other usable differ
    apply lt_of_le_of_ne (least.2 other usable)
    intro same
    apply differ
    rw [← named]
    exact (congrArg Prod.fst (rank_injective same)).symm
  · intro first preferred asked some
    obtain ⟨model, usable, named, before⟩ := first preferred asked some
    obtain ⟨chosen, fallback, returns⟩ := resolve_of_usable usable
    have least := (resolve_ok returns).1
    refine ⟨chosen, fallback, returns, ?_⟩
    by_contra differ
    exact absurd (least.2 model usable) (not_le.mpr (before chosen least.1 differ))

/-- Preference and fallback are as asked exactly if a usable preferred model comes first anyway, and
no model that fits is passed over for its name alone. -/
theorem resolves_as_asked_iff (estimate : Int → Cost → Cost) (gateway : ModelGateway Cost)
    (req : ModelRequest Cost) :
    ResolvesAsAsked estimate gateway req ↔
      PreferredFirst estimate gateway req ∧ TiesFirst estimate gateway req := by
  constructor
  · intro law
    refine ⟨preferred_iff.mp law.preferred, ?_⟩
    intro model least
    obtain ⟨chosen, fallback, returns⟩ := resolve_of_usable least.1
    obtain ⟨chosenLeast, mark⟩ := resolve_ok returns
    rw [least_usable_unique least chosenLeast]
    apply (mark_iff chosen).mp
    rw [← mark]
    exact law.fallback chosen fallback returns
  · intro both
    constructor
    case preferred => exact preferred_iff.mpr both.1
    case least =>
      intro _ model fallback returns
      exact (resolve_ok returns).1
    case usable =>
      intro model fallback returns
      exact (resolve_ok returns).1.1
    case raises =>
      intro raised some
      obtain ⟨err, raises⟩ := raised
      obtain ⟨model, usable⟩ := some
      obtain ⟨chosen, fallback, returns⟩ := resolve_of_usable usable
      rw [raises] at returns
      cases returns
    case fallback =>
      intro model fallback returns
      obtain ⟨least, mark⟩ := resolve_ok returns
      rw [mark]
      exact (mark_iff model).mpr (both.2 model least)

end resolving

def generator (modelId : String) (priority : Int) : ModelSpec ℚ where
  modelId := modelId
  version := "1"
  capabilities := {"generation"}
  priority := priority
  costPer1kTokens := 0

/-- A healthy model, and the one that is preferred, of which the first has the smaller priority. -/
def twoGenerators : ModelGateway ℚ where
  models := [generator "primary" 10, generator "wanted" 20]
  health := [(("primary", "1"), true), (("wanted", "1"), true)]
  named := by decide
  distinct := by decide

/-- `request.max_tokens / 1000 * candidate.cost_per_1k_tokens`. -/
def tokenCost (tokens : Int) (rate : ℚ) : ℚ := tokens / 1000 * rate

def wantedRequest : ModelRequest ℚ where
  capability := "generation"
  prompt := "hello"
  preferredModel := some "wanted"

/-- A usable model is preferred, and another one is returned. -/
theorem preferred_model_not_returned :
    ¬ResolvesAsAsked tokenCost twoGenerators wantedRequest := by
  intro law
  have wanted : Usable tokenCost twoGenerators wantedRequest (generator "wanted" 20) := by
    constructor
    · simp [twoGenerators]
    · decide
    · decide
    · decide
  obtain ⟨model, fallback, returns, named⟩ := law.preferred "wanted" rfl ⟨_, wanted, rfl⟩
  have ret : (twoGenerators.resolve tokenCost wantedRequest).map (·.1.modelId) =
      .ok "primary" := by
    decide +kernel
  rw [returns] at ret
  have primary : model.modelId = "primary" := Except.ok.inj ret
  rw [primary] at named
  exact absurd named (by decide)

end Ois.Production
