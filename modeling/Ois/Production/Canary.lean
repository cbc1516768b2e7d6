import Ois.Production.Deployments

/-!
# The canary controller

`CanaryController` of `production/governance.py`: a rollout sends a part of the subjects to its
candidate, by the bucket of their digest, and is decided by measured rates.
-/

namespace Ois.Production

open Ois.Kernel Ois.Library Machine Dict

inductive CanaryState where
  | canary | promoted | rolledBack
  deriving DecidableEq, Repr

structure RolloutState where
  stable : String
  candidate : String
  percentage : Int
  state : CanaryState
  deriving DecidableEq, Repr

open RolloutState

def wrongPercentage : PyError := governanceError "canary percentage must be between 1 and 100"

def unapprovedTransition : PyError := governanceError "canary transition requires approval"

def unknownRollout (rolloutId : String) : PyError :=
  ⟨.other "KeyError", Kernel.reprStr rolloutId⟩

structure CanaryMeasurement (Rate : Type) where
  successRate : Rate
  latencyRatio : Rate
  minSuccessRate : Rate
  maxLatencyRatio : Rate

inductive CanaryCall (Rate : Type) where
  | start (rolloutId stable candidate : String) (percentage : Int)
  | assign (rolloutId subject : String)
  | decide (rolloutId : String) (measurement : CanaryMeasurement Rate) (approvedBy : Option String)
  | state (rolloutId : String)

inductive CanaryAnswer where
  | started
  | assigned (version : String)
  | decided (state : CanaryState)
  | stated (state : CanaryState)
  deriving DecidableEq, Repr

abbrev CanaryController := Dict String RolloutState

section ctl

variable {Rate : Type} [LE Rate] [DecidableLE Rate] (digest : String → Nat)

def bucket (subject : String) : Nat := digest subject % 100

def RolloutState.assign (rollout : RolloutState) (subject : String) : String :=
  if (bucket digest subject : Int) < rollout.percentage then rollout.candidate else rollout.stable

def CanaryMeasurement.outcome (measurement : CanaryMeasurement Rate) : CanaryState :=
  if measurement.minSuccessRate ≤ measurement.successRate ∧
      measurement.latencyRatio ≤ measurement.maxLatencyRatio then .promoted
  else .rolledBack

namespace CanaryController

variable (rollouts : CanaryController)

def start (rolloutId stable candidate : String) (percentage : Int) :
    CanaryController × Except PyError CanaryAnswer :=
  if ¬(1 ≤ percentage ∧ percentage ≤ 100) then (rollouts, .error wrongPercentage)
  else (set rolloutId ⟨stable, candidate, percentage, .canary⟩ rollouts, .ok .started)

def assign (rolloutId subject : String) : Except PyError CanaryAnswer :=
  match rollouts.lookup rolloutId with
  | none => .error (unknownRollout rolloutId)
  | some rollout => .ok (.assigned (rollout.assign digest subject))

def decide (rolloutId : String) (measurement : CanaryMeasurement Rate)
    (approvedBy : Option String) : CanaryController × Except PyError CanaryAnswer :=
  match rollouts.lookup rolloutId with
  | none => (rollouts, .error (unknownRollout rolloutId))
  | some rollout =>
    if ¬Approved approvedBy then (rollouts, .error unapprovedTransition)
    else (set rolloutId { rollout with state := measurement.outcome } rollouts,
      .ok (.decided measurement.outcome))

def state (rolloutId : String) : Except PyError CanaryAnswer :=
  match rollouts.lookup rolloutId with
  | none => .error (unknownRollout rolloutId)
  | some rollout => .ok (.stated rollout.state)

end CanaryController

def canaries : Machine (CanaryCall Rate) CanaryController (Except PyError CanaryAnswer)
  | .start rolloutId stable candidate percentage, rollouts =>
    rollouts.start rolloutId stable candidate percentage
  | .assign rolloutId subject, rollouts => (rollouts, rollouts.assign digest rolloutId subject)
  | .decide rolloutId measurement approvedBy, rollouts =>
    rollouts.decide rolloutId measurement approvedBy
  | .state rolloutId, rollouts => (rollouts, rollouts.state rolloutId)

def standsAs (call : CanaryCall Rate) (rollouts : CanaryController) :
    Option (String × CanaryState) :=
  match call, (canaries digest).answer call rollouts with
  | .start rolloutId _ _ _, .ok _ => some (rolloutId, .canary)
  | .decide rolloutId _ _, .ok (.decided state) => some (rolloutId, state)
  | _, _ => none

def standing (calls : List (CanaryCall Rate)) (rolloutId : String) : Option CanaryState :=
  (((canaries digest).log (standsAs digest) calls []).filter (·.1 = rolloutId)).getLast?.map
    Prod.snd

def rolloutsAfter (calls : List (CanaryCall Rate)) : CanaryController :=
  (canaries digest).run calls []

def versionAfter (calls : List (CanaryCall Rate)) (rolloutId subject : String) :
    Except PyError CanaryAnswer :=
  (canaries digest).answer (.assign rolloutId subject : CanaryCall Rate)
    (rolloutsAfter digest calls)

structure CanaryKept (calls : List (CanaryCall Rate)) : Prop where
  rolledBack : ∀ rolloutId, standing digest calls rolloutId = some .rolledBack →
    ∃ rollout ∈ (rolloutsAfter digest calls).lookup rolloutId, ∀ subject,
      versionAfter digest calls rolloutId subject = .ok (.assigned rollout.stable)
  promoted : ∀ rolloutId, standing digest calls rolloutId = some .promoted →
    ∃ rollout ∈ (rolloutsAfter digest calls).lookup rolloutId, ∀ subject,
      versionAfter digest calls rolloutId subject = .ok (.assigned rollout.candidate)
  steady : ∀ rolloutId subject more, standing digest calls rolloutId = some .canary →
    (∀ stable candidate percentage, .start rolloutId stable candidate percentage ∉ more) →
      standing digest (calls ++ more) rolloutId = some .canary →
        versionAfter digest (calls ++ more) rolloutId subject =
          versionAfter digest calls rolloutId subject
  raised : ∀ rolloutId subject, standing digest calls rolloutId = some .canary →
    ∀ rollout ∈ (rolloutsAfter digest calls).lookup rolloutId,
      versionAfter digest calls rolloutId subject = .ok (.assigned rollout.candidate) →
        ∀ percentage, rollout.percentage ≤ percentage → versionAfter digest
              (calls ++ [.start rolloutId rollout.stable rollout.candidate percentage])
              rolloutId subject =
            .ok (.assigned rollout.candidate)

/-- A decision that rolls back finds no subject on another version than the stable one, and a
decision that promotes none on another than the candidate. -/
def Settling : CanaryCall Rate → CanaryController → Prop
  | .decide rolloutId measurement approvedBy, rollouts => ∀ rollout ∈ rollouts.lookup rolloutId,
      Approved approvedBy → rollout.candidate = rollout.stable ∨ match measurement.outcome with
        | .promoted => ∀ subject, (bucket digest subject : Int) < rollout.percentage
        | _ => ∀ subject, rollout.percentage ≤ bucket digest subject
  | _, _ => True

def saidOf (call : CanaryCall Rate) (rollouts : CanaryController) (rolloutId : String) :
    Option CanaryState :=
  ((standsAs digest call rollouts).filter (·.1 = rolloutId)).map Prod.snd

variable {digest}

theorem version_after (calls : List (CanaryCall Rate)) (rolloutId subject : String) :
    versionAfter digest calls rolloutId subject =
      (rolloutsAfter digest calls).assign digest rolloutId subject := rfl

variable {calls : List (CanaryCall Rate)} {rolloutId : String} {rollout : RolloutState}

theorem version_of_lookup (found : (rolloutsAfter digest calls).lookup rolloutId = some rollout)
    (subject : String) :
    versionAfter digest calls rolloutId subject =
      .ok (.assigned (rollout.assign digest subject)) := by
  rw [version_after, CanaryController.assign, found]

inductive RolloutMoves (call : CanaryCall Rate) (rolloutId : String)
    (before : Option RolloutState) : Option RolloutState → Option CanaryState → Prop
  | keeps : RolloutMoves call rolloutId before before none
  | starts (stable candidate : String) (percentage : Int)
      (same : call = .start rolloutId stable candidate percentage)
      (bounded : 1 ≤ percentage ∧ percentage ≤ 100) :
      RolloutMoves call rolloutId before (some ⟨stable, candidate, percentage, .canary⟩)
        (some .canary)
  | decides (rollout : RolloutState) (measurement : CanaryMeasurement Rate)
      (approvedBy : Option String) (same : call = .decide rolloutId measurement approvedBy)
      (found : before = some rollout) (approved : Approved approvedBy) :
      RolloutMoves call rolloutId before (some { rollout with state := measurement.outcome })
        (some measurement.outcome)

variable {call : CanaryCall Rate} {rollouts : CanaryController}

theorem refused_moves {err : PyError}
    (runs : canaries digest call rollouts = (rollouts, .error err)) (rolloutId : String) :
    RolloutMoves call rolloutId (rollouts.lookup rolloutId)
      (((canaries digest).next call rollouts).lookup rolloutId)
      (saidOf digest call rollouts rolloutId) := by
  have same : (canaries digest).next call rollouts = rollouts := congrArg Prod.fst runs
  have refuses : (canaries digest).answer call rollouts = .error err := congrArg Prod.snd runs
  have silent : standsAs digest call rollouts = none := by
    unfold standsAs
    rw [refuses]
    cases call with
    | start | assign | state | decide => rfl
  unfold saidOf
  rw [same, silent]
  exact .keeps

theorem filed_moves {filed : String} {rollout : RolloutState} {answer : Except PyError CanaryAnswer}
    (runs : canaries digest call rollouts = (set filed rollout rollouts, answer))
    (stands : standsAs digest call rollouts = some (filed, rollout.state))
    (moves : RolloutMoves call filed (rollouts.lookup filed) (some rollout) (some rollout.state))
    (rolloutId : String) :
    RolloutMoves call rolloutId (rollouts.lookup rolloutId)
      (((canaries digest).next call rollouts).lookup rolloutId)
      (saidOf digest call rollouts rolloutId) := by
  have files : (canaries digest).next call rollouts = set filed rollout rollouts :=
    congrArg Prod.fst runs
  unfold saidOf
  rw [files, stands, lookup_set]
  by_cases same : rolloutId = filed
  · rw [if_pos same, Option.filter_some, if_pos (decide_eq_true same.symm), same]
    exact moves
  · rw [if_neg same, Option.filter_some, if_neg (by simpa using fun equal => same equal.symm)]
    exact .keeps

variable (digest) in
theorem rollout_moves (call : CanaryCall Rate) (rollouts : CanaryController) (rolloutId : String) :
    RolloutMoves call rolloutId (rollouts.lookup rolloutId)
      (((canaries digest).next call rollouts).lookup rolloutId)
      (saidOf digest call rollouts rolloutId) := by
  cases call with
  | start other stable candidate percentage =>
    by_cases bounded : 1 ≤ percentage ∧ percentage ≤ 100
    · have runs : canaries digest (.start other stable candidate percentage : CanaryCall Rate)
          rollouts = (set other ⟨stable, candidate, percentage, .canary⟩ rollouts,
            .ok .started) := if_neg (not_not.mpr bounded)
      apply filed_moves runs
      · unfold standsAs answer
        rw [runs]
      · exact .starts stable candidate percentage rfl bounded
    · have runs : canaries digest (.start other stable candidate percentage : CanaryCall Rate)
          rollouts = (rollouts, .error wrongPercentage) := if_pos bounded
      exact refused_moves runs rolloutId
  | assign | state => exact .keeps
  | decide other measurement approvedBy =>
    cases found : rollouts.lookup other with
    | none =>
      have runs : canaries digest (.decide other measurement approvedBy) rollouts =
          (rollouts, .error (unknownRollout other)) := by
        rw [canaries, CanaryController.decide, found]
      exact refused_moves runs rolloutId
    | some rollout =>
      by_cases approved : Approved approvedBy
      · have runs : canaries digest (.decide other measurement approvedBy) rollouts =
            (set other { rollout with state := measurement.outcome } rollouts,
              .ok (.decided measurement.outcome)) := by
          rw [canaries, CanaryController.decide, found]
          exact if_neg (not_not.mpr approved)
        apply filed_moves runs
        · unfold standsAs answer
          rw [runs]
        · exact .decides rollout measurement approvedBy rfl found approved
      · have runs : canaries digest (.decide other measurement approvedBy) rollouts =
            (rollouts, .error unapprovedTransition) := by
          rw [canaries, CanaryController.decide, found]
          exact if_pos approved
        exact refused_moves runs rolloutId

theorem rollouts_concat (before : List (CanaryCall Rate)) (call : CanaryCall Rate) :
    rolloutsAfter digest (before ++ [call]) =
      (canaries digest).next call (rolloutsAfter digest before) :=
  run_concat _ _ _ _

theorem standing_concat (before : List (CanaryCall Rate)) (call : CanaryCall Rate)
    (rolloutId : String) :
    standing digest (before ++ [call]) rolloutId =
      (saidOf digest call (rolloutsAfter digest before) rolloutId).or
      (standing digest before rolloutId) := by
  unfold standing saidOf
  rw [log_concat, List.filter_append]
  cases said : standsAs digest call ((canaries digest).run before []) with
  | none =>
    rw [rolloutsAfter, said, Option.toList_none, List.filter_nil, List.append_nil]
    rfl
  | some entry =>
    rw [rolloutsAfter, said, Option.toList_some, Option.filter_some]
    by_cases own : entry.1 = rolloutId
    · simp [own]
    · simp [own]

theorem standing_eq (calls : List (CanaryCall Rate)) (rolloutId : String) :
    standing digest calls rolloutId =
      ((rolloutsAfter digest calls).lookup rolloutId).map state := by
  induction calls using List.reverseRecOn with
  | nil => rfl
  | append_singleton past call ih =>
    have moves := rollout_moves digest call (rolloutsAfter digest past) rolloutId
    rw [standing_concat, ih, rollouts_concat]
    generalize saidOf digest call (rolloutsAfter digest past) rolloutId = said at moves ⊢
    generalize ((canaries digest).next call (rolloutsAfter digest past)).lookup rolloutId =
      after at moves ⊢
    cases moves with
    | keeps => rfl
    | starts => rfl
    | decides => rfl

theorem version_next {rolloutId : String} (unstarted : ∀ stable candidate percentage,
      call ≠ .start rolloutId stable candidate percentage) (subject : String) :
    ((canaries digest).next call rollouts).assign digest rolloutId subject =
      rollouts.assign digest rolloutId subject := by
  have moves := rollout_moves digest call rollouts rolloutId
  unfold CanaryController.assign
  generalize saidOf digest call rollouts rolloutId = said at moves
  generalize ((canaries digest).next call rollouts).lookup rolloutId = after at moves ⊢
  cases moves with
  | keeps => rfl
  | starts stable candidate percentage same => exact absurd same (unstarted _ _ _)
  | decides rollout measurement approvedBy same found =>
    rw [found]
    rfl

theorem version_run {more : List (CanaryCall Rate)} {rollouts : CanaryController}
    {rolloutId : String}
    (unstarted : ∀ stable candidate percentage,
      .start rolloutId stable candidate percentage ∉ more) (subject : String) :
    ((canaries digest).run more rollouts).assign digest rolloutId subject =
      rollouts.assign digest rolloutId subject := by
  induction more generalizing rollouts with
  | nil => rfl
  | cons call rest ih =>
    rw [run, ih]
    · apply version_next
      intro stable candidate percentage same
      exact unstarted stable candidate percentage (same ▸ List.mem_cons_self)
    · intro stable candidate percentage mem
      exact unstarted stable candidate percentage (List.mem_cons_of_mem _ mem)

theorem assign_candidate_iff (rollout : RolloutState) (subject : String) :
    rollout.assign digest subject = rollout.candidate ↔
      rollout.candidate = rollout.stable ∨ (bucket digest subject : Int) < rollout.percentage := by
  unfold assign
  split_ifs with within
  · exact iff_of_true rfl (Or.inr within)
  · constructor
    · intro same
      exact Or.inl same.symm
    · intro either
      exact (either.resolve_right within).symm

theorem assign_stable_iff (rollout : RolloutState) (subject : String) :
    rollout.assign digest subject = rollout.stable ↔
      rollout.candidate = rollout.stable ∨ rollout.percentage ≤ bucket digest subject := by
  unfold assign
  split_ifs with within
  · constructor
    · exact Or.inl
    · intro either
      exact either.resolve_right (Int.not_le.mpr within)
  · exact iff_of_true rfl (Or.inr (Int.not_lt.mp within))

theorem raised_keeps {rollouts : CanaryController} {rolloutId : String} {rollout : RolloutState}
    (found : rollouts.lookup rolloutId = some rollout) {subject : String}
    (chosen : rollout.assign digest subject = rollout.candidate) {percentage : Int}
    (more : rollout.percentage ≤ percentage) :
    ((canaries digest).next
      (.start rolloutId rollout.stable rollout.candidate percentage : CanaryCall Rate)
      rollouts).assign digest rolloutId subject =
      .ok (.assigned rollout.candidate) := by
  have kept : rollouts.assign digest rolloutId subject = .ok (.assigned rollout.candidate) := by
    rw [CanaryController.assign, found, ← chosen]
  by_cases bounded : 1 ≤ percentage ∧ percentage ≤ 100
  · have runs : (canaries digest).next
        (.start rolloutId rollout.stable rollout.candidate percentage : CanaryCall Rate) rollouts =
        set rolloutId ⟨rollout.stable, rollout.candidate, percentage, .canary⟩ rollouts :=
      congrArg Prod.fst (if_neg (not_not.mpr bounded))
    have again : assign digest
        ⟨rollout.stable, rollout.candidate, percentage, .canary⟩ subject = rollout.candidate := by
      apply (assign_candidate_iff _ subject).mpr
      exact ((assign_candidate_iff rollout subject).mp chosen).imp_right fun within =>
        Int.lt_of_lt_of_le within more
    rw [CanaryController.assign, runs, lookup_set_same]
    dsimp only
    rw [again]
  · have runs : (canaries digest).next
        (.start rolloutId rollout.stable rollout.candidate percentage : CanaryCall Rate) rollouts =
        rollouts := congrArg Prod.fst (if_pos bounded)
    rw [runs]
    exact kept

variable (digest) in
def Decided (rollout : RolloutState) : Prop :=
  (rollout.state = .rolledBack → ∀ subject, rollout.assign digest subject = rollout.stable) ∧
    (rollout.state = .promoted → ∀ subject, rollout.assign digest subject = rollout.candidate)

variable (digest) in
def AllDecided (rollouts : CanaryController) : Prop :=
  ∀ rolloutId, ∀ rollout ∈ rollouts.lookup rolloutId, Decided digest rollout

theorem decided_iff (rollout : RolloutState) (measurement : CanaryMeasurement Rate) :
    Decided digest { rollout with state := measurement.outcome } ↔
      rollout.candidate = rollout.stable ∨
      match measurement.outcome with
        | .promoted => ∀ subject, (bucket digest subject : Int) < rollout.percentage
        | _ => ∀ subject, rollout.percentage ≤ bucket digest subject := by
  have candidate (state : CanaryState) (subject : String) := @assign_candidate_iff digest
    { rollout with state := state } subject
  have stable (state : CanaryState) (subject : String) := @assign_stable_iff digest
    { rollout with state := state } subject
  unfold Decided
  unfold CanaryMeasurement.outcome
  split_ifs with met
  · simp [candidate, forall_or_left]
  · simp [stable, forall_or_left]

theorem all_decided_next (call : CanaryCall Rate) (rollouts : CanaryController)
    (decided : AllDecided digest rollouts) :
    AllDecided digest ((canaries digest).next call rollouts) ↔ Settling digest call rollouts := by
  constructor
  · intro after
    cases call with
    | start | assign | state => trivial
    | decide rolloutId measurement approvedBy =>
      intro rollout found approved
      have runs : (canaries digest).next (.decide rolloutId measurement approvedBy) rollouts =
          set rolloutId { rollout with state := measurement.outcome } rollouts := by
        unfold next
        rw [canaries, CanaryController.decide, found]
        exact congrArg Prod.fst (if_neg (not_not.mpr approved))
      apply (decided_iff rollout measurement).mp
      apply after rolloutId
      rw [runs, lookup_set_same]
      rfl
  · intro settling rolloutId rollout found
    have moves := rollout_moves digest call rollouts rolloutId
    rw [found] at moves
    generalize saidOf digest call rollouts rolloutId = said at moves
    generalize before : rollouts.lookup rolloutId = held at moves
    generalize left : some rollout = after at moves
    cases moves with
    | keeps =>
      rw [← left] at before
      exact decided rolloutId rollout before
    | starts =>
      rw [Option.some.inj left]
      exact ⟨by simp, by simp⟩
    | decides held measurement approvedBy same there approved =>
      rw [Option.some.inj left]
      subst same
      exact (decided_iff held measurement).mpr (settling held (before.trans there) approved)

theorem all_assigned_iff (found : (rolloutsAfter digest calls).lookup rolloutId = some rollout)
    (version : RolloutState → String) :
    (∃ held ∈ (rolloutsAfter digest calls).lookup rolloutId, ∀ subject,
      versionAfter digest calls rolloutId subject = .ok (.assigned (version held))) ↔
      ∀ subject, rollout.assign digest subject = version rollout := by
  constructor
  · intro some subject
    obtain ⟨held, there, all⟩ := some
    rw [found, Option.mem_some_iff] at there
    have assigned := all subject
    rw [version_of_lookup found, ← there, Except.ok.injEq, CanaryAnswer.assigned.injEq] at assigned
    exact assigned
  · intro all
    apply Exists.intro rollout
    apply And.intro found
    intro subject
    rw [version_of_lookup found, all subject]

theorem kept_iff_all_decided (calls : List (CanaryCall Rate)) :
    CanaryKept digest calls ↔ AllDecided digest (rolloutsAfter digest calls) := by
  constructor
  · intro kept rolloutId rollout found
    have stands : standing digest calls rolloutId = some rollout.state := by
      rw [standing_eq, found]
      rfl
    constructor
    · intro back
      apply (all_assigned_iff found stable).mp
      exact kept.rolledBack rolloutId (stands.trans (congrArg some back))
    · intro forth
      apply (all_assigned_iff found candidate).mp
      exact kept.promoted rolloutId (stands.trans (congrArg some forth))
  · intro decided
    constructor
    · intro rolloutId stands
      rw [standing_eq] at stands
      obtain ⟨rollout, found, back⟩ := Option.map_eq_some_iff.mp stands
      apply (all_assigned_iff found stable).mpr
      exact (decided rolloutId rollout found).1 back
    · intro rolloutId stands
      rw [standing_eq] at stands
      obtain ⟨rollout, found, forth⟩ := Option.map_eq_some_iff.mp stands
      apply (all_assigned_iff found candidate).mpr
      exact (decided rolloutId rollout found).2 forth
    · intro rolloutId subject more _ unstarted _
      unfold rolloutsAfter at *
      rw [version_after, version_after, rolloutsAfter, run_append]
      exact version_run unstarted subject
    · intro rolloutId subject _ rollout found chosen percentage more
      rw [version_of_lookup found, Except.ok.injEq, CanaryAnswer.assigned.injEq] at chosen
      rw [version_after, rollouts_concat]
      exact raised_keeps found chosen more

/-- A canary keeps its promises in every run exactly when each decision finds the subjects where it
wants them. -/
theorem canary_kept_iff (digest : String → Nat) (calls : List (CanaryCall Rate)) :
    Historically (fun before call => CanaryKept digest (before ++ [call])) calls ↔
      (canaries digest).Throughout (Settling digest) calls [] := by
  have exactly (before : List (CanaryCall Rate)) (call : CanaryCall Rate)
      (decided : AllDecided digest ((canaries digest).run before [])) :
      CanaryKept digest (before ++ [call]) ↔
        Settling digest call ((canaries digest).run before []) := by
    rw [kept_iff_all_decided, rollouts_concat]
    exact all_decided_next call _ decided
  apply historically_iff_throughout fun _ rollouts => AllDecided digest rollouts
  · intro before call decided settling
    exact (all_decided_next call _ decided).mpr settling
  · intro rolloutId rollout found
    cases found
  · exact exactly

/-- A rollout that is rolled back goes on with its candidate. -/
theorem rolled_back_assigns_candidate :
    let calls : List (CanaryCall Nat) := [.start "r" "v1" "v2" 50,
      .decide "r" ⟨90, 1, 99, 2⟩ (some "release")]
    standing (fun _ => 0) calls "r" = some .rolledBack ∧
      versionAfter (fun _ => 0) calls "r" "subject" = .ok (.assigned "v2") ∧
      ¬CanaryKept (fun _ => 0) calls := by
  intro calls
  have back : standing (fun _ => 0) calls "r" = some .rolledBack := by decide
  have version : versionAfter (fun _ => 0) calls "r" "subject" = .ok (.assigned "v2") := by decide
  apply And.intro back
  apply And.intro version
  intro kept
  obtain ⟨rollout, found, all⟩ := kept.rolledBack "r" back
  have other := all "subject"
  have held :
      (rolloutsAfter (fun _ => 0) calls).lookup "r" = some ⟨"v1", "v2", 50, .rolledBack⟩ := by
    decide
  rw [held, Option.mem_some_iff] at found
  rw [version, ← found] at other
  exact absurd other (by decide)

end ctl

end Ois.Production
