import Ois.Production.Deployments

/-!
# Where rollbacks go

Each record of an environment names the version before it, so that the target of a rollback and the
path back can be read off the records alone.
-/

namespace Ois.Production

open Ois.Kernel Ois.Library

def Linked : List DeploymentRecord → Prop
  | [] => True
  | record :: past =>
    record.previousVersion = past.head?.map (·.version) ∧ Linked past

def target : List DeploymentRecord → Option String
  | [] => none
  | last :: past =>
    ((past.find? fun record => record.version ≠ last.version).map (·.version)).or
      last.previousVersion

section records

variable {last : DeploymentRecord} {past recent : List DeploymentRecord}

theorem rollback_leaves (walks : WalksBack (last :: past)) (rolled : last.state = .rolledBack)
    {version : String} (left : last.previousVersion = some version) : last.version ≠ version := by
  intro same
  apply (walks.1 rolled).1
  rw [leftSince, rolled, left, same]
  exact List.mem_cons_self

theorem path_back_head (walks : WalksBack recent) :
    (pathBack recent).head? = recent.head?.map (·.version) := by
  cases recent with
  | nil => rfl
  | cons last past =>
    cases deployed : last.state with
    | rolledBack => exact (walks.1 deployed).2
    | active =>
      rw [pathBack, deployed]
      dsimp only
      split_ifs with same
      · exact same
      · rfl

theorem path_back_of_entered (linked : Linked recent) (walks : WalksBack recent)
    {record : DeploymentRecord} (entry : record ∈ entered recent)
    (deployed : record.state = .active) :
    (pathBack recent).tail.head? = record.previousVersion := by
  induction recent with
  | nil => cases entry
  | cons last past ih =>
    have head := path_back_head walks.2
    rw [entered] at entry
    by_cases same : past.head?.map (·.version) = some last.version
    · rw [if_pos same] at entry
      have active : last.state = .active := by
        by_contra other
        have rolled : last.state = .rolledBack := by
          cases state : last.state with
          | active => exact absurd state other
          | rolledBack => rfl
        exact rollback_leaves walks rolled (linked.1.trans same) rfl
      have path : pathBack (last :: past) = pathBack past := by
        rw [pathBack, active]
        exact if_pos (head.trans same)
      rw [path]
      exact ih linked.2 walks.2 entry
    · rw [if_neg same, Option.mem_some_iff] at entry
      subst entry
      have path : pathBack (last :: past) = last.version :: pathBack past := by
        rw [pathBack, deployed]
        apply if_neg
        rw [head]
        exact same
      rw [path, List.tail_cons, head, linked.1]

theorem target_of_entered (linked : Linked (last :: past))
    (differs : ∃ record ∈ past, record.version ≠ last.version) :
    ∃ record ∈ entered (last :: past), target (last :: past) = record.previousVersion ∧
      target (last :: past) ≠ some last.version := by
  induction past generalizing last with
  | nil =>
    obtain ⟨record, mem, _⟩ := differs
    cases mem
  | cons next rest ih =>
    rw [entered, List.head?_cons, Option.map_some]
    by_cases same : next.version = last.version
    · have further : ∃ record ∈ rest, record.version ≠ next.version := by
        obtain ⟨record, mem, unlike⟩ := differs
        rcases List.mem_cons.mp mem with first | other
        · exact absurd (first ▸ same) unlike
        · exact ⟨record, other, same ▸ unlike⟩
      obtain ⟨record, entry, goes, away⟩ := ih linked.2 further
      have skips : target (last :: next :: rest) = target (next :: rest) := by
        obtain ⟨found, mem, unlike⟩ := further
        have some : (rest.find? fun record => record.version ≠ next.version).isSome := by
          rw [List.find?_isSome]
          exact ⟨found, mem, by simpa using unlike⟩
        obtain ⟨first, there⟩ := Option.isSome_iff_exists.mp some
        rw [target, target, List.find?_cons_of_neg (by simpa using same), ← same, there]
        rfl
      rw [if_pos (congrArg some same), skips, ← same]
      exact ⟨record, entry, goes, away⟩
    · have finds : target (last :: next :: rest) = some next.version := by
        rw [target, List.find?_cons_of_pos (by simpa using same)]
        rfl
      rw [if_neg fun equal => same (Option.some.inj equal), finds]
      apply Exists.intro last
      apply And.intro rfl
      apply And.intro linked.1.symm
      intro equal
      exact same (Option.some.inj equal)

theorem target_of_same (linked : Linked (last :: past))
    (same : ∀ record ∈ past, record.version = last.version) {version : String}
    (goes : target (last :: past) = some version) : version = last.version := by
  have none : (past.find? fun record => record.version ≠ last.version) = none := by
    rw [List.find?_eq_none]
    intro record mem
    simpa using same record mem
  rw [target, none, Option.map_none, Option.none_or, linked.1] at goes
  obtain ⟨record, first, rfl⟩ := Option.map_eq_some_iff.mp goes
  exact same record (List.mem_of_mem_head? first)

theorem target_of_single (linked : Linked recent) (single : recent.length ≤ 1) :
    target recent = none := by
  match recent, single with
  | [], _ => rfl
  | [last], _ => exact linked.1

theorem target_of_rolled_back (linked : Linked (last :: past))
    (walks : WalksBack (last :: past)) (rolled : last.state = .rolledBack) {version : String}
    (goes : target (last :: past) = some version) : last.previousVersion = some version := by
  cases past with
  | nil => exact goes
  | cons next rest =>
    have before : last.previousVersion = some next.version := linked.1
    have unlike : next.version ≠ last.version := (rollback_leaves walks rolled before).symm
    have finds : target (last :: next :: rest) = some next.version := by
      rw [target, List.find?_cons_of_pos (by simpa using unlike)]
      rfl
    rw [before, ← finds]
    exact goes

theorem walks_back_iff_straight (linked : Linked recent) (walks : WalksBack recent)
    {record : DeploymentRecord} (rolled : record.state = .rolledBack)
    (goes : target recent = some record.version)
    (left : record.previousVersion = recent.head?.map (·.version)) :
    WalksBack (record :: recent) ↔ Straight recent := by
  have unsingle : ¬recent.length ≤ 1 := by
    intro single
    rw [target_of_single linked single] at goes
    cases goes
  have path : pathBack (record :: recent) = (pathBack recent).tail := by
    rw [pathBack, rolled]
  have lefts :
      leftSince (record :: recent) = record.previousVersion.toList ++ leftSince recent := by
    rw [leftSince, rolled]
  have step : WalksBack (record :: recent) ↔
      record.version ∉ record.previousVersion.toList ++ leftSince recent ∧
        (pathBack recent).tail.head? = some record.version := by
    rw [WalksBack, path, lefts]
    constructor
    · intro both
      exact both.1 rolled
    · intro right
      exact ⟨fun _ => right, walks⟩
  cases recent with
  | nil => cases goes
  | cons last past =>
    have cur : record.previousVersion = some last.version := left
    rw [step, cur]
    constructor
    · intro right
      have away : record.version ≠ last.version := by
        intro same
        exact right.1 (same ▸ List.mem_append_left _ List.mem_cons_self)
      apply Or.inr
      have active : last.state = .active := by
        cases state : last.state with
        | active => rfl
        | rolledBack =>
          exfalso
          apply right.1
          apply List.mem_append_right
          rw [leftSince, state, target_of_rolled_back linked walks state goes]
          exact List.mem_cons_self
      have differs : ∃ other ∈ past, other.version ≠ last.version := by
        by_contra none
        apply away
        apply target_of_same linked _ goes
        intro other mem
        by_contra unlike
        exact none ⟨other, mem, unlike⟩
      constructor
      · intro first is
        obtain rfl := Option.some.inj is
        obtain ⟨other, mem, unlike⟩ := differs
        exact ⟨active, other, List.mem_cons_of_mem _ mem, unlike⟩
      · intro entry mem
        obtain ⟨held, there, from_, _⟩ := target_of_entered linked differs
        rw [Option.mem_def] at mem there
        obtain rfl := Option.some.inj (mem.symm.trans there)
        exact Or.inr (from_.symm.trans (goes.trans right.2.symm))
    · intro straight
      obtain ⟨first, entries⟩ := straight.resolve_left unsingle
      obtain ⟨active, other, mem, unlike⟩ := first last rfl
      have differs : ∃ other ∈ past, other.version ≠ last.version := by
        rcases List.mem_cons.mp mem with same | there
        · exact absurd (same ▸ rfl) unlike
        · exact ⟨other, there, unlike⟩
      obtain ⟨entry, there, from_, away⟩ := target_of_entered linked differs
      have next : (pathBack (last :: past)).tail.head? = entry.previousVersion := by
        cases entries entry there with
        | inl deployed => exact path_back_of_entered linked walks there deployed
        | inr coincides => exact coincides.symm
      have empty : leftSince (last :: past) = [] := by
        rw [leftSince, active]
      constructor
      · rw [empty, List.append_nil, Option.toList_some, List.mem_singleton]
        intro same
        rw [goes, same] at away
        exact away rfl
      · rw [next, ← from_, goes]

end records

namespace DeploymentController

variable {ctl : DeploymentController}

def recordOf (ctl : DeploymentController) (version : String) (state : DeploymentState)
    (change : Change) : DeploymentRecord where
  deploymentId := change.deploymentId
  version := version
  environment := change.environment
  previousVersion := ctl.current change.environment
  state := state
  approvedBy := change.approvedBy
  evidence := change.evidence

variable (version : String) (state : DeploymentState) (change : Change) (environment : String)

theorem recent_activate :
    (ctl.activate version state change).1.recent environment =
      if change.environment = environment then
      ctl.recordOf version state change :: ctl.recent environment
      else ctl.recent environment := by
  unfold recent history activate
  dsimp only
  rw [List.filter_append, List.reverse_append]
  by_cases own : change.environment = environment
  · rw [if_pos own, List.filter_cons_of_pos (by simpa using own)]
    rfl
  · rw [if_neg own, List.filter_cons_of_neg (by simpa using own)]
    rfl

theorem current_activate :
    (ctl.activate version state change).1.current environment =
      if environment = change.environment then some version
      else ctl.current environment :=
  Dict.lookup_set _ _ _ _

theorem previous_eq (environment : String) :
    ctl.previous environment = target (ctl.recent environment) := by
  unfold previous recent
  cases (ctl.history environment).reverse with
  | nil => rfl
  | cons last past =>
    dsimp only
    rw [target]
    cases past.find? fun record => record.version ≠ last.version with
    | none => rfl
    | some record => rfl

/-- Each record names the version before it, and the last one has the current version. -/
def Sound (ctl : DeploymentController) : Prop :=
  ∀ environment, Linked (ctl.recent environment) ∧
    ctl.current environment = (ctl.recent environment).head?.map (·.version)

theorem sound_activate (sound : ctl.Sound) (version : String) (state : DeploymentState)
    (change : Change) : (ctl.activate version state change).1.Sound := by
  intro environment
  rw [recent_activate, current_activate]
  by_cases own : change.environment = environment
  · rw [if_pos own, if_pos own.symm]
    subst own
    exact ⟨⟨(sound change.environment).2, (sound change.environment).1⟩, rfl⟩
  · rw [if_neg own, if_neg fun same => own same.symm]
    exact sound environment

theorem walked_activate_iff (sound : ctl.Sound) (walked : ctl.Walked)
    (version : String) (state : DeploymentState) (change : Change) :
    (ctl.activate version state change).1.Walked ↔
      WalksBack (ctl.recordOf version state change ::
      ctl.recent change.environment) := by
  have later := sound_activate sound version state change
  constructor
  · intro all
    have own := (all change.environment).1
    rw [recent_activate, if_pos rfl] at own
    exact own
  · intro own environment
    apply And.intro _ (later environment).2
    rw [recent_activate]
    by_cases same : change.environment = environment
    · rw [if_pos same, ← same]
      exact own
    · rw [if_neg same]
      exact (walked environment).1

end DeploymentController

open DeploymentController

theorem check_ok_iff (name : String) (change : Change) :
    change.check name = .ok () ↔ change.Supported := by
  unfold Change.check Change.Supported
  by_cases approved : Approved change.approvedBy
  · rw [if_neg (not_not.mpr approved), and_iff_right approved]
    by_cases without : change.evidence = []
    · rw [if_pos without]
      exact iff_of_false (by simp) (not_not.mpr without)
    · rw [if_neg without]
      exact iff_of_true rfl without
  · rw [if_pos approved]
    exact iff_of_false (by simp) fun both => approved both.1

variable (call : DeploymentCall) (ctl : DeploymentController)

theorem deployment_cases :
    (deployments.next call ctl = ctl ∧
      ∀ change, call = .rollback change → change.Supported →
      target (ctl.recent change.environment) = none) ∨
    (∃ version change, call = .deploy version change ∧
      deployments.next call ctl = (ctl.activate version .active change).1) ∨
    ∃ version change, call = .rollback change ∧ change.Supported ∧
      target (ctl.recent change.environment) = some version ∧
      deployments.next call ctl = (ctl.activate version .rolledBack change).1 := by
  unfold Machine.next
  cases call with
  | deploy version change =>
    rw [deployments, deploy]
    cases change.check "deployment" with
    | error err => exact Or.inl ⟨rfl, fun _ same => by cases same⟩
    | ok => exact Or.inr (Or.inl ⟨version, change, rfl, rfl⟩)
  | rollback change =>
    rw [deployments, rollback, previous_eq]
    cases checked : change.check "rollback" with
    | error err =>
      apply Or.inl
      apply And.intro rfl
      intro other same supported
      cases same
      rw [(check_ok_iff "rollback" change).mpr supported] at checked
      cases checked
    | ok =>
      cases goes : target (ctl.recent change.environment) with
      | none =>
        apply Or.inl
        apply And.intro rfl
        intro other same _
        cases same
        exact goes
      | some version =>
        exact Or.inr (Or.inr ⟨version, change, rfl, (check_ok_iff _ change).mp checked, goes, rfl⟩)

theorem records_sound_next (sound : ctl.Sound) :
    (deployments.next call ctl).Sound := by
  rcases deployment_cases call ctl with same | deployed | rolled
  · rw [same.1]
    exact sound
  · obtain ⟨version, change, _, next⟩ := deployed
    rw [next]
    exact sound_activate sound version .active change
  · obtain ⟨version, change, _, _, _, next⟩ := rolled
    rw [next]
    exact sound_activate sound version .rolledBack change

theorem straight_of_no_target {recent : List DeploymentRecord} (linked : Linked recent)
    (none : target recent = none) : Straight recent := by
  apply Or.inl
  match recent, linked with
  | [], _ => exact Nat.zero_le 1
  | [_], _ => exact Nat.le_refl 1
  | last :: next :: rest, linked =>
    have before : last.previousVersion = some next.version := linked.1
    rw [target, before, Option.or_eq_none_iff] at none
    cases none.2

theorem walked_iff_straight (sound : ctl.Sound) (walked : ctl.Walked) :
    (deployments.next call ctl).Walked ↔ GoesStraight call ctl := by
  rcases deployment_cases call ctl with same | deployed | rolled
  · obtain ⟨next, none⟩ := same
    rw [next]
    apply iff_of_true walked
    cases call with
    | deploy version change => trivial
    | rollback change =>
      intro supported
      exact straight_of_no_target (sound change.environment).1 (none change rfl supported)
  · obtain ⟨version, change, rfl, next⟩ := deployed
    rw [next, walked_activate_iff sound walked]
    apply iff_of_true _ trivial
    apply And.intro _ (walked change.environment).1
    intro rolled
    cases rolled
  · obtain ⟨version, change, rfl, supported, goes, next⟩ := rolled
    rw [next, walked_activate_iff sound walked,
      walks_back_iff_straight (sound change.environment).1 (walked change.environment).1 rfl goes
        (sound change.environment).2]
    constructor
    · intro straight _
      exact straight
    · intro goes
      exact goes supported

/-- Rollbacks walk back in every state of a run exactly when each supported rollback starts from a
straight history. -/
theorem rollbacks_walk_back_iff (calls : List DeploymentCall) :
    Historically (fun before call => (deployments.run (before ++ [call]) {}).Walked) calls ↔
      deployments.Throughout GoesStraight calls {} := by
  apply Machine.historically_iff_throughout fun _ ctl =>
    DeploymentController.Sound ctl ∧ DeploymentController.Walked ctl
  · intro before call held straight
    exact ⟨records_sound_next call _ held.1,
      (walked_iff_straight call _ held.1 held.2).mpr straight⟩
  · exact ⟨fun _ => ⟨trivial, rfl⟩, fun _ => ⟨trivial, rfl⟩⟩
  · intro before call held
    rw [Machine.run_concat]
    exact walked_iff_straight call _ held.1 held.2

/-- A change of the environment `prod` with its approval and its evidence. -/
def prodChange (deploymentId : String) : Change := ⟨"prod", deploymentId, some "release", ["ci"]⟩

/-- The second of two rollbacks goes back to the version that the first one left. -/
theorem second_rollback_returns :
    let calls : List DeploymentCall := [
      .deploy "v1" (prodChange "1"), .deploy "v2" (prodChange "2"),
      .deploy "v3" (prodChange "3"), .rollback (prodChange "4"), .rollback (prodChange "5")]
    ((deployments.run calls {}).recent "prod").map (·.version) = ["v3", "v2", "v3", "v2", "v1"] ∧
      pathBack ((deployments.run calls {}).recent "prod") = ["v1"] ∧
      ¬(deployments.run calls {}).Walked := by
  intro calls
  have versions : ((deployments.run calls {}).recent "prod").map (·.version) =
      ["v3", "v2", "v3", "v2", "v1"] := by decide
  have path : pathBack ((deployments.run calls {}).recent "prod") = ["v1"] := by decide
  apply And.intro versions
  apply And.intro path
  intro walked
  have head := path_back_head (walked "prod").1
  rw [path, ← List.head?_map, versions] at head
  exact absurd head (by decide)

end Ois.Production
