import Ois.Sources.Fabric

/-!
# Whose adapter a poll runs

A poll asks for a source of a tenant and a workspace, and runs the job that is filed under the
identifier of the source alone. A registration that raises has stored its definition, so a
source may be polled whose job is of another tenant.
-/

namespace Ois.Sources

open Ois.Library Ois.Kernel Command SourceRegistry

structure Contained (key : SourceKey) (effects : List FabricEffect) : Prop where
  requests : ∀ req, .ingested req ∈ effects →
    req.tenantId = key.tenantId ∧ req.workspaceId = key.workspaceId
  health : ∀ other healthy, .checked other healthy ∈ effects →
    ∃ job, .ran job ∈ effects ∧ job.key = other
  lifecycle : ∀ other status, .moved other status ∈ effects →
    ∃ job, .ran job ∈ effects ∧ job.key = other

inductive PollEffect (key : SourceKey) (job : PollingJob) : FabricEffect → Prop where
  | ran : PollEffect key job (.ran job)
  | ingested (draft : SourceRequest) : PollEffect key job (.ingested (job.request draft))
  | checked (healthy : Bool) : PollEffect key job (.checked key healthy)
  | moved (status : SourceStatus) : PollEffect key job (.moved key status)

structure PollTrail (key : SourceKey) (job : PollingJob) (effects : List FabricEffect) : Prop where
  ran : .ran job ∈ effects
  checked : ∃ healthy, .checked key healthy ∈ effects
  within : ∀ effect ∈ effects, PollEffect key job effect

namespace PollTrail

variable {key : SourceKey} {job : PollingJob} {effects later : List FabricEffect}

theorem append (first : PollTrail key job effects) (second : PollTrail key job later) :
    PollTrail key job (effects ++ later) := by
  obtain ⟨healthy, checked⟩ := first.checked
  constructor
  · exact List.mem_append_left _ first.ran
  · exact ⟨healthy, List.mem_append_left _ checked⟩
  · intro effect mem
    rcases List.mem_append.mp mem with past | last
    · exact first.within effect past
    · exact second.within effect last

theorem contained_iff (trail : PollTrail key job effects) :
    Contained key effects ↔ job.key = key := by
  constructor
  · intro contained
    obtain ⟨healthy, checked⟩ := trail.checked
    obtain ⟨other, ran, same⟩ := contained.health key healthy checked
    cases trail.within _ ran
    exact same
  · intro own
    constructor
    · intro req mem
      cases trail.within _ mem
      exact ⟨congrArg SourceKey.tenantId own, congrArg SourceKey.workspaceId own⟩
    · intro other healthy mem
      cases trail.within _ mem
      exact ⟨job, trail.ran, own⟩
    · intro other status mem
      cases trail.within _ mem
      exact ⟨job, trail.ran, own⟩

end PollTrail

namespace Fabric

variable {key : SourceKey} {fabric : Fabric}

theorem control_get_ends (key : SourceKey) (ret : SourceDefinition → Fabric → Prop)
    (raised : PyError → Fabric → Prop) (fabric : Fabric) :
    Command.Ends (controlGet key) ret raised fabric ↔ match fabric.registry.get key with
      | none => raised (notRegistered key.sourceId) fabric
      | some source => ret source fabric := by
  unfold controlGet SourceControl.get
  simp only [ends_bind, ends_get]
  cases fabric.registry.get key with
  | none => exact Iff.rfl
  | some source => exact Iff.rfl

structure Recorded (key : SourceKey) (before after : Fabric) : Prop where
  effects : ∃ added, after.effects = before.effects ++ added ∧
    (∃ healthy, .checked key healthy ∈ added) ∧ ∀ job, ∀ effect ∈ added, PollEffect key job effect
  jobs : after.jobs = before.jobs
  there : (after.registry.get key).isSome

theorem control_transition_ends {key : SourceKey} (target : SourceStatus) (fabric : Fabric)
    (there : (fabric.registry.get key).isSome) (law : Fabric → Prop) (unmoved : law fabric)
    (moved : ∀ reg : SourceRegistry, (reg.get key).isSome →
      law ({ fabric with registry := reg }.did [.moved key target])) :
    Command.Ends (controlTransition key target) (fun _ after => law after)
      (fun _ after => law after) fabric := by
  obtain ⟨source, found⟩ := Option.isSome_iff_exists.mp there
  unfold controlTransition
  simp only [ends_bind, ends_get, SourceControl.transition_of_get found]
  cases updated : source.transition target with
  | error err => exact unmoved
  | ok defn =>
    have own : defn.key = key :=
      (SourceDefinition.transition_key updated).trans (key_of_get found)
    have stored : (fabric.registry.put defn).get key = some defn := by
      rw [get_put, if_pos own.symm]
    have after := moved (fabric.registry.put defn) (by rw [stored]; rfl)
    simp only [ends_of_ok, ends_bind, ends_modify, control_get_ends, did, stored]
    exact after

theorem record_and_move_ends (healthy : Bool) (err : Option String)
    (shown target : SourceStatus) {defn : SourceDefinition} {fabric : Fabric}
    (there : (fabric.registry.get defn.key).isSome) :
    Command.Ends (recordAndMove healthy err shown target defn)
      (fun _ after => Recorded defn.key fabric after)
      (fun _ after => Recorded defn.key fabric after) fabric := by
  have checked (health : Dict SourceKey SourceHealthSnapshot) : Recorded defn.key fabric
      ({ fabric with health := health }.did [.checked defn.key healthy]) := by
    constructor
    · apply Exists.intro [.checked defn.key healthy]
      apply And.intro rfl
      apply And.intro ⟨healthy, List.mem_cons_self⟩
      intro job effect mem
      rw [List.mem_singleton.mp mem]
      exact .checked healthy
    · rfl
    · exact there
  unfold recordAndMove recordHealth
  simp only [ends_bind, ends_get, ends_modify, ends_pure]
  by_cases shows_ : defn.status = shown
  · rw [if_pos shows_, ends_bind]
    apply control_transition_ends target _ (by exact there) (Recorded defn.key fabric)
    · exact checked _
    · intro reg still
      constructor
      · apply Exists.intro [.checked defn.key healthy, .moved defn.key target]
        apply And.intro (by simp [did])
        apply And.intro ⟨healthy, List.mem_cons_self⟩
        intro job effect mem
        rcases List.mem_cons.mp mem with first | second
        · rw [first]
          exact .checked healthy
        · rw [List.mem_singleton.mp second]
          exact .moved target
      · rfl
      · exact still
  · rw [if_neg shows_]
    exact checked _

structure Trailed (key : SourceKey) (job : PollingJob) (before after : Fabric) : Prop where
  effects : ∃ added, after.effects = before.effects ++ added ∧ PollTrail key job added
  jobs : after.jobs = before.jobs
  there : (after.registry.get key).isSome

theorem run_poll_ends (run : AdapterRun) {key : SourceKey} {job : PollingJob} {fabric : Fabric}
    (filed : fabric.job? key.sourceId = some job) (there : (fabric.registry.get key).isSome) :
    Command.Ends (runPoll run key) (fun _ after => Trailed key job fabric after)
      (fun _ after => Trailed key job fabric after) fabric := by
  obtain ⟨defn, found⟩ := Option.isSome_iff_exists.mp there
  have own : defn.key = key := key_of_get found
  have recorded (middle after : Fabric) (drafts : List SourceRequest)
      (ran :
        middle = fabric.did (.ran job :: drafts.map fun draft => .ingested (job.request draft)))
      (records : Recorded key middle after) : Trailed key job fabric after := by
    subst ran
    obtain ⟨added, whole, checked, within⟩ := records.effects
    constructor
    · apply Exists.intro
        ((.ran job :: drafts.map fun draft => .ingested (job.request draft)) ++ added)
      apply And.intro (by rw [whole, did, List.append_assoc])
      constructor
      · exact List.mem_append_left _ List.mem_cons_self
      · obtain ⟨healthy, mem⟩ := checked
        exact ⟨healthy, List.mem_append_right _ mem⟩
      · intro effect mem
        rcases List.mem_append.mp mem with past | last
        · rcases List.mem_cons.mp past with first | req
          · rw [first]
            exact .ran
          · obtain ⟨draft, _, rfl⟩ := List.mem_map.mp req
            exact .ingested draft
        · exact within job effect last
    · exact records.jobs
    · exact records.there
  unfold runPoll runOnce
  simp only [ends_bind, ends_get, filed, ends_modify, ends_pure, control_get_ends]
  have stays : (fabric.did (.ran job :: run.drafts.map fun draft =>
      .ingested (job.request draft))).registry.get key = some defn := found
  rw [stays]
  have still : ((fabric.did (.ran job :: run.drafts.map fun draft =>
      .ingested (job.request draft))).registry.get defn.key).isSome := by
    rw [own, stays]
    rfl
  cases run.result with
  | ok res =>
    simp only [Except.mapError, ends_bind, recordSuccess]
    apply (record_and_move_ends true none .degraded .enabled still).mono
    · exact fun _ after records => recorded _ after run.drafts rfl (own ▸ records)
    · exact fun _ after records => recorded _ after run.drafts rfl (own ▸ records)
  | error err =>
    simp only [Except.mapError, ends_bind, recordFailure]
    apply (record_and_move_ends false _ .enabled .degraded still).mono
    · exact fun _ after records => recorded _ after run.drafts rfl (own ▸ records)
    · exact fun _ after records => recorded _ after run.drafts rfl (own ▸ records)

theorem Trailed.trans {job : PollingJob} {middle after : Fabric}
    (first : Trailed key job fabric middle) (second : Trailed key job middle after) :
    Trailed key job fabric after := by
  obtain ⟨added, whole, trail⟩ := first.effects
  obtain ⟨later, wholeToo, trailToo⟩ := second.effects
  constructor
  · apply Exists.intro (added ++ later)
    apply And.intro _ (trail.append trailToo)
    rw [wholeToo, whole, List.append_assoc]
  · exact second.jobs.trans first.jobs
  · exact second.there

theorem poll_attempts_ends (policy : RetryPolicy) (runs : Nat → AdapterRun) {job : PollingJob}
    (left attempt : Nat) (retries : List RetryDecision) (fabric : Fabric)
    (filed : fabric.job? key.sourceId = some job) (there : (fabric.registry.get key).isSome) :
    Command.Ends (pollAttempts policy key runs (left + 1) attempt retries)
      (fun _ after => Trailed key job fabric after)
      (fun _ after => Trailed key job fabric after) fabric := by
  induction left generalizing attempt retries fabric with
  | zero =>
    unfold pollAttempts
    rw [ends_bind]
    apply (run_poll_ends (runs attempt) filed there).mono
    · intro run after trailed
      cases run.error with
      | none => exact trailed
      | some err =>
        dsimp only
        split_ifs
        · exact trailed
        · exact trailed
    · exact fun _ _ trailed => trailed
  | succ left ih =>
    unfold pollAttempts
    rw [ends_bind]
    apply (run_poll_ends (runs attempt) filed there).mono
    · intro run after trailed
      cases run.error with
      | none => exact trailed
      | some err =>
        dsimp only
        split_ifs
        · have refiled : after.job? key.sourceId = some job := by
            unfold job?
            rw [trailed.jobs]
            exact filed
          apply (ih (attempt + 1) _ after refiled trailed.there).mono
          · exact fun _ _ later => trailed.trans later
          · exact fun _ _ later => trailed.trans later
        · exact trailed
    · exact fun _ _ trailed => trailed

def Polled (key : SourceKey) (fabric : Fabric) : Prop :=
  ∃ source ∈ fabric.registry.get key,
    (source.status = .enabled ∨ source.status = .degraded) ∧ source.mode = .poll

instance (key : SourceKey) (fabric : Fabric) : Decidable (fabric.Polled key) :=
  inferInstanceAs (Decidable (∃ source ∈ fabric.registry.get key, _))

theorem require_polled_ends {ret : SourceDefinition → Fabric → Prop}
    {raised : PyError → Fabric → Prop}
    (polled : fabric.Polled key → ∀ source, ret source fabric)
    (unpolled : ¬fabric.Polled key → ∀ err, raised err fabric) :
    Command.Ends (requirePolled key) ret raised fabric := by
  unfold requirePolled
  rw [ends_bind, ends_get]
  cases required : requirePollable key fabric.registry with
  | ok source =>
    have pollable := require_pollable_ok.mp required
    exact polled ⟨source, pollable⟩ source
  | error err =>
    apply unpolled
    rintro ⟨source, pollable⟩
    rw [require_pollable_ok.mpr pollable] at required
    cases required

inductive PollOutcome (key : SourceKey) (before after : Fabric) : Prop where
  | idle (same : after = before) (unrun : before.Polled key → before.job? key.sourceId = none)
  | run (job : PollingJob) (polled : before.Polled key)
      (filed : before.job? key.sourceId = some job) (trailed : Trailed key job before after)

theorem poll_command_ends (key : SourceKey) (command : FabricCommand SourceFabricRun)
    (fabric : Fabric)
    (runs : ∀ job, fabric.job? key.sourceId = some job → (fabric.registry.get key).isSome →
      Command.Ends command (fun _ after => Trailed key job fabric after)
      (fun _ after => Trailed key job fabric after) fabric)
    (raises : fabric.job? key.sourceId = none → Command.Ends command (fun _ after => after = fabric)
      (fun _ after => after = fabric) fabric) :
    Command.Ends (do let _ ← requirePolled key; command)
      (fun _ after => PollOutcome key fabric after)
      (fun _ after => PollOutcome key fabric after) fabric := by
  rw [ends_bind]
  apply require_polled_ends
  · intro polled _
    cases filed : fabric.job? key.sourceId with
    | none =>
      apply (raises filed).mono
      · exact fun _ after same => .idle same fun _ => filed
      · exact fun _ after same => .idle same fun _ => filed
    | some job =>
      have there : (fabric.registry.get key).isSome := by
        obtain ⟨source, found, _⟩ := polled
        rw [found]
        rfl
      apply (runs job filed there).mono
      · exact fun _ after trailed => .run job polled filed trailed
      · exact fun _ after trailed => .run job polled filed trailed
  · exact fun unpolled err => .idle rfl fun polled => absurd polled unpolled

theorem run_poll_missing (run : AdapterRun) (missing : fabric.job? key.sourceId = none)
    (ret : SourceFabricRun → Fabric → Prop) {raised : PyError → Fabric → Prop}
    (raises : ∀ err, raised err fabric) :
    Command.Ends (runPoll run key) ret raised fabric := by
  unfold runPoll runOnce
  simp only [ends_bind, ends_get, missing]
  exact raises _

end Fabric

open Fabric

def FabricCall.polls : FabricCall → Option SourceKey
  | .pollOnce key _ => some key
  | .pollWithRetry key _ => some key
  | _ => none

variable (policy : RetryPolicy)

open FabricCall

theorem poll_outcome {call : FabricCall} {key : SourceKey}
    (polls : call.polls = some key) (fabric : Fabric) :
    Fabric.PollOutcome key fabric ((sourceFabric policy).next call fabric) := by
  have ends : Command.Ends (call.command policy)
      (fun _ after => Fabric.PollOutcome key fabric after)
      (fun _ after => Fabric.PollOutcome key fabric after) fabric := by
    cases call with
    | register | transition | delete | unregisterAdapter | unregisterJob => cases polls
    | pollOnce own run =>
      obtain rfl : own = key := Option.some.inj polls
      have once := poll_command_ends own (runPoll run own) fabric
        (fun job filed there => run_poll_ends run filed there)
        (fun missing => run_poll_missing run missing _ fun _ => rfl)
      simp only [command, ends_bind]
      exact once
    | pollWithRetry own runs =>
      obtain rfl : own = key := Option.some.inj polls
      obtain ⟨rounds, some⟩ := Nat.exists_eq_add_of_le' policy.positive
      have retried := poll_command_ends own
        (pollAttempts policy own runs policy.maxAttempts 1 []) fabric
        (fun job filed there => by
          rw [some]
          exact poll_attempts_ends policy runs rounds 1 [] fabric filed there)
        (fun missing => by
          rw [some, pollAttempts, ends_bind]
          exact run_poll_missing (runs 1) missing _ fun _ => rfl)
      simp only [command, ends_bind]
      exact retried
  exact ends.outcome (fun _ after => Fabric.PollOutcome key fabric after)

def newEffects (policy : RetryPolicy) (call : FabricCall) (fabric : Fabric) :
    List FabricEffect :=
  ((sourceFabric policy).next call fabric).effects.drop fabric.effects.length

/-- A poll is for the tenant and the workspace that it is asked for. -/
def PollContained (policy : RetryPolicy) (call : FabricCall) (fabric : Fabric) : Prop :=
  ∀ key ∈ call.polls, Contained key (newEffects policy call fabric)

/-- The job that is filed under the identifier of a polled source is its own. -/
def OwnJob (call : FabricCall) (fabric : Fabric) : Prop :=
  ∀ key ∈ call.polls, fabric.Polled key → ∀ job ∈ fabric.job? key.sourceId, job.key = key

theorem contained_nil (key : SourceKey) : Contained key [] := by
  constructor
  · simp
  · simp
  · simp

theorem poll_contained_iff (call : FabricCall) (fabric : Fabric) :
    PollContained policy call fabric ↔ OwnJob call fabric := by
  unfold PollContained OwnJob newEffects
  apply forall_congr'
  intro key
  apply forall_congr'
  intro polls
  cases poll_outcome policy polls fabric with
  | idle same unrun =>
    rw [same, List.drop_length]
    apply iff_of_true (contained_nil key)
    intro polled job filed
    rw [unrun polled] at filed
    cases filed
  | run job polled filed trailed =>
    obtain ⟨added, whole, trail⟩ := trailed.effects
    rw [whole, List.drop_left, trail.contained_iff]
    constructor
    · intro own _ other mem
      rw [filed] at mem
      rw [← Option.some.inj mem]
      exact own
    · intro own
      exact own polled job filed

namespace Fabric

def JobsOf (source : SourceDefinition) (before after : Fabric) : Prop :=
  ∀ job ∈ after.jobs, job ∈ before.jobs ∨ job.key = source.key

theorem control_register_ends (source : SourceDefinition) (fabric : Fabric) :
    Command.Ends (controlRegister source)
      (fun defn after => defn.key = source.key ∧ after.jobs = fabric.jobs)
      (fun _ after => after.jobs = fabric.jobs) fabric := by
  unfold controlRegister
  simp only [ends_bind, ends_get]
  cases registered : SourceControl.register fabric.registry source with
  | error err => rfl
  | ok defn =>
    simp only [ends_of_ok, ends_bind, ends_modify, control_get_ends]
    cases found : (fabric.registry.put defn).get source.key with
    | none => trivial
    | some stored => exact ⟨key_of_get found, trivial⟩

theorem socket_register_ends (adapter : SourceAdapter) (fabric : Fabric) :
    Command.Ends (socketRegister adapter) (fun _ after => after.jobs = fabric.jobs)
      (fun _ after => after.jobs = fabric.jobs) fabric := by
  unfold socketRegister
  rw [ends_bind, ends_get]
  split_ifs
  · rfl
  · rfl

theorem polling_register_ends (job : PollingJob) (fabric : Fabric) :
    Command.Ends (pollingRegister job)
      (fun _ after => ∀ other ∈ after.jobs, other ∈ fabric.jobs ∨ other = job)
      (fun _ after => after.jobs = fabric.jobs) fabric := by
  unfold pollingRegister
  rw [ends_bind, ends_get]
  split_ifs
  · rfl
  · intro other mem
    rcases List.mem_append.mp mem with before | new
    · exact Or.inl before
    · exact Or.inr (List.mem_singleton.mp new)

theorem register_ends (source : SourceDefinition) (adapter : SourceAdapter) (fabric : Fabric) :
    Command.Ends (register source adapter) (fun _ after => JobsOf source fabric after)
      (fun _ after => JobsOf source fabric after) fabric := by
  have same (after : Fabric) (jobs : after.jobs = fabric.jobs) : JobsOf source fabric after := by
    intro job mem
    rw [jobs] at mem
    exact Or.inl mem
  unfold register
  rw [ends_bind]
  apply (control_register_ends source fabric).mono
  · rintro defn stored ⟨own, jobs⟩
    rw [ends_bind]
    apply (socket_register_ends adapter stored).mono
    · intro _ socketed socketJobs
      rw [jobs] at socketJobs
      split_ifs with polls
      · rw [ends_bind]
        apply (polling_register_ends _ socketed).mono
        · intro _ after added job mem
          rw [← socketJobs]
          rcases added job mem with before | new
          · exact Or.inl before
          · rw [new]
            exact Or.inr own
        · exact fun _ after raised => same after (raised.trans socketJobs)
      · exact same socketed socketJobs
    · exact fun _ after raised => same after (raised.trans jobs)
  · exact fun _ after raised => same after raised

def KeepsJobs (before after : Fabric) : Prop := ∀ job ∈ after.jobs, job ∈ before.jobs

theorem KeepsJobs.refl (fabric : Fabric) : KeepsJobs fabric fabric := fun _ mem => mem

theorem transition_keeps_jobs (key : SourceKey) (target : SourceStatus) (fabric : Fabric) :
    Command.Ends (controlTransition key target) (fun _ after => KeepsJobs fabric after)
      (fun _ after => KeepsJobs fabric after) fabric := by
  unfold controlTransition
  simp only [ends_bind, ends_get]
  cases SourceControl.transition key fabric.registry target with
  | error err => exact KeepsJobs.refl fabric
  | ok defn =>
    simp only [ends_of_ok, ends_bind, ends_modify, control_get_ends]
    split
    · exact KeepsJobs.refl fabric
    · exact KeepsJobs.refl fabric

theorem delete_keeps_jobs (key : SourceKey) (fabric : Fabric) :
    Command.Ends (controlDelete key) (fun _ after => KeepsJobs fabric after)
      (fun _ after => KeepsJobs fabric after) fabric := by
  unfold controlDelete
  rw [ends_bind, control_get_ends]
  split
  · exact KeepsJobs.refl fabric
  · exact KeepsJobs.refl fabric

theorem socket_unregister_keeps_jobs (sourceId : String) (fabric : Fabric) :
    Command.Ends (socketUnregister sourceId) (fun _ after => KeepsJobs fabric after)
      (fun _ after => KeepsJobs fabric after) fabric := by
  unfold socketUnregister
  rw [ends_bind, ends_get]
  split_ifs
  · exact KeepsJobs.refl fabric
  · exact KeepsJobs.refl fabric

theorem polling_unregister_keeps_jobs (sourceId : String) (fabric : Fabric) :
    Command.Ends (pollingUnregister sourceId) (fun _ after => KeepsJobs fabric after)
      (fun _ after => KeepsJobs fabric after) fabric := by
  unfold pollingUnregister
  rw [ends_bind, ends_get]
  split_ifs
  · exact KeepsJobs.refl fabric
  · exact fun job mem => List.mem_of_mem_filter mem

end Fabric

theorem job_of_next (call : FabricCall) (fabric : Fabric)
    {job : PollingJob} (mem : job ∈ ((sourceFabric policy).next call fabric).jobs) :
    job ∈ fabric.jobs ∨ ∃ source adapter, call = .register source adapter ∧
      job.key = source.key := by
  have kept (ends : Command.Ends (call.command policy)
      (fun _ after => Fabric.KeepsJobs fabric after)
      (fun _ after => Fabric.KeepsJobs fabric after) fabric) : job ∈ fabric.jobs :=
    ends.outcome (fun _ after => Fabric.KeepsJobs fabric after) job mem
  cases call with
  | register source adapter =>
    have ends : Command.Ends (command policy (.register source adapter))
        (fun _ after => Fabric.JobsOf source fabric after)
        (fun _ after => Fabric.JobsOf source fabric after) fabric := by
      rw [command, ends_bind]
      exact register_ends source adapter fabric
    rcases ends.outcome (fun _ after => Fabric.JobsOf source fabric after) job mem with
      before | own
    · exact Or.inl before
    · exact Or.inr ⟨source, adapter, rfl, own⟩
  | transition key target =>
    apply Or.inl
    apply kept
    rw [command, ends_bind]
    exact transition_keeps_jobs key target fabric
  | delete key =>
    apply Or.inl
    apply kept
    rw [command, ends_bind]
    exact delete_keeps_jobs key fabric
  | unregisterAdapter sourceId =>
    apply Or.inl
    apply kept
    rw [command, ends_bind]
    exact socket_unregister_keeps_jobs sourceId fabric
  | unregisterJob sourceId =>
    apply Or.inl
    apply kept
    rw [command, ends_bind]
    exact polling_unregister_keeps_jobs sourceId fabric
  | pollOnce key run =>
    apply Or.inl
    cases poll_outcome policy (show polls (.pollOnce key run) = some key from rfl) fabric with
    | idle same unrun => exact same ▸ mem
    | run own polled filed trailed => exact trailed.jobs ▸ mem
  | pollWithRetry key runs =>
    apply Or.inl
    have polls : polls (.pollWithRetry key runs) = some key := rfl
    cases poll_outcome policy polls fabric with
    | idle same unrun => exact same ▸ mem
    | run own polled filed trailed => exact trailed.jobs ▸ mem

theorem job_of_run (reg : SourceRegistry) (calls : List FabricCall) {job : PollingJob}
    (mem : job ∈ ((sourceFabric policy).run calls { registry := reg }).jobs) :
    ∃ source adapter, .register source adapter ∈ calls ∧ job.key = source.key := by
  induction calls using List.reverseRecOn with
  | nil => cases mem
  | append_singleton past call ih =>
    rw [Machine.run_concat] at mem
    rcases job_of_next policy call _ mem with before | ⟨source, adapter, same, own⟩
    · obtain ⟨source, adapter, listed, own⟩ := ih before
      exact ⟨source, adapter, List.mem_append_left _ listed, own⟩
    · apply Exists.intro source
      apply Exists.intro adapter
      rw [same]
      exact ⟨List.mem_append_right _ List.mem_cons_self, own⟩

/-- Every poll of a run is contained exactly when each finds the job of its own source under the
identifier that it asks for, as it does when no other tenant or workspace registers a source
under an identifier that is polled. -/
theorem polls_contained_iff (policy : RetryPolicy) (reg : SourceRegistry)
    (calls : List FabricCall) :
    ((∀ before call after, calls = before ++ call :: after → PollContained policy call
      ((sourceFabric policy).run before { registry := reg })) ↔
      (sourceFabric policy).Throughout OwnJob calls { registry := reg }) ∧
    ((∀ source adapter, .register source adapter ∈ calls → ∀ call ∈ calls, ∀ key ∈ call.polls,
      source.sourceId = key.sourceId → source.key = key) →
      (sourceFabric policy).Throughout OwnJob calls { registry := reg }) := by
  constructor
  · rw [Machine.throughout_iff]
    constructor
    · intro contained before call after split
      exact (poll_contained_iff policy call _).mp (contained before call after split)
    · intro own before call after split
      exact (poll_contained_iff policy call _).mpr (own before call after split)
  · intro alone
    rw [Machine.throughout_iff]
    intro before call after split key polls _ job filed
    have mem : job ∈ ((sourceFabric policy).run before { registry := reg }).jobs :=
      List.mem_of_find?_eq_some filed
    have named : job.sourceId = key.sourceId := by simpa using List.find?_some filed
    obtain ⟨source, adapter, listed, own⟩ := job_of_run policy reg before mem
    have polled : call ∈ calls := by
      rw [split]
      exact List.mem_append_right _ List.mem_cons_self
    have registered : .register source adapter ∈ calls := by
      rw [split]
      exact List.mem_append_left _ listed
    rw [own]
    apply alone source adapter registered call polled key polls
    rw [← named]
    exact (congrArg SourceKey.sourceId own).symm

def polledSource (tenant : String) (required : tenant ≠ "") : SourceDefinition :=
  { sourceId := "s", tenantId := tenant, workspaceId := "w", provider := "rss", mode := .poll
    required := ⟨required, by decide⟩ }

/-- The registration of a second tenant raises, and its poll runs the job of the first. -/
theorem poll_crosses_tenants :
    let first := polledSource "t" (by decide)
    let second := polledSource "u" (by decide)
    let calls : List FabricCall := [.register first ⟨"a"⟩, .register second ⟨"b"⟩,
      .transition second.key .enabled]
    let run : AdapterRun :=
      { drafts := [{ tenantId := "", workspaceId := "" }], result := .ok ⟨"s", 1, [], [], []⟩ }
    let fabric := (sourceFabric {}).run calls {}
    let effects := newEffects {} (.pollOnce second.key run) fabric
    .ingested { tenantId := "t", workspaceId := "w" } ∈ effects ∧
      .checked second.key true ∈ effects ∧ ¬PollContained {} (.pollOnce second.key run) fabric := by
  intro first second calls run fabric effects
  have crossed : .ingested { tenantId := "t", workspaceId := "w" } ∈ effects := by decide +kernel
  apply And.intro crossed
  apply And.intro (by decide +kernel)
  intro contained
  have own := (contained second.key rfl).requests _ crossed
  exact absurd own.1 (by decide)

end Ois.Sources
