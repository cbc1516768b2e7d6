import Ois.Library.Interleaving
import Ois.Sources.Fabric

/-!
# Operators and telemetry

`enable`, `pause` and `disable` of `infrastructure/source_fabric.py`, with `poll_once`,
`poll_with_retry` and `receive_webhook`, statement by statement.
-/

namespace Ois.Sources

open Ois.Library Ois.Kernel SourceRegistry Machine

inductive OperatorCall where
  | enable | pause | disable
  deriving DecidableEq, Repr

def OperatorCall.target : OperatorCall → SourceStatus
  | enable => .enabled
  | pause => .paused
  | disable => .disabled

inductive SourceWork where
  | poll (left : Nat) (failed : Bool)
  | webhook (fail : Option PyError)
  deriving DecidableEq, Repr

def SourceWork.failed : SourceWork → Bool
  | .poll _ failed => failed
  | .webhook fail => fail.isSome

/-- `poll_once` has no further round. -/
inductive LifecycleRequest where
  | operator (call : OperatorCall) (key : SourceKey)
  | poll (key : SourceKey) (rounds : Nat)
  | webhook (key : SourceKey)
  deriving DecidableEq, Repr

structure WorkEnd where
  registered : Bool := true
  failure : Option PyError := none
  deriving DecidableEq, Repr

inductive LifecyclePoint where
  | polling (key : SourceKey) (left : Nat)
  | polled (key : SourceKey) (left : Nat) (failed : Bool)
  | receiving (defn : SourceDefinition)
  | moving (work : SourceWork) (key : SourceKey) (target : SourceStatus)
  | storing (caller : Option SourceWork) (updated : SourceDefinition)
  | rereading (caller : Option SourceWork) (key : SourceKey)
  deriving DecidableEq, Repr

inductive LifecycleSaid where
  | underway
  | returned
  | raised (err : PyError)
  | recordingRaised (err : PyError)
  deriving DecidableEq, Repr

def notWebhook (sourceId : String) : PyError :=
  ⟨.valueError, "source is not configured for webhooks: " ++ sourceId⟩

def webhookMissing (sourceId : String) : PyError :=
  ⟨.other "KeyError", Kernel.reprStr ("webhook gateway not registered: " ++ sourceId)⟩

def requireWebhook (registered : Bool) (key : SourceKey) (reg : SourceRegistry) :
    Except PyError SourceDefinition := do
  let source ← requireRetryable key reg
  if source.mode ≠ .webhook then .error (notWebhook key.sourceId)
  else if registered then return source
  else .error (webhookMissing key.sourceId)

theorem require_webhook_ok {registered : Bool} {key : SourceKey} {reg : SourceRegistry}
    {source : SourceDefinition} (required : requireWebhook registered key reg = .ok source) :
    reg.get key = some source ∧ (source.status = .enabled ∨ source.status = .degraded) := by
  rw [← require_retryable_ok]
  unfold requireWebhook at required
  cases retryable : requireRetryable key reg with
  | error err =>
    rw [retryable] at required
    cases required
  | ok other =>
    simp only [retryable, bind, Except.bind] at required
    split_ifs at required
    exact required

abbrev LifecycleStride := Stride LifecyclePoint SourceRegistry LifecycleSaid

namespace Lifecycle

def goOn (raised : PyError → LifecycleSaid) {Value : Type} (point : Value → LifecyclePoint)
    (res : Except PyError Value) (reg : SourceRegistry) : LifecycleStride :=
  match res with
  | .error err => .ending reg (raised err)
  | .ok value => .going reg (point value) .underway

def reading (raised : PyError → LifecycleSaid) (key : SourceKey) (reg : SourceRegistry)
    (next : SourceDefinition → LifecycleStride) : LifecycleStride :=
  match SourceControl.get key reg with
  | .error err => .ending reg (raised err)
  | .ok defn => next defn

def requireJob (registered : Bool) (key : SourceKey) : Except PyError Unit :=
  if registered then .ok () else .error ⟨.other "KeyError", Kernel.reprStr key.sourceId⟩

def recorded (key : SourceKey) (reg : SourceRegistry) : SourceWork → LifecycleStride
  | .poll (left + 1) true => .going reg (.polling key left) .underway
  | .poll _ _ => .ending reg .returned
  | .webhook none => .ending reg .returned
  | .webhook (some err) => .ending reg (.raised err)

/-- `_record_success(definition)` or `_record_failure(definition, error=error)`. -/
def record (work : SourceWork) (defn : SourceDefinition) (reg : SourceRegistry) :
    LifecycleStride :=
  let shown : SourceStatus := if work.failed then .enabled else .degraded
  let target : SourceStatus := if work.failed then .degraded else .enabled
  if defn.status = shown then .going reg (.moving work defn.key target) .underway
  else recorded defn.key reg work

def enter : LifecycleRequest → WorkEnd → SourceRegistry → LifecycleStride
  | .operator call key, _, reg =>
    goOn .raised (.storing none) (SourceControl.transition key reg call.target) reg
  | .poll key rounds, _, reg =>
    goOn .raised (fun _ => .polling key rounds) (requirePollable key reg) reg
  | .webhook key, ending, reg =>
    goOn .raised .receiving (requireWebhook ending.registered key reg) reg

def proceed : LifecyclePoint → WorkEnd → SourceRegistry → LifecycleStride
  | .polling key left, ending, reg =>
    goOn .raised (fun _ => .polled key left ending.failure.isSome)
      (requireJob ending.registered key) reg
  | .polled key left failed, _, reg =>
    reading .raised key reg fun defn =>
      record (.poll left failed) defn reg
  | .receiving defn, ending, reg =>
    record (.webhook ending.failure) defn reg
  | .moving work key target, _, reg =>
    goOn .recordingRaised (.storing (some work)) (SourceControl.transition key reg target)
      reg
  | .storing caller updated, _, reg =>
    .going (reg.put updated) (.rereading caller updated.key) .underway
  | .rereading none key, _, reg =>
    reading .raised key reg fun _ => .ending reg .returned
  | .rereading (some work) key, _, reg =>
    reading .recordingRaised key reg fun _ => recorded key reg work

def program : Program LifecycleRequest WorkEnd LifecyclePoint SourceRegistry LifecycleSaid :=
  ⟨enter, proceed⟩

end Lifecycle

open Lifecycle

abbrev LifecycleStatement := Statement LifecycleRequest WorkEnd

abbrev LifecycleScene := Scene LifecyclePoint SourceRegistry

def lifecycles : Machine LifecycleStatement LifecycleScene (Option LifecycleSaid) :=
  program.machine

def Begun (key : SourceKey) (reg : SourceRegistry) : Prop :=
  ∃ source ∈ reg.get key, source.status ≠ .registered

def Stopped (key : SourceKey) (reg : SourceRegistry) : Prop :=
  ∃ source ∈ reg.get key, source.status = .paused ∨ source.status = .disabled

def Live (key : SourceKey) (reg : SourceRegistry) : Prop :=
  ∃ source ∈ reg.get key, source.status = .enabled ∨ source.status = .degraded

instance (key : SourceKey) (reg : SourceRegistry) : Decidable (Stopped key reg) :=
  inferInstanceAs (Decidable (∃ source ∈ reg.get key, _))

instance (key : SourceKey) (reg : SourceRegistry) : Decidable (Live key reg) :=
  inferInstanceAs (Decidable (∃ source ∈ reg.get key, _))

section registries

variable {key : SourceKey} {reg : SourceRegistry} {updated : SourceDefinition}

theorem not_live_of_stopped (stopped : Stopped key reg) : ¬Live key reg := by
  rintro ⟨source, found, live⟩
  obtain ⟨other, same, stops⟩ := stopped
  obtain rfl : source = other := Option.some.inj (found.symm.trans same)
  rcases stops with status | status
  · simp [status] at live
  · simp [status] at live

theorem begun_put (status : updated.status ≠ .registered) (begun : Begun key reg) :
    Begun key (reg.put updated) := by
  unfold Begun
  rw [get_put]
  split_ifs
  · exact ⟨updated, rfl, status⟩
  · exact begun

theorem stopped_put (stops : updated.key = key →
      updated.status = .paused ∨ updated.status = .disabled) (stopped : Stopped key reg) :
    Stopped key (reg.put updated) := by
  unfold Stopped
  rw [get_put]
  split_ifs with own
  · exact ⟨updated, rfl, stops own.symm⟩
  · exact stopped

theorem live_put (status : updated.status = .enabled ∨ updated.status = .degraded) :
    Live updated.key (reg.put updated) := by
  unfold Live
  rw [get_put, if_pos rfl]
  exact ⟨updated, rfl, status⟩

theorem begun_of_retryable {source : SourceDefinition} (found : reg.get key = some source)
    (status : source.status = .enabled ∨ source.status = .degraded) : Begun key reg := by
  apply Exists.intro source
  apply And.intro found
  rcases status with status | status
  · simp [status]
  · simp [status]

end registries

/-- What is known of a source at a point of a call. -/
def Sound (reg : SourceRegistry) : LifecyclePoint → Prop
  | .polling key _ => Begun key reg
  | .polled key _ _ => Begun key reg
  | .receiving defn => Begun defn.key reg
  | .moving _ key target => Begun key reg ∧ (target = .enabled ∨ target = .degraded)
  | .storing none updated =>
    updated.status = .enabled ∨ updated.status = .paused ∨ updated.status = .disabled
  | .storing (some _) updated =>
    Begun updated.key reg ∧ (updated.status = .enabled ∨ updated.status = .degraded)
  | .rereading none _ => True
  | .rereading (some _) key => Begun key reg

theorem Sound.mono {reg later : SourceRegistry} {point : LifecyclePoint}
    (begun : ∀ key, Begun key reg → Begun key later) (sound : Sound reg point) :
    Sound later point := by
  cases point with
  | polling key left => exact begun key sound
  | polled key left failed => exact begun key sound
  | receiving defn => exact begun defn.key sound
  | moving work key target => exact ⟨begun key sound.1, sound.2⟩
  | storing caller updated =>
    cases caller with
    | none => exact sound
    | some work => exact ⟨begun updated.key sound.1, sound.2⟩
  | rereading caller key =>
    cases caller with
    | none => trivial
    | some work => exact begun key sound

theorem Sound.begins {reg : SourceRegistry} {caller : Option SourceWork}
    {updated : SourceDefinition} (sound : Sound reg (.storing caller updated)) :
    updated.status ≠ .registered := by
  cases caller with
  | none =>
    rcases sound with status | status | status
    · simp [status]
    · simp [status]
    · simp [status]
  | some work =>
    rcases sound.2 with status | status
    · simp [status]
    · simp [status]

namespace Lifecycle

section points

variable {Value : Type} {raised : PyError → LifecycleSaid} {point : Value → LifecyclePoint}
  {res : Except PyError Value} {reg : SourceRegistry} {reached : LifecyclePoint}
  {key : SourceKey} {work : SourceWork} {defn : SourceDefinition}

@[simp] theorem go_on_shared : (goOn raised point res reg).shared = reg := by
  unfold goOn
  cases res with
  | ok value => rfl
  | error err => rfl

@[simp] theorem recorded_shared : (recorded key reg work).shared = reg := by
  unfold recorded
  split
  · rfl
  · rfl
  · rfl
  · rfl

@[simp] theorem record_shared : (record work defn reg).shared = reg := by
  unfold record
  dsimp only
  split_ifs
  · rfl
  · exact recorded_shared
  · rfl
  · exact recorded_shared

theorem reading_shared {next : SourceDefinition → LifecycleStride}
    (same : ∀ defn, (next defn).shared = reg) :
    (reading raised key reg next).shared = reg := by
  unfold reading
  cases SourceControl.get key reg with
  | error err => rfl
  | ok defn => exact same defn

theorem reading_point {next : SourceDefinition → LifecycleStride}
    (goes : (reading raised key reg next).point = some reached) :
    ∃ defn, defn.key = key ∧ (next defn).point = some reached := by
  unfold reading at goes
  cases got : SourceControl.get key reg with
  | error err =>
    rw [got] at goes
    cases goes
  | ok defn =>
    rw [got] at goes
    exact ⟨defn, key_of_get (SourceControl.get_ok.mp got), goes⟩

theorem go_on_point (goes : (goOn raised point res reg).point = some reached) :
    ∃ value, res = .ok value ∧ point value = reached := by
  unfold goOn at goes
  cases res with
  | ok value => exact ⟨value, rfl, Option.some.inj goes⟩
  | error err => cases goes

theorem recorded_point (goes : (recorded key reg work).point = some reached) :
    ∃ left, reached = .polling key left := by
  unfold recorded at goes
  split at goes
  · exact ⟨_, (Option.some.inj goes).symm⟩
  · cases goes
  · cases goes
  · cases goes

theorem recorded_sound (begun : Begun key reg)
    (goes : (recorded key reg work).point = some reached) : Sound reg reached := by
  obtain ⟨left, rfl⟩ := recorded_point goes
  exact begun

theorem record_sound (begun : Begun defn.key reg)
    (goes : (record work defn reg).point = some reached) : Sound reg reached := by
  unfold record at goes
  dsimp only at goes
  split_ifs at goes
  · rw [← Option.some.inj goes]
    exact ⟨begun, Or.inr rfl⟩
  · exact recorded_sound begun goes
  · rw [← Option.some.inj goes]
    exact ⟨begun, Or.inl rfl⟩
  · exact recorded_sound begun goes

end points

@[simp] theorem enter_shared (req : LifecycleRequest) (ending : WorkEnd)
    (reg : SourceRegistry) : (enter req ending reg).shared = reg := by
  cases req with
  | operator | poll | webhook => exact go_on_shared

theorem proceed_shared (point : LifecyclePoint) (ending : WorkEnd) (reg : SourceRegistry) :
    (proceed point ending reg).shared = reg ∨
      ∃ caller updated, point = .storing caller updated ∧
      (proceed point ending reg).shared = reg.put updated := by
  cases point with
  | polling key left => exact Or.inl go_on_shared
  | polled key left failed => exact Or.inl (reading_shared fun defn => record_shared)
  | receiving defn => exact Or.inl record_shared
  | moving work key target => exact Or.inl go_on_shared
  | storing caller updated => exact Or.inr ⟨caller, updated, rfl, rfl⟩
  | rereading caller key =>
    apply Or.inl
    cases caller with
    | none => exact reading_shared fun defn => rfl
    | some work => exact reading_shared fun defn => recorded_shared

theorem enter_sound {req : LifecycleRequest} {ending : WorkEnd} {reg : SourceRegistry}
    {reached : LifecyclePoint} (goes : (enter req ending reg).point = some reached) :
    Sound (enter req ending reg).shared reached := by
  rw [enter_shared]
  cases req with
  | operator call key =>
    obtain ⟨updated, moved, rfl⟩ := go_on_point goes
    have status : updated.status = call.target := (SourceControl.transition_ok moved).2
    change updated.status = _ ∨ _
    rw [status]
    cases call with
    | enable => exact Or.inl rfl
    | pause => exact Or.inr (Or.inl rfl)
    | disable => exact Or.inr (Or.inr rfl)
  | poll key rounds =>
    obtain ⟨source, required, rfl⟩ := go_on_point goes
    have pollable := require_pollable_ok.mp required
    exact begun_of_retryable pollable.1 pollable.2.1
  | webhook key =>
    obtain ⟨source, required, rfl⟩ := go_on_point goes
    have retryable := require_webhook_ok required
    have own : source.key = key := key_of_get retryable.1
    change Begun source.key reg
    rw [own]
    exact begun_of_retryable retryable.1 retryable.2

theorem proceed_sound {point reached : LifecyclePoint} {ending : WorkEnd}
    {reg : SourceRegistry} (sound : Sound reg point)
    (goes : (proceed point ending reg).point = some reached) :
    Sound (proceed point ending reg).shared reached := by
  rcases proceed_shared point ending reg with same | put
  · rw [same]
    cases point with
    | polling key left =>
      obtain ⟨_, _, rfl⟩ := go_on_point goes
      exact sound
    | polled key left failed =>
      obtain ⟨defn, own, recording⟩ := reading_point goes
      apply record_sound _ recording
      rw [own]
      exact sound
    | receiving defn => exact record_sound sound goes
    | moving work key target =>
      obtain ⟨updated, moved, rfl⟩ := go_on_point goes
      obtain ⟨own, status⟩ := SourceControl.transition_ok moved
      change Begun updated.key reg ∧ (updated.status = _ ∨ updated.status = _)
      rw [own, status]
      exact sound
    | storing caller updated =>
      rw [← Option.some.inj goes]
      cases caller with
      | none => trivial
      | some work => exact sound.1
    | rereading caller key =>
      cases caller with
      | none =>
        obtain ⟨_, _, ends⟩ := reading_point goes
        cases ends
      | some work =>
        obtain ⟨_, _, recording⟩ := reading_point goes
        exact recorded_sound sound recording
  · obtain ⟨caller, updated, rfl, changed⟩ := put
    rw [changed, ← Option.some.inj goes]
    cases caller with
    | none => trivial
    | some work => exact begun_put sound.begins sound.1

end Lifecycle

def SoundScene (scene : LifecycleScene) : Prop :=
  ∀ n point, scene.calls n = some point → Sound scene.shared point

variable (stmt : LifecycleStatement) {scene : LifecycleScene} {key : SourceKey}
  {reg : SourceRegistry}

theorem shared_next (scene : LifecycleScene) :
    (lifecycles.next stmt scene).shared = scene.shared ∨
      ∃ n input caller updated, stmt = .proceed n input ∧
      scene.calls n = some (.storing caller updated) ∧
      (lifecycles.next stmt scene).shared = scene.shared.put updated := by
  have happens := program.machine_happens stmt scene
  change (program.machine stmt scene).1.shared = _ ∨ ∃ n input caller updated, _ ∧ _ ∧
      (program.machine stmt scene).1.shared = _
  generalize program.machine stmt scene = res at happens ⊢
  cases happens with
  | ignored => exact Or.inl rfl
  | crashed call => exact Or.inl rfl
  | entered call req input free => exact Or.inl (enter_shared req input _)
  | proceeded call point input reached =>
    rcases proceed_shared point input scene.shared with same | put
    · exact Or.inl same
    · obtain ⟨caller, updated, rfl, changed⟩ := put
      exact Or.inr ⟨call, input, caller, updated, rfl, reached, changed⟩

theorem begun_next (sound : SoundScene scene) (begun : Begun key scene.shared) :
    Begun key (lifecycles.next stmt scene).shared := by
  rcases shared_next stmt scene with same | put
  · rw [same]
    exact begun
  · obtain ⟨n, input, caller, updated, _, reached, changed⟩ := put
    rw [changed]
    exact begun_put (sound n _ reached).begins begun

theorem sound_next (sound : SoundScene scene) : SoundScene (lifecycles.next stmt scene) := by
  apply program.points_next Sound stmt scene
  · intro n req input point _ goes
    exact enter_sound goes
  · intro n past input point _ _ known goes
    exact proceed_sound known goes
  · intro point known
    exact known.mono fun _ begun => begun_next stmt sound begun
  · exact sound

theorem sound_quiet (reg : SourceRegistry) : SoundScene (Scene.quiet reg) := by
  intro n point reached
  cases reached

theorem sound_run (stmts : List LifecycleStatement) (reg : SourceRegistry) :
    SoundScene (lifecycles.run stmts (Scene.quiet reg)) :=
  lifecycles.run_invariant (fun stmt _ sound => sound_next stmt sound) stmts
    (sound_quiet reg)

/-- An operator's call does not enable the source now. -/
def Spares (key : SourceKey) : LifecyclePoint → SourceRegistry → Prop
  | .storing none updated, _ => updated.key = key → updated.status ≠ .enabled
  | _, _ => True

instance (key : SourceKey) :
    ∀ (point : LifecyclePoint) (reg : SourceRegistry), Decidable (Spares key point reg)
  | .storing none updated, _ => inferInstanceAs (Decidable (updated.key = key → _))
  | .storing (some _) _, _ => .isTrue trivial
  | .polling _ _, _ => .isTrue trivial
  | .polled _ _ _, _ => .isTrue trivial
  | .receiving _, _ => .isTrue trivial
  | .moving _ _ _, _ => .isTrue trivial
  | .rereading _ _, _ => .isTrue trivial

/-- The recording at this point meets no operator's decision: the source has not been disabled,
has not been paused before it is degraded, and has not been stopped since it was read. -/
def Unhindered : LifecyclePoint → SourceRegistry → Prop
  | .moving _ key target, reg => ∀ source ∈ reg.get key,
      source.status ≠ .disabled ∧ (source.status = .paused → target = .enabled)
  | .storing (some _) updated, reg => ¬Stopped updated.key reg
  | _, _ => True

def RecordsQuietly (stmt : LifecycleStatement) (scene : LifecycleScene) : Prop :=
  ∀ cur target, lifecycles.answer stmt scene ≠
    some (.recordingRaised (transitionRefused cur target))

structure OperatorsWin (reg : SourceRegistry) (stmts : List LifecycleStatement) :
    Prop where
  stays : ∀ key before during after, stmts = before ++ (during ++ after) →
    Stopped key (lifecycles.run before (Scene.quiet reg)).shared →
      lifecycles.Throughout (Statement.GoesOn (Spares key)) during
        (lifecycles.run before (Scene.quiet reg)) →
          ¬Live key (lifecycles.run (before ++ during) (Scene.quiet reg)).shared
  quiet : lifecycles.Throughout RecordsQuietly stmts (Scene.quiet reg)

theorem stopped_next {stmt : LifecycleStatement} (sound : SoundScene scene)
    (unhindered : stmt.GoesOn Unhindered scene)
    (spares : stmt.GoesOn (Spares key) scene) (stopped : Stopped key scene.shared) :
    Stopped key (lifecycles.next stmt scene).shared := by
  rcases shared_next stmt scene with same | put
  · rw [same]
    exact stopped
  · obtain ⟨n, input, caller, updated, rfl, reached, changed⟩ := put
    rw [changed]
    apply stopped_put _ stopped
    intro own
    cases caller with
    | none =>
      rcases sound n _ reached with enabled | stops
      · exact absurd enabled (spares _ reached own)
      · exact stops
    | some work =>
      have clear : ¬Stopped updated.key scene.shared := unhindered _ reached
      rw [own] at clear
      exact absurd stopped clear

theorem stopped_run {stmts : List LifecycleStatement} (sound : SoundScene scene)
    (unhindered : lifecycles.Throughout (Statement.GoesOn Unhindered) stmts scene)
    (spares : lifecycles.Throughout (Statement.GoesOn (Spares key)) stmts scene)
    (stopped : Stopped key scene.shared) :
    Stopped key (lifecycles.run stmts scene).shared := by
  induction stmts generalizing scene with
  | nil => exact stopped
  | cons stmt rest ih =>
    apply ih (sound_next stmt sound) unhindered.2 spares.2
    exact stopped_next sound unhindered.1 spares.1 stopped

theorem refused_iff {cur target : SourceStatus} (begun : cur ≠ .registered)
    (targets : target = .enabled ∨ target = .degraded) :
    target ≠ cur ∧ target ∉ cur.allowed ↔
      ¬(cur ≠ .disabled ∧ (cur = .paused → target = .enabled)) := by
  rcases targets with rfl | rfl
  · cases cur with
    | registered => exact absurd rfl begun
    | enabled | paused | degraded | disabled => decide
  · cases cur with
    | registered => exact absurd rfl begun
    | enabled | paused | degraded | disabled => decide

variable {target : SourceStatus}

theorem unhindered_iff {work : SourceWork} {source : SourceDefinition}
    (found : reg.get key = some source) :
    Unhindered (.moving work key target) reg ↔
      source.status ≠ .disabled ∧ (source.status = .paused → target = .enabled) := by
  constructor
  · exact fun all => all source found
  · intro own other there
    obtain rfl : source = other := Option.some.inj (found.symm.trans there)
    exact own

theorem hindered_of_refused {work : SourceWork} {err : PyError}
    (sound : Sound reg (.moving work key target))
    (refused : SourceControl.transition key reg target = .error err) :
    ¬Unhindered (.moving work key target) reg := by
  obtain ⟨⟨source, found, begun⟩, targets⟩ := sound
  rw [SourceControl.transition_of_get found] at refused
  rw [unhindered_iff found, ← refused_iff begun targets]
  exact (SourceDefinition.transition_error refused).2

theorem refused_of_hindered {work : SourceWork} (sound : Sound reg (.moving work key target))
    (hindered : ¬Unhindered (.moving work key target) reg) :
    ∃ cur, SourceControl.transition key reg target =
      .error (transitionRefused cur target) := by
  obtain ⟨⟨source, found, begun⟩, targets⟩ := sound
  rw [unhindered_iff found, ← refused_iff begun targets] at hindered
  apply Exists.intro source.status
  rw [SourceControl.transition_of_get found, SourceDefinition.transition, if_neg hindered.1,
    if_pos hindered.2]

namespace Lifecycle

section saids

variable {Value : Type} {point : Value → LifecyclePoint} {res : Except PyError Value}
  {reg : SourceRegistry} {key : SourceKey} {work : SourceWork}
  {defn : SourceDefinition} {err : PyError}

theorem go_on_said : (goOn .raised point res reg).said ≠ .recordingRaised err := by
  cases res with
  | ok | error => simp [goOn]

theorem recorded_said : (recorded key reg work).said ≠ .recordingRaised err := by
  unfold recorded
  split
  · simp
  · simp
  · simp
  · simp

theorem record_said : (record work defn reg).said ≠ .recordingRaised err := by
  unfold record
  dsimp only
  split_ifs
  · simp
  · exact recorded_said
  · simp
  · exact recorded_said

theorem reading_said {next : SourceDefinition → LifecycleStride}
    (quiet : ∀ defn, (next defn).said ≠ .recordingRaised err) :
    (reading .raised key reg next).said ≠ .recordingRaised err := by
  unfold reading
  cases SourceControl.get key reg with
  | error raised => simp
  | ok defn => exact quiet defn

theorem enter_said (req : LifecycleRequest) (ending : WorkEnd) :
    (enter req ending reg).said ≠ .recordingRaised err := by
  cases req with
  | operator | poll | webhook => exact go_on_said

theorem rereading_said {next : SourceDefinition → LifecycleStride}
    (quiet : ∀ defn, (next defn).said ≠ .recordingRaised err)
    (said : (reading .recordingRaised key reg next).said = .recordingRaised err) :
    err = notRegistered key.sourceId := by
  unfold reading SourceControl.get at said
  cases found : reg.get key with
  | none =>
    rw [found] at said
    exact (LifecycleSaid.recordingRaised.inj said).symm
  | some defn =>
    rw [found] at said
    exact absurd said (quiet defn)

theorem refused_of_said {point : LifecyclePoint} {ending : WorkEnd}
    (said : (proceed point ending reg).said = .recordingRaised err) :
    (∃ work key target, point = .moving work key target ∧
      SourceControl.transition key reg target = .error err) ∨
      ∃ key : SourceKey, err = notRegistered key.sourceId := by
  cases point with
  | polling key left => exact absurd said go_on_said
  | polled key left failed => exact absurd said (reading_said fun _ => record_said)
  | receiving defn => exact absurd said record_said
  | moving work key target =>
    cases moved : SourceControl.transition key reg target with
    | ok updated =>
      rw [proceed, moved] at said
      cases said
    | error raised =>
      rw [proceed, moved] at said
      rw [← LifecycleSaid.recordingRaised.inj said]
      exact Or.inl ⟨work, key, target, rfl, moved⟩
  | storing caller updated => cases said
  | rereading caller key =>
    cases caller with
    | none => exact absurd said (reading_said fun _ => by simp [Stride.ending])
    | some work => exact Or.inr ⟨key, rereading_said (fun _ => recorded_said) said⟩

end saids

end Lifecycle

variable {scene : LifecycleScene}

theorem records_quietly {stmt : LifecycleStatement} (sound : SoundScene scene)
    (unhindered : stmt.GoesOn Unhindered scene) : RecordsQuietly stmt scene := by
  intro cur target answered
  have happens := program.machine_happens stmt scene
  change (program.machine stmt scene).2 = _ at answered
  generalize program.machine stmt scene = res at happens answered
  cases happens with
  | ignored => cases answered
  | crashed call => cases answered
  | entered call req input free =>
    exact enter_said req input (Option.some.inj answered)
  | proceeded call point input reached =>
    rcases refused_of_said (Option.some.inj answered) with refused | missing
    · obtain ⟨work, key, aimed, rfl, refused⟩ := refused
      exact hindered_of_refused (sound call _ reached) refused (unhindered _ reached)
    · obtain ⟨key, same⟩ := missing
      exact absurd (congrArg PyError.kind same) (by simp [transitionRefused, notRegistered])

theorem raises_of_hindered {n : Nat} {work : SourceWork} {key : SourceKey}
    {target : SourceStatus} (input : WorkEnd) (sound : SoundScene scene)
    (reached : scene.calls n = some (.moving work key target))
    (hindered : ¬Unhindered (.moving work key target) scene.shared) :
    ∃ cur, lifecycles.answer (.proceed n input) scene =
      some (.recordingRaised (transitionRefused cur target)) := by
  obtain ⟨cur, refused⟩ := refused_of_hindered (sound n _ reached) hindered
  apply Exists.intro cur
  rw [lifecycles, program.answer_of_reached input reached]
  apply congrArg some
  change (goOn _ _ (SourceControl.transition key scene.shared target) _).said = _
  rw [refused]
  rfl

theorem live_of_put {n : Nat} {work : SourceWork} {updated : SourceDefinition}
    (input : WorkEnd) (sound : SoundScene scene)
    (reached : scene.calls n = some (.storing (some work) updated)) :
    Live updated.key (lifecycles.next (.proceed n input) scene).shared := by
  rw [lifecycles, program.next_of_reached input reached]
  exact live_put (sound n _ reached).2

/-- An operator's decision stays and no recording raises a lifecycle error, exactly when no
recording meets a decision that an operator has made since the source was read. -/
theorem operators_win_iff (reg : SourceRegistry) (stmts : List LifecycleStatement) :
    OperatorsWin reg stmts ↔
      lifecycles.Throughout (Statement.GoesOn Unhindered) stmts (Scene.quiet reg) := by
  constructor
  · intro wins
    rw [throughout_iff]
    intro before stmt after split
    have sound := sound_run before reg
    have quiet := throughout_iff.mp wins.quiet before stmt after split
    cases stmt with
    | enter n req input => trivial
    | crash n => trivial
    | proceed n input =>
      intro point reached
      by_contra hindered
      cases point with
      | moving work key target =>
        obtain ⟨cur, raises⟩ := raises_of_hindered input sound reached hindered
        exact quiet cur target raises
      | storing caller updated =>
        cases caller with
        | none => exact hindered trivial
        | some work =>
          have spares : lifecycles.Throughout (Statement.GoesOn (Spares updated.key))
              [.proceed n input] (lifecycles.run before (Scene.quiet reg)) := by
            apply And.intro _ trivial
            intro other there
            rw [← Option.some.inj (reached.symm.trans there)]
            trivial
          apply wins.stays updated.key before [.proceed n input] after split
            (not_not.mp hindered) spares
          rw [run_concat]
          exact live_of_put input sound reached
      | polling | polled | receiving | rereading => exact hindered trivial
  · intro unhindered
    constructor
    · intro key before during after split stopped spares
      rw [split] at unhindered
      have later := throughout_append.mp (throughout_append.mp unhindered).2
      rw [run_append]
      apply not_live_of_stopped
      exact stopped_run (sound_run before reg) later.1 spares stopped
    · rw [throughout_iff]
      intro before stmt after split
      apply records_quietly (sound_run before reg)
      exact throughout_iff.mp unhindered before stmt after split

def recordedSource (mode : SourceMode) (status : SourceStatus) : SourceDefinition :=
  { sourceId := "s", tenantId := "t", workspaceId := "w", provider := "rss", mode := mode
    status := status }

/-- A poll succeeds and reads that its source is degraded, an operator pauses the source, and the
recording enables it. A webhook fails whose source was enabled, an operator has disabled the
source, and the recording raises out of the webhook. -/
theorem recording_overrides_operators :
    (let source := recordedSource .poll .degraded
    let before : List LifecycleStatement := [.enter 0 (.poll source.key 0) {}, .proceed 0 {},
      .proceed 0 {}, .enter 1 (.operator .pause source.key) {}, .proceed 1 {}, .proceed 1 {}]
    let during : List LifecycleStatement := [.proceed 0 {}, .proceed 0 {}, .proceed 0 {}]
    ¬OperatorsWin ⟨[source], by decide⟩ (before ++ during)) ∧
    let source := recordedSource .webhook .enabled
    let stmts : List LifecycleStatement := [.enter 0 (.webhook source.key) {},
      .enter 1 (.operator .disable source.key) {}, .proceed 1 {}, .proceed 1 {},
      .proceed 0 { failure := some ⟨.valueError, "webhook payload must be valid JSON"⟩ }]
    lifecycles.answer (.proceed 0 {})
      (lifecycles.run stmts (Scene.quiet ⟨[source], by decide⟩)) =
      some (.recordingRaised (transitionRefused .disabled .degraded)) := by
  constructor
  · intro source before during wins
    have live : Live source.key (lifecycles.run (before ++ during)
        (Scene.quiet ⟨[source], by decide⟩)).shared := by decide +kernel
    apply wins.stays source.key before during [] _ (by decide +kernel) (by decide +kernel) live
    rw [List.append_nil]
  · decide +kernel

end Ois.Sources
