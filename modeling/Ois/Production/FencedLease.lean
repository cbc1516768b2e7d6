import Ois.Library.Dict
import Ois.Library.Machine
import Ois.Kernel.Types

/-!
# The lease of the production kernel

`FencedLease` of `ois_production_kernel.py`, for the leases on one key. `acquire` sends two
commands, and whatever other owners send may come between them: `INCR` of `key:counter` draws the
token, `SET` with `NX` and `PX` takes the key.
-/

namespace Ois.Production

open Ois.Library Ois.Kernel Machine

/-- What Redis has under `key:counter` and under `key`. -/
structure LeaseEntries where
  counter : Option Int := none
  value : Option String := none
  deriving DecidableEq, Repr

namespace LeaseEntries

variable (entries : LeaseEntries)

/-- The number that the counter stands at. -/
def count : Int := entries.counter.getD 0

def incr : LeaseEntries × Int :=
  ({ entries with counter := some (entries.count + 1) }, entries.count + 1)

/-- `SET` with `NX` and `PX`, and whether it wrote the value. -/
def setNx (value : String) (ttlMs : Int) : Except PyError (LeaseEntries × Bool) :=
  if ttlMs ≤ 0 then .error ⟨.other "ResponseError", "invalid expire time in 'set' command"⟩
  else
    match entries.value with
    | some _ => .ok (entries, false)
    | none => .ok ({ entries with value := some value }, true)

/-- `RELEASE`. -/
def release (value : String) : LeaseEntries :=
  if entries.value = some value then { entries with value := none } else entries

def expire : LeaseEntries := { entries with value := none }

end LeaseEntries

/-- The `owner` is drawn with `secrets.token_hex`. -/
structure FencedLease where
  owner : String
  ttlMs : Int := 15000
  deriving DecidableEq, Repr

def FencedLease.value (lease : FencedLease) (token : Int) : String :=
  toString token ++ ":" ++ lease.owner

/-- One call of `acquire` on a lease. -/
structure AcquireCall where
  lease : FencedLease
  number : Nat
  deriving DecidableEq, Repr

/-- Redis and the processes: the `token` that each call of `acquire` has drawn, the calls
whose `SET` is answered, and the attribute `token` of each lease. -/
structure LeaseUsers where
  entries : LeaseEntries := {}
  drawn : Dict AcquireCall Int := []
  answered : List AcquireCall := []
  tokens : Dict FencedLease Int := []
  deriving DecidableEq, Repr

inductive LeaseStep where
  | incr (call : AcquireCall)
  | setNx (call : AcquireCall)
  | release (lease : FencedLease)
  | expire
  deriving DecidableEq, Repr

namespace LeaseUsers

variable (users : LeaseUsers)

def contention : PyError := ⟨.other "KernelPanicException", "Execution lease contention"⟩

/-- The first command of `acquire`. A call sends it once. -/
def incr (call : AcquireCall) : LeaseUsers :=
  match users.drawn.lookup call with
  | some _ => users
  | none =>
    let (entries, token) := users.entries.incr
    { users with entries := entries, drawn := users.drawn ++ [(call, token)] }

/-- The call has drawn its token, and its `SET` is not answered. -/
def waiting? (call : AcquireCall) : Option Int :=
  if call ∈ users.answered then none else users.drawn.lookup call

/-- The second command of `acquire`, and what the call returns or raises. -/
def setNx (call : AcquireCall) : LeaseUsers × Option (Except PyError Int) :=
  match users.waiting? call with
  | none => (users, none)
  | some token =>
    let answered := { users with answered := call :: users.answered }
    match users.entries.setNx (call.lease.value token) call.lease.ttlMs with
    | .error err => (answered, some (.error err))
    | .ok (_, false) => (answered, some (.error contention))
    | .ok (entries, true) =>
      ({ answered with entries := entries, tokens := users.tokens.set call.lease token },
        some (.ok token))

def release (lease : FencedLease) : LeaseUsers :=
  match users.tokens.lookup lease with
  | none => users
  | some token => { users with entries := users.entries.release (lease.value token) }

/-- Any number of owners, one command at a time. The answer is the call of `acquire` that
ends with the command, with what it returns or raises. -/
def commands : Machine LeaseStep LeaseUsers (Option (AcquireCall × Except PyError Int)) :=
  fun step users =>
    match step with
    | .incr call => (users.incr call, none)
    | .setNx call => ((users.setNx call).1, (users.setNx call).2.map (call, ·))
    | .release lease => (users.release lease, none)
    | .expire => ({ users with entries := users.entries.expire }, none)

def holderIn : Option (AcquireCall × Except PyError Int) → Option (AcquireCall × Int)
  | some (call, .ok token) => some (call, token)
  | _ => none

/-- The successive holders and their tokens. -/
def holders (steps : List LeaseStep) : List (AcquireCall × Int) :=
  (commands.answers steps {}).filterMap holderIn

def usersAfter (steps : List LeaseStep) : LeaseUsers := commands.run steps {}

/-- The tokens increase in the order in which the calls become holder. -/
def Monotonic (steps : List LeaseStep) : Prop :=
  ((holders steps).map Prod.snd).Pairwise (· < ·)

def Precedes (call other : AcquireCall) (steps : List LeaseStep) : Prop :=
  ∃ first second, steps = first ++ second ∧
    LeaseStep.incr call ∈ first ∧ LeaseStep.incr other ∉ first

def FindsFree (call : AcquireCall) (users : LeaseUsers) : Prop :=
  (users.waiting? call).isSome = true ∧ users.entries.value = none ∧ 0 < call.lease.ttlMs

def InTurn (before : List LeaseStep) (step : LeaseStep) : Prop :=
  ∀ call, step = .setNx call → FindsFree call (usersAfter before) →
    ∀ holder ∈ holders before, Precedes holder.1 call before

/-- No call takes the key after a call that sent its `INCR` later has held it. -/
def NoneOvertaken (steps : List LeaseStep) : Prop := Historically InTurn steps

variable {call other : AcquireCall} {steps : List LeaseStep}

theorem precedes_or (different : call ≠ other) (sent : LeaseStep.incr call ∈ steps)
    (otherSent : LeaseStep.incr other ∈ steps) :
    Precedes call other steps ∨ Precedes other call steps := by
  obtain ⟨first, second, rfl, unsent⟩ := List.eq_append_cons_of_mem sent
  by_cases early : LeaseStep.incr other ∈ first
  · exact Or.inr ⟨first, _, rfl, early, unsent⟩
  · refine Or.inl ⟨first ++ [.incr call], second, by simp, by simp, ?_⟩
    simpa using ⟨early, different.symm⟩

theorem set_nx_cases (call : AcquireCall) (users : LeaseUsers) :
    (FindsFree call users ∧ ∃ token, users.drawn.lookup call = some token ∧
      users.setNx call = ({ users with
      answered := call :: users.answered
      entries := { users.entries with value := some (call.lease.value token) }
      tokens := users.tokens.set call.lease token }, some (.ok token))) ∨
      (¬FindsFree call users ∧ (users.setNx call).1.drawn = users.drawn ∧
      (users.setNx call).1.entries = users.entries ∧
      ∀ token, (users.setNx call).2 ≠ some (.ok token)) := by
  unfold FindsFree setNx LeaseEntries.setNx
  cases waiting : users.waiting? call with
  | none => simp
  | some token =>
    have drawn : users.drawn.lookup call = some token := by
      unfold waiting? at waiting
      split_ifs at waiting
      exact waiting
    by_cases expired : call.lease.ttlMs ≤ 0
    · simp [if_pos expired, Int.not_lt.mpr expired]
    · cases held : users.entries.value with
      | some value => simp [if_neg expired]
      | none => simp [if_neg expired, Int.not_le.mp expired, drawn]

theorem step_draws (step : LeaseStep) (users : LeaseUsers) :
    ((commands.next step users).drawn = users.drawn ∧
      (commands.next step users).entries.count = users.entries.count ∧
      ∀ call, step = .incr call → (users.drawn.lookup call).isSome = true) ∨
      ∃ call, step = .incr call ∧ users.drawn.lookup call = none ∧
      (commands.next step users).entries.count = users.entries.count + 1 ∧
      ∀ other, (commands.next step users).drawn.lookup other =
      (users.drawn.lookup other).or
      (if other = call then some (users.entries.count + 1) else none) := by
  simp only [next, commands]
  cases step with
  | incr call =>
    simp only [incr]
    cases drawn : users.drawn.lookup call with
    | some token =>
      refine Or.inl ⟨rfl, rfl, ?_⟩
      rintro other ⟨rfl⟩
      rw [drawn]
      rfl
    | none =>
      refine Or.inr ⟨call, rfl, drawn, rfl, ?_⟩
      intro other
      rw [Dict.lookup_append, List.lookup_cons]
      by_cases same : other = call
      · simp [same, LeaseEntries.incr]
      · have unequal : (other == call) = false := by simpa using same
        simp [same, unequal]
  | setNx call =>
    refine Or.inl (And.imp_right (⟨·, nofun⟩) ?_)
    dsimp only
    rcases set_nx_cases call users with ⟨_, token, _, taken⟩ | ⟨_, drawn, entries, _⟩
    · rw [taken]
      exact ⟨rfl, rfl⟩
    · rw [drawn, entries]
      exact ⟨rfl, rfl⟩
  | release lease =>
    refine Or.inl (And.imp_right (⟨·, nofun⟩) ?_)
    simp only [release, LeaseEntries.release]
    cases users.tokens.lookup lease with
    | none => exact ⟨rfl, rfl⟩
    | some token =>
      dsimp only
      split_ifs
      · exact ⟨rfl, rfl⟩
      · exact ⟨rfl, rfl⟩
  | expire => exact Or.inl ⟨rfl, rfl, nofun⟩

theorem draw_kept {step : LeaseStep} {users : LeaseUsers} {call : AcquireCall} {token : Int}
    (drawn : users.drawn.lookup call = some token) :
    (commands.next step users).drawn.lookup call = some token := by
  rcases step_draws step users with ⟨same, _⟩ | ⟨other, _, _, _, added⟩
  · rw [same]
    exact drawn
  · rw [added, drawn]
    rfl

theorem draw_kept_along {steps : List LeaseStep} {users : LeaseUsers} {call : AcquireCall}
    {token : Int} (drawn : users.drawn.lookup call = some token) :
    (commands.run steps users).drawn.lookup call = some token := by
  induction steps generalizing users with
  | nil => exact drawn
  | cons step rest ih => exact ih (draw_kept drawn)

theorem users_after_concat (steps : List LeaseStep) (step : LeaseStep) :
    usersAfter (steps ++ [step]) = commands.next step (usersAfter steps) :=
  commands.run_concat steps step {}

theorem drawn_iff (call : AcquireCall) (steps : List LeaseStep) :
    ((usersAfter steps).drawn.lookup call).isSome = true ↔ LeaseStep.incr call ∈ steps := by
  induction steps using List.reverseRecOn with
  | nil => simp [usersAfter, run]
  | append_singleton past step ih =>
    rw [users_after_concat, List.mem_append, ← ih, List.mem_singleton]
    rcases step_draws step (usersAfter past) with ⟨same, _, again⟩ | ⟨other, rfl, _, _, added⟩
    · rw [same]
      refine ⟨Or.inl, ?_⟩
      rintro (drawn | sent)
      · exact drawn
      · exact again call sent.symm
    · rw [added, Option.isSome_or, LeaseStep.incr.injEq]
      by_cases this : call = other
      · simp [this]
      · simp [this]

def Counted (users : LeaseUsers) : Prop :=
  ∀ call token, users.drawn.lookup call = some token → token ≤ users.entries.count

theorem counted_after (steps : List LeaseStep) : Counted (usersAfter steps) := by
  apply run_invariant
  · intro step users counted call token drawn
    rcases step_draws step users with ⟨same, count, _⟩ | ⟨other, _, _, count, added⟩
    · rw [same] at drawn
      rw [count]
      exact counted call token drawn
    · rw [added, Option.or_eq_some_iff] at drawn
      rw [count]
      rcases drawn with past | ⟨_, new⟩
      · have below := counted call token past
        omega
      · split_ifs at new
        have fresh := Option.some.inj new
        omega
  · intro call token drawn
    simp at drawn

def Above (bound : Int) (call : AcquireCall) (users : LeaseUsers) : Prop :=
  bound ≤ users.entries.count ∧ ∀ token, users.drawn.lookup call = some token → bound < token

theorem above_next {bound : Int} {call : AcquireCall} (step : LeaseStep) (users : LeaseUsers)
    (above : Above bound call users) : Above bound call (commands.next step users) := by
  obtain ⟨reached, drawn⟩ := above
  rcases step_draws step users with ⟨same, count, _⟩ | ⟨other, _, _, count, added⟩
  · unfold Above
    rw [same, count]
    exact ⟨reached, drawn⟩
  · refine ⟨by omega, ?_⟩
    intro token found
    rw [added, Option.or_eq_some_iff] at found
    rcases found with past | ⟨_, new⟩
    · exact drawn token past
    · split_ifs at new
      have fresh := Option.some.inj new
      omega

theorem precedes_lt {token later : Int} (precedes : Precedes call other steps)
    (drawn : (usersAfter steps).drawn.lookup call = some token)
    (otherDrawn : (usersAfter steps).drawn.lookup other = some later) : token < later := by
  obtain ⟨first, second, rfl, sent, unsent⟩ := precedes
  obtain ⟨early, found⟩ := Option.isSome_iff_exists.mp ((drawn_iff call first).mpr sent)
  rw [usersAfter, run_append] at drawn otherDrawn
  have same : early = token :=
    Option.some.inj ((draw_kept_along found).symm.trans drawn)
  have undrawn : (usersAfter first).drawn.lookup other = none := by
    rw [← Option.not_isSome_iff_eq_none, drawn_iff]
    exact unsent
  have above : Above early other (usersAfter first) := by
    refine ⟨counted_after first call early found, ?_⟩
    intro token drew
    rw [undrawn] at drew
    cases drew
  have stays := run_invariant above_next second above
  rw [← same]
  exact stays.2 later otherDrawn

theorem precedes_iff {token later : Int} (drawn : (usersAfter steps).drawn.lookup call = some token)
    (otherDrawn : (usersAfter steps).drawn.lookup other = some later) :
    Precedes call other steps ↔ token < later := by
  refine ⟨fun precedes => precedes_lt precedes drawn otherDrawn, ?_⟩
  intro lower
  have different : call ≠ other := by
    rintro rfl
    rw [drawn] at otherDrawn
    exact absurd (Option.some.inj otherDrawn) (by omega)
  have sent := (drawn_iff call steps).mp (by rw [drawn]; rfl)
  have otherSent := (drawn_iff other steps).mp (by rw [otherDrawn]; rfl)
  rcases precedes_or different sent otherSent with first | second
  · exact first
  · have higher := precedes_lt second otherDrawn drawn
    omega

theorem holders_concat (steps : List LeaseStep) (step : LeaseStep) :
    holders (steps ++ [step]) =
      holders steps ++ (holderIn (commands.answer step (usersAfter steps))).toList :=
  commands.filter_map_answers_concat holderIn steps step {}

theorem holder_in_iff (step : LeaseStep) (users : LeaseUsers) (holder : AcquireCall × Int) :
    holderIn (commands.answer step users) = some holder ↔
      step = .setNx holder.1 ∧ FindsFree holder.1 users ∧
      users.drawn.lookup holder.1 = some holder.2 := by
  obtain ⟨call, token⟩ := holder
  cases step with
  | incr | release | expire => simp [answer, commands, holderIn]
  | setNx other =>
    simp only [answer, commands, LeaseStep.setNx.injEq]
    rcases set_nx_cases other users with ⟨free, drew, drawn, taken⟩ | ⟨busy, _, _, refused⟩
    · rw [taken]
      simp only [Option.map_some, holderIn, Option.some.injEq, Prod.mk.injEq]
      constructor
      · rintro ⟨rfl, rfl⟩
        exact ⟨rfl, free, drawn⟩
      · rintro ⟨rfl, _, again⟩
        rw [drawn] at again
        exact ⟨rfl, Option.some.inj again⟩
    · constructor
      · intro held
        cases answered : (users.setNx other).2 with
        | none => simp [answered, holderIn] at held
        | some res =>
          cases res with
          | error err => simp [answered, holderIn] at held
          | ok drew => exact absurd answered (refused drew)
      · rintro ⟨rfl, free, _⟩
        exact absurd free busy

theorem holder_drawn {steps : List LeaseStep} {holder : AcquireCall × Int}
    (held : holder ∈ holders steps) :
    (usersAfter steps).drawn.lookup holder.1 = some holder.2 := by
  induction steps using List.reverseRecOn with
  | nil => simp [holders, answers] at held
  | append_singleton past step ih =>
    rw [users_after_concat]
    rw [holders_concat, List.mem_append, Option.mem_toList] at held
    rcases held with before | new
    · exact draw_kept (ih before)
    · exact draw_kept ((holder_in_iff step _ holder).mp new).2.2

theorem monotonic_concat (steps : List LeaseStep) (step : LeaseStep) :
    Monotonic (steps ++ [step]) ↔ Monotonic steps ∧ InTurn steps step := by
  unfold Monotonic
  rw [holders_concat, List.map_append, List.pairwise_append]
  constructor
  · rintro ⟨increasing, _, below⟩
    refine ⟨increasing, ?_⟩
    intro call made free holder held
    obtain ⟨token, drawn⟩ : ∃ token, (usersAfter steps).drawn.lookup call = some token := by
      obtain ⟨token, waiting⟩ := Option.isSome_iff_exists.mp free.1
      unfold waiting? at waiting
      split_ifs at waiting
      exact ⟨token, waiting⟩
    have takes := (holder_in_iff step (usersAfter steps) (call, token)).mpr ⟨made, free, drawn⟩
    rw [precedes_iff (holder_drawn held) drawn]
    apply below holder.2 (List.mem_map_of_mem held)
    rw [takes]
    exact List.mem_singleton_self token
  · rintro ⟨increasing, inTurn⟩
    cases takes : holderIn (commands.answer step (usersAfter steps)) with
    | none => simpa using increasing
    | some next =>
      obtain ⟨made, free, drawn⟩ := (holder_in_iff step (usersAfter steps) next).mp takes
      refine ⟨increasing, List.pairwise_singleton _ _, ?_⟩
      intro token mem later isNext
      obtain ⟨holder, held, rfl⟩ := List.mem_map.mp mem
      rw [Option.toList_some, List.map_singleton, List.mem_singleton] at isNext
      rw [isNext, ← precedes_iff (holder_drawn held) drawn]
      exact inTurn next.1 made free holder held

/-- The tokens of the successive holders increase exactly when no holder was overtaken
between its two commands. -/
theorem monotonic_iff_none_overtaken (steps : List LeaseStep) :
    Monotonic steps ↔ NoneOvertaken steps := by
  induction steps using List.reverseRecOn with
  | nil => exact ⟨fun _ => historically_nil InTurn, fun _ => List.Pairwise.nil⟩
  | append_singleton past step ih =>
    rw [monotonic_concat, NoneOvertaken, historically_concat, ih, NoneOvertaken]

/-- One owner draws, another draws, takes the key and gives it up, and then the first
takes it. -/
def overtaken : List LeaseStep :=
  [.incr ⟨⟨"owner-1", 15000⟩, 0⟩, .incr ⟨⟨"owner-2", 15000⟩, 0⟩,
    .setNx ⟨⟨"owner-2", 15000⟩, 0⟩, .release ⟨"owner-2", 15000⟩,
    .setNx ⟨⟨"owner-1", 15000⟩, 0⟩]

theorem overtaken_not_monotonic :
    (holders overtaken).map Prod.snd = [2, 1] ∧ ¬Monotonic overtaken := by
  have tokens : (holders overtaken).map Prod.snd = [2, 1] := by decide +kernel
  refine ⟨tokens, ?_⟩
  unfold Monotonic
  rw [tokens]
  decide

end LeaseUsers

end Ois.Production
