import Ois.Runtime.WorkerJobs

/-!
# Who holds a claimed job

A call of `claim` selects a job, leases it with a guarded `UPDATE` and reads it. It does not look
at whether the `UPDATE` found the job still free, so it may return a job that another worker has
leased.
-/

namespace Ois.Runtime

open Ois.Library Ois.Kernel JobSaid Stride Scene JobTable

def Standing (jobId : String) (log : List (Option JobSaid)) : Prop :=
  ∃ before workerId job after, log = before ++ some (.claimed workerId job) :: after ∧
    job.jobId = jobId ∧ some (.updated .retry jobId) ∉ after

/-- Whenever a claim returns a job, the job is leased by the worker that claims it, and no
claim that returned it before still holds it. -/
def ExclusiveClaims (log : List (Option JobSaid)) : Prop :=
  Historically (fun before said => ∀ workerId job, said = some (.claimed workerId job) →
    job.leaseOwner = some workerId ∧ ¬Standing job.jobId before) log

/-- The `UPDATE` of a claim finds its job free, and no retry takes back a job that a claim
has leased and not yet read. -/
def Undisturbed (stmt : JobStatement) (scene : JobScene) : Prop :=
  ∀ call now, stmt = .proceed call now →
    (∀ jobId workerId, scene.calls call = some (.selected jobId workerId) →
      ∃ row, scene.shared.lookup jobId = some row ∧ row.Claimable) ∧
    ∀ jobId workerId, scene.calls call = some (.asserted .retry jobId workerId) →
      scene.shared.Owns jobId workerId →
        ∀ other claimant, scene.calls other ≠ some (.leased jobId claimant)

variable {log : List (Option JobSaid)} {said : Option JobSaid}

theorem standing_concat {jobId : String} :
    Standing jobId (log ++ [said]) ↔
      (∃ workerId job, said = some (.claimed workerId job) ∧ job.jobId = jobId) ∨
      Standing jobId log ∧ said ≠ some (.updated .retry jobId) := by
  constructor
  · rintro ⟨before, workerId, job, after, split, same, unretried⟩
    rcases List.eq_nil_or_concat after with rfl | ⟨middle, last, rfl⟩
    · have ends := List.append_inj_right' split rfl
      exact Or.inl ⟨workerId, job, List.singleton_inj.mp ends, same⟩
    · rw [List.concat_eq_append, ← List.cons_append, ← List.append_assoc] at split
      obtain ⟨rfl, ends⟩ := List.append_inj' split rfl
      rw [List.concat_eq_append, List.mem_append, not_or] at unretried
      refine Or.inr ⟨⟨before, workerId, job, middle, rfl, same, unretried.1⟩, ?_⟩
      rw [List.singleton_inj.mp ends]
      intro retried
      exact unretried.2 (by simp [retried])
  · rintro (⟨workerId, job, rfl, same⟩ |
      ⟨⟨before, workerId, job, after, rfl, same, unretried⟩, other⟩)
    · exact ⟨log, workerId, job, [], rfl, same, by simp⟩
    · refine ⟨before, workerId, job, after ++ [said], by simp, same, ?_⟩
      rw [List.mem_append, not_or]
      exact ⟨unretried, by simpa using fun equal => other equal.symm⟩

theorem standing_of_concat {jobId : String}
    (unclaimed : ∀ workerId job, said ≠ some (.claimed workerId job))
    (standing : Standing jobId (log ++ [said])) : Standing jobId log := by
  rcases standing_concat.mp standing with ⟨workerId, job, claims, _⟩ | past
  · exact absurd claims (unclaimed workerId job)
  · exact past.1

theorem exclusive_of_concat (exclusive : ExclusiveClaims log)
    (unclaimed : ∀ workerId job, said ≠ some (.claimed workerId job)) :
    ExclusiveClaims (log ++ [said]) := by
  rw [ExclusiveClaims, historically_concat]
  apply And.intro exclusive
  intro workerId job claims
  exact absurd claims (unclaimed workerId job)

structure HeldOnce (log : List (Option JobSaid)) (scene : JobScene) : Prop where
  exclusive : ExclusiveClaims log
  unread : ∀ call jobId workerId, scene.calls call = some (.leased jobId workerId) →
    ∃ row, scene.shared.lookup jobId = some row ∧ row.leaseOwner = some workerId
  single : ∀ call other jobId workerId claimant, scene.calls call = some (.leased jobId workerId) →
      scene.calls other = some (.leased jobId claimant) → call = other
  taken : ∀ jobId, Standing jobId log →
    ∃ row, scene.shared.lookup jobId = some row ∧ row.leaseOwner ≠ none
  read : ∀ jobId, Standing jobId log →
    ∀ call workerId, scene.calls call ≠ some (.leased jobId workerId)

section steps

variable {log : List (Option JobSaid)} {scene : JobScene}

theorem HeldOnce.frame {after : JobScene} {said : Option JobSaid} (held : HeldOnce log scene)
    (unclaimed : ∀ workerId job, said ≠ some (.claimed workerId job))
    (owners : ∀ jobId row, scene.shared.lookup jobId = some row → row.leaseOwner ≠ none →
      said ≠ some (.updated .retry jobId) →
      ∃ next, after.shared.lookup jobId = some next ∧ next.leaseOwner = row.leaseOwner)
    (calls : ∀ call jobId workerId, after.calls call = some (.leased jobId workerId) →
      scene.calls call = some (.leased jobId workerId) ∧
      said ≠ some (.updated .retry jobId)) :
    HeldOnce (log ++ [said]) after where
  exclusive := exclusive_of_concat held.exclusive unclaimed
  unread := by
    intro call jobId workerId reached
    obtain ⟨past, unretried⟩ := calls call jobId workerId reached
    obtain ⟨row, found, owner⟩ := held.unread call jobId workerId past
    obtain ⟨next, kept, same⟩ := owners jobId row found (by simp [owner]) unretried
    exact ⟨next, kept, same.trans owner⟩
  single := by
    intro call other jobId workerId claimant reached another
    exact held.single call other jobId workerId claimant (calls _ _ _ reached).1
      (calls _ _ _ another).1
  taken := by
    intro jobId standing
    have past := standing_of_concat unclaimed standing
    obtain ⟨row, found, owned⟩ := held.taken jobId past
    have unretried : said ≠ some (.updated .retry jobId) := by
      rcases standing_concat.mp standing with ⟨workerId, job, claims, _⟩ | kept
      · exact absurd claims (unclaimed workerId job)
      · exact kept.2
    obtain ⟨next, kept, same⟩ := owners jobId row found owned unretried
    exact ⟨next, kept, same ▸ owned⟩
  read := by
    intro jobId standing call workerId reached
    exact held.read jobId (standing_of_concat unclaimed standing) call workerId
      (calls call jobId workerId reached).1

variable {call : Nat}

theorem HeldOnce.strode {stride : JobStride} (held : HeldOnce log scene)
    (unleased : ∀ jobId workerId, stride.point ≠ some (.leased jobId workerId))
    (unclaimed : ∀ workerId job, stride.said ≠ .claimed workerId job)
    (owners : ∀ jobId row, scene.shared.lookup jobId = some row → row.leaseOwner ≠ none →
      stride.said ≠ .updated .retry jobId →
      ∃ next, stride.shared.lookup jobId = some next ∧ next.leaseOwner = row.leaseOwner)
    (unretried : ∀ other jobId workerId, scene.calls other = some (.leased jobId workerId) →
      stride.said ≠ .updated .retry jobId) :
    HeldOnce (log ++ [some stride.said]) (scene.strode call stride) := by
  apply held.frame
  · intro workerId job same
    exact unclaimed workerId job (Option.some.inj same)
  · intro jobId row found owned other
    exact owners jobId row found owned fun same => other (congrArg some same)
  · intro other jobId workerId reached
    rw [strode_calls] at reached
    split_ifs at reached
    · exact absurd reached (unleased jobId workerId)
    · refine ⟨reached, fun same => ?_⟩
      exact unretried other jobId workerId reached (Option.some.inj same)

theorem held_once_leased {jobId workerId now : String} {row : JobRow}
    (held : HeldOnce log scene) (found : scene.shared.lookup jobId = some row)
    (claimable : row.Claimable) :
    HeldOnce (log ++ [some .silent])
      (scene.strode call (.going (scene.shared.lease jobId workerId now)
      (.leased jobId workerId) silent)) := by
  have unowned : row.leaseOwner = none := claimable.2
  have free : ∀ other claimant, scene.calls other ≠ some (.leased jobId claimant) := by
    intro other claimant reached
    obtain ⟨same, again, owner⟩ := held.unread other jobId claimant reached
    rw [found, Option.some.injEq] at again
    rw [← again, unowned] at owner
    simp at owner
  have unstanding : ¬Standing jobId log := by
    intro standing
    obtain ⟨same, again, owned⟩ := held.taken jobId standing
    rw [found, Option.some.injEq] at again
    exact owned (again ▸ unowned)
  have leased : (scene.shared.lease jobId workerId now).lookup jobId =
      some (row.claimedBy workerId now) := by
    simp [lookup_lease, found, claimable]
  have others : ∀ other, other ≠ jobId →
      (scene.shared.lease jobId workerId now).lookup other = scene.shared.lookup other := by
    intro other different
    rw [lookup_lease, if_neg different]
  have silent : ∀ worker job, some silent ≠ some (.claimed worker job) := by simp
  constructor
  case exclusive => exact exclusive_of_concat held.exclusive silent
  case unread =>
    intro other target worker reached
    rw [strode_calls] at reached
    simp only [strode_shared, going_shared, going_point] at reached ⊢
    split_ifs at reached
    · rw [Option.some.injEq, JobPoint.leased.injEq] at reached
      obtain ⟨rfl, rfl⟩ := reached
      exact ⟨_, leased, rfl⟩
    · have different : target ≠ jobId := by
        rintro rfl
        exact free other worker reached
      rw [others target different]
      exact held.unread other target worker reached
  case single =>
    intro first second target worker claimant reached another
    rw [strode_calls] at reached another
    simp only [going_point] at reached another
    split_ifs at reached another with here there there
    · exact here.trans there.symm
    · rw [Option.some.injEq, JobPoint.leased.injEq] at reached
      exact absurd (reached.1 ▸ another) (free second claimant)
    · rw [Option.some.injEq, JobPoint.leased.injEq] at another
      exact absurd (another.1 ▸ reached) (free first worker)
    · exact held.single first second target worker claimant reached another
  case taken =>
    intro target standing
    have past := standing_of_concat silent standing
    have different : target ≠ jobId := by
      rintro rfl
      exact unstanding past
    simp only [strode_shared, going_shared]
    rw [others target different]
    exact held.taken target past
  case read =>
    intro target standing other worker reached
    have past := standing_of_concat silent standing
    rw [strode_calls] at reached
    simp only [going_point] at reached
    split_ifs at reached
    · rw [Option.some.injEq, JobPoint.leased.injEq] at reached
      exact unstanding (reached.1 ▸ past)
    · exact held.read target past other worker reached

theorem held_once_read {jobId workerId : String} {job : QueueJob}
    (held : HeldOnce log scene) (reached : scene.calls call = some (.leased jobId workerId))
    (read : scene.shared.get jobId = .ok job) :
    HeldOnce (log ++ [some (.claimed workerId job)])
      (scene.strode call (.ending scene.shared (claimed workerId job))) := by
  obtain ⟨row, found, rfl⟩ := get_ok read
  obtain ⟨same, again, owner⟩ := held.unread call jobId workerId reached
  rw [found, Option.some.injEq] at again
  subst again
  have past : ∀ other target worker,
      (scene.strode call (.ending scene.shared (claimed workerId (row.record jobId)))).calls
        other = some (.leased target worker) →
      other ≠ call ∧ scene.calls other = some (.leased target worker) := by
    intro other target worker at'
    rw [strode_calls] at at'
    split_ifs at at' with here
    · simp at at'
    · exact ⟨here, at'⟩
  constructor
  case exclusive =>
    rw [ExclusiveClaims, historically_concat]
    apply And.intro held.exclusive
    intro worker job same
    rw [Option.some.injEq, claimed.injEq] at same
    obtain ⟨rfl, rfl⟩ := same
    refine ⟨owner, fun standing => ?_⟩
    exact held.read jobId standing call workerId reached
  case unread =>
    intro other target worker at'
    exact held.unread other target worker (past other target worker at').2
  case single =>
    intro first second target worker claimant at' another
    exact held.single first second target worker claimant (past _ _ _ at').2
      (past _ _ _ another).2
  case taken =>
    intro target standing
    rcases standing_concat.mp standing with ⟨worker, job, claims, same⟩ | kept
    · rw [Option.some.injEq, claimed.injEq] at claims
      obtain ⟨_, rfl⟩ := claims
      have target' : jobId = target := same
      subst target'
      exact ⟨row, found, by simp [owner]⟩
    · exact held.taken target kept.1
  case read =>
    intro target standing other worker at'
    obtain ⟨different, before⟩ := past other target worker at'
    rcases standing_concat.mp standing with ⟨claimant, job, claims, same⟩ | kept
    · rw [Option.some.injEq, claimed.injEq] at claims
      obtain ⟨_, rfl⟩ := claims
      have target' : jobId = target := same
      subst target'
      exact different (held.single other call jobId worker workerId before reached)
    · exact held.read target kept.1 other worker before

theorem update_keeps_owner {operation : JobOperation} {target jobId workerId now : String}
    {row : JobRow} (found : scene.shared.lookup jobId = some row)
    (unretried : scene.shared.Owns target workerId → operation = .retry → target ≠ jobId) :
    ∃ next, (scene.shared.update operation target workerId now).lookup jobId = some next ∧
      next.leaseOwner = row.leaseOwner := by
  rw [lookup_update]
  by_cases same : jobId = target
  · subst same
    by_cases owned : row.leaseOwner = some workerId
    · have owns : scene.shared.Owns jobId workerId := by
        simp [JobTable.Owns, found, owned]
      refine ⟨operation.assign now row, by simp [found, owned], ?_⟩
      cases operation with
      | retry => exact absurd rfl (unretried owns rfl)
      | acknowledge => rfl
      | failJob => rfl
    · exact ⟨row, by simp [found, owned], rfl⟩
  · exact ⟨row, by rw [if_neg same, found], rfl⟩

theorem enter_quiet (req : JobRequest) (now : String) (table : JobTable) :
    (∀ jobId workerId, (enterJob req now table).point ≠ some (.leased jobId workerId)) ∧
      (∀ workerId job, (enterJob req now table).said ≠ .claimed workerId job) ∧
      ∀ jobId, (enterJob req now table).said ≠ .updated .retry jobId := by
  cases req with
  | enqueue jobId queue body =>
    simp only [enterJob]
    cases table.lookup jobId <;> simp
  | claim queue workerId =>
    simp only [enterJob]
    cases table.oldest queue <;> simp
  | owned operation jobId workerId =>
    simp only [enterJob]
    cases table.assertOwnership jobId workerId .leased <;> simp

theorem held_once_proceed {point : JobPoint} {now : String}
    (held : HeldOnce log scene) (undisturbed : Undisturbed (.proceed call now) scene)
    (reached : scene.calls call = some point) :
    HeldOnce (log ++ [some (proceedJob point now scene.shared).said])
      (scene.strode call (proceedJob point now scene.shared)) := by
  obtain ⟨finds, keeps⟩ := undisturbed call now rfl
  cases point with
  | unregistered target queue body =>
    simp only [proceedJob]
    cases inserted : scene.shared.insert target queue body now with
    | error err =>
      apply held.strode (by simp) (by simp) _ (by simp)
      exact fun jobId row found _ _ => ⟨row, found, rfl⟩
    | ok after =>
      obtain ⟨missing, rows⟩ := insert_ok inserted
      apply held.strode (by simp) (by simp) _ (by simp)
      intro jobId row found _ _
      have different : jobId ≠ target := by
        rintro rfl
        simp [missing] at found
      refine ⟨row, ?_, rfl⟩
      simp only [going_shared]
      rw [rows, if_neg different, found]
  | selected jobId workerId =>
    obtain ⟨row, found, claimable⟩ := finds jobId workerId reached
    exact held_once_leased held found claimable
  | leased jobId workerId =>
    simp only [proceedJob]
    cases read : scene.shared.get jobId with
    | error err =>
      apply held.strode (by simp) (by simp) _ (by simp)
      exact fun jobId row found _ _ => ⟨row, found, rfl⟩
    | ok job => exact held_once_read held reached read
  | asserted operation target workerId =>
    simp only [proceedJob]
    apply held.strode
    · simp
    · intro worker job
      simp only [going_said]
      split_ifs <;> simp
    · intro jobId row found _ other
      apply update_keeps_owner found
      rintro owns rfl rfl
      simp [owns] at other
    · intro other jobId worker leased
      simp only [going_said]
      split_ifs with owns
      · intro same
        rw [updated.injEq] at same
        obtain ⟨rfl, rfl⟩ := same
        exact keeps target workerId reached owns other worker leased
      · simp
  | reading jobId =>
    simp only [proceedJob]
    cases read : scene.shared.get jobId with
    | error | ok =>
      apply held.strode (by simp) (by simp) _ (by simp)
      exact fun jobId row found _ _ => ⟨row, found, rfl⟩

theorem held_once_step (stmt : JobStatement) (undisturbed : Undisturbed stmt scene)
    (held : HeldOnce log scene) :
    HeldOnce (log ++ [jobMachine.answer stmt scene]) (jobMachine.next stmt scene) := by
  have happens := workerQueue.machine_happens stmt scene
  change HeldOnce (log ++ [(workerQueue.machine stmt scene).2])
    (workerQueue.machine stmt scene).1
  generalize workerQueue.machine stmt scene = res at happens ⊢
  cases happens with
  | ignored =>
    apply held.frame (by simp)
    · exact fun jobId row found _ _ => ⟨row, found, rfl⟩
    · exact fun call jobId workerId reached => ⟨reached, by simp⟩
  | crashed call =>
    apply held.frame (by simp)
    · exact fun jobId row found _ _ => ⟨row, found, rfl⟩
    · intro other jobId workerId reached
      rw [dropped_calls] at reached
      split_ifs at reached
      exact ⟨reached, by simp⟩
  | entered call req now free =>
    obtain ⟨unleased, unclaimed, unretried⟩ := enter_quiet req now scene.shared
    apply held.strode unleased unclaimed
    · intro jobId row found _ _
      refine ⟨row, ?_, rfl⟩
      simp only [enter_keeps, found]
    · exact fun other jobId workerId _ => unretried jobId
  | proceeded call point now reached => exact held_once_proceed held undisturbed reached

end steps

/-- In a run of statements of any calls, each `UPDATE` of a claim finding its job free
and no retry taking back a job that its claim has yet to read, every claim returns a job
that its worker has leased and that no other claim still holds. -/
theorem claims_exclusive (stmts : List JobStatement) (table : JobTable)
    (undisturbed : jobMachine.Throughout Undisturbed stmts (.quiet table)) :
    ExclusiveClaims (jobMachine.answers stmts (.quiet table)) := by
  have start : HeldOnce [] (quiet table) :=
    { exclusive := historically_nil _
      unread := by simp
      single := by simp
      taken := by
        rintro jobId ⟨before, workerId, job, after, split, _⟩
        simp at split
      read := by simp }
  have held := Machine.run_keeps_log
    (fun stmt log scene condition held => held_once_step stmt condition held)
    undisturbed start
  exact held.exclusive

def jobsOf (jobIds : List String) : JobTable := jobIds.map fun jobId =>
  (jobId, { queue := "queue", payload := ⟨.obj []⟩, updatedAt := "2026-01-01" })

/-- The second worker selects after the `UPDATE` of the first, and both read after both. -/
def claimsApart : List JobStatement :=
  [.enter 0 (.claim "queue" "worker-a") "now", .proceed 0 "now",
    .enter 1 (.claim "queue" "worker-b") "now", .proceed 1 "now", .proceed 0 "now",
    .proceed 1 "now"]

theorem claims_apart_exclusive :
    jobMachine.Throughout Undisturbed claimsApart (.quiet (jobsOf ["job", "task"])) ∧
      ExclusiveClaims (jobMachine.answers claimsApart (.quiet (jobsOf ["job", "task"]))) := by
  have undisturbed : jobMachine.Throughout Undisturbed claimsApart
      (.quiet (jobsOf ["job", "task"])) := by
    refine ⟨?_, ?_, ?_, ?_, ?_, ?_, trivial⟩
    all_goals
      intro call now same
      cases same
    all_goals
      constructor
      all_goals
        intro jobId worker reached
        cases reached
    · exact ⟨_, rfl, rfl, rfl⟩
    · exact ⟨_, rfl, rfl, rfl⟩
  exact ⟨undisturbed, claims_exclusive claimsApart _ undisturbed⟩

/-- Two workers select the job, both run their `UPDATE`, and the second reads it. -/
def racingClaims : List JobStatement :=
  [.enter 0 (.claim "queue" "worker-a") "now", .enter 1 (.claim "queue" "worker-b") "now",
    .proceed 0 "now", .proceed 1 "now", .proceed 1 "now"]

/-- The worker that loses the race is handed the job that the other has leased. -/
theorem racing_claim_not_exclusive :
    ¬ExclusiveClaims (jobMachine.answers racingClaims (.quiet (jobsOf ["job"]))) := by
  intro exclusive
  let handed : QueueJob :=
    { jobId := "job", queue := "queue", payload := .obj [], attempts := 0
      leaseOwner := some "worker-a", status := .leased, updatedAt := "now" }
  have log : jobMachine.answers racingClaims (.quiet (jobsOf ["job"])) =
      [some .silent, some .silent, some .silent, some .silent] ++
        some (.claimed "worker-b" handed) :: [] := by decide +kernel
  have owner := (exclusive _ _ _ log "worker-b" handed rfl).1
  exact absurd owner (by decide)

end Ois.Runtime
