import Ois.Infrastructure.Tables
import Ois.Library.Machine

/-!
# The publication ledger

`record_publication` and `record_publication_attempt` of
`infrastructure/source_gateway/postgres.py`, on the table `publication_ledger`. Moments are
microseconds, as `TIMESTAMPTZ` keeps them, and `attempts` is an `INTEGER`.
-/

namespace Ois.Sources

open Ois.Library Ois.Kernel Machine

inductive PublicationStatus where
  | pending | published | failed
  deriving DecidableEq, Repr

/-- A row of `publication_ledger`. -/
structure PublicationRow where
  publicationId : String
  eventId : String
  destination : String
  idempotencyKey : String
  status : PublicationStatus := .pending
  attempts : Nat := 0
  lastError : Option String := none
  createdAt : Int
  updatedAt : Int
  publishedAt : Option Int := none
  deriving DecidableEq, Repr

open PublicationRow

/-- What `record_publication_attempt` is told, and when. -/
structure Attempt where
  success : Bool
  error : Option String := none
  now : Int
  deriving DecidableEq, Repr

namespace PublicationRow

/-- `UNIQUE (destination, idempotency_key)`. -/
def key (row : PublicationRow) : String × String := (row.destination, row.idempotencyKey)

/-- The largest `INTEGER`. -/
def mostAttempts : Nat := 2147483647

def attempted (attempt : Attempt) (row : PublicationRow) : PublicationRow :=
  { row with
    attempts := row.attempts + 1
    status := if attempt.success then .published else .failed
    lastError := attempt.error
    updatedAt := attempt.now
    publishedAt := if attempt.success then some attempt.now else row.publishedAt }

variable (attempt : Attempt) (row : PublicationRow)

@[simp] theorem attempted_key :
    (row.attempted attempt).key = row.key := rfl

theorem attempted_published_at :
    (row.attempted attempt).publishedAt =
      if attempt.success then some attempt.now else row.publishedAt := rfl

theorem attempted_status :
    (row.attempted attempt).status = if attempt.success then .published else .failed := rfl

end PublicationRow

structure PublicationLedger where
  rows : List PublicationRow := []
  distinct : (rows.map (·.publicationId)).Nodup := by decide
  unique : (rows.map (·.key)).Nodup := by decide
  deriving DecidableEq, Repr

open PublicationLedger

inductive PublicationCall where
  | recordPublication (publicationId eventId destination idemKey : String) (now : Int)
  | recordPublicationAttempt (destination idemKey : String) (attempt : Attempt)
  deriving DecidableEq, Repr

def attemptsOverflow : PyError := ⟨.other "NumericValueOutOfRange", "integer out of range"⟩

namespace PublicationLedger

/-- `publication(destination=..., idempotency_key=...)`. -/
def publication (key : String × String) (ledger : PublicationLedger) : Option PublicationRow :=
  ledger.rows.find? (·.key = key)

def pendingRow (publicationId eventId : String) (key : String × String) (now : Int) :
    PublicationRow :=
  { publicationId := publicationId, eventId := eventId, destination := key.1
    idempotencyKey := key.2, createdAt := now, updatedAt := now }

/-- `record_publication(...)`. A key that is there is left alone; `ON CONFLICT` does not name
the primary key. -/
def recordPublication (publicationId eventId : String) (key : String × String) (now : Int)
    (ledger : PublicationLedger) : PublicationLedger × Except PyError Bool :=
  if held : key ∈ ledger.rows.map (·.key) then (ledger, .ok false)
  else if taken : publicationId ∈ ledger.rows.map (·.publicationId) then
    (ledger, .error (Infrastructure.uniqueViolation "publication_ledger_pkey"))
  else
    (⟨ledger.rows ++ [pendingRow publicationId eventId key now],
      nodup_map_concat ledger.distinct taken, nodup_map_concat ledger.unique held⟩, .ok true)

def attemptedRows (key : String × String) (attempt : Attempt) (rows : List PublicationRow) :
    List PublicationRow :=
  rows.map fun row => if row.key = key then row.attempted attempt else row

theorem map_attempted_rows {Value : Type} (value : PublicationRow → Value)
    (same : ∀ attempt row, value (attempted attempt row) = value row)
    (key : String × String) (attempt : Attempt) (rows : List PublicationRow) :
    (attemptedRows key attempt rows).map value = rows.map value := by
  rw [attemptedRows, List.map_map]
  apply List.map_congr_left
  intro row _
  rw [Function.comp]
  split_ifs
  · exact same attempt row
  · rfl

/-- `record_publication_attempt(...)`. -/
def recordPublicationAttempt (key : String × String) (attempt : Attempt)
    (ledger : PublicationLedger) : PublicationLedger × Except PyError Unit :=
  if ∃ row ∈ ledger.publication key, mostAttempts ≤ row.attempts then
    (ledger, .error attemptsOverflow)
  else
    (⟨attemptedRows key attempt ledger.rows, by
        rw [map_attempted_rows (·.publicationId) (fun _ _ => rfl)]
        exact ledger.distinct, by
        rw [map_attempted_rows (·.key) attempted_key]
        exact ledger.unique⟩, .ok ())

theorem key_of_publication {key : String × String} {ledger : PublicationLedger}
    {row : PublicationRow} (found : ledger.publication key = some row) : row.key = key := by
  simpa using List.find?_some found

theorem publication_attempted (key other : String × String) (attempt : Attempt)
    (rows : List PublicationRow) :
    (attemptedRows key attempt rows).find? (·.key = other) =
      (rows.find? (·.key = other)).map fun row =>
      if row.key = key then row.attempted attempt else row := by
  rw [attemptedRows, List.find?_map]
  apply congrArg (Option.map _ ·)
  apply congrArg (rows.find? ·)
  funext row
  rw [Function.comp]
  split_ifs <;> rfl

end PublicationLedger

inductive PublicationAnswer where
  | recorded (res : Except PyError Bool)
  | attempted (res : Except PyError Unit)
  deriving DecidableEq, Repr

/-- The methods of the ledger that write. -/
def publicationLedger : Machine PublicationCall PublicationLedger PublicationAnswer
  | .recordPublication publicationId eventId destination idemKey now, ledger =>
    let (after, res) :=
      ledger.recordPublication publicationId eventId (destination, idemKey) now
    (after, .recorded res)
  | .recordPublicationAttempt destination idemKey attempt, ledger =>
    let (after, res) := ledger.recordPublicationAttempt (destination, idemKey) attempt
    (after, .attempted res)

section publications

variable (key : String × String)

def recordedAttempt (call : PublicationCall) (ledger : PublicationLedger) : Option Attempt :=
  match call, ledger.publication key with
  | .recordPublicationAttempt destination idemKey attempt, some row =>
    if (destination, idemKey) = key ∧ row.attempts < mostAttempts then
      some attempt
    else none
  | _, _ => none

def recordedAttempts (calls : List PublicationCall) (ledger : PublicationLedger) : List Attempt :=
  publicationLedger.log (recordedAttempt key) calls ledger

/-- In every state of the run the first attempt that succeeded has published the publication,
which keeps its moment. -/
def StaysPublished (calls : List PublicationCall) (ledger : PublicationLedger) : Prop :=
  ∀ before after, calls = before ++ after →
    ∀ first, (recordedAttempts key before ledger).find? (·.success) = some first →
      ∃ row, (publicationLedger.run before ledger).publication key = some row ∧
        row.status = .published ∧ row.publishedAt = some first.now

/-- In every state of the run the publication counts the attempts that were recorded. -/
def CountsAttempts (calls : List PublicationCall) (ledger : PublicationLedger) : Prop :=
  ∀ before after, calls = before ++ after →
    ∀ row, (publicationLedger.run before ledger).publication key = some row →
      row.attempts = (recordedAttempts key before ledger).length

/-- The attempt that is recorded for a publication that was published before succeeded at the
same moment. -/
def Reaffirms (call : PublicationCall) (ledger : PublicationLedger) : Prop :=
  ∀ attempt ∈ recordedAttempt key call ledger, ∀ row ∈ ledger.publication key,
    ∀ moment ∈ row.publishedAt, attempt.success = true ∧ attempt.now = moment

variable {key}

inductive Moved : Option Attempt → Option PublicationRow → Option PublicationRow → Prop where
  | kept (publication : Option PublicationRow) : Moved none publication publication
  | created (publicationId eventId : String) (key : String × String) (now : Int) :
      Moved none none (some (pendingRow publicationId eventId key now))
  | attempted (attempt : Attempt) (row : PublicationRow) :
      Moved (some attempt) (some row) (some (row.attempted attempt))

structure Told (attempts : List Attempt) (publication : Option PublicationRow) : Prop where
  absent : publication = none → attempts = []
  counted : ∀ row ∈ publication, row.attempts = attempts.length
  succeeded : ∀ row ∈ publication, row.publishedAt.isSome → ∃ attempt ∈ attempts, attempt.success

theorem Moved.told {attempt : Option Attempt} {before after : Option PublicationRow}
    {attempts : List Attempt} (moved : Moved attempt before after)
    (told : Told attempts before) : Told (attempts ++ attempt.toList) after := by
  cases moved with
  | kept =>
    rw [Option.toList_none, List.append_nil]
    exact told
  | created publicationId eventId key now =>
    rw [told.absent rfl]
    constructor
    · simp
    · simp [pendingRow]
    · simp [pendingRow]
  | attempted attempt row =>
    constructor
    · simp
    · intro other same
      cases same
      change row.attempts + 1 = _
      rw [told.counted row rfl, Option.toList_some, List.length_append, List.length_singleton]
    · intro other same published
      cases same
      by_cases success : attempt.success
      · exact ⟨attempt, by simp, success⟩
      · rw [attempted_published_at, if_neg success] at published
        obtain ⟨past, mem, done⟩ := told.succeeded row rfl published
        exact ⟨past, List.mem_append_left _ mem, done⟩

theorem publication_moved (key : String × String) (call : PublicationCall)
    (ledger : PublicationLedger) :
    Moved (recordedAttempt key call ledger) (ledger.publication key)
      ((publicationLedger.next call ledger).publication key) := by
  cases call with
  | recordPublication publicationId eventId destination idemKey now =>
    change Moved none _
      ((ledger.recordPublication publicationId eventId (destination, idemKey)
        now).1.publication key)
    unfold recordPublication
    split_ifs with held taken
    · exact .kept _
    · exact .kept _
    · change Moved none _ ((ledger.rows ++ [_]).find? _)
      rw [List.find?_append]
      cases found : ledger.publication key with
      | some row =>
        rw [← publication, found]
        exact .kept _
      | none =>
        rw [← publication, found, Option.none_or, List.find?_singleton]
        split_ifs
        · exact .created ..
        · exact .kept _
  | recordPublicationAttempt destination idemKey attempt =>
    change Moved _ _ ((ledger.recordPublicationAttempt (destination, idemKey)
      attempt).1.publication key)
    unfold recordedAttempt recordPublicationAttempt
    cases found : ledger.publication key with
    | none =>
      split_ifs with full
      · rw [found]
        exact .kept _
      · change Moved none none (List.find? _ _)
        rw [publication_attempted, ← publication, found]
        exact .kept _
    | some row =>
      have named := key_of_publication found
      by_cases own : (destination, idemKey) = key
      · rw [own, found]
        by_cases full : mostAttempts ≤ row.attempts
        · simp only [Option.mem_some_iff, exists_eq_left', if_pos full, found]
          rw [if_neg (fun room => by omega)]
          exact .kept _
        · simp only [Option.mem_some_iff, exists_eq_left', if_neg full]
          rw [if_pos ⟨own, by omega⟩]
          change Moved _ _ (List.find? _ _)
          rw [publication_attempted, ← publication, found, Option.map_some, if_pos named]
          exact .attempted attempt row
      · simp only [own, false_and, if_false]
        split_ifs with full
        · rw [found]
          exact .kept _
        · change Moved _ _ (List.find? _ _)
          rw [publication_attempted, ← publication, found,
            Option.map_some, if_neg (fun same => own (same.symm.trans named))]
          exact .kept _

theorem recorded_attempts_concat (calls : List PublicationCall) (call : PublicationCall)
    (ledger : PublicationLedger) :
    recordedAttempts key (calls ++ [call]) ledger = recordedAttempts key calls ledger ++
      (recordedAttempt key call (publicationLedger.run calls ledger)).toList :=
  log_concat ..

variable (key) in
theorem told_run (calls : List PublicationCall) :
    Told (recordedAttempts key calls {}) ((publicationLedger.run calls {}).publication key) := by
  induction calls using List.reverseRecOn with
  | nil =>
    constructor
    · intro _
      rfl
    · simp [run, publication]
    · simp [run, publication]
  | append_singleton past call ih =>
    rw [recorded_attempts_concat, run_concat]
    exact (publication_moved key call _).told ih

theorem published_of_reaffirms {calls : List PublicationCall}
    (reaffirms : publicationLedger.Throughout (Reaffirms key) calls {}) {first : Attempt}
    (succeeded : (recordedAttempts key calls {}).find? (·.success) = some first) :
    ∃ row, (publicationLedger.run calls {}).publication key = some row ∧
      row.status = .published ∧ row.publishedAt = some first.now := by
  induction calls using List.reverseRecOn with
  | nil => simp [recordedAttempts, log] at succeeded
  | append_singleton past call ih =>
    obtain ⟨before, here, _⟩ := throughout_append.mp reaffirms
    have told := told_run key past
    have moved := publication_moved key call (publicationLedger.run past {})
    unfold Reaffirms at here
    rw [recorded_attempts_concat, List.find?_append] at succeeded
    rw [run_concat]
    generalize recordedAttempt key call (publicationLedger.run past {}) = recorded at *
    generalize (publicationLedger.run past {}).publication key = publication at *
    generalize (publicationLedger.next call (publicationLedger.run past {})).publication key =
      after at *
    cases moved with
    | kept =>
      rw [Option.toList_none, List.find?_nil, Option.or_none] at succeeded
      exact ih before succeeded
    | created publicationId eventId key now =>
      rw [told.absent rfl] at succeeded
      simp at succeeded
    | attempted attempt row =>
      apply Exists.intro (row.attempted attempt)
      apply And.intro rfl
      rw [attempted_status, attempted_published_at]
      cases found : (recordedAttempts key past {}).find? (·.success) with
      | some earliest =>
        rw [found, Option.some_or] at succeeded
        obtain ⟨held, same, _, moment⟩ := ih before (found.trans succeeded)
        cases same
        obtain ⟨success, again⟩ := here attempt rfl row rfl first.now moment
        rw [if_pos success, if_pos success, again]
        exact ⟨rfl, rfl⟩
      | none =>
        rw [found, Option.none_or, Option.toList_some, List.find?_singleton] at succeeded
        split_ifs at succeeded with success
        rw [if_pos success, if_pos success, Option.some.inj succeeded]
        exact ⟨rfl, rfl⟩

theorem reaffirms_of_stays {before after : List PublicationCall} {call : PublicationCall}
    (stays : StaysPublished key (before ++ call :: after) {}) :
    Reaffirms key call (publicationLedger.run before {}) := by
  intro attempt recorded row present moment published
  have past := stays before (call :: after) rfl
  have later := stays (before ++ [call]) after (List.append_cons ..)
  have told := told_run key before
  have moved := publication_moved key call (publicationLedger.run before {})
  rw [recorded_attempts_concat, run_concat] at later
  obtain ⟨done, mem, success⟩ :=
    told.succeeded row present (Option.isSome_of_mem published)
  cases found : (recordedAttempts key before {}).find? (·.success) with
  | none => exact absurd success (by simpa using List.find?_eq_none.mp found done mem)
  | some first =>
    obtain ⟨held, same, _, stamped⟩ := past first found
    rw [present] at same
    cases same
    obtain ⟨last, now, status, kept⟩ := later first (by rw [List.find?_append, found]; rfl)
    rw [recorded, present, now] at moved
    cases moved with
    | attempted =>
      rw [attempted_status] at status
      rw [attempted_published_at] at kept
      split_ifs at status kept with success
      have stamp : first.now = moment := Option.some.inj (stamped.symm.trans published)
      exact ⟨success, (Option.some.inj kept).trans stamp⟩

end publications

/-- A publication counts the attempts that are recorded for it and stays published from its
first success on, exactly when no attempt is recorded for it later on except a success at the
same moment. -/
theorem publication_monotone_iff (destination idemKey : String)
    (calls : List PublicationCall) :
    (StaysPublished (destination, idemKey) calls {} ∧
      CountsAttempts (destination, idemKey) calls {}) ↔
      publicationLedger.Throughout (Reaffirms (destination, idemKey)) calls {} := by
  constructor
  · intro holds
    apply throughout_iff.mpr
    intro before call after split
    exact reaffirms_of_stays (split ▸ holds.1)
  · intro reaffirms
    constructor
    · intro before after split first succeeded
      rw [split, throughout_append] at reaffirms
      exact published_of_reaffirms reaffirms.1 succeeded
    · intro before after _ row present
      exact (told_run _ before).counted row present

def lateFailure : List PublicationCall :=
  [.recordPublication "publication" "event" "ocif" "key" 0,
    .recordPublicationAttempt "ocif" "key" { success := true, now := 1 },
    .recordPublicationAttempt "ocif" "key" { success := false, error := some "timeout", now := 2 }]

theorem late_failure_unpublishes :
    ¬(StaysPublished ("ocif", "key") lateFailure {} ∧
      CountsAttempts ("ocif", "key") lateFailure {}) := by
  intro holds
  obtain ⟨row, present, status, _⟩ := holds.1 lateFailure [] (List.append_nil _).symm
    { success := true, now := 1 } (by decide)
  have failed : ((publicationLedger.run lateFailure {}).publication ("ocif", "key")).map
      (·.status) = some .failed := by decide
  rw [present, Option.map_some, status] at failed
  cases failed

end Ois.Sources
