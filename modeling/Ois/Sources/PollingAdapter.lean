import Ois.Kernel.PyValues
import Ois.Library.Machine
import Ois.Sources.Gateway

/-!
# The polling adapter

`infrastructure/source_adapters/polling.py`. The functions that the adapter is built with, and the
gateway that it is handed, are what a run meets: each of their calls answers or raises.
-/

namespace Ois.Sources

open Ois.Library Ois.Kernel

structure PollPage where
  records : List Members
  nextCursor : Option String
  deriving DecidableEq, Repr

structure AdapterResult where
  sourceId : String
  records : Nat
  evidenceIds : List String
  eventIds : List String
  payloadHashes : List String
  deriving DecidableEq, Repr

/-- `SourceAdapterRegistry.response(source_id, responses)`. -/
def AdapterResult.response (source : String) (responses : List SourceResponse) :
    AdapterResult :=
  let accepted := responses.filter (·.accepted)
  { sourceId := source, records := accepted.length
    evidenceIds := accepted.map (·.evidenceId), eventIds := accepted.map (·.eventId)
    payloadHashes := accepted.map (·.payloadHash) }

/-- How a call of `set_cursor` ends. -/
inductive CursorWrite where
  | stored
  | storedThenRaised (err : PyError)
  | raised (err : PyError)
  deriving DecidableEq, Repr

structure PollRun where
  tenantId : String
  workspaceId : String
  getCursor : Except PyError Unit := .ok ()
  fetchPage : Nat → Option String → Except PyError PollPage
  gatewayIngest : Nat → SourceRequest → Except PyError SourceResponse
  setCursor : Nat → Option String → CursorWrite := fun _ _ => .stored

structure PollingSourceAdapter where
  sourceId : String
  maxPages : Int := 10
  connectorVersion : String := "poll-v1"
  deriving DecidableEq, Repr

structure Visit where
  tenantId : String
  workspaceId : String
  cursor : Option String
  page : PollPage
  stored : Bool
  deriving DecidableEq, Repr

structure Polling where
  cursor : Option String
  visits : List Visit := []
  answers : List (SourceRequest × SourceResponse) := []
  fetches : Nat := 0
  deriving DecidableEq, Repr

def SourceResponse.Settles (response : SourceResponse) : Prop :=
  response.accepted = true ∨ response.reason = some "duplicate_evidence"

instance (response : SourceResponse) : Decidable response.Settles :=
  inferInstanceAs (Decidable (_ ∨ _))

namespace PollingSourceAdapter

variable (digits : UInt64 → String) (adapter : PollingSourceAdapter)

/-- `str(record.get("id", cursor or "page"))`. -/
def recordId (cursor : Option String) (record : Members) : String :=
  let missing := if cursor.getD "" = "" then "page" else cursor.getD ""
  strOf digits ((record.lookup "id").getD (.str missing))

def request (tenant spaceId : String) (cursor : Option String) (record : Members) :
    SourceRequest :=
  SourceRequest.postInit
    { tenantId := tenant, workspaceId := spaceId, sourceId := adapter.sourceId
      sourceRecordId := recordId digits cursor record, payload := some record
      connectorVersion := adapter.connectorVersion, schemaVersion := "poll.record.v1" }

def rejected (response : SourceResponse) : PyError :=
  ⟨.other "RuntimeError", "source gateway rejected " ++ adapter.sourceId ++ ": " ++
    response.reason.getD "None"⟩

variable (run : PollRun)

/-- The loop over the records of a page: the answers of the gateway, and the error that ended
it. `number` requests were made before. -/
def takeRecords (cursor : Option String) :
    Nat → List Members → List (SourceRequest × SourceResponse) × Option PyError
  | _, [] => ([], none)
  | n, record :: rest =>
    let request := adapter.request digits run.tenantId run.workspaceId cursor record
    match run.gatewayIngest n request with
    | .error err => ([], some err)
    | .ok response =>
      if response.Settles then
        let (answers, fail) := takeRecords cursor (n + 1) rest
        ((request, response) :: answers, fail)
      else ([(request, response)], some (adapter.rejected response))

def visited (cursor : Option String) (page : PollPage) (stored : Bool)
    (answers : List (SourceRequest × SourceResponse)) (polling : Polling) : Polling :=
  { cursor := if stored then page.nextCursor else polling.cursor
    visits := polling.visits ++ [⟨run.tenantId, run.workspaceId, cursor, page, stored⟩]
    answers := polling.answers ++ answers
    fetches := polling.fetches + 1 }

/-- The loop over the pages: `budget` rounds are left, and `taken` are the answers so far. -/
def pollPages : (budget n : Nat) → (cursor : Option String) →
    (taken : List (SourceRequest × SourceResponse)) → Polling →
      Polling × Except PyError (List (SourceRequest × SourceResponse))
  | 0, _, _, taken, polling => (polling, .ok taken)
  | budget + 1, n, cursor, taken, polling =>
    match run.fetchPage n cursor with
    | .error err => ({ polling with fetches := polling.fetches + 1 }, .error err)
    | .ok page =>
      match takeRecords digits adapter run cursor taken.length page.records with
      | (answers, some err) => (visited run cursor page false answers polling, .error err)
      | (answers, none) =>
        match run.setCursor n page.nextCursor with
        | .raised err => (visited run cursor page false answers polling, .error err)
        | .storedThenRaised err =>
          (visited run cursor page true answers polling, .error err)
        | .stored =>
          let after := visited run cursor page true answers polling
          if page.nextCursor = none then (after, .ok (taken ++ answers))
          else pollPages budget (n + 1) page.nextCursor (taken ++ answers) after

/-- `ingest(tenant_id=..., workspace_id=..., gateway=...)`. -/
def ingest (polling : Polling) : Polling × Except PyError AdapterResult :=
  match run.getCursor with
  | .error err => (polling, .error err)
  | .ok () =>
    let (after, taken) := pollPages digits adapter run adapter.maxPages.toNat 0 polling.cursor
      [] polling
    (after, taken.map fun answers => .response adapter.sourceId (answers.map (·.2)))

end PollingSourceAdapter

section trails

def Visit.leaves (visit : Visit) : Option String :=
  if visit.stored then visit.page.nextCursor else visit.cursor

/-- The pages were fetched on the way from one cursor to another: each at the cursor where the
last one was left. -/
inductive Trail : Option String → List Visit → Option String → Prop where
  | start (cursor : Option String) : Trail cursor [] cursor
  | step {first last : Option String} {visit : Visit} {rest : List Visit}
      (here : visit.cursor = first) (after : Trail visit.leaves rest last) :
      Trail first (visit :: rest) last

theorem Trail.append {first middle last : Option String} {past later : List Visit}
    (left : Trail first past middle) (right : Trail middle later last) :
    Trail first (past ++ later) last := by
  induction left with
  | start cursor => exact right
  | step here after ih => exact .step here (ih right)

def lastStored (cursor : Option String) (visits : List Visit) : Option String :=
  match (visits.filter (·.stored)).getLast? with
  | some visit => visit.page.nextCursor
  | none => cursor

theorem Trail.last_eq {first last : Option String} {visits : List Visit}
    (trail : Trail first visits last) : last = lastStored first visits := by
  induction trail with
  | start cursor => rfl
  | @step first last visit rest here after ih =>
    rw [ih, lastStored, lastStored, Visit.leaves, List.filter_cons]
    by_cases stored : visit.stored = true
    · rw [if_pos stored, if_pos stored, List.getLast?_cons]
      cases (rest.filter (·.stored)).getLast? with
      | none => rfl
      | some other => rfl
    · rw [if_neg stored, if_neg stored, here]

/-- Each record of the page was taken by the gateway. -/
def Visit.Committed (digits : UInt64 → String) (adapter : PollingSourceAdapter)
    (answers : List (SourceRequest × SourceResponse)) (visit : Visit) : Prop :=
  ∀ record ∈ visit.page.records, ∃ response, response.Settles ∧
    (adapter.request digits visit.tenantId visit.workspaceId visit.cursor record, response) ∈
      answers

variable {digits : UInt64 → String} {adapter : PollingSourceAdapter}

theorem Visit.Committed.mono {visit : Visit}
    {answers more : List (SourceRequest × SourceResponse)}
    (committed : visit.Committed digits adapter answers) (grown : answers ⊆ more) :
    visit.Committed digits adapter more := by
  intro record mem
  obtain ⟨response, settles, answered⟩ := committed record mem
  exact ⟨response, settles, grown answered⟩

/-- What a run of at most `budget` fetches does to the state. -/
structure Polled (digits : UInt64 → String) (adapter : PollingSourceAdapter) (budget : Nat)
    (ended : Bool) (before after : Polling) (visits : List Visit) : Prop where
  visits_eq : after.visits = before.visits ++ visits
  trail : Trail before.cursor visits after.cursor
  answers : before.answers ⊆ after.answers
  committed : ∀ visit ∈ visits, visit.stored → visit.Committed digits adapter after.answers
  fetches : after.fetches ≤ before.fetches + budget
  stored : ∀ visit ∈ if ended then visits else visits.dropLast, visit.stored

theorem Polled.cons {budget : Nat} {ended : Bool} {before middle after : Polling}
    {visit : Visit} {visits : List Visit}
    (first : Polled digits adapter 1 true before middle [visit])
    (rest : Polled digits adapter budget ended middle after visits) :
    Polled digits adapter (budget + 1) ended before after (visit :: visits) := by
  have kept : visit.stored = true := first.stored visit List.mem_cons_self
  constructor
  · rw [rest.visits_eq, first.visits_eq, List.append_assoc, List.singleton_append]
  · exact first.trail.append rest.trail
  · exact fun _ mem => rest.answers (first.answers mem)
  · intro other mem stored
    rcases List.mem_cons.mp mem with rfl | later
    · exact (first.committed other List.mem_cons_self stored).mono rest.answers
    · exact rest.committed other later stored
  · have one := first.fetches
    have others := rest.fetches
    omega
  · intro other mem
    have others := rest.stored other
    cases ended with
    | true =>
      rcases List.mem_cons.mp mem with rfl | later
      · exact kept
      · exact others later
    | false =>
      cases visits with
      | nil => simp at mem
      | cons head tail =>
        rcases List.mem_cons.mp mem with rfl | later
        · exact kept
        · exact others later

theorem Polled.mono {budget more : Nat} {ended : Bool} {before after : Polling}
    {visits : List Visit} (polled : Polled digits adapter budget ended before after visits)
    (bound : budget ≤ more) : Polled digits adapter more ended before after visits :=
  { polled with fetches := Nat.le_trans polled.fetches (Nat.add_le_add_left bound _) }

end trails

def pollingAdapter (digits : UInt64 → String) (adapter : PollingSourceAdapter) :
    Machine PollRun Polling (Except PyError AdapterResult) :=
  fun run polling => adapter.ingest digits run polling

namespace PollingSourceAdapter

variable {digits : UInt64 → String} {adapter : PollingSourceAdapter} {run : PollRun}

theorem take_records_settled {cursor : Option String} {records : List Members} {n : Nat}
    {answers : List (SourceRequest × SourceResponse)}
    (took : takeRecords digits adapter run cursor n records = (answers, none)) :
    ∀ record ∈ records, ∃ response, response.Settles ∧
      (adapter.request digits run.tenantId run.workspaceId cursor record, response) ∈
        answers := by
  induction records generalizing n answers with
  | nil => simp
  | cons record rest ih =>
    simp only [takeRecords] at took
    cases answered : run.gatewayIngest n
        (adapter.request digits run.tenantId run.workspaceId cursor record) with
    | error err => simp [answered] at took
    | ok response =>
      rw [answered] at took
      by_cases settles : response.Settles
      · simp only [if_pos settles, Prod.mk.injEq] at took
        obtain ⟨rfl, complete⟩ := took
        intro other mem
        rcases List.mem_cons.mp mem with rfl | later
        · exact ⟨response, settles, List.mem_cons_self⟩
        · obtain ⟨found, good, held⟩ := ih (Prod.ext rfl complete) other later
          exact ⟨found, good, List.mem_cons_of_mem _ held⟩
      · simp [settles] at took

variable (digits adapter run) in
theorem visited_polled {cursor : Option String} {polling : Polling} (page : PollPage)
    (stored ended : Bool) (answers : List (SourceRequest × SourceResponse))
    (here : polling.cursor = cursor)
    (took : stored = true → ∀ record ∈ page.records, ∃ response, response.Settles ∧
      (adapter.request digits run.tenantId run.workspaceId cursor record, response) ∈ answers)
    (whole : ended = true → stored = true) :
    Polled digits adapter 1 ended polling (visited run cursor page stored answers polling)
      [⟨run.tenantId, run.workspaceId, cursor, page, stored⟩] := by
  constructor
  · rfl
  · apply Trail.step here.symm
    rw [visited, here]
    exact .start _
  · exact List.subset_append_left _ _
  · intro visit mem kept record listed
    rw [List.mem_singleton] at mem
    subst mem
    obtain ⟨response, settles, answered⟩ := took kept record listed
    exact ⟨response, settles, List.mem_append_right _ answered⟩
  · exact Nat.le_refl _
  · cases ended with
    | true => simpa using whole rfl
    | false => simp

variable (digits adapter run) in
theorem poll_pages_polled (budget n : Nat) {cursor : Option String}
    (taken : List (SourceRequest × SourceResponse)) {polling : Polling}
    (here : polling.cursor = cursor) :
    let (after, res) := pollPages digits adapter run budget n cursor taken polling
    ∃ visits, Polled digits adapter budget res.isOk polling after visits := by
  induction budget generalizing n cursor taken polling with
  | zero => exact ⟨[], by simp, .start _, fun _ => id, by simp, by simp, by simp⟩
  | succ budget ih =>
    unfold pollPages
    cases fetched : run.fetchPage n cursor with
    | error err =>
      apply Exists.intro []
      exact ⟨by simp, .start _, fun _ => id, by simp, by simp, by simp⟩
    | ok page =>
      have bound : 1 ≤ budget + 1 := Nat.le_add_left 1 budget
      cases took : takeRecords digits adapter run cursor taken.length page.records with
      | mk answers fail =>
        cases fail with
        | some err =>
          have failed := visited_polled digits adapter run page false false answers here
            (by simp) (by simp)
          simp only [took]
          exact ⟨_, failed.mono bound⟩
        | none =>
          have settled := take_records_settled took
          cases written : run.setCursor n page.nextCursor with
          | raised err =>
            have failed := visited_polled digits adapter run page false false
              answers here (by simp) (by simp)
            simp only [took, written]
            exact ⟨_, failed.mono bound⟩
          | storedThenRaised err =>
            have failed := visited_polled digits adapter run page true false
              answers here (fun _ => settled) (by simp)
            simp only [took, written]
            exact ⟨_, failed.mono bound⟩
          | stored =>
            have stays := visited_polled digits adapter run page true true
              answers here (fun _ => settled) (by simp)
            simp only [took, written]
            by_cases done : page.nextCursor = none
            · rw [if_pos done]
              exact ⟨_, stays.mono bound⟩
            · rw [if_neg done]
              have next : (visited run cursor page true answers polling).cursor =
                  page.nextCursor := by simp [visited]
              obtain ⟨visits, rest⟩ := ih (n + 1) (taken ++ answers) next
              exact ⟨_, stays.cons rest⟩

theorem ingest_polled (digits : UInt64 → String) (adapter : PollingSourceAdapter)
    (run : PollRun) (polling : Polling) :
    ∃ visits, Polled digits adapter adapter.maxPages.toNat
      ((pollingAdapter digits adapter).answer run polling).isOk polling
      ((pollingAdapter digits adapter).next run polling) visits := by
  unfold Machine.answer Machine.next pollingAdapter ingest
  cases run.getCursor with
  | error err =>
    exact ⟨[], by simp, .start _, fun _ => id, by simp, by simp, by simp⟩
  | ok ready =>
    have loop := poll_pages_polled digits adapter run adapter.maxPages.toNat 0 []
      (rfl : polling.cursor = polling.cursor)
    cases ended : pollPages digits adapter run adapter.maxPages.toNat 0 polling.cursor []
        polling with
    | mk after res =>
      rw [ended] at loop
      obtain ⟨visits, polled⟩ := loop
      apply Exists.intro visits
      cases res with
      | error | ok => exact polled

structure Followed (digits : UInt64 → String) (adapter : PollingSourceAdapter)
    (initial : Option String) (polling : Polling) : Prop where
  trail : Trail initial polling.visits polling.cursor
  committed : ∀ visit ∈ polling.visits, visit.stored →
    visit.Committed digits adapter polling.answers

theorem Followed.next {initial : Option String} {polling : Polling}
    (followed : Followed digits adapter initial polling) (run : PollRun) :
    Followed digits adapter initial ((pollingAdapter digits adapter).next run polling) := by
  obtain ⟨visits, polled⟩ := ingest_polled digits adapter run polling
  constructor
  · rw [polled.visits_eq]
    exact followed.trail.append polled.trail
  · intro visit mem stored
    rw [polled.visits_eq] at mem
    rcases List.mem_append.mp mem with past | now
    · exact (followed.committed visit past stored).mono polled.answers
    · exact polled.committed visit now stored

end PollingSourceAdapter

open PollingSourceAdapter in
/-- Whatever the runs meet, the pages lead from the initial cursor to the one that is stored,
each page that was passed had all its records taken, and every further run leaves the cursor at
the last page that it committed, and makes at most `max_pages` fetches. A page that was not
passed is the last one of a run that failed. -/
theorem cursor_never_overtakes (digits : UInt64 → String) (adapter : PollingSourceAdapter)
    (initial : Option String) (runs : List PollRun) :
    let machine := pollingAdapter digits adapter
    let polling := machine.run runs { cursor := initial }
    (Trail initial polling.visits polling.cursor ∧
      ∀ visit ∈ polling.visits, visit.stored →
        visit.Committed digits adapter polling.answers) ∧
    ∀ run, let after := machine.next run polling
      ∃ visits, after.visits = polling.visits ++ visits ∧
        after.cursor = lastStored polling.cursor visits ∧
        after.fetches ≤ polling.fetches + adapter.maxPages.toNat ∧
        ∀ visit ∈ if (machine.answer run polling).isOk then visits else visits.dropLast,
          visit.stored := by
  intro machine polling
  have base : Followed digits adapter initial { cursor := initial } := ⟨.start _, by simp⟩
  have followed : Followed digits adapter initial polling :=
    Machine.run_invariant (fun run state kept => kept.next run) runs base
  constructor
  · exact ⟨followed.trail, followed.committed⟩
  · intro run after
    obtain ⟨visits, polled⟩ := ingest_polled digits adapter run polling
    exact ⟨visits, polled.visits_eq, polled.trail.last_eq, polled.fetches, polled.stored⟩

/-- The second page is rejected, and the cursor stays behind it. -/
example :
    let run : PollRun :=
      { tenantId := "tenant", workspaceId := "workspace"
        fetchPage := fun n _ => .ok ⟨[[("id", .int n)]], some "next"⟩
        gatewayIngest := fun n request =>
          .ok ⟨n == 0, request.sourceRecordId, "", "", some "rate_limited"⟩ }
    let polling := (pollingAdapter (fun _ => "") ⟨"poll", 10, "poll-v1"⟩).run [run]
      { cursor := none }
    polling.cursor = some "next" ∧ polling.visits.map (·.stored) = [true, false] := by
  decide +kernel

end Ois.Sources
