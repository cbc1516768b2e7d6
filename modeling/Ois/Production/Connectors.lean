import Mathlib.Algebra.Order.Ring.Rat
import Ois.Kernel.PyValues

/-!
# The HTTP connector

`HTTPConnector.request` of `production/connectors.py`. The transport and the evidence sink are
called in one `try`, so an answer of the transport is lost if its evidence is refused.
-/

namespace Ois.Production

open Ois.Library Ois.Kernel

/-- What a call raises: an `Exception` with its text, or another `BaseException`. -/
inductive Fault where
  | exception (text : String)
  | interrupt
  deriving DecidableEq

structure ConnectorRequest where
  url : String
  payload : Option Members := none
  maxRetries : Nat := 2

structure ConnectorResponse where
  statusCode : Int
  payload : Json
  attempts : Nat
  durationSeconds : ℚ
  deriving DecidableEq

inductive ConnectorEnding where
  | response (response : ConnectorResponse)
  | connectorError (msg : String)
  | interrupted
  deriving DecidableEq

/-- The connector, by what its collaborators do at each attempt. -/
structure HTTPConnector where
  scheme : String → String
  transport : String → Option Members → Nat → Except Fault (Int × Json)
  evidence : Option (Nat → Except Fault Unit)
  elapsed : Nat → ℚ

namespace HTTPConnector

variable (connector : HTTPConnector) (req : ConnectorRequest)

/-- `evidence.append` at an attempt, where there is a sink. -/
def append (attempt : Nat) : Except Fault Unit :=
  match connector.evidence with
  | none => .ok ()
  | some sink => sink attempt

def transmit (attempt : Nat) : Except Fault (Int × Json) :=
  connector.transport req.url req.payload attempt

def attempt (n : Nat) : Except String ConnectorEnding :=
  match connector.transmit req n with
  | .error (.exception text) => .error text
  | .error .interrupt => .ok .interrupted
  | .ok (status, body) =>
    match connector.append n with
    | .error (.exception text) => .error text
    | .error .interrupt => .ok .interrupted
    | .ok () => .ok (.response ⟨status, body, n, connector.elapsed n⟩)

def loop : Nat → Nat → String → ConnectorEnding × List Nat
  | 0, n, lastError =>
    (.connectorError ("connector failed after " ++ toString (n - 1) ++ " attempts: " ++
      lastError), [])
  | left + 1, n, _ =>
    match connector.attempt req n with
    | .ok ending => (ending, [n])
    | .error text =>
      let later := loop left (n + 1) text
      (later.1, n :: later.2)

/-- `request(request)`: how it ends, and the attempts at which the transport was called. -/
def send : ConnectorEnding × List Nat :=
  if connector.scheme req.url ≠ "https" then
    (.connectorError "external connectors require HTTPS", [])
  else connector.loop req (req.maxRetries + 1) 1 "None"

/-- No call follows one that was answered, whose answer is then returned, and an error of the
connector means that no call was answered. -/
structure NeverRepeats (res : ConnectorEnding × List Nat) : Prop where
  last : ∀ before n after answer, res.2 = before ++ n :: after →
    connector.transmit req n = .ok answer → after = [] ∧
      res.1 = .response ⟨answer.1, answer.2, n, connector.elapsed n⟩
  error : ∀ msg, res.1 = .connectorError msg →
    ∀ n ∈ res.2, ∃ fault, connector.transmit req n = .error fault

/-- The evidence of the first answer of the transport is accepted. -/
def FirstRecorded (left first : Nat) : Prop :=
  ∀ n answer, first ≤ n → n < first + left →
    (∀ past, first ≤ past → past < n →
      ∃ text, connector.transmit req past = .error (.exception text)) →
    connector.transmit req n = .ok answer → connector.append n = .ok ()

variable {connector req}

theorem loop_length (left n : Nat) (lastError : String) :
    (connector.loop req left n lastError).2.length ≤ left := by
  induction left generalizing n lastError with
  | zero => simp [loop]
  | succ left ih =>
    rw [loop]
    cases connector.attempt req n with
    | ok ending => simp
    | error text => simpa using ih (n + 1) text

theorem never_repeats_cons {later : ConnectorEnding × List Nat} {n : Nat} {fault : Fault}
    (raised : connector.transmit req n = .error fault) :
    NeverRepeats connector req (later.1, n :: later.2) ↔
      NeverRepeats connector req later := by
  constructor
  · intro whole
    constructor
    · intro before other after answer split
      exact whole.last (n :: before) other after answer (by rw [split]; rfl)
    · exact fun msg same other mem =>
        whole.error msg same other (List.mem_cons_of_mem _ mem)
  · intro rest
    constructor
    · intro before other after answer split answered
      cases before with
      | nil =>
        obtain ⟨rfl, _⟩ := List.cons.inj split
        rw [raised] at answered
        cases answered
      | cons first before =>
        exact rest.last before other after answer (List.cons.inj split).2 answered
    · intro msg same other mem
      rcases List.mem_cons.mp mem with rfl | inside
      · exact ⟨fault, raised⟩
      · exact rest.error msg same other inside

theorem first_recorded_cons {left n : Nat} {text : String}
    (raised : connector.transmit req n = .error (.exception text)) :
    FirstRecorded connector req (left + 1) n ↔
      FirstRecorded connector req left (n + 1) := by
  constructor
  · intro whole other answer from_ below past
    refine whole other answer (by omega) (by omega) fun before least less => ?_
    rcases Nat.eq_or_lt_of_le least with rfl | later
    · exact ⟨text, raised⟩
    · exact past before later less
  · intro rest other answer least below past answered
    rcases Nat.eq_or_lt_of_le least with rfl | later
    · rw [raised] at answered
      cases answered
    · exact rest other answer later (by omega)
        (fun before from_ less => past before (by omega) less) answered

theorem loop_never_repeats_iff (left n : Nat) (lastError : String) :
    NeverRepeats connector req (connector.loop req left n lastError) ↔
      FirstRecorded connector req left n := by
  induction left generalizing n lastError with
  | zero =>
    refine iff_of_true ⟨by simp [loop], by simp [loop]⟩ ?_
    intro other answer least below
    omega
  | succ left ih =>
    rw [loop, attempt]
    cases sent : connector.transmit req n with
    | error fault =>
      cases fault with
      | exception text =>
        rw [first_recorded_cons sent, ← ih (n + 1) text]
        exact never_repeats_cons sent
      | interrupt =>
        have alone : NeverRepeats connector req (.interrupted, []) := ⟨by simp, by simp⟩
        refine iff_of_true ((never_repeats_cons sent).mpr alone) ?_
        intro other answer least below past answered
        rcases Nat.eq_or_lt_of_le least with rfl | later
        · rw [sent] at answered
          cases answered
        · obtain ⟨text, raised⟩ := past n le_rfl later
          rw [sent] at raised
          cases raised
    | ok answer =>
      have first : FirstRecorded connector req (left + 1) n ↔
          connector.append n = .ok () := by
        constructor
        · intro recorded
          exact recorded n answer le_rfl (by omega)
            (fun past least less => absurd less (by omega)) sent
        · intro accepted other answer' least below past answered
          rcases Nat.eq_or_lt_of_le least with rfl | later
          · exact accepted
          · obtain ⟨text, raised⟩ := past n le_rfl later
            rw [sent] at raised
            cases raised
      rw [first]
      cases accepted : connector.append n with
      | ok =>
        refine iff_of_true ⟨?_, fun msg same => by cases same⟩ rfl
        intro before other after answer' split answered
        obtain ⟨rfl, rfl, rfl⟩ : before = [] ∧ other = n ∧ after = [] := by
          cases before with
          | nil => simpa [eq_comm] using split
          | cons first before => simp at split
        rw [sent] at answered
        cases answered
        exact ⟨rfl, rfl⟩
      | error fault =>
        refine iff_of_false (fun never => ?_) (by simp)
        cases fault with
        | interrupt =>
          have ended := (never.last [] n [] answer rfl sent).2
          cases ended
        | exception text =>
          obtain ⟨none_, ended⟩ := never.last [] n _ answer rfl sent
          cases left with
          | zero => cases ended
          | succ left =>
            rw [loop] at none_
            cases made : connector.attempt req (n + 1) <;>
              simp [made] at none_

end HTTPConnector

open HTTPConnector

/-- A request on an HTTPS URL repeats no call that was answered exactly if the evidence of the
first answer is accepted. -/
theorem answered_call_unrepeated_iff (connector : HTTPConnector) (req : ConnectorRequest)
    (https : connector.scheme req.url = "https") :
    ((connector.send req).2.length ≤ req.maxRetries + 1 ∧
      NeverRepeats connector req (connector.send req)) ↔
      FirstRecorded connector req (req.maxRetries + 1) 1 := by
  rw [send, if_neg (not_not.mpr https), loop_never_repeats_iff]
  exact and_iff_right (loop_length _ _ _)

/-- A transport that always answers, and a sink that refuses the first record. -/
def forgetful : HTTPConnector :=
  { scheme := fun _ => "https", transport := fun _ _ _ => .ok (200, .null)
    evidence := some fun n => if n = 1 then .error (.exception "full") else .ok ()
    elapsed := fun _ => 0 }

theorem answered_call_repeated :
    ¬∀ (connector : HTTPConnector) (req : ConnectorRequest),
      connector.scheme req.url = "https" →
      (connector.send req).2.length ≤ req.maxRetries + 1 ∧
      NeverRepeats connector req (connector.send req) := by
  intro claimed
  have never := (claimed forgetful { url := "https://example" } rfl).2
  have made : (forgetful.send { url := "https://example" }).2 = [1, 2] := by decide +kernel
  have alone := (never.last [] 1 [2] (200, .null) made rfl).1
  cases alone

/-- A transport that fails once and then answers, and a sink that accepts every record. -/
def recovering : HTTPConnector :=
  { forgetful with
    transport := fun _ _ n => if n = 1 then .error (.exception "busy") else .ok (200, .null)
    evidence := some fun _ => .ok () }

theorem recorded_call_unrepeated :
    (recovering.send { url := "https://example" }).2 = [1, 2] ∧
      (recovering.send { url := "https://example" }).2.length ≤ 2 + 1 ∧
        NeverRepeats recovering { url := "https://example" }
          (recovering.send { url := "https://example" }) :=
  ⟨by decide +kernel, (answered_call_unrepeated_iff recovering { url := "https://example" }
    rfl).mpr fun _ _ _ _ _ _ => rfl⟩

end Ois.Production
