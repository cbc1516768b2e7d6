import Ois.Infrastructure.OAuthCredentials

/-!
# Which credentials are read back

A refresh saves what it has read, with a new token, so its record can be read again.
-/

namespace Ois.Infrastructure

open Ois.Library
open Ois.Kernel

section scopes

variable (prims : OAuthPrimitives)

def GrantsScope (separator : String) (body : Members) : Prop :=
  ∃ value, body.lookup "scope" = some value ∧ truthy value = true ∧
    ∃ scope ∈ (strOf prims.reprFloat value).splitOn separator, scope ≠ ""

variable {prims}

theorem from_payload_scope {body : Members} {refreshToken : Option String}
    {separator : String} {now : DateTime} {token : OAuth2Token}
    (made : OAuth2Token.fromPayload prims body refreshToken separator now = .ok token) :
    token.scope ≠ [] ↔ GrantsScope prims separator body := by
  rw [(from_payload_parts made).2.1]
  unfold GrantsScope
  cases body.lookup "scope" with
  | none => simp [truthy]
  | some value =>
    simp only [Option.getD_some, Option.some.injEq, exists_eq_left']
    cases full : truthy value with
    | false => simp
    | true => simp

end scopes

namespace OAuth2SourceConnection

variable {prims : OAuthPrimitives} {Store : Type}
  (conn : OAuth2SourceConnection prims Store)

def RepliesWith (provider : OAuth2Provider prims) (call : Completing) (body : Members) :
    Prop :=
  ∃ req, (provider.tokenRequest (OAuth2Provider.codeFields provider.config call.code none)
      "authorization_code" none call.surroundings).request = some req ∧
    call.surroundings.endpoint req = .answered (.obj body)

def Legible : ConnectionCall → Prop
  | .complete call => call.tenantId ≠ "" ∧ call.workspaceId ≠ "" ∧ call.provider ≠ "" ∧
      ∃ provider body, conn.providers.lookup call.provider = some provider ∧
        RepliesWith provider call body ∧
        GrantsScope prims provider.config.responseScopeSeparator body
  | _ => True

variable {conn}

variable {call : Completing} {state : ConnectionState Store} {token : OAuth2Token}

theorem obtains_answered
    (obtained : conn.Obtains call state token) :
    ∃ provider body, conn.providers.lookup call.provider = some provider ∧
      RepliesWith provider call body ∧
      OAuth2Token.fromPayload prims body none provider.config.responseScopeSeparator
      call.surroundings.now = .ok token := by
  obtain ⟨_, provider, found, _, exchanged⟩ := obtained
  unfold OAuth2Provider.exchangeCode at exchanged
  by_cases coded : call.code = ""
  · rw [if_pos coded] at exchanged
    cases exchanged
  · rw [if_neg coded] at exchanged
    simp only [Option.filter_none, and_true] at exchanged
    split_ifs at exchanged
    obtain ⟨req, body, sent, replied, made⟩ := token_request_answered exchanged
    exact ⟨provider, body, found, ⟨req, sent, replied⟩, made⟩

variable {holds : Store → Dict String OAuthCredentialRecord → Prop} {keyable : String → Prop}
  {readable : OAuthCredentialRecord → Prop} {creds : Store}

theorem table_held (keeps : KeepsTable conn.credentials holds keyable readable)
    (empty : holds creds []) (calls : List ConnectionCall) :
    ∃ table, holds (conn.after creds calls).credentials table ∧ SoundTable table := by
  induction calls using List.reverseRecOn with
  | nil =>
    refine ⟨[], empty, ?_⟩
    intro credId record found
    cases found
  | append_singleton past call ih =>
    obtain ⟨table, held, sound⟩ := ih
    rw [after_concat]
    cases call_cases keeps call (conn.after creds past) held sound with
    | inl done =>
      obtain ⟨made, _, _, sane, after, _⟩ := done
      exact ⟨_, after, sound_set sound sane⟩
    | inr idle =>
      rw [idle.2.1]
      exact ⟨table, held, sound⟩

theorem saved_read_back_iff (keeps : KeepsTable conn.credentials holds keyable readable)
    (empty : holds creds []) (before : List ConnectionCall) (call : ConnectionCall)
    {record : OAuthCredentialRecord}
    (stored : (conn.calls.answer call (conn.after creds before)).saved? =
      some record) :
    conn.credentials.get record.credentialId record.tenantId record.workspaceId
      record.provider (conn.after creds (before ++ [call])).credentials =
      .ok record ↔
      readable record := by
  obtain ⟨table, held, sound⟩ := table_held keeps empty before
  rw [after_concat]
  cases call_cases keeps call (conn.after creds before) held sound with
  | inl done =>
    obtain ⟨made, answered, _, sane, after, _⟩ := done
    rw [stored] at answered
    rw [← Option.some.inj answered] at sane after
    rw [keeps.gets _ _ after (sound_set sound sane), Dict.lookup_set_same]
    simp [admits_own]
  | inr idle =>
    rw [idle.1] at stored
    cases stored

theorem reply_unique {provider : OAuth2Provider prims} {call : Completing}
    {body other : Members} (first : RepliesWith provider call body)
    (second : RepliesWith provider call other) : body = other := by
  obtain ⟨req, sent, replied⟩ := first
  obtain ⟨also, again, replies⟩ := second
  rw [sent] at again
  rw [← Option.some.inj again, replied] at replies
  injection replies with same
  injection same

theorem record_scopes {call : Completing} {token : OAuth2Token} {made : OAuthCredentialRecord}
    (making : recordOf call token = .ok made) : made.scopes = token.scope := by
  unfold recordOf record at making
  obtain ⟨expiresAt, _, rest⟩ := bind_ok making
  injection rest with same
  rw [← same]
  cases token.scope <;> rfl

theorem completed_legible_iff {made : OAuthCredentialRecord}
    (obtained : conn.Obtains call state token) (making : recordOf call token = .ok made) :
    Complete made ↔ conn.Legible (.complete call) := by
  obtain ⟨provider, body, found, replied, read⟩ := obtains_answered obtained
  have names := record_made making
  have filled := (from_payload_parts read).1
  have granted := from_payload_scope read
  rw [complete_iff, names.1, names.2.1, names.2.2.1, names.2.2.2.1, names.2.2.2.2.1,
    names.2.2.2.2.2.1, record_scopes making, granted]
  constructor
  · intro complete
    exact ⟨complete.2.1, complete.2.2.1, complete.2.2.2.1, provider, body, found, replied,
      complete.2.2.2.2.2.2⟩
  · intro legible
    obtain ⟨tenant, workspace, named, other, also, again, replies, grants⟩ := legible
    rw [found] at again
    have same := Option.some.inj again
    subst same
    rw [← reply_unique replied replies] at grants
    exact ⟨obtained.1, tenant, workspace, named, filled.1, filled.2, grants⟩

theorem saved_legible_iff (keeps : KeepsTable conn.credentials holds keyable Complete)
    (empty : holds creds []) (before : List ConnectionCall) (call : ConnectionCall)
    {record : OAuthCredentialRecord}
    (stored : (conn.calls.answer call (conn.after creds before)).saved? =
      some record) :
    Complete record ↔ conn.Legible call := by
  obtain ⟨table, held, sound⟩ := table_held keeps empty before
  cases call with
  | begin beginning => cases stored
  | complete completing =>
    simp only [Machine.answer, calls, ConnectionAnswer.saved?] at stored
    cases complete_cases keeps completing (conn.after creds before) held with
    | inl done =>
      obtain ⟨token, made, obtained, making, _, res, _⟩ := done
      rw [res] at stored
      rw [← Option.some.inj stored]
      exact completed_legible_iff obtained making
    | inr failed =>
      obtain ⟨⟨fail, res⟩, _⟩ := failed
      rw [res] at stored
      cases stored
  | refresh refreshing =>
    simp only [Machine.answer, calls, ConnectionAnswer.saved?] at stored
    cases refresh_cases keeps refreshing (conn.after creds before).credentials held
        sound with
    | inl done =>
      obtain ⟨cur, made, _, _, _, _, _, _, reads, _, res, _⟩ := done
      rw [res] at stored
      rw [← Option.some.inj stored]
      exact iff_of_true reads trivial
    | inr failed =>
      obtain ⟨⟨fail, res⟩, _⟩ := failed
      rw [res] at stored
      cases stored

end OAuth2SourceConnection

/-- What a call saves in the secret manager is read back by its owner exactly if the call is a
refresh, or completes an authorization of a named owner with a token response that grants a
scope. -/
theorem secret_read_back_iff {prims : OAuthPrimitives} {Secrets : Type}
    (providers : Dict String (OAuth2Provider prims))
    (store : SecretManagerOAuthCredentialStore Secrets) (before : List ConnectionCall)
    (call : ConnectionCall) (record : OAuthCredentialRecord)
    (stored : let conn : OAuth2SourceConnection prims Secrets :=
        ⟨providers, store.operations prims⟩
      (conn.calls.answer call (conn.after store.backend.empty before)).saved? =
        some record) :
    let conn : OAuth2SourceConnection prims Secrets :=
      ⟨providers, store.operations prims⟩
    store.get prims record.credentialId record.tenantId record.workspaceId record.provider
        (conn.after store.backend.empty (before ++ [call])).credentials = .ok record ↔
      conn.Legible call := by
  intro conn
  have keeps := secret_manager_keeps_table prims store
  have empty : HoldsTable store store.backend.empty [] := by
    intro credId
    exact ⟨fun _ => store.backend.read_empty _, fun _ => rfl⟩
  have back := OAuth2SourceConnection.saved_read_back_iff keeps empty before call stored
  have legible := OAuth2SourceConnection.saved_legible_iff keeps empty before call stored
  exact back.trans legible

def opening : ConnectionCall := .begin ⟨"github", "tenant", "workspace", DateTime.epoch⟩

/-- The completion of the opened authorization with a token response. -/
def completion (body : Members) : ConnectionCall :=
  .complete {
    provider := "github", tenantId := "tenant", workspaceId := "workspace"
    state := sampleOAuth.state 0, code := "code", credentialId := "github"
    now := DateTime.epoch
    surroundings := ⟨fun _ => .answered (.obj body), DateTime.epoch⟩ }

/-- The record of a token without a refresh token and without an expiry. -/
def bearer (scopes : List String) : OAuthCredentialRecord :=
  ⟨"github", "tenant", "workspace", "github", "token", none, "Bearer", scopes,
    some DateTime.epoch, none⟩

theorem one_scope : ("r".splitOn " ").filter (· != "") = ["r"] := by
  rw [String.splitOn, if_neg (by decide), String.splitOnAux, if_neg (by decide),
    if_neg (by decide), String.splitOnAux, if_pos (by decide)]
  decide +kernel

/-- A token with a scope is read back. -/
theorem scoped_token_read_back :
    secretManager.get sampleOAuth "github" "tenant" "workspace" "github"
      (inSecrets.after secretManager.backend.empty ([opening] ++
      [completion [("access_token", .str "token"), ("scope", .str "r")]])).credentials =
      .ok (bearer ["r"]) := by
  have stored : (inSecrets.calls.answer
      (completion [("access_token", .str "token"), ("scope", .str "r")])
      (inSecrets.after secretManager.backend.empty [opening])).saved? =
        some (bearer (if (("r".splitOn " ").filter (· != "")).isEmpty then []
          else ("r".splitOn " ").filter (· != ""))) := rfl
  rw [one_scope] at stored
  apply (secret_read_back_iff inSecrets.providers secretManager [opening]
    (completion [("access_token", .str "token"), ("scope", .str "r")]) (bearer ["r"])
    stored).mpr
  have granted : "r" ∈ ("r".splitOn " ").filter (· != "") := by
    rw [one_scope]
    exact List.mem_singleton_self "r"
  exact ⟨by decide, by decide, by decide, plainGithub, _, rfl, ⟨_, rfl, rfl⟩, .str "r", rfl, rfl,
    "r", (List.mem_filter.mp granted).1, by decide⟩

/-- A token that comes without a scope is saved and never read back. -/
theorem unscoped_token_lost :
    ¬∀ before call record, (inSecrets.calls.answer call
      (inSecrets.after secretManager.backend.empty before)).saved? = some record →
      secretManager.get sampleOAuth record.credentialId record.tenantId record.workspaceId
      record.provider
      (inSecrets.after secretManager.backend.empty (before ++ [call])).credentials =
      .ok record := by
  intro reads
  have back := reads [opening] (completion [("access_token", .str "token")]) (bearer [])
    (by decide +kernel)
  revert back
  decide +kernel

end Ois.Infrastructure
