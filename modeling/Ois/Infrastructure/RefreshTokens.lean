import Ois.Library.Interleaving
import Ois.Infrastructure.OAuthRoundTrips

/-!
# Uses of a credential

`refresh` and `ingest` of `oauth2_connection.py` as calls of three statements: the record is read,
its refresh token is presented to the provider, and the record of the answer is saved. Any other
call on the credential may come in between.
-/

namespace Ois.Infrastructure

open Ois.Library Scene
open Ois.Kernel

/-- `is_expired(skew_seconds)`. -/
def OAuthCredentialRecord.isExpired (record : OAuthCredentialRecord) (skewSeconds : Int)
    (now : DateTime) : Except PyError Bool :=
  match record.expiresAt with
  | none => .ok false
  | some expiresAt => do
    let soon ← Runtime.expiry now skewSeconds
    return decide (expiresAt.instant ≤ soon)

/-- A provider that rotates refresh tokens: the refresh of a number answers with the token of the
next number. -/
structure RotatingProvider where
  tokens : Nat → String
  payload : Nat → Members
  tokens_injective : Function.Injective tokens
  tokens_filled (n : Nat) : tokens n ≠ ""
  returns (n : Nat) :
    (payload n).lookup "refresh_token" = some (.str (tokens (n + 1)))

def RotatingProvider.reply (rotation : RotatingProvider) (refreshToken : String) (issued : Nat) :
    TokenReply :=
  if refreshToken = rotation.tokens issued then .answered (.obj (rotation.payload issued))
  else .rejected 400 "Bad Request" (some (.obj [("error", .str "invalid_grant")]))

inductive CredentialCall where
  | refresh | ingest
  deriving DecidableEq

structure CredentialUse where
  call : CredentialCall
  tenantId : String
  workspaceId : String
  provider : String

inductive UsePoint (prims : OAuthPrimitives) where
  | presenting (cur : OAuthCredentialRecord) (oauth : OAuth2Provider prims)
      (refreshToken : String)
  | saving (updated : OAuthCredentialRecord)

/-- What is told of a statement. `goesOn` is the record whose reference `refresh` returns, and whose
scope `ingest` passes on. -/
inductive UseSaid where
  | silent
  | raised (fail : OAuthFailure)
  | goesOn (cur : OAuthCredentialRecord)

structure SharedCredentials (Store : Type) where
  credentials : Store
  issued : Nat := 0
  presented : List String := []

def SharedCredentials.shown {Store : Type} (rotation : RotatingProvider) (refreshToken : String)
    (shared : SharedCredentials Store) : SharedCredentials Store :=
  { shared with
    presented := shared.presented ++ [refreshToken]
    issued := if refreshToken = rotation.tokens shared.issued then shared.issued + 1
      else shared.issued }

abbrev UseStride (prims : OAuthPrimitives) (Store : Type) :=
  Stride (UsePoint prims) (SharedCredentials Store) UseSaid

namespace OAuth2SourceConnection

variable {prims : OAuthPrimitives} {Store : Type}
  (conn : OAuth2SourceConnection prims Store) (rotation : RotatingProvider)
  (credId : String) (skewSeconds : Int)

def refreshes (use : CredentialUse) (now : DateTime) (cur : OAuthCredentialRecord) :
    Except PyError Bool :=
  match use.call with
  | .refresh => .ok true
  | .ingest => cur.isExpired skewSeconds now

/-- The first lines of `_refresh_record(current)`. -/
def startRefresh (cur : OAuthCredentialRecord) (shared : SharedCredentials Store) :
    UseStride prims Store :=
  match cur.refreshToken.filter (· != "") with
  | none => .ending shared
      (.raised (.raised ⟨.valueError, "OAuth credential has no refresh token"⟩))
  | some refreshToken =>
    match conn.providers.lookup cur.provider with
    | none => .ending shared (.raised (notConfigured cur.provider))
    | some oauth => .going shared (.presenting cur oauth refreshToken) .silent

def readCredential (use : CredentialUse) (now : DateTime) (shared : SharedCredentials Store) :
    UseStride prims Store :=
  match conn.credentials.get credId use.tenantId use.workspaceId use.provider
      shared.credentials with
  | .error err => .ending shared (.raised (.raised err))
  | .ok cur =>
    match refreshes skewSeconds use now cur with
    | .error err => .ending shared (.raised (.raised err))
    | .ok false => .ending shared (.goesOn cur)
    | .ok true => conn.startRefresh cur shared

def rotating (refreshToken : String) (now : DateTime) (shared : SharedCredentials Store) :
    Surroundings :=
  ⟨fun _ => rotation.reply refreshToken shared.issued, now⟩

def refreshed (cur : OAuthCredentialRecord) (token : OAuth2Token) (now : DateTime) :
    Except PyError OAuthCredentialRecord :=
  record cur.credentialId cur.tenantId cur.workspaceId cur.provider token
    cur.scopes cur.refreshToken now

def presentToken (cur : OAuthCredentialRecord) (oauth : OAuth2Provider prims)
    (refreshToken : String) (now : DateTime) (shared : SharedCredentials Store) :
    UseStride prims Store :=
  let shown := shared.shown rotation refreshToken
  match (oauth.refresh refreshToken (rotating rotation refreshToken now shared)).result with
  | .error fail => .ending shown (.raised fail)
  | .ok token =>
    match refreshed cur token now with
    | .error err => .ending shown (.raised (.raised err))
    | .ok updated => .going shown (.saving updated) .silent

def saveCredential (updated : OAuthCredentialRecord) (shared : SharedCredentials Store) :
    UseStride prims Store :=
  match conn.credentials.save updated shared.credentials with
  | .error err => .ending shared (.raised (.raised err))
  | .ok next => .ending { shared with credentials := next } (.goesOn updated)

def uses : Program CredentialUse DateTime (UsePoint prims) (SharedCredentials Store)
    UseSaid where
  enter := conn.readCredential credId skewSeconds
  proceed := fun point now shared =>
    match point with
    | .presenting cur oauth refreshToken =>
      presentToken rotation cur oauth refreshToken now shared
    | .saving updated => conn.saveCredential updated shared

variable (conn : OAuth2SourceConnection prims Store) (rotation : RotatingProvider)
  (credId : String) (skewSeconds : Int)

section steps

theorem refresh_record_eq_steps (cur : OAuthCredentialRecord) (now : DateTime)
    (shared : SharedCredentials Store) (oauth : OAuth2Provider prims) (refreshToken : String)
    (starts : conn.startRefresh cur shared =
      .going shared (.presenting cur oauth refreshToken) .silent) :
    (conn.refreshRecord cur (rotating rotation refreshToken now shared)
      shared.credentials).1 =
      match (presentToken rotation cur oauth refreshToken now shared).point with
      | some (.saving updated) => (conn.saveCredential updated shared).shared.credentials
      | _ => shared.credentials := by
  unfold startRefresh at starts
  cases held : cur.refreshToken.filter (· != "") with
  | none =>
    rw [held] at starts
    cases starts
  | some token =>
    rw [held] at starts
    dsimp only at starts
    cases found : conn.providers.lookup cur.provider with
    | none =>
      rw [found] at starts
      cases starts
    | some provider =>
      rw [found] at starts
      injection starts with _ point _
      injection point with reached
      injection reached with _ sameProvider sameToken
      subst sameProvider sameToken
      unfold refreshRecord presentToken saveCredential recorded refreshed
      simp only [held, found]
      cases (provider.refresh token (rotating rotation token now shared)).result with
      | error fail => rfl
      | ok answer =>
        dsimp only [rotating]
        cases record cur.credentialId cur.tenantId cur.workspaceId
            cur.provider answer cur.scopes cur.refreshToken now with
        | error err => rfl
        | ok updated =>
          dsimp only [Stride.going]
          cases conn.credentials.save updated shared.credentials <;> rfl

variable {conn rotation credId skewSeconds}

theorem read_credential_shared (use : CredentialUse) (now : DateTime)
    (shared : SharedCredentials Store) :
    (conn.readCredential credId skewSeconds use now shared).shared = shared := by
  unfold readCredential startRefresh
  split
  · rfl
  · split
    · rfl
    · rfl
    · split
      · rfl
      · split <;> rfl

variable {now : DateTime}

theorem read_credential_point {use : CredentialUse} {shared : SharedCredentials Store}
    {point : UsePoint prims}
    (reached : (conn.readCredential credId skewSeconds use now shared).point =
      some point) :
    ∃ cur oauth refreshToken,
      conn.credentials.get credId use.tenantId use.workspaceId use.provider
      shared.credentials = .ok cur ∧
      cur.refreshToken = some refreshToken ∧
      point = .presenting cur oauth refreshToken := by
  unfold readCredential startRefresh at reached
  split at reached
  · cases reached
  · rename_i cur got
    split at reached
    · cases reached
    · cases reached
    · split at reached
      · cases reached
      · rename_i refreshToken filled
        split at reached
        · cases reached
        · rename_i oauth _
          injection reached with same
          exact ⟨cur, oauth, refreshToken, got, (Option.filter_eq_some_iff.mp filled).1,
            same.symm⟩

theorem present_token_shared (cur : OAuthCredentialRecord) (oauth : OAuth2Provider prims)
    (refreshToken : String) (now : DateTime) (shared : SharedCredentials Store) :
    (presentToken rotation cur oauth refreshToken now shared).shared =
      shared.shown rotation refreshToken := by
  unfold presentToken
  dsimp only
  split
  · rfl
  · split <;> rfl

def Recordable (rotation : RotatingProvider) (cur : OAuthCredentialRecord)
    (oauth : OAuth2Provider prims) (now : DateTime) (issued : Nat) : Prop :=
  ∃ token updated, OAuth2Token.fromPayload prims (rotation.payload issued)
      (some (rotation.tokens issued)) oauth.config.responseScopeSeparator now = .ok token ∧
    refreshed cur token now = .ok updated

theorem from_payload_rotated {issued : Nat} {refreshToken : Option String} {separator : String}
    {token : OAuth2Token}
    (made : OAuth2Token.fromPayload prims (rotation.payload issued) refreshToken separator
      now = .ok token) : token.refreshToken = some (rotation.tokens (issued + 1)) := by
  have filled : truthy (.str (rotation.tokens (issued + 1))) = true := by
    simpa [truthy] using rotation.tokens_filled (issued + 1)
  rw [(from_payload_parts made).2.2, rotation.returns, Option.getD_some, if_pos filled]
  rfl

theorem refreshed_token {cur updated : OAuthCredentialRecord} {token : OAuth2Token}
    {refreshToken : String} (making : refreshed cur token now = .ok updated)
    (ret : token.refreshToken = some refreshToken) (filled : refreshToken ≠ "") :
    updated.refreshToken = some refreshToken := by
  unfold refreshed record at making
  obtain ⟨expiresAt, _, rest⟩ := bind_ok making
  injection rest with same
  rw [← same]
  simp [ret, Option.filter, filled]

theorem present_token_point {cur : OAuthCredentialRecord} {oauth : OAuth2Provider prims}
    {shared : SharedCredentials Store}
    (recordable : Recordable rotation cur oauth now shared.issued) :
    ∃ token updated,
      (presentToken rotation cur oauth (rotation.tokens shared.issued) now shared).point =
      some (.saving updated) ∧
      token.refreshToken = some (rotation.tokens (shared.issued + 1)) ∧
      token.accessToken ≠ "" ∧ token.tokenType ≠ "" ∧
      refreshed cur token now = .ok updated := by
  obtain ⟨token, updated, made, making⟩ := recordable
  have answered : (oauth.refresh (rotation.tokens shared.issued)
      (rotating rotation (rotation.tokens shared.issued) now shared)).result = .ok token := by
    unfold OAuth2Provider.refresh
    rw [if_neg (rotation.tokens_filled shared.issued)]
    simp only [OAuth2Provider.tokenRequest, rotating, RotatingProvider.reply, if_true,
      OAuth2Provider.readReply, made]
  have filled := (from_payload_parts made).1
  refine ⟨token, updated, ?_, from_payload_rotated made, filled.1, filled.2, making⟩
  unfold presentToken
  rw [answered]
  dsimp only
  rw [making]
  rfl

end steps

/-- The calls on the credential: a run of their statements. -/
abbrev UseScene (prims : OAuthPrimitives) (Store : Type) :=
  Scene (UsePoint prims) (SharedCredentials Store)

/-- No call has a record that it has yet to save. -/
def Settled (scene : UseScene prims Store) : Prop :=
  ∀ n updated, scene.calls n ≠ some (.saving updated)

/-- A call that will refresh reads the credential while no other is on its way, the answer to a
presented token can be recorded, and no call ends before it has saved its record. -/
def Orderly : Statement CredentialUse DateTime → UseScene prims Store → Prop
  | .enter _ use now, scene =>
    (conn.readCredential credId skewSeconds use now scene.shared).point.isSome →
      ∀ n, scene.calls n = none
  | .proceed n now, scene => ∀ cur oauth refreshToken,
      scene.calls n = some (.presenting cur oauth refreshToken) →
        Recordable rotation cur oauth now scene.shared.issued
  | .crash n, scene => ∀ updated, scene.calls n ≠ some (.saving updated)

/-- Every refresh token was presented once at most, and the owner's record holds the refresh token
that was issued last, unless a call has yet to save it. -/
structure Disciplined (owner : OAuthCredentialRecord) (scene : UseScene prims Store) :
    Prop where
  once : scene.shared.presented.Nodup
  stored : (∃ record, conn.credentials.get owner.credentialId owner.tenantId
      owner.workspaceId owner.provider scene.shared.credentials = .ok record ∧
        record.refreshToken = some (rotation.tokens scene.shared.issued)) ↔
    Settled scene

section runs

variable {conn rotation credId skewSeconds}

structure SameNames (owner record : OAuthCredentialRecord) : Prop where
  credentialId : record.credentialId = owner.credentialId
  tenantId : record.tenantId = owner.tenantId
  workspaceId : record.workspaceId = owner.workspaceId
  provider : record.provider = owner.provider

structure Rotates (rotation : RotatingProvider)
    (holds : Store → Dict String OAuthCredentialRecord → Prop)
    (readable : OAuthCredentialRecord → Prop) (owner : OAuthCredentialRecord)
    (scene : UseScene prims Store) (table : Dict String OAuthCredentialRecord)
    (record : OAuthCredentialRecord) : Prop where
  held : holds scene.shared.credentials table
  sound : SoundTable table
  found : table.lookup owner.credentialId = some record
  reads : readable record
  named : SameNames owner record
  alone : ∀ n other point also, scene.calls n = some point →
    scene.calls other = some also → n = other
  presenting : ∀ n cur oauth refreshToken,
    scene.calls n = some (.presenting cur oauth refreshToken) →
      cur = record ∧ refreshToken = rotation.tokens scene.shared.issued
  saving : ∀ n updated, scene.calls n = some (.saving updated) →
    SameNames owner updated ∧ readable updated ∧
      updated.refreshToken = some (rotation.tokens scene.shared.issued) ∧
      ∃ past < scene.shared.issued, record.refreshToken = some (rotation.tokens past)
  settled : Settled scene → record.refreshToken = some (rotation.tokens scene.shared.issued)
  once : scene.shared.presented.Nodup
  spent : ∀ refreshToken ∈ scene.shared.presented,
    ∃ past < scene.shared.issued, refreshToken = rotation.tokens past

variable {holds : Store → Dict String OAuthCredentialRecord → Prop} {keyable : String → Prop}
  {readable : OAuthCredentialRecord → Prop} {owner : OAuthCredentialRecord}
  {scene : UseScene prims Store} {table : Dict String OAuthCredentialRecord}
  {record : OAuthCredentialRecord}

theorem disciplined_of_rotates (keeps : KeepsTable conn.credentials holds keyable readable)
    (rotates : Rotates rotation holds readable owner scene table record) :
    conn.Disciplined rotation owner scene := by
  have read : conn.credentials.get owner.credentialId owner.tenantId owner.workspaceId
      owner.provider scene.shared.credentials = .ok record := by
    rw [keeps.gets _ _ rotates.held rotates.sound]
    refine ⟨rotates.found, rotates.reads, ?_⟩
    rw [← rotates.named.tenantId, ← rotates.named.workspaceId, ← rotates.named.provider]
    exact admits_own record
  refine ⟨rotates.once, ?_⟩
  constructor
  · intro ⟨stored, got, cur⟩ n updated saves
    rw [read] at got
    injection got with same
    obtain ⟨_, _, _, past, before, old⟩ := rotates.saving n updated saves
    rw [← same, old] at cur
    have equal := rotation.tokens_injective (Option.some.inj cur)
    omega
  · intro settled
    exact ⟨record, read, rotates.settled settled⟩

variable {n : Nat} {now : DateTime}

theorem rotates_of_dropped (rotates : Rotates rotation holds readable owner scene table record)
    (unsaved : ∀ updated, scene.calls n ≠ some (.saving updated)) :
    Rotates rotation holds readable owner (scene.dropped n) table record := by
  have kept : ∀ other point, (scene.dropped n).calls other = some point →
      scene.calls other = some point := by
    intro other point reached
    rw [dropped_calls] at reached
    split_ifs at reached
    exact reached
  constructor
  · exact rotates.held
  · exact rotates.sound
  · exact rotates.found
  · exact rotates.reads
  · exact rotates.named
  · intro first second point also here there
    exact rotates.alone first second point also (kept _ _ here) (kept _ _ there)
  · intro other cur oauth refreshToken reached
    exact rotates.presenting other cur oauth refreshToken (kept _ _ reached)
  · intro other updated reached
    exact rotates.saving other updated (kept _ _ reached)
  · intro settled
    apply rotates.settled
    intro other updated reached
    apply settled other updated
    rw [dropped_calls, if_neg]
    · exact reached
    · intro same
      rw [same] at reached
      exact unsaved updated reached
  · exact rotates.once
  · exact rotates.spent

theorem strode_only {stride : UseStride prims Store}
    (idle : ∀ other, other ≠ n → scene.calls other = none) {other : Nat}
    {also : UsePoint prims} (here : (scene.strode n stride).calls other = some also) :
    other = n ∧ stride.point = some also := by
  rw [strode_calls] at here
  split_ifs at here with own
  · exact ⟨own, here⟩
  · rw [idle other own] at here
    cases here

theorem others_idle (rotates : Rotates rotation holds readable owner scene table record)
    {point : UsePoint prims} (there : scene.calls n = some point) :
    ∀ other, other ≠ n → scene.calls other = none := by
  intro other apart
  cases here : scene.calls other with
  | none => rfl
  | some also => exact absurd (rotates.alone _ _ _ _ here there) apart

section

variable (keeps : KeepsTable conn.credentials holds keyable readable)

include keeps

section

variable (rotates : Rotates rotation holds readable owner scene table record)

include rotates

theorem rotates_reading {use : CredentialUse} {point : UsePoint prims}
    (reached : (conn.readCredential owner.credentialId skewSeconds use now
      scene.shared).point = some point)
    (idle : ∀ other, scene.calls other = none) :
    Rotates rotation holds readable owner (scene.strode n
      (conn.readCredential owner.credentialId skewSeconds use now scene.shared)) table
      record := by
  have same : (conn.readCredential owner.credentialId skewSeconds use now
      scene.shared).shared = scene.shared := read_credential_shared use now scene.shared
  obtain ⟨cur, oauth, refreshToken, got, token, presents⟩ := read_credential_point reached
  have read := ((keeps.gets _ _ rotates.held rotates.sound _ _ _ _ _).mp got).1
  rw [rotates.found] at read
  have stored := rotates.settled fun other updated saves => by
    rw [idle other] at saves
    cases saves
  rw [← Option.some.inj read, stored] at token
  have only : ∀ other also, (scene.strode n (conn.readCredential
      owner.credentialId skewSeconds use now scene.shared)).calls other = some also →
        other = n ∧ also = .presenting cur oauth refreshToken := by
    intro other also here
    obtain ⟨own, goesOn⟩ := strode_only (fun other _ => idle other) here
    rw [reached] at goesOn
    exact ⟨own, (Option.some.inj goesOn).symm.trans presents⟩
  constructor
  · rw [strode_shared, same]
    exact rotates.held
  · exact rotates.sound
  · exact rotates.found
  · exact rotates.reads
  · exact rotates.named
  · intro first second point also here there
    rw [(only _ _ here).1, (only _ _ there).1]
  · intro other held provider presented here
    have point := (only _ _ here).2
    injection point with sameRecord _ sameToken
    rw [strode_shared, same, sameRecord, sameToken]
    exact ⟨(Option.some.inj read).symm, (Option.some.inj token).symm⟩
  · intro other updated here
    cases (only _ _ here).2
  · rw [strode_shared, same]
    exact fun _ => stored
  · rw [strode_shared, same]
    exact rotates.once
  · rw [strode_shared, same]
    exact rotates.spent

theorem rotates_entered {use : CredentialUse} (free : scene.calls n = none)
    (orderly : (conn.readCredential owner.credentialId skewSeconds use now
      scene.shared).point.isSome → ∀ other, scene.calls other = none) :
    Rotates rotation holds readable owner (scene.strode n
      (conn.readCredential owner.credentialId skewSeconds use now scene.shared)) table
      record := by
  cases reached : (conn.readCredential owner.credentialId skewSeconds use now
      scene.shared).point with
  | none =>
    have ended : scene.strode n (conn.readCredential owner.credentialId skewSeconds
        use now scene.shared) = scene.dropped n := by
      unfold strode dropped
      rw [read_credential_shared, reached]
    rw [ended]
    apply rotates_of_dropped rotates
    intro updated saves
    rw [free] at saves
    cases saves
  | some point => exact rotates_reading keeps rotates reached (orderly (by rw [reached]; rfl))

omit keeps in
theorem unspent :
    rotation.tokens scene.shared.issued ∉ scene.shared.presented := by
  intro mem
  obtain ⟨past, before, same⟩ := rotates.spent _ mem
  have equal := rotation.tokens_injective same
  omega

omit rotates in
theorem refreshed_alike {cur updated : OAuthCredentialRecord} {token : OAuth2Token}
    (named : SameNames owner cur) (reads : readable cur)
    (making : refreshed cur token now = .ok updated) (access : token.accessToken ≠ "")
    (type : token.tokenType ≠ "") : SameNames owner updated ∧ readable updated := by
  obtain ⟨identifier, tenant, workspace, provider, newAccess, newType, scopes, _⟩ :=
    record_made making
  constructor
  · constructor
    · exact identifier.trans named.credentialId
    · exact tenant.trans named.tenantId
    · exact workspace.trans named.workspaceId
    · exact provider.trans named.provider
  · apply keeps.renews cur updated reads identifier tenant workspace provider _ _ scopes
    · rw [newAccess]
      exact access
    · rw [newType]
      exact type

theorem rotates_presented
    {cur : OAuthCredentialRecord} {oauth : OAuth2Provider prims} {refreshToken : String}
    (there : scene.calls n = some (.presenting cur oauth refreshToken))
    (recordable : Recordable rotation cur oauth now scene.shared.issued) :
    Rotates rotation holds readable owner (scene.strode n
      (presentToken rotation cur oauth refreshToken now scene.shared)) table record := by
  obtain ⟨sameRecord, sameToken⟩ := rotates.presenting n cur oauth refreshToken there
  subst sameRecord sameToken
  obtain ⟨token, updated, reached, ret, access, type, making⟩ :=
    present_token_point recordable
  have shown : (presentToken rotation cur oauth (rotation.tokens scene.shared.issued) now
      scene.shared).shared = scene.shared.shown rotation (rotation.tokens scene.shared.issued) :=
    present_token_shared cur oauth _ now scene.shared
  have issued : (scene.shared.shown rotation (rotation.tokens scene.shared.issued)).issued =
      scene.shared.issued + 1 := if_pos rfl
  have settled : Settled scene := by
    intro other saved saves
    rw [← rotates.alone _ _ _ _ there saves, there] at saves
    cases saves
  have only : ∀ other also, (scene.strode n (presentToken rotation cur oauth
      (rotation.tokens scene.shared.issued) now scene.shared)).calls other = some also →
        other = n ∧ also = .saving updated := by
    intro other also here
    obtain ⟨own, goesOn⟩ := strode_only (others_idle rotates there) here
    rw [reached] at goesOn
    exact ⟨own, (Option.some.inj goesOn).symm⟩
  constructor
  · rw [strode_shared, shown]
    exact rotates.held
  · exact rotates.sound
  · exact rotates.found
  · exact rotates.reads
  · exact rotates.named
  · intro first second point also here other
    rw [(only _ _ here).1, (only _ _ other).1]
  · intro other held provider presented here
    cases (only _ _ here).2
  · intro other saved here
    have point := (only _ _ here).2
    injection point with same
    have alike := refreshed_alike keeps rotates.named rotates.reads making access type
    rw [same, strode_shared, shown, issued]
    exact ⟨alike.1, alike.2, refreshed_token making ret (rotation.tokens_filled _),
      scene.shared.issued, by omega, rotates.settled settled⟩
  · intro ended
    exact absurd (by rw [strode_calls, if_pos rfl, reached]) (ended n updated)
  · rw [strode_shared, shown]
    exact List.nodup_append.mpr ⟨rotates.once, List.nodup_singleton _, by
      intro past mem last single
      rw [List.mem_singleton.mp single]
      intro same
      exact unspent rotates (same ▸ mem)⟩
  · rw [strode_shared, shown, issued]
    intro presented mem
    cases List.mem_append.mp mem with
    | inl before =>
      obtain ⟨past, small, same⟩ := rotates.spent presented before
      exact ⟨past, by omega, same⟩
    | inr new => exact ⟨scene.shared.issued, by omega, List.mem_singleton.mp new⟩

end

theorem rotates_saved (named : keyable owner.credentialId)
    (rotates : Rotates rotation holds readable owner scene table record)
    {updated : OAuthCredentialRecord} (there : scene.calls n = some (.saving updated)) :
    Rotates rotation holds readable owner
      (scene.strode n (conn.saveCredential updated scene.shared))
      (table.set updated.credentialId updated) updated := by
  obtain ⟨names, reads, token, _⟩ := rotates.saving n updated there
  obtain ⟨next, saved, after⟩ := keeps.saves scene.shared.credentials table updated rotates.held
    (by rw [names.credentialId]; exact named)
  have stride : conn.saveCredential updated scene.shared =
      .ending { scene.shared with credentials := next } (.goesOn updated) := by
    unfold saveCredential
    rw [saved]
  rw [stride]
  have none : ∀ other point, (scene.strode n
      (.ending { scene.shared with credentials := next } (.goesOn updated) :
        UseStride prims Store)).calls other ≠ some point := by
    intro other point here
    cases (strode_only (others_idle rotates there) here).2
  have sane : updated.refreshToken ≠ some "" := by
    rw [token]
    intro empty
    exact rotation.tokens_filled _ (Option.some.inj empty)
  constructor
  · exact after
  · exact sound_set rotates.sound sane
  · rw [names.credentialId]
    exact Dict.lookup_set_same _ _ _
  · exact reads
  · exact names
  · intro first second point also here
    exact absurd here (none first point)
  · intro other held provider presented here
    exact absurd here (none other _)
  · intro other held here
    exact absurd here (none other _)
  · exact fun _ => token
  · exact rotates.once
  · exact rotates.spent

end

def Rotating (rotation : RotatingProvider)
    (holds : Store → Dict String OAuthCredentialRecord → Prop)
    (readable : OAuthCredentialRecord → Prop) (owner : OAuthCredentialRecord)
    (scene : UseScene prims Store) : Prop :=
  ∃ table record, Rotates rotation holds readable owner scene table record

section

variable (keeps : KeepsTable conn.credentials holds keyable readable)

include keeps

theorem rotating_next
    (named : keyable owner.credentialId) (stmt : Statement CredentialUse DateTime)
    (rotates : Rotating rotation holds readable owner scene)
    (orderly : conn.Orderly rotation owner.credentialId skewSeconds stmt scene) :
    Rotating rotation holds readable owner
      ((conn.uses rotation owner.credentialId skewSeconds).machine.next stmt scene) := by
  obtain ⟨table, record, rotates⟩ := rotates
  have happens := (conn.uses rotation owner.credentialId skewSeconds).machine_happens
    stmt scene
  unfold Machine.next
  generalize (conn.uses rotation owner.credentialId skewSeconds).machine stmt scene =
    res at happens
  cases happens with
  | ignored => exact ⟨table, record, rotates⟩
  | crashed n => exact ⟨table, record, rotates_of_dropped rotates orderly⟩
  | entered n use now free =>
    exact ⟨table, record, rotates_entered keeps rotates free orderly⟩
  | proceeded n point now there =>
    cases point with
    | presenting cur oauth refreshToken =>
      exact ⟨table, record, rotates_presented keeps rotates there
        (orderly cur oauth refreshToken there)⟩
    | saving updated => exact ⟨_, updated, rotates_saved keeps named rotates there⟩

theorem disciplined_run
    (named : keyable owner.credentialId) {creds : Store} (held : holds creds table)
    (sound : SoundTable table) (found : table.lookup owner.credentialId = some owner)
    (reads : readable owner) (cur : owner.refreshToken = some (rotation.tokens 0))
    (stmts : List (Statement CredentialUse DateTime))
    (orderly : (conn.uses rotation owner.credentialId skewSeconds).machine.Throughout
      (conn.Orderly rotation owner.credentialId skewSeconds) stmts
      (.quiet { credentials := creds })) :
    conn.Disciplined rotation owner
      ((conn.uses rotation owner.credentialId skewSeconds).machine.run stmts
      (.quiet { credentials := creds })) := by
  have started : Rotates rotation holds readable owner
      (.quiet { credentials := creds } : UseScene prims Store) table owner := by
    constructor
    · exact held
    · exact sound
    · exact found
    · exact reads
    · exact ⟨rfl, rfl, rfl, rfl⟩
    · intro first second point also here
      cases here
    · intro n held provider presented here
      cases here
    · intro n updated here
      cases here
    · exact fun _ => cur
    · exact List.nodup_nil
    · intro refreshToken mem
      cases mem
  have ended : Rotating rotation holds readable owner
      ((conn.uses rotation owner.credentialId skewSeconds).machine.run stmts
        (.quiet { credentials := creds })) :=
    Machine.run_keeps (fun stmt scene condition rotates =>
        rotating_next keeps named stmt rotates condition)
      orderly ⟨table, owner, started⟩
  obtain ⟨last, record, rotates⟩ := ended
  exact disciplined_of_rotates keeps rotates

theorem disciplined_after
    {creds : Store} (empty : holds creds []) (history : List ConnectionCall)
    (stored : conn.credentials.get owner.credentialId owner.tenantId owner.workspaceId
      owner.provider (conn.after creds history).credentials = .ok owner)
    (named : ∀ reached, holds (conn.after creds history).credentials reached →
      reached.lookup owner.credentialId = some owner → keyable owner.credentialId)
    (cur : owner.refreshToken = some (rotation.tokens 0))
    (stmts : List (Statement CredentialUse DateTime))
    (orderly : (conn.uses rotation owner.credentialId skewSeconds).machine.Throughout
      (conn.Orderly rotation owner.credentialId skewSeconds) stmts
      (.quiet { credentials := (conn.after creds history).credentials })) :
    conn.Disciplined rotation owner
      ((conn.uses rotation owner.credentialId skewSeconds).machine.run stmts
      (.quiet { credentials := (conn.after creds history).credentials })) := by
  obtain ⟨reached, held, sound⟩ := table_held keeps empty history
  obtain ⟨found, reads, _⟩ := (keeps.gets _ _ held sound _ _ _ _ _).mp stored
  exact disciplined_run keeps (named reached held found) held sound found reads cur stmts
    orderly

end

end runs

end OAuth2SourceConnection

open OAuth2SourceConnection in
/-- On both stores, after any calls, every orderly run of uses of a credential presents every
refresh token once at most, and keeps the one that was issued last wherever no call has yet to save
it. -/
theorem refresh_tokens_disciplined {prims : OAuthPrimitives} {Secrets : Type}
    (providers : Dict String (OAuth2Provider prims))
    (store : SecretManagerOAuthCredentialStore Secrets) (rotation : RotatingProvider)
    (skewSeconds : Int) (history : List ConnectionCall) (owner : OAuthCredentialRecord)
    (cur : owner.refreshToken = some (rotation.tokens 0))
    (stmts : List (Statement CredentialUse DateTime)) :
    let inMemory : OAuth2SourceConnection prims (Dict String OAuthCredentialRecord) :=
      ⟨providers, InMemoryOAuthCredentialStore.operations⟩
    let inSecrets : OAuth2SourceConnection prims Secrets :=
      ⟨providers, store.operations prims⟩
    let records := (inMemory.after [] history).credentials
    let secrets := (inSecrets.after store.backend.empty history).credentials
    (inMemory.credentials.get owner.credentialId owner.tenantId owner.workspaceId owner.provider
        records = .ok owner →
      (inMemory.uses rotation owner.credentialId skewSeconds).machine.Throughout
        (inMemory.Orderly rotation owner.credentialId skewSeconds) stmts
        (.quiet { credentials := records }) →
      inMemory.Disciplined rotation owner
        ((inMemory.uses rotation owner.credentialId skewSeconds).machine.run stmts
          (.quiet { credentials := records }))) ∧
    (inSecrets.credentials.get owner.credentialId owner.tenantId owner.workspaceId owner.provider
        secrets = .ok owner →
      (inSecrets.uses rotation owner.credentialId skewSeconds).machine.Throughout
        (inSecrets.Orderly rotation owner.credentialId skewSeconds) stmts
        (.quiet { credentials := secrets }) →
      inSecrets.Disciplined rotation owner
        ((inSecrets.uses rotation owner.credentialId skewSeconds).machine.run stmts
          (.quiet { credentials := secrets }))) := by
  intro inMemory inSecrets records secrets
  constructor
  · intro stored orderly
    exact disciplined_after in_memory_keeps_table rfl history stored (fun _ _ _ => trivial) cur
      stmts orderly
  · intro stored orderly
    apply disciplined_after (secret_manager_keeps_table prims store) _ history stored _ cur
      stmts orderly
    · intro credId
      exact ⟨fun _ => store.backend.read_empty _, fun _ => rfl⟩
    · intro reached held found
      by_contra risky
      rw [(held owner.credentialId).2 risky] at found
      cases found

def growing : RotatingProvider where
  tokens n := String.ofList (List.replicate (n + 1) 'r')
  payload n := [("access_token", .str "token"),
    ("refresh_token", .str (String.ofList (List.replicate (n + 2) 'r')))]
  tokens_injective := by
    intro n other same
    have lengths := congrArg List.length (String.ofList_injective same)
    simpa using lengths
  tokens_filled n := by
    intro empty
    have lengths := congrArg (·.toList.length) empty
    simp at lengths
  returns _ := rfl

def authorization : List ConnectionCall :=
  [opening, completion [("access_token", .str "token"), ("refresh_token", .str "r")]]

def refreshable : OAuthCredentialRecord :=
  ⟨"github", "tenant", "workspace", "github", "token", some "r", "Bearer", [],
    some DateTime.epoch, none⟩

def reading (n : Nat) : Statement CredentialUse DateTime :=
  .enter n ⟨.refresh, "tenant", "workspace", "github"⟩ DateTime.epoch

def proceeding (n : Nat) : Statement CredentialUse DateTime := .proceed n DateTime.epoch

def refreshScene (stmts : List (Statement CredentialUse DateTime)) :
    OAuth2SourceConnection.UseScene sampleOAuth (Dict String OAuthCredentialRecord) :=
  (inMemory.uses growing "github" 60).machine.run stmts
    (.quiet { credentials := (inMemory.after [] authorization).credentials })

def inTurn : List (Statement CredentialUse DateTime) :=
  [reading 0, proceeding 0, proceeding 0, reading 1, proceeding 1, proceeding 1]

/-- The second refresh presents the token that the first was given. -/
theorem refreshes_in_turn_disciplined :
    inMemory.Disciplined growing refreshable (refreshScene inTurn) := by
  apply (refresh_tokens_disciplined inMemory.providers secretManager growing 60 authorization
    refreshable rfl inTurn).1 (by decide +kernel)
  have first : (refreshScene [reading 0]).calls 0 =
      some (.presenting refreshable plainGithub "r") := rfl
  have saved : (refreshScene [reading 0, proceeding 0]).calls 0 =
      some (.saving { refreshable with refreshToken := some "rr" }) := rfl
  have second : (refreshScene (inTurn.take 4)).calls 1 =
      some (.presenting { refreshable with refreshToken := some "rr" } plainGithub "rr") := rfl
  have again : (refreshScene (inTurn.take 5)).calls 1 =
      some (.saving { refreshable with refreshToken := some "rrr" }) := rfl
  refine ⟨fun _ _ => rfl, ?_, ?_, fun _ n => ?_, ?_, ?_, trivial⟩
  · intro cur oauth refreshToken reached
    cases Option.some.inj (first.symm.trans reached)
    exact ⟨_, _, rfl, rfl⟩
  · intro cur oauth refreshToken reached
    cases saved.symm.trans reached
  · cases n <;> rfl
  · intro cur oauth refreshToken reached
    cases Option.some.inj (second.symm.trans reached)
    exact ⟨_, _, rfl, rfl⟩
  · intro cur oauth refreshToken reached
    cases again.symm.trans reached

/-- Two refreshes read the same record, and both present its refresh token. -/
theorem token_presented_twice :
    ¬∀ stmts, inMemory.Disciplined growing refreshable (refreshScene stmts) := by
  intro disciplined
  have once := (disciplined [reading 0, reading 1, proceeding 0, proceeding 1]).once
  have presented : (refreshScene
      [reading 0, reading 1, proceeding 0, proceeding 1]).shared.presented = ["r", "r"] := rfl
  rw [presented] at once
  exact absurd once (by decide)

end Ois.Infrastructure
