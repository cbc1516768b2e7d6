import Mathlib.Logic.Function.Basic
import Ois.Kernel.PyValues
import Ois.Library.PyText
import Ois.Runtime.EvidenceCore

/-!
# Connections of sources over OAuth

`oauth2.py` with the store of pending states and the requests of a provider, the credential store
of `oauth2_registry.py`, and the connection of `oauth2_connection.py`.
-/

namespace Ois.Infrastructure

open Ois.Library DateTime
open Ois.Kernel

structure ParsedUrl where
  scheme : String
  hostname : Option String
  fragment : String

structure OAuthPrimitives where
  urlparse : String → Except PyError ParsedUrl
  /-- The digest of a verifier in the letters of base 64. -/
  challenge : String → String
  b64encode : String → String
  /-- The draws of `secrets.token_urlsafe(32)`. -/
  state : Nat → String
  state_injective : Function.Injective state
  /-- The draws of `secrets.token_urlsafe(48)`. -/
  verifier : Nat → String
  reprFloat : UInt64 → String

def allowedTokenAuth : List String := ["client_secret_post", "client_secret_basic"]

structure OAuth2Config where
  provider : String
  authorizationUrl : String
  tokenUrl : String
  clientId : String
  clientSecret : String
  redirectUri : String
  scopes : List String := []
  authorizationParams : List (String × String) := []
  clientIdParam : String := "client_id"
  clientSecretParam : String := "client_secret"
  scopeSeparator : String := " "
  responseScopeSeparator : String := " "
  tokenAuthMethod : String := "client_secret_post"
  stateTtlSeconds : Int := 600
  usePkce : Bool := true
  pkceMethod : String := "S256"

def startswith (text start : String) : Bool := start.toList.isPrefixOf text.toList

def require (condition : Bool) (msg : String) : Except PyError Unit :=
  if condition then .ok () else .error ⟨.valueError, msg⟩

def OAuth2Config.validate (prims : OAuthPrimitives) (config : OAuth2Config) :
    Except PyError Unit := do
  require (config.provider != "") "OAuth2 provider is required"
  require (startswith config.authorizationUrl "https://") "OAuth2 authorization URL must use HTTPS"
  require (startswith config.tokenUrl "https://") "OAuth2 token URL must use HTTPS"
  require (config.clientId != "") (config.provider ++ " OAuth2 client ID is required")
  require (config.clientSecret != "") (config.provider ++ " OAuth2 client secret is required")
  require (config.redirectUri != "") (config.provider ++ " OAuth2 redirect URI is required")
  let redirect ← prims.urlparse config.redirectUri
  require (redirect.fragment == "") "OAuth2 redirect URI must not contain a fragment"
  require (redirect.scheme == "https" || (redirect.scheme == "http" &&
      ["localhost", "127.0.0.1", "::1"].any fun host => redirect.hostname == some host))
    "OAuth2 redirect URI must use HTTPS outside localhost"
  require (allowedTokenAuth.contains config.tokenAuthMethod)
    ("unsupported OAuth2 token authentication method: " ++ config.tokenAuthMethod)
  require (0 < config.stateTtlSeconds) "OAuth2 state TTL must be positive"
  require (config.pkceMethod == "S256") "OAuth2 PKCE method must be S256"
  require (!config.scopes.isEmpty) (config.provider ++ " OAuth2 requires at least one scope")
  require (config.scopeSeparator != "") "OAuth2 request scope separator is required"
  require (config.responseScopeSeparator != "") "OAuth2 response scope separator is required"

structure OAuth2Error where
  provider : String
  operation : String
  category : String
  message : String
  errorCode : Option String := none
  statusCode : Option Int := none
  retryable : Bool := false

inductive OAuthFailure where
  | raised (err : PyError)
  | endpoint (err : OAuth2Error)

def calendarDay (days : Nat) : Nat × Nat × Nat :=
  let rest400 := days % 146097
  let rest100 := rest400 % 36524
  let rest4 := rest100 % 1461
  let years := days / 146097 * 400 + rest400 / 36524 * 100 + rest100 / 1461 * 4 + rest4 / 365
  if rest4 / 365 = 4 ∨ rest400 / 36524 = 4 then (years, 12, 31)
  else
    let year := years + 1
    let month := ((List.range 12).filter fun month =>
      decide (daysBeforeMonth year (month + 1) ≤ rest4 % 365)).length
    (year, month, rest4 % 365 - daysBeforeMonth year month + 1)

def momentOf? (instant : Int) : Option DateTime :=
  let size := instant.toNat
  let (year, month, day) := calendarDay (size / microsecondsPerDay)
  let seconds := size / 1000000
  if valid : DateTime.Valid year month day (seconds / 3600 % 24) (seconds / 60 % 60)
      (seconds % 60) (size % 1000000) (some 0) then some ⟨_, _, _, _, _, _, _, _, valid⟩
  else none

example : momentOf? epoch.instant = some epoch := by decide +kernel

structure OAuth2Token where
  accessToken : String
  tokenType : String := "Bearer"
  expiresIn : Option Int := none
  refreshToken : Option String := none
  scope : List String := []
  obtainedAt : Option DateTime := none

namespace OAuth2Token

/-- `None` stands for a token that does not expire; the clock is read for a token that does not
say when it was obtained. -/
def expiresAt (token : OAuth2Token) (now : DateTime) : Except PyError (Option DateTime) :=
  match token.expiresIn with
  | none => .ok none
  | some seconds => do
    let instant ← Runtime.expiry (token.obtainedAt.getD now) seconds
    return momentOf? instant

def readAccessToken (payload : Members) : Except PyError String :=
  let missing := .error ⟨.valueError, "OAuth2 token response is missing access_token"⟩
  match payload.lookup "access_token" with
  | some (.str text) => if text = "" then missing else .ok text
  | _ => missing

def readExpiresIn (prims : OAuthPrimitives) (payload : Members) :
    Except PyError (Option Int) :=
  match payload.lookup "expires_in" with
  | none | some .null => .ok none
  | some value =>
    match PyText.int? 10 (strOf prims.reprFloat value).toList with
    | none => .error ⟨.valueError, "OAuth2 expires_in must be an integer"⟩
    | some seconds =>
      if seconds < 0 then .error ⟨.valueError, "OAuth2 expires_in cannot be negative"⟩
      else .ok (some seconds)

def fromPayload (prims : OAuthPrimitives) (payload : Members)
    (refreshToken : Option String) (scopeSeparator : String) (now : DateTime) :
    Except PyError OAuth2Token := do
  let accessToken ← readAccessToken payload
  let scopeValue := (payload.lookup "scope").getD (.str "")
  let scopes :=
    if truthy scopeValue then (strOf prims.reprFloat scopeValue).splitOn scopeSeparator
    else []
  let ret := (payload.lookup "refresh_token").getD .null
  let preserved :=
    if truthy ret then some (strOf prims.reprFloat ret) else refreshToken
  let expiresIn ← readExpiresIn prims payload
  let tokenType :=
    strOf prims.reprFloat ((payload.lookup "token_type").getD (.str "Bearer"))
  require (tokenType != "") "OAuth2 token_type cannot be empty"
  return { accessToken := accessToken
           tokenType := tokenType
           expiresIn := expiresIn
           refreshToken := preserved
           scope := scopes.filter (· != "")
           obtainedAt := some now }

end OAuth2Token

structure OAuth2State where
  provider : String
  tenantId : String
  workspaceId : String
  expiresAt : Int
  deriving DecidableEq, Repr

namespace InMemoryOAuth2StateStore

def put (state : String) (value : OAuth2State) (states : Dict String OAuth2State) :
    Dict String OAuth2State :=
  states.set state value

def consume (state provider tenant spaceId : String) (now : DateTime)
    (states : Dict String OAuth2State) : Dict String OAuth2State × Bool :=
  match states.lookup state with
  | none => (states, false)
  | some value =>
    if value.expiresAt ≤ now.instant then
      (states.filter fun entry => entry.1 != state, false)
    else if value.provider ≠ provider ∨ value.tenantId ≠ tenant ∨
        value.workspaceId ≠ spaceId then (states, false)
    else (states.filter fun entry => entry.1 != state, true)

end InMemoryOAuth2StateStore

/-- A provider with a valid configuration; its state store and its table of verifiers are objects
of their own, so that a store can be shared. -/
structure OAuth2Provider (prims : OAuthPrimitives) where
  config : OAuth2Config
  stateStore : Nat
  pkceVerifiers : Nat
  valid : config.validate prims = .ok ()

structure OAuthMemory where
  states : Nat → Dict String OAuth2State := fun _ => []
  verifiers : Nat → Dict String String := fun _ => []
  drawn : Nat := 0

structure AuthorizationUrl where
  base : String
  params : Dict String String

structure TokenRequest where
  url : String
  fields : Dict String String
  headers : Dict String String

/-- What comes of a request; a body that is no JSON document is `none`. -/
inductive TokenReply where
  | answered (payload : Json)
  | rejected (code : Int) (reason : String) (body : Option Json)
  | unreachable (msg : String)
  | unreadable

structure Exchange (Value : Type) where
  request : Option TokenRequest
  result : Except OAuthFailure Value

/-- The clock and the token endpoint as a call finds them. -/
structure Surroundings where
  endpoint : TokenRequest → TokenReply
  now : DateTime

namespace OAuth2Provider

variable {prims : OAuthPrimitives}

def authorizationParams (config : OAuth2Config) (state : String) (challenge : Option String) :
    Dict String String :=
  let params : Dict String String := Dict.ofPairs [(config.clientIdParam, config.clientId),
    ("redirect_uri", config.redirectUri), ("response_type", "code"),
    ("scope", config.scopeSeparator.intercalate config.scopes), ("state", state)]
  let params := match challenge with
    | some challenge =>
      (params.set "code_challenge" challenge).set "code_challenge_method" config.pkceMethod
    | none => params
  (Dict.ofPairs config.authorizationParams).foldl
    (fun params param => params.set param.1 param.2) params

def authorizationUrl (provider : OAuth2Provider prims) (tenant spaceId : String)
    (state : Option String) (now : DateTime) (memory : OAuthMemory) :
    OAuthMemory × Except OAuthFailure (AuthorizationUrl × String) :=
  let config := provider.config
  let stateValue := (state.filter (· != "")).getD (prims.state memory.drawn)
  let verifier := prims.verifier memory.drawn
  let memory := { memory with drawn := memory.drawn + 1 }
  match Runtime.expiry now config.stateTtlSeconds with
  | .error err => (memory, .error (.raised err))
  | .ok expiresAt =>
    let states := InMemoryOAuth2StateStore.put stateValue
      ⟨config.provider, tenant, spaceId, expiresAt⟩ (memory.states provider.stateStore)
    let memory :=
      { memory with states := Function.update memory.states provider.stateStore states }
    if config.usePkce then
      let verifiers := (memory.verifiers provider.pkceVerifiers).set stateValue verifier
      ({ memory with
          verifiers := Function.update memory.verifiers provider.pkceVerifiers verifiers },
        .ok (⟨config.authorizationUrl,
          authorizationParams config stateValue (prims.challenge verifier)⟩, stateValue))
    else
      (memory, .ok (⟨config.authorizationUrl, authorizationParams config stateValue none⟩,
        stateValue))

def validateState (provider : OAuth2Provider prims) (state tenant spaceId : String)
    (now : DateTime) (memory : OAuthMemory) : OAuthMemory × Except OAuthFailure Unit :=
  let (states, valid) := InMemoryOAuth2StateStore.consume state provider.config.provider tenant
    spaceId now (memory.states provider.stateStore)
  ({ memory with states := Function.update memory.states provider.stateStore states },
    if valid then .ok ()
    else .error (.raised ⟨.permissionError, "invalid or replayed OAuth2 state"⟩))

def errorPayload : Option Json → Members
  | some (.obj payload) => payload
  | _ => []

def errorCode (prims : OAuthPrimitives) (payload : Members) : Option String :=
  ((payload.lookup "error").filter truthy).map (strOf prims.reprFloat)

def errorDescription (prims : OAuthPrimitives) (payload : Members) : Option String :=
  (["error_description", "message", "error"].findSome? fun key =>
    (payload.lookup key).filter truthy).map (strOf prims.reprFloat)

def readReply (provider : OAuth2Provider prims) (operation : String)
    (refreshToken : Option String) (now : DateTime) :
    TokenReply → Except OAuth2Error OAuth2Token
  | .rejected code reason body =>
    let payload := errorPayload body
    let description := ((errorDescription prims payload).filter (· != "")).getD reason
    let busy := decide (500 ≤ code) || code == 429
    .error { provider := provider.config.provider, operation := operation
             category := if busy then "provider_unavailable" else "provider_rejected"
             message := description, errorCode := errorCode prims payload
             statusCode := some code, retryable := busy }
  | .unreachable msg =>
    .error { provider := provider.config.provider, operation := operation
             category := "transport", message := msg, retryable := true }
  | .unreadable =>
    .error { provider := provider.config.provider, operation := operation
             category := "invalid_response", retryable := true
             message := "OAuth2 token endpoint returned an invalid JSON response" }
  | .answered (.obj payload) =>
    match OAuth2Token.fromPayload prims payload refreshToken
        provider.config.responseScopeSeparator now with
    | .ok token => .ok token
    | .error err =>
      .error { provider := provider.config.provider, operation := operation
               category := "invalid_response", message := err.message }
  | .answered _ =>
    .error { provider := provider.config.provider, operation := operation
             category := "invalid_response", retryable := true
             message := provider.config.provider ++ " OAuth2 token response is invalid" }

def tokenRequest (provider : OAuth2Provider prims) (fields : Dict String String)
    (operation : String) (refreshToken : Option String) (surroundings : Surroundings) :
    Exchange OAuth2Token :=
  let config := provider.config
  let headers : Dict String String :=
    [("Content-Type", "application/x-www-form-urlencoded"), ("Accept", "application/json")]
  let headers := if config.tokenAuthMethod = "client_secret_basic" then
      headers.set "Authorization"
        ("Basic " ++ prims.b64encode (config.clientId ++ ":" ++ config.clientSecret))
    else headers
  let req : TokenRequest := ⟨config.tokenUrl, fields, headers⟩
  ⟨some req, match provider.readReply operation refreshToken surroundings.now
      (surroundings.endpoint req) with
    | .ok token => .ok token
    | .error err => .error (.endpoint err)⟩

def codeFields (config : OAuth2Config) (code : String) (verifier : Option String) :
    Dict String String :=
  let fields : Dict String String := Dict.ofPairs [(config.clientIdParam, config.clientId),
    ("code", code), ("grant_type", "authorization_code"), ("redirect_uri", config.redirectUri)]
  let fields := match verifier with
    | some verifier => fields.set "code_verifier" verifier
    | none => fields
  if config.tokenAuthMethod = "client_secret_post" then
    fields.set config.clientSecretParam config.clientSecret
  else fields

def exchangeCode (provider : OAuth2Provider prims) (code : String)
    (state codeVerifier : Option String) (surroundings : Surroundings) (memory : OAuthMemory) :
    OAuthMemory × Exchange OAuth2Token :=
  if code = "" then
    (memory, ⟨none, .error (.raised ⟨.valueError, "OAuth2 authorization code is required"⟩)⟩)
  else
    let verifiers := memory.verifiers provider.pkceVerifiers
    let (verifiers, verifier) :=
      match codeVerifier.filter (· != ""), state.filter (· != "") with
      | some verifier, _ => (verifiers, some verifier)
      | none, some state =>
        (verifiers.filter fun entry => entry.1 != state, verifiers.lookup state)
      | none, none => (verifiers, none)
    let memory :=
      { memory with verifiers := Function.update memory.verifiers provider.pkceVerifiers verifiers }
    let verifier := verifier.filter (· != "")
    if provider.config.usePkce ∧ verifier = none then
      (memory, ⟨none, .error (.raised ⟨.valueError, "PKCE code_verifier is required"⟩)⟩)
    else
      (memory, provider.tokenRequest (codeFields provider.config code verifier)
        "authorization_code" none surroundings)

def refresh (provider : OAuth2Provider prims) (refreshToken : String)
    (surroundings : Surroundings) : Exchange OAuth2Token :=
  if refreshToken = "" then
    ⟨none, .error (.raised ⟨.valueError, "OAuth2 refresh token is required"⟩)⟩
  else
    let config := provider.config
    let fields : Dict String String := Dict.ofPairs [(config.clientIdParam, config.clientId),
      ("grant_type", "refresh_token"), ("refresh_token", refreshToken)]
    let fields := if config.tokenAuthMethod = "client_secret_post" then
        fields.set config.clientSecretParam config.clientSecret
      else fields
    provider.tokenRequest fields "refresh_token" refreshToken surroundings

end OAuth2Provider

structure OAuthCredentialRecord where
  credentialId : String
  tenantId : String
  workspaceId : String
  provider : String
  accessToken : String
  refreshToken : Option String
  tokenType : String
  scopes : List String
  obtainedAt : Option DateTime
  expiresAt : Option DateTime
  deriving DecidableEq, Repr

namespace OAuthCredentialRecord

def admits (record : OAuthCredentialRecord) (tenant spaceId provider : String) : Bool :=
  record.tenantId == tenant && record.workspaceId == spaceId &&
    (provider == record.provider || startswith provider (record.provider ++ "."))

end OAuthCredentialRecord

structure OAuthCredentialStore (Store : Type) where
  save : OAuthCredentialRecord → Store → Except PyError Store
  get (credId tenant spaceId provider : String) :
    Store → Except PyError OAuthCredentialRecord

def credentialNotFound (credId : String) : PyError :=
  ⟨.other "KeyError", "OAuth credential not found: " ++ credId⟩

def outsideScope : PyError :=
  ⟨.permissionError, "OAuth credential is outside its tenant/workspace/provider scope"⟩

namespace InMemoryOAuthCredentialStore

def save (record : OAuthCredentialRecord) (records : Dict String OAuthCredentialRecord) :
    Except PyError (Dict String OAuthCredentialRecord) :=
  .ok (records.set record.credentialId record)

def get (credId tenant spaceId provider : String)
    (records : Dict String OAuthCredentialRecord) : Except PyError OAuthCredentialRecord :=
  match records.lookup credId with
  | none => .error (credentialNotFound credId)
  | some record =>
    if record.admits tenant spaceId provider then .ok record else .error outsideScope

def operations : OAuthCredentialStore (Dict String OAuthCredentialRecord) := ⟨save, get⟩

end InMemoryOAuthCredentialStore

structure OAuthSecretBackend (Secrets : Type) where
  read : String → Secrets → Option Members
  write : String → Members → Secrets → Secrets
  empty : Secrets
  read_empty (key : String) : read key empty = none
  read_write (key other : String) (value : Members) (secrets : Secrets) :
    read other (write key value secrets) = if other = key then some value else read other secrets

def OAuthSecretBackend.memory : OAuthSecretBackend (Dict String Members) where
  read := fun key secrets => secrets.lookup key
  write := Dict.set
  empty := []
  read_empty := fun _ => rfl
  read_write := fun key other value secrets => Dict.lookup_set key other value secrets

def serialize (record : OAuthCredentialRecord) : Members :=
  let moment := fun value : Option DateTime =>
    match value with
    | some moment => Json.str moment.isoformat
    | none => .null
  [("credential_id", .str record.credentialId), ("tenant_id", .str record.tenantId),
    ("workspace_id", .str record.workspaceId),
    ("provider", .str record.provider),
    ("access_token", .str record.accessToken),
    ("refresh_token", match record.refreshToken with | some token => .str token | none => .null),
    ("token_type", .str record.tokenType),
    ("scopes", .arr (record.scopes.map .str)),
    ("obtained_at", moment record.obtainedAt),
    ("expires_at", moment record.expiresAt)]

def requiredKeys : List String :=
  ["credential_id", "tenant_id", "workspace_id", "provider", "access_token", "token_type", "scopes"]

/-- `payload.get(key)`. -/
def field (payload : Members) (key : String) : Json := (payload.lookup key).getD .null

def textsOf : List Json → Option (List String)
  | [] => some []
  | .str text :: rest => (textsOf rest).map (text :: ·)
  | _ :: _ => none

/-- `datetime.fromisoformat(str(value)) if value else None`. -/
def momentOf (prims : OAuthPrimitives) (value : Json) : Except PyError (Option DateTime) :=
  if truthy value then
    let text := strOf prims.reprFloat value
    match DateTime.fromisoformat? text with
    | some moment => .ok (some moment)
    | none => .error ⟨.valueError, "Invalid isoformat string: " ++ Kernel.reprStr text⟩
  else .ok none

def deserialize (prims : OAuthPrimitives) (payload : Members) :
    Except PyError OAuthCredentialRecord :=
  if requiredKeys.any fun key => !truthy (field payload key) then
    .error ⟨.valueError, "OAuth secret backend returned an incomplete credential record"⟩
  else
    let scopes := match field payload "scopes" with
      | .arr items => textsOf items
      | _ => none
    match scopes with
    | none => .error ⟨.valueError, "OAuth secret backend returned invalid scopes"⟩
    | some scopes => do
      let text := fun key => strOf prims.reprFloat (field payload key)
      let obtainedAt ← momentOf prims (field payload "obtained_at")
      let expiresAt ← momentOf prims (field payload "expires_at")
      return { credentialId := text "credential_id"
               tenantId := text "tenant_id"
               workspaceId := text "workspace_id"
               provider := text "provider"
               accessToken := text "access_token"
               refreshToken :=
                if truthy (field payload "refresh_token") then some (text "refresh_token")
                else none
               tokenType := text "token_type"
               scopes := scopes
               obtainedAt := obtainedAt
               expiresAt := expiresAt }

structure SecretManagerOAuthCredentialStore (Secrets : Type) where
  backend : OAuthSecretBackend Secrets
  keyPrefix : String := "ois/oauth"
  valid : keyPrefix ≠ "" ∧ keyPrefix.toList.getLast? ≠ some '/'

namespace SecretManagerOAuthCredentialStore

variable {Secrets : Type} (store : SecretManagerOAuthCredentialStore Secrets)

def key (credId : String) : Except PyError String :=
  if credId = "" ∨ '/' ∈ credId.toList then
    .error ⟨.valueError, "credential_id must be non-empty and path-safe"⟩
  else .ok (store.keyPrefix ++ "/" ++ credId)

def save (record : OAuthCredentialRecord) (secrets : Secrets) : Except PyError Secrets := do
  let key ← store.key record.credentialId
  return store.backend.write key (serialize record) secrets

def get (prims : OAuthPrimitives) (credId tenant spaceId provider : String)
    (secrets : Secrets) : Except PyError OAuthCredentialRecord := do
  let key ← store.key credId
  match store.backend.read key secrets with
  | none => throw (credentialNotFound credId)
  | some payload =>
    let record ← deserialize prims payload
    if record.credentialId == credId && record.admits tenant spaceId provider then
      return record
    else throw outsideScope

def operations (prims : OAuthPrimitives) : OAuthCredentialStore Secrets :=
  ⟨store.save, store.get prims⟩

end SecretManagerOAuthCredentialStore

structure OAuth2SourceConnection (prims : OAuthPrimitives) (Store : Type) where
  providers : Dict String (OAuth2Provider prims)
  credentials : OAuthCredentialStore Store

structure ConnectionState (Store : Type) where
  memory : OAuthMemory
  credentials : Store

structure Beginning where
  provider : String
  tenantId : String
  workspaceId : String
  now : DateTime

structure Completing where
  provider : String
  tenantId : String
  workspaceId : String
  state : String
  code : String
  credentialId : String
  now : DateTime
  surroundings : Surroundings

structure Refreshing where
  provider : String
  tenantId : String
  workspaceId : String
  credentialId : String
  surroundings : Surroundings

inductive ConnectionCall where
  | begin (call : Beginning)
  | complete (call : Completing)
  | refresh (call : Refreshing)

inductive ConnectionAnswer where
  | opened (res : Except OAuthFailure (AuthorizationUrl × String))
  | exchanged (exchange : Exchange OAuthCredentialRecord)

namespace OAuth2SourceConnection

variable {prims : OAuthPrimitives} {Store : Type}
  (conn : OAuth2SourceConnection prims Store)

def notConfigured (provider : String) : OAuthFailure :=
  .raised ⟨.other "KeyError", "OAuth provider not configured: " ++ provider⟩

def begin (call : Beginning) (memory : OAuthMemory) :
    OAuthMemory × Except OAuthFailure (AuthorizationUrl × String) :=
  match conn.providers.lookup call.provider with
  | none => (memory, .error (notConfigured call.provider))
  | some provider =>
    provider.authorizationUrl call.tenantId call.workspaceId none call.now memory

def record (credId tenant spaceId provider : String) (token : OAuth2Token)
    (fallbackScopes : List String) (fallbackRefreshToken : Option String) (now : DateTime) :
    Except PyError OAuthCredentialRecord := do
  let expiresAt ← token.expiresAt now
  return { credentialId := credId
           tenantId := tenant
           workspaceId := spaceId
           provider := provider
           accessToken := token.accessToken
           refreshToken := match token.refreshToken.filter (· != "") with
            | some refreshToken => some refreshToken
            | none => fallbackRefreshToken
           tokenType := token.tokenType
           scopes := if token.scope.isEmpty then fallbackScopes else token.scope
           obtainedAt := token.obtainedAt
           expiresAt := expiresAt }

def recorded (made : OAuth2Token → Except PyError OAuthCredentialRecord)
    (res : Except OAuthFailure OAuth2Token) (creds : Store) :
    Store × Except OAuthFailure OAuthCredentialRecord :=
  match res with
  | .error fail => (creds, .error fail)
  | .ok token =>
    match made token with
    | .error err => (creds, .error (.raised err))
    | .ok record =>
      match conn.credentials.save record creds with
      | .error err => (creds, .error (.raised err))
      | .ok next => (next, .ok record)

/-- The source returns the reference of the record. -/
def complete (call : Completing) (state : ConnectionState Store) :
    ConnectionState Store × Exchange OAuthCredentialRecord :=
  if call.credentialId = "" then
    (state, ⟨none, .error (.raised ⟨.valueError, "credential_id is required"⟩)⟩)
  else
    match conn.providers.lookup call.provider with
    | none => (state, ⟨none, .error (notConfigured call.provider)⟩)
    | some oauth =>
      match oauth.validateState call.state call.tenantId call.workspaceId call.now state.memory with
      | (memory, .error fail) => ({ state with memory := memory }, ⟨none, .error fail⟩)
      | (memory, .ok ()) =>
        let (memory, exchange) :=
          oauth.exchangeCode call.code none none call.surroundings memory
        let (creds, res) := conn.recorded
          (fun token => record call.credentialId call.tenantId call.workspaceId call.provider
            token [] none call.surroundings.now) exchange.result state.credentials
        (⟨memory, creds⟩, ⟨exchange.request, res⟩)

def refreshRecord (cur : OAuthCredentialRecord) (surroundings : Surroundings)
    (creds : Store) : Store × Exchange OAuthCredentialRecord :=
  match cur.refreshToken.filter (· != "") with
  | none => (creds,
      ⟨none, .error (.raised ⟨.valueError, "OAuth credential has no refresh token"⟩)⟩)
  | some refreshToken =>
    match conn.providers.lookup cur.provider with
    | none => (creds, ⟨none, .error (notConfigured cur.provider)⟩)
    | some oauth =>
      let exchange := oauth.refresh refreshToken surroundings
      let (creds, res) := conn.recorded
        (fun token => record cur.credentialId cur.tenantId cur.workspaceId
          cur.provider token cur.scopes cur.refreshToken surroundings.now)
        exchange.result creds
      (creds, ⟨exchange.request, res⟩)

def refresh (call : Refreshing) (creds : Store) :
    Store × Exchange OAuthCredentialRecord :=
  match conn.credentials.get call.credentialId call.tenantId call.workspaceId call.provider
      creds with
  | .error err => (creds, ⟨none, .error (.raised err)⟩)
  | .ok cur => conn.refreshRecord cur call.surroundings creds

def calls : Machine ConnectionCall (ConnectionState Store) ConnectionAnswer
  | .begin call, state =>
    let (memory, res) := conn.begin call state.memory
    ({ state with memory := memory }, .opened res)
  | .complete call, state =>
    let (state, exchange) := conn.complete call state
    (state, .exchanged exchange)
  | .refresh call, state =>
    let (creds, exchange) := conn.refresh call state.credentials
    ({ state with credentials := creds }, .exchanged exchange)

end OAuth2SourceConnection

end Ois.Infrastructure
