import Ois.Library.Histories
import Ois.Infrastructure.OAuthConnection

/-!
# The authorization-code flow

The pending states of a connection are exactly the authorizations that were opened, and neither
completed nor found expired since.
-/

namespace Ois.Infrastructure

open Ois.Library Dict
open Ois.Kernel

section consuming

variable {state provider tenantId spaceId : String} {now : DateTime}
  {states : Dict String OAuth2State}

def OAuth2State.SpentBy (value : OAuth2State) (provider tenantId spaceId : String)
    (now : DateTime) : Prop :=
  value.expiresAt ≤ now.instant ∨ (value.provider = provider ∧ value.tenantId = tenantId ∧
    value.workspaceId = spaceId)

open InMemoryOAuth2StateStore

end consuming

namespace OAuth2Provider

variable {prims : OAuthPrimitives} (provider : OAuth2Provider prims)

def ownChallenge (config : OAuth2Config) : Option String :=
  (authorizationParams config "" none).lookup "code_challenge"

def ownVerifier (config : OAuth2Config) : Option String :=
  (codeFields config "" none).lookup "code_verifier"

end OAuth2Provider

open OAuth2Provider

def OAuth2Config.Plain (prims : OAuthPrimitives) (config : OAuth2Config) : Prop :=
  config.usePkce = false ∧ (ownVerifier config).map prims.challenge = ownChallenge config

/-- What `begin` opens: the provider, whom the authorization is for, the URL and the state that are
returned, and when the state expires. -/
structure Authorization (prims : OAuthPrimitives) where
  provider : OAuth2Provider prims
  tenantId : String
  workspaceId : String
  url : AuthorizationUrl
  state : String
  expiresAt : Int

def Authorization.value {prims : OAuthPrimitives} (opened : Authorization prims) :
    OAuth2State :=
  ⟨opened.provider.config.provider, opened.tenantId, opened.workspaceId, opened.expiresAt⟩

def Beginning.authorization {prims : OAuthPrimitives} (call : Beginning)
    (provider : OAuth2Provider prims) (expiresAt : Int) (draw : Nat) :
    Authorization prims where
  provider := provider
  tenantId := call.tenantId
  workspaceId := call.workspaceId
  url := ⟨provider.config.authorizationUrl, authorizationParams provider.config
    (prims.state draw) (if provider.config.usePkce then
      some (prims.challenge (prims.verifier draw)) else none)⟩
  state := prims.state draw
  expiresAt := expiresAt

namespace OAuth2SourceConnection

variable {prims : OAuthPrimitives} {Store : Type}
  (conn : OAuth2SourceConnection prims Store)

section steps

def SpendsState (n : Nat) (token : String) (value : OAuth2State) (call : Completing) :
    Prop :=
  call.credentialId ≠ "" ∧ ∃ provider, conn.providers.lookup call.provider = some provider ∧
    provider.stateStore = n ∧ token = call.state ∧
      value.SpentBy provider.config.provider call.tenantId call.workspaceId call.now

variable (call : Completing) (state : ConnectionState Store)

end steps

variable (conn : OAuth2SourceConnection prims Store) (creds : Store)

def after (before : List ConnectionCall) : ConnectionState Store :=
  conn.calls.run before ⟨{}, creds⟩

/-- A call of `begin` after some others opens the authorization. -/
structure Opens (past : List ConnectionCall) (call : Beginning)
    (opened : Authorization prims) : Prop where
  provider : conn.providers.lookup call.provider = some opened.provider
  tenant : call.tenantId = opened.tenantId
  workspace : call.workspaceId = opened.workspaceId
  returned : conn.calls.answer (.begin call) (conn.after creds past) =
    .opened (.ok (opened.url, opened.state))
  expires : Runtime.expiry call.now opened.provider.config.stateTtlSeconds = .ok opened.expiresAt

def Spends (opened : Authorization prims) : ConnectionCall → Prop
  | .complete call =>
    conn.SpendsState opened.provider.stateStore opened.state opened.value call
  | _ => False

/-- The authorization was opened, and not used up since. -/
def Pending : List ConnectionCall → Authorization prims → Prop :=
  Since (fun past call opened => ∃ beginning, call = .begin beginning ∧
    conn.Opens creds past beginning opened) conn.Spends

section runs

variable (before : List ConnectionCall) (call : ConnectionCall) (opened : Authorization prims)

theorem after_concat :
    conn.after creds (before ++ [call]) =
      conn.calls.next call (conn.after creds before) :=
  conn.calls.run_concat before call _

end runs

end OAuth2SourceConnection

/-- Draws of growing length, and a URL of the application. -/
def sampleOAuth : OAuthPrimitives where
  urlparse := fun _ => .ok ⟨"https", some "app.test", ""⟩
  challenge := fun verifier => "challenge of " ++ verifier
  b64encode := id
  state := fun draw => String.ofList (List.replicate (draw + 43) 's')
  state_injective := by
    intro draw other same
    have lengths := congrArg List.length (String.ofList_injective same)
    simpa using lengths
  verifier := fun draw => String.ofList (List.replicate (draw + 64) 'v')
  reprFloat := fun _ => "0.0"

def githubConfig : OAuth2Config where
  provider := "github"
  authorizationUrl := "https://github.com/login/oauth/authorize"
  tokenUrl := "https://github.com/login/oauth/access_token"
  clientId := "client"
  clientSecret := "secret"
  redirectUri := "https://app.test/github/callback"
  scopes := ["read:user", "user:email"]
  authorizationParams := [("allow_signup", "true")]

def beginning : Beginning := ⟨"github", "tenant-1", "workspace-1", DateTime.epoch⟩

def completing : Completing where
  provider := "github"
  tenantId := "tenant-1"
  workspaceId := "workspace-1"
  state := sampleOAuth.state 0
  code := "temporary-code"
  credentialId := "github-credential"
  now := DateTime.epoch
  surroundings := ⟨fun _ => .unreadable, DateTime.epoch⟩

end Ois.Infrastructure
