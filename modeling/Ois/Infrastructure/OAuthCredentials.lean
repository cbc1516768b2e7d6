import Ois.Infrastructure.Tables
import Ois.Infrastructure.OAuthFlow

/-!
# Whose credentials a connection keeps

Both stores are tables by credential identifier: a save replaces what the identifier held, whoever
saved it, and only reads look at the tenant and the workspace. The secret manager also refuses to
read back a record with an empty part.
-/

namespace Ois.Infrastructure

open Ois.Library DateTime OAuth2Token Machine
open Ois.Kernel

def SoundTable (table : Dict String OAuthCredentialRecord) : Prop :=
  ∀ credId record, table.lookup credId = some record →
    record.credentialId = credId ∧ record.refreshToken ≠ some ""

structure KeepsTable {Store : Type} (store : OAuthCredentialStore Store)
    (holds : Store → Dict String OAuthCredentialRecord → Prop) (keyable : String → Prop)
    (readable : OAuthCredentialRecord → Prop) : Prop where
  saves : ∀ creds table record, holds creds table → keyable record.credentialId →
    ∃ next, store.save record creds = .ok next ∧
      holds next (table.set record.credentialId record)
  refuses : ∀ creds record, ¬keyable record.credentialId →
    ∃ err, store.save record creds = .error err
  gets : ∀ creds table, holds creds table → SoundTable table →
    ∀ credId tenantId spaceId provider record,
      store.get credId tenantId spaceId provider creds = .ok record ↔
        table.lookup credId = some record ∧ readable record ∧
          record.admits tenantId spaceId provider = true
  renews : ∀ cur record : OAuthCredentialRecord, readable cur →
    record.credentialId = cur.credentialId → record.tenantId = cur.tenantId →
    record.workspaceId = cur.workspaceId → record.provider = cur.provider →
    record.accessToken ≠ "" → record.tokenType ≠ "" →
    (record.scopes ≠ [] ∨ record.scopes = cur.scopes) → readable record

theorem admits_own (record : OAuthCredentialRecord) :
    record.admits record.tenantId record.workspaceId record.provider = true := by
  simp [OAuthCredentialRecord.admits]

theorem owner_of_admits {record : OAuthCredentialRecord} {tenantId spaceId provider : String}
    (admits : record.admits tenantId spaceId provider = true) :
    record.tenantId = tenantId ∧ record.workspaceId = spaceId := by
  unfold OAuthCredentialRecord.admits at admits
  simp only [Bool.and_eq_true, beq_iff_eq] at admits
  exact admits.1

section memory

open InMemoryOAuthCredentialStore

theorem in_memory_get_iff (credId tenantId spaceId provider : String)
    (table : Dict String OAuthCredentialRecord) (record : OAuthCredentialRecord) :
    InMemoryOAuthCredentialStore.get credId tenantId spaceId provider table = .ok record ↔
      table.lookup credId = some record ∧
      record.admits tenantId spaceId provider = true := by
  unfold InMemoryOAuthCredentialStore.get
  cases found : table.lookup credId with
  | none => simp
  | some held =>
    simp only [Option.some.injEq]
    split_ifs with admitted
    · simp only [Except.ok.injEq]
      constructor
      · intro same
        exact ⟨same, same ▸ admitted⟩
      · exact And.left
    · simp only [false_iff]
      intro kept
      rw [kept.1] at admitted
      exact admitted kept.2

theorem in_memory_keeps_table :
    KeepsTable operations (fun creds table => creds = table) (fun _ => True)
      (fun _ => True) where
  saves := by
    intro creds table record same _
    rw [same]
    exact ⟨_, rfl, rfl⟩
  refuses := by
    intro creds record refused
    exact absurd trivial refused
  gets := by
    intro creds table same _ credId tenantId spaceId provider record
    rw [same, true_and]
    exact in_memory_get_iff credId tenantId spaceId provider table record
  renews := by
    intros
    trivial

end memory

section secrets

def Complete (record : OAuthCredentialRecord) : Prop :=
  ∀ key ∈ requiredKeys, truthy (field (serialize record) key) = true

instance (record : OAuthCredentialRecord) : Decidable (Complete record) :=
  inferInstanceAs (Decidable (∀ key ∈ requiredKeys, _))

theorem complete_iff (record : OAuthCredentialRecord) :
    Complete record ↔ record.credentialId ≠ "" ∧ record.tenantId ≠ "" ∧
      record.workspaceId ≠ "" ∧ record.provider ≠ "" ∧ record.accessToken ≠ "" ∧
      record.tokenType ≠ "" ∧ record.scopes ≠ [] := by
  simp [Complete, requiredKeys, field, serialize, truthy, List.lookup_cons]

theorem texts_of_texts (texts : List String) : textsOf (texts.map .str) = some texts := by
  induction texts with
  | nil => rfl
  | cons text rest ih => simp [textsOf, ih]

theorem isoformat_nonempty (moment : DateTime) : moment.isoformat ≠ "" := by
  intro empty
  have parsed := fromisoformat_isoformat moment
  rw [empty] at parsed
  have none : fromisoformat? "" = none := by decide
  rw [none] at parsed
  cases parsed

variable (prims : OAuthPrimitives)

theorem moment_of_moment (moment : Option DateTime) :
    momentOf prims (match moment with
      | some moment => Json.str moment.isoformat
      | none => .null) = .ok moment := by
  cases moment with
  | none => rfl
  | some moment =>
    have written : truthy (.str moment.isoformat) = true := by
      simpa [truthy] using isoformat_nonempty moment
    unfold momentOf
    rw [if_pos written]
    simp [strOf]

theorem deserialize_serialize (record : OAuthCredentialRecord)
    (sane : record.refreshToken ≠ some "") :
    (Complete record → deserialize prims (serialize record) = .ok record) ∧
      (¬Complete record → ∃ err, deserialize prims (serialize record) = .error err) := by
  have missing : (requiredKeys.any fun key => !truthy (field (serialize record) key)) = true ↔
      ¬Complete record := by
    simp [Complete]
  constructor
  · intro complete
    unfold deserialize
    rw [if_neg (by rw [missing]; exact not_not.mpr complete)]
    have scopes : field (serialize record) "scopes" = .arr (record.scopes.map .str) := rfl
    have obtained : momentOf prims (field (serialize record) "obtained_at") =
        .ok record.obtainedAt := moment_of_moment prims record.obtainedAt
    have expires : momentOf prims (field (serialize record) "expires_at") =
        .ok record.expiresAt := moment_of_moment prims record.expiresAt
    have refreshed : (if truthy (field (serialize record) "refresh_token") then
        some (strOf prims.reprFloat (field (serialize record) "refresh_token")) else none) =
          record.refreshToken := by
      have held : field (serialize record) "refresh_token" =
          Json.ofOption .str record.refreshToken := by
        unfold field serialize
        cases record.refreshToken <;> rfl
      rw [held]
      cases given : record.refreshToken with
      | none => rfl
      | some token =>
        have nonempty : token ≠ "" := by
          intro empty
          rw [given, empty] at sane
          exact sane rfl
        rw [if_pos (by simpa [Json.ofOption, truthy] using nonempty)]
        rfl
    rw [scopes]
    dsimp only
    rw [texts_of_texts]
    dsimp only
    rw [obtained, expires, refreshed]
    rfl
  · intro incomplete
    unfold deserialize
    rw [if_pos (missing.mpr incomplete)]
    exact ⟨_, rfl⟩

variable {Secrets : Type} (store : SecretManagerOAuthCredentialStore Secrets)

def PathSafe (credId : String) : Prop :=
  credId ≠ "" ∧ '/' ∉ credId.toList

def HoldsTable (secrets : Secrets) (table : Dict String OAuthCredentialRecord) : Prop :=
  ∀ credId, (PathSafe credId →
      store.backend.read (store.keyPrefix ++ "/" ++ credId) secrets =
        (table.lookup credId).map serialize) ∧
    (¬PathSafe credId → table.lookup credId = none)

theorem key_of_safe {credId : String} (safe : PathSafe credId) :
    store.key credId = .ok (store.keyPrefix ++ "/" ++ credId) := by
  unfold SecretManagerOAuthCredentialStore.key
  rw [if_neg]
  intro refused
  cases refused with
  | inl empty => exact safe.1 empty
  | inr slash => exact safe.2 slash

theorem key_of_risky {credId : String} (risky : ¬PathSafe credId) :
    ∃ err, store.key credId = .error err := by
  unfold SecretManagerOAuthCredentialStore.key
  split_ifs with refused
  · exact ⟨_, rfl⟩
  · push Not at refused
    exact absurd refused risky

theorem secret_manager_get_iff (secrets : Secrets) (table : Dict String OAuthCredentialRecord)
    (holds : HoldsTable store secrets table) (sound : SoundTable table)
    (credId tenantId spaceId provider : String) (record : OAuthCredentialRecord) :
    store.get prims credId tenantId spaceId provider secrets = .ok record ↔
      table.lookup credId = some record ∧ Complete record ∧
      record.admits tenantId spaceId provider = true := by
  unfold SecretManagerOAuthCredentialStore.get
  by_cases safe : PathSafe credId
  · rw [key_of_safe store safe]
    simp only [bind, Except.bind]
    rw [(holds credId).1 safe]
    cases found : table.lookup credId with
    | none =>
      simp only [Option.map_none, reduceCtorEq, false_and]
    | some held =>
      have named := (sound credId held found).1
      have readBack := deserialize_serialize prims held (sound credId held found).2
      simp only [Option.map_some, Option.some.injEq]
      by_cases complete : Complete held
      · rw [readBack.1 complete]
        simp only [named, beq_self_eq_true, Bool.true_and]
        split_ifs with admitted
        · simp only [pure, Except.pure, Except.ok.injEq]
          constructor
          · intro same
            subst same
            exact ⟨rfl, complete, admitted⟩
          · exact And.left
        · constructor
          · intro ret
            cases ret
          · intro kept
            rw [kept.1] at admitted
            exact absurd kept.2.2 admitted
      · obtain ⟨err, failed⟩ := readBack.2 complete
        rw [failed]
        simp only [reduceCtorEq, false_iff]
        intro kept
        rw [kept.1] at complete
        exact complete kept.2.1
  · obtain ⟨err, refused⟩ := key_of_risky store safe
    rw [refused, (holds credId).2 safe]
    simp [bind, Except.bind]

theorem secret_manager_keeps_table :
    KeepsTable (store.operations prims) (HoldsTable store) PathSafe Complete where
  saves := by
    intro secrets table record holds safe
    refine ⟨store.backend.write (store.keyPrefix ++ "/" ++ record.credentialId)
      (serialize record) secrets, ?_, ?_⟩
    · simp only [SecretManagerOAuthCredentialStore.operations,
        SecretManagerOAuthCredentialStore.save, key_of_safe store safe]
      rfl
    · intro credId
      constructor
      · intro also
        rw [store.backend.read_write, Dict.lookup_set]
        by_cases same : credId = record.credentialId
        · rw [if_pos (by rw [same]), if_pos same]
          rfl
        · have apart : store.keyPrefix ++ "/" ++ credId ≠
              store.keyPrefix ++ "/" ++ record.credentialId := by
            intro equal
            exact same (String.append_right_inj _ |>.mp equal)
          rw [if_neg apart, if_neg same]
          exact (holds credId).1 also
      · intro risky
        rw [Dict.lookup_set, if_neg]
        · exact (holds credId).2 risky
        · intro same
          rw [same] at risky
          exact risky safe
  refuses := by
    intro secrets record risky
    obtain ⟨err, refused⟩ := key_of_risky store risky
    simp only [SecretManagerOAuthCredentialStore.operations,
      SecretManagerOAuthCredentialStore.save, refused]
    exact ⟨err, rfl⟩
  gets := secret_manager_get_iff prims store
  renews := by
    intro cur record complete identifier tenant workspace provider access type scopes
    simp only [complete_iff] at complete ⊢
    rw [identifier, tenant, workspace, provider]
    refine ⟨complete.1, complete.2.1, complete.2.2.1, complete.2.2.2.1, access, type, ?_⟩
    cases scopes with
    | inl listed => exact listed
    | inr same => rw [same]; exact complete.2.2.2.2.2.2

end secrets

def ConnectionCall.scope : ConnectionCall → String × String
  | .begin call => (call.tenantId, call.workspaceId)
  | .complete call => (call.tenantId, call.workspaceId)
  | .refresh call => (call.tenantId, call.workspaceId)

def ConnectionAnswer.saved? : ConnectionAnswer → Option OAuthCredentialRecord
  | .opened _ => none
  | .exchanged exchange => exchange.result.toOption

open ConnectionAnswer

section tokens

variable {prims : OAuthPrimitives}

theorem require_ok {condition : Bool} {msg : String} {res : Unit}
    (passed : require condition msg = .ok res) : condition = true := by
  unfold require at passed
  split_ifs at passed with holds
  exact holds

theorem read_access_token_filled {body : Members} {accessToken : String}
    (named : readAccessToken body = .ok accessToken) : accessToken ≠ "" := by
  unfold readAccessToken at named
  dsimp only at named
  split at named
  · split_ifs at named with empty
    injection named with same
    rw [← same]
    exact empty
  · cases named

variable {refreshToken : Option String} {token : OAuth2Token} {provider : OAuth2Provider prims}
  {surroundings : Surroundings}

theorem from_payload_parts {body : Members} {scopeSeparator : String} {now : DateTime}
    (made : fromPayload prims body refreshToken scopeSeparator now = .ok token) :
    (token.accessToken ≠ "" ∧ token.tokenType ≠ "") ∧
      (token.scope = (if truthy ((body.lookup "scope").getD (.str "")) then
      (strOf prims.reprFloat ((body.lookup "scope").getD (.str ""))).splitOn
      scopeSeparator
      else []).filter (· != "")) ∧
      token.refreshToken = (if truthy ((body.lookup "refresh_token").getD .null) then
      some (strOf prims.reprFloat ((body.lookup "refresh_token").getD .null))
      else refreshToken) := by
  unfold fromPayload at made
  obtain ⟨accessToken, named, rest⟩ := bind_ok made
  have access := read_access_token_filled named
  obtain ⟨expiresIn, _, rest⟩ := bind_ok rest
  obtain ⟨_, typed, rest⟩ := bind_ok rest
  have type := require_ok typed
  injection rest with same
  rw [← same]
  exact ⟨⟨access, by simpa using type⟩, rfl, rfl⟩

theorem token_request_answered {fields : Dict String String} {operation : String}
    (obtained : (provider.tokenRequest fields operation refreshToken surroundings).result =
      .ok token) :
    ∃ req body,
      (provider.tokenRequest fields operation refreshToken surroundings).request = some req ∧
      surroundings.endpoint req = .answered (.obj body) ∧
      fromPayload prims body refreshToken
      provider.config.responseScopeSeparator surroundings.now = .ok token := by
  simp only [OAuth2Provider.tokenRequest] at obtained
  split at obtained
  · rename_i read
    injection obtained with same
    subst same
    unfold OAuth2Provider.readReply at read
    split at read
    · cases read
    · cases read
    · cases read
    · rename_i body replied
      split at read
      · rename_i made
        injection read with same
        subst same
        exact ⟨_, body, rfl, replied, made⟩
      · cases read
    · cases read
  · cases obtained

theorem token_request_filled {fields : Dict String String} {operation : String}
    (obtained : (provider.tokenRequest fields operation refreshToken surroundings).result =
      .ok token) : token.accessToken ≠ "" ∧ token.tokenType ≠ "" := by
  obtain ⟨_, _, _, _, made⟩ := token_request_answered obtained
  exact (from_payload_parts made).1

theorem refresh_filled {refreshToken : String}
    (obtained : (provider.refresh refreshToken surroundings).result = .ok token) :
    token.accessToken ≠ "" ∧ token.tokenType ≠ "" := by
  unfold OAuth2Provider.refresh at obtained
  split_ifs at obtained
  exact token_request_filled obtained

end tokens

namespace OAuth2SourceConnection

variable {prims : OAuthPrimitives} {Store : Type}
  (conn : OAuth2SourceConnection prims Store)

section steps

def Obtains (call : Completing) (state : ConnectionState Store) (token : OAuth2Token) : Prop :=
  call.credentialId ≠ "" ∧ ∃ provider, conn.providers.lookup call.provider = some provider ∧
    (provider.validateState call.state call.tenantId call.workspaceId call.now
      state.memory).2 = .ok () ∧
    (provider.exchangeCode call.code none none call.surroundings
      (provider.validateState call.state call.tenantId call.workspaceId call.now
        state.memory).1).2.result = .ok token

def recordOf (call : Completing) (token : OAuth2Token) : Except PyError OAuthCredentialRecord :=
  record call.credentialId call.tenantId call.workspaceId call.provider token [] none
    call.surroundings.now

theorem obtains_unique {conn : OAuth2SourceConnection prims Store} {call : Completing}
    {state : ConnectionState Store} {token other : OAuth2Token}
    (first : conn.Obtains call state token) (second : conn.Obtains call state other) :
    token = other := by
  obtain ⟨_, provider, found, _, obtained⟩ := first
  obtain ⟨_, also, again, _, another⟩ := second
  rw [found] at again
  injection again with same
  subst same
  rw [obtained] at another
  injection another

theorem record_made {credId tenantId spaceId provider : String} {token : OAuth2Token}
    {scopes : List String} {refreshToken : Option String} {now : DateTime}
    {made : OAuthCredentialRecord}
    (done : record credId tenantId spaceId provider token scopes refreshToken now =
      .ok made) :
    made.credentialId = credId ∧ made.tenantId = tenantId ∧
      made.workspaceId = spaceId ∧ made.provider = provider ∧
      made.accessToken = token.accessToken ∧ made.tokenType = token.tokenType ∧
      (made.scopes ≠ [] ∨ made.scopes = scopes) ∧
      (refreshToken ≠ some "" → made.refreshToken ≠ some "") := by
  unfold record at done
  obtain ⟨expiresAt, _, rest⟩ := bind_ok done
  injection rest with same
  subst same
  refine ⟨rfl, rfl, rfl, rfl, rfl, rfl, ?_, ?_⟩
  · cases token.scope with
    | nil => exact .inr rfl
    | cons first others => exact .inl (by simp)
  · intro sane
    dsimp only
    split
    · rename_i given
      intro empty
      have nonempty := (Option.filter_eq_some_iff.mp given).2
      simp only [Option.some.injEq] at empty
      simp [empty] at nonempty
    · exact sane

variable {conn} {holds : Store → Dict String OAuthCredentialRecord → Prop}
  {keyable : String → Prop} {readable : OAuthCredentialRecord → Prop}

variable {table : Dict String OAuthCredentialRecord}

section

variable (keeps : KeepsTable conn.credentials holds keyable readable)

include keeps

theorem recorded_cases (make : OAuth2Token → Except PyError OAuthCredentialRecord)
    (res : Except OAuthFailure OAuth2Token) (creds : Store)
    (held : holds creds table) :
    (∃ token made next, res = .ok token ∧ make token = .ok made ∧ keyable made.credentialId ∧
      conn.recorded make res creds = (next, .ok made) ∧
      holds next (table.set made.credentialId made)) ∨
    (∃ fail, conn.recorded make res creds = (creds, .error fail)) ∧
      ∀ token made, res = .ok token → make token = .ok made → ¬keyable made.credentialId := by
  unfold recorded
  cases res with
  | error fail =>
    right
    refine ⟨⟨fail, rfl⟩, ?_⟩
    intro token made obtained
    cases obtained
  | ok token =>
    cases making : make token with
    | error err =>
      right
      refine ⟨⟨.raised err, by simp only [making]⟩, ?_⟩
      intro other made same failed
      injection same with same
      rw [← same, making] at failed
      cases failed
    | ok made =>
      by_cases takes : keyable made.credentialId
      · obtain ⟨next, saved, after⟩ := keeps.saves creds table made held takes
        left
        exact ⟨token, made, next, rfl, making, takes, by simp only [making, saved], after⟩
      · obtain ⟨err, refused⟩ := keeps.refuses creds made takes
        right
        refine ⟨⟨.raised err, by simp only [making, refused]⟩, ?_⟩
        intro other also same done
        injection same with same
        rw [← same, making] at done
        injection done with alike
        rw [← alike]
        exact takes

theorem complete_cases
    (call : Completing) (state : ConnectionState Store) (held : holds state.credentials table) :
    (∃ token made, conn.Obtains call state token ∧ recordOf call token = .ok made ∧
      keyable call.credentialId ∧ (conn.complete call state).2.result = .ok made ∧
      holds (conn.complete call state).1.credentials
      (table.set made.credentialId made)) ∨
    (∃ fail, (conn.complete call state).2.result = .error fail) ∧
      (conn.complete call state).1.credentials = state.credentials ∧
      ∀ token made, conn.Obtains call state token → recordOf call token = .ok made →
      ¬keyable call.credentialId := by
  unfold complete Obtains
  split_ifs with unnamed
  · right
    refine ⟨⟨_, rfl⟩, rfl, ?_⟩
    intro token made obtained
    exact absurd unnamed obtained.1
  · cases named : conn.providers.lookup call.provider with
    | none =>
      right
      refine ⟨⟨_, rfl⟩, rfl, ?_⟩
      intro token made obtained
      obtain ⟨_, provider, found, _⟩ := obtained
      cases found
    | some oauth =>
      simp only [Option.some.injEq, exists_eq_left']
      generalize oauth.validateState call.state call.tenantId call.workspaceId call.now
        state.memory = validated
      obtain ⟨memory, valid⟩ := validated
      cases valid with
      | error fail =>
        right
        refine ⟨⟨_, rfl⟩, rfl, ?_⟩
        intro token made obtained
        cases obtained.2.1
      | ok accepted =>
        dsimp only
        cases recorded_cases keeps (recordOf call) (oauth.exchangeCode call.code none none
            call.surroundings memory).2.result state.credentials held with
        | inl saved =>
          obtain ⟨token, made, next, obtained, making, takes, done, after⟩ := saved
          have identifier := (record_made making).1
          left
          refine ⟨token, made, ⟨unnamed, rfl, obtained⟩, making,
            by rw [← identifier]; exact takes, ?_, ?_⟩
          · exact congrArg Prod.snd done
          · exact (congrArg Prod.fst done).symm ▸ after
        | inr failed =>
          obtain ⟨⟨fail, done⟩, refused⟩ := failed
          right
          refine ⟨⟨fail, congrArg Prod.snd done⟩, congrArg Prod.fst done, ?_⟩
          intro token made obtained making
          have identifier := (record_made making).1
          rw [← identifier]
          exact refused token made obtained.2.2 making

theorem refresh_cases (call : Refreshing) (creds : Store) (held : holds creds table)
    (sound : SoundTable table) :
    (∃ cur made, table.lookup call.credentialId = some cur ∧
      cur.tenantId = call.tenantId ∧ cur.workspaceId = call.workspaceId ∧
      made.credentialId = call.credentialId ∧ made.tenantId = call.tenantId ∧
      made.workspaceId = call.workspaceId ∧ readable made ∧ made.refreshToken ≠ some "" ∧
      (conn.refresh call creds).2.result = .ok made ∧
      holds (conn.refresh call creds).1 (table.set made.credentialId made)) ∨
    (∃ fail, (conn.refresh call creds).2.result = .error fail) ∧
      (conn.refresh call creds).1 = creds := by
  unfold refresh
  cases got : conn.credentials.get call.credentialId call.tenantId call.workspaceId
      call.provider creds with
  | error err =>
    right
    exact ⟨⟨_, rfl⟩, rfl⟩
  | ok cur =>
    obtain ⟨found, readableNow, admits⟩ := (keeps.gets creds table held sound _ _ _ _
      cur).mp got
    obtain ⟨identifier, sane⟩ := sound _ _ found
    obtain ⟨tenant, workspace⟩ := owner_of_admits admits
    dsimp only
    unfold refreshRecord
    cases refreshable : cur.refreshToken.filter (· != "") with
    | none =>
      right
      exact ⟨⟨_, rfl⟩, rfl⟩
    | some refreshToken =>
      cases named : conn.providers.lookup cur.provider with
      | none =>
        right
        exact ⟨⟨_, rfl⟩, rfl⟩
      | some oauth =>
        dsimp only
        cases recorded_cases keeps (fun token => record cur.credentialId
            cur.tenantId cur.workspaceId cur.provider token cur.scopes
            cur.refreshToken call.surroundings.now)
            (oauth.refresh refreshToken call.surroundings).result creds held with
        | inl saved =>
          obtain ⟨token, made, next, obtained, making, _, done, after⟩ := saved
          have names := record_made making
          have filled := refresh_filled obtained
          left
          refine ⟨cur, made, found, tenant, workspace, names.1.trans identifier,
            names.2.1.trans tenant, names.2.2.1.trans workspace, ?_,
            names.2.2.2.2.2.2.2 sane, congrArg Prod.snd done,
            (congrArg Prod.fst done).symm ▸ after⟩
          apply keeps.renews cur made readableNow names.1 names.2.1 names.2.2.1
            names.2.2.2.1 _ _ names.2.2.2.2.2.2.1
          · rw [names.2.2.2.2.1]
            exact filled.1
          · rw [names.2.2.2.2.2.1]
            exact filled.2
        | inr failed =>
          obtain ⟨⟨fail, done⟩, _⟩ := failed
          right
          exact ⟨⟨fail, congrArg Prod.snd done⟩, congrArg Prod.fst done⟩

end

end steps

variable (creds : Store)

def saved (before : List ConnectionCall) : List OAuthCredentialRecord :=
  (conn.calls.answers before ⟨{}, creds⟩).filterMap saved?

def Latest : List OAuthCredentialRecord → OAuthCredentialRecord → Prop :=
  Since (fun _ item record => item = record) fun record next =>
    next.credentialId = record.credentialId ∧ next.tenantId = record.tenantId ∧
      next.workspaceId = record.workspaceId

/-- What a call does after the calls before it: what others can get stays as it was, and every
tenant and workspace gets the latest record that it saved. -/
structure CredentialsKept (before : List ConnectionCall) (call : ConnectionCall) : Prop where
  isolated : ∀ tenantId spaceId, (tenantId, spaceId) ≠ call.scope →
    ∀ credId provider record,
      conn.credentials.get credId tenantId spaceId provider
          (conn.after creds before).credentials = .ok record →
        conn.credentials.get credId tenantId spaceId provider
          (conn.after creds (before ++ [call])).credentials = .ok record
  latest : ∀ record, Latest (conn.saved creds (before ++ [call])) record →
    conn.credentials.get record.credentialId record.tenantId record.workspaceId
      record.provider (conn.after creds (before ++ [call])).credentials = .ok record

def SavesOwn (keyable : String → Prop) (readable : OAuthCredentialRecord → Prop)
    (call : ConnectionCall) (state : ConnectionState Store) : Prop :=
  ∀ completing token made, call = .complete completing →
    conn.Obtains completing state token → recordOf completing token = .ok made →
    keyable completing.credentialId →
      (∀ tenantId spaceId provider held, conn.credentials.get completing.credentialId
          tenantId spaceId provider state.credentials = .ok held →
        (tenantId, spaceId) = call.scope) ∧ readable made

section runs

variable {conn creds} {holds : Store → Dict String OAuthCredentialRecord → Prop}
  {keyable : String → Prop} {readable : OAuthCredentialRecord → Prop}

def Owns (readable : OAuthCredentialRecord → Prop) (table : Dict String OAuthCredentialRecord)
    (call : ConnectionCall) (credId : String) : Prop :=
  ∀ held, table.lookup credId = some held → readable held →
    (held.tenantId, held.workspaceId) = call.scope

variable {table : Dict String OAuthCredentialRecord}

theorem owns_iff (keeps : KeepsTable conn.credentials holds keyable readable)
    (call : ConnectionCall) {state : ConnectionState Store} (held : holds state.credentials table)
    (sound : SoundTable table) (credId : String) :
    (∀ tenantId spaceId provider record, conn.credentials.get credId tenantId
      spaceId provider state.credentials = .ok record →
      (tenantId, spaceId) = call.scope) ↔
      Owns readable table call credId := by
  constructor
  · intro alone record found reads
    exact alone record.tenantId record.workspaceId record.provider record
      ((keeps.gets _ _ held sound _ _ _ _ _).mpr ⟨found, reads, admits_own record⟩)
  · intro owns tenantId spaceId provider record got
    obtain ⟨found, reads, admits⟩ := (keeps.gets _ _ held sound _ _ _ _ _).mp got
    rw [← (owner_of_admits admits).1, ← (owner_of_admits admits).2]
    exact owns record found reads

theorem call_cases (keeps : KeepsTable conn.credentials holds keyable readable)
    (call : ConnectionCall) (state : ConnectionState Store) (held : holds state.credentials table)
    (sound : SoundTable table) :
    (∃ made, (conn.calls.answer call state).saved? = some made ∧
      (made.tenantId, made.workspaceId) = call.scope ∧ made.refreshToken ≠ some "" ∧
      holds (conn.calls.next call state).credentials (table.set made.credentialId made) ∧
      (conn.SavesOwn keyable readable call state ↔
      Owns readable table call made.credentialId ∧ readable made)) ∨
    ((conn.calls.answer call state).saved? = none ∧
      (conn.calls.next call state).credentials = state.credentials ∧
      conn.SavesOwn keyable readable call state) := by
  cases call with
  | begin beginning =>
    right
    refine ⟨rfl, rfl, ?_⟩
    intro completing token made same
    cases same
  | complete completing =>
    cases complete_cases keeps completing state held with
    | inl done =>
      obtain ⟨token, made, obtained, making, takes, res, after⟩ := done
      have names := record_made making
      left
      refine ⟨made, ?_, by rw [names.2.1, names.2.2.1]; rfl,
        names.2.2.2.2.2.2.2 (by simp), after, ?_⟩
      · simp only [answer, calls, saved?, res]
        rfl
      · rw [names.1, ← owns_iff keeps (.complete completing) held sound]
        constructor
        · intro own
          exact own completing token made rfl obtained making takes
        · intro own other _ also same another remade _
          injection same with same
          subst same
          rw [obtains_unique obtained another] at making
          rw [making] at remade
          injection remade with again
          rw [← again]
          exact own
    | inr failed =>
      obtain ⟨⟨fail, res⟩, same, refused⟩ := failed
      right
      refine ⟨?_, same, ?_⟩
      · simp only [answer, calls, saved?, res]
        rfl
      · intro other token made alike obtained making takes
        injection alike with alike
        subst alike
        exact absurd takes (refused token made obtained making)
  | refresh refreshing =>
    cases refresh_cases keeps refreshing state.credentials held sound with
    | inl done =>
      obtain ⟨cur, made, found, tenant, workspace, identifier, madeTenant, madeWorkspace,
        reads, sane, res, after⟩ := done
      left
      refine ⟨made, ?_, by rw [madeTenant, madeWorkspace]; rfl, sane, after, ?_⟩
      · simp only [answer, calls, saved?, res]
        rfl
      · apply iff_of_true
        · intro completing token made same
          cases same
        · refine ⟨?_, reads⟩
          intro other also _
          rw [identifier, found] at also
          rw [← Option.some.inj also, tenant, workspace]
          rfl
    | inr failed =>
      obtain ⟨⟨fail, res⟩, same⟩ := failed
      right
      refine ⟨?_, same, ?_⟩
      · simp only [answer, calls, saved?, res]
        rfl
      · intro completing token made same
        cases same

/-- The invariant of a run: the store holds a table, from which every tenant and workspace gets
the latest record that it saved. -/
structure Kept (conn : OAuth2SourceConnection prims Store)
    (holds : Store → Dict String OAuthCredentialRecord → Prop)
    (before : List OAuthCredentialRecord) (state : ConnectionState Store) : Prop where
  table : ∃ table, holds state.credentials table ∧ SoundTable table
  latest : ∀ record, Latest before record →
    conn.credentials.get record.credentialId record.tenantId record.workspaceId
      record.provider state.credentials = .ok record

theorem sound_set (sound : SoundTable table) {made : OAuthCredentialRecord}
    (sane : made.refreshToken ≠ some "") : SoundTable (table.set made.credentialId made) := by
  intro credId record found
  rw [Dict.lookup_set] at found
  split_ifs at found with same
  · rw [← Option.some.inj found]
    exact ⟨same.symm, sane⟩
  · exact sound credId record found

variable (conn creds) in
theorem saved_concat (before : List ConnectionCall) (call : ConnectionCall) :
    conn.saved creds (before ++ [call]) = conn.saved creds before ++
      (conn.calls.answer call
      (conn.after creds before)).saved?.toList := by
  unfold saved
  rw [filter_map_answers_concat]
  rfl

section

variable (keeps : KeepsTable conn.credentials holds keyable readable)

include keeps

theorem credentials_kept_of_call (before : List ConnectionCall) (call : ConnectionCall)
    (kept : Kept conn holds (conn.saved creds before)
      (conn.after creds before)) :
    conn.CredentialsKept creds before call ↔
      conn.SavesOwn keyable readable call (conn.after creds before) := by
  obtain ⟨table, held, sound⟩ := kept.table
  have appended := saved_concat conn creds before call
  have moved := conn.after_concat creds before call
  cases call_cases keeps call (conn.after creds before) held sound with
  | inr idle =>
    apply iff_of_true _ idle.2.2
    rw [idle.1, Option.toList_none, List.append_nil] at appended
    constructor
    · intro tenantId spaceId _ credId provider record got
      rw [moved, idle.2.1]
      exact got
    · intro record latest
      rw [appended] at latest
      rw [moved, idle.2.1]
      exact kept.latest record latest
  | inl done =>
    obtain ⟨made, answered, own, sane, after, exactly⟩ := done
    have soundAfter := sound_set sound sane
    rw [answered, Option.toList_some] at appended
    rw [exactly]
    constructor
    · intro whole
      constructor
      · intro record found reads
        by_contra other
        have got := whole.isolated record.tenantId record.workspaceId other made.credentialId
          record.provider record ((keeps.gets _ _ held sound _ _ _ _ _).mpr
            ⟨found, reads, admits_own record⟩)
        rw [moved] at got
        have still := ((keeps.gets _ _ after soundAfter _ _ _ _ _).mp got).1
        rw [Dict.lookup_set_same] at still
        rw [← Option.some.inj still] at other
        exact other own
      · have got := whole.latest made (by
          rw [appended]
          exact since_concat.mpr (.inr rfl))
        rw [moved] at got
        exact ((keeps.gets _ _ after soundAfter _ _ _ _ _).mp got).2.1
    · intro owned
      obtain ⟨owns, reads⟩ := owned
      -- What is found under another identifier, or is not the caller's, is found again.
      have again {record : OAuthCredentialRecord} {credId tenantId spaceId provider :
          String} (apart : credId = made.credentialId → (tenantId, spaceId) ≠ call.scope)
          (got : conn.credentials.get credId tenantId spaceId provider
            (conn.after creds before).credentials = .ok record) :
          conn.credentials.get credId tenantId spaceId provider
            (conn.after creds (before ++ [call])).credentials = .ok record := by
        obtain ⟨found, readsIt, admits⟩ := (keeps.gets _ _ held sound _ _ _ _ _).mp got
        rw [moved]
        apply (keeps.gets _ _ after soundAfter _ _ _ _ _).mpr
        refine ⟨?_, readsIt, admits⟩
        rw [Dict.lookup_set, if_neg]
        · exact found
        · intro same
          apply apart same
          rw [← (owner_of_admits admits).1, ← (owner_of_admits admits).2]
          exact owns record (same ▸ found) readsIt
      constructor
      · intro tenantId spaceId other credId provider record got
        exact again (fun _ => other) got
      · intro record latest
        rw [appended] at latest
        cases since_concat.mp latest with
        | inl past =>
          apply again _ (kept.latest record past.1)
          intro same scope
          rw [← own] at scope
          injection scope with tenant workspace
          exact past.2 ⟨same.symm, tenant.symm, workspace.symm⟩
        | inr new =>
          rw [← new, moved]
          exact (keeps.gets _ _ after soundAfter _ _ _ _ _).mpr
            ⟨Dict.lookup_set_same _ _ _, reads, admits_own made⟩

theorem kept_next (before : List ConnectionCall) (call : ConnectionCall)
    (kept : Kept conn holds (conn.saved creds before)
      (conn.after creds before))
    (own : conn.SavesOwn keyable readable call (conn.after creds before)) :
    Kept conn holds (conn.saved creds (before ++ [call]))
      (conn.after creds (before ++ [call])) := by
  constructor
  · obtain ⟨table, held, sound⟩ := kept.table
    rw [after_concat]
    cases call_cases keeps call (conn.after creds before) held sound with
    | inr idle =>
      rw [idle.2.1]
      exact ⟨table, held, sound⟩
    | inl done =>
      obtain ⟨made, _, _, sane, after, _⟩ := done
      exact ⟨_, after, sound_set sound sane⟩
  · exact ((credentials_kept_of_call keeps before call kept).mpr own).latest

theorem credentials_kept_iff_of
    (empty : holds creds []) (calls : List ConnectionCall) :
    Historically (conn.CredentialsKept creds) calls ↔
      conn.calls.Throughout (conn.SavesOwn keyable readable) calls
      ⟨{}, creds⟩ := by
  apply historically_iff_throughout fun before state =>
    Kept conn holds (conn.saved creds before) state
  · intro before call kept own
    have next := kept_next keeps before call kept own
    rw [after_concat] at next
    exact next
  · refine ⟨⟨[], empty, ?_⟩, ?_⟩
    · intro credId record found
      cases found
    · intro record latest
      exact absurd latest (since_nil _ _ record)
  · exact credentials_kept_of_call keeps

end

end runs

end OAuth2SourceConnection

open OAuth2SourceConnection in
/-- On both stores tenants and workspaces keep their credentials exactly in the runs in which no
call saves under an identifier of another's, and what is saved in the secret manager is
complete. -/
theorem credentials_isolated_iff {prims : OAuthPrimitives} {Secrets : Type}
    (providers : Dict String (OAuth2Provider prims))
    (store : SecretManagerOAuthCredentialStore Secrets) (calls : List ConnectionCall) :
    let inMemory : OAuth2SourceConnection prims (Dict String OAuthCredentialRecord) :=
      ⟨providers, InMemoryOAuthCredentialStore.operations⟩
    let inSecrets : OAuth2SourceConnection prims Secrets :=
      ⟨providers, store.operations prims⟩
    (Historically (inMemory.CredentialsKept []) calls ↔
      inMemory.calls.Throughout (inMemory.SavesOwn (fun _ => True) fun _ => True) calls ⟨{}, []⟩) ∧
    (Historically (inSecrets.CredentialsKept store.backend.empty) calls ↔
      inSecrets.calls.Throughout (inSecrets.SavesOwn PathSafe Complete) calls
        ⟨{}, store.backend.empty⟩) := by
  intro inMemory inSecrets
  constructor
  · exact credentials_kept_iff_of in_memory_keeps_table rfl calls
  · apply credentials_kept_iff_of (secret_manager_keeps_table prims store)
    intro credId
    exact ⟨fun _ => store.backend.read_empty _, fun _ => rfl⟩

def plainGithub : OAuth2Provider sampleOAuth :=
  ⟨{ githubConfig with usePkce := false }, 0, 0, by decide +kernel⟩

/-- An authorization of a tenant, completed under one identifier with a token of the given
parts. -/
def authorized (tenantId : String) (draw : Nat) (token : Members) : List ConnectionCall :=
  [.begin ⟨"github", tenantId, "workspace", epoch⟩,
    .complete { provider := "github", tenantId := tenantId, workspaceId := "workspace"
                state := sampleOAuth.state draw, code := "code", credentialId := "github"
                now := epoch
                surroundings := ⟨fun _ => .answered (.obj token), epoch⟩ }]

def inMemory : OAuth2SourceConnection sampleOAuth (Dict String OAuthCredentialRecord) :=
  ⟨[("github", plainGithub)], InMemoryOAuthCredentialStore.operations⟩

def secretManager : SecretManagerOAuthCredentialStore (Dict String Members) where
  backend := .memory
  valid := by decide

def inSecrets : OAuth2SourceConnection sampleOAuth (Dict String Members) :=
  ⟨[("github", plainGithub)], secretManager.operations sampleOAuth⟩

/-- A second tenant takes the identifier over in memory, and the secret manager does not give back
a token that came without scopes. -/
theorem identifier_taken_over :
    ¬Historically (inMemory.CredentialsKept [])
      (authorized "first" 0 [("access_token", .str "one")] ++
      authorized "second" 1 [("access_token", .str "two")]) ∧
      ¬Historically (inSecrets.CredentialsKept [])
      (authorized "first" 0 [("access_token", .str "one")]) := by
  let one : OAuthCredentialRecord := ⟨"github", "first", "workspace", "github", "one", none,
    "Bearer", [], some epoch, none⟩
  constructor
  · intro kept
    have step := kept (authorized "first" 0 [("access_token", .str "one")] ++
      [.begin ⟨"github", "second", "workspace", epoch⟩]) _ [] rfl
    have lost := step.isolated "first" "workspace" (by decide) "github" "github" one
      (by decide +kernel)
    revert lost
    decide +kernel
  · intro kept
    have step := kept [.begin ⟨"github", "first", "workspace", epoch⟩] _ [] rfl
    have got := step.latest one ⟨[], one, [], by decide +kernel, rfl,
      fun _ mem => by cases mem⟩
    revert got
    decide +kernel

end Ois.Infrastructure
