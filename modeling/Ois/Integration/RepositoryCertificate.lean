import Mathlib.Data.List.Dedup
import Mathlib.Data.List.Infix
import Ois.Infrastructure.Tables
import Ois.Kernel.PyValues
import Ois.Library.Casing

/-!
# The conformance certificate of a repository

`RepositoryConformanceCertificateBuilder.build` with the three validators that it calls:
the provider manifests, the declared inventory and the registration backlog. An exception
that leaves `build` is an `Except.error`.
-/

namespace Ois.Integration

open Ois.Library Ois.Kernel Ois.Infrastructure

inductive ConformanceStatus where
  | implemented | tested | integrated | liveVerified | e2eVerified | productionVerified
  | notApplicable | missing | unknown
  deriving DecidableEq, Repr

def ConformanceStatus.value : ConformanceStatus → String
  | implemented => "IMPLEMENTED"
  | tested => "TESTED"
  | integrated => "INTEGRATED"
  | liveVerified => "LIVE VERIFIED"
  | e2eVerified => "E2E VERIFIED"
  | productionVerified => "PRODUCTION VERIFIED"
  | notApplicable => "N/A"
  | missing => "MISSING"
  | unknown => "UNKNOWN"

/-- A `ConformanceCell`, or the `ConformanceEvidence` that an adapter declares for one. -/
structure ConformanceCell where
  status : ConformanceStatus
  evidence : List String := []
  note : Option String := none
  deriving DecidableEq, Repr

structure RegisteredSource where
  sourceId : String
  provider : String
  protocol : String
  version : String := "v1"
  capabilities : List String := []
  ingests : Bool := true
  timeout : Option UInt64 := none
  conformance : Option (Dict String ConformanceCell) := none
  deriving DecidableEq, Repr

/-- The sources in the order of `registry.list()`. -/
structure AdapterRegistry where
  sources : List RegisteredSource
  listed : (sources.map (·.sourceId)).Pairwise (· < ·) := by decide

structure RepositoryFile where
  path : String
  suffix : String
  text : String
  deriving DecidableEq, Repr

inductive PathPlace where
  | outside
  | missing
  | file (relative : String)
  deriving DecidableEq, Repr

/-- `files` are the ones that the scanner walks, and `place` resolves a path under the root. -/
structure Repository where
  root : String
  files : List RepositoryFile
  place : String → Except PyError PathPlace

inductive JsonFile where
  | absent
  | unreadable
  | holds (document : Json)
  deriving DecidableEq, Repr

/-- What `sorted` and `float` of Python answer, or what they raise. Which pairs `sorted` compares,
and so whether it raises on values of mixed types, is left open. -/
structure Interpreter where
  reprFloat : UInt64 → String
  casing : Casing
  sorted : List Json → Except PyError (List Json)
  float : Json → Except PyError UInt64
  sorted_texts (texts : List String) :
    sorted (texts.map .str) = .ok ((texts.insertionSort (· ≤ ·)).map .str)

/-- `sorted(set(texts))`. -/
def sortedSet (texts : List String) : List String := texts.dedup.insertionSort (· ≤ ·)

@[simp] theorem mem_sorted_set {text : String} {texts : List String} :
    text ∈ sortedSet texts ↔ text ∈ texts := by
  simp [sortedSet]

@[simp] theorem sorted_set_eq_nil {texts : List String} : sortedSet texts = [] ↔ texts = [] := by
  simp [List.eq_nil_iff_forall_not_mem]

theorem sorted_set_eq_iff {texts others : List String} :
    sortedSet texts = sortedSet others ↔ ∀ text, text ∈ texts ↔ text ∈ others := by
  constructor
  · intro same text
    rw [← mem_sorted_set, same, mem_sorted_set]
  · intro same
    have distinct (listed : List String) : (sortedSet listed).Nodup :=
      (List.perm_insertionSort (· ≤ ·) _).nodup_iff.mpr (List.nodup_dedup listed)
    have perm : (sortedSet texts).Perm (sortedSet others) := by
      rw [List.perm_ext_iff_of_nodup (distinct texts) (distinct others)]
      intro text
      rw [mem_sorted_set, mem_sorted_set, same]
    exact perm.eq_of_pairwise (fun _ _ _ _ before after => le_antisymm before after)
      (List.pairwise_insertionSort (· ≤ ·) _) (List.pairwise_insertionSort (· ≤ ·) _)

/-- `value.get(key, default)`. -/
def getOf (value : Json) (key : String) (default : Json) : Except PyError Json :=
  match value with
  | .obj members => .ok ((members.lookup key).getD default)
  | value => .error ⟨.attributeError, "'" ++ typeName value ++ "' object has no attribute 'get'"⟩

/-- `value or {}`. -/
def orEmpty (value : Json) : Json := if truthy value then value else .obj []

/-- `_empty(value)`. -/
def isEmpty (value : Json) : Bool :=
  value == .null || value == .str "" || value == .arr [] || value == .obj []

/-- `data[name]`, or `data.get(name)`. -/
def entry (data : Members) (name : String) : Json := (data.lookup name).getD .null

structure ProviderConformanceManifest where
  adapter : String
  registration : String
  capabilities : List Json
  tools : List Json
  authSchemes : List Json
  credentialTypes : List Json
  scopes : List Json
  policyActions : List Json
  rateLimit : Json
  retry : Json
  timeoutSeconds : Json
  idempotency : Json
  events : List Json
  liveMode : String
  allowWrites : Bool
  metadata : List (Json × Json)

namespace ProviderConformanceManifest

def requiredSections : List String :=
  ["adapter", "auth", "capabilities", "credentials", "events", "evidence", "live", "policy",
    "provider", "registration", "reliability", "scopes", "tests", "tools"]

/-- One element of the sequence that `dict` reads pairs from, with its place. -/
def pairAt (element : Json × Nat) : Except PyError (Json × Json) :=
  match iterate element.1 with
  | .error _ => throw ⟨.other "TypeError",
      "cannot convert dictionary update sequence element #" ++ toString element.2 ++
        " to a sequence"⟩
  | .ok [.arr _, _] => throw ⟨.other "TypeError", "unhashable type: 'list'"⟩
  | .ok [.obj _, _] => throw ⟨.other "TypeError", "unhashable type: 'dict'"⟩
  | .ok [key, value] => return (key, value)
  | .ok items => throw ⟨.valueError,
      "dictionary update sequence element #" ++ toString element.2 ++ " has length " ++
        toString items.length ++ "; 2 is required"⟩

/-- The items of `dict(value)`, of which a later one replaces an earlier one. -/
def metadataOf : Json → Except PyError (List (Json × Json))
  | .obj members => .ok (members.map fun mem => (.str mem.1, mem.2))
  | value => do (← iterate value).zipIdx.mapM pairAt

variable (digits : UInt64 → String)

def fromDict (data : Members) : Except PyError ProviderConformanceManifest := do
  let missing := requiredSections.filter fun name => (data.lookup name).isNone
  if missing ≠ [] then
    throw ⟨.valueError,
      "provider manifest missing sections: " ++ reprOf digits (.arr (missing.map .str))⟩
  let capabilities ← iterate (entry data "capabilities")
  let tools ← iterate (entry data "tools")
  let authSchemes ← iterate (← getOf (entry data "auth") "schemes" (.arr []))
  let credentialTypes ← iterate (← getOf (entry data "credentials") "types" (.arr []))
  let scopes ← iterate (entry data "scopes")
  let policyActions ← iterate (← getOf (entry data "policy") "actions" (.arr []))
  let rateLimit ← getOf (entry data "reliability") "rate_limit" .null
  let retry ← getOf (entry data "reliability") "retry" .null
  let timeoutSeconds ← getOf (entry data "reliability") "timeout_seconds" .null
  let idempotency ← getOf (entry data "reliability") "idempotency" .null
  let events ← iterate (entry data "events")
  let _ ← iterate (← getOf (entry data "tests") "required" (.arr []))
  let liveMode ← getOf (entry data "live") "mode" (.str "read_only")
  let allowWrites ← getOf (entry data "live") "allow_writes" (.bool false)
  let metadata ← metadataOf ((data.lookup "metadata").getD (.obj []))
  return {
    adapter := strOf digits (entry data "adapter")
    registration := strOf digits (entry data "registration")
    capabilities, tools, authSchemes, credentialTypes, scopes, policyActions, rateLimit, retry
    timeoutSeconds, idempotency, events, metadata
    liveMode := strOf digits liveMode, allowWrites := truthy allowWrites }

def validateSafeLivePolicy (manifest : ProviderConformanceManifest) : Except PyError Unit :=
  if manifest.liveMode ≠ "read_only" ∨ manifest.allowWrites = true then
    .error ⟨.valueError, "provider conformance live policy must be read_only with writes disabled"⟩
  else .ok ()

/-- `load_manifest(data)`. -/
def load (data : Members) : Except PyError ProviderConformanceManifest := do
  let manifest ← fromDict digits data
  manifest.validateSafeLivePolicy
  return manifest

end ProviderConformanceManifest

namespace ProviderManifests

def registrationFactory : String :=
  "ois.infrastructure.source_adapters.bootstrap:build_application_source_adapter_registry"

def verificationKeys : List String := ["live", "e2e", "negative", "production"]

def claimColumns : List String := ["ADAPTER", "REGISTRATION", "CAPABILITY", "TIMEOUT"]

def unverifiedFields : List String :=
  ["tools", "auth_schemes", "credential_types", "scopes", "policy_actions", "rate_limit",
    "retry", "idempotency", "events"]

def fail (sourceId reason : String) : String := sourceId ++ ":MANIFEST:" ++ reason

/-- The provider of a document that `load_manifest_documents` takes. -/
def provider? : Json → Option (String × Members)
  | .obj members =>
    match members.lookup "provider" with
    | some (.str provider) => if provider = "" then none else some (provider, members)
    | _ => none
  | _ => none

/-- One file of the directory; the text of an unreadable one is `none`. -/
def indexFile (index : Dict String Members × List String) (file : String × Option Json) :
    Dict String Members × List String :=
  match file.2 with
  | none => (index.1, index.2 ++ [fail file.1 "unreadable-json"])
  | some document =>
    match provider? document with
    | none => (index.1, index.2 ++ [fail file.1 "missing-provider-id"])
    | some (provider, members) =>
      if (index.1.lookup provider).isSome then (index.1, index.2 ++ [fail provider "duplicate"])
      else (index.1 ++ [(provider, members)], index.2)

/-- `load_manifest_documents(manifest_dir)`. -/
def loadManifestDocuments (files : List (String × Option Json)) :
    Dict String Members × List String :=
  files.foldl indexFile ([], [])

def claimsOf (doc : Members) : Except PyError Json :=
  getOf (orEmpty (entry doc "evidence")) "claims" .null

variable (python : Interpreter) (repository : Repository) (source : RegisteredSource)

/-- `_check_path(root, rel)`. -/
def checkPath (rel : String) : Except PyError (Option String) := do
  match ← repository.place rel with
  | .outside => return some ("evidence-outside-root=" ++ rel)
  | .missing => return some ("evidence-missing=" ++ rel)
  | .file _ => return none

def checkClaimed (column : String) (item : Json) : Except PyError (List String) := do
  let rel := strOf python.reprFloat item
  let registered := ((source.conformance.getD []).lookup column).elim [] (·.evidence)
  match ← checkPath repository rel with
  | some problem => return [fail source.sourceId (column ++ "-" ++ problem)]
  | none =>
    if rel ∈ registered then return []
    else return [fail source.sourceId (column ++ "-evidence-not-in-registry-metadata=" ++ rel)]

def checkColumn (claims : Members) (column : String) : Except PyError (List String) :=
  match claims.lookup column with
  | some (.arr (first :: rest)) => do
    return (← (first :: rest).mapM (checkClaimed python repository source column)).flatten
  | _ => return [fail source.sourceId (column ++ "-evidence-missing")]

/-- `metadata.claims["ADAPTER"]` raises where the metadata has no such claim. -/
def checkAdapter (adapterPath : String) : Except PyError (List String) :=
  match source.conformance with
  | none => return []
  | some claims =>
    match claims.lookup "ADAPTER" with
    | none => throw ⟨.other "KeyError", "'ADAPTER'"⟩
    | some claim =>
      if adapterPath ∈ claim.evidence then return []
      else return [fail source.sourceId "adapter-path-differs-from-registry-metadata"]

def validateEvidence (doc : Members) (adapterPath : String) : Except PyError (List String) := do
  let problem ← checkPath repository adapterPath
  let out := problem.toList.map fun problem => fail source.sourceId ("adapter-" ++ problem)
  match ← claimsOf doc with
  | .obj claims =>
    let columns ← claimColumns.mapM (checkColumn python repository source claims)
    return out ++ columns.flatten ++ (← checkAdapter source adapterPath)
  | _ => return out ++ [fail source.sourceId "evidence-claims-missing"]

def fieldValues (manifest : ProviderConformanceManifest) : List (String × Json) :=
  [("tools", .arr manifest.tools), ("auth_schemes", .arr manifest.authSchemes),
    ("credential_types", .arr manifest.credentialTypes), ("scopes", .arr manifest.scopes),
    ("policy_actions", .arr manifest.policyActions), ("rate_limit", manifest.rateLimit),
    ("retry", manifest.retry), ("idempotency", manifest.idempotency),
    ("events", .arr manifest.events)]

def checkUnverified (name : String) (item : Json) : Except PyError (List String) := do
  let problem ← checkPath repository (strOf python.reprFloat item)
  return problem.toList.map fun problem => fail source.sourceId (name ++ "-" ++ problem)

def checkField (unknown : List Json) (claims : Json) (field : String × Json) :
    Except PyError (List String) :=
  let (name, value) := field
  if .str name ∈ unknown then
    if isEmpty value then return []
    else return [fail source.sourceId (name ++ "-declared-unknown-but-populated")]
  else if isEmpty value then
    return [fail source.sourceId (name ++ "-neither-unknown-nor-evidenced")]
  else do
    let listed ← getOf claims name.toUpper .null
    if truthy listed = false then
      return [fail source.sourceId (name ++ "-neither-unknown-nor-evidenced")]
    else
      return (← (← iterate listed).mapM (checkUnverified python repository source name)).flatten

def unrecognised (unknown : List Json) : List String :=
  (unknown.filter fun name => name ∉ unverifiedFields.map Json.str).map fun name =>
    fail source.sourceId ("unknown-field-not-recognised=" ++ strOf python.reprFloat name)

def validateUnknowns (doc : Members) (manifest : ProviderConformanceManifest) :
    Except PyError (List String) :=
  match entry doc "unknown" with
  | .arr unknown => do
    let claims := orEmpty (← claimsOf doc)
    let fields ← (fieldValues manifest).mapM (checkField python repository source unknown claims)
    return fields.flatten ++ unrecognised python source unknown
  | _ => return [fail source.sourceId "unknown-list-missing"]

def validateVerification (doc : Members) : Except PyError (List String) :=
  match entry doc "verification" with
  | .obj verification => do
    let claims := (verificationKeys.filter fun key =>
      verification.lookup key ≠ some (.str "UNKNOWN")).map fun key =>
        fail source.sourceId ("unsupported-verification-claim:" ++ key)
    let verified ← getOf (orEmpty (entry doc "live")) "verified" .null
    if pyEquals verified .null ∨ pyEquals verified (.bool false) then return claims
    else return claims ++ [fail source.sourceId "unsupported-verification-claim:live.verified"]
  | _ => return [fail source.sourceId "verification-block-missing"]

def capabilitiesDiffer (manifest : ProviderConformanceManifest) : Except PyError Bool := do
  let declared ← python.sorted manifest.capabilities
  let actual ← python.sorted (source.capabilities.map .str)
  return declared ≠ actual

/-- `float(manifest.timeout_seconds)` is only read where the adapter has a timeout. -/
def timeoutDiffers (manifest : ProviderConformanceManifest) : Except PyError Bool :=
  match manifest.timeoutSeconds, source.timeout with
  | .null, _ => return false
  | _, none => return true
  | declared, some actual => do
    return !(PyNumber.ofDouble (← python.float declared)).equals (.ofDouble actual)

def specDiffers (manifest : ProviderConformanceManifest) : List String :=
  ([("protocol", source.protocol), ("version", source.version)].filter fun field =>
    manifest.metadata.reverse.lookup (.str field.1) ≠ some (.str field.2)).map fun field =>
      fail source.sourceId (field.1 ++ "-differs-from-SourceSpec")

/-- What `except (ValueError, TypeError, AttributeError)` takes. -/
def caught (err : PyError) : Bool :=
  err.kind == .valueError || err.kind == .other "TypeError" || err.kind == .attributeError

def validateOne (doc : Members) : Except PyError (List String) :=
  match ProviderConformanceManifest.load python.reprFloat doc with
  | .error err =>
    if caught err then return [fail source.sourceId ("invalid:" ++ err.message)]
    else .error err
  | .ok manifest => do
    let registration :=
      if manifest.registration = registrationFactory then []
      else [fail source.sourceId "registration-not-canonical-factory"]
    let capabilities :=
      if ← capabilitiesDiffer python source manifest then
        [fail source.sourceId "capabilities-differ-from-SourceSpec"]
      else []
    let timeout :=
      if ← timeoutDiffers python source manifest then
        [fail source.sourceId "timeout-differs-from-adapter"]
      else []
    let evidence ← validateEvidence python repository source doc manifest.adapter
    let unknowns ← validateUnknowns python repository source doc manifest
    let verification ← validateVerification source doc
    return registration ++ capabilities ++ specDiffers source manifest ++ timeout ++ evidence ++
      unknowns ++ verification

def checkManifest (docs : Dict String Members) : Except PyError (List String) :=
  match docs.lookup source.sourceId with
  | none => return [fail source.sourceId "missing"]
  | some doc => validateOne python repository source doc

variable (reg : AdapterRegistry)

def orphans (docs : Dict String Members) : List String :=
  (sortedSet (docs.keys.filter fun provider =>
    provider ∉ reg.sources.map (·.sourceId))).map fun provider =>
      fail provider "orphan-manifest-not-in-registry"

/-- `validate_provider_manifests(root, registry, manifest_dir)`. -/
def validate (files : List (String × Option Json)) : Except PyError (List String) := do
  let (docs, problems) := loadManifestDocuments files
  let checked ← reg.sources.mapM fun source => checkManifest python repository source docs
  return sortedSet (problems ++ orphans reg docs ++ checked.flatten)

end ProviderManifests

structure InventoryDrift where
  inventoryPath : String
  inventoryPresent : Bool
  inBoth : List String
  inventoryOnly : List String
  registryOnly : List String
  unreadable : Bool := false
  backlogPath : String
  backlogPresent : Bool
  backlogIds : List String
  backlogProblems : List String
  deriving DecidableEq, Repr

namespace InventoryDrift

def requiredEvidence : List String :=
  ["client", "credential_injection", "scopes", "policy", "tests", "live_verification"]

def allowedStates : List String := ["UNKNOWN", "MISSING", "NOT_STARTED"]

section drift

variable (drift : InventoryDrift)

def explained : List String :=
  sortedSet (drift.inventoryOnly.filter (· ∈ drift.backlogIds))

def unexplained : List String :=
  sortedSet (drift.inventoryOnly.filter (· ∉ drift.backlogIds))

def failures : List String :=
  sortedSet ( drift.unexplained.map (· ++ ":INVENTORY:unexplained-not-in-source-registry") ++
    drift.registryOnly.map (· ++ ":INVENTORY:registered-but-not-in-inventory") ++
    (drift.inBoth.filter (· ∈ drift.backlogIds)).map
      (· ++ ":BACKLOG:stale-provider-is-registered") ++
    (drift.backlogIds.filter (· ∉ drift.inBoth ++ drift.inventoryOnly)).map
      (· ++ ":BACKLOG:not-in-inventory") ++
    drift.backlogProblems ++
    if drift.unreadable then ["INVENTORY:unreadable"] else [])

def texts (listed : List String) : Json := .arr (listed.map .str)

def toDict : Members :=
  [("inventory_path", .str drift.inventoryPath),
    ("inventory_present", .bool drift.inventoryPresent), ("unreadable", .bool drift.unreadable),
    ("in_both", texts drift.inBoth), ("inventory_only", texts drift.inventoryOnly),
    ("registry_only", texts drift.registryOnly), ("backlog_path", .str drift.backlogPath),
    ("backlog_present", .bool drift.backlogPresent),
    ("registration_backlog", texts drift.explained),
    ("unexplained_drift", texts drift.unexplained),
    ("backlog_problems", texts drift.backlogProblems), ("failures", texts drift.failures),
    ("drifted", .bool !drift.failures.isEmpty)]

end drift

variable (digits : UInt64 → String)

/-- The identifier of an entry, with its members. -/
def sourceId? : Json → Option (String × Members)
  | .obj members =>
    match members.lookup "source_id" with
    | some (.str sourceId) => if sourceId = "" then none else some (sourceId, members)
    | _ => none
  | _ => none

/-- A state that is a list or an object is not hashable. -/
def stateProblems (sourceId : String) (evidence : Members) (key : String) :
    Except PyError (List String) :=
  match entry evidence key with
  | .null => return [sourceId ++ ":BACKLOG:required-evidence-missing=" ++ key]
  | .arr _ => throw ⟨.other "TypeError", "unhashable type: 'list'"⟩
  | .obj _ => throw ⟨.other "TypeError", "unhashable type: 'dict'"⟩
  | state =>
    if state ∈ allowedStates.map Json.str then return []
    else return [sourceId ++ ":BACKLOG:unsupported-evidence-claim=" ++ key ++ ":" ++
      strOf digits state]

/-- The problems of an entry that follows the ones with the identifiers `ids`. -/
def entryProblems (ids : List String) (document : Json) : Except PyError (List String) :=
  match sourceId? document with
  | none => return ["BACKLOG:entry-missing-source-id"]
  | some (sourceId, members) => do
    let duplicate := if sourceId ∈ ids then [sourceId ++ ":BACKLOG:duplicate"] else []
    let claim :=
      if members.lookup "registration_state" = some (.str "NOT_REGISTERED") then []
      else [sourceId ++ ":BACKLOG:unsupported-registration-claim"]
    match entry members "required_evidence" with
    | .obj evidence =>
      let states ← requiredEvidence.mapM (stateProblems digits sourceId evidence)
      return duplicate ++ claim ++ states.flatten
    | _ => return duplicate ++ claim ++ [sourceId ++ ":BACKLOG:required-evidence-missing"]

def entriesProblems (ids : List String) : List Json → Except PyError (List String)
  | [] => return []
  | document :: rest => do
    let problems ← entryProblems digits ids document
    let others ← entriesProblems (ids ++ (sourceId? document).toList.map Prod.fst) rest
    return problems ++ others

def entries? : Json → Option (List Json)
  | .obj members =>
    match (members.lookup "entries").getD (.arr []) with
    | .arr entries => some entries
    | _ => none
  | _ => none

def documentIn : JsonFile → Option Json
  | .holds document => some document
  | _ => none

/-- `_load_backlog(path)`. -/
def loadBacklog (file : JsonFile) : Except PyError (Bool × List String × List String) :=
  if file = .absent then return (false, [], [])
  else
    match (documentIn file).bind entries? with
    | none => return (true, [], ["BACKLOG:unreadable"])
    | some entries => do
      let problems ← entriesProblems digits [] entries
      return (true, sortedSet ((entries.filterMap sourceId?).map Prod.fst), sortedSet problems)

def declared? : Json → Option String
  | .obj members =>
    match members.lookup "source_id" with
    | some (.str sourceId) =>
      if "not-".toList.isPrefixOf sourceId.toList then none else some sourceId
    | _ => none
  | _ => none

end InventoryDrift

/-- The inventory and the backlog, with the paths that the section names. -/
structure DeclaredInventory where
  path : String
  file : JsonFile
  backlogPath : String := "manifests/provider_registration_backlog.json"
  backlog : JsonFile := .absent
  deriving DecidableEq, Repr

open InventoryDrift in
/-- `compare_inventory_to_registry(root, registry, inventory_path)`. Providers over which
no loop can go raise, since only the other failures of the reading are caught. -/
def DeclaredInventory.compare (digits : UInt64 → String) (reg : AdapterRegistry)
    (inventory : DeclaredInventory) : Except PyError InventoryDrift := do
  let (present, ids, problems) ← loadBacklog digits inventory.backlog
  let registered := reg.sources.map (·.sourceId)
  let drift : InventoryDrift :=
    { inventoryPath := inventory.path, inventoryPresent := true, inBoth := []
      inventoryOnly := [], registryOnly := registered, backlogPath := inventory.backlogPath
      backlogPresent := present, backlogIds := ids, backlogProblems := problems }
  match inventory.file with
  | .absent => return { drift with inventoryPresent := false }
  | .holds (.obj members) =>
    let providers ← iterate ((members.lookup "providers").getD (.arr []))
    let declared := sortedSet (providers.filterMap declared?)
    return { drift with
      inBoth := declared.filter (· ∈ registered)
      inventoryOnly := declared.filter (· ∉ registered)
      registryOnly := registered.filter (· ∉ declared) }
  | _ => return { drift with unreadable := true }

namespace IntegrationConformance

def columns : List String :=
  ["PROVIDER", "ADAPTER", "REGISTRATION", "CAPABILITY", "TOOL", "AUTH", "CREDENTIAL", "SCOPES",
    "POLICY", "RATE LIMIT", "RETRY", "TIMEOUT", "IDEMPOTENCY", "EVENTS", "PROVENANCE", "EVIDENCE",
    "STRUCTURAL TEST", "CONTRACT TEST", "LIVE TEST", "E2E TEST", "NEGATIVE TEST", "CI GATE",
    "PRODUCTION VERIFICATION"]

def notes : Dict String String :=
  [("TOOL", "Tool Registry mapping requires explicit evidence"),
    ("AUTH", "Authentication binding requires explicit evidence"),
    ("CREDENTIAL", "Credential binding requires explicit evidence"),
    ("SCOPES", "Credential scopes require explicit evidence"),
    ("POLICY", "Policy authorization requires explicit evidence"),
    ("RATE LIMIT", "Provider-specific rate-limit conformance requires evidence"),
    ("RETRY", "Provider-specific retry conformance requires evidence"),
    ("TIMEOUT", "Provider-specific timeout behavior requires evidence"),
    ("IDEMPOTENCY", "Provider-specific idempotency behavior requires evidence"),
    ("EVENTS", "Provider event normalization requires evidence"),
    ("STRUCTURAL TEST", "Universal structural test evidence required"),
    ("CONTRACT TEST", "Provider contract evidence required"),
    ("LIVE TEST", "Opt-in live evidence required"),
    ("E2E TEST", "Governed end-to-end evidence required"),
    ("NEGATIVE TEST", "Security/recovery negative evidence required"),
    ("CI GATE", "CI promotion mapping requires evidence"),
    ("PRODUCTION VERIFICATION", "Production proof must be explicit and fail-closed")]

/-- `repr` of a tuple of texts. -/
def reprTuple (items : List String) : String :=
  match items.map reprStr with
  | [item] => "(" ++ item ++ ",)"
  | items => "(" ++ ", ".intercalate items ++ ")"

variable (source : RegisteredSource)

def baseCell (column : String) : ConformanceCell :=
  match column with
  | "ADAPTER" =>
    if source.ingests then ⟨.implemented, ["SourceAdapter.ingest"], none⟩
    else ⟨.missing, ["adapter.ingest missing"], none⟩
  | "REGISTRATION" => ⟨.implemented, ["SourceAdapterRegistry"], none⟩
  | "CAPABILITY" =>
    ⟨if source.capabilities = [] then .unknown else .implemented,
      ["SourceSpec.capabilities=" ++ reprTuple source.capabilities], none⟩
  | "PROVENANCE" => ⟨.implemented, ["SourceProvenance gateway contract"], none⟩
  | "EVIDENCE" => ⟨.implemented, ["RawEvidence/source ledger gateway boundary"], none⟩
  | _ => ⟨.unknown, (notes.lookup column).toList, none⟩

/-- What the metadata claims comes before the base, and the provider is always set. -/
def auditCell (column : String) : ConformanceCell :=
  if column = "PROVIDER" then
    ⟨.implemented, ["SourceSpec.provider=" ++ source.provider], none⟩
  else ((source.conformance.getD []).lookup column).getD (baseCell source column)

/-- The cells of `_audit_one(source_id)`, in the order of the columns. -/
def audit : Dict String ConformanceCell :=
  columns.map fun column => (column, auditCell source column)

end IntegrationConformance

structure RepositoryEvidence where
  path : String
  kind : String
  detail : String
  deriving DecidableEq, Repr

namespace RepositoryConformanceScanner

/-- `key=lambda item: (item.kind, item.path, item.detail)`. -/
def EvidenceOrder (left right : RepositoryEvidence) : Prop :=
  left.kind < right.kind ∨ left.kind = right.kind ∧
    (left.path < right.path ∨ left.path = right.path ∧ left.detail ≤ right.detail)

instance : DecidableRel EvidenceOrder := fun left right =>
  inferInstanceAs (Decidable (left.kind < right.kind ∨ left.kind = right.kind ∧
    (left.path < right.path ∨ left.path = right.path ∧ left.detail ≤ right.detail)))

def arranged (items : List RepositoryEvidence) : List RepositoryEvidence :=
  items.dedup.insertionSort EvidenceOrder

def textSuffixes : List String := [".py", ".md", ".yml", ".yaml", ".json", ".toml", ".txt"]

/-- `part in text`. -/
def within (part text : String) : Bool := decide (part.toList <:+: text.toList)

def starts (start text : String) : Bool := start.toList.isPrefixOf text.toList

variable (casing : Casing)

def kindOf (path text : String) : Option String :=
  let lower := casing.lower path
  let content := casing.lower text
  if within "/tests/" lower ∨ starts "tests/" lower then
    if within "structure" lower ∨ within "structural" lower then some "STRUCTURAL_TEST"
    else if within "live" lower ∨ within "live_" content ∨ within "phase_a" lower then
      some "LIVE_TEST"
    else if within "contract" lower ∨ within "contract" content then some "CONTRACT_TEST"
    else if within "negative" lower ∨ within "security" lower ∨ within "permission" content then
      some "NEGATIVE_TEST"
    else some "STRUCTURAL_TEST"
  else if within ".github/workflows/" lower then some "CI"
  else if starts "docs/" lower then
    if within "production" lower ∨ within "verification" lower then
      some "PRODUCTION_DOCUMENTATION"
    else some "DOCUMENTATION"
  else if starts "manifests/" lower then
    if within "production" lower ∨ within "readiness" lower then some "PRODUCTION_MANIFEST"
    else some "MANIFEST"
  else if starts "ois/" lower then
    if within "source_gateway" lower then some "GATEWAY"
    else if within "registry" lower then some "REGISTRY"
    else some "IMPLEMENTATION"
  else if starts "config/" lower then some "POLICY_CONFIG"
  else none

variable (repository : Repository)

def evidenceIn (sourceId : String) (file : RepositoryFile) : Option RepositoryEvidence :=
  let flow := within ".github/workflows/" (casing.lower file.path) &&
    within "conformance" (casing.lower (repository.root ++ "/" ++ file.path))
  if file.suffix ∈ textSuffixes ∧ (within sourceId file.text ∨ flow) then
    (kindOf casing file.path file.text).map fun kind => ⟨file.path, kind, sourceId⟩
  else none

def evidenceFor (sourceId : String) : List RepositoryEvidence :=
  arranged (repository.files.filterMap (evidenceIn casing repository sourceId))

end RepositoryConformanceScanner

structure ConformanceRecord where
  sourceId : String
  cells : Dict String ConformanceCell
  deriving DecidableEq, Repr

structure ConformanceCertificate where
  commit : Option String
  records : List ConformanceRecord
  mandatoryColumns : List String
  certificateHash : String
  valid : Bool
  failures : List String
  evidence : Dict String (List RepositoryEvidence)
  providerManifests : Members
  inventoryDrift : Members
  deriving DecidableEq, Repr

/-- A directory of manifests with its `*.json` files in order. One that does not exist has none. -/
structure ManifestDirectory where
  path : String
  files : List (String × Option Json)
  deriving DecidableEq, Repr

structure CertificateBuilder where
  repository : Repository
  registry : AdapterRegistry
  required : List String := ["ADAPTER", "REGISTRATION", "CAPABILITY", "PROVENANCE", "EVIDENCE",
    "STRUCTURAL TEST", "CONTRACT TEST", "CI GATE"]
  commit : Option String := none
  manifests : Option ManifestDirectory := none
  inventory : Option DeclaredInventory := none
  inventoryDriftReportOnly : Bool := false

namespace CertificateBuilder

open IntegrationConformance RepositoryConformanceScanner InventoryDrift ProviderManifests

section parts

variable (python : Interpreter) (builder : CertificateBuilder)

/-- An evidence path of a claim gives a failure or an item of evidence. -/
def claimedPath (source : RegisteredSource) (claim : String × ConformanceCell × String) :
    Except PyError (String ⊕ RepositoryEvidence) := do
  let (column, cell, path) := claim
  match ← builder.repository.place path with
  | .outside =>
    return .inl (source.sourceId ++ ":" ++ column ++ ":evidence-outside-root=" ++ path)
  | .missing => return .inl (source.sourceId ++ ":" ++ column ++ ":evidence-missing=" ++ path)
  | .file relative =>
    let note := cell.note.getD ""
    return .inr ⟨relative, "CONFORMANCE_" ++ column, if note = "" then path else note⟩

def claimedPaths (source : RegisteredSource) : List (String × ConformanceCell × String) :=
  (source.conformance.getD []).flatMap fun claim =>
    claim.2.evidence.map fun path => (claim.1, claim.2, path)

structure Survey where
  source : RegisteredSource
  claimed : List (String ⊕ RepositoryEvidence)

def survey : Except PyError (List Survey) :=
  builder.registry.sources.mapM fun source => do
    return ⟨source, ← (claimedPaths source).mapM (claimedPath builder source)⟩

def Survey.failures (survey : Survey) : List String := survey.claimed.filterMap Sum.getLeft?

def Survey.evidence (survey : Survey) : List RepositoryEvidence :=
  arranged (evidenceFor python.casing builder.repository survey.source.sourceId ++
    survey.claimed.filterMap Sum.getRight?)

def evidenceToColumn : Dict String String :=
  [("STRUCTURAL_TEST", "STRUCTURAL TEST"), ("CONTRACT_TEST", "CONTRACT TEST"), ("CI", "CI GATE")]

def enrich (cells : Dict String ConformanceCell) (item : RepositoryEvidence) :
    Dict String ConformanceCell :=
  match evidenceToColumn.lookup item.kind with
  | none => cells
  | some column =>
    let existing := (cells.lookup column).getD ⟨.unknown, [], none⟩
    cells.set column ⟨.tested, existing.evidence ++ [item.kind ++ ":" ++ item.path], existing.note⟩

def Survey.record (survey : Survey) : ConformanceRecord :=
  ⟨survey.source.sourceId, (survey.evidence python builder).foldl enrich (audit survey.source)⟩

def drift : Except PyError (Option InventoryDrift) :=
  match builder.inventory with
  | none => return none
  | some inventory => return some (← inventory.compare python.reprFloat builder.registry)

def driftFailures (drift : Option InventoryDrift) : List String :=
  if builder.inventoryDriftReportOnly then [] else drift.elim [] (·.failures)

def manifestFailures : Except PyError (List String) :=
  match builder.manifests with
  | none => return []
  | some directory =>
    ProviderManifests.validate python builder.repository builder.registry directory.files

def text? : Option String → Json := Json.ofOption .str

/-- What the section says of the document of one source. -/
def manifestEntry (sha256 : Json.Text → String) (failures : List String) (sourceId : String)
    (doc : Option Members) : Except PyError Members :=
  match doc with
  | none => return [("status", .str "MISSING"), ("sha256", .null), ("unknown_fields", .arr [])]
  | some doc => do
    let status :=
      if failures.any (starts (fail sourceId "")) then "INVALID" else "CONSISTENT"
    let unknown ← python.sorted (← iterate ((doc.lookup "unknown").getD (.arr [])))
    return [("status", .str status), ("sha256", .str (sha256 (Json.dumpsSorted (.obj doc)))),
      ("unknown_fields", .arr unknown)]

/-- `_manifest_section(failures)`. -/
def manifestSection (sha256 : Json.Text → String) (failures : List String) :
    Except PyError Members :=
  match builder.manifests with
  | none => return []
  | some directory => do
    let docs := (loadManifestDocuments directory.files).1
    let providers ← builder.registry.sources.mapM fun source => do
      return (source.sourceId, .obj
        (← manifestEntry python sha256 failures source.sourceId (docs.lookup source.sourceId)))
    return [("directory", .str directory.path), ("providers", .obj providers)]

end parts

/-- `record.cells[column]` raises where the policy names no column. -/
def requiredCell (record : ConformanceRecord) (column : String) :
    Except PyError (List String) :=
  match record.cells.lookup column with
  | none => throw ⟨.other "KeyError", Kernel.reprStr column⟩
  | some cell =>
    if cell.status = .unknown ∨ cell.status = .missing then
      return [record.sourceId ++ ":" ++ column ++ "=" ++ cell.status.value]
    else return []

def requiredFailures (required : List String) (records : List ConformanceRecord) :
    Except PyError (List String) := do
  let cells ← records.mapM fun record => required.mapM (requiredCell record)
  return (if records = [] then ["REGISTRY_EMPTY"] else []) ++ cells.flatten.flatten

def cellDict (cell : ConformanceCell) : Json :=
  .obj [("status", .str cell.status.value), ("evidence", texts cell.evidence),
    ("note", text? cell.note)]

def reportDict (records : List ConformanceRecord) : Members :=
  [("schema_version", .str "1.0"), ("generated_by", .str "ois.integration.conformance.v2"),
    ("columns", texts columns),
    ("matrix", .arr (records.map fun record =>
      .obj (record.cells.map fun cell => (cell.1, .str cell.2.status.value)))),
    ("evidence", .obj (records.map fun record =>
      (record.sourceId, .obj (record.cells.map fun cell => (cell.1, cellDict cell.2)))))]

def evidenceDict (item : RepositoryEvidence) : Json :=
  .obj [("path", .str item.path), ("kind", .str item.kind), ("detail", .str item.detail)]

/-- What the certificate hash is of. -/
def payload (cert : ConformanceCertificate) : Members :=
  [("schema_version", .str "ois.integration.conformance.certificate.v2"),
    ("commit", text? cert.commit),
    ("mandatory_columns", texts cert.mandatoryColumns),
    ("provider_manifests", .obj cert.providerManifests),
    ("inventory_drift", .obj cert.inventoryDrift),
    ("report", .obj (reportDict cert.records)),
    ("evidence", .obj (cert.evidence.map fun source =>
      (source.1, .arr (source.2.map evidenceDict))))]

variable (sha256 : Json.Text → String) (python : Interpreter) (builder : CertificateBuilder)

/-- What the steps of `build` found, in their order. -/
structure Findings where
  surveys : List Survey
  drift : Option InventoryDrift
  collected : List String
  manifestSection : Members
  required : List String

def find : Except PyError Findings := do
  let surveys ← survey builder
  let drift ← drift python builder
  let manifests ← manifestFailures python builder
  let collected := surveys.flatMap Survey.failures ++ driftFailures builder drift ++ manifests
  let manifestSection ← manifestSection python builder sha256 collected
  let required ← requiredFailures builder.required (surveys.map (Survey.record python builder))
  return { surveys, drift, collected, manifestSection, required }

def certificateOf (findings : Findings) : ConformanceCertificate :=
  let records := findings.surveys.map (Survey.record python builder)
  let failures := findings.collected ++ findings.required
  let cert : ConformanceCertificate :=
    { commit := builder.commit, records, mandatoryColumns := builder.required
      certificateHash := "", valid := !records.isEmpty && failures.isEmpty
      failures := sortedSet failures
      evidence := findings.surveys.map fun survey =>
        (survey.source.sourceId, survey.evidence python builder)
      providerManifests := findings.manifestSection
      inventoryDrift := findings.drift.elim [] toDict }
  { cert with certificateHash := sha256 (Json.dumpsSorted (.obj (payload cert))) }

/-- `build()`. -/
def build : Except PyError ConformanceCertificate := do
  return certificateOf sha256 python builder (← find sha256 python builder)

end CertificateBuilder

end Ois.Integration
