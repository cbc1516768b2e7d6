import Ois.Integration.CertificateFlaws
import Ois.Library.JsonText

/-!
# Verdicts of conformance certificates

The hash of a certificate is of its report and its sections, and not of its failures. Two
certificates with one hash have in common what the report lacks and how the inventory drifts.
-/

namespace Ois.Integration

open Ois.Library Ois.Kernel Ois.Infrastructure ProviderConformanceManifest Json

/-- No exception leaves the run. -/
def Ends {Value : Type} (run : Except PyError Value) : Prop := ∃ value, run = .ok value

theorem Ends.bind {Other Value : Type} {first : Except PyError Other}
    {next : Other → Except PyError Value} (starts : Ends first)
    (continues : ∀ value, first = .ok value → Ends (next value)) : Ends (first >>= next) := by
  obtain ⟨value, ran⟩ := starts
  obtain ⟨res, after⟩ := continues value ran
  refine ⟨res, ?_⟩
  rw [ran]
  exact after

theorem Ends.value {Value : Type} (value : Value) : Ends (.ok value) := ⟨value, rfl⟩

section runs

variable {Item Value : Type} {run : Item → Except PyError Value} {items : List Item}

theorem Ends.mapM (ends : ∀ item ∈ items, Ends (run item)) : Ends (items.mapM run) := by
  induction items with
  | nil => exact .value []
  | cons item rest ih =>
    rw [List.mapM_cons]
    exact (ends item (by simp)).bind fun _ _ =>
      (ih fun other among => ends other (by simp [among])).bind fun _ _ => .value _

end runs

theorem ConformanceStatus.value_inj {left right : ConformanceStatus}
    (same : left.value = right.value) : left = right := by
  cases left <;> cases right <;> first | rfl | exact absurd same (by decide)

namespace CertificateBuilder

open InventoryDrift

section sections

variable {cert other : ConformanceCertificate}

/-- Documents of one text have the same members. -/
def SameText (members others : Members) : Prop :=
  sortKeys (.obj members) = sortKeys (.obj others)

theorem SameText.member {members others : Members} (same : SameText members others)
    (key : String) {value next : Json} (here : members.lookup key = some value)
    (there : others.lookup key = some next) : sortKeys value = sortKeys next := by
  have found := lookup_of_sorted same key
  rw [here, there] at found
  exact Option.some.inj found

theorem SameText.mem {members others : Members} (same : SameText members others)
    {key : String} {value : Json} (held : (key, value) ∈ members) :
    ∃ next, (key, next) ∈ others ∧ sortKeys value = sortKeys next := by
  have mapped (listed : Members) (member : String × Json) :
      member ∈ sortMembers listed ↔ ∃ kept ∈ listed, sortMember kept = member := by
    simp [sort_members_eq]
  unfold SameText at same
  rw [sort_keys_obj, sort_keys_obj, obj.injEq] at same
  have sorted := (mapped members _).mpr ⟨_, held, rfl⟩
  rw [same, mapped] at sorted
  obtain ⟨⟨name, next⟩, among, equal⟩ := sorted
  obtain ⟨rfl, values⟩ := Prod.mk.inj equal
  exact ⟨next, among, values.symm⟩

theorem sort_keys_texts (listed : List String) :
    sortKeys (texts listed) = texts listed := by
  simp [texts]

theorem texts_inj {listed others : List String}
    (same : sortKeys (texts listed) = sortKeys (texts others)) : listed = others := by
  rw [sort_keys_texts, sort_keys_texts] at same
  exact (List.map_injective_iff.mpr fun _ _ equal => str.inj equal) (arr.inj same)

theorem required_of_payload (same : SameText (payload cert) (payload other)) :
    cert.mandatoryColumns = other.mandatoryColumns :=
  texts_inj (same.member "mandatory_columns" rfl rfl)

/-- The report says of every record which cell is blocked. -/
theorem record_of_payload (same : SameText (payload cert) (payload other))
    {record : ConformanceRecord} (held : record ∈ cert.records) :
    ∃ next ∈ other.records, next.sourceId = record.sourceId ∧ ∀ column cell,
      record.cells.lookup column = some cell →
        ∃ found, next.cells.lookup column = some found ∧ found.status = cell.status := by
  have report : SameText (reportDict cert.records) (reportDict other.records) :=
    same.member "report" rfl rfl
  have rows := report.member "evidence" rfl rfl
  obtain ⟨row, among, equal⟩ := SameText.mem rows (List.mem_map_of_mem held)
  obtain ⟨next, listed, named⟩ := List.mem_map.mp among
  obtain ⟨names, rfl⟩ := Prod.mk.inj named
  refine ⟨next, listed, names, ?_⟩
  intro column cell found
  have cells := lookup_of_sorted equal column
  rw [Dict.lookup_map_values, Dict.lookup_map_values, found] at cells
  cases there : next.cells.lookup column with
  | none =>
    rw [there] at cells
    simp at cells
  | some shown =>
    rw [there] at cells
    have values := SameText.member (Option.some.inj cells) "status" rfl rfl
    rw [sort_keys_str, sort_keys_str, str.injEq] at values
    exact ⟨shown, rfl, (ConformanceStatus.value_inj values).symm⟩

end sections

variable {sha256 : Json.Text → String} {python : Interpreter} {builder other : CertificateBuilder}
  {cert : ConformanceCertificate}

theorem LacksIn.of_payload {one two : ConformanceCertificate}
    (same : SameText (payload one) (payload two)) {text : String}
    (lacks : LacksIn one.mandatoryColumns one.records text) :
    LacksIn two.mandatoryColumns two.records text := by
  rcases lacks with ⟨empty, named⟩ | ⟨record, held, column, asked, cell, found, blocked, named⟩
  · refine .inl ⟨?_, named⟩
    apply List.eq_nil_iff_forall_not_mem.mpr
    intro record held
    obtain ⟨next, among, _⟩ := record_of_payload same.symm held
    rw [empty] at among
    cases among
  · obtain ⟨next, among, names, cells⟩ := record_of_payload same held
    obtain ⟨shown, there, status⟩ := cells column cell found
    refine .inr ⟨next, among, column, ?_, shown, there, ?_, ?_⟩
    · rwa [← required_of_payload same]
    · rwa [status]
    · rwa [names, status]

theorem failures_of_build (built : builder.build sha256 python = .ok cert) :
    ∃ failures, cert.failures = sortedSet failures := by
  obtain ⟨findings, manifests, found, rfl⟩ := found_of_build built
  exact ⟨_, rfl⟩

/-- A registry without sources has a failure, so that only the failures decide. -/
theorem valid_iff (built : builder.build sha256 python = .ok cert) :
    cert.valid = true ↔ cert.failures = [] := by
  obtain ⟨findings, manifests, found, rfl⟩ := found_of_build built
  have lacks := mem_required_iff found.required "REGISTRY_EMPTY"
  simp only [certificateOf, Bool.and_eq_true, Bool.not_eq_true', List.isEmpty_iff,
    sorted_set_eq_nil]
  constructor
  · exact And.right
  · intro none
    refine ⟨?_, none⟩
    rw [List.isEmpty_eq_false_iff]
    intro empty
    have held := lacks.mpr (.inl ⟨empty, rfl⟩)
    rw [(List.append_eq_nil_iff.mp none).2] at held
    cases held

theorem payload_of_hash (injective : Function.Injective sha256) {findings others : Findings}
    (same : (certificateOf sha256 python builder findings).certificateHash =
      (certificateOf sha256 python other others).certificateHash) :
    SameText (payload (certificateOf sha256 python builder findings))
      (payload (certificateOf sha256 python other others)) :=
  congrArg loads (injective same)

theorem lacks_of_hash (injective : Function.Injective sha256)
    {one two : ConformanceCertificate} (first : builder.build sha256 python = .ok one)
    (second : other.build sha256 python = .ok two)
    (same : one.certificateHash = two.certificateHash) {text : String}
    (lacks : Lacks python builder text) : Lacks python other text := by
  obtain ⟨findings, _, found, rfl⟩ := found_of_build first
  obtain ⟨others, _, there, rfl⟩ := found_of_build second
  rw [← lacks_in_iff found.surveys found.required] at lacks
  rw [← lacks_in_iff there.surveys there.required]
  exact lacks.of_payload (payload_of_hash injective same)

/-- The section of the inventory lists its failures, whether they count or not. -/
theorem drifts_of_hash (injective : Function.Injective sha256)
    {one two : ConformanceCertificate} (first : builder.build sha256 python = .ok one)
    (second : other.build sha256 python = .ok two)
    (same : one.certificateHash = two.certificateHash) {text : String}
    (drifts : Drifts python builder text) : Drifts python other text := by
  obtain ⟨findings, _, found, rfl⟩ := found_of_build first
  obtain ⟨others, _, there, rfl⟩ := found_of_build second
  rw [← mem_drifts_iff found] at drifts
  rw [← mem_drifts_iff there]
  have sections : SameText (findings.drift.elim [] toDict) (others.drift.elim [] toDict) :=
    (payload_of_hash injective same).member "inventory_drift" rfl rfl
  have found := lookup_of_sorted sections "failures"
  cases here : findings.drift with
  | none =>
    rw [here] at drifts
    cases drifts
  | some drift =>
    cases next : others.drift with
    | none =>
      rw [here, next] at found
      cases found
    | some after =>
      rw [here, next] at sections
      rw [here] at drifts
      have failures : drift.failures = after.failures :=
        texts_inj (sections.member "failures" rfl rfl)
      rw [Option.elim_some] at drifts ⊢
      rwa [← failures]

/-- Two certificates of one hash have the same verdict exactly if, apart from what the report
lacks, they have the same flaws of evidence paths and manifests, next to a drift that counts. -/
theorem hash_binds_verdict_iff (injective : Function.Injective sha256)
    {one two : ConformanceCertificate} (first : builder.build sha256 python = .ok one)
    (second : other.build sha256 python = .ok two)
    (same : one.certificateHash = two.certificateHash) :
    (one.valid = two.valid ∧ one.failures = two.failures) ↔
      ∀ text, ¬Lacks python builder text →
        ((Flaw python builder text ∨
            builder.inventoryDriftReportOnly = false ∧ Drifts python builder text) ↔
          (Flaw python other text ∨
            other.inventoryDriftReportOnly = false ∧ Drifts python builder text)) := by
  have lacking (text : String) : Lacks python builder text ↔ Lacks python other text :=
    ⟨lacks_of_hash injective first second same, lacks_of_hash injective second first same.symm⟩
  have drifting (text : String) : Drifts python builder text ↔ Drifts python other text :=
    ⟨drifts_of_hash injective first second same, drifts_of_hash injective second first same.symm⟩
  constructor
  · rintro ⟨_, failures⟩ text silent
    have members := mem_failures_iff first text
    rw [failures, mem_failures_iff second, ← lacking, ← drifting] at members
    simpa [silent] using members.symm
  · intro flaws
    have failures : one.failures = two.failures := by
      obtain ⟨listed, left⟩ := failures_of_build first
      obtain ⟨shown, right⟩ := failures_of_build second
      rw [left, right, sorted_set_eq_iff]
      intro text
      rw [← mem_sorted_set, ← left, ← @mem_sorted_set text shown, ← right,
        mem_failures_iff first, mem_failures_iff second, ← lacking, ← drifting]
      by_cases silent : Lacks python builder text
      · simp [silent]
      · rw [flaws text silent]
    refine ⟨?_, failures⟩
    rw [Bool.eq_iff_iff, valid_iff first, valid_iff second, failures]

section samples

open ProviderManifests

/-- Texts are sorted, and other values only where they need no comparison. -/
def sortTexts (items : List Json) : Except PyError (List Json) :=
  match items.mapM asStr? with
  | some texts => .ok ((texts.insertionSort (· ≤ ·)).map .str)
  | none =>
    if items.length ≤ 1 then .ok items
    else .error ⟨.other "TypeError", "'<' not supported between instances"⟩

theorem mapM_as_str (listed : List String) :
    (listed.map str).mapM asStr? = some listed := by
  induction listed with
  | nil => rfl
  | cons text rest ih => simp [List.mapM_cons, ih, asStr?]

def plainInterpreter : Interpreter where
  reprFloat _ := "0.0"
  casing := Casing.simple
  sorted := sortTexts
  float
    | .float bits => .ok bits
    | _ => .error ⟨.other "TypeError", "float() argument must be a string or a real number"⟩
  sorted_texts listed := by rw [sortTexts, mapM_as_str]

def sampleManifest : Members :=
  [("provider", .str "a"), ("adapter", .str "ois/a.py"), ("registration", .str registrationFactory),
    ("capabilities", texts ["read"]), ("tools", .arr []), ("auth", .obj []),
    ("credentials", .obj []), ("scopes", .arr []), ("policy", .obj []), ("reliability", .obj []),
    ("events", .arr []), ("tests", .obj []), ("live", .obj []),
    ("metadata", .obj [("protocol", .str "http"), ("version", .str "v1")]),
    ("evidence", .obj [("claims", .obj (claimColumns.map fun column =>
      (column, texts ["ois/a.py"])))]),
    ("unknown", texts unverifiedFields),
    ("verification", .obj (verificationKeys.map fun key => (key, .str "UNKNOWN")))]

/-- One source with a manifest, next to which other files stand. -/
def sampleBuilder (doc : Members) (files : List (String × Option Json)) : CertificateBuilder where
  repository := ⟨"/repo", [], fun path => .ok (.file path)⟩
  registry :=
    { sources := [{ sourceId := "a", provider := "a", protocol := "http", capabilities := ["read"]
                    conformance := some (claimColumns.map fun column =>
                      (column, ⟨.implemented, ["ois/a.py"], none⟩)) }] }
  required := ["ADAPTER"]
  manifests := some ⟨"manifests/providers", ("a.json", some (.obj doc)) :: files⟩

def lone : CertificateBuilder := sampleBuilder sampleManifest []

def crowded : CertificateBuilder := sampleBuilder sampleManifest [("x.json", none)]

/-- A file that cannot be read makes the certificate invalid and leaves its hash. -/
theorem unreadable_file_verdicts :
    ∃ one two, lone.build Json.Text.coded plainInterpreter = .ok one ∧
      crowded.build Json.Text.coded plainInterpreter = .ok two ∧
        one.certificateHash = two.certificateHash ∧ one.valid = true ∧ two.valid = false :=
  ⟨_, _, rfl, rfl, rfl, rfl, rfl⟩

theorem hash_spares_verdict :
    ¬∀ (builder other : CertificateBuilder) (one two : ConformanceCertificate),
      builder.build Json.Text.coded plainInterpreter = .ok one →
        other.build Json.Text.coded plainInterpreter = .ok two →
          one.certificateHash = two.certificateHash →
            one.valid = two.valid ∧ one.failures = two.failures := by
  intro binds
  obtain ⟨one, two, first, second, same, valid, invalid⟩ := unreadable_file_verdicts
  have verdicts := (binds _ _ one two first second same).1
  rw [valid, invalid] at verdicts
  cases verdicts

/-- The unreadable file is a flaw of only one of the two. -/
theorem unreadable_file_collected :
    ¬∀ text, ¬Lacks plainInterpreter lone text →
      ((Flaw plainInterpreter lone text ∨
          lone.inventoryDriftReportOnly = false ∧ Drifts plainInterpreter lone text) ↔
        (Flaw plainInterpreter crowded text ∨
          crowded.inventoryDriftReportOnly = false ∧ Drifts plainInterpreter lone text)) := by
  intro flaws
  obtain ⟨one, two, first, second, same, valid, invalid⟩ := unreadable_file_verdicts
  have verdicts :=
    ((hash_binds_verdict_iff Json.Text.coded_injective first second same).mpr flaws).1
  rw [valid, invalid] at verdicts
  cases verdicts

end samples

end CertificateBuilder

section manifests

open ProviderManifests

variable {python : Interpreter} {repository : Repository} {source : RegisteredSource}
  {doc : Members} {manifest : ProviderConformanceManifest}

/-- What `load_manifest` asks of a manifest. -/
structure LoadableManifest (python : Interpreter) (doc : Members) : Prop where
  sections : ∀ name ∈ requiredSections, (doc.lookup name).isSome = true
  objects : ∀ name ∈ ["auth", "credentials", "policy", "reliability", "tests", "live"],
    ∃ members, entry doc name = .obj members
  lists : ∀ name ∈ ["capabilities", "tools", "scopes", "events"],
    ∃ items, iterate (entry doc name) = .ok items
  readOnly : ∃ mode writes, getOf (entry doc "live") "mode" (.str "read_only") = .ok mode ∧
    strOf python.reprFloat mode = "read_only" ∧
      getOf (entry doc "live") "allow_writes" (.bool false) = .ok writes ∧ truthy writes = false

/-- Each of the four columns is claimed with a list of evidence. -/
def ClaimsEvidenced (doc : Members) : Prop :=
  ∃ evidence claims, entry doc "evidence" = .obj evidence ∧
    evidence.lookup "claims" = some (.obj claims) ∧ ∀ column ∈ claimColumns,
      ∃ first rest, claims.lookup column = some (.arr (first :: rest))

def UnknownListed (doc : Members) : Prop :=
  ∃ names, entry doc "unknown" = .arr names ∧ ∀ name ∈ names, name ∈ unverifiedFields.map str

/-- Nothing is claimed to be verified. -/
def Unverified (doc : Members) : Prop :=
  (∃ states, entry doc "verification" = .obj states ∧
    ∀ key ∈ verificationKeys, states.lookup key = some (.str "UNKNOWN")) ∧
  ∃ verified, getOf (entry doc "live") "verified" .null = .ok verified ∧
    (pyEquals verified .null = true ∨ pyEquals verified (.bool false) = true)

/-- What a manifest has to hold, apart from what the registry compares it with. -/
structure WellFormedManifest (python : Interpreter) (doc : Members) : Prop where
  loadable : LoadableManifest python doc
  claims : ClaimsEvidenced doc
  unknown : UnknownListed doc
  unverified : Unverified doc

theorem obj_of_get {value default found : Json} {key : String}
    (read : getOf value key default = .ok found) : ∃ members, value = .obj members := by
  cases value with
  | obj members => exact ⟨members, rfl⟩
  | _ => cases read

theorem loadable_of_load (loaded : load python.reprFloat doc = .ok manifest) :
    LoadableManifest python doc := by
  obtain ⟨found, read, ran⟩ := bind_ok loaded
  obtain ⟨_, safe, ret⟩ := bind_ok ran
  obtain rfl := Except.ok.inj ret
  have policy : found.liveMode = "read_only" ∧ found.allowWrites = false := by
    unfold validateSafeLivePolicy at safe
    split_ifs at safe with unsafe_
    simpa using unsafe_
  unfold fromDict at read
  simp only at read
  split_ifs at read with absent
  · cases read
  obtain ⟨_, capabilities, read⟩ := bind_ok read
  obtain ⟨_, tools, read⟩ := bind_ok read
  obtain ⟨_, auth, read⟩ := bind_ok read
  obtain ⟨_, _, read⟩ := bind_ok read
  obtain ⟨_, creds, read⟩ := bind_ok read
  obtain ⟨_, _, read⟩ := bind_ok read
  obtain ⟨_, scopes, read⟩ := bind_ok read
  obtain ⟨_, actions, read⟩ := bind_ok read
  obtain ⟨_, _, read⟩ := bind_ok read
  obtain ⟨_, reliability, read⟩ := bind_ok read
  obtain ⟨_, _, read⟩ := bind_ok read
  obtain ⟨_, _, read⟩ := bind_ok read
  obtain ⟨_, _, read⟩ := bind_ok read
  obtain ⟨_, events, read⟩ := bind_ok read
  obtain ⟨_, tests, read⟩ := bind_ok read
  obtain ⟨_, _, read⟩ := bind_ok read
  obtain ⟨mode, live, read⟩ := bind_ok read
  obtain ⟨writes, written, read⟩ := bind_ok read
  obtain ⟨_, _, read⟩ := bind_ok read
  obtain rfl := Except.ok.inj read
  refine ⟨?_, ?_, ?_, mode, writes, live, policy.1, written, policy.2⟩
  · intro name asked
    have kept := List.filter_eq_nil_iff.mp (not_not.mp absent) name asked
    simpa [Option.isSome_iff_ne_none] using kept
  · simp only [List.forall_mem_cons, List.not_mem_nil, false_implies, implies_true, and_true]
    exact ⟨obj_of_get auth, obj_of_get creds, obj_of_get actions, obj_of_get reliability,
      obj_of_get tests, obj_of_get live⟩
  · simp only [List.forall_mem_cons, List.not_mem_nil, false_implies, implies_true, and_true]
    exact ⟨⟨_, capabilities⟩, ⟨_, tools⟩, ⟨_, scopes⟩, _, events⟩

/-- `evidence or {}` holds claims only where it is an object. -/
theorem claims_held {claims : Members} (read : claimsOf doc = .ok (.obj claims)) :
    ∃ evidence, entry doc "evidence" = .obj evidence ∧
      evidence.lookup "claims" = some (.obj claims) := by
  unfold claimsOf orEmpty at read
  split_ifs at read with held
  · obtain ⟨evidence, there⟩ := obj_of_get read
    refine ⟨evidence, there, ?_⟩
    rw [there] at read
    cases found : evidence.lookup "claims" with
    | none => simp [getOf, found] at read
    | some value => simpa [getOf, found] using read
  · simp [getOf] at read

theorem evidence_well_formed {adapterPath : String}
    (sound : ∀ reason, ¬EvidenceFlaw python repository source doc adapterPath reason) :
    ClaimsEvidenced doc := by
  unfold EvidenceFlaw at sound
  split at sound
  · rename_i claims read
    obtain ⟨evidence, there, held⟩ := claims_held read
    refine ⟨evidence, claims, there, held, fun column asked => ?_⟩
    by_contra missing
    refine sound (column ++ "-evidence-missing") (.inr (.inl ⟨column, asked, ?_⟩))
    unfold ColumnFlaw
    split
    · exact absurd ⟨_, _, ‹_›⟩ missing
    · rfl
  · exact absurd (.inr rfl) (sound _)

theorem unknown_well_formed
    (sound : ∀ reason, ¬UnknownFlaw python repository doc manifest reason) :
    UnknownListed doc := by
  unfold UnknownFlaw at sound
  split at sound
  · rename_i names listed
    refine ⟨names, listed, fun name mem => ?_⟩
    by_contra foreign
    exact sound _ (.inr ⟨name, mem, foreign, rfl⟩)
  · exact absurd rfl (sound _)

theorem verification_well_formed (sound : ∀ reason, ¬VerificationFlaw doc reason)
    (live : ∃ members, entry doc "live" = .obj members) : Unverified doc := by
  unfold VerificationFlaw at sound
  split at sound
  · rename_i states held
    constructor
    · refine ⟨states, held, fun key asked => ?_⟩
      by_contra claims
      exact sound _ (.inl ⟨key, asked, claims, rfl⟩)
    · obtain ⟨members, there⟩ := live
      have full : getOf (orEmpty (entry doc "live")) "verified" .null =
          getOf (entry doc "live") "verified" .null := by
        rw [there]
        cases members <;> rfl
      have read : getOf (entry doc "live") "verified" .null =
          .ok ((members.lookup "verified").getD .null) := by rw [there, getOf]
      refine ⟨_, read, ?_⟩
      by_contra claims
      exact sound _ (.inr ⟨⟨_, full.trans read, claims⟩, rfl⟩)
  · exact absurd rfl (sound _)

/-- Manifests without a flaw are well formed. -/
theorem manifest_well_formed
    (sound : ∀ reason, ¬ManifestFlaw python repository source doc reason) :
    WellFormedManifest python doc := by
  unfold ManifestFlaw at sound
  split at sound
  · exact absurd rfl (sound _)
  · rename_i manifest loaded
    simp only [not_or] at sound
    have loadable := loadable_of_load loaded
    exact ⟨loadable, evidence_well_formed fun reason => (sound reason).2.2.2.2.1,
      unknown_well_formed fun reason => (sound reason).2.2.2.2.2.1,
      verification_well_formed (fun reason => (sound reason).2.2.2.2.2.2)
        (loadable.objects "live" (by simp))⟩

end manifests

section inventories

open InventoryDrift

/-- What an entry of the backlog has to hold. -/
structure WellFormedEntry (document : Json) : Prop where
  named : ∃ sourceId members, sourceId? document = some (sourceId, members) ∧
    members.lookup "registration_state" = some (.str "NOT_REGISTERED") ∧
      ∃ evidence, entry members "required_evidence" = .obj evidence ∧
        ∀ key ∈ requiredEvidence, entry evidence key ∈ allowedStates.map str

/-- The backlog is absent, or an object with a list of such entries. -/
def WellFormedBacklog (file : JsonFile) : Prop :=
  file = .absent ∨ ∃ document entries, file = .holds document ∧ entries? document = some entries ∧
    ∀ document ∈ entries, WellFormedEntry document

/-- The inventory is an object with a list of providers, among them all that are registered. -/
def WellFormedInventory (reg : AdapterRegistry) (file : JsonFile) : Prop :=
  ∃ members providers, file = .holds (.obj members) ∧
    members.lookup "providers" = some (.arr providers) ∧
      ∀ source ∈ reg.sources, ∃ item ∈ providers, declared? item = some source.sourceId

variable {digits : UInt64 → String} {reg : AdapterRegistry}

theorem entry_well_formed {ids : List String} {doc : Json}
    (sound : ∀ text, ¬EntryFlaw digits ids doc text) : WellFormedEntry doc := by
  unfold EntryFlaw at sound
  split at sound
  · exact absurd rfl (sound _)
  · rename_i sourceId members named
    refine ⟨sourceId, members, named, ?_, ?_⟩
    · by_contra claims
      exact sound _ (.inl (.inr ⟨claims, rfl⟩))
    · split at sound
      · rename_i evidence held
        refine ⟨evidence, held, fun key asked => ?_⟩
        by_contra foreign
        unfold StateFlaw at sound
        by_cases given : entry evidence key = .null
        · exact sound _ (.inr ⟨key, asked, by rw [if_pos given]⟩)
        · exact sound _ (.inr ⟨key, asked, by rw [if_neg given]; exact ⟨foreign, rfl⟩⟩)
      · exact absurd (.inr rfl) (sound _)

theorem backlog_well_formed {file : JsonFile}
    (sound : ∀ text, ¬BacklogFlaw digits file text) : WellFormedBacklog file := by
  by_cases absent : file = .absent
  · exact .inl absent
  · unfold BacklogFlaw at sound
    split at sound
    · exact absurd ⟨absent, rfl⟩ (sound _)
    · rename_i entries held
      obtain ⟨document, there, listed⟩ := Option.bind_eq_some_iff.mp held
      refine .inr ⟨document, entries, ?_, listed, fun document mem => ?_⟩
      · cases file with
        | holds held => exact congrArg JsonFile.holds (Option.some.inj there)
        | _ => cases there
      · obtain ⟨past, later, split⟩ := List.append_of_mem mem
        exact entry_well_formed fun text flaw =>
          sound text ⟨absent, past, document, later, split, flaw⟩

/-- Only objects declare a provider, so that text and the keys of an object declare none. -/
theorem providers_listed {value : Json} {items : List Json} (read : iterate value = .ok items)
    {item : Json} {sourceId : String} (member : item ∈ items)
    (declares : declared? item = some sourceId) : value = .arr items := by
  cases value with
  | arr listed => rw [Except.ok.inj read]
  | str text =>
    obtain rfl := Except.ok.inj read
    obtain ⟨char, _, rfl⟩ := List.mem_map.mp member
    cases declares
  | obj members =>
    obtain rfl := Except.ok.inj read
    obtain ⟨key, _, rfl⟩ := List.mem_map.mp member
    cases declares
  | _ => cases read

theorem inventory_well_formed {inventory : DeclaredInventory}
    (sound : ∀ text, ¬DriftFlaw digits (reg.sources.map (·.sourceId)) inventory text)
    (nonempty : reg.sources ≠ []) :
    WellFormedInventory reg inventory.file ∧ WellFormedBacklog inventory.backlog := by
  have declares (source : RegisteredSource) (member : source ∈ reg.sources) :
      Declares inventory.file source.sourceId := by
    by_contra undeclared
    exact sound _ (.inr (.inl ⟨_, List.mem_map_of_mem member, undeclared, rfl⟩))
  obtain ⟨first, registered⟩ := List.exists_mem_of_ne_nil _ nonempty
  obtain ⟨members, items, held, read, item, among, declared⟩ := declares first registered
  have listed := providers_listed read among declared
  refine ⟨⟨members, items, held, ?_, fun source member => ?_⟩,
    backlog_well_formed fun text flaw => sound text (.inr (.inr (.inr (.inr (.inl flaw)))))⟩
  · cases found : members.lookup "providers" with
    | none =>
      rw [found] at listed
      obtain rfl : [] = items := arr.inj listed
      cases among
    | some value =>
      rw [found] at listed
      exact congrArg some listed
  · obtain ⟨others, shown, there, again, found⟩ := declares source member
    obtain rfl := obj.inj (JsonFile.holds.inj (held.symm.trans there))
    obtain rfl := Except.ok.inj (read.symm.trans again)
    exact found

end inventories

section totality

/-- `load_manifest` raises only what `_validate_one` catches. -/
def Caught {Value : Type} (run : Except PyError Value) : Prop :=
  ∀ err, run = .error err → ProviderManifests.caught err = true

theorem Caught.bind {Other Value : Type} {first : Except PyError Other}
    {next : Other → Except PyError Value} (starts : Caught first)
    (continues : ∀ value, Caught (next value)) : Caught (first >>= next) := by
  intro err raised
  cases first with
  | error other =>
    cases raised
    exact starts _ rfl
  | ok value => exact continues value err raised

theorem Caught.value {Value : Type} (value : Value) :
    Caught (pure value : Except PyError Value) := by
  intro err raised
  cases raised

theorem Caught.throw {Value : Type} {err : PyError}
    (kind : ProviderManifests.caught err = true) :
    Caught (throw err : Except PyError Value) := by
  intro other raised
  rwa [← Except.error.inj raised]

theorem Caught.mapM {Item Value : Type} {run : Item → Except PyError Value}
    (runs : ∀ item, Caught (run item)) (items : List Item) : Caught (items.mapM run) := by
  induction items with
  | nil => exact .value []
  | cons item rest ih =>
    rw [List.mapM_cons]
    exact (runs item).bind fun _ => ih.bind fun _ => .value _

theorem caught_iterate (value : Json) : Caught (iterate value) := by
  cases value <;> first | exact .value _ | exact .throw rfl

theorem caught_get (value : Json) (key : String) (default : Json) :
    Caught (getOf value key default) := by
  cases value <;> first | exact .value _ | exact .throw rfl

theorem caught_metadata (value : Json) :
    Caught (metadataOf value) := by
  have pairs (element : Json × Nat) : Caught (pairAt element) := by
    unfold pairAt
    split <;> first | exact .value _ | exact .throw rfl
  unfold metadataOf
  split
  · exact .value _
  · exact (caught_iterate _).bind fun _ => .mapM pairs _

theorem caught_load (digits : UInt64 → String) (doc : Members) :
    Caught (load digits doc) := by
  refine .bind ?_ fun manifest => .bind ?_ fun _ => .value _
  · unfold fromDict
    simp only
    split_ifs
    all_goals
      repeat' first
        | exact .throw rfl
        | exact caught_iterate _
        | exact caught_get _ _ _
        | exact caught_metadata _
        | exact .value _
        | refine .bind ?_ fun _ => ?_
  · unfold validateSafeLivePolicy
    split_ifs
    · exact .throw rfl
    · exact .value ()

section manifests

open ProviderManifests

/-- The steps of `_validate_one` that nothing guards can be taken on the document. -/
structure Checkable (python : Interpreter) (repository : Repository) (source : RegisteredSource)
    (doc : Members) (manifest : ProviderConformanceManifest) : Prop where
  capabilities : Ends (python.sorted manifest.capabilities)
  timeout : manifest.timeoutSeconds ≠ .null → source.timeout ≠ none →
    Ends (python.float manifest.timeoutSeconds)
  adapter : Ends (repository.place manifest.adapter)
  evidence : Ends (claimsOf doc)
  fields : ∀ names claims, entry doc "unknown" = .arr names → claimsOf doc = .ok claims →
    ∀ field ∈ fieldValues manifest, .str field.1 ∉ names → isEmpty field.2 = false →
      Ends (getOf (orEmpty claims) field.1.toUpper .null) ∧
        ∀ listed, getOf (orEmpty claims) field.1.toUpper .null = .ok listed →
          truthy listed = true → Ends (iterate listed)
  paths : ∀ claims key listed items item, claimsOf doc = .ok claims →
    getOf (orEmpty claims) key .null = .ok listed → iterate listed = .ok items → item ∈ items →
      Ends (repository.place (strOf python.reprFloat item))

variable {python : Interpreter} {repository : Repository} {source : RegisteredSource}
  {doc : Members} {manifest : ProviderConformanceManifest}

theorem ends_check_path {rel : String} (placed : Ends (repository.place rel)) :
    Ends (checkPath repository rel) := by
  refine placed.bind fun place _ => ?_
  cases place <;> exact .value _

theorem ends_evidence (checkable : Checkable python repository source doc manifest)
    (claimed : ∀ claims, source.conformance = some claims → claims.lookup "ADAPTER" ≠ none) :
    Ends (validateEvidence python repository source doc manifest.adapter) := by
  refine (ends_check_path checkable.adapter).bind fun problem _ =>
    checkable.evidence.bind fun value read => ?_
  cases value with
  | obj claims =>
    have columns : Ends (claimColumns.mapM (checkColumn python repository source claims)) := by
      refine .mapM fun column _ => ?_
      unfold checkColumn
      split
      · rename_i first rest held
        refine .bind (.mapM fun item member => ?_) fun _ _ => .value _
        have found : getOf (orEmpty (.obj claims)) column .null = .ok (.arr (first :: rest)) := by
          have filled : truthy (.obj claims) = true := by
            cases claims with
            | nil => cases held
            | cons head tail => rfl
          rw [orEmpty, if_pos filled, getOf, held]
          rfl
        have placed := checkable.paths _ column _ _ item read found rfl member
        refine (ends_check_path placed).bind fun problem _ => ?_
        cases problem with
        | none => simp only; split_ifs <;> exact .value _
        | some text => exact .value _
      · exact .value _
    refine columns.bind fun _ _ => .bind ?_ fun _ _ => .value _
    unfold checkAdapter
    split
    · exact .value _
    · rename_i held
      split
      · exact absurd ‹_› (claimed _ held)
      · split_ifs <;> exact .value _
  | _ => exact .value _

theorem ends_unknowns (checkable : Checkable python repository source doc manifest) :
    Ends (validateUnknowns python repository source doc manifest) := by
  unfold validateUnknowns
  split
  · rename_i names held
    refine checkable.evidence.bind fun claims read =>
      .bind (.mapM fun field member => ?_) fun _ _ => .value _
    unfold checkField
    simp only
    split_ifs with known empty vacant
    · exact .value _
    · exact .value _
    · exact .value _
    · obtain ⟨listed, loops⟩ := checkable.fields names claims held read field member known
        (Bool.eq_false_of_not_eq_true vacant)
      refine listed.bind fun value found => ?_
      split_ifs with unclaimed
      · exact .value _
      · refine .bind (loops value found (Bool.eq_true_of_not_eq_false unclaimed)) ?_
        intro items read'
        refine .bind (.mapM fun item among => ?_) fun _ _ => .value _
        have placed := checkable.paths claims _ value items item read found read' among
        exact (ends_check_path placed).bind fun _ _ => .value _
  · exact .value _

theorem ends_validate_one
    (checkable : ∀ manifest, load python.reprFloat doc = .ok manifest →
      Checkable python repository source doc manifest)
    (claimed : ∀ claims, source.conformance = some claims → claims.lookup "ADAPTER" ≠ none) :
    Ends (validateOne python repository source doc) := by
  unfold validateOne
  split
  · rename_i err raised
    rw [if_pos (caught_load _ _ err raised)]
    exact .value _
  · rename_i manifest loaded
    have checks := checkable manifest loaded
    refine .bind ?_ fun _ _ => .bind ?_ fun _ _ => (ends_evidence checks claimed).bind fun _ _ =>
      (ends_unknowns checks).bind fun _ _ => .bind ?_ fun _ _ => .value _
    · refine checks.capabilities.bind fun _ _ => .bind ?_ fun _ _ => .value _
      exact ⟨_, python.sorted_texts source.capabilities⟩
    · unfold timeoutDiffers
      split
      · exact .value _
      · exact .value _
      · rename_i timed declared
        exact (checks.timeout declared (by simp [timed])).bind fun _ _ => .value _
    · unfold validateVerification
      split
      · obtain ⟨live, there⟩ := (loadable_of_load loaded).objects "live" (by simp)
        have verified : Ends (getOf (orEmpty (entry doc "live")) "verified" .null) := by
          rw [there, orEmpty]
          split_ifs <;> exact .value _
        refine verified.bind fun _ _ => ?_
        split_ifs <;> exact .value _
      · exact .value _

end manifests

section inventories

open InventoryDrift

/-- The providers can be gone through, and the states of the backlog can be hashed. -/
structure Comparable (inventory : DeclaredInventory) : Prop where
  providers : ∀ members, inventory.file = .holds (.obj members) →
    Ends (iterate ((members.lookup "providers").getD (.arr [])))
  states : ∀ document entries, inventory.backlog = .holds document →
    entries? document = some entries → ∀ listed ∈ entries, ∀ sourceId members evidence,
      sourceId? listed = some (sourceId, members) →
        entry members "required_evidence" = .obj evidence → ∀ key ∈ requiredEvidence,
          (∀ items, entry evidence key ≠ .arr items) ∧ ∀ nested, entry evidence key ≠ .obj nested

variable {digits : UInt64 → String} {reg : AdapterRegistry}
  {inventory : DeclaredInventory}

theorem ends_entries {entries : List Json} {ids : List String}
    (states : ∀ listed ∈ entries, ∀ sourceId members evidence,
      sourceId? listed = some (sourceId, members) →
        entry members "required_evidence" = .obj evidence → ∀ key ∈ requiredEvidence,
          (∀ items, entry evidence key ≠ .arr items) ∧
            ∀ nested, entry evidence key ≠ .obj nested) :
    Ends (entriesProblems digits ids entries) := by
  induction entries generalizing ids with
  | nil => exact .value []
  | cons first rest ih =>
    refine .bind ?_ fun _ _ => (ih fun listed among =>
      states listed (by simp [among])).bind fun _ _ => .value _
    unfold entryProblems
    split
    · exact .value _
    · rename_i sourceId members named
      simp only
      split
      · rename_i evidence held
        refine .bind (.mapM fun key asked => ?_) fun _ _ => .value _
        obtain ⟨unlisted, flat⟩ := states first (by simp) _ _ _ named held key asked
        unfold stateProblems
        split
        · exact .value _
        · exact absurd ‹_› (unlisted _)
        · exact absurd ‹_› (flat _)
        · split_ifs <;> exact .value _
      · exact .value _

theorem ends_compare (comparable : Comparable inventory) :
    Ends (inventory.compare digits reg) := by
  have backlog : Ends (loadBacklog digits inventory.backlog) := by
    unfold loadBacklog
    split_ifs
    · exact .value _
    · split
      · exact .value _
      · rename_i entries held
        obtain ⟨document, there, listed⟩ := Option.bind_eq_some_iff.mp held
        have holds : inventory.backlog = .holds document := by
          cases file : inventory.backlog with
          | holds held =>
            rw [file] at there
            exact congrArg JsonFile.holds (Option.some.inj there)
          | _ =>
            rw [file] at there
            cases there
        exact (ends_entries (comparable.states document entries holds listed)).bind
          fun _ _ => .value _
  refine backlog.bind fun read _ => ?_
  simp only
  split
  · exact .value _
  · rename_i members held
    exact (comparable.providers members held).bind fun _ _ => .value _
  · exact .value _

end inventories

namespace CertificateBuilder

open InventoryDrift ProviderManifests IntegrationConformance

variable {sha256 : Json.Text → String} {python : Interpreter} {builder : CertificateBuilder}
  {cert : ConformanceCertificate}

/-- What a valid certificate says of the documents that were checked. -/
structure Sound (python : Interpreter) (builder : CertificateBuilder) : Prop where
  manifests : ∀ directory, builder.manifests = some directory →
    ∀ source ∈ builder.registry.sources, ∃ doc,
      (loadManifestDocuments directory.files).1.lookup source.sourceId = some doc ∧
        WellFormedManifest python doc
  inventory : ∀ inventory, builder.inventory = some inventory →
    builder.inventoryDriftReportOnly = false →
      WellFormedInventory builder.registry inventory.file ∧ WellFormedBacklog inventory.backlog

theorem sound_of_valid (built : builder.build sha256 python = .ok cert)
    (valid : cert.valid = true) : Sound python builder := by
  have silent (text : String) : ¬((Flaw python builder text ∨
      builder.inventoryDriftReportOnly = false ∧ Drifts python builder text) ∨
        Lacks python builder text) := by
    rw [← mem_failures_iff built, (valid_iff built).mp valid]
    exact List.not_mem_nil
  constructor
  · intro directory asked source member
    have sound (text : String) (flaw : DirectoryFlaw python builder.repository builder.registry
        directory.files text) : False := silent text (.inl (.inl (.inr ⟨directory, asked, flaw⟩)))
    cases held : (loadManifestDocuments directory.files).1.lookup source.sourceId with
    | none =>
      exact absurd (.inr (.inr ⟨source, member, "missing", rfl, by rw [held]⟩)) (sound _)
    | some doc =>
      refine ⟨doc, rfl, @manifest_well_formed _ builder.repository source _ fun reason flaw => ?_⟩
      exact sound _ (.inr (.inr ⟨source, member, reason, rfl, by rw [held]; exact flaw⟩))
  · intro inventory asked counts
    have nonempty : builder.registry.sources ≠ [] :=
      fun empty => silent _ (.inr (.inl ⟨empty, rfl⟩))
    exact inventory_well_formed (fun text flaw =>
      silent text (.inl (.inr ⟨counts, inventory, asked, flaw⟩))) nonempty

/-- The steps of `build` that nothing guards can be taken. -/
structure Walkable (python : Interpreter) (builder : CertificateBuilder) : Prop where
  claimed : ∀ source ∈ builder.registry.sources, ∀ claim ∈ claimedPaths source,
    Ends (builder.repository.place claim.2.2)
  adapters : ∀ source ∈ builder.registry.sources, ∀ claims, source.conformance = some claims →
    claims.lookup "ADAPTER" ≠ none
  required : ∀ column ∈ builder.required, column ∈ columns
  unknown : ∀ directory, builder.manifests = some directory → ∀ source ∈ builder.registry.sources,
    ∀ doc, (loadManifestDocuments directory.files).1.lookup source.sourceId = some doc →
      Ends (iterate ((doc.lookup "unknown").getD (.arr [])) >>= python.sorted)
  manifests : ∀ directory, builder.manifests = some directory →
    ∀ source ∈ builder.registry.sources, ∀ doc,
      (loadManifestDocuments directory.files).1.lookup source.sourceId = some doc →
        ∀ manifest, load python.reprFloat doc = .ok manifest →
          Checkable python builder.repository source doc manifest
  inventory : ∀ inventory, builder.inventory = some inventory → Comparable inventory

theorem ends_required {surveys : List Survey} (required : ∀ column ∈ builder.required,
    column ∈ columns) :
    Ends (requiredFailures builder.required (surveys.map (Survey.record python builder))) := by
  refine .bind (.mapM fun record member => .mapM fun column asked => ?_) fun _ _ => .value _
  obtain ⟨survey, _, rfl⟩ := List.mem_map.mp member
  have audited : (audit survey.source).lookup column ≠ none := by
    intro absent
    have differs := List.lookup_eq_none_iff.mp absent _
      (List.mem_map_of_mem (required column asked))
    simp at differs
  have status := status_of_enriched (survey.evidence python builder) (audit survey.source) column
  unfold requiredCell
  split
  · rename_i absent
    rw [Survey.record] at absent
    rw [absent] at status
    split_ifs at status
    · cases status
    · exact absurd (Option.map_eq_none_iff.mp status.symm) audited
  · split_ifs <;> exact .value _

theorem ends_build (walkable : Walkable python builder) : Ends (builder.build sha256 python) := by
  have surveyed : Ends (survey builder) := by
    refine .mapM fun source member => .bind (.mapM fun claim listed => ?_) fun _ _ => .value _
    refine (walkable.claimed source member claim listed).bind fun place _ => ?_
    cases place <;> exact .value _
  have compared : Ends (builder.drift python) := by
    unfold CertificateBuilder.drift
    split
    · exact .value _
    · rename_i inventory asked
      exact (ends_compare (walkable.inventory inventory asked)).bind fun _ _ => .value _
  have validated : Ends (manifestFailures python builder) := by
    unfold manifestFailures
    split
    · exact .value _
    · rename_i directory asked
      refine .bind (.mapM fun source member => ?_) fun _ _ => .value _
      unfold checkManifest
      split
      · exact .value _
      · rename_i doc held
        exact ends_validate_one (walkable.manifests directory asked source member doc held)
          (walkable.adapters source member)
  have recorded (failures : List String) :
      Ends (manifestSection python builder sha256 failures) := by
    unfold manifestSection
    split
    · exact .value _
    · rename_i directory asked
      refine .bind (.mapM fun source member => .bind ?_ fun _ _ => .value _) fun _ _ => .value _
      unfold manifestEntry
      split
      · exact .value _
      · rename_i doc held
        obtain ⟨sorted, ran⟩ := walkable.unknown directory asked source member doc held
        obtain ⟨items, read, ran⟩ := bind_ok ran
        refine .bind ⟨items, read⟩ fun other same => .bind ?_ fun _ _ => .value _
        obtain rfl := Except.ok.inj (read.symm.trans same)
        exact ⟨sorted, ran⟩
  refine .bind ?_ fun _ _ => .value _
  exact surveyed.bind fun _ _ => compared.bind fun _ _ => validated.bind fun _ _ =>
    (recorded _).bind fun _ _ => (ends_required walkable.required).bind fun _ _ => .value _

/-- A valid certificate is of well-formed documents, where a drift counts also of the inventory
and the backlog. Documents on which no unguarded step raises get a certificate. -/
theorem documents_fail_closed (sha256 : Json.Text → String) (python : Interpreter)
    (builder : CertificateBuilder) :
    (∀ cert, builder.build sha256 python = .ok cert → cert.valid = true →
      Sound python builder) ∧
        (Walkable python builder → ∃ cert, builder.build sha256 python = .ok cert) :=
  ⟨fun _ built valid => sound_of_valid built valid, ends_build⟩

theorem sample_walkable : Walkable plainInterpreter lone := by
  have only (directory : ManifestDirectory) (source : RegisteredSource) (doc : Members)
      (asked : lone.manifests = some directory)
      (held : (loadManifestDocuments directory.files).1.lookup source.sourceId = some doc) :
      doc = sampleManifest := by
    obtain rfl := Option.some.inj asked
    have found := Dict.mem_of_lookup held
    exact (Prod.mk.inj (List.mem_singleton.mp found)).2
  refine ⟨fun _ _ _ _ => .value _, ?_, by decide, ?_, ?_, ?_⟩
  · intro source member claims held
    obtain rfl := List.mem_singleton.mp member
    obtain rfl := Option.some.inj held
    decide
  · intro directory asked source _ doc held
    obtain rfl := only directory source doc asked held
    exact ⟨_, rfl⟩
  · intro directory asked source _ doc held manifest loaded
    obtain rfl := only directory source doc asked held
    obtain rfl := Except.ok.inj loaded
    refine ⟨⟨_, rfl⟩, fun declared => absurd rfl declared, .value _, ⟨_, rfl⟩, ?_,
      fun _ _ _ _ _ _ _ _ _ => .value _⟩
    intro names claims unknown _ field member unlisted
    obtain rfl := arr.inj unknown
    have named : field.1 ∈ unverifiedFields := List.mem_map_of_mem (f := Prod.fst) member
    exact absurd (List.mem_map_of_mem named) unlisted
  · intro inventory asked
    cases asked

/-- The checks of a consistent manifest. -/
theorem sample_documents_sound :
    Sound plainInterpreter lone ∧
      ∃ cert, lone.build Json.Text.coded plainInterpreter =
        .ok cert :=
  ⟨(documents_fail_closed Json.Text.coded plainInterpreter lone).1
    _ rfl rfl, (documents_fail_closed Json.Text.coded plainInterpreter
      lone).2 sample_walkable⟩

/-- A manifest whose unknown fields are no list makes `build` raise, and an inventory that
cannot be read leaves a certificate valid where a drift is only reported. -/
theorem malformed_documents_escape :
    (∃ err, (sampleBuilder (sampleManifest.set "unknown" .null) []).build Json.Text.coded
      plainInterpreter = .error err) ∧
    ∃ cert, { lone with
        inventory := some { path := "inventory.json", file := .unreadable }
        inventoryDriftReportOnly := true }.build Json.Text.coded plainInterpreter =
          .ok cert ∧ cert.valid = true :=
  ⟨⟨_, rfl⟩, _, rfl, rfl⟩

end CertificateBuilder

end totality

end Ois.Integration
