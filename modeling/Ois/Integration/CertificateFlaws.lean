import Ois.Integration.RepositoryCertificate
import Ois.Library.Histories

/-!
# What a certificate fails for

Every failure names a flaw of what the certificate is made of: an evidence path that leads nowhere,
a manifest file that cannot be taken, a manifest that differs from the registry or the repository,
a drift of the inventory that counts, or a cell of the report that the policy requires.
-/

namespace Ois.Integration

open Ois.Library Ois.Kernel Ois.Infrastructure ProviderConformanceManifest

section runs

variable {Item Value : Type} {run : Item → Except PyError Value} {items : List Item}

/-- A loop that ends ran for every item, and its results are the ones of the items. -/
theorem ran_of_mapM {values : List Value} (ends : items.mapM run = .ok values) :
    (∀ item ∈ items, ∃ value, run item = .ok value) ∧
      ∀ value, value ∈ values ↔ ∃ item ∈ items, run item = .ok value := by
  induction items generalizing values with
  | nil =>
    obtain rfl : [] = values := Except.ok.inj ends
    simp
  | cons item rest ih =>
    rw [List.mapM_cons] at ends
    obtain ⟨first, ran, continued⟩ := bind_ok ends
    obtain ⟨others, after, ret⟩ := bind_ok continued
    obtain rfl : first :: others = values := Except.ok.inj ret
    obtain ⟨runs, results⟩ := ih after
    constructor
    · simpa [ran] using runs
    · intro value
      simp only [List.mem_cons, results, exists_eq_or_imp, ran, Except.ok.injEq]
      exact or_congr_left ⟨Eq.symm, Eq.symm⟩

/-- A loop of checks reports what each of them reports. -/
theorem mem_checks_iff {check : Item → Except PyError (List String)} {found : List (List String)}
    {flawed : Item → String → Prop} (ran : items.mapM check = .ok found)
    (each : ∀ item ∈ items, ∀ texts, check item = .ok texts →
      ∀ text, text ∈ texts ↔ flawed item text) (text : String) :
    text ∈ found.flatten ↔ ∃ item ∈ items, flawed item text := by
  obtain ⟨answers, results⟩ := ran_of_mapM ran
  rw [List.mem_flatten]
  constructor
  · rintro ⟨texts, among, mem⟩
    obtain ⟨item, asked, answered⟩ := (results texts).mp among
    exact ⟨item, asked, (each item asked texts answered text).mp mem⟩
  · rintro ⟨item, asked, flaw⟩
    obtain ⟨texts, answered⟩ := answers item asked
    exact ⟨texts, (results texts).mpr ⟨item, asked, answered⟩,
      (each item asked texts answered text).mpr flaw⟩

end runs

namespace ProviderManifests

section flaws

variable (python : Interpreter) (repository : Repository) (source : RegisteredSource)
  (doc : Members)

/-- A path that leads out of the repository, or to no file. -/
def Misplaced (rel problem : String) : Prop :=
  repository.place rel = .ok .outside ∧ problem = "evidence-outside-root=" ++ rel ∨
    repository.place rel = .ok .missing ∧ problem = "evidence-missing=" ++ rel

def Placed (rel : String) : Prop := ∃ relative, repository.place rel = .ok (.file relative)

/-- The metadata of the source lists the path as evidence of the column. -/
def Registered (column rel : String) : Prop :=
  rel ∈ ((source.conformance.getD []).lookup column).elim [] (·.evidence)

instance (column rel : String) : Decidable (Registered source column rel) :=
  inferInstanceAs (Decidable (_ ∈ _))

/-- A path that is claimed as evidence of a column. -/
def ClaimFlaw (column : String) (item : Json) (reason : String) : Prop :=
  (∃ problem, Misplaced repository (strOf python.reprFloat item) problem ∧
      reason = column ++ "-" ++ problem) ∨
    Placed repository (strOf python.reprFloat item) ∧
      ¬Registered source column (strOf python.reprFloat item) ∧
        reason = column ++ "-evidence-not-in-registry-metadata=" ++ strOf python.reprFloat item

def ColumnFlaw (claims : Members) (column reason : String) : Prop :=
  match claims.lookup column with
  | some (.arr (first :: rest)) =>
    ∃ item ∈ first :: rest, ClaimFlaw python repository source column item reason
  | _ => reason = column ++ "-evidence-missing"

/-- The evidence of the manifest is none of the repository, or none of the metadata. -/
def EvidenceFlaw (adapterPath reason : String) : Prop :=
  (∃ problem, Misplaced repository adapterPath problem ∧ reason = "adapter-" ++ problem) ∨
    match claimsOf doc with
    | .ok (.obj claims) =>
      (∃ column ∈ claimColumns, ColumnFlaw python repository source claims column reason) ∨
        source.conformance ≠ none ∧ ¬Registered source "ADAPTER" adapterPath ∧
          reason = "adapter-path-differs-from-registry-metadata"
    | _ => reason = "evidence-claims-missing"

/-- A field that nothing verifies is neither empty and declared unknown, nor evidenced. -/
def FieldFlaw (names : List Json) (claims : Json) (field : String × Json) (reason : String) :
    Prop :=
  if .str field.1 ∈ names then
    isEmpty field.2 = false ∧ reason = field.1 ++ "-declared-unknown-but-populated"
  else if isEmpty field.2 then reason = field.1 ++ "-neither-unknown-nor-evidenced"
  else
    ∃ evidence, getOf claims field.1.toUpper .null = .ok evidence ∧
      if truthy evidence = false then reason = field.1 ++ "-neither-unknown-nor-evidenced"
      else
        ∃ items, iterate evidence = .ok items ∧ ∃ item ∈ items, ∃ problem,
          Misplaced repository (strOf python.reprFloat item) problem ∧
            reason = field.1 ++ "-" ++ problem

/-- What is declared unknown is no list of fields that nothing verifies. -/
def UnknownFlaw (manifest : ProviderConformanceManifest) (reason : String) : Prop :=
  match entry doc "unknown" with
  | .arr names =>
    (∃ claims, claimsOf doc = .ok claims ∧ ∃ field ∈ fieldValues manifest,
        FieldFlaw python repository names (orEmpty claims) field reason) ∨
      ∃ name ∈ names, name ∉ unverifiedFields.map Json.str ∧
        reason = "unknown-field-not-recognised=" ++ strOf python.reprFloat name
  | _ => reason = "unknown-list-missing"

/-- The manifest claims that something is verified. -/
def VerificationFlaw (reason : String) : Prop :=
  match entry doc "verification" with
  | .obj states =>
    (∃ key ∈ verificationKeys, states.lookup key ≠ some (.str "UNKNOWN") ∧
        reason = "unsupported-verification-claim:" ++ key) ∨
      (∃ verified, getOf (orEmpty (entry doc "live")) "verified" .null = .ok verified ∧
        ¬(pyEquals verified .null ∨ pyEquals verified (.bool false))) ∧
          reason = "unsupported-verification-claim:live.verified"
  | _ => reason = "verification-block-missing"

/-- The manifest of a source cannot be loaded, or differs from the source or the repository. -/
def ManifestFlaw (reason : String) : Prop :=
  match load python.reprFloat doc with
  | .error err => reason = "invalid:" ++ err.message
  | .ok manifest =>
    manifest.registration ≠ registrationFactory ∧
        reason = "registration-not-canonical-factory" ∨
      capabilitiesDiffer python source manifest = .ok true ∧
        reason = "capabilities-differ-from-SourceSpec" ∨
      (∃ field ∈ [("protocol", source.protocol), ("version", source.version)],
        manifest.metadata.reverse.lookup (.str field.1) ≠ some (.str field.2) ∧
          reason = field.1 ++ "-differs-from-SourceSpec") ∨
      timeoutDiffers python source manifest = .ok true ∧
        reason = "timeout-differs-from-adapter" ∨
      EvidenceFlaw python repository source doc manifest.adapter reason ∨
      UnknownFlaw python repository doc manifest reason ∨ VerificationFlaw doc reason

/-- The file holds a document of the provider. -/
def Names (provider : String) (file : String × Option Json) : Prop :=
  (file.2.bind provider?).map Prod.fst = some provider

/-- A file of the directory that is not taken, after the files before it. -/
def FileFlaw (past : List (String × Option Json)) (file : String × Option Json) (text : String) :
    Prop :=
  match file.2 with
  | none => text = fail file.1 "unreadable-json"
  | some document =>
    match provider? document with
    | none => text = fail file.1 "missing-provider-id"
    | some (provider, _) =>
      (∃ other ∈ past, Names provider other) ∧ text = fail provider "duplicate"

/-- What a directory of manifests fails for, next to the registry. -/
def DirectoryFlaw (registry : AdapterRegistry) (files : List (String × Option Json))
    (text : String) : Prop :=
  Since FileFlaw (fun _ _ => False) files text ∨
    (∃ provider, (∃ file ∈ files, Names provider file) ∧
      provider ∉ registry.sources.map (·.sourceId) ∧
        text = fail provider "orphan-manifest-not-in-registry") ∨
    ∃ source ∈ registry.sources, ∃ reason, text = fail source.sourceId reason ∧
      match (loadManifestDocuments files).1.lookup source.sourceId with
      | none => reason = "missing"
      | some doc => ManifestFlaw python repository source doc reason

end flaws

variable {python : Interpreter} {repository : Repository} {source : RegisteredSource}
  {doc : Members} {manifest : ProviderConformanceManifest}

theorem misplaced_iff {rel : String} {found : Option String}
    (ran : checkPath repository rel = .ok found) (problem : String) :
    Misplaced repository rel problem ↔ found = some problem := by
  obtain ⟨place, placed, ret⟩ := bind_ok ran
  unfold Misplaced
  rw [placed]
  cases place with
  | outside | missing | file =>
    obtain rfl := Except.ok.inj ret
    simp [eq_comm]

theorem placed_iff {rel : String} {found : Option String}
    (ran : checkPath repository rel = .ok found) : Placed repository rel ↔ found = none := by
  obtain ⟨place, placed, ret⟩ := bind_ok ran
  unfold Placed
  rw [placed]
  cases place with
  | outside | missing | file =>
    obtain rfl := Except.ok.inj ret
    simp

/-- The failures of a check of the source are the flaws of a kind. -/
def Reports (source : RegisteredSource) (texts : List String) (flawed : String → Prop) : Prop :=
  ∀ text, text ∈ texts ↔ ∃ reason, text = fail source.sourceId reason ∧ flawed reason

theorem Reports.append {texts others : List String} {flawed other : String → Prop}
    (first : Reports source texts flawed) (second : Reports source others other) :
    Reports source (texts ++ others) fun reason => flawed reason ∨ other reason := by
  intro text
  rw [List.mem_append, first, second, ← exists_or]
  simp only [and_or_left]

theorem Reports.congr {texts : List String} {flawed other : String → Prop}
    (reports : Reports source texts flawed) (same : ∀ reason, flawed reason ↔ other reason) :
    Reports source texts other := by
  intro text
  simp only [reports text, same]

theorem reports_one (reason : String) :
    Reports source [fail source.sourceId reason] (· = reason) := by
  intro text
  simp

theorem reports_unless (condition : Prop) [Decidable condition] (reason : String) :
    Reports source (if condition then [] else [fail source.sourceId reason]) fun said =>
      ¬condition ∧ said = reason := by
  intro text
  split_ifs with holds <;> simp [holds]

theorem reports_if (condition : Prop) [Decidable condition] (reason : String) :
    Reports source (if condition then [fail source.sourceId reason] else []) fun said =>
      condition ∧ said = reason := by
  intro text
  split_ifs with holds <;> simp [holds]

theorem reports_ite {condition : Prop} [Decidable condition] {reason : String}
    {texts : List String} (ran : (if condition then .ok [] else .ok [fail source.sourceId reason] :
      Except PyError (List String)) = .ok texts) :
    Reports source texts fun said => ¬condition ∧ said = reason := by
  have shape : (if condition then [] else [fail source.sourceId reason]) = texts := by
    split_ifs at ran ⊢ <;> exact Except.ok.inj ran
  exact shape ▸ reports_unless condition reason

theorem appended_of_ite {condition : Prop} [Decidable condition] {texts more all : List String}
    (ran : (if condition then .ok texts else .ok (texts ++ more) : Except PyError (List String)) =
      .ok all) : texts ++ (if condition then [] else more) = all := by
  split_ifs at ran ⊢
  · rw [List.append_nil]
    exact Except.ok.inj ran
  · exact Except.ok.inj ran

theorem reports_filtered {Item : Type} (source : RegisteredSource) (items : List Item)
    (kept : Item → Prop) [DecidablePred kept] (say : Item → String) :
    Reports source ((items.filter kept).map fun item => fail source.sourceId (say item))
      fun reason => ∃ item ∈ items, kept item ∧ reason = say item := by
  intro text
  simp only [List.mem_map, List.mem_filter, decide_eq_true_eq]
  constructor
  · rintro ⟨item, ⟨mem, keeps⟩, rfl⟩
    exact ⟨_, rfl, item, mem, keeps, rfl⟩
  · rintro ⟨_, rfl, item, mem, keeps, rfl⟩
    exact ⟨item, ⟨mem, keeps⟩, rfl⟩

/-- The flaws of the items of a loop. -/
theorem reports_loop {Item : Type} {items : List Item}
    {check : Item → Except PyError (List String)} {found : List (List String)}
    {flawed : Item → String → Prop} (ran : items.mapM check = .ok found)
    (each : ∀ item ∈ items, ∀ texts, check item = .ok texts →
      Reports source texts (flawed item)) :
    Reports source found.flatten fun reason => ∃ item ∈ items, flawed item reason := by
  intro text
  rw [mem_checks_iff ran each]
  constructor
  · rintro ⟨item, asked, reason, said, flaw⟩
    exact ⟨reason, said, item, asked, flaw⟩
  · rintro ⟨reason, said, item, asked, flaw⟩
    exact ⟨item, asked, reason, said, flaw⟩

theorem reports_path {rel before : String} {found : Option String}
    (ran : checkPath repository rel = .ok found) :
    Reports source (found.toList.map fun problem => fail source.sourceId (before ++ problem))
      fun reason => ∃ problem, Misplaced repository rel problem ∧ reason = before ++ problem := by
  intro text
  simp only [List.mem_map, Option.mem_toList, misplaced_iff ran]
  constructor
  · rintro ⟨problem, misplaced, rfl⟩
    exact ⟨_, rfl, problem, misplaced, rfl⟩
  · rintro ⟨_, said, problem, misplaced, rfl⟩
    exact ⟨problem, misplaced, said.symm⟩

theorem reports_claimed {column : String} {item : Json} {texts : List String}
    (ran : checkClaimed python repository source column item = .ok texts) :
    Reports source texts (ClaimFlaw python repository source column item) := by
  obtain ⟨found, checked, ret⟩ := bind_ok ran
  unfold ClaimFlaw
  simp only [misplaced_iff checked, placed_iff checked]
  cases found with
  | some problem =>
    obtain rfl := Except.ok.inj ret
    exact (reports_one _).congr fun reason => by simp
  | none => exact (reports_ite ret).congr fun reason => by simp [Registered]

theorem reports_column {claims : Members} {column : String} {texts : List String}
    (ran : checkColumn python repository source claims column = .ok texts) :
    Reports source texts (ColumnFlaw python repository source claims column) := by
  unfold checkColumn at ran
  split at ran
  · rename_i listed
    obtain ⟨found, checked, ret⟩ := bind_ok ran
    obtain rfl := Except.ok.inj ret
    exact (reports_loop checked fun item _ texts answered => reports_claimed answered).congr
      fun reason => by rw [ColumnFlaw, listed]
  · rename_i unlisted
    obtain rfl := Except.ok.inj ran
    refine (reports_one _).congr fun reason => ?_
    unfold ColumnFlaw
    split
    · exact absurd ‹_› (unlisted _ _)
    · rfl

theorem reports_adapter {adapterPath : String} {texts : List String}
    (ran : checkAdapter source adapterPath = .ok texts) :
    Reports source texts fun reason => source.conformance ≠ none ∧
      ¬Registered source "ADAPTER" adapterPath ∧
        reason = "adapter-path-differs-from-registry-metadata" := by
  unfold checkAdapter at ran
  unfold Registered
  split at ran
  · rename_i undescribed
    obtain rfl := Except.ok.inj ran
    intro text
    simp [undescribed]
  · rename_i claims described
    split at ran
    · cases ran
    · rename_i claim held
      exact (reports_ite ran).congr fun reason => by simp [described, held]

theorem reports_evidence {adapterPath : String} {texts : List String}
    (ran : validateEvidence python repository source doc adapterPath = .ok texts) :
    Reports source texts (EvidenceFlaw python repository source doc adapterPath) := by
  obtain ⟨problem, checked, ran⟩ := bind_ok ran
  obtain ⟨value, read, ran⟩ := bind_ok ran
  have adapter := @reports_path _ source _ "adapter-" _ checked
  unfold EvidenceFlaw
  rw [read]
  split at ran
  · obtain ⟨columns, columnsRan, ran⟩ := bind_ok ran
    obtain ⟨texts, adapterRan, ret⟩ := bind_ok ran
    obtain rfl := Except.ok.inj ret
    have columned := reports_loop columnsRan fun column _ texts ran => reports_column ran
    exact ((adapter.append columned).append (reports_adapter adapterRan)).congr
      fun reason => or_assoc
  · rename_i unheld
    obtain rfl := Except.ok.inj ran
    refine (adapter.append (reports_one _)).congr fun reason => or_congr_right ?_
    split
    · exact absurd (Except.ok.inj ‹_›) (unheld _)
    · rfl

theorem reports_field {names : List Json} {claims : Json} {field : String × Json}
    {texts : List String}
    (ran : checkField python repository source names claims field = .ok texts) :
    Reports source texts (FieldFlaw python repository names claims field) := by
  unfold checkField at ran
  unfold FieldFlaw
  dsimp only at ran
  by_cases declared : Json.str field.1 ∈ names
  · rw [if_pos declared] at ran
    exact (reports_ite ran).congr fun reason => by simp [declared]
  · rw [if_neg declared] at ran
    by_cases bare : isEmpty field.2 = true
    · rw [if_pos bare] at ran
      obtain rfl := Except.ok.inj ran
      exact (reports_one _).congr fun reason => by simp [declared, bare]
    · rw [if_neg bare] at ran
      obtain ⟨evidence, held, ran⟩ := bind_ok ran
      by_cases none : truthy evidence = false
      · rw [if_pos none] at ran
        obtain rfl := Except.ok.inj ran
        exact (reports_one _).congr fun reason => by simp [declared, bare, held, none]
      · rw [if_neg none] at ran
        obtain ⟨items, read, ran⟩ := bind_ok ran
        obtain ⟨found, checked, ret⟩ := bind_ok ran
        obtain rfl := Except.ok.inj ret
        have each (item : Json) (_ : item ∈ items) (texts : List String)
            (ran : checkUnverified python repository source field.1 item = .ok texts) :=
          let ⟨problem, placed, ret⟩ := bind_ok ran
          Except.ok.inj ret ▸ @reports_path _ source _ (field.1 ++ "-") problem placed
        exact (reports_loop checked each).congr fun reason => by
          simp [declared, bare, held, none, read]

theorem reports_unknown {texts : List String}
    (ran : validateUnknowns python repository source doc manifest = .ok texts) :
    Reports source texts (UnknownFlaw python repository doc manifest) := by
  unfold validateUnknowns at ran
  split at ran
  · rename_i names listed
    obtain ⟨claims, claimed, ran⟩ := bind_ok ran
    obtain ⟨fields, fieldsRan, ret⟩ := bind_ok ran
    obtain rfl := Except.ok.inj ret
    have foreign := reports_filtered source names
      (fun name => name ∉ unverifiedFields.map Json.str)
      fun name => "unknown-field-not-recognised=" ++ strOf python.reprFloat name
    exact ((reports_loop fieldsRan fun field _ texts ran =>
      reports_field ran).append foreign).congr fun reason => by
        simp only [UnknownFlaw, listed, claimed, Except.ok.injEq, exists_eq_left']
  · rename_i unlisted
    obtain rfl := Except.ok.inj ran
    refine (reports_one _).congr fun reason => ?_
    unfold UnknownFlaw
    split
    · exact absurd ‹_› (unlisted _)
    · rfl

theorem reports_verification {texts : List String}
    (ran : validateVerification source doc = .ok texts) :
    Reports source texts (VerificationFlaw doc) := by
  unfold validateVerification at ran
  split at ran
  · rename_i states held
    obtain ⟨verified, read, ret⟩ := bind_ok ran
    have claims := reports_filtered source verificationKeys
      (fun key => states.lookup key ≠ some (.str "UNKNOWN"))
      fun key => "unsupported-verification-claim:" ++ key
    rw [← appended_of_ite ret]
    exact (claims.append (reports_unless _ _)).congr fun reason => by
      simp only [VerificationFlaw, held, read, Except.ok.injEq, exists_eq_left']
  · rename_i unheld
    obtain rfl := Except.ok.inj ran
    refine (reports_one _).congr fun reason => ?_
    unfold VerificationFlaw
    split
    · exact absurd ‹_› (unheld _)
    · rfl

theorem reports_manifest {texts : List String}
    (ran : validateOne python repository source doc = .ok texts) :
    Reports source texts (ManifestFlaw python repository source doc) := by
  unfold validateOne at ran
  split at ran
  · rename_i err refused
    split_ifs at ran
    obtain rfl := Except.ok.inj ran
    exact (reports_one _).congr fun reason => by rw [ManifestFlaw, refused]
  · rename_i manifest loaded
    obtain ⟨differ, compared, ran⟩ := bind_ok ran
    obtain ⟨late, timed, ran⟩ := bind_ok ran
    obtain ⟨evidence, evidenced, ran⟩ := bind_ok ran
    obtain ⟨unknowns, named, ran⟩ := bind_ok ran
    obtain ⟨verification, verified, ret⟩ := bind_ok ran
    obtain rfl := Except.ok.inj ret
    have spec := reports_filtered source
      [("protocol", source.protocol), ("version", source.version)] (fun field =>
        manifest.metadata.reverse.lookup (.str field.1) ≠ some (.str field.2))
      fun field => field.1 ++ "-differs-from-SourceSpec"
    have registration : Reports source _ _ :=
      reports_unless (manifest.registration = registrationFactory)
        "registration-not-canonical-factory"
    have all := (((((registration.append
      (reports_if (differ = true) "capabilities-differ-from-SourceSpec")).append spec).append
        (reports_if (late = true) "timeout-differs-from-adapter")).append
          (reports_evidence evidenced)).append (reports_unknown named)).append
            (reports_verification verified)
    exact all.congr fun reason => by
      simp only [ManifestFlaw, loaded, compared, timed, Except.ok.injEq, or_assoc, ne_eq]

/-- By induction on the files: the index has a document of the providers that they name, and
reports the files that it does not take. -/
theorem load_documents_iff (files : List (String × Option Json)) :
    (∀ provider, ((loadManifestDocuments files).1.lookup provider).isSome = true ↔
      ∃ file ∈ files, Names provider file) ∧
    ∀ text, text ∈ (loadManifestDocuments files).2 ↔
      Since FileFlaw (fun _ _ => False) files text := by
  induction files using List.reverseRecOn with
  | nil => simp [loadManifestDocuments, Since]
  | append_singleton past file ih =>
    obtain ⟨taken, problems⟩ := ih
    have step : loadManifestDocuments (past ++ [file]) =
        indexFile (loadManifestDocuments past) file := by
      simp [loadManifestDocuments]
    simp only [since_concat, not_false_eq_true, and_true, List.mem_append, List.mem_singleton,
      or_and_right, exists_or, exists_eq_left, ← problems, ← taken]
    rw [step]
    unfold indexFile FileFlaw Names
    cases read : file.2 with
    | none => simp
    | some document =>
      cases named : provider? document with
      | none => simp [named]
      | some found =>
        obtain ⟨provider, members⟩ := found
        have before : (∃ other ∈ past, Names provider other) ↔
            ((loadManifestDocuments past).1.lookup provider).isSome = true := (taken provider).symm
        unfold Names at before
        simp only [named, Option.bind_some, Option.map_some, Option.some.injEq, before]
        by_cases duplicate : ((loadManifestDocuments past).1.lookup provider).isSome = true
        · simp only [if_pos duplicate]
          refine ⟨fun other => ⟨Or.inl, ?_⟩, fun text => by simp [duplicate]⟩
          rintro (held | rfl)
          · exact held
          · exact duplicate
        · simp only [if_neg duplicate]
          refine ⟨fun other => ?_, fun text => by simp [duplicate]⟩
          rw [Dict.lookup_append, Option.isSome_or, Bool.or_eq_true]
          by_cases same : other = provider
          · simp [same]
          · simp [List.lookup_cons, beq_eq_false_iff_ne.mpr same, Ne.symm same]

theorem mem_orphans_iff {reg : AdapterRegistry} {files : List (String × Option Json)}
    {text : String} : text ∈ orphans reg (loadManifestDocuments files).1 ↔
      ∃ provider, (∃ file ∈ files, Names provider file) ∧
        provider ∉ reg.sources.map (·.sourceId) ∧
          text = fail provider "orphan-manifest-not-in-registry" := by
  simp only [orphans, List.mem_map, mem_sorted_set, List.mem_filter, decide_eq_true_eq,
    ← (load_documents_iff files).1]
  constructor
  · rintro ⟨provider, ⟨held, unregistered⟩, rfl⟩
    exact ⟨provider, by simpa [Dict.keys] using held, unregistered, rfl⟩
  · rintro ⟨provider, held, unregistered, rfl⟩
    exact ⟨provider, ⟨by simpa [Dict.keys] using held, unregistered⟩, rfl⟩

theorem mem_validate_iff {reg : AdapterRegistry} {files : List (String × Option Json)}
    {found : List String} (ran : validate python repository reg files = .ok found)
    (text : String) : text ∈ found ↔ DirectoryFlaw python repository reg files text := by
  obtain ⟨checked, checkedRan, ret⟩ := bind_ok ran
  obtain rfl := Except.ok.inj ret
  have each (source : RegisteredSource) (texts : List String)
      (ran : checkManifest python repository source (loadManifestDocuments files).1 =
        .ok texts) : Reports source texts fun reason =>
      match (loadManifestDocuments files).1.lookup source.sourceId with
      | none => reason = "missing"
      | some doc => ManifestFlaw python repository source doc reason := by
    unfold checkManifest at ran
    cases held : (loadManifestDocuments files).1.lookup source.sourceId with
    | none =>
      rw [held] at ran
      obtain rfl := Except.ok.inj ran
      exact reports_one _
    | some doc =>
      rw [held] at ran
      exact reports_manifest ran
  rw [mem_sorted_set, List.mem_append, List.mem_append, or_assoc]
  exact or_congr ((load_documents_iff files).2 text) (or_congr mem_orphans_iff
    (mem_checks_iff checkedRan (fun source _ => each source) text))

end ProviderManifests

namespace InventoryDrift

variable (digits : UInt64 → String)

/-- The file declares a provider of the identifier. -/
def Declares (file : JsonFile) (sourceId : String) : Prop :=
  ∃ members items, file = .holds (.obj members) ∧
    iterate ((members.lookup "providers").getD (.arr [])) = .ok items ∧
      ∃ item ∈ items, declared? item = some sourceId

def identifiers (entries : List Json) : List String := (entries.filterMap sourceId?).map Prod.fst

/-- The entries of a backlog. -/
def entriesIn (file : JsonFile) : Option (List Json) := (documentIn file).bind entries?

def Lists (file : JsonFile) (sourceId : String) : Prop :=
  ∃ entries, entriesIn file = some entries ∧ sourceId ∈ identifiers entries

/-- A state that an entry does not give, or that is none of the allowed ones. -/
def StateFlaw (sourceId key : String) (evidence : Members) (text : String) : Prop :=
  if entry evidence key = .null then
    text = sourceId ++ ":BACKLOG:required-evidence-missing=" ++ key
  else
    entry evidence key ∉ allowedStates.map Json.str ∧
      text = sourceId ++ ":BACKLOG:unsupported-evidence-claim=" ++ key ++ ":" ++
        strOf digits (entry evidence key)

/-- An entry that follows the ones with the identifiers claims too much or too little. -/
def EntryFlaw (ids : List String) (document : Json) (text : String) : Prop :=
  match sourceId? document with
  | none => text = "BACKLOG:entry-missing-source-id"
  | some (sourceId, members) =>
    (sourceId ∈ ids ∧ text = sourceId ++ ":BACKLOG:duplicate" ∨
      members.lookup "registration_state" ≠ some (.str "NOT_REGISTERED") ∧
        text = sourceId ++ ":BACKLOG:unsupported-registration-claim") ∨
      match entry members "required_evidence" with
      | .obj evidence => ∃ key ∈ requiredEvidence, StateFlaw digits sourceId key evidence text
      | _ => text = sourceId ++ ":BACKLOG:required-evidence-missing"

/-- The backlog cannot be read, or has such an entry. -/
def BacklogFlaw (file : JsonFile) (text : String) : Prop :=
  file ≠ .absent ∧
    match entriesIn file with
    | none => text = "BACKLOG:unreadable"
    | some entries => ∃ past document later, entries = past ++ document :: later ∧
      EntryFlaw digits (identifiers past) document text

/-- The inventory, the registry and the backlog differ, or cannot be read. -/
def DriftFlaw (registered : List String) (inventory : DeclaredInventory) (text : String) :
    Prop :=
  (∃ sourceId, Declares inventory.file sourceId ∧ sourceId ∉ registered ∧
      ¬Lists inventory.backlog sourceId ∧
        text = sourceId ++ ":INVENTORY:unexplained-not-in-source-registry") ∨
    (∃ sourceId ∈ registered, ¬Declares inventory.file sourceId ∧
      text = sourceId ++ ":INVENTORY:registered-but-not-in-inventory") ∨
    (∃ sourceId, Declares inventory.file sourceId ∧ sourceId ∈ registered ∧
      Lists inventory.backlog sourceId ∧
        text = sourceId ++ ":BACKLOG:stale-provider-is-registered") ∨
    (∃ sourceId, Lists inventory.backlog sourceId ∧ ¬Declares inventory.file sourceId ∧
      text = sourceId ++ ":BACKLOG:not-in-inventory") ∨
    BacklogFlaw digits inventory.backlog text ∨
    (inventory.file ≠ .absent ∧ ∀ members, inventory.file ≠ .holds (.obj members)) ∧
      text = "INVENTORY:unreadable"

variable {digits}

theorem mem_state_iff {sourceId key : String} {evidence : Members} {texts : List String}
    (ran : stateProblems digits sourceId evidence key = .ok texts) (text : String) :
    text ∈ texts ↔ StateFlaw digits sourceId key evidence text := by
  unfold stateProblems at ran
  unfold StateFlaw
  split at ran
  · rename_i absent
    obtain rfl := Except.ok.inj ran
    rw [if_pos absent, List.mem_singleton]
  · cases ran
  · cases ran
  · rename_i given _ _
    rw [if_neg given, ← Except.ok.inj ((apply_ite Except.ok _ _ _).trans ran),
      List.mem_ite_nil_left, List.mem_singleton]

theorem mem_entry_iff {ids texts : List String} {document : Json}
    (ran : entryProblems digits ids document = .ok texts) (text : String) :
    text ∈ texts ↔ EntryFlaw digits ids document text := by
  unfold entryProblems at ran
  split at ran
  · rename_i unnamed
    obtain rfl := Except.ok.inj ran
    rw [EntryFlaw, unnamed, List.mem_singleton]
  · rename_i sourceId members named
    simp only at ran
    split at ran
    · rename_i evidence held
      obtain ⟨states, statesRan, ret⟩ := bind_ok ran
      obtain rfl := Except.ok.inj ret
      rw [List.mem_append, List.mem_append, List.mem_ite_nil_right, List.mem_ite_nil_left,
        List.mem_singleton, List.mem_singleton,
        mem_checks_iff statesRan fun key _ texts ran => mem_state_iff ran]
      simp only [EntryFlaw, named, held]
    · rename_i unevidenced
      obtain rfl := Except.ok.inj ran
      rw [List.mem_append, List.mem_append, List.mem_ite_nil_right, List.mem_ite_nil_left,
        List.mem_singleton, List.mem_singleton, List.mem_singleton, EntryFlaw, named]
      refine or_congr_right ?_
      split
      · exact absurd ‹_› (unevidenced _)
      · rfl

theorem mem_entries_iff {ids texts : List String} {entries : List Json}
    (ran : entriesProblems digits ids entries = .ok texts) (text : String) :
    text ∈ texts ↔ ∃ past document later, entries = past ++ document :: later ∧
      EntryFlaw digits (ids ++ identifiers past) document text := by
  induction entries generalizing ids texts with
  | nil =>
    obtain rfl := Except.ok.inj ran
    simp
  | cons first rest ih =>
    obtain ⟨problems, found, continued⟩ := bind_ok ran
    obtain ⟨others, after, ret⟩ := bind_ok continued
    obtain rfl := Except.ok.inj ret
    rw [List.mem_append, mem_entry_iff found, ih after]
    have named (past : List Json) :
        ids ++ (sourceId? first).toList.map Prod.fst ++ identifiers past =
          ids ++ identifiers (first :: past) := by
      cases read : sourceId? first <;> simp [identifiers, read]
    constructor
    · rintro (flaw | ⟨past, document, later, rfl, flaw⟩)
      · exact ⟨[], first, rest, rfl, by simpa [identifiers] using flaw⟩
      · exact ⟨first :: past, document, later, rfl, named past ▸ flaw⟩
    · rintro ⟨past, document, later, split, flaw⟩
      cases past with
      | nil =>
        obtain ⟨rfl, rfl⟩ := List.cons.inj split
        exact .inl (by simpa [identifiers] using flaw)
      | cons head past =>
        obtain ⟨rfl, rfl⟩ := List.cons.inj split
        exact .inr ⟨past, document, later, rfl, (named past).symm ▸ flaw⟩

theorem load_backlog_iff {file : JsonFile} {present : Bool} {ids problems : List String}
    (ran : loadBacklog digits file = .ok (present, ids, problems)) :
    (∀ sourceId, sourceId ∈ ids ↔ Lists file sourceId) ∧
      ∀ text, text ∈ problems ↔ BacklogFlaw digits file text := by
  unfold loadBacklog at ran
  unfold Lists BacklogFlaw
  split_ifs at ran with absent
  · obtain ⟨-, rfl, rfl⟩ : _ ∧ [] = ids ∧ [] = problems := by simpa using Except.ok.inj ran
    subst absent
    simp [entriesIn, documentIn]
  · split at ran
    · rename_i unheld
      obtain ⟨-, rfl, rfl⟩ : _ ∧ [] = ids ∧ ["BACKLOG:unreadable"] = problems := by
        simpa using Except.ok.inj ran
      simp [absent, entriesIn, unheld]
    · rename_i entries held
      obtain ⟨found, checked, ret⟩ := bind_ok ran
      obtain ⟨-, rfl, rfl⟩ : _ ∧ sortedSet (identifiers entries) = ids ∧ sortedSet found = problems
        := by simpa [identifiers] using Except.ok.inj ret
      simp [absent, entriesIn, held, mem_entries_iff checked]

theorem mem_drift_iff {reg : AdapterRegistry} {inventory : DeclaredInventory}
    {drift : InventoryDrift} (ran : inventory.compare digits reg = .ok drift)
    (text : String) : text ∈ drift.failures ↔
      DriftFlaw digits (reg.sources.map (·.sourceId)) inventory text := by
  obtain ⟨⟨present, ids, problems⟩, loaded, ran⟩ := bind_ok ran
  obtain ⟨listed, backlog⟩ := load_backlog_iff loaded
  set registered := reg.sources.map (·.sourceId)
  have fields : (∀ sourceId, sourceId ∈ drift.inBoth ↔
        Declares inventory.file sourceId ∧ sourceId ∈ registered) ∧
      (∀ sourceId, sourceId ∈ drift.inventoryOnly ↔
        Declares inventory.file sourceId ∧ sourceId ∉ registered) ∧
      (∀ sourceId, sourceId ∈ drift.registryOnly ↔
        sourceId ∈ registered ∧ ¬Declares inventory.file sourceId) ∧
      drift.backlogIds = ids ∧ drift.backlogProblems = problems ∧
      (drift.unreadable = true ↔ inventory.file ≠ .absent ∧
        ∀ members, inventory.file ≠ .holds (.obj members)) := by
    simp only at ran
    split at ran
    · rename_i absent
      obtain rfl := Except.ok.inj ran
      simp [Declares, absent, registered]
    · rename_i members held
      obtain ⟨items, read, ret⟩ := bind_ok ran
      obtain rfl := Except.ok.inj ret
      have declares (sourceId : String) : Declares inventory.file sourceId ↔
          ∃ item ∈ items, declared? item = some sourceId := by
        simp [Declares, held, read]
      simp only [declares]
      simp [held, registered]
    · rename_i present none
      obtain rfl := Except.ok.inj ran
      have undeclared (sourceId : String) : ¬Declares inventory.file sourceId := by
        rintro ⟨members, _, held, _⟩
        exact none members held
      have readable : inventory.file ≠ .absent ∧
          ∀ members, inventory.file ≠ .holds (.obj members) := ⟨present, none⟩
      simpa [undeclared, registered] using readable
  obtain ⟨both, only, others, rfl, rfl, unreadable⟩ := fields
  have foreign (sourceId : String) : (Declares inventory.file sourceId ∧ sourceId ∈ registered ∨
      Declares inventory.file sourceId ∧ sourceId ∉ registered) ↔
        Declares inventory.file sourceId := by
    rw [← and_or_left, and_iff_left (em _)]
  simp only [failures, unexplained, mem_sorted_set, List.mem_append, List.mem_map,
    List.mem_filter, decide_eq_true_eq, both, only, others, listed, backlog, foreign,
    List.mem_ite_nil_right, unreadable, List.mem_singleton, DriftFlaw, or_assoc, and_assoc,
    @eq_comm _ text]

end InventoryDrift

namespace CertificateBuilder

open IntegrationConformance RepositoryConformanceScanner InventoryDrift ProviderManifests

section inputs

variable (python : Interpreter) (builder : CertificateBuilder)

/-- An evidence path of the metadata that leads nowhere, or a flaw of the manifests. -/
def Flaw (text : String) : Prop :=
  (∃ source ∈ builder.registry.sources, ∃ claim ∈ claimedPaths source, ∃ problem,
      Misplaced builder.repository claim.2.2 problem ∧
        text = source.sourceId ++ ":" ++ claim.1 ++ ":" ++ problem) ∨
    ∃ directory, builder.manifests = some directory ∧
      DirectoryFlaw python builder.repository builder.registry directory.files text

/-- A drift of the inventory, counted or not. -/
def Drifts (text : String) : Prop :=
  ∃ inventory, builder.inventory = some inventory ∧
    DriftFlaw python.reprFloat (builder.registry.sources.map (·.sourceId)) inventory text

/-- A file of the repository is evidence of the source for the column. -/
def Tested (source : RegisteredSource) (column : String) : Prop :=
  ∃ file ∈ builder.repository.files, ∃ item,
    evidenceIn python.casing builder.repository source.sourceId file = some item ∧
      evidenceToColumn.lookup item.kind = some column

/-- The registry is empty, or the policy requires a cell of which nothing is known. -/
def Lacks (text : String) : Prop :=
  builder.registry.sources = [] ∧ text = "REGISTRY_EMPTY" ∨
    ∃ source ∈ builder.registry.sources, ∃ column ∈ builder.required,
      ¬Tested python builder source column ∧
        ((auditCell source column).status = .unknown ∨
          (auditCell source column).status = .missing) ∧
        text = source.sourceId ++ ":" ++ column ++ "=" ++ (auditCell source column).status.value

end inputs

variable {sha256 : Json.Text → String} {python : Interpreter} {builder : CertificateBuilder}
  {cert : ConformanceCertificate}

theorem mem_claimed_iff {source : RegisteredSource}
    {claims : List (String ⊕ RepositoryEvidence)}
    (ran : (claimedPaths source).mapM (claimedPath builder source) = .ok claims) (text : String) :
    .inl text ∈ claims ↔ ∃ claim ∈ claimedPaths source, ∃ problem,
      Misplaced builder.repository claim.2.2 problem ∧
        text = source.sourceId ++ ":" ++ claim.1 ++ ":" ++ problem := by
  obtain ⟨answers, results⟩ := ran_of_mapM ran
  rw [results]
  refine exists_congr fun claim => and_congr_right fun among => ?_
  obtain ⟨answer, answered⟩ := answers claim among
  obtain ⟨place, placed, ret⟩ := bind_ok answered
  unfold Misplaced
  rw [answered, placed]
  have outside (rel : String) : ":evidence-outside-root=" ++ rel =
      ":" ++ ("evidence-outside-root=" ++ rel) := by
    rw [← String.append_assoc]
    rfl
  have missing (rel : String) : ":evidence-missing=" ++ rel =
      ":" ++ ("evidence-missing=" ++ rel) := by
    rw [← String.append_assoc]
    rfl
  cases place with
  | outside | missing | file =>
    obtain rfl := Except.ok.inj ret
    simp [outside, missing, String.append_assoc, @eq_comm _ text]

/-- The evidence of the metadata has kinds of its own. -/
theorem tested_iff {survey : Survey} {column : String}
    (ran : (claimedPaths survey.source).mapM (claimedPath builder survey.source) =
      .ok survey.claimed) :
    (∃ item ∈ survey.evidence python builder, evidenceToColumn.lookup item.kind = some column) ↔
      Tested python builder survey.source column := by
  have own (item : RepositoryEvidence) (claimed : .inr item ∈ survey.claimed) :
      evidenceToColumn.lookup item.kind = none := by
    obtain ⟨claim, _, answered⟩ := ((ran_of_mapM ran).2 _).mp claimed
    obtain ⟨place, placed, ret⟩ := bind_ok answered
    cases place with
    | outside | missing => cases ret
    | file relative =>
      obtain rfl := Sum.inr.inj (Except.ok.inj ret)
      rw [List.lookup_eq_none_iff]
      simp [evidenceToColumn, String.ext_iff]
  unfold Tested
  simp only [Survey.evidence, evidenceFor, arranged, List.mem_insertionSort, List.mem_dedup,
    List.mem_append, List.mem_filterMap]
  constructor
  · rintro ⟨item, ⟨file, among, found⟩ | ⟨claim, claimed, read⟩, shown⟩
    · exact ⟨file, among, item, found, shown⟩
    · cases claim with
      | inl => cases read
      | inr other =>
        obtain rfl := Option.some.inj read
        cases (own _ claimed).symm.trans shown
  · rintro ⟨file, among, item, found, shown⟩
    exact ⟨item, .inl ⟨file, among, found⟩, shown⟩

/-- By induction on the evidence: a cell is tested where an item is of its column. -/
theorem status_of_enriched (items : List RepositoryEvidence) (cells : Dict String ConformanceCell)
    (column : String) : ((items.foldl enrich cells).lookup column).map (·.status) =
      if ∃ item ∈ items, evidenceToColumn.lookup item.kind = some column then some .tested
      else (cells.lookup column).map (·.status) := by
  classical
  induction items generalizing cells with
  | nil => simp
  | cons item rest ih =>
    rw [List.foldl_cons, ih]
    have kept : ((enrich cells item).lookup column).map (·.status) =
        if evidenceToColumn.lookup item.kind = some column then some .tested
        else (cells.lookup column).map (·.status) := by
      unfold enrich
      split
      · rename_i absent
        simp [absent]
      · rename_i named read
        rw [read, Dict.lookup_set]
        by_cases same : named = column
        · simp [same]
        · simp [same, Ne.symm same]
    rw [kept]
    by_cases tested : ∃ other ∈ rest, evidenceToColumn.lookup other.kind = some column
    · simp [tested]
    · by_cases here : evidenceToColumn.lookup item.kind = some column <;> simp [tested, here]

def LacksCell (record : ConformanceRecord) (column text : String) : Prop :=
  ∃ cell, record.cells.lookup column = some cell ∧
    (cell.status = .unknown ∨ cell.status = .missing) ∧
      text = record.sourceId ++ ":" ++ column ++ "=" ++ cell.status.value

/-- What a report of the records lacks. -/
def LacksIn (required : List String) (records : List ConformanceRecord) (text : String) : Prop :=
  records = [] ∧ text = "REGISTRY_EMPTY" ∨
    ∃ record ∈ records, ∃ column ∈ required, LacksCell record column text

theorem required_cell_iff {record : ConformanceRecord} {column text : String}
    {found : List String} (ran : requiredCell record column = .ok found) :
    text ∈ found ↔ LacksCell record column text := by
  unfold LacksCell
  unfold requiredCell at ran
  split at ran
  · cases ran
  · rename_i cell held
    split_ifs at ran with blocked
    all_goals
      obtain rfl := Except.ok.inj ran
      simp [held, blocked]

theorem mem_required_iff {required : List String} {records : List ConformanceRecord}
    {found : List String} (ran : requiredFailures required records = .ok found)
    (text : String) : text ∈ found ↔ LacksIn required records text := by
  obtain ⟨cells, rows, ret⟩ := bind_ok ran
  obtain rfl := Except.ok.inj ret
  obtain ⟨rowsRan, results⟩ := ran_of_mapM rows
  rw [List.mem_append, List.mem_ite_nil_right, List.mem_singleton]
  refine or_congr_right ?_
  simp only [List.mem_flatten, results]
  constructor
  · rintro ⟨found, ⟨row, ⟨record, held, ran⟩, among⟩, mem⟩
    obtain ⟨column, asked, answered⟩ := ((ran_of_mapM ran).2 found).mp among
    exact ⟨record, held, column, asked, (required_cell_iff answered).mp mem⟩
  · rintro ⟨record, held, column, asked, lacking⟩
    obtain ⟨row, ran⟩ := rowsRan record held
    obtain ⟨cellsRan, shown⟩ := ran_of_mapM ran
    obtain ⟨found, answered⟩ := cellsRan column asked
    exact ⟨found, ⟨row, ⟨record, held, ran⟩, (shown found).mpr ⟨column, asked, answered⟩⟩,
      (required_cell_iff answered).mpr lacking⟩

theorem mem_surveys_iff {surveys : List Survey} (ran : survey builder = .ok surveys)
    (survey : Survey) : survey ∈ surveys ↔ survey.source ∈ builder.registry.sources ∧
      (claimedPaths survey.source).mapM (claimedPath builder survey.source) =
        .ok survey.claimed := by
  rw [(ran_of_mapM ran).2]
  constructor
  · rintro ⟨source, registered, answered⟩
    obtain ⟨claims, claimed, ret⟩ := bind_ok answered
    obtain rfl := Except.ok.inj ret
    exact ⟨registered, claimed⟩
  · rintro ⟨registered, claimed⟩
    refine ⟨survey.source, registered, ?_⟩
    rw [claimed]
    rfl

theorem survey_of_source {surveys : List Survey} (ran : survey builder = .ok surveys)
    {source : RegisteredSource} (registered : source ∈ builder.registry.sources) :
    ∃ survey ∈ surveys, survey.source = source := by
  obtain ⟨survey, answered⟩ := (ran_of_mapM ran).1 source registered
  obtain ⟨claims, _, ret⟩ := bind_ok answered
  refine ⟨survey, ((ran_of_mapM ran).2 survey).mpr ⟨source, registered, answered⟩, ?_⟩
  rw [← Except.ok.inj ret]

/-- The report has the cell of the audit where no file tests it. -/
theorem status_of_record {survey : Survey} {column : String} {cell : ConformanceCell}
    (ran : (claimedPaths survey.source).mapM (claimedPath builder survey.source) =
      .ok survey.claimed)
    (held : (survey.record python builder).cells.lookup column = some cell) :
    cell.status = .tested ∧ Tested python builder survey.source column ∨
      cell.status = (auditCell survey.source column).status ∧
        ¬Tested python builder survey.source column := by
  have status := status_of_enriched (survey.evidence python builder) (audit survey.source) column
  rw [Survey.record] at held
  rw [held, Option.map_some] at status
  split_ifs at status with tested
  · exact .inl ⟨Option.some.inj status, (tested_iff ran).mp tested⟩
  · refine .inr ⟨?_, mt (tested_iff ran).mpr tested⟩
    have audited : column ∈ columns := by
      by_contra absent
      have missing : (audit survey.source).lookup column = none := by
        rw [List.lookup_eq_none_iff]
        intro entry mem
        obtain ⟨other, listed, rfl⟩ := List.mem_map.mp mem
        simpa using fun same : column = other => absent (same ▸ listed)
      rw [missing] at status
      cases status
    rw [audit, List.lookup_graph _ audited] at status
    exact Option.some.inj status

theorem lacks_in_iff {surveys : List Survey} {found : List String}
    (surveyed : survey builder = .ok surveys)
    (ran : requiredFailures builder.required (surveys.map (Survey.record python builder)) =
      .ok found) (text : String) :
    LacksIn builder.required (surveys.map (Survey.record python builder)) text ↔
      Lacks python builder text := by
  have empty : surveys.map (Survey.record python builder) = [] ↔ builder.registry.sources = [] := by
    rw [List.map_eq_nil_iff, List.eq_nil_iff_forall_not_mem, List.eq_nil_iff_forall_not_mem]
    constructor
    · intro none source registered
      obtain ⟨survey, mem, _⟩ := survey_of_source surveyed registered
      exact none survey mem
    · intro none survey mem
      exact none _ ((mem_surveys_iff surveyed survey).mp mem).1
  unfold LacksIn
  rw [empty]
  constructor
  · rintro (⟨none, rfl⟩ | ⟨record, recorded, column, asked, cell, held, blocked, rfl⟩)
    · exact .inl ⟨none, rfl⟩
    · obtain ⟨survey, listed, rfl⟩ := List.mem_map.mp recorded
      obtain ⟨registered, claimed⟩ := (mem_surveys_iff surveyed survey).mp listed
      rcases status_of_record claimed held with ⟨tested, _⟩ | ⟨audited, untested⟩
      · simp [tested] at blocked
      · rw [audited] at blocked ⊢
        exact .inr ⟨_, registered, column, asked, untested, blocked, rfl⟩
  · rintro (⟨none, rfl⟩ | ⟨source, registered, column, asked, untested, blocked, rfl⟩)
    · exact .inl ⟨none, rfl⟩
    · obtain ⟨survey, listed, rfl⟩ := survey_of_source surveyed registered
      have recorded := List.mem_map_of_mem (f := Survey.record python builder) listed
      obtain ⟨cells, rows, _⟩ := bind_ok ran
      obtain ⟨row, answered⟩ := (ran_of_mapM rows).1 _ recorded
      obtain ⟨texts, checked⟩ := (ran_of_mapM answered).1 _ asked
      refine .inr ⟨_, recorded, _, asked, ?_⟩
      unfold requiredCell at checked
      split at checked
      · cases checked
      · rename_i cell held
        have claimed := ((mem_surveys_iff surveyed survey).mp listed).2
        rcases status_of_record claimed held with ⟨_, tested⟩ | ⟨audited, _⟩
        · exact absurd tested untested
        · exact ⟨cell, held, by rwa [audited], by rw [audited]; rfl⟩

/-- What a run of `build` found. -/
structure Found (python : Interpreter) (builder : CertificateBuilder) (findings : Findings)
    (manifests : List String) : Prop where
  surveys : survey builder = .ok findings.surveys
  drift : builder.drift python = .ok findings.drift
  validated : manifestFailures python builder = .ok manifests
  collected : findings.collected = findings.surveys.flatMap Survey.failures ++
    driftFailures builder findings.drift ++ manifests
  required : requiredFailures builder.required
    (findings.surveys.map (Survey.record python builder)) = .ok findings.required

theorem found_of_build (built : builder.build sha256 python = .ok cert) :
    ∃ findings manifests, Found python builder findings manifests ∧
      cert = certificateOf sha256 python builder findings := by
  obtain ⟨findings, ran, ret⟩ := bind_ok built
  have finds := Except.ok.inj ret
  unfold find at ran
  obtain ⟨surveys, surveyed, ran⟩ := bind_ok ran
  obtain ⟨drift, compared, ran⟩ := bind_ok ran
  obtain ⟨manifests, validated, ran⟩ := bind_ok ran
  obtain ⟨_, _, ran⟩ := bind_ok ran
  obtain ⟨required, asked, ran⟩ := bind_ok ran
  have all := Except.ok.inj ran
  refine ⟨findings, manifests, ?_, finds.symm⟩
  rw [← all]
  exact { surveys := surveyed, drift := compared, validated, collected := rfl,
          required := asked }

variable {findings : Findings} {manifests : List String}

theorem mem_drifts_iff (found : Found python builder findings manifests) (text : String) :
    text ∈ findings.drift.elim [] (·.failures) ↔ Drifts python builder text := by
  have compared := found.drift
  unfold CertificateBuilder.drift at compared
  unfold Drifts
  split at compared
  · rename_i none
    rw [← Except.ok.inj compared]
    simp [none]
  · rename_i inventory asked
    obtain ⟨drift, ran, ret⟩ := bind_ok compared
    rw [← Except.ok.inj ret, Option.elim_some, mem_drift_iff ran]
    simp [asked]

/-- What is collected from the paths and the manifests, and the drift that counts. -/
theorem mem_collected_iff (found : Found python builder findings manifests) (text : String) :
    text ∈ findings.collected ↔ Flaw python builder text ∨
      builder.inventoryDriftReportOnly = false ∧ Drifts python builder text := by
  have paths : text ∈ findings.surveys.flatMap Survey.failures ↔
      ∃ survey ∈ findings.surveys, .inl text ∈ survey.claimed := by
    simp [Survey.failures]
  have drifts : text ∈ driftFailures builder findings.drift ↔
      builder.inventoryDriftReportOnly = false ∧ Drifts python builder text := by
    rw [driftFailures, List.mem_ite_nil_left, Bool.not_eq_true, mem_drifts_iff found]
  rw [found.collected, List.mem_append, List.mem_append, paths, drifts, or_right_comm]
  refine or_congr_left (or_congr ⟨?_, ?_⟩ ?_)
  · rintro ⟨survey, listed, claimed⟩
    obtain ⟨registered, ran⟩ := (mem_surveys_iff found.surveys survey).mp listed
    exact ⟨_, registered, (mem_claimed_iff ran text).mp claimed⟩
  · rintro ⟨source, registered, flaw⟩
    obtain ⟨survey, listed, rfl⟩ := survey_of_source found.surveys registered
    have ran := ((mem_surveys_iff found.surveys survey).mp listed).2
    exact ⟨survey, listed, (mem_claimed_iff ran text).mpr flaw⟩
  · have validated := found.validated
    unfold manifestFailures at validated
    split at validated
    · rename_i unasked
      obtain rfl := Except.ok.inj validated
      simp [unasked]
    · rename_i directory asked
      rw [mem_validate_iff validated]
      simp [asked]

/-- The failures of a certificate. -/
theorem mem_failures_iff (built : builder.build sha256 python = .ok cert)
    (text : String) : text ∈ cert.failures ↔
      (Flaw python builder text ∨
        builder.inventoryDriftReportOnly = false ∧ Drifts python builder text) ∨
        Lacks python builder text := by
  obtain ⟨findings, manifests, found, rfl⟩ := found_of_build built
  rw [← mem_collected_iff found, ← lacks_in_iff found.surveys found.required,
    ← mem_required_iff found.required, ← List.mem_append]
  exact mem_sorted_set

end CertificateBuilder

end Ois.Integration
