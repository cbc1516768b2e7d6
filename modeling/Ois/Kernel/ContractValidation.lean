import Ois.Kernel.Contracts
import Ois.Kernel.PyValues

/-!
# Validation against contracts

`ContractValidator` of `validation.py`. Its schemas have four keywords: a type, an enumeration of
values, required names and the schemas of properties. A keyword of another shape, and a type of
another name, is passed over.
-/

namespace Ois.Kernel

open Ois.Library

inductive SchemaType where
  | string | integer | number | boolean | object | array
  deriving DecidableEq, Repr

namespace SchemaType

def value : SchemaType → String
  | string => "string"
  | integer => "integer"
  | number => "number"
  | boolean => "boolean"
  | object => "object"
  | array => "array"

instance : StrEnum SchemaType where
  members := [string, integer, number, boolean, object, array]
  value := value
  complete := by intro mem; cases mem <;> simp
  distinct := by decide

/-- `isinstance` of the type; a truth value is no number. -/
def validates : SchemaType → Json → Bool
  | string, .str _ => true
  | integer, .int _ => true
  | number, .int _ => true
  | number, .float _ => true
  | boolean, .bool _ => true
  | object, .obj _ => true
  | array, .arr _ => true
  | _, _ => false

end SchemaType

section keywords

variable (schema : Members)

def expectedType : Option SchemaType :=
  match schema.lookup "type" with
  | some (.str name) => StrEnum.ofValue? name
  | _ => none

def enumOf : Option (List Json) :=
  match schema.lookup "enum" with
  | some (.arr members) => some members
  | _ => none

def requiredOf : List Json :=
  match schema.lookup "required" with
  | some (.arr names) => names
  | _ => []

def propertiesOf : Members :=
  match schema.lookup "properties" with
  | some (.obj properties) => properties
  | _ => []

end keywords

/-- `value in items`. -/
def inItems (value : Json) (items : List Json) : Bool := items.any fun item => pyEquals value item

def enumErrors (value : Json) (schema : Members) (path : String) : List String :=
  match enumOf schema with
  | some members =>
    if inItems value members then []
    else [path ++ ": value is not one of the allowed enum values."]
  | none => []

def requiredErrors (fields schema : Members) (path : String) : List String :=
  (requiredOf schema).filterMap fun name =>
    match name with
    | .str fieldName =>
      if (fields.lookup fieldName).isSome then none
      else some (path ++ ": missing required field '" ++ fieldName ++ "'.")
    | _ => none

theorem size_lookup_lt {members : Members} {name : String} {value : Json}
    (found : members.lookup name = some value) : sizeOf value < sizeOf members := by
  have inside := List.sizeOf_lt_of_mem (Dict.mem_of_lookup found)
  have part : sizeOf value < sizeOf (name, value) := by simp
  omega

theorem size_property_lt {schema : Members} {name : String} {property : Members}
    (mem : (name, Json.obj property) ∈ propertiesOf schema) :
    sizeOf property < sizeOf schema := by
  unfold propertiesOf at mem
  cases found : schema.lookup "properties" with
  | none => simp [found] at mem
  | some doc =>
    cases doc with
    | obj properties =>
      simp only [found] at mem
      have whole := size_lookup_lt found
      have inside := List.sizeOf_lt_of_mem mem
      simp only [Json.obj.sizeOf_spec, Prod.mk.sizeOf_spec] at whole inside
      omega
    | _ => simp [found] at mem

def typeError (value : Json) (schema : Members) (path : String) : Option String :=
  match expectedType schema with
  | some kind =>
    if kind.validates value then none else some (path ++ ": expected " ++ kind.value ++ ".")
  | none => none

/-- `_validate_schema(value, schema, path)`. -/
def validateSchema (value : Json) (schema : Members) (path : String) : List String :=
  match typeError value schema path with
  | some err => [err]
  | none =>
    enumErrors value schema path ++ match value with
      | .obj fields =>
        requiredErrors fields schema path ++ (propertiesOf schema).attach.flatMap fun entry =>
            match entry with
            | ⟨(name, .obj property), _⟩ =>
              match fields.lookup name with
              | some field => validateSchema field property (path ++ "." ++ name)
              | none => []
            | _ => []
      | _ => []
termination_by sizeOf schema
decreasing_by exact size_property_lt ‹_›

/-- `"; ".join(errors)`, raised unless there are none. -/
def raiseErrors (kind : ErrorKind) (errors : List String) : Except PyError Unit :=
  if errors = [] then .ok () else .error ⟨kind, "; ".intercalate errors⟩

def validateInput (req : InvocationRequest) (contract : CapabilityContract) :
    Except PyError Unit :=
  raiseErrors .inputValidationError
    (validateSchema (.obj req.input) contract.inputSchema "input")

def validateOutput (res : InvocationResult) (contract : CapabilityContract) :
    Except PyError Unit :=
  raiseErrors (.other "OutputValidationError")
    (validateSchema res.output contract.outputSchema "output")

inductive Satisfies : Json → Members → Prop where
  | intro (value : Json) (schema : Members)
      (typed : ∀ kind, expectedType schema = some kind → kind.validates value = true)
      (listed : ∀ members, enumOf schema = some members →
        ∃ mem ∈ members, pyEquals value mem = true)
      (present : ∀ fields, value = .obj fields → ∀ name, .str name ∈ requiredOf schema →
        (fields.lookup name).isSome)
      (properties : ∀ fields, value = .obj fields → ∀ name property field,
        (name, .obj property) ∈ propertiesOf schema → fields.lookup name = some field →
          Satisfies field property) :
      Satisfies value schema

theorem satisfies_iff (value : Json) (schema : Members) :
    Satisfies value schema ↔
      (∀ kind, expectedType schema = some kind → kind.validates value = true) ∧
      (∀ members, enumOf schema = some members →
      ∃ mem ∈ members, pyEquals value mem = true) ∧
      ∀ fields, value = .obj fields →
      (∀ name, .str name ∈ requiredOf schema → (fields.lookup name).isSome) ∧
      ∀ name property field, (name, .obj property) ∈ propertiesOf schema →
      fields.lookup name = some field → Satisfies field property := by
  constructor
  · intro satisfied
    cases satisfied with
    | intro _ _ typed listed present properties =>
      exact ⟨typed, listed, fun fields same => ⟨present fields same, properties fields same⟩⟩
  · intro all
    exact .intro value schema all.1 all.2.1 (fun fields same => (all.2.2 fields same).1)
      fun fields same => (all.2.2 fields same).2

section errors

variable {value : Json} {schema fields : Members} {path : String}

theorem type_error_none_iff :
    typeError value schema path = none ↔
      ∀ kind, expectedType schema = some kind → kind.validates value = true := by
  unfold typeError
  cases expected : expectedType schema with
  | none => simp
  | some kind => simp

theorem enum_errors_nil_iff :
    enumErrors value schema path = [] ↔ ∀ members, enumOf schema = some members →
      ∃ mem ∈ members, pyEquals value mem = true := by
  unfold enumErrors inItems
  cases listed : enumOf schema with
  | none => simp
  | some members => simp

theorem required_errors_nil_iff :
    requiredErrors fields schema path = [] ↔
      ∀ name, .str name ∈ requiredOf schema → (fields.lookup name).isSome := by
  unfold requiredErrors
  rw [List.filterMap_eq_nil_iff]
  constructor
  · intro none name mem
    have passed := none (.str name) mem
    by_contra absent
    simp [absent] at passed
  · intro all item mem
    cases item with
    | str name => simp [all name mem]
    | _ => rfl

end errors

theorem validate_schema_nil_iff (value : Json) (schema : Members) (path : String) :
    validateSchema value schema path = [] ↔ Satisfies value schema := by
  rw [validateSchema.eq_def, satisfies_iff, ← type_error_none_iff, ← enum_errors_nil_iff]
  cases typeError value schema path with
  | some err => simp
  | none =>
    simp only [List.append_eq_nil_iff, true_and]
    apply and_congr_right'
    cases value with
    | obj fields =>
      simp only [List.append_eq_nil_iff, required_errors_nil_iff, Json.obj.injEq, forall_eq']
      apply and_congr_right'
      rw [List.flatMap_eq_nil_iff]
      constructor
      · intro all name property field mem found
        have here := all ⟨(name, .obj property), mem⟩ (List.mem_attach _ _)
        simp only [found] at here
        exact (validate_schema_nil_iff field property _).mp here
      · intro all entry _
        obtain ⟨⟨name, doc⟩, mem⟩ := entry
        cases doc with
        | obj property =>
          dsimp only
          cases found : fields.lookup name with
          | none => rfl
          | some field =>
            exact (validate_schema_nil_iff field property _).mpr
              (all name property field mem found)
        | _ => rfl
    | _ => simp
termination_by sizeOf schema
decreasing_by
  · exact size_property_lt mem
  · exact size_property_lt mem

theorem raise_errors_iff {kind : ErrorKind} {errors : List String} :
    (∃ err, raiseErrors kind errors = .error err) ↔ errors ≠ [] := by
  unfold raiseErrors
  split_ifs with none
  · simp [none]
  · simp [none]

inductive Extended : Members → Members → Prop where
  | required (schema : Members) (before after : List Json) (name : String)
      (names : requiredOf schema = before ++ after) :
      Extended schema (schema.set "required" (.arr (before ++ .str name :: after)))
  | enum (schema : Members) (members : List Json) (free : enumOf schema = none) :
      Extended schema (schema.set "enum" (.arr members))
  | property (schema before after : Members) (name : String) (added : Json)
      (properties : propertiesOf schema = before ++ after)
      (free : name ∉ (before ++ after).map Prod.fst) :
      Extended schema (schema.set "properties" (.obj (before ++ (name, added) :: after)))
  | nested (schema before after : Members) (name : String) (inner extended : Members)
      (properties : propertiesOf schema = before ++ (name, .obj inner) :: after)
      (deeper : Extended inner extended) :
      Extended schema (schema.set "properties" (.obj (before ++ (name, .obj extended) :: after)))

section keywords

variable {schema : Members} {doc : Json}

variable {name : String}

theorem expected_type_set (other : name ≠ "type") :
    expectedType (schema.set name doc) = expectedType schema := by
  unfold expectedType
  rw [Dict.lookup_set, if_neg (Ne.symm other)]

theorem enum_of_set (other : name ≠ "enum") :
    enumOf (schema.set name doc) = enumOf schema := by
  unfold enumOf
  rw [Dict.lookup_set, if_neg (Ne.symm other)]

theorem required_of_set (other : name ≠ "required") :
    requiredOf (schema.set name doc) = requiredOf schema := by
  unfold requiredOf
  rw [Dict.lookup_set, if_neg (Ne.symm other)]

theorem properties_of_set (other : name ≠ "properties") :
    propertiesOf (schema.set name doc) = propertiesOf schema := by
  unfold propertiesOf
  rw [Dict.lookup_set, if_neg (Ne.symm other)]

theorem required_of_set_same (names : List Json) :
    requiredOf (schema.set "required" (.arr names)) = names := by
  unfold requiredOf
  rw [Dict.lookup_set_same]

theorem properties_of_set_same (properties : Members) :
    propertiesOf (schema.set "properties" (.obj properties)) = properties := by
  unfold propertiesOf
  rw [Dict.lookup_set_same]

end keywords

theorem satisfies_of_properties {schema others : Members} {value : Json}
    (satisfied : Satisfies value (schema.set "properties" (.obj others)))
    (fewer : ∀ name property field, (name, .obj property) ∈ propertiesOf schema →
      (∀ other, (name, .obj other) ∈ others → Satisfies field other) →
      Satisfies field property) : Satisfies value schema := by
  rw [satisfies_iff] at satisfied ⊢
  obtain ⟨typed, listed, object⟩ := satisfied
  rw [expected_type_set (by decide)] at typed
  rw [enum_of_set (by decide)] at listed
  simp only [required_of_set (show "properties" ≠ "required" by decide),
    properties_of_set_same] at object
  refine ⟨typed, listed, fun fields same => ⟨(object fields same).1, ?_⟩⟩
  intro name property field mem found
  apply fewer name property field mem
  intro other asked
  exact (object fields same).2 name other field asked found

theorem satisfies_of_extended {schema extended : Members} (more : Extended schema extended)
    {value : Json} (satisfied : Satisfies value extended) : Satisfies value schema := by
  induction more generalizing value with
  | required schema before after name names =>
    rw [satisfies_iff] at satisfied ⊢
    obtain ⟨typed, listed, object⟩ := satisfied
    rw [expected_type_set (by decide)] at typed
    rw [enum_of_set (by decide)] at listed
    simp only [required_of_set_same, properties_of_set (show "required" ≠ "properties" by decide)]
      at object
    refine ⟨typed, listed, fun fields same => ⟨?_, (object fields same).2⟩⟩
    intro other mem
    rw [names, List.mem_append] at mem
    apply (object fields same).1 other
    rw [List.mem_append, List.mem_cons]
    exact mem.imp_right Or.inr
  | enum schema members free =>
    rw [satisfies_iff] at satisfied ⊢
    obtain ⟨typed, _, object⟩ := satisfied
    rw [expected_type_set (by decide)] at typed
    simp only [required_of_set (show "enum" ≠ "required" by decide),
      properties_of_set (show "enum" ≠ "properties" by decide)] at object
    exact ⟨typed, by simp [free], object⟩
  | property schema before after name added properties free =>
    apply satisfies_of_properties satisfied
    intro other property field mem each
    rw [properties, List.mem_append] at mem
    apply each property
    rw [List.mem_append, List.mem_cons]
    exact mem.imp_right Or.inr
  | nested schema before after name inner extended properties deeper ih =>
    apply satisfies_of_properties satisfied
    intro other property field mem each
    rw [properties, List.mem_append, List.mem_cons] at mem
    cases mem with
    | inl past => exact each property (List.mem_append_left _ past)
    | inr rest =>
      cases rest with
      | inl here =>
        obtain ⟨rfl, same⟩ := Prod.mk.inj here
        rw [Json.obj.inj same]
        exact ih (each extended (by simp))
      | inr later =>
        exact each property (List.mem_append_right _ (List.mem_cons_of_mem _ later))

/-- What the validator decides, and that an extended schema accepts no more. -/
structure ValidatesExactly : Prop where
  schema : ∀ value schema path, validateSchema value schema path = [] ↔ Satisfies value schema
  input : ∀ req contract, (∃ err, validateInput req contract = .error err) ↔
    ¬Satisfies (.obj req.input) contract.inputSchema
  output : ∀ res contract, (∃ err, validateOutput res contract = .error err) ↔
    ¬Satisfies res.output contract.outputSchema
  monotone : ∀ schema extended, Extended schema extended → ∀ value path,
    validateSchema value schema path ≠ [] → validateSchema value extended path ≠ []

theorem contract_validation_exact : ValidatesExactly where
  schema := validate_schema_nil_iff
  input := by
    intro req contract
    rw [validateInput, raise_errors_iff, ne_eq, validate_schema_nil_iff]
  output := by
    intro res contract
    rw [validateOutput, raise_errors_iff, ne_eq, validate_schema_nil_iff]
  monotone := by
    intro schema extended more value path rejected accepted
    rw [validate_schema_nil_iff] at accepted
    exact rejected ((validate_schema_nil_iff value schema path).mpr
      (satisfies_of_extended more accepted))

/-- The names of the types that a value is of. -/
def typesOf : Json → List String
  | .null => ["null"]
  | .bool _ => ["boolean"]
  | .int _ => ["integer", "number"]
  | .float _ => ["number"]
  | .str _ => ["string"]
  | .arr _ => ["array"]
  | .obj _ => ["object"]

/-- A number passes where a null is asked for. -/
theorem number_passes_for_null :
    ¬∀ value schema path name, validateSchema value schema path = [] →
      schema.lookup "type" = some (.str name) → name ∈ typesOf value := by
  intro typed
  have satisfied : Satisfies (.int 5) [("type", .str "null")] := by
    rw [satisfies_iff]
    constructor
    · intro kind expected
      cases expected
    · constructor
      · intro members listed
        cases listed
      · intro fields same
        cases same
  have passed := typed (.int 5) [("type", .str "null")] "input" "null"
    ((validate_schema_nil_iff _ _ _).mpr satisfied) rfl
  exact absurd passed (by decide)

end Ois.Kernel
