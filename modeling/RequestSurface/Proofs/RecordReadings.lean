import Mathlib
import RequestSurface.Document.Basic
import RequestSurface.Proofs.Agreement

/-!
# Readings of records

Schemas, methods, resources and documents are the records of a document. Each kind has a table of
its fields and of what they hold, and all are read in one way: two rows of entries in which every
field of the table is found with values that are read alike, or in neither of them, are read alike
themselves.
-/

namespace RequestSurface

/-- The kinds of record in a document. -/
inductive Model where
  | schema
  | method
  | resource
  | document
  deriving DecidableEq, Repr

/-- What a field of a record holds: a value without records, at most one record, or records by
name. -/
inductive Contents where
  | plain
  | one (model : Model)
  | named (model : Model)
  deriving DecidableEq, Repr

/-- The fields of a record, with what they hold. -/
def Model.fields : Model → List (Slot × Contents)
  | schema =>
      [(.plain "id", .plain), (.plain "type", .plain), (⟨"ref", "$ref"⟩, .plain),
        (.plain "description", .plain), (.plain "format", .plain), (.plain "default", .plain),
        (.plain "pattern", .plain), (.plain "required", .plain), (.plain "repeated", .plain),
        (.plain "location", .plain), (.plain "enum", .plain),
        (⟨"enum_descriptions", "enumDescriptions"⟩, .plain), (.plain "minimum", .plain),
        (.plain "maximum", .plain), (.plain "items", .one .schema),
        (.plain "properties", .named .schema),
        (⟨"additional_properties", "additionalProperties"⟩, .one .schema)]
  | method =>
      [(.plain "id", .plain), (.plain "path", .plain), (⟨"http_method", "httpMethod"⟩, .plain),
        (⟨"flat_path", "flatPath"⟩, .plain), (.plain "description", .plain),
        (.plain "parameters", .named .schema), (⟨"parameter_order", "parameterOrder"⟩, .plain),
        (.plain "request", .one .schema), (.plain "response", .one .schema),
        (.plain "scopes", .plain)]
  | resource => [(.plain "methods", .named .method), (.plain "resources", .named .resource)]
  | document =>
      [(.plain "kind", .plain), (⟨"discovery_version", "discoveryVersion"⟩, .plain),
        (.plain "id", .plain), (.plain "name", .plain), (.plain "version", .plain),
        (.plain "title", .plain), (.plain "description", .plain),
        (⟨"root_url", "rootUrl"⟩, .plain), (⟨"service_path", "servicePath"⟩, .plain),
        (⟨"base_path", "basePath"⟩, .plain), (.plain "parameters", .named .schema),
        (.plain "schemas", .named .schema), (.plain "resources", .named .resource),
        (.plain "methods", .named .method)]

/-! ## One reading for all kinds of record -/

/-- Schemas by name are read as a mapping. -/
theorem Schema.readNamed_eq_mapping : readNamed = Reading.mapping read := by
  have each (entries : List (Scalar × Value)) :
      readEntries entries = entries.map fun entry => (entry.1, read entry.2) := by
    induction entries with
    | nil => rw [readEntries, List.map_nil]
    | cons entry rest inductionHypothesis =>
        rw [readEntries, inductionHypothesis, List.map_cons]
  funext value
  cases value with
  | mapping entries => rw [readNamed, each, Reading.mapping]
  | _ => rfl

/-- Resources by name are read as a mapping. -/
theorem Resource.readNamed_eq_mapping : readNamed = Reading.mapping read := by
  have each (entries : List (Scalar × Value)) :
      readEntries entries = entries.map fun entry => (entry.1, read entry.2) := by
    induction entries with
    | nil => rw [readEntries, List.map_nil]
    | cons entry rest inductionHypothesis =>
        rw [readEntries, inductionHypothesis, List.map_cons]
  funext value
  cases value with
  | mapping entries => rw [readNamed, each, Reading.mapping]
  | _ => rfl

/-- What the records of a kind are read as. -/
def Model.Result : Model → Type
  | schema => Schema
  | method => Method
  | resource => Resource
  | document => Document

/-- Read a record of a kind. -/
def Model.read : (model : Model) → Value → Reading model.Result
  | schema => Schema.read
  | method => Method.read
  | resource => Resource.read
  | document => Document.read

/-- What the value of a field is read as. -/
def Contents.Result : Contents → Type
  | plain => Value
  | one model => model.Result
  | named model => List (String × model.Result)

/-- Read the value of a field, a value without records as itself. -/
def Contents.read : (contents : Contents) → Value → Reading contents.Result
  | plain => fun value => .fit value value
  | one model => model.read
  | named model => .mapping model.read

/-- Values that are read alike and are null together. -/
structure Contents.Alike (contents : Contents) (value changed : Value) : Prop where
  null : value.isNull = changed.isNull
  agree : (contents.read value).Agrees (contents.read changed)

/-- A way to read the value of a field under which values that are alike are read alike. -/
def Contents.Suits {α : Type} (contents : Contents) (read : Value → Reading α) : Prop :=
  ∀ value changed, contents.Alike value changed → (read value).Agrees (read changed)

namespace Contents

variable {α : Type}

/-- A value is like itself. -/
theorem Alike.refl (contents : Contents) (value : Value) : contents.Alike value value :=
  ⟨rfl, .refl _⟩

/-- A value without records can be read in any way. -/
theorem suits_plain (read : Value → Reading α) : plain.Suits read := by
  rintro value changed ⟨-, agree⟩
  obtain rfl : value = changed := agree.result
  exact .refl _

/-- A schema can be left open as null. -/
theorem suits_schema : (one .schema).Suits fun value =>
    Reading.optional value (Schema.read value) :=
  fun _ _ alike => Reading.optional_agrees alike.null alike.agree

/-- Schemas by name are read as a mapping. -/
theorem suits_schemas : (named .schema).Suits Schema.readNamed := by
  rw [Schema.readNamed_eq_mapping]
  exact fun _ _ alike => alike.agree

/-- Methods by name are read as a mapping. -/
theorem suits_methods : (named .method).Suits (Reading.mapping Method.read) :=
  fun _ _ alike => alike.agree

/-- Resources by name are read as a mapping. -/
theorem suits_resources : (named .resource).Suits Resource.readNamed := by
  rw [Resource.readNamed_eq_mapping]
  exact fun _ _ alike => alike.agree

end Contents

/-- Two rows of entries with text keys, in which each field of a record is found with values that
are alike. -/
structure Model.Matches (model : Model) (entries others : List (Scalar × Value)) : Prop where
  found : ∀ field ∈ model.fields, Option.Rel (fun entry other => field.2.Alike entry.2 other.2)
    (field.1.find? (textEntries entries)) (field.1.find? (textEntries others))
  texts : Reading.keyFaults entries = []
  otherTexts : Reading.keyFaults others = []

namespace Model.Matches

variable {model : Model} {entries others : List (Scalar × Value)} {slot : Slot}
  {contents : Contents} {α : Type} {read : Value → Reading α}

/-- A field that may be left out is read alike from two rows that match. -/
theorem optional (rows : model.Matches entries others) (isField : (slot, contents) ∈ model.fields)
    (suits : contents.Suits read) (default : α) :
    (Part.optional slot (textEntries entries) read default).Agrees
      (Part.optional slot (textEntries others) read default) :=
  Part.optional_agrees suits (rows.found _ isField) default

/-- A field that must be there is read alike from two rows that match. -/
theorem required (rows : model.Matches entries others) (isField : (slot, contents) ∈ model.fields)
    (suits : contents.Suits read) (default : α) :
    (Part.required slot entries read default).Agrees (Part.required slot others read default) :=
  Part.required_agrees suits (rows.found _ isField) default

end Model.Matches

/-! ## Records of each kind -/

namespace Schema

/-- The keys of a schema's fields that hold schemas themselves. -/
def innerKeys : List String :=
  ["items", "properties", "additionalProperties", "additional_properties"]

/-- The reading of the schemas at a key. -/
def innerAt (key : String) (value : Value) : Inner :=
  if key = "properties" then .many (readNamed value) else .one (.optional value (read value))

/-- Of the entries of a schema, those with schemas are read, each from its own value. -/
theorem readInner_eq (entries : List (Scalar × Value)) :
    readInner entries = ((textEntries entries).filter fun entry => entry.1 ∈ innerKeys).map
      fun entry => (entry.1, innerAt entry.1 entry.2) := by
  induction entries with
  | nil => rfl
  | cons entry rest inductionHypothesis =>
      obtain ⟨name, value⟩ := entry
      cases name with
      | text key =>
          by_cases known : key ∈ innerKeys
          · have cases := known
            simp only [innerKeys, List.mem_cons, List.not_mem_nil, or_false] at cases
            rcases cases with rfl | rfl | rfl | rfl <;>
              simp [readInner, textEntries, innerAt, inductionHypothesis, known]
          · have unread : readInner ((.text key, value) :: rest) = readInner rest := by
              rw [readInner] <;> rintro _ ⟨⟩ <;> simp [innerKeys] at known
            simp [unread, textEntries, inductionHypothesis, known]
      | _ => simp [readInner, textEntries, inductionHypothesis]

/-- A field with schemas is read as if it were read from the entries of the schema itself. -/
theorem optional_readInner {α : Type} {slot : Slot} {read : Inner → Reading α}
    {readValue : Value → Reading α} (known : slot.names ⊆ innerKeys)
    (reads : ∀ key ∈ slot.names, ∀ value, read (innerAt key value) = readValue value)
    (entries : List (Scalar × Value)) (default : α) :
    Part.optional slot (readInner entries) read default =
      Part.optional slot (textEntries entries) readValue default := by
  rw [Part.optional, Part.optional, readInner_eq, Slot.find?_map, Slot.find?_filter known]
  cases found : slot.find? (textEntries entries) with
  | none => rfl
  | some entry =>
      have value := reads _ (Slot.mem_names_of_find? found) entry.2
      simp [value]

/-- A field with at most one schema is read alike from two rows that match. -/
theorem one_agrees {entries others : List (Scalar × Value)} {slot : Slot}
    (rows : Model.schema.Matches entries others)
    (isField : (slot, Contents.one .schema) ∈ Model.schema.fields)
    (known : slot.names ⊆ innerKeys) (single : "properties" ∉ slot.names) :
    (Part.optional slot (readInner entries) Inner.toOne none).Agrees
      (Part.optional slot (readInner others) Inner.toOne none) := by
  have reads : ∀ key ∈ slot.names, ∀ value,
      (innerAt key value).toOne = .optional value (read value) := by
    intro key isName value
    have other : key ≠ "properties" := fun same => single (same ▸ isName)
    rw [innerAt, if_neg other, Inner.toOne]
  rw [optional_readInner known reads, optional_readInner known reads]
  exact rows.optional isField Contents.suits_schema none

/-- The properties are read alike from two rows that match. -/
theorem properties_agrees {entries others : List (Scalar × Value)}
    (rows : Model.schema.Matches entries others) :
    (Part.optional (.plain "properties") (readInner entries) Inner.toMany []).Agrees
      (Part.optional (.plain "properties") (readInner others) Inner.toMany []) := by
  have reads : ∀ key ∈ (Slot.plain "properties").names, ∀ value,
      (innerAt key value).toMany = readNamed value := by
    intro key isName value
    obtain rfl : key = "properties" := by simpa [Slot.names, Slot.plain] using isName
    rw [innerAt, if_pos rfl, Inner.toMany]
  rw [optional_readInner (by decide) reads, optional_readInner (by decide) reads]
  exact rows.optional (by decide) Contents.suits_schemas []

/-- Schemas with fields that match are read alike. -/
theorem read_agrees {entries others : List (Scalar × Value)}
    (rows : Model.schema.Matches entries others) :
    (read (.mapping entries)).Agrees (read (.mapping others)) := by
  have plain {α : Type} (slot : Slot) (isField : (slot, Contents.plain) ∈ Model.schema.fields)
      (read : Value → Reading α) (default : α) :=
    rows.optional isField (Contents.suits_plain read) default
  have id := plain (.plain "id") (by decide) Reading.optionalText none
  have type := plain (.plain "type") (by decide) Reading.optionalText none
  have reference := plain ⟨"ref", "$ref"⟩ (by decide) Reading.optionalText none
  have description := plain (.plain "description") (by decide) Reading.optionalText none
  have format := plain (.plain "format") (by decide) Reading.optionalText none
  have default := plain (.plain "default") (by decide) Reading.free ()
  have pattern := plain (.plain "pattern") (by decide) Reading.optionalText none
  have required := plain (.plain "required") (by decide) Reading.flag false
  have repeated := plain (.plain "repeated") (by decide) Reading.flag false
  have location := plain (.plain "location") (by decide) readLocation none
  have minimum := plain (.plain "minimum") (by decide) Reading.free ()
  have maximum := plain (.plain "maximum") (by decide) Reading.free ()
  have enum := plain (.plain "enum") (by decide)
    (fun value => Reading.optional value (Reading.list Reading.text value)) none
  have enumDescriptions := plain ⟨"enum_descriptions", "enumDescriptions"⟩ (by decide)
    (fun value => Reading.optional value (Reading.list Reading.text value)) none
  have items := one_agrees rows (by decide : (.plain "items", _) ∈ _) (by decide) (by decide)
  have properties := properties_agrees rows
  have additional := one_agrees rows
    (by decide : (⟨"additional_properties", "additionalProperties"⟩, _) ∈ _) (by decide)
    (by decide)
  rw [read, read, assemble, assemble]
  -- Every field has a part in the faults, but not every field has one in the result.
  constructor
  · simp only [Reading.opened, id.result, type.result, reference.result, description.result,
      format.result, required.result, repeated.result, location.result, items.result,
      additional.result]
  · simp only [Reading.opened_faultless rows.texts, Reading.opened_faultless rows.otherTexts,
      List.forall_mem_cons, id.faultless, type.faultless, reference.faultless,
      description.faultless, format.faultless, default.faultless, pattern.faultless,
      required.faultless, repeated.faultless, location.faultless, enum.faultless,
      enumDescriptions.faultless, minimum.faultless, maximum.faultless, items.faultless,
      properties.faultless, additional.faultless]

end Schema

/-- Methods with fields that match are read alike. -/
theorem Method.read_agrees {entries others : List (Scalar × Value)}
    (rows : Model.method.Matches entries others) :
    (read (.mapping entries)).Agrees (read (.mapping others)) := by
  have plain {α : Type} (slot : Slot) (isField : (slot, Contents.plain) ∈ Model.method.fields)
      (read : Value → Reading α) (default : α) :=
    rows.optional isField (Contents.suits_plain read) default
  have id := rows.required (by decide : (.plain "id", .plain) ∈ _)
    (Contents.suits_plain Reading.text) ""
  have path := rows.required (by decide : (.plain "path", .plain) ∈ _)
    (Contents.suits_plain Reading.text) ""
  have httpMethod := plain ⟨"http_method", "httpMethod"⟩ (by decide) Reading.text "GET"
  have flatPath := plain ⟨"flat_path", "flatPath"⟩ (by decide) Reading.optionalText none
  have description := plain (.plain "description") (by decide) Reading.optionalText none
  have parameters := rows.optional (by decide : (.plain "parameters", _) ∈ _)
    Contents.suits_schemas []
  have parameterOrder := plain ⟨"parameter_order", "parameterOrder"⟩ (by decide)
    (Reading.list Reading.text) []
  have request := rows.optional (by decide : (.plain "request", _) ∈ _)
    Contents.suits_schema none
  have response := rows.optional (by decide : (.plain "response", _) ∈ _)
    Contents.suits_schema none
  have scopes := plain (.plain "scopes") (by decide) (Reading.list Reading.text) []
  rw [read, read]
  constructor
  · simp only [Reading.opened, id.result, path.result, httpMethod.result, description.result,
      parameters.result, request.result]
  · simp only [Reading.opened_faultless rows.texts, Reading.opened_faultless rows.otherTexts,
      List.forall_mem_cons, id.faultless, path.faultless, httpMethod.faultless, flatPath.faultless,
      description.faultless, parameters.faultless, parameterOrder.faultless, request.faultless,
      response.faultless, scopes.faultless]

namespace Resource

/-- Of the entries of a resource, those with resources are read, each from its own value. -/
theorem readInner_eq (entries : List (Scalar × Value)) :
    readInner entries =
      ((textEntries entries).filter fun entry => entry.1 ∈ (Slot.plain "resources").names).map
        fun entry => (entry.1, readNamed entry.2) := by
  induction entries with
  | nil => rfl
  | cons entry rest inductionHypothesis =>
      obtain ⟨name, value⟩ := entry
      cases name with
      | text key =>
          by_cases known : key = "resources"
          · subst known
            simp [readInner, textEntries, inductionHypothesis, Slot.names, Slot.plain]
          · have unread : readInner ((.text key, value) :: rest) = readInner rest := by
              rw [readInner]
              rintro _ ⟨⟩
              exact known rfl
            simp [unread, textEntries, inductionHypothesis, known, Slot.names, Slot.plain]
      | _ => simp [readInner, textEntries, inductionHypothesis]

/-- The resources beneath a resource are read as if they were read from its own entries. -/
theorem optional_readInner (entries : List (Scalar × Value)) :
    Part.optional (.plain "resources") (readInner entries) id [] =
      Part.optional (.plain "resources") (textEntries entries) readNamed [] := by
  rw [Part.optional, Part.optional, readInner_eq, Slot.find?_map (fun _ => readNamed),
    Slot.find?_filter (List.Subset.refl _)]
  cases (Slot.plain "resources").find? (textEntries entries) <;> rfl

/-- Resources with fields that match are read alike. -/
theorem read_agrees {entries others : List (Scalar × Value)}
    (rows : Model.resource.Matches entries others) :
    (read (.mapping entries)).Agrees (read (.mapping others)) := by
  have methods := rows.optional (by decide : (.plain "methods", _) ∈ _)
    Contents.suits_methods []
  have resources := rows.optional (by decide : (.plain "resources", _) ∈ _)
    Contents.suits_resources []
  rw [read, read, assemble, assemble, optional_readInner, optional_readInner]
  constructor
  · simp only [Reading.opened, methods.result, resources.result]
  · simp only [Reading.opened_faultless rows.texts, Reading.opened_faultless rows.otherTexts,
      List.forall_mem_cons, methods.faultless, resources.faultless]

end Resource

/-- Documents with fields that match are read alike. -/
theorem Document.read_agrees {entries others : List (Scalar × Value)}
    (rows : Model.document.Matches entries others) :
    (read (.mapping entries)).Agrees (read (.mapping others)) := by
  have note (slot : Slot) (isField : (slot, Contents.plain) ∈ Model.document.fields) :=
    rows.optional isField (Contents.suits_plain Reading.optionalText) none
  have kind := note (.plain "kind") (by decide)
  have discoveryVersion := note ⟨"discovery_version", "discoveryVersion"⟩ (by decide)
  have id := note (.plain "id") (by decide)
  have name := rows.required (by decide : (.plain "name", .plain) ∈ _)
    (Contents.suits_plain Reading.text) ""
  have version := rows.required (by decide : (.plain "version", .plain) ∈ _)
    (Contents.suits_plain Reading.text) ""
  have title := note (.plain "title") (by decide)
  have description := note (.plain "description") (by decide)
  have rootUrl := note ⟨"root_url", "rootUrl"⟩ (by decide)
  have servicePath := note ⟨"service_path", "servicePath"⟩ (by decide)
  have basePath := note ⟨"base_path", "basePath"⟩ (by decide)
  have parameters := rows.optional (by decide : (.plain "parameters", _) ∈ _)
    Contents.suits_schemas []
  have schemas := rows.optional (by decide : (.plain "schemas", _) ∈ _)
    Contents.suits_schemas []
  have resources := rows.optional (by decide : (.plain "resources", _) ∈ _)
    Contents.suits_resources []
  have methods := rows.optional (by decide : (.plain "methods", _) ∈ _)
    Contents.suits_methods []
  rw [read, read]
  constructor
  · simp only [Reading.opened, name.result, version.result, schemas.result, resources.result,
      methods.result]
  · simp only [Reading.opened_faultless rows.texts, Reading.opened_faultless rows.otherTexts,
      List.forall_mem_cons, kind.faultless, discoveryVersion.faultless, id.faultless,
      name.faultless, version.faultless, title.faultless, description.faultless,
      rootUrl.faultless, servicePath.faultless, basePath.faultless, parameters.faultless,
      schemas.faultless, resources.faultless, methods.faultless]

/-- Records of any kind with fields that match are read alike. -/
theorem Model.read_agrees {model : Model} {entries others : List (Scalar × Value)}
    (rows : model.Matches entries others) :
    (model.read (.mapping entries)).Agrees (model.read (.mapping others)) := by
  cases model with
  | schema => exact Schema.read_agrees rows
  | method => exact Method.read_agrees rows
  | resource => exact Resource.read_agrees rows
  | document => exact Document.read_agrees rows

end RequestSurface
