import Mathlib
import RequestSurface.Batch
import RequestSurface.Document.Validation
import RequestSurface.Proofs.Batch
import RequestSurface.Proofs.RecordReadings

/-!
# Documents in other words

A document can be put in other words: a field can be given under either of its names, and a record
can have keys that are no names of its fields. `Restated` says when one value is another in other
words. What counts as a field is a matter of the record that a key stands in: the same key is a
field in one, unknown to another, and in a mapping by name it is a name like any other.

The reading of a restated value agrees with that of the value itself, by induction on how it was
restated. So it is accepted when the value itself is, and lowered to the same units.
-/

namespace RequestSurface

/-- Whether a key is a name of a field. -/
def Model.Knows (model : Model) (key : String) : Prop :=
  ∃ field ∈ model.fields, key ∈ field.1.names

/-- Whether no field is given twice. -/
def Model.GivenOnce (model : Model) (entries : List (Scalar × Value)) : Prop :=
  ∀ field ∈ model.fields, (field.1.given (textEntries entries)).length ≤ 1

instance (model : Model) (key : String) : Decidable (model.Knows key) :=
  inferInstanceAs (Decidable (∃ field ∈ model.fields, key ∈ field.1.names))

instance (model : Model) (entries : List (Scalar × Value)) : Decidable (model.GivenOnce entries) :=
  inferInstanceAs
    (Decidable (∀ field ∈ model.fields, (field.1.given (textEntries entries)).length ≤ 1))

mutual

/-- One value is another in other words: it is the same value, a record with restated fields in any
order, or restated records under the same names. -/
inductive Restated : Contents → Value → Value → Prop where
  | same {contents : Contents} {value : Value} : Restated contents value value
  | record {model : Model} {entries restated others : List (Scalar × Value)}
      (once : model.GivenOnce entries) (fields : RestatedFields model entries restated)
      (order : restated.Perm others) : Restated (.one model) (.mapping entries) (.mapping others)
  | named {model : Model} {entries others : List (Scalar × Value)}
      (records : RestatedRecords model entries others) :
      Restated (.named model) (.mapping entries) (.mapping others)

/-- The entries of a record in other words: a field with any of its names and with a restated
value, and keys left out or put in that are no names of fields. -/
inductive RestatedFields : Model → List (Scalar × Value) → List (Scalar × Value) → Prop where
  | nil {model : Model} : RestatedFields model [] []
  | field {model : Model} {slot : Slot} {contents : Contents} {name other : String}
      {value changed : Value} {rest others : List (Scalar × Value)}
      (isField : (slot, contents) ∈ model.fields) (isName : name ∈ slot.names)
      (isOther : other ∈ slot.names) (restated : Restated contents value changed)
      (rests : RestatedFields model rest others) :
      RestatedFields model ((.text name, value) :: rest) ((.text other, changed) :: others)
  | leftOut {model : Model} {key : String} {value : Value} {rest others : List (Scalar × Value)}
      (unknown : ¬ model.Knows key) (rests : RestatedFields model rest others) :
      RestatedFields model ((.text key, value) :: rest) others
  | putIn {model : Model} {key : String} {value : Value} {rest others : List (Scalar × Value)}
      (unknown : ¬ model.Knows key) (rests : RestatedFields model rest others) :
      RestatedFields model rest ((.text key, value) :: others)

/-- Records by name in other words: the same names, with restated records. -/
inductive RestatedRecords : Model → List (Scalar × Value) → List (Scalar × Value) → Prop where
  | nil {model : Model} : RestatedRecords model [] []
  | cons {model : Model} {name : Scalar} {value changed : Value}
      {rest others : List (Scalar × Value)} (restated : Restated (.one model) value changed)
      (rests : RestatedRecords model rest others) :
      RestatedRecords model ((name, value) :: rest) ((name, changed) :: others)

end

/-- No key is a name of two fields of a record. -/
theorem Model.field_unique {model : Model} {field other : Slot × Contents} {key : String}
    (isField : field ∈ model.fields) (isOther : other ∈ model.fields)
    (named : key ∈ field.1.names) (alsoNamed : key ∈ other.1.names) : field = other := by
  have apart : ∀ first ∈ model.fields, ∀ second ∈ model.fields, ∀ name ∈ first.1.names,
      name ∈ second.1.names → first = second := by
    cases model <;> decide +kernel
  exact apart field isField other isOther key named alsoNamed

/-! ## What stays the same in other words -/

/-- Rows of entries match in which each field is given at most once and with values that are alike.
The order of the entries does not matter then. -/
theorem Model.matches_of_given {model : Model} {entries restated others : List (Scalar × Value)}
    (once : model.GivenOnce entries)
    (given : ∀ field ∈ model.fields,
      List.Forall₂ (fun entry other => field.2.Alike entry.2 other.2)
        (field.1.given (textEntries entries)) (field.1.given (textEntries restated)))
    (order : restated.Perm others) (texts : Reading.keyFaults entries = [])
    (otherTexts : Reading.keyFaults restated = []) : model.Matches entries others where
  found := by
    intro field isField
    have alike := given field isField
    have reordered : (field.1.given (textEntries restated)).Perm
        (field.1.given (textEntries others)) := (order.filterMap _).filter _
    have entriesOnce := once field isField
    have othersOnce : (field.1.given (textEntries others)).length ≤ 1 := by
      rwa [← reordered.length_eq, ← alike.length_eq]
    -- At most one entry is left on each side, and one entry has only one order.
    rw [Slot.find?_eq_head? entriesOnce, Slot.find?_eq_head? othersOnce]
    generalize field.1.given (textEntries entries) = before at alike entriesOnce ⊢
    generalize field.1.given (textEntries restated) = changed at alike reordered
    cases alike with
    | nil =>
        rw [← reordered.nil_eq]
        exact .none
    | cons first rest =>
        obtain rfl := List.eq_nil_of_length_eq_zero
          (Nat.le_zero.mp (Nat.le_of_succ_le_succ entriesOnce))
        obtain rfl := List.forall₂_nil_left_iff.mp rest
        rw [← List.singleton_perm.mp reordered]
        exact .some first
  texts := texts
  otherTexts := List.perm_nil.mp (otherTexts ▸ (order.filterMap _).symm)

/-- The keys of a record in other words are texts, before and after. -/
theorem RestatedFields.texts {model : Model} {entries others : List (Scalar × Value)}
    (restated : RestatedFields model entries others) :
    Reading.keyFaults entries = [] ∧ Reading.keyFaults others = [] := by
  match restated with
  | .nil => exact ⟨rfl, rfl⟩
  | .field _ _ _ _ rests =>
      have others := rests.texts
      exact ⟨by simpa [Reading.keyFaults] using others.1, by simpa [Reading.keyFaults] using others.2⟩
  | .leftOut _ rests =>
      have others := rests.texts
      exact ⟨by simpa [Reading.keyFaults] using others.1, others.2⟩
  | .putIn _ rests =>
      have others := rests.texts
      exact ⟨others.1, by simpa [Reading.keyFaults] using others.2⟩

mutual

/-- A value is read like the same value in other words. -/
theorem Restated.alike {contents : Contents} {value changed : Value}
    (restated : Restated contents value changed) : contents.Alike value changed := by
  cases restated with
  | same => exact .refl _ _
  | record once fields order =>
      have rows := Model.matches_of_given once fields.given_alike order fields.texts.1 fields.texts.2
      exact ⟨rfl, Model.read_agrees rows⟩
  | named records => exact ⟨rfl, Reading.mapping_agrees records.pointwise⟩

/-- The values of a field that are given before and after are alike. -/
theorem RestatedFields.given_alike {model : Model} {entries others : List (Scalar × Value)}
    (restated : RestatedFields model entries others) :
    ∀ field ∈ model.fields, List.Forall₂ (fun entry other => field.2.Alike entry.2 other.2)
      (field.1.given (textEntries entries)) (field.1.given (textEntries others)) := by
  intro field isField
  cases restated with
  | nil => exact .nil
  | @field _ slot contents name other _ _ _ _ isOwn isName isOther restated rests =>
      have others := rests.given_alike field isField
      -- Both names belong to one field, so the entry counts for it and for no other one.
      by_cases own : field = (slot, contents)
      · subst own
        simpa [Slot.given, textEntries, isName, isOther] using ⟨restated.alike, others⟩
      · have named : name ∉ field.1.names := fun named =>
          own (Model.field_unique isField isOwn named isName)
        have otherNamed : other ∉ field.1.names := fun named =>
          own (Model.field_unique isField isOwn named isOther)
        simpa [Slot.given, textEntries, named, otherNamed] using others
  | @leftOut _ key _ _ _ unknown rests =>
      have others := rests.given_alike field isField
      have unnamed : key ∉ field.1.names := fun named => unknown ⟨field, isField, named⟩
      simpa [Slot.given, textEntries, unnamed] using others
  | @putIn _ key _ _ _ unknown rests =>
      have others := rests.given_alike field isField
      have unnamed : key ∉ field.1.names := fun named => unknown ⟨field, isField, named⟩
      simpa [Slot.given, textEntries, unnamed] using others

/-- Records by name have the same names and are read alike, one by one. -/
theorem RestatedRecords.pointwise {model : Model} {entries others : List (Scalar × Value)}
    (restated : RestatedRecords model entries others) :
    List.Forall₂ (fun entry other =>
      entry.1 = other.1 ∧ (model.read entry.2).Agrees (model.read other.2)) entries others := by
  cases restated with
  | nil => exact .nil
  | cons restated rests => exact .cons ⟨rfl, restated.alike.agree⟩ rests.pointwise

end

/-- A value is accepted as a document when its reading is. -/
theorem Document.validate_eq_ok_iff {content : Value} {source : String} {document : Document} :
    validate content source = .ok document ↔ (read content).accept = .ok document := by
  rw [validate, Judge.validate_eq_ok_iff]
  cases content with
  | mapping entries =>
      cases outcome : (read (.mapping entries)).accept <;>
        simp [Value.judge, Value.isMapping, outcome, Except.mapError]
  | _ => simp [Value.judge, Value.isMapping, read, Reading.misfit, Reading.accept]

/-- A document in other words is accepted when the document itself is, whatever the sources of the
two, and in every context both are lowered to the same units, or to the same failure, with the same
notices. -/
theorem lower_eq_of_restated (content other : Value) (restated : Restated (.one .document) content other)
    (source otherSource : String) :
    ((∃ document, Document.validate content source = .ok document) ↔
      ∃ document, Document.validate other otherSource = .ok document) ∧
    ∀ document otherDocument, Document.validate content source = .ok document →
      Document.validate other otherSource = .ok otherDocument →
      ∀ context : BatchContext, context.lower document = context.lower otherDocument := by
  have accepted (document : Document) : Document.validate content source = .ok document ↔
      Document.validate other otherSource = .ok document := by
    have agree : (Document.read content).Agrees (Document.read other) := restated.alike.agree
    rw [Document.validate_eq_ok_iff, Document.validate_eq_ok_iff, agree.accept]
  refine ⟨exists_congr accepted, ?_⟩
  intro document otherDocument valid otherValid context
  have same : Except.ok document = .ok otherDocument :=
    ((accepted document).mp valid).symm.trans otherValid
  rw [Except.ok.inj same]

/-- A document with a method and a schema that go by names of fields. The method has a key that
only a schema knows. -/
def catalogue : Value :=
  .record
    [("version", .text "v1"), ("name", .text "catalogue"), ("rootUrl", .text "https://example.com/"),
      ("schemas", .record [("ref", .record [("$ref", .text "Book")])]),
      ("methods", .record [("httpMethod", .record
        [("id", .text "catalogue.list"), ("path", .text "books"), ("httpMethod", .text "GET"),
          ("$ref", .text "Book"),
          ("parameters", .record [("$ref", .record [("additionalProperties", .null)])])])])]

/-- The same document in other words. Its records have the other names of their fields, the keys
that they do not know are others, and the document begins with its name. -/
def restatedCatalogue : Value :=
  .record
    [("name", .text "catalogue"), ("version", .text "v1"),
      ("root_url", .text "https://example.com/"),
      ("schemas", .record [("ref", .record [("httpMethod", .list []), ("ref", .text "Book")])]),
      ("methods", .record [("httpMethod", .record
        [("id", .text "catalogue.list"), ("path", .text "books"), ("http_method", .text "GET"),
          ("parameters", .record [("$ref", .record [("additional_properties", .null)])])])]),
      ("etag", .null)]

/-- Both are accepted, and lowered alike. -/
theorem lower_eq_of_restated_catalogue :
    Restated (.one .document) catalogue restatedCatalogue ∧
    (∃ document, Document.validate catalogue "catalogue.json" = .ok document) ∧
    ∃ document, Document.validate restatedCatalogue "catalogue.yaml" = .ok document ∧
      ∀ other, Document.validate catalogue "catalogue.json" = .ok other →
        ∀ context : BatchContext, context.lower other = context.lower document := by
  have schema : Restated (.one .schema) (.record [("$ref", .text "Book")])
      (.record [("httpMethod", .list []), ("ref", .text "Book")]) :=
    .record (by decide) (.putIn (by decide)
      (.field (by decide : (⟨"ref", "$ref"⟩, .plain) ∈ _) (by decide) (by decide) .same .nil)) (.refl _)
  have parameter : Restated (.one .schema) (.record [("additionalProperties", .null)])
      (.record [("additional_properties", .null)]) :=
    .record (by decide) (.field
      (by decide : (⟨"additional_properties", "additionalProperties"⟩, .one .schema) ∈ _)
      (by decide) (by decide) .same .nil) (.refl _)
  have method : Restated (.one .method)
      (.record [("id", .text "catalogue.list"), ("path", .text "books"),
        ("httpMethod", .text "GET"), ("$ref", .text "Book"),
        ("parameters", .record [("$ref", .record [("additionalProperties", .null)])])])
      (.record [("id", .text "catalogue.list"), ("path", .text "books"),
        ("http_method", .text "GET"),
        ("parameters", .record [("$ref", .record [("additional_properties", .null)])])]) :=
    .record (by decide)
      (.field (by decide : (.plain "id", .plain) ∈ _) (by decide) (by decide) .same
        (.field (by decide : (.plain "path", .plain) ∈ _) (by decide) (by decide) .same
          (.field (by decide : (⟨"http_method", "httpMethod"⟩, .plain) ∈ _) (by decide) (by decide)
            .same
            (.leftOut (by decide)
              (.field (by decide : (.plain "parameters", .named .schema) ∈ _) (by decide)
                (by decide) (.named (.cons parameter .nil)) .nil))))) (.refl _)
  have restated : Restated (.one .document) catalogue restatedCatalogue :=
    .record (by decide)
      (.field (by decide : (.plain "version", .plain) ∈ _) (by decide) (by decide) .same
        (.field (by decide : (.plain "name", .plain) ∈ _) (by decide) (by decide) .same
          (.field (by decide : (⟨"root_url", "rootUrl"⟩, .plain) ∈ _) (by decide) (by decide) .same
            (.field (by decide : (.plain "schemas", .named .schema) ∈ _) (by decide) (by decide)
              (.named (.cons schema .nil))
              (.field (by decide : (.plain "methods", .named .method) ∈ _) (by decide) (by decide)
                (.named (.cons method .nil)) (.putIn (by decide) .nil)))))) (.swap _ _ _)
  obtain ⟨document, valid⟩ := exists_eq_ok_of_isOk
    (show (Document.validate catalogue "catalogue.json").isOk = true by decide +kernel)
  have alike := lower_eq_of_restated catalogue restatedCatalogue restated "catalogue.json"
    "catalogue.yaml"
  obtain ⟨other, otherValid⟩ := alike.1.mp ⟨document, valid⟩
  exact ⟨restated, ⟨document, valid⟩, other, otherValid,
    fun _ accepted => alike.2 _ other accepted otherValid⟩

end RequestSurface
