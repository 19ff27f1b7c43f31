import RequestSurface.Document.Basic
import RequestSurface.Failure

/-!
# Validation of documents

Content is a document when it is a mapping to which nothing is objected; otherwise the objections
are reported together. How content is read is left to a judge. Values are judged by the faults of
their reading.
-/

namespace RequestSurface

/-- What is wrong at a place in some content. -/
structure Objection where
  location : List Step
  message : String
  deriving DecidableEq, Repr

/-- An objection on one line. -/
def Objection.line (objection : Objection) : String :=
  String.intercalate "." (objection.location.map Step.text) ++ ": " ++ objection.message

/-- How content is judged: whether it is a mapping, what its kind is called, and which document it
is. There is at least one objection to content that is none. -/
structure Judge (Content : Type) where
  isMapping : Content -> Bool
  kind : Content -> String
  document : Content -> Except (List Objection) Document
  objects : ∀ content, document content ≠ .error []

/-- Accept content as a document. -/
def Judge.validate {Content : Type} (judge : Judge Content) (content : Content)
    (source : String) : Except Failure Document :=
  if judge.isMapping content then
    match judge.document content with
    | .ok document => .ok document
    | .error objections => .error (.invalid source (objections.map Objection.line))
  else .error (.invalid source ["expected a mapping, got " ++ judge.kind content])

/-- Accepted content is a mapping that its judge accepts. -/
theorem Judge.validate_eq_ok_iff {Content : Type} {judge : Judge Content} {content : Content}
    {source : String} {document : Document} :
    judge.validate content source = .ok document ↔
      judge.isMapping content = true ∧ judge.document content = .ok document := by
  rw [validate]
  cases judge.isMapping content <;> cases judge.document content <;> simp

/-- What a fault says without the value that was given. -/
def Fault.objection (fault : Fault) : Objection where
  location := fault.location
  message := fault.demand.message

/-- Whether a value is a mapping. -/
def Value.isMapping : Value -> Bool
  | .mapping _ => true
  | _ => false

/-- A reading that is not accepted has faults. -/
theorem Reading.accept_ne_error_nil {α : Type} (reading : Reading α) :
    reading.accept ≠ .error [] := by
  rw [accept]
  split
  · nofun
  · rename_i faulty
    simpa using faulty

/-- Values are judged by their reading. -/
def Value.judge : Judge Value where
  isMapping := isMapping
  kind := kind
  document content := (Document.read content).accept.mapError (·.map Fault.objection)
  objects content := by
    intro unfounded
    cases outcome : (Document.read content).accept with
    | ok document =>
        rw [outcome] at unfounded
        cases unfounded
    | error faults =>
        rw [outcome] at unfounded
        have faultless : faults = [] := List.map_eq_nil_iff.mp (Except.error.inj unfounded)
        exact (Document.read content).accept_ne_error_nil (faultless ▸ outcome)

/-- Accept a value as a document. -/
def Document.validate (content : Value) (source : String) : Except Failure Document :=
  Value.judge.validate content source

end RequestSurface
