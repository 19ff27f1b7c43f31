import Mathlib
import RequestSurface.Proofs.DocumentMethods
import RequestSurface.Proofs.MethodFailure

/-!
# Why a document is not lowered

A document is lowered unless one of its methods is not, and then the failure is about the first such
method in the order of the document: it names the method and its interface, and has the first cause
that applies to the method behind it. What the methods before it left in the import table does not
matter.
-/

namespace RequestSurface

namespace BatchContext

variable {context : BatchContext} {schemas : List (String × Schema)} {failure : Failure}

/-- A method of an interface that is not lowered: the failure names both and has the first cause
behind it. -/
def MethodFails (context : BatchContext) (schemas : List (String × Schema))
    (entry : String × Method) (failure : Failure) : Prop :=
  ∃ cause, FirstCause (context.causes schemas entry.2) cause ∧
    failure = .request entry.2.id (some entry.1) (some cause)

/-- The methods of an interface end with the first one that fails. -/
theorem failure_lowerMethods_eq_some_iff {interface : String} {methods : List Method}
    {table : ImportTable} :
    (context.lowerMethods schemas interface methods table).failure = some failure ↔
      FirstFailure (context.MethodFails schemas) (methods.map fun method => (interface, method))
        failure := by
  induction methods generalizing table with
  | nil => simp [lowerMethods]
  | cons method rest inductionHypothesis =>
      have causes (cause : Failure) :
          (context.lowerMethod schemas method table).result = .error cause ↔
            FirstCause (context.causes schemas method) cause := lowerMethod_eq_error_iff
      rw [List.map_cons, FirstFailure.cons_iff]
      simp only [MethodFails, ← causes]
      cases outcome : (context.lowerMethod schemas method table).result with
      | error cause => simp [lowerMethods, outcome, eq_comm]
      | ok unit => simp [lowerMethods, outcome, inductionHypothesis]

/-- Interfaces end with the first method of them that fails. -/
theorem failure_lowerInterfaces_eq_some_iff {interfaces : List Interface} :
    (context.lowerInterfaces schemas interfaces).failure = some failure ↔
      FirstFailure (context.MethodFails schemas) (interfaces.flatMap Interface.namedMethods)
        failure := by
  induction interfaces with
  | nil => simp [lowerInterfaces]
  | cons interface rest inductionHypothesis =>
      have first (other : Failure) :
          (context.lowerInterface schemas interface).failure = some other ↔
            FirstFailure (context.MethodFails schemas) interface.namedMethods other :=
        failure_lowerMethods_eq_some_iff
      rw [List.flatMap_cons, FirstFailure.append_iff, ← inductionHypothesis]
      simp only [← first]
      cases outcome : (context.lowerInterface schemas interface).failure with
      | some other => simp [lowerInterfaces, outcome]
      | none => simp [lowerInterfaces, outcome]

/-- A document is not lowered because of the first of its methods that fails. -/
theorem lower_eq_error_iff {document : Document} :
    (context.lower document).1 = .error failure ↔
      FirstFailure (context.MethodFails document.schemas) document.namedMethods failure := by
  rw [← document.flatMap_interfaces, ← failure_lowerInterfaces_eq_some_iff, lower]
  cases (context.lowerInterfaces document.schemas document.interfaces).failure <;> simp

end BatchContext

/-- A method that nothing is wrong with. -/
def plainMethod : Method where
  id := "a.bs.get"
  path := "\x7bx\x7d"

/-- A document with this method only. -/
def plainDocument : Document where
  name := "n"
  version := "v"
  methods := [("m", plainMethod)]

end RequestSurface
