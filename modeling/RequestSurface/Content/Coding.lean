import RequestSurface.Content.Wrapped
import RequestSurface.Text.Casing
import RequestSurface.Text.Lines
import RequestSurface.Text.Pieces

/-!
# Content codings

How the content of a response was coded on its way. Codings are named in the order in which they
were applied, and are undone from the last to the first. A coding that is not known is passed over.
-/

namespace RequestSurface.Content

/-- A known coding. -/
inductive Coding where
  | identity
  | gzip
  | deflate
  deriving DecidableEq, Repr

namespace Coding

/-- The coding of a name, whatever its case. -/
def ofName? (name : List Char) : Option Coding :=
  [("identity", identity), ("gzip", gzip), ("deflate", deflate)].lookup
    (String.ofList (Text.lowerCase (Text.trim name)))

/-- The known codings in a list with commas. -/
def ofText (text : String) : List Coding :=
  (Text.piecesAt ',' text.toList).filterMap ofName?

/-- Undo a coding. Content that is not sealed as it should be is taken to be packed alone. -/
def undo (coding : Coding) (bytes : List UInt8) : Except Fault (List UInt8) :=
  match coding with
  | identity => .ok bytes
  | gzip => Wrapped.unpack bytes
  | deflate =>
      match unpackSealed? bytes with
      | some output => .ok output
      | none => (unpack bytes).mapError .packing

/-- Undo some codings. -/
def undoAll (codings : List Coding) (bytes : List UInt8) : Except Fault (List UInt8) :=
  codings.reverse.foldlM (fun bytes coding => coding.undo bytes) bytes

end Coding

end RequestSurface.Content
