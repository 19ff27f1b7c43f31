import RequestSurface.Message.Request
import RequestSurface.OutputRoot
import RequestSurface.Text.SortKey

/-!
# Output units

A finished message with the place of its file and the imports at its head. The imports are taken
when the message is complete, so every type it mentions is among them.
-/

namespace RequestSurface

/-- One file to be rendered. -/
structure OutputUnit where
  path : String
  imports : List Import
  packageName : String
  message : RequestMessage
  templateName : String
  deriving DecidableEq, Repr, Inhabited

/-- An import as a value. -/
def Import.toValue (entry : Import) : Value :=
  .record [("qualified_name", .text entry.qualifiedName), ("alias", .text entry.localName)]

namespace OutputUnit

/-- The place of the file of a message class. -/
def pathFor (surface : Surface) (packageName : String) (root : OutputRoot) (typeName : String) :
    Except OutputRoot.Fault String :=
  root.place (Surface.packagePath packageName ++ [surface.fileName typeName])

/-- Place a message. Its file imports the core types and everything recorded so far, which are
recorded even if there is no place for it. -/
def assemble (surface : Surface) (packageName : String) (root : OutputRoot)
    (message : RequestMessage) (table : ImportTable) :
    Except OutputRoot.Fault OutputUnit × ImportTable :=
  let complete := table.insertAll surface.coreImports
  let unit := (pathFor surface packageName root message.typeName).map fun path =>
    { path := path, imports := complete.imports, packageName := packageName, message := message,
      templateName := surface.templateName }
  (unit, complete)

/-- What output units are ordered by: the path without regard to case, then the path. -/
def pathKey (path : String) : Text.SortKey :=
  [Text.caseFold path, path]

/-- Put output units in order; those at equal paths keep theirs. -/
def sort (units : List OutputUnit) : List OutputUnit :=
  Text.SortKey.sort (fun unit => pathKey unit.path) units

/-- An output unit as a value. -/
def toValue (unit : OutputUnit) : Value :=
  let imports := Value.list (unit.imports.map Import.toValue)
  .record
    [("output_path", .text unit.path), ("imports", imports),
      ("file_header", .record [("package_name", .text unit.packageName), ("imports", imports)]),
      ("message_view", unit.message.toValue), ("template_name", .text unit.templateName)]

end OutputUnit

end RequestSurface
