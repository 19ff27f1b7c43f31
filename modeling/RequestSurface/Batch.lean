import RequestSurface.Interface
import RequestSurface.OutputUnit

/-!
# Batches

All methods of a document, lowered interface by interface. The methods of one interface share
one import table, and no table outlives its interface. The first method that fails ends the batch;
the notices say how far it came.
-/

namespace RequestSurface

/-- What a batch reports while it runs. -/
inductive Notice where
  | unknownMethod (methodId : String)
  | generating (count : Nat) (interface : String)
  | aliased (qualifiedName localName : String)
  | built (typeName methodId : String) (count : Nat)
  | resourceName (methodId fieldName : String) (pattern : Option String)
  | generated (count : Nat) (api : String)
  | loaded (name version : String)
  deriving DecidableEq, Repr

namespace Notice

/-- The level of a notice. -/
def level : Notice -> String
  | unknownMethod _ => "WARNING"
  | _ => "DEBUG"

/-- The text of a notice. -/
def text : Notice -> String
  | unknownMethod methodId => "Ignoring settings of unknown method '" ++ methodId ++ "'"
  | generating count interface => s!"Generating {count} request views for " ++ interface
  | aliased qualifiedName localName => "Aliasing '" ++ qualifiedName ++ "' as '" ++ localName ++ "'"
  | built typeName methodId count =>
      "Built " ++ typeName ++ " for " ++ methodId ++ s!" with {count} properties"
  | resourceName methodId fieldName pattern =>
      methodId ++ " uses resource name " ++ fieldName ++ " (" ++ pattern.getD "None" ++ ")"
  | generated count api => s!"Generated {count} output units for " ++ api
  | loaded name version => "Loaded discovery document " ++ name ++ " " ++ version

end Notice

/-- Notices for the types that were recorded under another name than their own. -/
def ImportTable.notices (table earlier : ImportTable) : List Notice :=
  ((table.since earlier).filter Import.isAliased).map fun entry =>
    .aliased entry.qualifiedName entry.localName

/-- A surface together with the settings of a document and the place for its output. -/
structure BatchContext where
  surface : Surface
  settings : DocumentSettings
  root : OutputRoot

/-- What lowering one method gives. -/
structure MethodOutcome where
  result : Except Failure OutputUnit
  table : ImportTable
  notices : List Notice

/-- What lowering several methods gives: the units before the first failure, and that failure. -/
structure BatchOutcome where
  units : List OutputUnit := []
  notices : List Notice := []
  failure : Option Failure := none

namespace BatchContext

/-- The context of a batch with some settings on a surface. -/
def ofSettings (surface : Surface) (settings : DocumentSettings) : Except Failure BatchContext :=
  match OutputRoot.read settings.output with
  | .ok root => .ok ⟨surface, settings, root⟩
  | .error fault => .error (.input (.badRoot fault))

/-- What building a message needs, for a document with some schemas. -/
def requestContext (context : BatchContext) (schemas : List (String × Schema)) :
    RequestContext where
  surface := context.surface
  packageName := context.settings.packageName
  reservedWords := context.settings.reservedWords
  schemas := schemas

/-- The notice about a resource-name parameter. -/
def parameterNotices (method : Method) (parameter : Option ResourceNameParameter) : List Notice :=
  parameter.toList.map fun parameter =>
    .resourceName method.id parameter.fieldName parameter.pattern

/-- Lower one method. -/
def lowerMethod (context : BatchContext) (schemas : List (String × Schema)) (method : Method)
    (table : ImportTable) : MethodOutcome :=
  match Flattening.ofSettings context.settings method with
  | .error failure => ⟨.error failure, table, []⟩
  | .ok flattening =>
      match (context.requestContext schemas).build method flattening table with
      | (.error failure, spelled) => ⟨.error failure, spelled, spelled.notices table⟩
      | (.ok built, spelled) =>
          let message := built.message
          let (unit, complete) := OutputUnit.assemble context.surface
            context.settings.packageName context.root message spelled
          let notices := spelled.notices table ++
            [.built message.typeName method.id message.properties.length] ++
            parameterNotices method built.parameter ++ complete.notices spelled
          ⟨unit.mapError fun fault => .input (.badRoot fault), complete, notices⟩

/-- Lower the methods of an interface, which share a table. -/
def lowerMethods (context : BatchContext) (schemas : List (String × Schema))
    (interface : String) : List Method -> ImportTable -> BatchOutcome
  | [], _ => {}
  | method :: rest, table =>
      let outcome := context.lowerMethod schemas method table
      match outcome.result with
      | .error failure =>
          { notices := outcome.notices,
            failure := some (.request method.id (some interface) (some failure)) }
      | .ok unit =>
          let others := context.lowerMethods schemas interface rest outcome.table
          { others with
            units := unit :: others.units, notices := outcome.notices ++ others.notices }

/-- Lower one interface with a table of its own. -/
def lowerInterface (context : BatchContext) (schemas : List (String × Schema))
    (interface : Interface) : BatchOutcome :=
  let outcome := context.lowerMethods schemas interface.name interface.methods {}
  { outcome with
    notices := .generating interface.methods.length interface.name :: outcome.notices }

/-- Lower interfaces up to the first failure. -/
def lowerInterfaces (context : BatchContext) (schemas : List (String × Schema)) :
    List Interface -> BatchOutcome
  | [] => {}
  | interface :: rest =>
      let outcome := context.lowerInterface schemas interface
      match outcome.failure with
      | some _ => outcome
      | none =>
          let others := context.lowerInterfaces schemas rest
          { others with
            units := outcome.units ++ others.units,
            notices := outcome.notices ++ others.notices }

/-- Lower a document: its output units in the order of their paths, or the first failure, and the
notices given on the way. -/
def lower (context : BatchContext) (document : Document) :
    Except Failure (List OutputUnit) × List Notice :=
  let interfaces := document.interfaces
  let known := interfaces.flatMap fun interface => interface.methods.map Method.id
  let warnings := (context.settings.unknownMethods known).map Notice.unknownMethod
  let outcome := context.lowerInterfaces document.schemas interfaces
  match outcome.failure with
  | some failure => (.error failure, warnings ++ outcome.notices)
  | none =>
      (.ok (OutputUnit.sort outcome.units),
        warnings ++ outcome.notices ++ [.generated outcome.units.length document.name])

end BatchContext

end RequestSurface
