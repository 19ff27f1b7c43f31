import RequestSurface.Batch
import RequestSurface.Console.Table
import RequestSurface.Json.Printer
import RequestSurface.Surroundings

/-!
# The command line

What the arguments ask for, and what is printed. Every document of the configuration is lowered
before anything is printed, so a failure leaves nothing but its own message.
-/

namespace RequestSurface

/-- What the program is asked to do. -/
inductive Command where
  | generate (configuration : Option String) (asJson : Bool)
  | version
  deriving DecidableEq, Repr

namespace Command

/-- Options of a command, as far as they have been read. -/
structure Options where
  configuration : Option String := none
  asJson : Bool := false
  deriving DecidableEq, Repr

/-- An option without value, or one with a value that may be attached to it. -/
inductive Choice where
  | json
  | configuration (attached : Option String)
  deriving DecidableEq, Repr

/-- The option that an argument stands for, if it is one. A long name may have a value after an
equals sign, and the short one has its value directly after it. -/
def Choice.ofArgument? (argument : String) : Option Choice :=
  match argument.toList with
  | '-' :: '-' :: rest =>
      let name := rest.takeWhile (· != '=')
      let value := (rest.drop name.length).tail?.map String.ofList
      match String.ofList name, value with
      | "config", value => some (configuration value)
      | "json", none => some json
      | _, _ => none
  | '-' :: 'c' :: [] => some (configuration none)
  | '-' :: 'c' :: value => some (configuration (some (String.ofList value)))
  | _ => none

/-- Read the options of a command. Anything else is an error of usage. -/
def readOptions (options : Options) : List String -> Option Options
  | [] => some options
  | ["--"] => some options
  | argument :: rest =>
      match Choice.ofArgument? argument, rest with
      | some .json, rest => readOptions { options with asJson := true } rest
      | some (.configuration (some value)), rest =>
          readOptions { options with configuration := some value } rest
      | some (.configuration none), value :: rest =>
          readOptions { options with configuration := some value } rest
      | some (.configuration none), [] => none
      | none, _ => none

/-- Read the arguments of a command that has been named. -/
def ofWords? : List String -> Option Command
  | "generate" :: rest => (readOptions {} rest).map fun options =>
      .generate options.configuration options.asJson
  | ["version"] => some .version
  | ["version", "--"] => some .version
  | _ => none

/-- Read all arguments. -/
def ofArguments? : List String -> Option Command
  | "--" :: rest => ofWords? rest
  | arguments => ofWords? arguments

end Command

/-- The output units of a document, with the source it came from. -/
structure Lowered where
  source : String
  units : List OutputUnit

/-- Load a document and lower all of its methods. -/
def Surroundings.lower (surroundings : Surroundings) (settings : DocumentSettings) :
    Except Failure Lowered := do
  let context ← BatchContext.ofSettings settings.surface settings
  let document ← surroundings.load settings.source
  let units ← (context.lower document).1
  return ⟨settings.source, units⟩

/-- Load and lower every document of the configuration. -/
def Surroundings.lowerAll (surroundings : Surroundings) (name : Option String) :
    Except Failure (List Lowered) := do
  let configuration ← surroundings.configuration name
  configuration.documents.mapM surroundings.lower

namespace Lowered

/-- The units as a value. -/
def toValue (lowered : Lowered) : Value :=
  .record
    [("source", .text lowered.source), ("units", .list (lowered.units.map OutputUnit.toValue))]

/-- The table of the units. -/
def table (lowered : Lowered) : Console.Table where
  title := lowered.source
  columns :=
    [⟨"Output path", .left⟩, ⟨"Message", .left⟩, ⟨"Properties", .right⟩, ⟨"Imports", .right⟩]
  rows := lowered.units.map fun unit =>
    [unit.path, unit.message.typeName, toString unit.message.properties.length,
      toString unit.imports.length]

/-- The line after the table. -/
def summary (lowered : Lowered) : String :=
  s!"[green]Generated {lowered.units.length} request views for " ++ lowered.source ++ "[/green]"

end Lowered

/-- What a run prints and how it ends. A run breaks off at what cannot be printed. -/
structure RunOutcome where
  exitCode : Nat
  output : String
  fault : Option Console.Fault := none
  deriving DecidableEq, Repr

namespace RunOutcome

/-- Print one thing after another, up to the first that cannot be printed. -/
def printing (exitCode : Nat) (printed : String) : List (Except Console.Fault String) -> RunOutcome
  | [] => ⟨exitCode, printed, none⟩
  | .ok text :: rest => printing exitCode (printed ++ text) rest
  | .error fault :: _ => ⟨1, printed, some fault⟩

/-- Tell a failure. -/
def failing (failure : Failure) : RunOutcome :=
  printing 1 "" [Console.printText ("[red]Error:[/red] " ++ failure.message)]

/-- Tell what was lowered. -/
def telling (asJson : Bool) (batches : List Lowered) : RunOutcome :=
  if asJson then
    ⟨0, Json.write (.indented 0) (.list (batches.map Lowered.toValue)) ++ "\n", none⟩
  else
    printing 0 "" (batches.flatMap fun lowered =>
      [lowered.table.print, Console.printText lowered.summary])

end RunOutcome

/-- The version of the program. -/
def versionText : String := "0.1.0"

/-- Run a command. -/
def Command.run (surroundings : Surroundings) : Command -> RunOutcome
  | generate name asJson =>
      match surroundings.lowerAll name with
      | .error failure => .failing failure
      | .ok batches => .telling asJson batches
  | version => .printing 0 "" [Console.printText ("discoview version: " ++ versionText)]

/-- The files that a command looks for first. -/
def Command.configurationPaths : Command -> List Path
  | generate name _ => FileTree.configurationPaths name
  | version => []

/-- The files that hold the documents of a command's configuration. -/
def Command.documentPaths (files : FileTree) : Command -> List Path
  | generate name _ =>
      match files.configuration DataFormat.read name with
      | .ok configuration =>
          let sources := configuration.documents.map DocumentSettings.source
          (sources.filter (!isUrl ·)).map Path.ofText
      | .error _ => []
  | version => []

end RequestSurface
