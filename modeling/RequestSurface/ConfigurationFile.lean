import RequestSurface.DataFormat
import RequestSurface.Document.Validation
import RequestSurface.FileTree
import RequestSurface.Settings

/-!
# Configuration files

Where a configuration is looked for: in the file that is asked for, else in a configuration file of
the working directory, else in the tool section of its project file. How texts in the formats of
these files are read is left open.
-/

namespace RequestSurface

/-- Names of configuration files, in the order in which they are looked for. -/
def configurationNames : List String := ["discoview.yaml", "discoview.yml"]

/-- The name of the project file. -/
def projectName : String := "pyproject.toml"

/-- The name of the section of the project file. -/
def sectionName : String := "discoview"

/-- The name of a value's kind in complaints about operations on it. -/
def Value.operandKind (value : Value) : String :=
  match value with
  | .scalar (.date _ _ _) => "datetime.date"
  | _ => value.kind

/-- The section of a project file's tools. The tools should be a table; in a text or a list the name
of the section may still occur, but there is no section to take. -/
def projectSection? (tools : Value) : Except InputProblem (Option Value) :=
  match tools with
  | .mapping entries => .ok (findText? entries sectionName)
  | .list items =>
      let named := items.any fun
        | .scalar (.text item) => item == sectionName
        | _ => false
      if named then .error (.notIndexable tools.kind) else .ok none
  | .scalar (.text text) =>
      if Text.occursIn sectionName.toList text.toList then .error (.notIndexable tools.kind)
      else .ok none
  | .scalar _ => .error (.notContainer tools.operandKind)

/-- Accept a value as a configuration. The keys of a mapping must all be texts. -/
def Configuration.validate (content : Value) : Except InputProblem Configuration :=
  let hasOtherKeys : Bool := match content with
    | .mapping entries => (textEntries entries).length < entries.length
    | _ => false
  if hasOtherKeys then .error .keyNoText
  else (Configuration.read content).accept.mapError (.faults "CodegenConfig")

namespace FileTree

/-- The configuration in a file, in YAML. -/
def configurationAt (tree : FileTree) (read : DataFormat.Readers) (path : Path) (shown : String) :
    Except InputProblem Configuration := do
  let text ← tree.readText path shown
  Configuration.validate (← read .yaml text)

/-- How a file of the working directory is shown. -/
def shown (tree : FileTree) (name : String) : String :=
  tree.name ++ "/" ++ name

/-- The configuration in the project file, if there is one. -/
def projectConfiguration? (tree : FileTree) (read : DataFormat.Readers) :
    Except InputProblem (Option Configuration) := do
  if tree.stands (.ofText projectName) then
    let text ← tree.readText (.ofText projectName) (tree.shown projectName)
    let tools :=
      match ← read .toml text with
      | .mapping entries => (findText? entries "tool").getD (.mapping [])
      | _ => .mapping []
    match ← projectSection? tools with
    | some content => return some (← Configuration.validate content)
    | none => return none
  else return none

/-- The configuration of the working directory, if there is one. -/
def configuration? (tree : FileTree) (read : DataFormat.Readers) :
    Except InputProblem (Option Configuration) :=
  match configurationNames.find? fun name => tree.stands (.ofText name) with
  | some name => (tree.configurationAt read (.ofText name) (tree.shown name)).map some
  | none => tree.projectConfiguration? read

/-- Where a configuration may be found: in the given file, unless its name is empty, or in the
working directory. -/
def configurationPaths (name : Option String) : List Path :=
  let given := name.getD ""
  if given.isEmpty then (configurationNames ++ [projectName]).map Path.ofText
  else [.ofText given]

/-- Find the configuration: in the given file, unless its name is empty, or in the working
directory. -/
def configuration (tree : FileTree) (read : DataFormat.Readers) (name : Option String) :
    Except Failure Configuration :=
  let given := name.getD ""
  if given.isEmpty then
    match tree.configuration? read with
    | .error problem => .error (.input problem)
    | .ok (some configuration) => .ok configuration
    | .ok none => .error (.configuration "Configuration not found" (some tree.name) none)
  else
    let path := Path.ofText given
    (tree.configurationAt read path path.text).mapError .input

end FileTree

end RequestSurface
