import RequestSurface.Reading.Basic
import RequestSurface.Surface

/-!
# Settings

What a configuration says about the documents to process and about single methods.
-/

namespace RequestSurface

/-- How the resource-name fields of a method are represented. -/
inductive Treatment where
  | none
  | staticTypes
  deriving DecidableEq, Repr, Inhabited

namespace Treatment

/-- The word for a treatment. -/
def label : Treatment -> String
  | none => "none"
  | staticTypes => "static_types"

/-- The treatment a word stands for. -/
def ofLabel? (label : String) : Option Treatment :=
  [none, staticTypes].find? (·.label == label)

/-- Read a treatment. -/
def read : Value -> Reading Treatment :=
  .oneOf (.choice ["none", "static_types"])
    [("none", Treatment.none), ("static_types", staticTypes)] .none

end Treatment

/-- Settings of one method: its flattening groups as lists of parameter names, the treatment of
its resource names, and resource-name patterns by field name. -/
structure MethodSettings where
  flattening : List (List String) := []
  treatment : Treatment := .none
  patterns : List (String × String) := []
  deriving DecidableEq, Repr, Inhabited

namespace MethodSettings

/-- Read a flattening group. -/
def readGroup : Value -> Reading (List String)
  | .mapping entries =>
      let parameters :=
        Part.required (.plain "parameters") entries (Reading.list Reading.text) []
      .closed parameters.result [parameters.outline]
  | other => .misfit (.record "FlatteningGroupConfig") other []

/-- Read the settings of a method. -/
def read : Value -> Reading MethodSettings
  | .mapping entries =>
      let given := textEntries entries
      let flattening := Part.optional (.plain "flattening") given (Reading.list readGroup) []
      let treatment := Part.optional (.plain "resource_name_treatment") given Treatment.read .none
      let patterns :=
        Part.optional (.plain "field_name_patterns") given (Reading.mapping Reading.text) []
      .closed ⟨flattening.result, treatment.result, patterns.result⟩
        [flattening.outline, treatment.outline, patterns.outline]
  | other => .misfit (.record "MethodSettings") other {}

end MethodSettings

/-- Settings of one document: where it comes from, where its messages go, and how they are
written. -/
structure DocumentSettings where
  source : String
  output : String
  packageName : String
  surface : Surface := .python
  reservedWords : List String := []
  resourceNames : Bool := true
  methods : List (String × MethodSettings) := []
  deriving DecidableEq, Repr, Inhabited

namespace DocumentSettings

/-- Read the name of a surface. -/
def readSurface : Value -> Reading Surface :=
  .oneOf (.literal ["java", "python"]) [("java", Surface.java), ("python", .python)] .python

/-- Read the settings of a document. -/
def read : Value -> Reading DocumentSettings
  | .mapping entries =>
      let given := textEntries entries
      let source := Part.required (.plain "source") entries Reading.text ""
      let output := Part.required (.plain "output") entries Reading.text ""
      let packageName := Part.required (.plain "package_name") entries Reading.nonEmptyText ""
      let surface := Part.optional (.plain "language") given readSurface .python
      let reservedWords :=
        Part.optional (.plain "reserved_words") given (Reading.list Reading.text) []
      let resourceNames := Part.optional (.plain "enable_resource_names") given Reading.flag true
      let methods :=
        Part.optional (.plain "methods") given (Reading.mapping MethodSettings.read) []
      let settings : DocumentSettings :=
        { source := source.result, output := output.result, packageName := packageName.result,
          surface := surface.result, reservedWords := reservedWords.result,
          resourceNames := resourceNames.result, methods := methods.result }
      .closed settings
        [source.outline, output.outline, packageName.outline, surface.outline,
          reservedWords.outline, resourceNames.outline, methods.outline]
  | other =>
      .misfit (.record "DocumentConfig") other { source := "", output := "", packageName := "" }

end DocumentSettings

/-- A whole configuration: the documents to process, in order. -/
structure Configuration where
  documents : List DocumentSettings
  deriving DecidableEq, Repr, Inhabited

namespace Configuration

/-- Options of the reading itself. They may stand beside the field of a configuration and are no
part of it. -/
def readingOptions : List String :=
  ["_case_sensitive", "_nested_model_default_partial_update", "_env_prefix", "_env_prefix_target",
    "_env_file", "_env_file_encoding", "_env_ignore_empty", "_env_nested_delimiter",
    "_env_nested_max_split", "_env_parse_none_str", "_env_parse_enums", "_cli_prog_name",
    "_cli_parse_args", "_cli_settings_source", "_cli_parse_none_str", "_cli_hide_none_type",
    "_cli_avoid_json", "_cli_enforce_required", "_cli_use_class_docs_for_groups",
    "_cli_exit_on_error", "_cli_prefix", "_cli_flag_prefix_char", "_cli_implicit_flags",
    "_cli_ignore_unknown_args", "_cli_kebab_case", "_cli_shortcuts", "_secrets_dir",
    "_build_sources"]

/-- Whether a key names the field of a configuration, in whatever case. -/
def namesDocuments (key : String) : Bool :=
  String.ofList (key.toList.map Char.toLower) == "documents"

/-- The entries of a configuration as they are read. Its field goes by its own name, and of several
spellings of that name the first one counts. -/
def settledEntries (entries : List (String × Value)) : List (String × Value) :=
  let field := (entries.find? fun entry => namesDocuments entry.1).map fun entry =>
    ("documents", entry.2)
  field.toList ++ entries.filter fun entry =>
    !namesDocuments entry.1 && !readingOptions.contains entry.1

/-- Read a configuration. Any key but the documents is a fault. -/
def read : Value -> Reading Configuration
  | .mapping entries =>
      let given := settledEntries (textEntries entries)
      let settled := given.map fun entry => (Scalar.text entry.1, entry.2)
      let documents :=
        Part.required (.plain "documents") settled (Reading.list DocumentSettings.read) []
      let unknown := Reading.extras [documents.outline] given
      let reading := Reading.closed (Configuration.mk documents.result) [documents.outline]
      { reading with
        faults := reading.faults ++ unknown.map fun entry =>
          ⟨[.key entry.1], .knownKey, entry.2⟩ }
  | other => .misfit (.record "CodegenConfig") other ⟨[]⟩

end Configuration

end RequestSurface
