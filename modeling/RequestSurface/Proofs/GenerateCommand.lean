import Mathlib
import RequestSurface.CommandLine
import RequestSurface.Proofs.FirstFailure
import RequestSurface.Proofs.UnitValues

/-!
# All or nothing

A run tells the units of all documents or of none. Its steps are the configuration and then one
document after the other; the first step that fails is all that a failing run tells of, however
many documents have been lowered before it.
-/

namespace RequestSurface

namespace Surroundings

variable {surroundings : Surroundings} {settings : DocumentSettings} {name : Option String}
  {failure : Failure}

/-- The units that are generated for a document. -/
inductive Generates (surroundings : Surroundings) (settings : DocumentSettings)
    (units : List OutputUnit) : Prop where
  | lowered {context : BatchContext} {document : Document}
      (placed : BatchContext.ofSettings settings.surface settings = .ok context)
      (loaded : surroundings.load settings.source = .ok document)
      (lowered : (context.lower document).1 = .ok units) : Generates surroundings settings units

/-- Why nothing is generated for a document: there is no place for its files, it cannot be loaded,
or one of its methods cannot be lowered. -/
inductive DocumentFails (surroundings : Surroundings) (settings : DocumentSettings) :
    Failure → Prop where
  | placing {failure : Failure}
      (misplaced : BatchContext.ofSettings settings.surface settings = .error failure) :
      DocumentFails surroundings settings failure
  | loading {context : BatchContext} {failure : Failure}
      (placed : BatchContext.ofSettings settings.surface settings = .ok context)
      (unloaded : surroundings.load settings.source = .error failure) :
      DocumentFails surroundings settings failure
  | lowering {context : BatchContext} {document : Document} {failure : Failure}
      (placed : BatchContext.ofSettings settings.surface settings = .ok context)
      (loaded : surroundings.load settings.source = .ok document)
      (refused : (context.lower document).1 = .error failure) :
      DocumentFails surroundings settings failure

/-- A step of a run fails: the configuration, or one of its documents. -/
inductive Fails (surroundings : Surroundings) (name : Option String) : Prop where
  | configuration {failure : Failure}
      (unread : surroundings.configuration name = .error failure) : Fails surroundings name
  | document {configuration : Configuration} {settings : DocumentSettings} {failure : Failure}
      (read : surroundings.configuration name = .ok configuration)
      (configured : settings ∈ configuration.documents)
      (fails : surroundings.DocumentFails settings failure) : Fails surroundings name

/-- The failure of the first step of a run that fails. -/
inductive FirstFails (surroundings : Surroundings) (name : Option String) : Failure → Prop where
  | configuration {failure : Failure}
      (unread : surroundings.configuration name = .error failure) :
      FirstFails surroundings name failure
  | document {configuration : Configuration} {failure : Failure}
      (read : surroundings.configuration name = .ok configuration)
      (first : FirstFailure surroundings.DocumentFails configuration.documents failure) :
      FirstFails surroundings name failure

/-- What is told of the documents of a configuration: each of them in its place, with its source and
with the units that are generated for it. -/
def Tells (surroundings : Surroundings) (configuration : Configuration) (batches : List Lowered) :
    Prop :=
  List.Forall₂ (fun settings lowered =>
    lowered.source = settings.source ∧ surroundings.Generates settings lowered.units)
    configuration.documents batches

/-- A document is lowered to the units that are generated for it. -/
theorem lower_eq_ok_iff {lowered : Lowered} : surroundings.lower settings = .ok lowered ↔
    lowered.source = settings.source ∧ surroundings.Generates settings lowered.units := by
  simp only [lower, bind_eq_ok_iff, pure, Except.pure, Except.ok.injEq]
  constructor
  · rintro ⟨context, placed, document, loaded, units, generated, rfl⟩
    exact ⟨rfl, .lowered placed loaded generated⟩
  · obtain ⟨source, units⟩ := lowered
    rintro ⟨rfl, placed, loaded, generated⟩
    exact ⟨_, placed, _, loaded, _, generated, rfl⟩

/-- Lowering a document fails with what the document fails by. -/
theorem lower_eq_error_iff :
    surroundings.lower settings = .error failure ↔ surroundings.DocumentFails settings failure := by
  simp only [lower, bind_eq_error_iff, pure, Except.pure]
  constructor
  · rintro (misplaced | ⟨context, placed, unloaded | ⟨document, loaded, refused | ⟨_, _, ⟨⟩⟩⟩⟩)
    · exact .placing misplaced
    · exact .loading placed unloaded
    · exact .lowering placed loaded refused
  · rintro (misplaced | ⟨placed, unloaded⟩ | ⟨placed, loaded, refused⟩)
    · exact .inl misplaced
    · exact .inr ⟨_, placed, .inl unloaded⟩
    · exact .inr ⟨_, placed, .inr ⟨_, loaded, .inl refused⟩⟩

/-- A run stops with the failure of its first failing step. -/
theorem lowerAll_eq_error_iff :
    surroundings.lowerAll name = .error failure ↔ surroundings.FirstFails name failure := by
  simp only [lowerAll, bind_eq_error_iff, mapM_eq_error_iff, lower_eq_error_iff]
  constructor
  · rintro (unread | ⟨configuration, read, first⟩)
    · exact .configuration unread
    · exact .document read first
  · rintro (unread | ⟨read, first⟩)
    · exact .inl unread
    · exact .inr ⟨_, read, first⟩

/-- A run without failure lowers the documents one by one. -/
theorem lowerAll_eq_ok_iff {batches : List Lowered} :
    surroundings.lowerAll name = .ok batches ↔
      ∃ configuration, surroundings.configuration name = .ok configuration ∧
        surroundings.Tells configuration batches := by
  simp only [lowerAll, bind_eq_ok_iff, mapM_eq_ok_iff, lower_eq_ok_iff, Tells]

/-- A run fails when it has a first failing step. -/
theorem exists_firstFails_iff :
    (∃ failure, surroundings.FirstFails name failure) ↔ surroundings.Fails name := by
  constructor
  · rintro ⟨failure, unread | ⟨read, first⟩⟩
    · exact .configuration unread
    · obtain ⟨settings, configured, _, fails⟩ := FirstFailure.exists_iff.mp ⟨failure, first⟩
      exact .document read configured fails
  · rintro (unread | ⟨read, configured, fails⟩)
    · exact ⟨_, .configuration unread⟩
    · obtain ⟨failure, first⟩ := FirstFailure.exists_iff.mpr ⟨_, configured, _, fails⟩
      exact ⟨failure, .document read first⟩

end Surroundings

namespace RunOutcome

/-- A run that tells a failure and nothing else: its exit code is one, and it prints the message of
the failure as far as the console takes it. -/
structure TellsFailure (outcome : RunOutcome) (failure : Failure) : Prop where
  exitCode : outcome.exitCode = 1
  printed : ∀ line, Console.printText ("[red]Error:[/red] " ++ failure.message) = .ok line →
    outcome.output = line
  unprinted : ∀ fault, Console.printText ("[red]Error:[/red] " ++ failure.message) = .error fault →
    outcome.output = ""

/-- A run that tells what was lowered as JSON: its exit code is zero, and it prints a list with one
value for each document, which tell all that was lowered. -/
structure TellsValues (outcome : RunOutcome) (batches : List Lowered) (values : List Value) :
    Prop where
  outcome : outcome = ⟨0, Json.write (.indented 0) (.list values) ++ "\n", none⟩
  carried : List.Forall₂ Lowered.CarriedBy batches values
  complete : ∀ others, List.Forall₂ Lowered.CarriedBy others values → others = batches

/-- The table of a document: under its source a row for each of its units. -/
structure Tabled (lowered : Lowered) (table : Console.Table) : Prop where
  title : table.title = lowered.source
  headings : table.columns.map Console.Column.heading =
    ["Output path", "Message", "Properties", "Imports"]
  rows : table.rows = lowered.units.map fun unit =>
    [unit.path, unit.message.typeName, toString unit.message.properties.length,
      toString unit.imports.length]

/-- What the console makes of a table. -/
def Drawn (table : Console.Table) (text : String) : Prop := table.print = .ok text

/-- What the console makes of the line that counts the units of a document. -/
def Counted (lowered : Lowered) (line : String) : Prop :=
  Console.printText (s!"[green]Generated {lowered.units.length} request views for " ++
    lowered.source ++ "[/green]") = .ok line

/-- A run that tells what was lowered in tables: where the console takes them, its exit code is zero
and it prints for each document its table and the line that counts its units. -/
structure TellsTables (outcome : RunOutcome) (batches : List Lowered)
    (tables : List Console.Table) : Prop where
  tabled : List.Forall₂ Tabled batches tables
  printed : ∀ texts lines, List.Forall₂ Drawn tables texts → List.Forall₂ Counted batches lines →
    outcome = ⟨0, String.join ((texts.zip lines).flatMap fun (text, line) => [text, line]), none⟩

/-- What can be printed is printed one after the other. -/
theorem printing_eq {attempts : List (Except Console.Fault String)} {texts : List String}
    (shown : List.Forall₂ (fun attempt text => attempt = .ok text) attempts texts)
    (exitCode : Nat) (before : String) :
    printing exitCode before attempts = ⟨exitCode, before ++ String.join texts, none⟩ := by
  induction shown generalizing before with
  | nil => simp [printing]
  | @cons attempt text attempts texts first _ inductionHypothesis =>
      subst first
      rw [printing, inductionHypothesis, String.join_cons, String.append_assoc]

/-- A failure is told alone. -/
theorem tellsFailure_failing (failure : Failure) : (failing failure).TellsFailure failure := by
  rw [failing]
  cases shown : Console.printText ("[red]Error:[/red] " ++ failure.message) with
  | ok line => exact ⟨rfl, by simp [shown, printing], by simp [shown]⟩
  | error fault => exact ⟨rfl, by simp [shown], fun _ _ => rfl⟩

/-- Values tell all that was lowered. -/
theorem tellsValues_telling (batches : List Lowered) :
    (telling true batches).TellsValues batches (batches.map Lowered.toValue) where
  outcome := rfl
  carried := forall₂_map_of_carried Lowered.carriedBy_toValue batches
  complete := fun _ carried => List.left_unique_forall₂' Lowered.carriedBy_leftUnique carried
    (forall₂_map_of_carried Lowered.carriedBy_toValue batches)

/-- Tables are told one after the other. -/
theorem tellsTables_telling (batches : List Lowered) :
    (telling false batches).TellsTables batches (batches.map Lowered.table) where
  tabled := by
    rw [List.forall₂_map_right_iff]
    exact List.forall₂_same.mpr fun _ _ => ⟨rfl, rfl, rfl⟩
  printed := by
    intro texts lines drawn counted
    rw [List.forall₂_map_left_iff] at drawn
    have shown : List.Forall₂ (fun attempt text => attempt = .ok text)
        (batches.flatMap fun lowered => [lowered.table.print, Console.printText lowered.summary])
        ((texts.zip lines).flatMap fun (text, line) => [text, line]) := by
      induction drawn generalizing lines with
      | nil => exact .nil
      | cons first _ inductionHypothesis =>
          cases counted with
          | cons line others => exact .cons first (.cons line (inductionHypothesis _ others))
    rw [telling, if_neg (by decide), printing_eq shown, String.empty_append]

end RunOutcome

/-- A run tells all or nothing. If its configuration or one of its documents fails, it tells the
failure of the first step that does, and nothing else. Otherwise it tells of every document in its
place, with its source and the units that are generated for it: as values that have every part of
every unit, or in tables. -/
theorem generate_all_or_nothing (surroundings : Surroundings) (name : Option String) :
    (surroundings.Fails name → ∃ failure, surroundings.FirstFails name failure ∧
      ∀ asJson, ((Command.generate name asJson).run surroundings).TellsFailure failure) ∧
    (¬ surroundings.Fails name → ∃ configuration batches,
      surroundings.configuration name = .ok configuration ∧
      surroundings.Tells configuration batches ∧
      (∃ values, ((Command.generate name true).run surroundings).TellsValues batches values) ∧
      ∃ tables, ((Command.generate name false).run surroundings).TellsTables batches tables) := by
  constructor
  · intro fails
    obtain ⟨failure, first⟩ := Surroundings.exists_firstFails_iff.mpr fails
    refine ⟨failure, first, fun asJson => ?_⟩
    rw [Command.run, Surroundings.lowerAll_eq_error_iff.mpr first]
    exact RunOutcome.tellsFailure_failing failure
  · intro succeeds
    cases outcome : surroundings.lowerAll name with
    | error failure =>
        have first := Surroundings.lowerAll_eq_error_iff.mp outcome
        exact absurd (Surroundings.exists_firstFails_iff.mp ⟨failure, first⟩) succeeds
    | ok batches =>
        obtain ⟨configuration, read, told⟩ := Surroundings.lowerAll_eq_ok_iff.mp outcome
        refine ⟨configuration, batches, read, told, ⟨batches.map Lowered.toValue, ?_⟩,
          batches.map Lowered.table, ?_⟩
        · rw [Command.run, outcome]
          exact RunOutcome.tellsValues_telling batches
        · rw [Command.run, outcome]
          exact RunOutcome.tellsTables_telling batches

end RequestSurface
