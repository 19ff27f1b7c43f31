import Mathlib
import RequestSurface.Proofs.Places
import RequestSurface.Surroundings

/-!
# What loading a document comes to

A source is located when it leads to a file that is there or to a reply that is a success. Then it
has a text, which is YAML if the source or the reply says so and JSON if not, but the text may be
out of reach still, or it may be malformed. So there are three ways to obstruct a source: it is not
located, its text is not read, or the text is not parsed. Each of them is told as a failure to load
with the problem beneath it, and none of them twice. A source that is not obstructed provides
content, and then only the content decides: it is the document that its judge makes of it, or it is
rejected with a list of what is wrong with it.

Files, clients, readers of formats and judges may answer what they like. All that is known of them
is that a judge objects to something in the content that it rejects. What a run loads from, its
surroundings, is one case of this.
-/

namespace RequestSurface

variable {Text Content : Type} {source : String} {content : Content} {failure : Failure}

namespace Judge

variable {judge : Judge Content} {errors : List String} {document : Document}

/-- Content is a document: a mapping that the judge makes this document of. -/
structure Accepts (judge : Judge Content) (content : Content) (document : Document) : Prop where
  isMapping : judge.isMapping content = true
  judged : judge.document content = .ok document

/-- Why content is no document: it is no mapping, or it meets with objections. -/
inductive Rejects (judge : Judge Content) (content : Content) : List String → Prop
  | noMapping (noMapping : judge.isMapping content = false) :
      Rejects judge content ["expected a mapping, got " ++ judge.kind content]
  | objected (objections : List Objection) (isMapping : judge.isMapping content = true)
      (objected : judge.document content = .error objections) :
      Rejects judge content (objections.map Objection.line)

/-- Something is wrong with content that is rejected. -/
theorem Rejects.ne_nil (rejects : judge.Rejects content errors) : errors ≠ [] := by
  cases rejects with
  | noMapping => exact List.cons_ne_nil _ _
  | objected objections isMapping objected =>
      intro none
      rw [List.map_eq_nil_iff.mp none] at objected
      exact judge.objects content objected

/-- Validation succeeds with the document that the content is. -/
theorem accepts_of_validate (valid : judge.validate content source = .ok document) :
    judge.Accepts content document := by
  obtain ⟨isMapping, judged⟩ := validate_eq_ok_iff.mp valid
  exact ⟨isMapping, judged⟩

/-- Validation fails by rejecting the content. -/
theorem validate_eq_error_iff :
    judge.validate content source = .error failure ↔
      ∃ errors, judge.Rejects content errors ∧ failure = .invalid source errors := by
  constructor
  · intro failed
    rw [validate] at failed
    cases isMapping : judge.isMapping content with
    | false =>
        rw [isMapping, if_neg Bool.false_ne_true] at failed
        exact ⟨_, .noMapping isMapping, (Except.error.inj failed).symm⟩
    | true =>
        rw [isMapping, if_pos rfl] at failed
        cases judged : judge.document content with
        | ok document => simp [judged] at failed
        | error objections =>
            rw [judged] at failed
            exact ⟨_, .objected objections isMapping judged, (Except.error.inj failed).symm⟩
  · rintro ⟨errors, rejects, rfl⟩
    cases rejects with
    | noMapping noMapping => rw [validate, noMapping, if_neg Bool.false_ne_true]
    | objected objections isMapping objected => rw [validate, isMapping, if_pos rfl, objected]

end Judge

namespace DataFormat

/-- The format of a document, given what it is for the document to be said to be YAML. -/
inductive Chosen (isYaml : Prop) : DataFormat → Prop
  | yaml (said : isYaml) : Chosen isYaml .yaml
  | json (unsaid : ¬ isYaml) : Chosen isYaml .json

/-- The name of a file says that it is YAML, in any case. -/
def NamesYaml (path : Path) : Prop :=
  path.suffix.toList.map Char.toLower = ".yaml".toList ∨
    path.suffix.toList.map Char.toLower = ".yml".toList

/-- A reply says that it is YAML, or the location that was asked for does. -/
def SaysYaml (source contentType : String) : Prop :=
  "yaml".toList <:+: contentType.toList ∨ ".yaml".toList <:+ source.toList ∨
    ".yml".toList <:+ source.toList

/-- There is one format to choose. -/
theorem Chosen.eq {isYaml : Prop} {format other : DataFormat} (chosen : Chosen isYaml format)
    (otherChosen : Chosen isYaml other) : format = other := by
  cases chosen with
  | yaml said =>
      cases otherChosen with
      | yaml => rfl
      | json unsaid => exact absurd said unsaid
  | json unsaid =>
      cases otherChosen with
      | yaml said => exact absurd said unsaid
      | json => rfl

/-- A test for YAML chooses the format. -/
theorem chosen_ite {isYaml : Prop} {test : Bool} (tells : test = true ↔ isYaml) :
    Chosen isYaml (if test then yaml else json) := by
  cases test with
  | true => exact .yaml (tells.mp rfl)
  | false => exact .json fun said => Bool.false_ne_true (tells.mpr said)

/-- The format of a file is chosen by its name. -/
theorem chosen_ofSuffix (path : Path) : Chosen (NamesYaml path) (ofSuffix path.suffix) :=
  chosen_ite (by simp [yamlSuffixes, NamesYaml, ← String.toList_inj])

/-- The format of a reply is chosen by what it says and by where it comes from. -/
theorem chosen_replyFormat (source contentType : String) :
    Chosen (SaysYaml source contentType) (replyFormat source contentType) :=
  chosen_ite (by simp [yamlSuffixes, SaysYaml, Text.occursIn_iff])

end DataFormat

namespace Loader

variable {loader : Loader Text Content} {format : DataFormat} {text : Except InputProblem Text}
  {problem : InputProblem}

/-- A source leads to a text in a format, which can be read or not: to the text of a file that is
there, or of a reply that is a success. -/
inductive Locates (loader : Loader Text Content) (source : String) (format : DataFormat) :
    Except InputProblem Text → Prop
  | file (isPath : isUrl source = false) (found : loader.has (.ofText source) = .ok true)
      (chosen : DataFormat.Chosen (DataFormat.NamesYaml (.ofText source)) format) :
      Locates loader source format (loader.readText (.ofText source))
  | reply (reply : Reply Text) (isLocation : isUrl source = true)
      (answered : loader.get source = .ok reply) (succeeds : reply.complaint? = none)
      (chosen : DataFormat.Chosen (DataFormat.SaysYaml source reply.contentType) format) :
      Locates loader source format reply.text

/-- Why a source leads to no text: nothing stands at a path or it cannot be asked for, a location
gives no reply or one that is no success. -/
inductive Misses (loader : Loader Text Content) (source : String) : InputProblem → Prop
  | absent (isPath : isUrl source = false) (absent : loader.has (.ofText source) = .ok false) :
      Misses loader source (.notFound source)
  | hidden (problem : InputProblem) (isPath : isUrl source = false)
      (hidden : loader.has (.ofText source) = .error problem) : Misses loader source problem
  | unanswered (problem : InputProblem) (isLocation : isUrl source = true)
      (unanswered : loader.get source = .error problem) : Misses loader source problem
  | unsuccessful (reply : Reply Text) (problem : InputProblem) (isLocation : isUrl source = true)
      (answered : loader.get source = .ok reply) (fails : reply.complaint? = some problem) :
      Misses loader source problem

/-- A source provides content: what the text that it leads to says. -/
inductive Provides (loader : Loader Text Content) (source : String) (content : Content) : Prop
  | parsed (format : DataFormat) (text : Text) (located : loader.Locates source format (.ok text))
      (wellFormed : loader.read format text = .ok content)

/-- A problem obstructs a source: its text is not located, not read or not parsed. -/
inductive Obstructs (loader : Loader Text Content) (source : String) (problem : InputProblem) : Prop
  | unlocated (misses : loader.Misses source problem)
  | unread (format : DataFormat) (located : loader.Locates source format (.error problem))
  | unparsed (format : DataFormat) (text : Text) (located : loader.Locates source format (.ok text))
      (malformed : loader.read format text = .error problem)

/-- Every source leads to a text or to none. -/
theorem locates_or_misses (loader : Loader Text Content) (source : String) :
    (∃ format text, loader.Locates source format text) ∨
      ∃ problem, loader.Misses source problem := by
  cases isLocation : isUrl source with
  | false =>
      cases found : loader.has (.ofText source) with
      | error problem => exact .inr ⟨problem, .hidden problem isLocation found⟩
      | ok isThere =>
          cases isThere with
          | false => exact .inr ⟨_, .absent isLocation found⟩
          | true => exact .inl ⟨_, _, .file isLocation found (DataFormat.chosen_ofSuffix _)⟩
  | true =>
      cases answered : loader.get source with
      | error problem => exact .inr ⟨problem, .unanswered problem isLocation answered⟩
      | ok reply =>
          cases succeeds : reply.complaint? with
          | some problem =>
              exact .inr ⟨problem, .unsuccessful reply problem isLocation answered succeeds⟩
          | none =>
              exact .inl ⟨_, _, .reply reply isLocation answered succeeds
                (DataFormat.chosen_replyFormat _ _)⟩

/-- Every source provides content or is obstructed. -/
theorem provides_or_obstructs (loader : Loader Text Content) (source : String) :
    (∃ content, loader.Provides source content) ∨ ∃ problem, loader.Obstructs source problem := by
  rcases loader.locates_or_misses source with ⟨format, text, located⟩ | ⟨problem, misses⟩
  · cases text with
    | error problem => exact .inr ⟨problem, .unread format located⟩
    | ok text =>
        cases parsed : loader.read format text with
        | error problem => exact .inr ⟨problem, .unparsed format text located parsed⟩
        | ok content => exact .inl ⟨content, .parsed format text located parsed⟩
  · exact .inr ⟨problem, .unlocated misses⟩

/-- The content of a source that is located is what its text says. -/
theorem content_of_locates (located : loader.Locates source format text) :
    loader.content source =
      text.mapError .input >>= fun text => (loader.read format text).mapError .input := by
  cases located with
  | file isPath found chosen =>
      obtain rfl := (DataFormat.chosen_ofSuffix _).eq chosen
      simp [content, isPath, fileContent, found, Except.mapError, bind, Except.bind]
  | reply reply isLocation answered succeeds chosen =>
      obtain rfl := (DataFormat.chosen_replyFormat _ _).eq chosen
      simp [content, isLocation, networkContent, answered, succeeds, Except.mapError, bind,
        Except.bind]

/-- What a source provides is its content. -/
theorem content_of_provides (provides : loader.Provides source content) :
    loader.content source = .ok content := by
  obtain ⟨format, text, located, wellFormed⟩ := provides
  rw [content_of_locates located]
  simp [Except.mapError, bind, Except.bind, wellFormed]

/-- A failure tells a problem: it is the problem alone, or a failure to load the source already. -/
inductive Tells (source : String) (problem : InputProblem) : Failure → Prop
  | alone : Tells source problem (.input problem)
  | beneath : Tells source problem (.load source (some (.input problem)))

/-- In the end there is one failure to load above a problem. -/
theorem Tells.whileLoading_eq (tells : Tells source problem failure) :
    failure.whileLoading source = .load source (some (.input problem)) := by
  cases tells with
  | alone => rfl
  | beneath => rfl

/-- A source that leads to no text has no content, and a failure tells why. -/
theorem content_of_misses (misses : loader.Misses source problem) :
    ∃ failure, loader.content source = .error failure ∧ Tells source problem failure := by
  cases misses with
  | absent isPath absent =>
      refine ⟨_, ?_, .beneath⟩
      simp [content, isPath, fileContent, absent, Except.mapError, bind, Except.bind]
  | hidden problem isPath hidden =>
      refine ⟨_, ?_, .alone⟩
      simp [content, isPath, fileContent, hidden, Except.mapError, bind, Except.bind]
  | unanswered problem isLocation unanswered =>
      refine ⟨_, ?_, .alone⟩
      simp [content, isLocation, networkContent, unanswered, Except.mapError, bind, Except.bind]
  | unsuccessful reply problem isLocation answered fails =>
      refine ⟨_, ?_, .alone⟩
      simp [content, isLocation, networkContent, answered, fails, Except.mapError, bind,
        Except.bind]

/-- A source that is obstructed has no content, and a failure tells why. -/
theorem content_of_obstructs (obstructs : loader.Obstructs source problem) :
    ∃ failure, loader.content source = .error failure ∧ Tells source problem failure := by
  cases obstructs with
  | unlocated misses => exact content_of_misses misses
  | unread format located => exact ⟨_, content_of_locates located, .alone⟩
  | unparsed format text located malformed =>
      refine ⟨_, ?_, .alone⟩
      rw [content_of_locates located]
      simp [Except.mapError, bind, Except.bind, malformed]

/-- Content that a source provides is validated. -/
theorem load_of_provides (provides : loader.Provides source content) :
    loader.load source = loader.judge.validate content source := by
  rw [load, content_of_provides provides]
  rfl

/-- A source that is obstructed fails to load. -/
theorem load_of_obstructs (obstructs : loader.Obstructs source problem) :
    loader.load source = .error (.load source (some (.input problem))) := by
  obtain ⟨failure, failed, tells⟩ := content_of_obstructs obstructs
  rw [load, failed, ← tells.whileLoading_eq]
  rfl

/-- A source has one content and no problem, or one problem and no content. -/
theorem provides_once_or_obstructs_once (loader : Loader Text Content) (source : String) :
    ((∃! content, loader.Provides source content) ∧
      ∀ problem, ¬ loader.Obstructs source problem) ∨
    ((∃! problem, loader.Obstructs source problem) ∧
      ∀ content, ¬ loader.Provides source content) := by
  have exclusive : ∀ content problem, loader.Provides source content →
      ¬ loader.Obstructs source problem := by
    intro content problem provides obstructs
    obtain ⟨failure, failed, -⟩ := content_of_obstructs obstructs
    cases (content_of_provides provides).symm.trans failed
  rcases loader.provides_or_obstructs source with ⟨content, provides⟩ | ⟨problem, obstructs⟩
  · refine .inl ⟨⟨content, provides, fun other otherProvides => ?_⟩, fun problem =>
      exclusive content problem provides⟩
    exact Except.ok.inj
      ((content_of_provides otherProvides).symm.trans (content_of_provides provides))
  · refine .inr ⟨⟨problem, obstructs, fun other otherObstructs => ?_⟩, fun content provides =>
      exclusive content problem provides obstructs⟩
    have same := (load_of_obstructs otherObstructs).symm.trans (load_of_obstructs obstructs)
    simpa using same

end Loader

/-- Loading gives the document that validation makes of what the source provides, and that its judge
accepts it as, or it fails. If the source is obstructed, it fails to load with the problem that
obstructs it. If it provides content that is rejected, this is invalid for the reasons that there
are. It does not fail in any other way, and every source either provides one content or is
obstructed by one problem. -/
theorem load_outcome (loader : Loader Text Content) (source : String) :
    (∀ document, loader.load source = .ok document ↔
      ∃ content, loader.Provides source content ∧
        loader.judge.validate content source = .ok document ∧
        loader.judge.Accepts content document) ∧
    (∀ failure, loader.load source = .error failure ↔
      (∃ problem, loader.Obstructs source problem ∧
        failure = .load source (some (.input problem))) ∨
      ∃ content errors, loader.Provides source content ∧
        loader.judge.Rejects content errors ∧ errors ≠ [] ∧ failure = .invalid source errors) ∧
    (((∃! content, loader.Provides source content) ∧
        ∀ problem, ¬ loader.Obstructs source problem) ∨
      ((∃! problem, loader.Obstructs source problem) ∧
        ∀ content, ¬ loader.Provides source content)) := by
  have single := loader.provides_once_or_obstructs_once source
  refine ⟨fun document => ⟨fun loaded => ?_, ?_⟩, fun failure => ⟨fun failed => ?_, ?_⟩, single⟩
  · rcases loader.provides_or_obstructs source with ⟨content, provides⟩ | ⟨_, obstructs⟩
    · rw [Loader.load_of_provides provides] at loaded
      exact ⟨content, provides, loaded, Judge.accepts_of_validate loaded⟩
    · cases (Loader.load_of_obstructs obstructs).symm.trans loaded
  · rintro ⟨content, provides, valid, -⟩
    rw [Loader.load_of_provides provides, valid]
  · rcases loader.provides_or_obstructs source with ⟨content, provides⟩ | ⟨problem, obstructs⟩
    · rw [Loader.load_of_provides provides, Judge.validate_eq_error_iff] at failed
      obtain ⟨errors, rejects, rfl⟩ := failed
      exact .inr ⟨content, errors, provides, rejects, rejects.ne_nil, rfl⟩
    · rw [Loader.load_of_obstructs obstructs] at failed
      exact .inl ⟨problem, obstructs, (Except.error.inj failed).symm⟩
  · rintro (⟨problem, obstructs, rfl⟩ | ⟨content, errors, provides, rejects, -, rfl⟩)
    · exact Loader.load_of_obstructs obstructs
    · rw [Loader.load_of_provides provides, Judge.validate_eq_error_iff]
      exact ⟨errors, rejects, rfl⟩

/-- A file that is there but must not be opened is no document. -/
example :
    ({ files := { name := "/w", entries := [(.ofText "api.json", .closed)] } } : Surroundings).load
        "api.json" =
      .error (.load "api.json" (some (.input (.forbidden "api.json")))) := by
  rfl

end RequestSurface
