import RequestSurface.DataFormat
import RequestSurface.Document.Validation
import RequestSurface.Path
import RequestSurface.Text.Pieces
import RequestSurface.Url

/-!
# Loading of documents

A document comes from a file or from the network. Its content may be out of reach or unreadable,
which is a failure to load with the problem as its cause; content that was read is validated, and
what is objected to it is reported as it is.

Files, clients, readers of data formats and judges lie outside. A loader is given what they answer,
and it hands texts and contents on without looking into them.
-/

namespace RequestSurface

/-- What a client makes of an answer from the network: what is wrong with it unless it is a success,
the type of its content, and its text, if it can be decoded. -/
structure Reply (Text : Type) where
  complaint? : Option InputProblem
  contentType : String
  text : Except InputProblem Text

/-- What a loader relies on: whether something stands at a path, the text of a file, what a client
makes of the answer from a location, how a text in a format is read, and how content is judged. All
but the last may meet with any problem, whenever they are asked. -/
structure Loader (Text Content : Type) where
  has : Path -> Except InputProblem Bool
  readText : Path -> Except InputProblem Text
  get : String -> Except InputProblem (Reply Text)
  read : DataFormat -> Text -> Except InputProblem Content
  judge : Judge Content

/-- The format of a reply: YAML when it says so or when the location it was asked for ends like the
name of a YAML file. -/
def replyFormat (source contentType : String) : DataFormat :=
  if Text.occursIn "yaml".toList contentType.toList ||
      DataFormat.yamlSuffixes.any fun suffix => suffix.toList.isSuffixOf source.toList then .yaml
  else .json

/-- Tell a failure as one to load a source, unless it is told like that already. -/
def Failure.whileLoading (source : String) : Failure -> Failure
  | load inner cause => load inner cause
  | other => load source (some other)

namespace Loader

variable {Text Content : Type}

/-- The content at a location on the network. -/
def networkContent (loader : Loader Text Content) (source : String) : Except Failure Content := do
  let reply ← (loader.get source).mapError .input
  match reply.complaint? with
  | some problem => .error (.input problem)
  | none =>
      let text ← reply.text.mapError .input
      (loader.read (replyFormat source reply.contentType) text).mapError .input

/-- The content of a file. That nothing stands at a path is told as a failure to load it. -/
def fileContent (loader : Loader Text Content) (source : String) : Except Failure Content := do
  let path := Path.ofText source
  if ← (loader.has path).mapError .input then
    let text ← (loader.readText path).mapError .input
    (loader.read (.ofSuffix path.suffix) text).mapError .input
  else .error (.load source (some (.input (.notFound source))))

/-- The content of a source. -/
def content (loader : Loader Text Content) (source : String) : Except Failure Content :=
  if isUrl source then loader.networkContent source else loader.fileContent source

/-- Load the document at a source. -/
def load (loader : Loader Text Content) (source : String) : Except Failure Document := do
  let content ← (loader.content source).mapError (Failure.whileLoading source)
  loader.judge.validate content source

end Loader

end RequestSurface
