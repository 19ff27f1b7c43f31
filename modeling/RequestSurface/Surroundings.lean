import RequestSurface.ConfigurationFile
import RequestSurface.Content.Type
import RequestSurface.Document.Loading
import RequestSurface.Network

/-!
# Surroundings

Known files and a known network, and the configuration and the documents that are found in them.
Texts are read as far as this library knows their formats, unless there are other ways to read them.
-/

namespace RequestSurface

/-- Where sources lead, the files and the network, and how texts from there are read. -/
structure Surroundings where
  files : FileTree
  network : Network := {}
  read : DataFormat.Readers := DataFormat.read

namespace Answer

/-- The type of the content of an answer. -/
def contentType (answer : Answer) : String :=
  (answer.response.header? "content-type").getD ""

/-- The text of an answer, in the charset that its content type tells. -/
def text (answer : Answer) : Except InputProblem (List Char) :=
  if answer.content.isEmpty then .ok []
  else
    let charset := Content.charsetOf answer.contentType.toList
    (charset >>= fun charset => charset.decode answer.content).mapError .badCharset

/-- What is made of an answer. -/
def reply (answer : Answer) : Reply (List Char) where
  complaint? := answer.complaint?
  contentType := answer.contentType
  text := answer.text

end Answer

namespace Surroundings

/-- The configuration in a file, or in the working directory. -/
def configuration (surroundings : Surroundings) (name : Option String) :
    Except Failure Configuration :=
  surroundings.files.configuration surroundings.read name

/-- What loads from the surroundings. -/
def loader (surroundings : Surroundings) : Loader (List Char) Value where
  has := surroundings.files.has
  readText path := surroundings.files.readText path path.text
  get source := (surroundings.network.get source).outcome.map Answer.reply
  read := surroundings.read
  judge := Value.judge

/-- Load the document at a source. -/
def load (surroundings : Surroundings) (source : String) : Except Failure Document :=
  surroundings.loader.load source

end Surroundings

end RequestSurface
