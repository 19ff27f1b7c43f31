import RequestSurface.Failure
import RequestSurface.Path
import RequestSurface.Text.Half
import RequestSurface.Text.Lines

/-!
# File trees

The files and directories that paths lead to, seen from a working directory. A path is walked
segment by segment; two dots lead back from a directory that is there. What stands above the
working directory is not known, save that it is a directory.
-/

namespace RequestSurface

/-- What stands at a place: a file, one that must not be opened, or a directory. -/
inductive FileEntry where
  | file (bytes : List UInt8)
  | closed
  | directory
  deriving DecidableEq, Repr, Inhabited

/-- Known places. The working directory has a name of its own, under which it is shown. -/
structure FileTree where
  name : String
  entries : List (Path × FileEntry) := []
  deriving Repr

namespace Path

/-- The path one segment further. -/
def child (path : Path) (segment : String) : Path :=
  { path with segments := path.segments ++ [segment] }

/-- Whether a path leads through another one to a place beneath it. -/
def liesBeneath (path upper : Path) : Bool :=
  path.root == upper.root && upper.segments.length < path.segments.length &&
    upper.segments.isPrefixOf path.segments

/-- The directory around a place: unknown above the working directory, and the root above itself. -/
def parent? (path : Path) : Option Path :=
  if path.segments.isEmpty then if path.root.isEmpty then none else some path
  else some { path with segments := path.segments.dropLast }

end Path

/-- Where a walk ends. -/
inductive Arrival where
  | absent
  | blocked
  | nameTooLong
  | directory
  | closed
  | file (bytes : List UInt8)
  deriving DecidableEq, Repr

namespace FileTree

/-- What stands at a place. Places with something beneath them are directories. -/
def entry? (tree : FileTree) (place : Path) : Option FileEntry :=
  match tree.entries.lookup place with
  | some entry => some entry
  | none =>
      if tree.entries.any fun entry => entry.1.liesBeneath place then some .directory else none

/-- The most bytes of a segment. -/
def segmentLimit : Nat := 255

/-- The most bytes of a path. -/
def pathLimit : Nat := 4095

/-- Walk on from a directory, or from an unknown one above the working directory. -/
def walk (tree : FileTree) (here : Option Path) : List String -> Arrival
  | [] => .directory
  | segment :: rest =>
      if segment = ".." then tree.walk (here.bind Path.parent?) rest
      else if segmentLimit < segment.utf8ByteSize then .nameTooLong
      else
        match here.bind fun directory => tree.entry? (directory.child segment) with
        | none => .absent
        | some .directory => tree.walk (here.map (·.child segment)) rest
        | some .closed => if rest.isEmpty then .closed else .blocked
        | some (.file bytes) => if rest.isEmpty then .file bytes else .blocked

/-- What a path leads to. -/
def arrival (tree : FileTree) (path : Path) : Arrival :=
  if pathLimit < path.text.utf8ByteSize then .nameTooLong
  else tree.walk (some { path with segments := [] }) path.segments

/-- The places a walk comes through when everything on its way is there. -/
def placesFrom (here : Option Path) : List String -> List Path
  | [] => []
  | segment :: rest =>
      if segment = ".." then placesFrom (here.bind Path.parent?) rest
      else
        let next := here.map (·.child segment)
        next.toList ++ placesFrom next rest

/-- The places on the way to a path, itself last. -/
def placesTo (path : Path) : List Path :=
  placesFrom (some { path with segments := [] }) path.segments

/-- Whether a path can be part of a request to the files at all. -/
def isUsable (path : Path) : Bool :=
  !path.segments.any fun segment => segment.toList.contains '\x00'

/-- Whether something stands where a path leads. -/
def has (tree : FileTree) (path : Path) : Except InputProblem Bool :=
  if isUsable path && !Text.hasHalf path.text.toList then
    match tree.arrival path with
    | .directory | .closed | .file _ => .ok true
    | .absent | .blocked => .ok false
    | .nameTooLong => .error (.nameTooLong path.text)
  else .ok false

/-- Whether something is known to stand where a path leads. -/
def stands (tree : FileTree) (path : Path) : Bool :=
  (tree.has path).toOption == some true

/-- Read the text at a path, with its line ends unified. Problems show the path as given. -/
def readText (tree : FileTree) (path : Path) (shown : String) : Except InputProblem (List Char) :=
  if isUsable path then
    match tree.arrival path with
    | .absent => .error (.absent shown)
    | .blocked => .error (.notDirectory shown)
    | .nameTooLong => .error (.nameTooLong shown)
    | .directory => .error (.directory shown)
    | .closed => .error (.forbidden shown)
    | .file bytes =>
        match Text.decode bytes with
        | .ok text => .ok (Text.unifyLineEnds text)
        | .error fault => .error (.undecodable fault)
  else .error .nullByte

end FileTree

end RequestSurface
