import RequestSurface.Path
import RequestSurface.Text.Quoted

/-!
# Output roots

Where output goes: to a directory, or to a store that a protocol in front of a location names. Paths
on a disk are put in order; locations of a store are joined as they are given.
-/

namespace RequestSurface

/-- A place for output. A store with keys has an anchor, which stays when keys are joined, and the
key of the root. -/
inductive OutputRoot where
  | disk (path : Path)
  | memory (path : List Char)
  | files (protocol path : List Char)
  | keys (anchor key : List Char)
  deriving Repr

namespace OutputRoot

/-- Why there is no such place: the store of the root is not supported, a part of the way names a
protocol that is not known, or one that is not that of the root. -/
inductive Fault where
  | unsupported (protocol : String)
  | unknown (protocol : String)
  | incompatible
  deriving DecidableEq, Repr

/-- The message of a fault. -/
def Fault.message : Fault -> String
  | unsupported protocol => "Unsupported filesystem: " ++ Text.quoted protocol
  | unknown protocol => "Protocol not known: " ++ Text.quoted protocol
  | incompatible => "can't combine incompatible UPath protocols"

/-- The protocol in front of a location, what stands between it and the path, and the path. A
protocol starts with a letter and has at least two characters. -/
def splitProtocol? (text : List Char) : Option (List Char × List Char × List Char) :=
  let name := text.takeWhile fun character => character.isAlphanum || character == '+'
  if 1 < name.length ∧ (name.headD '+').isAlpha then
    match text.drop name.length with
    | ':' :: '/' :: '/' :: path => some (name, ['/', '/'], path)
    | ':' :: '/' :: path => some (name, ['/'], path)
    | ':' :: ':' :: path => some (name, [':'], path)
    | _ => none
  else none

/-- The protocols that name the same kind of store. -/
def families : List (List String) :=
  [["memory"], ["file", "local"], ["s3", "s3a"], ["gs", "gcs"], ["az", "abfs", "abfss", "adl"],
    ["http", "https"]]

/-- Protocols that are known although their stores are not supported. -/
def otherProtocols : List String :=
  ["arrow_hdfs", "asynclocal", "asyncwrapper", "blockcache", "box", "cached", "dask", "data",
    "dbfs", "dir", "dropbox", "dvc", "filecache", "ftp", "gdrive", "generic", "gist", "git",
    "github", "hdfs", "hf", "jlab", "jupyter", "lakefs", "libarchive", "oci", "ocilake", "oss",
    "pyscript", "reference", "root", "sftp", "simplecache", "smb", "ssh", "tar", "tos", "tosfs",
    "wandb", "webdav", "webhdfs", "zip"]

/-- The protocols of the same kind of store as a given one. -/
def family (protocol : String) : List String :=
  (families.find? (·.contains protocol)).getD [protocol]

/-- The slashes at both ends of a path dropped, and one put in front, unless nothing is left. A path
that names a protocol itself is only cut at its end. -/
def memoryPath (path : List Char) : List Char :=
  let cut := (path.reverse.dropWhile (· == '/')).reverse
  if Text.occursIn "::".toList path || Text.occursIn "://".toList path then cut
  else
    match cut.dropWhile (· == '/') with
    | [] => []
    | kept => '/' :: kept

/-- A path without the slashes at its end, and the root if nothing is left. -/
def filePath (path : List Char) : List Char :=
  match (path.reverse.dropWhile (· == '/')).reverse with
  | [] => ['/']
  | kept => kept

/-- Read a place. Where one slash follows a protocol, no host is named. -/
def read (text : String) : Except Fault OutputRoot :=
  match splitProtocol? text.toList with
  | none => .ok (.disk (.ofText text))
  | some (name, mark, rest) =>
      let protocol := String.ofList name
      let path := if mark.length = 1 then '/' :: rest else rest
      if protocol == "memory" then .ok (.memory (memoryPath path))
      else if (family protocol).contains "file" then .ok (.files name (filePath path))
      else if (family protocol).contains "http" then
        let host := path.takeWhile fun character => !"/?#".toList.contains character
        .ok (.keys (name ++ "://".toList ++ host) (path.drop host.length))
      else if families.any (·.contains protocol) then
        let kept :=
          if (family protocol).contains "gs" then path
          else (path.reverse.dropWhile (· == '/')).reverse
        let bucket := kept.takeWhile (· != '/')
        .ok (.keys (name ++ "://".toList ++ bucket) (kept.drop bucket.length))
      else .error (.unsupported protocol)

/-- The protocol of a place, empty for a disk. -/
def protocol : OutputRoot -> String
  | disk _ => ""
  | memory _ => "memory"
  | files name _ => String.ofList name
  | keys anchor _ => String.ofList (anchor.takeWhile (· != ':'))

/-- Check that a part of the way names no other protocol than that of the root. -/
def checkPart (root : OutputRoot) (part : String) : Except Fault Unit :=
  match splitProtocol? part.toList with
  | none => .ok ()
  | some (name, _, _) =>
      let protocol := String.ofList name
      if (family root.protocol).contains protocol then .ok ()
      else if families.any (·.contains protocol) || otherProtocols.contains protocol then
        .error .incompatible
      else .error (.unknown protocol)

/-- Go on from a path to a part, which starts over if it begins with a slash. -/
def joinPart (path part : List Char) : List Char :=
  if part.head? = some '/' then part
  else if path.isEmpty || path.getLast? == some '/' then path ++ part
  else path ++ '/' :: part

/-- Where a file goes, given the directories and the file name beneath the root. -/
def place (root : OutputRoot) (segments : List String) : Except Fault String := do
  segments.forM root.checkPart
  let parts := segments.map String.toList
  match root with
  | disk path => return (segments.foldl Path.join path).text
  | memory path =>
      let start := if path.isEmpty then ['/'] else path
      let whole := memoryPath (parts.foldl joinPart start)
      return "memory://" ++ String.ofList (if whole.head? = some '/' then whole.drop 1 else whole)
  | files name path =>
      return String.ofList (name ++ "://".toList ++ parts.foldl joinPart path)
  | keys anchor key =>
      let start := if key.getLast? = some '/' then key.dropLast else key
      let joined := List.intercalate ['/'] (start :: parts)
      let isBare := key.isEmpty && anchor.getLast? == some '/'
      return String.ofList (anchor ++ if isBare then joined.drop 1 else joined)

end OutputRoot

end RequestSurface
