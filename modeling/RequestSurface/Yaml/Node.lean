import RequestSurface.Yaml.Scalar

/-!
# Nodes

What stands in a text before its scalars are given their meaning. A mapping may take in the entries
of other mappings; they come before its own, so that its own win.

Scalars get their meaning level by level: first those in the outermost collection, then those in the
collections it holds, and so on. So of two scalars that have no meaning the one that lies less deep
is reported.
-/

namespace RequestSurface.Yaml

/-- A scalar as it was written: its text, and whether it had no quotes. -/
structure Word where
  text : String
  isPlain : Bool
  deriving DecidableEq, Repr, Inhabited

namespace Word

/-- The word where nothing is written. -/
def blank : Word := ⟨"", true⟩

/-- What a word stands for. -/
def resolve (word : Word) : Except Problem Scalar :=
  if word.isPlain then resolvePlain word.text.toList else .ok (.text word.text)

/-- What is wrong with a word. -/
def problem? (word : Word) : Option Problem :=
  match word.resolve with
  | .ok _ => none
  | .error problem => some problem

/-- Whether a key takes in the entries of its value. -/
def takesIn (word : Word) : Bool :=
  word == ⟨"<<", true⟩

/-- A word as a key. The equals sign is kept for a purpose of its own elsewhere; as a key it is its
own text. -/
def asKey (word : Word) : Word :=
  if word.text == "=" then { word with isPlain := false } else word

end Word

/-- A node. The entries that a mapping takes in are in it already; a mapping that takes in what is
no mapping is `unfit`. -/
inductive Node where
  | word (word : Word)
  | list (items : List Node)
  | mapping (entries : List (Word × Node))
  | unfit
  deriving Repr, Inhabited

namespace Node

/-- The node where nothing is written. -/
def blank : Node := .word .blank

/-- The entries of a mapping. -/
def entries? : Node -> Option (List (Word × Node))
  | mapping entries => some entries
  | _ => none

/-- The entries a mapping takes in from a value: those of a mapping, or those of the mappings in a
list, the last one first. -/
def entriesWithin? : Node -> Option (List (Word × Node))
  | mapping entries => some entries
  | list items => (items.mapM entries?).map fun found => found.reverse.flatten
  | _ => none

/-- The mapping with the entries that are written. -/
def ofEntries (written : List (Word × Node)) : Node :=
  let taken := written.filter fun entry => entry.1.takesIn
  let own := written.filter fun entry => !entry.1.takesIn
  match taken.mapM fun entry => entry.2.entriesWithin? with
  | some found => mapping (found.flatten ++ own.map fun entry => (entry.1.asKey, entry.2))
  | none => unfit

/-- Put together what is wrong at each level of two nodes, the first of which comes first. -/
def joinLevels : List (Option Problem) -> List (Option Problem) -> List (Option Problem)
  | [], others => others
  | levels, [] => levels
  | first :: levels, other :: others => first.or other :: joinLevels levels others

mutual

/-- What is wrong in a collection at each of its levels. -/
def levels : Node -> List (Option Problem)
  | word _ => []
  | list items => itemLevels items
  | mapping entries => entryLevels entries
  | unfit => [some .malformed]

/-- What is wrong with a node and in it, seen from the collection that holds it. -/
def levelsWithin : Node -> List (Option Problem)
  | word one => [one.problem?]
  | list items => none :: itemLevels items
  | mapping entries => none :: entryLevels entries
  | unfit => [none, some .malformed]

/-- What is wrong at each level of a list. -/
def itemLevels : List Node -> List (Option Problem)
  | [] => []
  | item :: rest => joinLevels item.levelsWithin (itemLevels rest)

/-- What is wrong at each level of a mapping. -/
def entryLevels : List (Word × Node) -> List (Option Problem)
  | [] => []
  | (key, value) :: rest =>
      joinLevels (joinLevels [key.problem?] value.levelsWithin) (entryLevels rest)

end

/-- The first problem in a node, if there is one. -/
def problem? (node : Node) : Option Problem :=
  node.levelsWithin.findSome? id

mutual

/-- The value of a node without problems. -/
def value : Node -> Except Problem Value
  | word one => one.resolve.map .scalar
  | list items => (itemValues items).map .list
  | mapping entries => (entryValues [] entries).map .mapping
  | unfit => .error .malformed

/-- The values of the items of a list. -/
def itemValues : List Node -> Except Problem (List Value)
  | [] => .ok []
  | item :: rest => do
      let first ← item.value
      let others ← itemValues rest
      return first :: others

/-- The entries of a mapping after those that are done. -/
def entryValues (done : List (Scalar × Value)) :
    List (Word × Node) -> Except Problem (List (Scalar × Value))
  | [] => .ok done
  | (key, node) :: rest => do
      entryValues (putEntry done (← key.resolve) (← node.value)) rest

end

/-- The value of a node, or its first problem. -/
def read (node : Node) : Except Problem Value :=
  match node.problem? with
  | some problem => .error problem
  | none => node.value

end Node

end RequestSurface.Yaml
