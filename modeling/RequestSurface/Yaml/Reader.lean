import RequestSurface.Yaml.ScalarReader

/-!
# Reading YAML

Reads one document of block and flow collections and of plain and quoted scalars. Keys are scalars
and are followed by a colon on their own line. An empty text, and an empty place where a value may
stand, are null. This is a part of the language: anchors, tags, directives, literal blocks and
explicit keys are not read, and texts with them need other readers.
-/

namespace RequestSurface.Yaml

/-- The most characters from the start of a key to its colon. -/
def keyLimit : Nat := 1024

/-- Whether a colon at one place belongs to a key that began at another. -/
def isKeyColon (key colon : Place) : Bool :=
  key.line == colon.line && colon.offset - key.offset ≤ keyLimit

/-- Whether a flow collection begins at a place. -/
def opensFlow (place : Place) : Bool :=
  place.rest.head? == some '[' || place.rest.head? == some '{'

/-- More steps than reading on from a place can take: no more than three lead from one character to
the next. -/
def stepsFrom (place : Place) : Nat :=
  3 * place.rest.length + 3

mutual

/-- Read one node inside brackets. The depth counts down at every step. -/
def readFlow : Nat -> Place -> Except Problem (Node × Place)
  | 0, _ => .error .malformed
  | depth + 1, place =>
      if place.atEnd then .error .malformed
      else
        match place.rest with
        | '[' :: _ => readFlowItems depth [] (place.advance 1).skip
        | '{' :: _ => readFlowEntries depth [] (place.advance 1).skip
        | _ => do
            let (word, next) ← readWord true 0 place
            return (.word word, next)

/-- Read a node inside brackets and, if a colon follows, the value of that key. -/
def readFlowEntry : Nat -> Place -> Except Problem (Node × Option Node × Place)
  | 0, _ => .error .malformed
  | depth + 1, place => do
      let (node, next) ← readFlow depth place
      let colon := next.skip
      match colon.rest with
      | ':' :: _ =>
          if isKeyColon place colon then
            let after := (colon.advance 1).skip
            match after.rest with
            | ',' :: _ | ']' :: _ | '}' :: _ => return (node, some .blank, after)
            | _ =>
                let (value, last) ← readFlow depth after
                return (node, some value, last)
          else .error .malformed
      | _ => return (node, none, colon)

/-- Read the items of a list in brackets; those already read are in reverse. A key with a value
among them is a mapping of its own. -/
def readFlowItems : Nat -> List Node -> Place -> Except Problem (Node × Place)
  | 0, _, _ => .error .malformed
  | depth + 1, done, place =>
      match place.rest with
      | ']' :: _ => .ok (.list done.reverse, place.advance 1)
      | _ => do
          let (node, value, next) ← readFlowEntry depth place
          let item ←
            match node, value with
            | item, none => Except.ok item
            | .word key, some value => .ok (.ofEntries [(key, value)])
            | _, some _ => .error .malformed
          let after := next.skip
          match after.rest with
          | ',' :: _ => readFlowItems depth (item :: done) (after.advance 1).skip
          | ']' :: _ => return (.list (item :: done).reverse, after.advance 1)
          | _ => .error .malformed

/-- Read the entries of a mapping in braces; those already read are in reverse. -/
def readFlowEntries : Nat -> List (Word × Node) -> Place -> Except Problem (Node × Place)
  | 0, _, _ => .error .malformed
  | depth + 1, done, place =>
      match place.rest with
      | '}' :: _ => .ok (.ofEntries done.reverse, place.advance 1)
      | _ => do
          let (node, value, next) ← readFlowEntry depth place
          let entries ←
            match node with
            | .word key => Except.ok ((key, value.getD .blank) :: done)
            | _ => .error .malformed
          let after := next.skip
          match after.rest with
          | ',' :: _ => readFlowEntries depth entries (after.advance 1).skip
          | '}' :: _ => return (.ofEntries entries.reverse, after.advance 1)
          | _ => .error .malformed

end

mutual

/-- Read one node of a block, which is indented to the bound. Collections of a block can begin
only where `mayOpen` holds. -/
def readBlock : Nat -> Nat -> Bool -> Place -> Except Problem (Node × Place)
  | 0, _, _, _ => .error .malformed
  | depth + 1, bound, mayOpen, place =>
      if place.hasMark '-' then
        if mayOpen then readItems depth place.column false [] place else .error .malformed
      else do
        let (node, next) ←
          if opensFlow place then readFlow (stepsFrom place) place
          else (readWord false bound place).map fun (word, next) => (Node.word word, next)
        if next.skip.hasMark ':' then
          match node with
          | .word _ =>
              if mayOpen then readEntries depth place.column [] place else .error .malformed
          | _ => .error .malformed
        else return (node, next)

/-- Read the items of a list in a column; those already read are in reverse. In the column of a
mapping the list ends where a key follows. -/
def readItems : Nat -> Nat -> Bool -> List Node -> Place -> Except Problem (Node × Place)
  | 0, _, _, _, _ => .error .malformed
  | depth + 1, column, inMapping, done, place => do
      let after := (place.advance 1).skip
      let (item, next) ←
        if !after.atEnd && (after.line == place.line || column < after.column) then
          readBlock depth (column + 1) true after
        else Except.ok (.blank, place.advance 1)
      let items := item :: done
      let following := next.skip
      if following.atEnd || following.column < column then return (.list items.reverse, next)
      else if following.column != column || following.line == next.line then .error .malformed
      else if following.hasMark '-' then readItems depth column inMapping items following
      else if inMapping then return (.list items.reverse, next)
      else .error .malformed

/-- Read the entries of a mapping in a column; those already read are in reverse. -/
def readEntries : Nat -> Nat -> List (Word × Node) -> Place ->
    Except Problem (Node × Place)
  | 0, _, _, _ => .error .malformed
  | depth + 1, column, done, place => do
      let (key, afterKey) ← readWord false (column + 1) place
      let colon := afterKey.skip
      if !colon.hasMark ':' || !isKeyColon place colon then .error .malformed
      else
        let after := (colon.advance 1).skip
        let (value, next) ←
          if after.atEnd then Except.ok (.blank, colon.advance 1)
          else if after.line == colon.line then readBlock depth (column + 1) false after
          else if column < after.column then readBlock depth (column + 1) true after
          else if after.column == column && after.hasMark '-' then
            readItems depth column true [] after
          else Except.ok (.blank, colon.advance 1)
        let entries := (key, value) :: done
        let following := next.skip
        if following.atEnd || following.column < column then
          return (.ofEntries entries.reverse, next)
        else if following.column != column || following.line == next.line then .error .malformed
        else readEntries depth column entries following

end

/-- Check that nothing but document ends follows a document. -/
def finish : Nat -> Place -> Except Problem Unit
  | 0, _ => .error .malformed
  | depth + 1, place =>
      let following := place.skip
      if following.rest.isEmpty then .ok ()
      else if following.column == 0 && following.rest.take 3 == ['.', '.', '.'] &&
          Place.isSeparator following.rest then
        finish depth (following.advance 3)
      else .error .malformed

/-- Read the document at a place. -/
def readDocument (place : Place) : Except Problem (Node × Place) :=
  let depth := stepsFrom place
  if place.column == 0 && place.rest.take 3 == ['-', '-', '-'] && Place.isSeparator place.rest then
    let after := (place.advance 3).skip
    if after.atEnd then .ok (.blank, place.advance 3)
    else readBlock depth 0 (after.line != place.line) after
  else if place.atEnd then .error .malformed
  else readBlock depth 0 true place

/-- Read a whole text as one node. -/
def readNode (text : List Char) : Except Problem Node :=
  let first := (Place.start text).skip
  if !text.all isPrintable then .error .malformed
  else if first.rest.isEmpty then .ok .blank
  else do
    let (node, next) ← readDocument first
    finish (text.length + 1) next
    return node

/-- Read a whole text as the value of one document. -/
def read (text : List Char) : Except Problem Value :=
  readNode text >>= Node.read

end RequestSurface.Yaml
