import RequestSurface.Toml.Scalar

/-!
# Reading TOML

Reads a text of tables, arrays of tables and keys with values. A table is declared once, and
nothing is added to a value that was written as a whole. Keys with dots make the tables on their
way, which a later section cannot declare again.
-/

namespace RequestSurface.Toml

/-- Entries of a table. -/
abbrev Entries := List (Scalar × Value)

/-- The tables declared so far, those that keys with dots made in the current section, and the
places whose values were written as a whole. -/
structure Claims where
  declared : List (List String) := []
  pending : List (List String) := []
  closed : List (List String) := []

/-- Whether a value is a container, which nothing is added to later. -/
def isContainer : Value -> Bool
  | .scalar _ => false
  | _ => true

namespace Claims

/-- Whether a place lies in a value that was written as a whole. -/
def isClosed (claims : Claims) (place : List String) : Bool :=
  claims.closed.any (·.isPrefixOf place)

/-- Whether a table was declared. -/
def isDeclared (claims : Claims) (place : List String) : Bool :=
  claims.declared.contains place

/-- Begin a section: what keys with dots made counts as declared. -/
def nextSection (claims : Claims) : Claims :=
  { claims with declared := claims.pending ++ claims.declared, pending := [] }

/-- Declare a table. -/
def declare (claims : Claims) (place : List String) : Claims :=
  { claims with declared := place :: claims.declared }

/-- Forget everything at and beneath a place. -/
def forget (claims : Claims) (place : List String) : Claims :=
  { claims with
    declared := claims.declared.filter (!place.isPrefixOf ·),
    closed := claims.closed.filter (!place.isPrefixOf ·) }

/-- Close the place of a value that was written as a whole, if it can hold others. -/
def closing (claims : Claims) (place : List String) (value : Value) : Claims :=
  if isContainer value then { claims with closed := place :: claims.closed } else claims

end Claims

mutual

/-- Change the table at a place, making the tables on the way that are missing. In a list of tables
the way leads through the last one, unless lists are shut. -/
def changeAt (throughLists : Bool) (change : Entries -> Option Entries) :
    List String -> Entries -> Option Entries
  | [], entries => change entries
  | key :: rest, entries =>
      match findText? entries key with
      | none => (changeAt throughLists change rest []).map fun inner =>
          putEntry entries (.text key) (.mapping inner)
      | some value =>
          (changeValue throughLists change rest value).map (putEntry entries (.text key))

/-- Change the table that a value is, or the last table of a list. -/
def changeValue (throughLists : Bool) (change : Entries -> Option Entries) (rest : List String) :
    Value -> Option Value
  | .mapping entries => (changeAt throughLists change rest entries).map Value.mapping
  | .list items =>
      match throughLists, items.getLast? with
      | true, some (.mapping entries) =>
          (changeAt throughLists change rest entries).map fun inner =>
            .list (items.dropLast ++ [.mapping inner])
      | _, _ => none
  | _ => none

end

/-- Give a new key of a table its value. -/
def addKey (key : String) (value : Value) (entries : Entries) : Option Entries :=
  match findText? entries key with
  | some _ => none
  | none => some (entries ++ [(.text key, value)])

/-- Add an empty table to a list of tables, which may be new. -/
def addTable (key : String) (entries : Entries) : Option Entries :=
  match findText? entries key with
  | none => some (entries ++ [(.text key, .list [.mapping []])])
  | some (.list items) => some (putEntry entries (.text key) (.list (items ++ [.mapping []])))
  | some _ => none

/-- Succeed with a value or stop. -/
def required {α : Type} : Option α -> Except Problem α
  | some value => .ok value
  | none => .error .malformed

/-- Skip a comment up to the end of its line. -/
def skipComment (text : List Char) : Except Problem (List Char) :=
  match text with
  | '#' :: rest =>
      let comment := rest.takeWhile (· != '\n')
      if comment.any (isForbidden false) then .error .malformed else .ok (rest.drop comment.length)
  | _ => .ok text

/-- Skip spaces and comments between the items of an array, in at most so many steps. -/
def skipFiller : Nat -> List Char -> Except Problem (List Char)
  | 0, _ => .error .malformed
  | steps + 1, text => do
      let next := skipSpace text
      match next with
      | '#' :: _ => skipFiller steps (← skipComment next)
      | _ => return next

/-- Skip spaces and comments between the items of an array. -/
def skipBetween (text : List Char) : Except Problem (List Char) :=
  skipFiller (text.length + 1) text

mutual

/-- Read a value. The depth counts down at every step and is never reached when it starts above
three times the number of characters. -/
def readValue : Nat -> List Char -> Except Problem (Value × List Char)
  | 0, _ => .error .malformed
  | depth + 1, text =>
      match text with
      | '"' :: rest => (readQuoted '"' rest).map fun (value, next) => (.text value, next)
      | '\'' :: rest => (readQuoted '\'' rest).map fun (value, next) => (.text value, next)
      | '[' :: rest => do readItems depth [] (← skipBetween rest)
      | '{' :: rest =>
          match skipBlanks rest with
          | '}' :: next => .ok (.mapping [], next)
          | inner => readInline depth {} [] inner
      | _ => readScalar text

/-- Read the items of an array; those already read are in reverse. -/
def readItems : Nat -> List Value -> List Char -> Except Problem (Value × List Char)
  | 0, _, _ => .error .malformed
  | depth + 1, done, text =>
      match text with
      | ']' :: rest => .ok (.list done.reverse, rest)
      | _ => do
          let (item, next) ← readValue depth text
          match ← skipBetween next with
          | ']' :: rest => return (.list (item :: done).reverse, rest)
          | ',' :: rest => readItems depth (item :: done) (← skipBetween rest)
          | _ => .error .malformed

/-- Read the entries of a table in braces after those already read. -/
def readInline : Nat -> Claims -> Entries -> List Char -> Except Problem (Value × List Char)
  | 0, _, _, _ => .error .malformed
  | depth + 1, claims, done, text => do
      let (key, value, next) ← readPair depth text
      if claims.isClosed key then .error .malformed
      else
        let entries ←
          required (changeAt false (addKey (key.getLast?.getD "") value) key.dropLast done)
        let claims := claims.closing key value
        match skipBlanks next with
        | '}' :: rest => return (.mapping entries, rest)
        | ',' :: rest => readInline depth claims entries (skipBlanks rest)
        | _ => .error .malformed

/-- Read a key and its value. -/
def readPair : Nat -> List Char -> Except Problem (List String × Value × List Char)
  | 0, _ => .error .malformed
  | depth + 1, text => do
      let (key, next) ← readKey text
      match next with
      | '=' :: rest =>
          let (value, last) ← readValue depth (skipBlanks rest)
          return (key, value, last)
      | _ => .error .malformed

end

/-- How far a document has been read: its content, what is claimed, and the table that keys now
belong to. -/
structure Progress where
  content : Entries := []
  claims : Claims := {}
  header : List String := []

/-- Read a key with its value into the current table. -/
def readEntry (progress : Progress) (text : List Char) : Except Problem (Progress × List Char) := do
  let (key, value, rest) ← readPair (3 * text.length + 3) text
  let place := progress.header ++ key
  let parent := place.dropLast
  let passed := ((List.range key.length).drop 1).map fun count => progress.header ++ key.take count
  if passed.any progress.claims.isDeclared || progress.claims.isClosed parent then
    .error .malformed
  else
    let content ←
      required (changeAt true (addKey (key.getLast?.getD "") value) parent progress.content)
    let claims := { progress.claims with pending := passed ++ progress.claims.pending }
    let claims := claims.closing place value
    return ({ progress with content, claims }, rest)

/-- Read the header of a table, after its opening bracket. -/
def readTable (progress : Progress) (text : List Char) : Except Problem (Progress × List Char) := do
  let (key, next) ← readKey (skipBlanks text)
  let claims := progress.claims.nextSection
  if claims.isDeclared key || claims.isClosed key then .error .malformed
  else
    let content ← required (changeAt true some key progress.content)
    match next with
    | ']' :: rest => return (⟨content, claims.declare key, key⟩, rest)
    | _ => .error .malformed

/-- Read the header of one more table of a list, after its opening brackets. -/
def readTableItem (progress : Progress) (text : List Char) :
    Except Problem (Progress × List Char) := do
  let (key, next) ← readKey (skipBlanks text)
  let claims := progress.claims.nextSection
  if claims.isClosed key then .error .malformed
  else
    let content ←
      required (changeAt true (addTable (key.getLast?.getD "")) key.dropLast progress.content)
    match next with
    | ']' :: ']' :: rest => return (⟨content, (claims.forget key).declare key, key⟩, rest)
    | _ => .error .malformed

/-- Read statements, in at most so many steps. -/
def readStatements : Nat -> Progress -> List Char -> Except Problem Entries
  | 0, _, _ => .error .malformed
  | steps + 1, progress, text => do
      match skipBlanks text with
      | [] => return progress.content
      | '\n' :: rest => readStatements steps progress rest
      | head :: tail =>
          let statement := head :: tail
          let (next, rest) ←
            if head == '[' then
              if tail.head? == some '[' then readTableItem progress (tail.drop 1)
              else readTable progress tail
            else if head == '#' then Except.ok (progress, statement)
            else readEntry progress statement
          match ← skipComment (skipBlanks rest) with
          | [] => return next.content
          | '\n' :: last => readStatements steps next last
          | _ => .error .malformed

/-- Read a whole text. -/
def read (text : List Char) : Except Problem Value :=
  (readStatements (text.length + 1) {} text).map Value.mapping

end RequestSurface.Toml
