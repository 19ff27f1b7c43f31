import RequestSurface.Text.Half
import RequestSurface.Yaml.Node

/-!
# Reading scalars

Reads quoted and plain scalars up to their end. Blanks around a line end fold: a single line end
becomes one blank, and of several all but the first are kept.
-/

namespace RequestSurface.Yaml

/-- What stands between two parts of a scalar: blanks, or line ends, each in reverse. Line ends may
follow an escaped one, which stands for nothing. -/
inductive Gap where
  | blanks (text : List Char)
  | breaks (first : Char) (others : List Char)
  | escaped (others : List Char)

namespace Gap

/-- No gap. -/
def none : Gap := .blanks []

/-- A gap with one more blank. Blanks at the start of a line do not count. -/
def addBlank (gap : Gap) (blank : Char) : Gap :=
  match gap with
  | blanks text => .blanks (blank :: text)
  | other => other

/-- A gap with one more line end. Blanks before it do not count. -/
def addBreak (gap : Gap) (mark : Char) : Gap :=
  match gap with
  | blanks _ => .breaks mark []
  | breaks first others => .breaks first (mark :: others)
  | escaped others => .escaped (mark :: others)

/-- What a gap stands for, in reverse. -/
def folded : Gap -> List Char
  | blanks text => text
  | breaks '\n' [] => [' ']
  | breaks '\n' others => others
  | breaks first others => others ++ [first]
  | escaped others => others

/-- Whether nothing stands between. -/
def isNone : Gap -> Bool
  | blanks [] => true
  | _ => false

end Gap

/-- What a one-letter escape stands for. -/
def simpleEscapes : List (Char × Char) :=
  [('0', '\x00'), ('a', '\x07'), ('b', '\x08'), ('t', '\t'), ('\t', '\t'), ('n', '\n'),
    ('v', '\x0b'), ('f', '\x0c'), ('r', '\r'), ('e', '\x1b'), (' ', ' '), ('"', '"'), ('\\', '\\'),
    ('/', '/'), ('N', '\u0085'), ('_', '\u00A0'), ('L', '\u2028'), ('P', '\u2029')]

/-- How many hexadecimal digits follow the letter of an escape. -/
def escapeWidth? : Char -> Option Nat
  | 'x' => some 2
  | 'u' => some 4
  | 'U' => some 8
  | _ => none

/-- The number of an escape with so many hexadecimal digits. -/
def escapeNumber? (width : Nat) (text : List Char) : Option Nat :=
  if (text.take width).length = width then Text.hexNumber? (text.take width) else none

/-- The character of a number that an escape names. -/
def escapedChar (code : Nat) : Except Problem Char :=
  if code ≤ 0x10FFFF then .ok (Text.charOf code)
  else if code ≤ 0x7FFFFFFF then .error .noSuchCharacter
  else .error .characterTooGreat

/-- The character after a backslash and how many characters it takes. -/
def readEscape : List Char -> Except Problem (Char × Nat)
  | [] => .error .malformed
  | letter :: rest =>
      match simpleEscapes.lookup letter, escapeWidth? letter with
      | some character, _ => .ok (character, 1)
      | none, none => .error .malformed
      | none, some width =>
          match escapeNumber? width rest with
          | some code => (escapedChar code).map fun character => (character, width + 1)
          | none => .error .malformed

/-- Read a quoted scalar after its opening quote; what was read before is in reverse. -/
def readQuoted (quote : Char) (offset line column : Nat) (done : List Char) (gap : Gap) :
    List Char -> Except Problem (String × Place)
  | [] => .error .malformed
  | head :: rest =>
      if isBreak head then
        if head == '\r' && rest.head? == some '\n' then
          readQuoted quote (offset + 1) line (column + 1) done gap rest
        else if Place.isSeparator rest then .error .malformed
        else readQuoted quote (offset + 1) (line + 1) 0 done (gap.addBreak (breakText head)) rest
      else if head == ' ' || head == '\t' then
        readQuoted quote (offset + 1) line (column + 1) done (gap.addBlank head) rest
      else
        let before := gap.folded ++ done
        if head == quote then
          if quote == '\'' && rest.head? == some '\'' then
            readQuoted quote (offset + 2) line (column + 2) ('\'' :: before) .none (rest.drop 1)
          else .ok (String.ofList before.reverse, ⟨rest, offset + 1, line, column + 1⟩)
        else if head == '\\' && quote == '"' then
          match rest with
          | [] => .error .malformed
          | mark :: tail =>
              if isBreak mark then
                let tail := if mark == '\r' && tail.head? == some '\n' then tail.drop 1 else tail
                if Place.isSeparator tail then .error .malformed
                else readQuoted quote (offset + 2) (line + 1) 0 before (.escaped []) tail
              else
                match readEscape (mark :: tail) with
                | .error problem => .error problem
                | .ok (character, width) =>
                    readQuoted quote (offset + 1 + width) line (column + 1 + width)
                      (character :: before) .none ((mark :: tail).drop width)
        else readQuoted quote (offset + 1) line (column + 1) (head :: before) .none rest
termination_by text => text.length
decreasing_by
  all_goals simp_all
  all_goals grind

/-- Characters that separate inside brackets. -/
def isFlowMark (character : Char) : Bool :=
  character == ',' || character == '?' || character == '[' || character == ']' ||
    character == '{' || character == '}'

/-- Whether a colon, followed by the given text, ends a plain scalar. Inside brackets it may touch
the next one. -/
def endsAtColon (inFlow : Bool) (rest : List Char) : Bool :=
  startsBlank rest ||
    (inFlow && match rest with
      | head :: _ => isFlowMark head && head != '?'
      | [] => true)

/-- Whether a plain scalar can begin with a text. -/
def startsPlain (inFlow : Bool) : List Char -> Bool
  | [] => false
  | head :: rest =>
      if head == ' ' || head == '\t' || isBreak head then false
      else if head == '-' then !startsBlank rest
      else if head == '?' || head == ':' then !inFlow && !startsBlank rest
      else !(",[]{}#&*!|>'\"%@`".toList.contains head)

/-- Read a plain scalar; what was read before is in reverse, and `last` is where it ended. In a
block it goes on only in lines that are indented to the bound. -/
def readPlain (inFlow : Bool) (bound : Nat) (last : Place) (offset line column : Nat)
    (done : List Char) (gap : Gap) : List Char -> String × Place
  | [] => (String.ofList done.reverse, last)
  | head :: rest =>
      let finished := (String.ofList done.reverse, last)
      if isBreak head then
        if head == '\r' && rest.head? == some '\n' then
          readPlain inFlow bound last (offset + 1) line column done gap rest
        else if Place.isSeparator rest then finished
        else
          let gap := gap.addBreak (breakText head)
          readPlain inFlow bound last (offset + 1) (line + 1) 0 done gap rest
      else if head == ' ' then
        readPlain inFlow bound last (offset + 1) line (column + 1) done (gap.addBlank head) rest
      else if head == '\t' then finished
      else if !gap.isNone && (head == '#' || (!inFlow && column < bound)) then finished
      else if head == ':' && endsAtColon inFlow rest then finished
      else if inFlow && isFlowMark head then finished
      else
        let here : Place := ⟨rest, offset + 1, line, column + 1⟩
        readPlain inFlow bound here (offset + 1) line (column + 1)
          (head :: (gap.folded ++ done)) .none rest

/-- Read the word that begins at a place, and where it ended. -/
def readWord (inFlow : Bool) (bound : Nat) (place : Place) : Except Problem (Word × Place) :=
  match place.rest with
  | [] => .error .malformed
  | head :: rest =>
      if head == '"' || head == '\'' then do
        let (text, next) ←
          readQuoted head (place.offset + 1) place.line (place.column + 1) [] .none rest
        return (⟨text, false⟩, next)
      else if startsPlain inFlow place.rest then
        let (text, next) :=
          readPlain inFlow bound place place.offset place.line place.column [] .none place.rest
        .ok (⟨text, true⟩, next)
      else .error .malformed

end RequestSurface.Yaml
