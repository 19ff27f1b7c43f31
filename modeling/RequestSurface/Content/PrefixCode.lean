/-!
# Prefix codes

Codes in which no code word begins another one. A code is told by the lengths of its words: the
shorter words come first, and words of one length are numbers in the order of what they stand for.
-/

namespace RequestSurface.Content

/-- A prefix code: for each length of words, from one bit on, the symbols with such words. -/
structure PrefixCode where
  levels : List (List Nat)
  deriving Repr

/-- What reading one word gives: the symbol and the bits after the word, the end of the bits, or a
row of bits that is no word, with the bits after it. -/
inductive WordRead where
  | symbol (symbol : Nat) (rest : List Bool)
  | ended
  | noWord (rest : List Bool)

namespace PrefixCode

/-- The symbols whose words have a length. -/
def symbolsOf (lengths : List Nat) (length : Nat) : List Nat :=
  (List.range lengths.length).filter fun symbol => lengths[symbol]? == some length

/-- The code whose words have the given lengths; symbols of length zero have no word. -/
def ofLengths (lengths : List Nat) : PrefixCode where
  levels :=
    let greatest := max 1 (lengths.foldl max 0)
    (List.range greatest).map fun before => symbolsOf lengths (before + 1)

/-- How many words of the greatest length are left over, or none if there are too many words. -/
def spare? (code : PrefixCode) : Option Nat :=
  code.levels.foldlM
    (fun left symbols =>
      if 2 * left < symbols.length then none else some (2 * left - symbols.length))
    1

/-- Whether a code has no words. -/
def isEmpty (code : PrefixCode) : Bool :=
  code.levels.all (·.isEmpty)

/-- Whether every row of bits begins with a word, or the code is empty. -/
def isFull (code : PrefixCode) : Bool :=
  code.isEmpty || code.spare? == some 0

/-- Whether a code is full or has a single word of one bit. -/
def isUsable (code : PrefixCode) : Bool :=
  code.isFull || (code.levels.length == 1 && code.spare?.isSome)

/-- Read a word whose bits so far are a number; `first` is the number of the first word of that
length. -/
def readFrom (number first : Nat) : List (List Nat) -> List Bool -> WordRead
  | [], rest => .noWord rest
  | _, [] => .ended
  | symbols :: levels, bit :: rest =>
      let number := 2 * number + bit.toNat
      let first := 2 * first
      match if number < first then none else symbols[number - first]? with
      | some symbol => .symbol symbol rest
      | none => readFrom number (first + symbols.length) levels rest

/-- Read a word. -/
def read (code : PrefixCode) (bits : List Bool) : WordRead :=
  readFrom 0 0 code.levels bits

end PrefixCode

end RequestSurface.Content
