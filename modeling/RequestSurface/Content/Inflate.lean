import RequestSurface.Content.PrefixCode

/-!
# Unpacking

Packed content is a row of bits in blocks. A block holds bytes as they are, or words of two prefix
codes: one for bytes and for the lengths of repeats, and one for how far back a repeat begins. The
codes of a block are fixed, or written at its start. Content that ends early is unpacked as far as
it goes, and what follows the last block is passed over.
-/

namespace RequestSurface.Content

/-- Why content cannot be unpacked. -/
inductive PackingFault where
  | blockType
  | storedLengths
  | tooManySymbols
  | lengthCode
  | lengthRepeat
  | noBlockEnd
  | literalCode
  | distanceCode
  | literalWord
  | distanceWord
  | tooFarBack
  deriving DecidableEq, Repr

/-- What is wrong. -/
def PackingFault.wording : PackingFault -> String
  | blockType => "invalid block type"
  | storedLengths => "invalid stored block lengths"
  | tooManySymbols => "too many length or distance symbols"
  | lengthCode => "invalid code lengths set"
  | lengthRepeat => "invalid bit length repeat"
  | noBlockEnd => "invalid code -- missing end-of-block"
  | literalCode => "invalid literal/lengths set"
  | distanceCode => "invalid distances set"
  | literalWord => "invalid literal/length code"
  | distanceWord => "invalid distance code"
  | tooFarBack => "invalid distance too far back"

/-- Why unpacking stops early: the content ends, after what was unpacked before, or is at fault. -/
inductive Stop where
  | ended (output : Array UInt8)
  | fault (fault : PackingFault)

/-- What is left to read, and what was unpacked. -/
structure Unpacking where
  bits : List Bool
  output : Array UInt8 := #[]

/-- The number of some bits, the least one first. -/
def numberOf (bits : List Bool) : Nat :=
  bits.foldr (fun bit number => 2 * number + bit.toNat) 0

/-- The bits of some bytes, the least one of each byte first. -/
def bitsOf (bytes : List UInt8) : List Bool :=
  bytes.flatMap fun byte => (List.range 8).map fun place => byte.toNat.testBit place

namespace Unpacking

/-- Read a number of so many bits. -/
def number (state : Unpacking) (width : Nat) : Except Stop (Nat × Unpacking) :=
  let taken := state.bits.take width
  if taken.length < width then .error (.ended state.output)
  else .ok (numberOf taken, { state with bits := state.bits.drop width })

/-- Read a word of a code; a row of bits that is no word is a fault. -/
def word (state : Unpacking) (code : PrefixCode) (fault : PackingFault) :
    Except Stop (Nat × Unpacking) :=
  match code.read state.bits with
  | .symbol symbol rest => .ok (symbol, { state with bits := rest })
  | .ended => .error (.ended state.output)
  | .noWord _ => .error (.fault fault)

/-- Repeat so many bytes from a distance before the end. -/
def copy (distance : Nat) : Nat -> Array UInt8 -> Array UInt8
  | 0, output => output
  | count + 1, output =>
      copy distance count (output.push ((output[output.size - distance]?).getD 0))

/-- The lengths of repeats: the least one of each symbol, and how many bits are added to it. -/
def repeatLengths : List (Nat × Nat) :=
  [(3, 0), (4, 0), (5, 0), (6, 0), (7, 0), (8, 0), (9, 0), (10, 0), (11, 1), (13, 1), (15, 1),
    (17, 1), (19, 2), (23, 2), (27, 2), (31, 2), (35, 3), (43, 3), (51, 3), (59, 3), (67, 4),
    (83, 4), (99, 4), (115, 4), (131, 5), (163, 5), (195, 5), (227, 5), (258, 0)]

/-- The distances of repeats: the least one of each symbol, and how many bits are added to it. -/
def repeatDistances : List (Nat × Nat) :=
  [(1, 0), (2, 0), (3, 0), (4, 0), (5, 1), (7, 1), (9, 2), (13, 2), (17, 3), (25, 3), (33, 4),
    (49, 4), (65, 5), (97, 5), (129, 6), (193, 6), (257, 7), (385, 7), (513, 8), (769, 8),
    (1025, 9), (1537, 9), (2049, 10), (3073, 10), (4097, 11), (6145, 11), (8193, 12), (12289, 12),
    (16385, 13), (24577, 13)]

/-- Read the rest of a repeat, whose length has the given symbol, and repeat. -/
def copied (state : Unpacking) (distances : PrefixCode) (symbol : Nat) : Except Stop Unpacking := do
  let output := state.output
  match repeatLengths[symbol]? with
  | none => throw (.fault .literalWord)
  | some (least, width) =>
      let (added, state) ← state.number width
      let (symbol, state) ← state.word distances .distanceWord
      match repeatDistances[symbol]? with
      | none => throw (.fault .distanceWord)
      | some (nearest, width) =>
          let (further, state) ← state.number width
          let distance := nearest + further
          if output.size < distance then throw (.fault .tooFarBack)
          return { state with output := copy distance (least + added) output }

/-- Read words up to the end of a block, in at most so many steps. -/
def words (literals distances : PrefixCode) : Nat -> Unpacking -> Except Stop Unpacking
  | 0, state => .error (.ended state.output)
  | steps + 1, state => do
      let (symbol, next) ← state.word literals .literalWord
      if symbol < 256 then
        words literals distances steps { next with output := next.output.push symbol.toUInt8 }
      else if symbol = 256 then return next
      else words literals distances steps (← next.copied distances (symbol - 257))

/-- The fixed code of bytes and lengths. -/
def fixedLiterals : PrefixCode :=
  .ofLengths (List.replicate 144 8 ++ List.replicate 112 9 ++ List.replicate 24 7 ++
    List.replicate 8 8)

/-- The fixed code of distances. -/
def fixedDistances : PrefixCode := .ofLengths (List.replicate 32 5)

/-- The order in which the lengths of words for lengths are written. -/
def lengthOrder : List Nat :=
  [16, 17, 18, 0, 8, 7, 9, 6, 10, 5, 11, 4, 12, 3, 13, 2, 14, 1, 15]

/-- Read so many numbers of three bits. -/
def threeBits : Nat -> Unpacking -> Except Stop (List Nat × Unpacking)
  | 0, state => .ok ([], state)
  | count + 1, state => do
      let (first, state) ← state.number 3
      let (others, state) ← threeBits count state
      return (first :: others, state)

/-- Read the lengths of words up to a count, in at most so many steps; those already read are in
reverse. In a code without words, every bit is a length of zero. -/
def lengths (code : PrefixCode) (count : Nat) :
    Nat -> List Nat -> Unpacking -> Except Stop (List Nat × Unpacking)
  | 0, _, state => .error (.ended state.output)
  | steps + 1, done, state =>
      if count ≤ done.length then .ok (done.reverse, state)
      else
        match code.read state.bits with
        | .ended => .error (.ended state.output)
        | .noWord rest => lengths code count steps (0 :: done) { state with bits := rest }
        | .symbol symbol rest => do
            let state := { state with bits := rest }
            if symbol < 16 then lengths code count steps (symbol :: done) state
            else
              let (least, width) :=
                if symbol = 16 then (3, 2) else if symbol = 17 then (3, 3) else (11, 7)
              let (added, state) ← state.number width
              let again := least + added
              if symbol = 16 && done.isEmpty then throw (.fault .lengthRepeat)
              if count < done.length + again then throw (.fault .lengthRepeat)
              let length := if symbol = 16 then done.headD 0 else 0
              lengths code count steps (List.replicate again length ++ done) state

/-- Read the codes of a block. -/
def codes (state : Unpacking) : Except Stop (PrefixCode × PrefixCode × Unpacking) := do
  let (literals, state) ← state.number 5
  let (distances, state) ← state.number 5
  let (written, state) ← state.number 4
  let literals := literals + 257
  let distances := distances + 1
  if 286 < literals || 30 < distances then throw (.fault .tooManySymbols)
  let (widths, state) ← threeBits (written + 4) state
  let widthOf := lengthOrder.zip widths
  let code :=
    PrefixCode.ofLengths ((List.range 19).map fun symbol => (widthOf.lookup symbol).getD 0)
  if !code.isFull then throw (.fault .lengthCode)
  let count := literals + distances
  let (found, state) ← lengths code count (count + 1) [] state
  if found[256]? == some 0 then throw (.fault .noBlockEnd)
  let literalCode := PrefixCode.ofLengths (found.take literals)
  if !literalCode.isUsable then throw (.fault .literalCode)
  let distanceCode := PrefixCode.ofLengths (found.drop literals)
  if !distanceCode.isUsable then throw (.fault .distanceCode)
  return (literalCode, distanceCode, state)

/-- Take so many bytes as they are. -/
def stored : Nat -> Unpacking -> Except Stop Unpacking
  | 0, state => .ok state
  | count + 1, state => do
      let (byte, next) ← state.number 8
      stored count { next with output := next.output.push byte.toUInt8 }

/-- Read one block after its first bit. -/
def block (state : Unpacking) : Except Stop Unpacking := do
  let (kind, state) ← state.number 2
  match kind with
  | 0 =>
      let state := { state with bits := state.bits.drop (state.bits.length % 8) }
      let (size, state) ← state.number 16
      let (check, state) ← state.number 16
      if size + check != 0xFFFF then throw (.fault .storedLengths)
      stored size state
  | 1 => words fixedLiterals fixedDistances (state.bits.length + 1) state
  | 2 =>
      let (literals, distances, state) ← state.codes
      words literals distances (state.bits.length + 1) state
  | _ => throw (.fault .blockType)

/-- Read blocks up to the last one, in at most so many steps. -/
def blocks : Nat -> Unpacking -> Except Stop Unpacking
  | 0, state => .error (.ended state.output)
  | steps + 1, state => do
      let (isLast, state) ← state.number 1
      let state ← state.block
      if isLast = 1 then return state else blocks steps state

end Unpacking

/-- Unpack content: what it holds, and the bytes after it. Content that ends early has none after
it, not even an empty rest. -/
def unpackWithRest (bytes : List UInt8) :
    Except PackingFault (List UInt8 × Option (List UInt8)) :=
  let bits := bitsOf bytes
  match Unpacking.blocks (bits.length + 1) { bits } with
  | .ok state => .ok (state.output.toList, some (bytes.drop (bytes.length - state.bits.length / 8)))
  | .error (.ended output) => .ok (output.toList, none)
  | .error (.fault fault) => .error fault

/-- Unpack content. -/
def unpack (bytes : List UInt8) : Except PackingFault (List UInt8) :=
  (unpackWithRest bytes).map (·.1)

/-- The check sum that follows sealed content. -/
def checkSum (bytes : List UInt8) : Nat :=
  let (first, second) := bytes.foldl
    (fun (first, second) byte =>
      let first := (first + byte.toNat) % 65521
      (first, (second + first) % 65521))
    (1, 0)
  0x10000 * second + first

/-- Unpack sealed content: packed content after a head of two bytes and before four of a check
sum. -/
def unpackSealed? (bytes : List UInt8) : Option (List UInt8) :=
  match bytes with
  | first :: second :: rest =>
      let head := 0x100 * first.toNat + second.toNat
      let needsWords := second.toNat.testBit 5
      if head % 31 != 0 || first.toNat % 16 != 8 || 7 < first.toNat / 16 then none
      else if needsWords then if rest.length < 4 then some [] else none
      else
        match unpackWithRest rest with
        | .error _ => none
        | .ok (output, none) => some output
        | .ok (output, some rest) =>
            let check := rest.take 4
            let number := check.foldl (fun number byte => 0x100 * number + byte.toNat) 0
            if check.length = 4 ∧ number != checkSum output then none else some output
  | _ => some []

end RequestSurface.Content
