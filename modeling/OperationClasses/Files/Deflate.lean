/-
Module: OperationClasses.Files.Deflate
Purpose: Unpacking what an archive stores in blocks of literal bytes and of copies of earlier ones, which are
  written in codes of variable length.
Main exports: BitReader, SymbolCode, inflate
-/

namespace OperationClasses

/-- Reads bits, the lowest one of a byte first. The state is the number of bits read so far. -/
abbrev BitReader (α : Type) := ReaderT ByteArray (StateT Nat Option) α

namespace BitReader

/-- Reads one bit. -/
def bit : BitReader Nat := fun data position => do
  let byte ← data[position / 8]?
  return ((byte.toNat >>> (position % 8)) % 2, position + 1)

/-- Reads a number of some bits, the lowest one first. -/
def number : Nat → BitReader Nat
  | 0 => return 0
  | n + 1 => do
    let low ← bit
    return low + 2 * (← number n)

/-- Goes on with the next whole byte. -/
def align : BitReader Unit := modify fun position => (position + 7) / 8 * 8

/-- Reads as many numbers of some bits as are asked for. -/
def numbers (bits : Nat) : Nat → BitReader (List Nat)
  | 0 => return []
  | n + 1 => do
    let first ← number bits
    return first :: (← numbers bits n)

end BitReader

/-- A code of symbols: the number of symbols for each length from one bit on, and the symbols in the order of
    their codes. -/
structure SymbolCode where
  counts : List Nat
  symbols : Array Nat
deriving Inhabited

namespace SymbolCode

/-- The code in which each symbol has the given length, and none has length zero. Shorter codes come first,
    and those of one length in the order of their symbols. -/
def ofLengths (lengths : List Nat) : SymbolCode where
  counts := (List.range 15).map fun n => lengths.count (n + 1)
  symbols := ((List.range 15).flatMap fun n =>
    (lengths.zipIdx.filter (·.1 = n + 1)).map (·.2)).toArray

/-- Reads a symbol, where `first` is the first code of the next length, `skipped` the number of shorter codes,
    and `code` what was read of the code. -/
def readFrom (symbols : Array Nat) (code first skipped : Nat) : List Nat → BitReader Nat
  | [] => failure
  | count :: counts => do
    let code := 2 * code + (← BitReader.bit)
    if code < first + count then symbols[skipped + (code - first)]?.elim failure pure
    else readFrom symbols code (2 * (first + count)) (skipped + count) counts

/-- Reads a symbol. -/
def read (c : SymbolCode) : BitReader Nat := readFrom c.symbols 0 0 0 c.counts

end SymbolCode

namespace Deflate

/-- The least length or distance of a symbol and the number of bits that add to it. -/
structure Extent where
  least : Nat
  extra : Nat
deriving Inhabited

/-- Extents that follow each other, given their numbers of bits. -/
def extents (least : Nat) : List Nat → List Extent
  | [] => []
  | extra :: rest => ⟨least, extra⟩ :: extents (least + (1 <<< extra)) rest

/-- The lengths that can be copied. The greatest one has a symbol of its own. -/
def copyLengths : Array Extent :=
  (extents 3 [0, 0, 0, 0, 0, 0, 0, 0, 1, 1, 1, 1, 2, 2, 2, 2, 3, 3, 3, 3, 4, 4, 4, 4, 5, 5, 5,
    5]).toArray.push ⟨258, 0⟩

/-- The distances that can be copied from. -/
def copyDistances : Array Extent :=
  (extents 1 [0, 0, 0, 0, 1, 1, 2, 2, 3, 3, 4, 4, 5, 5, 6, 6, 7, 7, 8, 8, 9, 9, 10, 10, 11, 11, 12, 12, 13,
    13]).toArray

/-- Reads the length or distance of a symbol. -/
def readExtent (all : Array Extent) (symbol : Nat) : BitReader Nat :=
  match all[symbol]? with
  | none => failure
  | some e => do return e.least + (← BitReader.number e.extra)

/-- Adds a copy of what stands at a distance before the end, byte by byte. -/
def copyBack (out : ByteArray) (distance : Nat) : Nat → ByteArray
  | 0 => out
  | n + 1 => copyBack (out.push (out[out.size - distance]?.getD 0)) distance n

/-- Reads the symbols of a block up to its end. Each takes a bit at least, so a bound of the number of bits is
    never reached. -/
def readSymbols (literals distances : SymbolCode) : Nat → ByteArray → BitReader ByteArray
  | 0, _ => failure
  | n + 1, out => do
    let symbol ← literals.read
    if symbol < 256 then readSymbols literals distances n (out.push symbol.toUInt8)
    else if symbol = 256 then return out
    else
      let length ← readExtent copyLengths (symbol - 257)
      let distance ← readExtent copyDistances (← distances.read)
      if out.size < distance then failure
      else readSymbols literals distances n (copyBack out distance length)

/-- Reads a block of bytes as they are. -/
def readStored (out : ByteArray) : BitReader ByteArray := do
  BitReader.align
  let length ← BitReader.number 16
  let complement ← BitReader.number 16
  if length + complement ≠ 0xFFFF then failure
  return (← BitReader.numbers 8 length).foldl (fun out byte => out.push byte.toUInt8) out

/-- The codes of a block that brings none of its own. -/
def standardCodes : SymbolCode × SymbolCode :=
  (.ofLengths (List.replicate 144 8 ++ List.replicate 112 9 ++ List.replicate 24 7 ++ List.replicate 8 8),
    .ofLengths (List.replicate 30 5))

/-- The order in which the lengths of the codes for lengths are given. -/
def lengthOrder : List Nat := [16, 17, 18, 0, 8, 7, 9, 6, 10, 5, 11, 4, 12, 3, 13, 2, 14, 1, 15]

/-- Reads the lengths of codes until there are enough. Some symbols repeat the last length or zero. -/
def readLengths (code : SymbolCode) (wanted : Nat) : Nat → List Nat → BitReader (List Nat)
  | 0, _ => failure
  | n + 1, lengths => do
    if wanted ≤ lengths.length then return lengths
    else
      let symbol ← code.read
      if symbol < 16 then readLengths code wanted n (lengths ++ [symbol])
      else if symbol = 16 then
        let times ← BitReader.number 2
        match lengths.getLast? with
        | none => failure
        | some last => readLengths code wanted n (lengths ++ List.replicate (3 + times) last)
      else if symbol = 17 then
        let times ← BitReader.number 3
        readLengths code wanted n (lengths ++ List.replicate (3 + times) 0)
      else
        let times ← BitReader.number 7
        readLengths code wanted n (lengths ++ List.replicate (11 + times) 0)

/-- Reads the codes of a block. -/
def readCodes : BitReader (SymbolCode × SymbolCode) := do
  let literalCount := 257 + (← BitReader.number 5)
  let distanceCount := 1 + (← BitReader.number 5)
  let given ← BitReader.numbers 3 (4 + (← BitReader.number 4))
  let lengthOf (symbol : Nat) : Nat := ((lengthOrder.zip given).lookup symbol).getD 0
  let code := SymbolCode.ofLengths ((List.range 19).map lengthOf)
  let wanted := literalCount + distanceCount
  let lengths ← readLengths code wanted (wanted + 1) []
  return (.ofLengths (lengths.take literalCount), .ofLengths ((lengths.drop literalCount).take distanceCount))

/-- Reads blocks up to the last one. A block takes three bits at least. -/
def readBlocks : Nat → ByteArray → BitReader ByteArray
  | 0, _ => failure
  | n + 1, out => do
    let last ← BitReader.bit
    let kind ← BitReader.number 2
    let bits := 8 * (← read).size
    let out ← match kind with
      | 0 => readStored out
      | 1 => readSymbols standardCodes.1 standardCodes.2 bits out
      | 2 => do
        let (literals, distances) ← readCodes
        readSymbols literals distances bits out
      | _ => failure
    if last = 1 then return out else readBlocks n out

end Deflate

/-- The bytes that packed ones stand for, if they are well formed. -/
def inflate (data : ByteArray) : Option ByteArray :=
  ((Deflate.readBlocks (8 * data.size) ByteArray.empty).run data).run' 0

end OperationClasses
