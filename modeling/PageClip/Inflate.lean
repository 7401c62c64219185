import PageClip.HuffmanCode

/-! Unpacking of data in blocks of bytes as they are, or of coded bytes and references back to
what has been unpacked. -/

namespace PageClip

inductive PackingFault where
  | header
  | method
  | windowSize
  | dictionary
  | flags
  | headerSum
  | blockKind
  | storedLength
  | tooManySymbols
  | lengthCode
  | repetition
  | noEnd
  | literalCode
  | distanceCode
  | unknownLiteral
  | unknownDistance
  | tooFarBack
  | dataSum
  | dataLength
  deriving DecidableEq, Repr

def invalidData (reason : String) : Text :=
  "Error -3 while decompressing data: ".toList ++ reason.toList

def PackingFault.message : PackingFault → Text
  | .header => invalidData "incorrect header check"
  | .method => invalidData "unknown compression method"
  | .windowSize => invalidData "invalid window size"
  | .dictionary => "Error 2 while decompressing data".toList
  | .flags => invalidData "unknown header flags set"
  | .headerSum => invalidData "header crc mismatch"
  | .blockKind => invalidData "invalid block type"
  | .storedLength => invalidData "invalid stored block lengths"
  | .tooManySymbols => invalidData "too many length or distance symbols"
  | .lengthCode => invalidData "invalid code lengths set"
  | .repetition => invalidData "invalid bit length repeat"
  | .noEnd => invalidData "invalid code -- missing end-of-block"
  | .literalCode => invalidData "invalid literal/lengths set"
  | .distanceCode => invalidData "invalid distances set"
  | .unknownLiteral => invalidData "invalid literal/length code"
  | .unknownDistance => invalidData "invalid distance code"
  | .tooFarBack => invalidData "invalid distance too far back"
  | .dataSum => invalidData "incorrect data check"
  | .dataLength => invalidData "incorrect length check"

/-- Why unpacking stops before its end: the data break off, which spoils nothing, or there is a
fault in them. -/
inductive Halt where
  | short
  | fault (f : PackingFault)
  deriving DecidableEq, Repr

def orShort {α : Type} : Option α → Except Halt α
  | some a => .ok a
  | none => .error .short

def orFault {α : Type} (f : PackingFault) : Option α → Except Halt α
  | some a => .ok a
  | none => .error (.fault f)

def readSymbol (f : PackingFault) (c : HuffmanCode) (s : BitSource) : Except Halt (Nat × BitSource) :=
  match c.read s with
  | .ok r => .ok r
  | .error .short => .error .short
  | .error .unknown => .error (.fault f)

/-- The symbol behind the bytes, with which a block ends. -/
def endSymbol : Nat := 256

/-- The least length of a reference and the count of bits that are added to it, by symbol. -/
def lengthSteps : Array (Nat × Nat) :=
  #[(3, 0), (4, 0), (5, 0), (6, 0), (7, 0), (8, 0), (9, 0), (10, 0), (11, 1), (13, 1), (15, 1),
    (17, 1), (19, 2), (23, 2), (27, 2), (31, 2), (35, 3), (43, 3), (51, 3), (59, 3), (67, 4),
    (83, 4), (99, 4), (115, 4), (131, 5), (163, 5), (195, 5), (227, 5), (258, 0)]

/-- The least distance of a reference and the count of bits that are added to it, by symbol. -/
def distanceSteps : Array (Nat × Nat) :=
  #[(1, 0), (2, 0), (3, 0), (4, 0), (5, 1), (7, 1), (9, 2), (13, 2), (17, 3), (25, 3), (33, 4),
    (49, 4), (65, 5), (97, 5), (129, 6), (193, 6), (257, 7), (385, 7), (513, 8), (769, 8),
    (1025, 9), (1537, 9), (2049, 10), (3073, 10), (4097, 11), (6145, 11), (8193, 12),
    (12289, 12), (16385, 13), (24577, 13)]

def readStep (f : PackingFault) (steps : Array (Nat × Nat)) (symbol : Nat) (s : BitSource) :
    Except Halt (Nat × BitSource) :=
  match steps[symbol]? with
  | none => .error (.fault f)
  | some (least, extra) => orShort ((s.bits? extra).map fun r => (least + r.1, r.2))

/-- The length and the distance of a reference, the symbol of its length being read. -/
def readReference (distances : HuffmanCode) (symbol : Nat) (s : BitSource) :
    Except Halt ((Nat × Nat) × BitSource) := do
  let (length, s) ← readStep .unknownLiteral lengthSteps (symbol - endSymbol - 1) s
  let (symbol, s) ← readSymbol .unknownDistance distances s
  let (distance, s) ← readStep .unknownDistance distanceSteps symbol s
  return ((length, distance), s)

/-- Repeats bytes that lie a distance back; the repeated ones may be among them. -/
def copyBack (out : Array UInt8) (distance : Nat) : Nat → Array UInt8
  | 0 => out
  | n + 1 => copyBack (out.push (out.getD (out.size - distance) 0)) distance n

/-- What has been unpacked, and where the reader stands. -/
abbrev Unpacked := Array UInt8 × Except Halt BitSource

/-- A block of coded bytes and references, up to its end. It has no more symbols than bits. -/
def codedBlock (literals distances : HuffmanCode) :
    (bits : Nat) → BitSource → Array UInt8 → Unpacked
  | 0, _, out => (out, .error .short)
  | bits + 1, s, out =>
    match readSymbol .unknownLiteral literals s with
    | .error e => (out, .error e)
    | .ok (symbol, s) =>
      if symbol < endSymbol then
        codedBlock literals distances bits s (out.push (UInt8.ofNat symbol))
      else if symbol = endSymbol then (out, .ok s)
      else
        match readReference distances symbol s with
        | .error e => (out, .error e)
        | .ok ((length, distance), s) =>
          if out.size < distance then (out, .error (.fault .tooFarBack))
          else codedBlock literals distances bits s (copyBack out distance length)

/-- A block of bytes as they are, behind their count and its complement. -/
def storedBlock (s : BitSource) (out : Array UInt8) : Unpacked :=
  match s.rest with
  | a :: b :: c :: d :: rest =>
    let count := a.toNat + 256 * b.toNat
    if count + (c.toNat + 256 * d.toNat) ≠ 0xffff then (out, .error (.fault .storedLength))
    else
      (out.appendList (rest.take count),
        if rest.length < count then .error .short else .ok (.ofBytes (rest.drop count)))
  | _ => (out, .error .short)

/-- The lengths of so many codes, `found` being the ones before, the last one first. A symbol
stands for a length, or for the last length or zero several times. -/
def readLengths (code : HuffmanCode) (found : List Nat) (missing : Nat) (s : BitSource) :
    Except Halt (List Nat × BitSource) :=
  match missing with
  | 0 => .ok (found.reverse, s)
  | missing + 1 => do
    let (symbol, s) ← readSymbol .lengthCode code s
    if symbol < 16 then readLengths code (symbol :: found) missing s
    else
      let (more, s) ← orShort (s.bits? (if symbol = 16 then 2 else if symbol = 17 then 3 else 7))
      let more := more + if symbol = 18 then 10 else 2
      let length ← if symbol = 16 then orFault .repetition found.head? else pure 0
      if missing < more then .error (.fault .repetition)
      else readLengths code (List.replicate (more + 1) length ++ found) (missing - more) s
termination_by missing
decreasing_by
  · exact Nat.lt_succ_self missing
  · exact Nat.lt_succ_of_le (Nat.sub_le missing more)

/-- Numbers of three bits each. -/
def readTriples (s : BitSource) : Nat → Except Halt (List Nat × BitSource)
  | 0 => .ok ([], s)
  | n + 1 => do
    let (first, s) ← orShort (s.bits? 3)
    let (more, s) ← readTriples s n
    return (first :: more, s)

/-- The symbols of lengths in the order in which their own lengths are given. -/
def lengthOrder : List Nat := [16, 17, 18, 0, 8, 7, 9, 6, 10, 5, 11, 4, 12, 3, 13, 2, 14, 1, 15]

/-- The codes that a block brings along. -/
def readCodes (s : BitSource) : Except Halt ((HuffmanCode × HuffmanCode) × BitSource) := do
  let (literalCount, s) ← orShort (s.bits? 5)
  let (distanceCount, s) ← orShort (s.bits? 5)
  let (lengthCount, s) ← orShort (s.bits? 4)
  if 29 < literalCount || 29 < distanceCount then throw (.fault .tooManySymbols)
  let (triples, s) ← readTriples s (lengthCount + 4)
  let own := lengthOrder.zip triples
  let code ← orFault .lengthCode
    (HuffmanCode.lengthCode? ((List.range 19).map fun n => (own.lookup n).getD 0))
  let (lengths, s) ← readLengths code [] (literalCount + distanceCount + 258) s
  if lengths[endSymbol]? = some 0 then throw (.fault .noEnd)
  let literals ← orFault .literalCode (HuffmanCode.ofLengths? (lengths.take (literalCount + 257)))
  let distances ← orFault .distanceCode (HuffmanCode.ofLengths? (lengths.drop (literalCount + 257)))
  return ((literals, distances), s)

/-- The code of bytes and lengths that a block has when it brings none along. -/
def plainLiterals : HuffmanCode :=
  (HuffmanCode.ofLengths? (List.replicate 144 8 ++ List.replicate 112 9 ++
    List.replicate 24 7 ++ List.replicate 8 8)).getD []

def plainDistances : HuffmanCode := (HuffmanCode.ofLengths? (List.replicate 32 5)).getD []

/-- A block, by the number of its kind. -/
def block (kind : Nat) (s : BitSource) (out : Array UInt8) : Unpacked :=
  match kind with
  | 0 => storedBlock s out
  | 1 => codedBlock plainLiterals plainDistances s.size s out
  | 2 =>
    match readCodes s with
    | .ok ((literals, distances), s) => codedBlock literals distances s.size s out
    | .error e => (out, .error e)
  | _ => (out, .error (.fault .blockKind))

/-- Blocks up to the last one, of which there are no more than bits. -/
def blocks : (bits : Nat) → BitSource → Array UInt8 → Unpacked
  | 0, _, out => (out, .error .short)
  | bits + 1, s, out =>
    match s.bits? 3 with
    | none => (out, .error .short)
    | some (head, s) =>
      match block (head / 2) s out with
      | (out, .error e) => (out, .error e)
      | (out, .ok s) => if head % 2 = 1 then (out, .ok s) else blocks bits s out

/-- The bytes that are packed, or as many of them as there are, and the bytes behind the last
block, if it has been reached. -/
def inflate (bytes : Bytes) : Except PackingFault (Bytes × Option Bytes) :=
  let s := BitSource.ofBytes bytes
  match blocks s.size s #[] with
  | (out, .ok s) => .ok (out.toList, some s.rest)
  | (out, .error .short) => .ok (out.toList, none)
  | (_, .error (.fault f)) => .error f

end PageClip
