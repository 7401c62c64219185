import PageClip.Charset

/-! Bytes that are read bit by bit, the lowest bit of a byte first, and Huffman codes over them. The
codes are in canonical form: the lengths of the codes of all symbols decide the codes. -/

namespace PageClip

/-- The bits of a byte that are left, as a number, and the bytes behind it. -/
structure BitSource where
  held : Nat
  count : Nat
  rest : Bytes

namespace BitSource

def ofBytes (bytes : Bytes) : BitSource := ⟨0, 0, bytes⟩

/-- How many bits are left. -/
def size (s : BitSource) : Nat := s.count + 8 * s.rest.length

def bit? (s : BitSource) : Option (Nat × BitSource) :=
  match s.count, s.rest with
  | n + 1, rest => some (s.held % 2, ⟨s.held / 2, n, rest⟩)
  | 0, b :: rest => some (b.toNat % 2, ⟨b.toNat / 2, 7, rest⟩)
  | 0, [] => none

/-- A number of so many bits, the lowest first. -/
def bits? (s : BitSource) : Nat → Option (Nat × BitSource)
  | 0 => some (0, s)
  | n + 1 => do
    let (low, s) ← s.bit?
    let (high, s) ← s.bits? n
    return (low + 2 * high, s)

end BitSource

/-- The symbols with codes of one bit, of two bits and so on, in the order of their codes. -/
abbrev HuffmanCode := List (Array Nat)

namespace HuffmanCode

/-- Why no symbol was read: the bits run out, or they are no code. -/
inductive Miss where
  | short
  | unknown
  deriving DecidableEq, Repr

/-- The symbol at the head of a source, `code` and `first` being the bits so far and the first
code of as many bits that is no shorter code continued, each doubled. -/
def readFrom (code first : Nat) : HuffmanCode → BitSource → Except Miss (Nat × BitSource)
  | [], _ => .error .unknown
  | symbols :: longer, s =>
    match s.bit? with
    | none => .error .short
    | some (bit, s) =>
      match symbols[code + bit - first]? with
      | some symbol => .ok (symbol, s)
      | none => readFrom (2 * (code + bit)) (2 * (first + symbols.size)) longer s

def read (c : HuffmanCode) (s : BitSource) : Except Miss (Nat × BitSource) := readFrom 0 0 c s

/-- How many codes are left over behind codes of which `free` were; none when there are more
symbols than codes. -/
def spare? (free : Nat) : HuffmanCode → Option Nat
  | [] => some free
  | symbols :: longer =>
    if 2 * free < symbols.size then none else spare? (2 * free - symbols.size) longer

/-- The symbols with codes of so many bits. -/
def symbolsOf (lengths : List Nat) (bits : Nat) : Array Nat :=
  ((lengths.zipIdx.filter fun e => e.1 == bits).map (·.2)).toArray

def layers (lengths : List Nat) : HuffmanCode :=
  (List.range (lengths.foldl max 0)).map fun n => symbolsOf lengths (n + 1)

/-- The code of data, by the lengths of its codes. It uses up all codes, but for the code of a
single symbol or none. -/
def ofLengths? (lengths : List Nat) : Option HuffmanCode :=
  match layers lengths with
  | [] => some [#[]]
  | code => (spare? 1 code).bind fun spare =>
      if spare = 0 || code.length = 1 then some code else none

/-- The code of lengths themselves. It uses up all codes, but where there are none every bit
stands for zero. -/
def lengthCode? (lengths : List Nat) : Option HuffmanCode :=
  match layers lengths with
  | [] => some [#[0, 0]]
  | code => (spare? 1 code).bind fun spare => if spare = 0 then some code else none

end HuffmanCode

end PageClip
