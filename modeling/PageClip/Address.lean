import PageClip.JsonText

/-! Internet addresses in text form, and which of them are not public. -/

namespace PageClip

inductive Address where
  | v4 (n : Nat)
  | v6 (n : Nat)
  deriving DecidableEq, Repr

/-- A decimal number below 256 without a leading zero. -/
def octet? (t : Text) : Option Nat :=
  if t.isEmpty || !t.all Char.isDigit || 3 < t.length || (t.head? == some '0' && t != ['0']) then none
  else if digitsValue t ≤ 255 then some (digitsValue t) else none

def v4Value? (t : Text) : Option Nat := do
  let parts := splitAtChar '.' t
  let octets ← parts.mapM octet?
  if octets.length = 4 then some (joinDigits 256 octets) else none

/-- One to four hexadecimal digits. -/
def hextet? (t : Text) : Option Nat :=
  if t.isEmpty || 4 < t.length then none
  else (t.mapM hexValue?).map (joinDigits 16)

/-- The groups of a text form, a dotted address at the end standing for two of them. -/
def v6Groups? (t : Text) : Option (List Text) :=
  let parts := splitAtChar ':' t
  if parts.length < 3 then none
  else
    let last := parts.getLast?.getD []
    if last.contains '.' then
      (v4Value? last).map fun n =>
        parts.dropLast ++ [hexDigits 4 (n / 65536), hexDigits 4 (n % 65536)]
    else some parts

/-- The groups on one side of the gap; a side that is empty is written as one empty group. -/
def sideGroups? (parts : List Text) : Option (List Nat) :=
  if parts == [[]] then some [] else parts.mapM hextet?

/-- Eight groups, or fewer with one gap between two of them or at an end. -/
def v6Value? (t : Text) : Option Nat := do
  let parts ← v6Groups? t
  let inner := parts.tail.dropLast
  match inner.count [] with
  | 0 =>
    let groups ← parts.mapM hextet?
    if groups.length = 8 then some (joinDigits 65536 groups) else none
  | 1 =>
    let gap := inner.idxOf [] + 1
    let high ← sideGroups? (parts.take gap)
    let low ← sideGroups? (parts.drop (gap + 1))
    let present := high.length + low.length
    if 7 < present then none
    else some (joinDigits 65536 (high ++ List.replicate (8 - present) 0 ++ low))
  | _ => none

/-- A zone may follow an address of the second kind. -/
def Address.parse? (t : Text) : Option Address :=
  match v4Value? t with
  | some n => some (.v4 n)
  | none =>
    match cutAt '%' t with
    | (t, none) => (v6Value? t).map .v6
    | (t, some zone) => if zone.isEmpty || zone.contains '%' then none else (v6Value? t).map .v6

/-- The addresses that share all but the last `free` bits with a base. -/
structure Network where
  base : Nat
  free : Nat
  deriving DecidableEq, Repr

def Network.contains (net : Network) (n : Nat) : Bool := n >>> net.free == net.base >>> net.free

/-- A network by the bytes of its base and the length of the shared part. -/
def net4 (a b c d bits : Nat) : Network := ⟨joinDigits 256 [a, b, c, d], 32 - bits⟩

/-- A network by the leading groups of its base and the length of the shared part. -/
def net6 (groups : List Nat) (bits : Nat) : Network :=
  ⟨joinDigits 65536 (groups ++ List.replicate (8 - groups.length) 0), 128 - bits⟩

def internal4 : List Network :=
  [net4 0 0 0 0 8, net4 10 0 0 0 8, net4 127 0 0 0 8, net4 169 254 0 0 16, net4 172 16 0 0 12,
   net4 192 0 0 0 24, net4 192 0 2 0 24, net4 192 168 0 0 16, net4 198 18 0 0 15,
   net4 198 51 100 0 24, net4 203 0 113 0 24, net4 240 0 0 0 4]

def public4 : List Network := [net4 192 0 0 9 32, net4 192 0 0 10 32]

/-- Reserved and link-local networks, whatever lies inside them. -/
def reserved6 : List Network :=
  [net6 [] 8, net6 [0x100] 8, net6 [0x200] 7, net6 [0x400] 6, net6 [0x800] 5, net6 [0x1000] 4,
   net6 [0x4000] 3, net6 [0x6000] 3, net6 [0x8000] 3, net6 [0xa000] 3, net6 [0xc000] 3,
   net6 [0xe000] 4, net6 [0xf000] 5, net6 [0xf800] 6, net6 [0xfe00] 9, net6 [0xfe80] 10]

def private6 : List Network :=
  [net6 [0xfc00] 7, net6 [0x2001, 0xdb8] 32, net6 [0x2002] 16, net6 [0x2001] 23]

def public6 : List Network :=
  [net6 [0x2001, 1, 0, 0, 0, 0, 0, 1] 128, net6 [0x2001, 1, 0, 0, 0, 0, 0, 2] 128,
   net6 [0x2001, 3] 32, net6 [0x2001, 4, 0x112] 48, net6 [0x2001, 0x20] 28,
   net6 [0x2001, 0x30] 28]

def holds (nets : List Network) (n : Nat) : Bool := nets.any fun net => net.contains n

/-- Private, loopback, link-local or reserved. -/
def Address.isInternal : Address → Bool
  | .v4 n => holds internal4 n && !holds public4 n
  | .v6 n => holds reserved6 n || (holds private6 n && !holds public6 n)

/-- Whether the text without its zone is an internal address. -/
def isInternalText (t : Text) : Bool :=
  (Address.parse? (t.takeWhile (· != '%'))).any Address.isInternal

end PageClip
