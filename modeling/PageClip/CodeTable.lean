import PageClip.JsonText

/-! Tables of character codes, written in hexadecimal rows. -/

namespace PageClip

/-- The codes of a text, or of what is not quite one. -/
abbrev Codes := List Nat

def codesOf (t : Text) : Codes := t.map Char.toNat

def hexNumber (t : Text) : Nat := t.foldl (fun n c => n * 16 + (hexValue? c).getD 0) 0

def rowEntries (rows : List String) : List Text :=
  rows.flatMap fun row => splitAtChar ' ' row.toList

/-- A run as it is written: its first and its last code, or its only one. -/
def codeRun (entry : Text) : Nat × Nat :=
  let (first, last) := cutAt '-' entry
  (hexNumber first, hexNumber (last.getD first))

def codeRuns (rows : List String) : List (Nat × Nat) := (rowEntries rows).map codeRun

def hasCode (runs : List (Nat × Nat)) (code : Nat) : Bool :=
  runs.any fun r => r.1 ≤ code && code ≤ r.2

/-- A code and the sequence behind its equals sign. -/
def codeSequence (entry : Text) : Nat × Codes :=
  let (code, sequence) := cutAt '=' entry
  (hexNumber code, (splitAtChar ',' (sequence.getD [])).map hexNumber)

def sequenceOf? (sequences : List (Nat × Codes)) (code : Nat) : Option Codes :=
  (sequences.find? fun e => e.1 == code).map (·.2)

end PageClip
