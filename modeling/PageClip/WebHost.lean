import PageClip.HostLabel
import PageClip.HostMappingTable
import PageClip.PercentCoding

/-! Host names as a person may write them: mapped to the characters that are looked up, and
then read more freely than a registry does. -/

namespace PageClip

/-- Codes at one step from each other, with images at one step from each other. -/
structure MappedRun where
  first : Nat
  last : Nat
  step : Nat
  image : Nat
  imageStep : Nat

def mappedRun (entry : Text) : MappedRun :=
  let (codes, images) := cutAt '=' entry
  let (run, step) := cutAt '/' codes
  let (image, imageStep) := cutAt '/' (images.getD [])
  let (first, last) := codeRun run
  ⟨first, last, hexNumber (step.getD ['1']), hexNumber image, hexNumber (imageStep.getD ['1'])⟩

def mappedRuns : List MappedRun := (rowEntries mappedRunRows).map mappedRun

def mappedSequences : List (Nat × Codes) := (rowEntries mappedSequenceRows).map codeSequence

def ignoredRuns : List (Nat × Nat) := codeRuns ignoredRows

def disallowedRuns : List (Nat × Nat) := codeRuns disallowedRows

def MappedRun.imageOf? (r : MappedRun) (code : Nat) : Option Nat :=
  if r.first ≤ code ∧ code ≤ r.last ∧ (code - r.first) % r.step = 0 then
    some (r.image + (code - r.first) / r.step * r.imageStep)
  else none

/-- What a code is looked up as; nothing for a code that no host name holds. -/
def mappedCode? (code : Nat) : Option Codes :=
  match mappedRuns.findSome? (·.imageOf? code) with
  | some image => some [image]
  | none =>
    match sequenceOf? mappedSequences code with
    | some images => some images
    | none =>
      if hasCode ignoredRuns code then some []
      else if hasCode disallowedRuns code then none
      else some [code]

/-- Characters in ASCII that no host name holds. -/
def isHostForbidden (code : Nat) : Bool :=
  code ≤ 32 || code == 127 || (codesOf "#/:<>?@[\\]^|%".toList).contains code

/-- Whether all joiners of a label stand where they may. What is before comes last first. -/
def joinersFit (before : Codes) : Codes → Bool
  | [] => true
  | c :: after => (!isJoiner c || joinerFits before c after) && joinersFit (c :: before) after

def isWebLabel (label : Codes) : Bool :=
  !label.any isHostForbidden && !label.head?.any isMark && joinersFit [] label

/-- The characters of a label that stands for a text of another script. They are what they
would be mapped to. -/
def decodedLabel? (digits : Text) : Option Codes := do
  if digits.getLast? == some '-' || (digits.head? == some '-' && !digits.tail.contains '-') then none
  let codes ← punycodeCodes? digits
  let mapped ← codes.mapM mappedCode?
  if codes.isEmpty || codes.any (¬ ·.isValidChar) || normalForm mapped.flatten != codes then none
  else some codes

/-- The characters of a mapped label. -/
def webLabel? (label : Codes) : Option Codes := do
  let read ← match afterPrefix? "xn--".toList (label.map Char.ofNat) with
    | some digits => if isPlain digits then decodedLabel? digits else none
    | none => some label
  if isWebLabel read then some read else none

/-- Once one label turns to the left, all of them are checked. -/
def directionsFit (labels : List Codes) : Bool :=
  let directions := (labels.filter (!·.isEmpty)).map fun label => label.map directionOf
  !directions.any turnsLeft || directions.all fun d => (directionFault? d).isNone

/-- The name in ASCII that a host name on the web is looked up by. -/
def webHost? (host : Text) : Option Text := do
  let mapped ← (codesOf (decodeUtf8 (percentDecode host))).mapM mappedCode?
  let name := (normalForm mapped.flatten).map Char.ofNat
  let labels ← (splitAtChar '.' name).mapM fun label => webLabel? (codesOf label)
  if name.isEmpty || !directionsFit labels then none
  else some (joinWith ['.'] (labels.map fun label => asciiLabel (label.map Char.ofNat)))

end PageClip
