import PageClip.Direction
import PageClip.Joiner
import PageClip.LabelTable
import PageClip.Punycode

/-! The labels of host names as a registry admits them, and names of any script in ASCII. -/

namespace PageClip

/-- What keeps a text from being a label, or a name from being a host. -/
inductive LabelFault where
  | nameTooLong
  | empty
  | noContent
  | hyphenAtEnd
  | unreadable
  | notNormal
  | innerHyphens
  | outerHyphen
  | leadingMark
  | joiner (label : Codes) (position code : Nat)
  | context (label : Codes) (position code : Nat)
  | disallowed (label : Codes) (position code : Nat)
  | unknownDirection (label : Codes) (position : Nat)
  | direction (label : Codes) (fault : DirectionFault)
  deriving DecidableEq, Repr

/-- A code in quotes; half of a pair shows as an escape. -/
def quoteCode (quote : Char) (code : Nat) : Text :=
  if code.isValidChar then quoteChar quote (Char.ofNat code) else ['\\', 'u'] ++ hexDigits 4 code

def quotedCodes (codes : Codes) : Text :=
  let quote := if codes.contains 39 && !codes.contains 34 then '"' else '\x27'
  [quote] ++ codes.flatMap (quoteCode quote) ++ [quote]

/-- The name of a code: four hexadecimal digits, more where they are needed. -/
def codeName (code : Nat) : Text :=
  let width := if code < 0x10000 then 4 else if code < 0x100000 then 5 else 6
  "U+".toList ++ (hexDigits width code).map Char.toUpper

def DirectionFault.message (label : Codes) : DirectionFault → Text
  | .first =>
    "First codepoint in label ".toList ++ quotedCodes label ++
      " must be directionality L, R or AL".toList
  | .inRightToLeft position =>
    "Invalid direction for codepoint at position ".toList ++ decimal position ++
      " in a right-to-left label".toList
  | .mixedNumbers => "Can not mix numeral types in a right-to-left label".toList
  | .inLeftToRight position =>
    "Invalid direction for codepoint at position ".toList ++ decimal position ++
      " in a left-to-right label".toList
  | .last => "Label ends with illegal codepoint directionality".toList

def LabelFault.message : LabelFault → Text
  | .nameTooLong => "Domain too long".toList
  | .empty => "Empty Label".toList
  | .noContent => "Malformed A-label, no Punycode eligible content found".toList
  | .hyphenAtEnd => "A-label must not end with a hyphen".toList
  | .unreadable => "Invalid A-label".toList
  | .notNormal => "Label must be in Normalization Form C".toList
  | .innerHyphens => "Label has disallowed hyphens in 3rd and 4th position".toList
  | .outerHyphen => "Label must not start or end with a hyphen".toList
  | .leadingMark => "Label begins with an illegal combining character".toList
  | .joiner label position code =>
    "Unknown codepoint adjacent to joiner ".toList ++ codeName code ++ " at position ".toList ++
      decimal position ++ " in ".toList ++ quotedCodes label
  | .context label position code =>
    "Codepoint ".toList ++ codeName code ++ " not allowed at position ".toList ++
      decimal position ++ " in ".toList ++ quotedCodes label
  | .disallowed label position code =>
    "Codepoint ".toList ++ codeName code ++ " at position ".toList ++ decimal position ++
      " of ".toList ++ quotedCodes label ++ " not allowed".toList
  | .unknownDirection label position =>
    "Unknown directionality in label ".toList ++ quotedCodes label ++ " at position ".toList ++
      decimal position
  | .direction label fault => fault.message label

def labelCodeRuns : List (Nat × Nat) := codeRuns labelCodeRows

def youngRuns : List (Nat × Nat) := codeRuns youngCodeRows

def markRuns : List (Nat × Nat) := codeRuns markRows

def greekRuns : List (Nat × Nat) := codeRuns greekRows

def hebrewRuns : List (Nat × Nat) := codeRuns hebrewRows

def japaneseRuns : List (Nat × Nat) := codeRuns japaneseRows

def isMark (code : Nat) : Bool := hasCode markRuns code

def isArabicDigit (code : Nat) : Bool := 0x660 ≤ code && code ≤ 0x669

def isExtendedArabicDigit (code : Nat) : Bool := 0x6f0 ≤ code && code ≤ 0x6f9

/-- The signs that a label may hold in the right surroundings. -/
def isContextual (code : Nat) : Bool :=
  code == 0xb7 || code == 0x375 || code == 0x5f3 || code == 0x5f4 || code == 0x30fb ||
    isArabicDigit code || isExtendedArabicDigit code

/-- Whether a contextual sign stands where it may: a point between two l, a numeral sign in
front of Greek, a Hebrew sign behind Hebrew, a Japanese point in a Japanese label, and digits
of one Arabic kind. What is before it comes last character first. -/
def contextFits (label before : Codes) (code : Nat) (after : Codes) : Bool :=
  if code == 0xb7 then before.head? == some 0x6c && after.head? == some 0x6c
  else if code == 0x375 then after.head?.any (hasCode greekRuns)
  else if code == 0x30fb then label.any fun c => c != 0x30fb && hasCode japaneseRuns c
  else if isArabicDigit code then !label.any isExtendedArabicDigit
  else if isExtendedArabicDigit code then !label.any isArabicDigit
  else before.head?.any (hasCode hebrewRuns)

/-- The first code of a label that may not stand where it does. -/
def codeFault? (label before : Codes) : Codes → Option LabelFault
  | [] => none
  | c :: after =>
    let position := before.length + 1
    if hasCode labelCodeRuns c then codeFault? label (c :: before) after
    else if isJoiner c then
      if joinerFits before c after && !before.head?.any (hasCode youngRuns) then
        codeFault? label (c :: before) after
      else some (.joiner label position c)
    else if isContextual c then
      if contextFits label before c after then codeFault? label (c :: before) after
      else some (.context label position c)
    else some (.disallowed label position c)

/-- Directions matter in a label that has letters from right to left. -/
def labelDirectionFault? (label : Codes) : Option LabelFault :=
  if label.any (hasCode youngRuns) then
    some (.unknownDirection label (label.findIdx (hasCode youngRuns) + 1))
  else
    let directions := label.map directionOf
    if turnsLeft directions then (directionFault? directions).map (.direction label) else none

def labelFault? (label : Codes) : Option LabelFault :=
  if label.isEmpty then some .empty
  else if normalForm label != label then some .notNormal
  else if (label.drop 2).take 2 == [45, 45] then some .innerHyphens
  else if label.head? == some 45 || label.getLast? == some 45 then some .outerHyphen
  else if label.head?.any fun c => isMark c && !hasCode youngRuns c then some .leadingMark
  else (codeFault? label [] label).or (labelDirectionFault? label)

def checkLabel (label : Codes) : Except LabelFault Unit :=
  match labelFault? label with
  | some fault => .error fault
  | none => .ok ()

/-- Checks a label in ASCII, reading the text of another script that it stands for. -/
def checkPlainLabel (label : Text) : Except LabelFault Unit :=
  match afterPrefix? "xn--".toList (label.map Char.toLower) with
  | none => checkLabel (codesOf (label.map Char.toLower))
  | some [] => .error .noContent
  | some t =>
    if t.getLast? == some '-' then .error .hyphenAtEnd
    else match punycodeCodes? t with
      | none => .error .unreadable
      | some codes => checkLabel codes

def isPlain (t : Text) : Bool := t.all fun c => c.toNat < 128

/-- The points that separate labels in other scripts are points. -/
def plainPoint (c : Char) : Char :=
  if c == '\u3002' || c == '\uff0e' || c == '\uff61' then '.' else c

/-- The labels of a name; a point at its end adds none. -/
def hostLabels (name : Text) : List Text :=
  let labels := splitAtChar '.' (name.map plainPoint)
  if labels.getLast? == some [] then labels.dropLast else labels

/-- Checks a name in ASCII. -/
def checkHost (name : Text) : Except LabelFault Unit :=
  if 254 < name.length then .error .nameTooLong
  else (hostLabels name).forM checkPlainLabel

/-- A label in ASCII, when a registry admits it. -/
def registeredLabel? (label : Text) : Option Text :=
  let checked := if isPlain label then checkPlainLabel label else checkLabel (codesOf label)
  match checked with
  | .error _ => none
  | .ok () => if 63 < (asciiLabel label).length then none else some (asciiLabel label)

/-- A name of any script in ASCII, when a registry admits it. -/
def registeredHost? (name : Text) : Option Text := do
  let labels ← (hostLabels name).mapM registeredLabel?
  let end_ := if (name.map plainPoint).getLast? == some '.' then [[]] else []
  let host := joinWith ['.'] (labels ++ end_)
  if 253 + end_.length < host.length then none else some host

end PageClip
