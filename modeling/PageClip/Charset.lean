import PageClip.CharsetTable
import PageClip.CodeTable

/-! Decoding of bytes. A charset is written out here, or left to the platform, or gives no text.
What it does not define becomes a replacement character. -/

namespace PageClip

abbrev Bytes := List UInt8

/-- What bytes stand for, one after the other: a character, or nothing. -/
abbrev Units := List (Option Char)

def replacement : Char := '\ufffd'

def replaced (units : Units) : Text := units.map (·.getD replacement)

/-- The text of bytes of which all stand for something. -/
def whole? (units : Units) : Option Text := units.mapM id

/-- A sequence that has been opened: how many bytes are owed, the range of the next one, and
the bits so far. Nothing is owed between characters. -/
structure OpenSequence where
  owed : Nat
  low : Nat
  high : Nat
  bits : Nat
  deriving DecidableEq, Repr

def OpenSequence.none : OpenSequence := ⟨0, 0, 0, 0⟩

/-- A byte between characters. -/
def leadByte (b : Nat) (out : Units) : OpenSequence × Units :=
  if b < 0x80 then (.none, some (Char.ofNat b) :: out)
  else if b < 0xc2 then (.none, none :: out)
  else if b < 0xe0 then (⟨1, 0x80, 0xbf, b - 0xc0⟩, out)
  else if b < 0xf0 then
    (⟨2, if b = 0xe0 then 0xa0 else 0x80, if b = 0xed then 0x9f else 0xbf, b - 0xe0⟩, out)
  else if b < 0xf5 then
    (⟨3, if b = 0xf0 then 0x90 else 0x80, if b = 0xf4 then 0x8f else 0xbf, b - 0xf0⟩, out)
  else (.none, none :: out)

/-- A sequence that a byte cannot continue stands for nothing as a whole, and the byte opens
anew. -/
def utf8Step (s : OpenSequence × Units) (byte : UInt8) : OpenSequence × Units :=
  let b := byte.toNat
  let (p, out) := s
  match p.owed with
  | 0 => leadByte b out
  | n + 1 =>
    if p.low ≤ b ∧ b ≤ p.high then
      let bits := p.bits * 64 + (b - 0x80)
      match n with
      | 0 => (.none, some (Char.ofNat bits) :: out)
      | m + 1 => (⟨m + 1, 0x80, 0xbf, bits⟩, out)
    else leadByte b (none :: out)

def utf8Units (bytes : Bytes) : Units :=
  let (p, out) := bytes.foldl utf8Step (.none, [])
  (if p.owed = 0 then out else none :: out).reverse

def decodeUtf8 (bytes : Bytes) : Text := replaced (utf8Units bytes)

/-- A first byte of a unit and a first half of a pair that wait for the rest. -/
structure OpenUnit where
  byte : Option Nat
  half : Option Nat
  deriving DecidableEq, Repr

def unitStep (half : Option Nat) (unit : Nat) (out : Units) : OpenUnit × Units :=
  let isLow := 0xdc00 ≤ unit && unit < 0xe000
  match half with
  | some h =>
    if isLow then
      (⟨none, none⟩, some (Char.ofNat (0x10000 + (h - 0xd800) * 0x400 + (unit - 0xdc00))) :: out)
    else if 0xd800 ≤ unit && unit < 0xdc00 then (⟨none, some unit⟩, none :: out)
    else (⟨none, none⟩, some (Char.ofNat unit) :: none :: out)
  | none =>
    if isLow then (⟨none, none⟩, none :: out)
    else if 0xd800 ≤ unit && unit < 0xdc00 then (⟨none, some unit⟩, out)
    else (⟨none, none⟩, some (Char.ofNat unit) :: out)

def utf16Step (bigEndian : Bool) (s : OpenUnit × Units) (byte : UInt8) : OpenUnit × Units :=
  let b := byte.toNat
  let (p, out) := s
  match p.byte with
  | none => (⟨some b, p.half⟩, out)
  | some a => unitStep p.half (if bigEndian then a * 256 + b else b * 256 + a) out

def utf16Units (bigEndian : Bool) (bytes : Bytes) : Units :=
  let (p, out) := bytes.foldl (utf16Step bigEndian) (⟨none, none⟩, [])
  (if p.byte.isNone && p.half.isNone then out else none :: out).reverse

def decodeUtf16 (bigEndian : Bool) (bytes : Bytes) : Text := replaced (utf16Units bigEndian bytes)

/-- Four bytes to a character. -/
def utf32Units (bigEndian : Bool) : Bytes → Units
  | [] => []
  | a :: b :: c :: d :: rest =>
    let bytes := if bigEndian then [a, b, c, d] else [d, c, b, a]
    let code := joinDigits 256 (bytes.map UInt8.toNat)
    (if code.isValidChar then some (Char.ofNat code) else none) :: utf32Units bigEndian rest
  | _ => [none]

/-- A byte order mark in front decides the order and is no text; without one the low byte
comes first. -/
def markedUtf16Units : Bytes → Units
  | 0xff :: 0xfe :: rest => utf16Units false rest
  | 0xfe :: 0xff :: rest => utf16Units true rest
  | bytes => utf16Units false bytes

def markedUtf32Units : Bytes → Units
  | 0xff :: 0xfe :: 0 :: 0 :: rest => utf32Units false rest
  | 0 :: 0 :: 0xfe :: 0xff :: rest => utf32Units true rest
  | bytes => utf32Units false bytes

def signedUtf8Units : Bytes → Units
  | 0xef :: 0xbb :: 0xbf :: rest => utf8Units rest
  | bytes => utf8Units bytes

/-- What an entry of a table says of the bytes that are next. -/
def byteEntry (entry : Text) : Units :=
  match entry with
  | '.' :: count => List.replicate (hexNumber count) none
  | _ =>
    let (first, last) := codeRun entry
    (List.range' first (last + 1 - first)).map fun code => some (Char.ofNat code)

def byteTable (rows : List String) : Array (Option Char) :=
  ((rowEntries rows).flatMap byteEntry).toArray

/-- One byte to a character. -/
def tableUnits (rows : List String) (bytes : Bytes) : Units :=
  let table := byteTable rows
  bytes.map fun byte => (table[byte.toNat]?).join

/-- How a charset is read. -/
inductive Charset where
  | written (units : Bytes → Units)
  | platform (name : String)
  | idna
  | undefined
  | notText

/-- The charsets that only turn bytes into bytes, or texts into texts. -/
def otherCodecs : List String :=
  ["base64_codec", "bz2_codec", "hex_codec", "quopri_codec", "rot_13", "uu_codec", "zlib_codec"]

def Charset.ofName (name : String) : Charset :=
  match name with
  | "utf_8" => .written utf8Units
  | "utf_8_sig" => .written signedUtf8Units
  | "utf_16" => .written markedUtf16Units
  | "utf_16_le" => .written (utf16Units false)
  | "utf_16_be" => .written (utf16Units true)
  | "utf_32" => .written markedUtf32Units
  | "utf_32_le" => .written (utf32Units false)
  | "utf_32_be" => .written (utf32Units true)
  | "idna" => .idna
  | "undefined" => .undefined
  | name =>
    if otherCodecs.contains name then .notText
    else match byteRows.lookup name with
      | some rows => .written (tableUnits rows)
      | none => .platform name

/-- Runs of other characters become one separator, none at the ends. -/
def charsetKey (name : Text) : Text :=
  let spaced := name.map fun c => if c.isAlphanum || c == '.' then c.toLower else ' '
  joinWith ['_'] ((splitAtChar ' ' spaced).filter (!·.isEmpty))

/-- The charset that goes by another name. -/
def charsetOfAlias? (key : Text) : Option String :=
  (charsetNames.find? fun e => (rowEntries e.2).contains key).map (·.1)

/-- The charset whose name, or other name, the key is. In the other names points may stand for
separators. -/
def charsetOfKey? (key : Text) : Option String :=
  charsetOfAlias? key <|>
    charsetOfAlias? (key.map fun c => if c == '.' then '_' else c) <|>
    (charsetNames.find? fun e => e.1.toList == key).map (·.1)

/-- The charset that a name stands for, if it is a known one. -/
def Charset.named? (name : Text) : Option Charset :=
  (charsetOfKey? (charsetKey name)).map .ofName

/-- A codec of the platform: the text of bytes in which nothing is wrong, and the text of any
bytes with replacements, or the complaint of a codec that cannot replace what is wrong. -/
structure TextCodec where
  strict : Bytes → Option Text
  replacing : Bytes → Except Text Text

/-- The codecs that are left to the platform, by the names of their charsets. -/
abbrev Codecs := String → TextCodec

/-- Why the charset of a page gives no text: the header that names it cannot be read, or the
charset cannot be looked up, is none of texts, or refuses to replace anything. -/
inductive CharsetFault where
  | mixedParts (numbered : Bool)
  | longNumber (digits : Nat)
  | zeroInName
  | notText (name : Text)
  | refused (complaint : Text)
  deriving DecidableEq, Repr

def longNumberMessage (digits : Nat) : Text :=
  "Exceeds the limit (4300 digits) for integer string conversion: value has ".toList ++
    decimal digits ++
    " digits; use sys.set_int_max_str_digits() to increase the limit".toList

def CharsetFault.message : CharsetFault → Text
  | .mixedParts true =>
    "'<' not supported between instances of 'NoneType' and 'int'".toList
  | .mixedParts false =>
    "'<' not supported between instances of 'int' and 'NoneType'".toList
  | .longNumber digits => longNumberMessage digits
  | .zeroInName => "embedded null character".toList
  | .notText name => '\x27' :: name.take 400 ++
    "' is not a text encoding; use codecs.decode() to handle arbitrary codecs".toList
  | .refused complaint => complaint

/-- Whether the fault is taken for one in a value, and not for one of the program. -/
def CharsetFault.isOfValue : CharsetFault → Bool
  | .longNumber _ | .zeroInName | .refused _ => true
  | .mixedParts _ | .notText _ => false

/-- The complaint of a charset that decodes nothing, under the name it was asked for by. -/
def refusal (name : Text) (reason : String) : CharsetFault :=
  .refused ("decoding with '".toList ++ name ++ "' codec failed (UnicodeError: ".toList ++
    reason.toList ++ [')'])

/-- The text of bytes, replacements for what they do not define. -/
def Charset.decode (codecs : Codecs) (name : Text) (bytes : Bytes) :
    Charset → Except CharsetFault Text
  | .written units => .ok (replaced (units bytes))
  | .platform codec => ((codecs codec).replacing bytes).mapError .refused
  | .idna => .error (refusal name "Unsupported error handling replace")
  | .undefined => .error (refusal name "undefined encoding")
  | .notText => .error (.notText name)

/-- The text of bytes that are all defined. -/
def Charset.decodeStrict? (codecs : Codecs) (bytes : Bytes) : Charset → Option Text
  | .written units => whole? (units bytes)
  | .platform codec => (codecs codec).strict bytes
  | .idna => (codecs "idna").strict bytes
  | .undefined | .notText => none

/-- The charset of a name, which is looked up only when it has no zero in it. -/
def lookupCharset (name : Text) : Except CharsetFault (Option Charset) :=
  if name.contains '\x00' then .error .zeroInName else .ok (Charset.named? name)

/-- The text of bytes under the name of a charset, which is UTF-8 where the name is not known.
No bytes are no text in any charset. -/
def decodeNamed (codecs : Codecs) (name : Text) (bytes : Bytes) : Except CharsetFault Text := do
  match ← lookupCharset name with
  | some charset => if bytes.isEmpty then .ok [] else charset.decode codecs name bytes
  | none => .ok (decodeUtf8 bytes)

end PageClip
