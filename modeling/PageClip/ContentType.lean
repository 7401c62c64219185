import PageClip.Charset
import PageClip.Lowercase

/-! Content types: the media type and the charset that a header names. -/

namespace PageClip

def mediaType (header : Text) : Text := lower (trim (header.takeWhile (· != ';')))

def htmlTypes : List Text := ["text/html".toList, "application/xhtml+xml".toList]

/-- An empty header is taken for HTML, which servers often leave unnamed. -/
def namesHtml (header : Text) : Bool := header.isEmpty || htmlTypes.contains (mediaType header)

/-- The parts of a header between semicolons that stand outside double quotes. -/
def headerParts : (open_ behindBackslash : Bool) → Text → List Text
  | _, _, [] => [[]]
  | open_, behindBackslash, c :: t =>
    if c == ';' && !open_ then [] :: headerParts false false t
    else consHead c
      (headerParts (if c == '"' && !behindBackslash then !open_ else open_) (c == '\\') t)

/-- Resolves escaped backslashes, and then escaped quotes. -/
def unescapeHeader (t : Text) : Text :=
  let rec pairs (c : Char) : Text → Text
    | '\\' :: d :: t => if d = c then c :: pairs c t else '\\' :: pairs c (d :: t)
    | d :: t => d :: pairs c t
    | [] => []
  pairs '"' (pairs '\\' t)

/-- The value without its quotes or angle brackets. -/
def unquoteHeader (t : Text) : Text :=
  match between? '"' t with
  | some inner => unescapeHeader inner
  | none =>
    match t with
    | '<' :: r => if r.getLast? = some '>' then r.dropLast else t
    | _ => t
where
  between? (q : Char) : Text → Option Text
    | [] => none
    | c :: t => if c = q ∧ t.getLast? = some q then some t.dropLast else none

/-- The parameters of a header. A name that has a value is in lower case, and a name alone has an
empty value. -/
def headerParameters (header : Text) : List (Text × Text) :=
  (headerParts false false header).map fun part =>
    match cutAt '=' part with
    | (name, some value) => (lower (trim name), unquoteHeader (trim value))
    | (name, none) => (trim name, [])

/-- A part of a value that is spread over several parameters of one name. A coded part has
escapes. -/
structure ValuePart where
  name : Text
  number : Option Text
  value : Text
  coded : Bool

/-- A parameter that is a part of a value: behind the name there is a star for a value in one part,
or a star and the number of a part, with a star again when it is coded. -/
def valuePart? (parameter : Text × Text) : Option ValuePart :=
  match cutAt '*' parameter.1 with
  | (c :: name, some suffix) =>
    if (c :: name).all fun c => c.isAlphanum || c == '_' then
      match suffix.takeWhile Char.isDigit, suffix.dropWhile Char.isDigit with
      | [], [] => some ⟨c :: name, none, parameter.2, true⟩
      | d :: digits, [] => some ⟨c :: name, some (d :: digits), parameter.2, false⟩
      | d :: digits, ['*'] => some ⟨c :: name, some (d :: digits), parameter.2, true⟩
      | _, _ => none
    else none
  | _ => none

/-- By number, then by value, and a coded part behind one that is not. -/
def ValuePart.le (p q : ValuePart) : Bool :=
  let m := digitsValue (p.number.getD [])
  let n := digitsValue (q.number.getD [])
  m < n || (m == n && (decide (String.ofList p.value < String.ofList q.value) ||
    (p.value == q.value && (!p.coded || q.coded))))

/-- Parts that can be put in order: no number is too long, and of one value either all parts or
none have numbers. -/
def checkParts (parts : List ValuePart) : Except CharsetFault Unit := do
  if let some digits := (parts.filterMap ValuePart.number).find? (maxDigits < ·.length) then
    throw (.longNumber digits.length)
  if let some p := parts.find? fun p =>
      parts.any fun q => q.name == p.name && q.number.isSome != p.number.isSome then
    throw (.mixedParts p.number.isSome)

/-- A text whose escapes are resolved, each of them to one of the first 256 characters. -/
def unescapeLatin1 : Text → Text
  | [] => []
  | '%' :: a :: b :: t =>
    match hexValue? a, hexValue? b with
    | some x, some y => Char.ofNat (x * 16 + y) :: unescapeLatin1 t
    | _, _ => '%' :: unescapeLatin1 (a :: b :: t)
  | c :: t => c :: unescapeLatin1 t

/-- Parts of a value put together. -/
def joinParts (parts : List ValuePart) : Text :=
  (parts.mergeSort ValuePart.le).flatMap fun p =>
    if p.coded then unescapeLatin1 p.value else p.value

/-- The charset and the text of a coded value, which single quotes set off. -/
def cutCodedValue (value : Text) : Text × Text :=
  match cutAt '\x27' value with
  | (charset, some rest) =>
    match cutAt '\x27' rest with
    | (_, some text) => (charset, text)
    | _ => ([], value)
  | _ => ([], value)

/-- The bytes of a text, escapes for what takes more than one. -/
def rawBytes (t : Text) : Bytes :=
  t.flatMap fun c =>
    let escape := if c.toNat < 0x100 then [c]
      else if c.toNat < 0x10000 then '\\' :: 'u' :: hexDigits 4 c.toNat
      else '\\' :: 'U' :: hexDigits 8 c.toNat
    escape.map fun c => UInt8.ofNat c.toNat

/-- The text of a coded value. Where its charset cannot read it, it stays as it is. -/
def codedText (codecs : Codecs) (value : Text) : Except CharsetFault Text := do
  let (charset, text) := cutCodedValue value
  let charset? ← lookupCharset (if charset.isEmpty then "us-ascii".toList else charset)
  return (charset?.bind (·.decodeStrict? codecs (rawBytes text))).getD text

/-- The value that a name has in a header: a parameter that is given whole, or else the first value
that is given in parts. The parts behind the first part of the header are all looked at. -/
def headerParameter (codecs : Codecs) (name : String) (header : Text) :
    Except CharsetFault (Option Text) := do
  let parameters := headerParameters header
  let parts := parameters.tail.filterMap valuePart?
  checkParts parts
  match parameters.find? fun e => lower e.1 == name.toList with
  | some (_, value) => return some value
  | none =>
    match parts.find? fun p => lower p.name == name.toList with
    | none => return none
    | some first =>
      let parts := parts.filter (·.name == first.name)
      if parts.any (·.coded) then return some (← codedText codecs (joinParts parts))
      else return some (joinParts parts)

/-- The charset parameter in lower case, if it is one that is written in ASCII. -/
def charsetParameter (codecs : Codecs) (header : Text) : Except CharsetFault (Option Text) := do
  let charset? ← headerParameter codecs "charset" header
  return (charset?.filter (·.all fun c => c.toNat < 128)).map lower

end PageClip
