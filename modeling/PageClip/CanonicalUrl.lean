import PageClip.Checked
import PageClip.RequestUrl
import PageClip.WebHost

/-! The canonical text of a web address as a person may write it: host in lower case, no
default port, no dot segments, and escapes for all that a part cannot hold. -/

namespace PageClip

def maxUrlSize : Nat := 2083

/-- Controls and spaces at the ends go, and tabs and line ends everywhere. -/
def trimUrl (t : Text) : Text :=
  let outer (c : Char) := decide (c.toNat ≤ 32)
  let inner := ((t.dropWhile outer).reverse.dropWhile outer).reverse
  inner.filter fun c => c != '\t' && c != '\r' && c != '\n'

def isSlash (c : Char) : Bool := c == '/' || c == '\\'

def isUserInfoSafe : Char → Bool := printableExcept " \"#<>?`\x7b\x7d/:;=@[\\]^|"

def isWebQuerySafe : Char → Bool := printableExcept " \"#<>'"

/-- A host and the port behind its colon, if there is one; brackets protect colons. -/
def cutPort (inBrackets : Bool) : Text → Text × Option Text
  | [] => ([], none)
  | c :: t =>
    if c == ':' && !inBrackets then ([], some t)
    else
      let (host, port) := cutPort (c == '[' || (inBrackets && c != ']')) t
      (c :: host, port)

def portNumber? (port : Text) : Option Nat :=
  if port.all Char.isDigit && digitsValue port ≤ 65535 then some (digitsValue port) else none

/-- The text of a port that is not the default one; nothing when the port is unreadable. -/
def portText? (scheme : Text) : Option Text → Option Text
  | none => some []
  | some [] => some []
  | some port => (portNumber? port).map fun (n : Nat) =>
      if defaultPort? scheme == some (n : Int) then [] else ':' :: decimal n

/-- A user and a password, either of which may be left out. -/
def userInfoText (info : Text) : Text :=
  let (user, password) := cutAt ':' info
  let password := match password with
    | some (c :: t) => ':' :: percentEncode isUserInfoSafe (c :: t)
    | _ => []
  match percentEncode isUserInfoSafe user ++ password with
  | [] => []
  | text => text ++ ['@']

def numberIn? (base : Nat) (digits : Text) : Option Nat :=
  (digits.mapM hexValue?).bind fun ds =>
    if ds.all (· < base) then some (joinDigits base ds) else none

/-- A number as the parts of an address are written: in base sixteen, eight or ten. -/
def addressNumber? : Text → Option Nat
  | [] => none
  | '0' :: 'x' :: digits => numberIn? 16 digits
  | '0' :: 'X' :: digits => numberIn? 16 digits
  | '0' :: d :: digits => numberIn? 8 (d :: digits)
  | digits => numberIn? 10 digits

/-- The parts of a host name; a point at its end adds none. -/
def hostParts (host : Text) : List Text :=
  let parts := splitAtChar '.' host
  if parts.getLast? == some [] then parts.dropLast else parts

def endsInNumber (host : Text) : Bool :=
  match (hostParts host).getLast? with
  | some last => (!last.isEmpty && last.all Char.isDigit) || (addressNumber? last).isSome
  | none => false

/-- An address of one to four numbers, the last of which fills the bytes that are left. -/
def looseV4? (host : Text) : Option Nat := do
  let numbers ← (hostParts host).mapM addressNumber?
  let last ← numbers.getLast?
  let front := numbers.dropLast
  if 3 < front.length || front.any (255 < ·) || Nat.pow 256 (4 - front.length) ≤ last then none
  else some (joinDigits 256 front * Nat.pow 256 (4 - front.length) + last)

def v4Text (n : Nat) : Text :=
  joinWith ['.'] ([n / 16777216, n / 65536 % 256, n / 256 % 256, n % 256].map decimal)

/-- A number in hexadecimal digits without leading zeros. -/
def hextetText (n : Nat) : Text :=
  match (hexDigits 4 n).dropWhile (· == '0') with
  | [] => ['0']
  | digits => digits

def v6Groups (n : Nat) : List Nat := [7, 6, 5, 4, 3, 2, 1, 0].map fun i => n / Nat.pow 65536 i % 65536

/-- The start and the length of the longest run of zeros, the first of several. -/
def longestZeros (groups : List Nat) : Nat × Nat :=
  (List.range groups.length).foldl (fun best i =>
    let run := ((groups.drop i).takeWhile (· == 0)).length
    if best.2 < run then (i, run) else best) (0, 0)

def v6Text (n : Nat) : Text :=
  let groups := v6Groups n
  let side gs := joinWith [':'] (gs.map hextetText)
  let (start, run) := longestZeros groups
  if run < 2 then side groups
  else side (groups.take start) ++ [':', ':'] ++ side (groups.drop (start + run))

def bracketedText? (inner : Text) : Option Text :=
  match inner.getLast? with
  | some ']' => (v6Value? inner.dropLast).map fun n => ['['] ++ v6Text n ++ [']']
  | _ => none

def hostText? : Text → Option Text
  | '[' :: inner => bracketedText? inner
  | host => (webHost? host).bind fun name =>
      if endsInNumber name then (looseV4? name).map v4Text else some name

def isDotSegment (segment : Text) : Bool :=
  ["." , "%2e"].any fun s => segment.map Char.toLower == s.toList

def isParentSegment (segment : Text) : Bool :=
  ["..", ".%2e", "%2e.", "%2e%2e"].any fun s => segment.map Char.toLower == s.toList

/-- A letter and a colon or a bar, as drives are named. -/
def isDrive : Text → Bool
  | [letter, mark] => letter.isAlpha && (mark == ':' || mark == '|')
  | _ => false

/-- The directory above; a drive has none. -/
def parentOf (done : List Text) : List Text := if done.getLast?.any isDrive then done else done.dropLast

/-- Resolves the segments that name the same or the parent directory. One at the end leaves
a directory behind. -/
def resolveSegments (done : List Text) : List Text → List Text
  | [] => done
  | s :: rest =>
    let done :=
      if isParentSegment s then parentOf done ++ if rest.isEmpty then [[]] else []
      else if isDotSegment s then done ++ if rest.isEmpty then [[]] else []
      else done ++ [percentEncode isPathSafe s]
    resolveSegments done rest

def pathText (path : Text) : Text :=
  let path := path.map fun c => if c == '\\' then '/' else c
  let segments := match path with
    | '/' :: t => splitAtChar '/' t
    | t => splitAtChar '/' t
  '/' :: joinWith ['/'] (resolveSegments [] segments)

/-- The canonical text of what follows the scheme of a web address. -/
def webUrl? (scheme t : Text) : Option Text := do
  let t := t.dropWhile isSlash
  let ends c := isSlash c || c == '?' || c == '#'
  let authority := t.takeWhile (!ends ·)
  let (user, place) := (cutAtLast? '@' authority).getD ([], authority)
  let (host, port) := cutPort false place
  let host ← hostText? host
  let port ← portText? scheme port
  let (t, fragment) := cutAt '#' (t.dropWhile (!ends ·))
  let (path, query) := cutAt '?' t
  some (scheme ++ "://".toList ++ userInfoText user ++ host ++ port ++ pathText path ++
    (query.map fun q => '?' :: percentEncode isWebQuerySafe q).getD [] ++
    (fragment.map fun f => '#' :: percentEncode isFragmentSafe f).getD [])

/-- Whether the host of a scheme of another kind can be read. -/
def isPlainHost : Text → Bool
  | '[' :: inner => (bracketedText? inner).isSome
  | host => host.all fun c => c != '\x00' && !" #/:<>?@[\\]^|".toList.contains c

/-- Whether what follows the slashes of a scheme of another kind can be read. A host may be
left out along with its user and its port, but a sign of a user needs the end behind it. -/
def isPlainAddress (t : Text) : Bool :=
  let authority := t.takeWhile (!isAuthorityEnd ·)
  let (user, place) := match cutAtLast? '@' authority with
    | some (user, place) => (some user, place)
    | none => (none, authority)
  let (host, port) := cutPort false place
  let placed := !host.isEmpty || (port.isNone && (userInfoText (user.getD [])).isEmpty &&
    !(user == some [] && authority.length < t.length))
  placed && isPlainHost host && (portText? [] (port.map (·.takeWhile (· != '\\')))).isSome

/-- Whether what follows the scheme of a file can be read: a drive, or a host like any other. -/
def isFileAddress (t : Text) : Bool :=
  match t with
  | a :: b :: t =>
    if !isSlash a || !isSlash b then true
    else match t.takeWhile fun c => !isSlash c && c != '?' && c != '#' with
      | [] => true
      | host => isDrive host || (hostText? host).isSome
  | _ => true

/-- Whether an address of another scheme can be read. -/
def isReadableUrl (scheme t : Text) : Bool :=
  if scheme == "file".toList then isFileAddress t
  else if ["ftp", "ws", "wss"].any fun s => scheme == s.toList then (webUrl? scheme t).isSome
  else match t with
    | '/' :: '/' :: t => isPlainAddress t
    | _ => true

/-- The canonical text of a web address, or what is wrong with it. -/
def canonicalUrl (t : Text) : Except IssueKind Text :=
  if maxUrlSize < utf8Size t then .error .oversizedUrl
  else match cutScheme? (trimUrl t) with
    | none => .error .unreadableUrl
    | some (scheme, rest) =>
      if webSchemes.contains scheme then
        match webUrl? scheme rest with
        | some url => .ok url
        | none => .error .unreadableUrl
      else if isReadableUrl scheme rest then .error .unsupportedScheme
      else .error .unreadableUrl

/-- A web address in its canonical text. -/
def readUrl : Value → Checked Text
  | .text t =>
    match canonicalUrl t with
    | .ok url => .ok url
    | .error kind => .fail kind
  | _ => .fail .notUrl

end PageClip
