import PageClip.Address
import PageClip.Lowercase

/-! Splitting a URL into its parts and joining a reference to a base. -/

namespace PageClip

inductive UrlFault where
  | unbalancedBrackets
  | notAnAddress (host : Text)
  | dottedInBrackets
  | badFutureAddress
  | confusableHost (authority : Text)
  deriving DecidableEq, Repr

def UrlFault.message : UrlFault → Text
  | .unbalancedBrackets => "Invalid IPv6 URL".toList
  | .notAnAddress host =>
    quoted host ++ " does not appear to be an IPv4 or IPv6 address".toList
  | .dottedInBrackets => "An IPv4 address cannot be in brackets".toList
  | .badFutureAddress => "IPvFuture address is invalid".toList
  | .confusableHost authority =>
    "netloc '".toList ++ authority ++ "' contains invalid characters under NFKC normalization".toList

structure Url where
  scheme : Text
  authority : Text
  path : Text
  query : Text
  fragment : Text
  deriving DecidableEq, Repr

def isSchemeChar (c : Char) : Bool :=
  c.isAlphanum || c == '+' || c == '-' || c == '.'

/-- The scheme in lower case and the rest, when the text before the first colon is one. -/
def cutScheme? (t : Text) : Option (Text × Text) :=
  match cutAt ':' t with
  | (c :: scheme, some rest) =>
    if c.isAlpha && scheme.all isSchemeChar then some ((c :: scheme).map Char.toLower, rest)
    else none
  | _ => none

/-- Controls and spaces in front go, and tabs and line ends everywhere. -/
def cleanUrl (t : Text) : Text :=
  (t.dropWhile fun c => c.toNat ≤ 32).filter fun c => c != '\t' && c != '\r' && c != '\n'

def isAuthorityEnd (c : Char) : Bool := c == '/' || c == '?' || c == '#'

/-- The authority behind two slashes, and the rest. -/
def cutAuthority (t : Text) : Text × Text :=
  match t with
  | '/' :: '/' :: r => (r.takeWhile (!isAuthorityEnd ·), r.dropWhile (!isAuthorityEnd ·))
  | _ => ([], t)

/-- The version and the address of a future kind: hexadecimal digits, a point, and more. -/
def isFutureAddress (t : Text) : Bool :=
  match t with
  | 'v' :: r =>
    let version := r.takeWhile fun c => (hexValue? c).isSome
    match r.drop version.length with
    | '.' :: _ :: _ => !version.isEmpty
    | _ => false
  | _ => false

def checkBracketed (host : Text) : Except UrlFault Unit :=
  if host.head? == some 'v' then
    if isFutureAddress host then .ok () else .error .badFutureAddress
  else match Address.parse? host with
    | none => .error (.notAnAddress host)
    | some (.v4 _) => .error .dottedInBrackets
    | some (.v6 _) => .ok ()

/-- The text between the first opening bracket and the next closing one. -/
def bracketedPart (t : Text) : Text := ((cutAt '[' t).2.getD []).takeWhile (· != ']')

/-- Characters whose compatible form holds a delimiter of a URL. -/
def confusables : List Nat :=
  [0x2047, 0x2048, 0x2049, 0x2100, 0x2101, 0x2105, 0x2106, 0x2a74, 0xfe13, 0xfe16, 0xfe55,
   0xfe56, 0xfe5f, 0xfe6b, 0xff03, 0xff0f, 0xff1a, 0xff1f, 0xff20]

def checkAuthority (authority : Text) : Except UrlFault Unit := do
  if authority.contains '[' != authority.contains ']' then .error .unbalancedBrackets
  if authority.contains '[' then checkBracketed (bracketedPart authority)
  if authority.any fun c => confusables.contains c.toNat then .error (.confusableHost authority)

/-- Splits a URL; `scheme` stands in where it has none. -/
def Url.split (scheme t : Text) : Except UrlFault Url := do
  let t := cleanUrl t
  let (scheme, t) := (cutScheme? t).getD (scheme, t)
  let (authority, t) := cutAuthority t
  checkAuthority authority
  let (t, fragment) := cutAt '#' t
  let (path, query) := cutAt '?' t
  .ok ⟨scheme, authority, path, query.getD [], fragment.getD []⟩

/-- The host of an authority in lower case, without user, brackets and port. A zone keeps
its case. -/
def Url.host (u : Url) : Text :=
  let place := ((cutAtLast? '@' u.authority).map (·.2)).getD u.authority
  let host := match cutAt '[' place with
    | (_, some bracketed) => bracketed.takeWhile (· != ']')
    | (_, none) => place.takeWhile (· != ':')
  lower (host.takeWhile (· != '%')) ++ host.dropWhile (· != '%')

/-- Puts the parts of a URL with an authority together. -/
def Url.unsplit (u : Url) : Text :=
  let path := if u.path.isEmpty || u.path.head? == some '/' then u.path else '/' :: u.path
  u.scheme ++ [':', '/', '/'] ++ u.authority ++ path ++
    (if u.query.isEmpty then [] else '?' :: u.query) ++
    (if u.fragment.isEmpty then [] else '#' :: u.fragment)

/-- Cuts the parameters off the last segment of a path. -/
def cutParameters (path : Text) : Text × Text :=
  let (front, last) := match cutAtLast? '/' path with
    | some (front, last) => (front ++ ['/'], last)
    | none => ([], path)
  let (name, parameters) := cutAt ';' last
  (front ++ name, parameters.getD [])

def withParameters (path parameters : Text) : Text :=
  if parameters.isEmpty then path else path ++ [';'] ++ parameters

/-- Resolves the segments that name the same or the parent directory. -/
def resolveDots (segments : List Text) : List Text :=
  segments.foldl (fun done s =>
    if s == ['.', '.'] then done.dropLast else if s == ['.'] then done else done ++ [s]) []

/-- The path of a reference against the path of its base. -/
def joinPath (base path : Text) : Text :=
  let segments :=
    if path.head? == some '/' then splitAtChar '/' path
    else
      let front := splitAtChar '/' base
      let front := if front.getLast? == some [] then front else front.dropLast
      let all := front ++ splitAtChar '/' path
      all.take 1 ++ (all.tail.dropLast.filter (!·.isEmpty)) ++ all.tail.drop (all.length - 2)
  let last := segments.getLast?
  let resolved := resolveDots segments ++
    if last == some ['.'] || last == some ['.', '.'] then [[]] else []
  match joinWith ['/'] resolved with
  | [] => ['/']
  | c :: t => c :: t

def webSchemes : List Text := ["http".toList, "https".toList]

/-- The URL that a reference names on a page of the web. -/
def joinUrl (base reference : Text) : Except UrlFault Text := do
  if reference.isEmpty then return base
  let b ← Url.split [] base
  let r ← Url.split b.scheme reference
  if r.scheme != b.scheme || !webSchemes.contains r.scheme then return reference
  let (path, parameters) := cutParameters r.path
  if !r.authority.isEmpty then return Url.unsplit { r with path := withParameters path parameters }
  let (basePath, baseParameters) := cutParameters b.path
  if path.isEmpty && parameters.isEmpty then
    let query := if r.query.isEmpty then b.query else r.query
    let path := withParameters basePath baseParameters
    return Url.unsplit ⟨r.scheme, b.authority, path, query, r.fragment⟩
  let path := withParameters (joinPath basePath path) parameters
  return Url.unsplit ⟨r.scheme, b.authority, path, r.query, r.fragment⟩

end PageClip
