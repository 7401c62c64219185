import PageClip.DecimalDigit
import PageClip.HostLabel
import PageClip.PercentCoding
import PageClip.Url

/-! The form in which a URL is requested: scheme and host in lower case, no default port,
and all of it in ASCII. -/

namespace PageClip

inductive RequestFault where
  | tooLong
  | control (c : Char) (index : Nat)
  | badPort (port : Text)
  | badDotted (host : Text)
  | badBracketed (host : Text)
  | badName (host : Text)
  | noLeadingSlash
  | doubleSlash
  | leadingColon
  deriving DecidableEq, Repr

def RequestFault.message : RequestFault → Text
  | .tooLong => "URL too long".toList
  | .control c index =>
    "Invalid non-printable ASCII character in URL, ".toList ++ quoted [c] ++
      " at position ".toList ++ decimal index ++ ['.']
  | .badPort p => "Invalid port: ".toList ++ quoted p
  | .badDotted h => "Invalid IPv4 address: ".toList ++ quoted h
  | .badBracketed h => "Invalid IPv6 address: ".toList ++ quoted h
  | .badName h => "Invalid IDNA hostname: ".toList ++ quoted h
  | .noLeadingSlash => "For absolute URLs, path must be empty or begin with '/'".toList
  | .doubleSlash => "Relative URLs cannot have a path starting with '//'".toList
  | .leadingColon => "Relative URLs cannot have a path starting with ':'".toList

structure RequestUrl where
  scheme : Text
  user : Text
  host : Text
  port : Option Int
  path : Text
  query : Option Text
  fragment : Option Text
  deriving DecidableEq, Repr

/-- Four runs of digits with points between them. -/
def isDottedStyle (host : Text) : Bool :=
  let parts := splitAtChar '.' host
  parts.length == 4 && parts.all fun p => !p.isEmpty && p.all Char.isDigit

/-- Letters, digits and marks that a host name in ASCII may hold. -/
def isHostSafe (c : Char) : Bool :=
  c.isAlphanum || "-._~!$&'()*+,;=\"`\x7b\x7d%|\\".toList.contains c

/-- A name in ASCII is taken as it is; one of another script has to be registered. -/
def namedHost (host : Text) : Except RequestFault Text :=
  if isPlain host then .ok (percentEncode isHostSafe (lower host))
  else match registeredHost? (lower host) with
    | some name => .ok name
    | none => .error (.badName host)

def requestHost (host : Text) : Except RequestFault Text :=
  if isDottedStyle host then
    if (v4Value? host).isSome then .ok host else .error (.badDotted host)
  else match host with
    | '[' :: r =>
      if r.getLast? = some ']' then
        match Address.parse? r.dropLast with
        | some (.v6 _) => .ok r.dropLast
        | _ => .error (.badBracketed host)
      else namedHost host
    | _ => namedHost host

def defaultPort? (scheme : Text) : Option Int :=
  if scheme == "http".toList then some 80
  else if scheme == "https".toList then some 443
  else if scheme == "ftp".toList then some 21
  else none

def requestPort (scheme port : Text) : Except RequestFault (Option Int) :=
  if port.isEmpty then .ok none
  else match readDecimal port with
    | .error _ => .error (.badPort port)
    | .ok n => .ok (if defaultPort? scheme == some n then none else some n)

/-- An authority as user, host and port. -/
def cutPlace (authority : Text) : Text × Text × Text :=
  let (user, place) := (cutAtLast? '@' authority).getD ([], authority)
  let (host, rest) := match place, cutAtLast? ']' place with
    | '[' :: _, some (inner, rest) => (inner ++ [']'], rest)
    | _, _ => (place.takeWhile (· != ':'), place.dropWhile (· != ':'))
  (user, host, match rest with
    | ':' :: port => port
    | port => port)

/-- Removes the dot segments of a path; the root is never left. -/
def normalPath (path : Text) : Text :=
  let step (done : List Text) (s : Text) : List Text :=
    if s == ['.'] then done
    else if s == ['.', '.'] then if done == [[]] then done else done.dropLast
    else done ++ [s]
  joinWith ['/'] ((splitAtChar '/' path).foldl step [])

def isPathSafe : Char → Bool := printableExcept " \"#<>?`\x7b\x7d"

def isQuerySafe : Char → Bool := printableExcept " \"#<>"

def isFragmentSafe : Char → Bool := printableExcept " \"<>`"

def isUserSafe : Char → Bool := printableExcept " \"#<>?`\x7b\x7d/;=@[\\]^|"

def isControl (c : Char) : Bool := c.toNat < 32 || c.toNat == 127

/-- The path of a URL, checked against what stands before it. -/
def checkPath (hasScheme hasAuthority : Bool) (path : Text) : Except RequestFault Text :=
  if hasAuthority && !path.isEmpty && path.head? != some '/' then .error .noLeadingSlash
  else if !hasScheme && !hasAuthority && ['/', '/'].isPrefixOf path then .error .doubleSlash
  else if !hasScheme && !hasAuthority && path.head? == some ':' then .error .leadingColon
  else .ok (if hasScheme || hasAuthority then normalPath path else path)

def RequestUrl.parse (t : Text) : Except RequestFault RequestUrl := do
  if 65536 < t.length then throw .tooLong
  if let some c := t.find? isControl then throw (.control c (t.idxOf c))
  let (scheme, r) := match cutAt ':' t with
    | ([], some r) => ([], r)
    | (scheme@(c :: rest), some r) =>
      if c.isAlpha && rest.all isSchemeChar then (scheme, r) else ([], t)
    | _ => ([], t)
  let (authority, r) := cutAuthority r
  let (r, fragment) := cutAt '#' r
  let (path, query) := cutAt '?' r
  let (user, host, port) := cutPlace authority
  let user := percentEncode isUserSafe user
  let host ← requestHost host
  let port ← requestPort scheme port
  let hasAuthority := !user.isEmpty || !host.isEmpty || port.isSome
  let path ← checkPath (!scheme.isEmpty) hasAuthority path
  return ⟨scheme.map Char.toLower, user, host, port, percentEncode isPathSafe path,
    query.map (percentEncode isQuerySafe), fragment.map (percentEncode isFragmentSafe)⟩

def RequestUrl.isAbsolute (u : RequestUrl) : Bool := !u.scheme.isEmpty && !u.host.isEmpty

/-- A host that stands for a name of another script has to be a registered one. -/
def RequestUrl.checkHost (u : RequestUrl) : Except LabelFault Unit :=
  if "xn--".toList.isPrefixOf u.host then PageClip.checkHost u.host else .ok ()

/-- The text of a URL. One that names no host is requested as a path from the root. -/
def RequestUrl.text (u : RequestUrl) : Text :=
  let query := (u.query.map ('?' :: ·)).getD []
  if u.isAbsolute then
    u.scheme ++ [':', '/', '/'] ++ (if u.user.isEmpty then [] else u.user ++ ['@']) ++
      (if u.host.contains ':' then ['['] ++ u.host ++ [']'] else u.host) ++
      (u.port.map fun n => ':' :: (toString n).toList).getD [] ++
      u.path ++ query ++ (u.fragment.map ('#' :: ·)).getD []
  else '/' :: u.path.dropWhile (· == '/') ++ query

end PageClip
