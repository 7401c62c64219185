import PageClip.ContentCoding
import PageClip.ContentType
import PageClip.RequestUrl
import PageClip.Url

/-! Fetching an HTML page: redirects are followed one by one, each target is checked before it is
requested, and the size of a page is bounded. The network is a script of replies. -/

namespace PageClip

/-- What each host name resolves to. A host that is absent does not resolve. -/
abbrev Resolver := Dict (List Text)

def Resolver.isInternal (dns : Resolver) (host : Text) : Bool :=
  ((dns.get? host).getD []).any isInternalText

inductive Rejection where
  | malformed (fault : UrlFault)
  | scheme (scheme : Text)
  | noHost
  | internal
  deriving DecidableEq, Repr

def Rejection.message : Rejection → Text
  | .malformed f => f.message
  | .scheme s =>
    "Scheme '".toList ++ s ++ "' is not allowed. Use http or https.".toList
  | .noHost => "URL must have a valid hostname.".toList
  | .internal => "Requests to private/internal addresses are not allowed.".toList

def checkUrl (dns : Resolver) (url : Text) : Except Rejection Unit := do
  let u ← (Url.split [] url).mapError .malformed
  if !webSchemes.contains u.scheme then throw (.scheme u.scheme)
  if u.host.isEmpty then throw .noHost
  if dns.isInternal u.host then throw .internal

/-- What a client reports instead of a response. -/
inductive ClientFault where
  | timeout
  | connectTimeout
  | readTimeout
  | writeTimeout
  | poolTimeout
  | request
  | transport
  | network
  | connect
  | read
  | write
  | close
  | protocol
  | localProtocol
  | remoteProtocol
  | proxy
  | unsupportedProtocol
  | undecodable
  | tooManyRedirects
  | stream
  | invalidUrl
  | other
  deriving DecidableEq, Repr

def ClientFault.isTimeout : ClientFault → Bool
  | .timeout | .connectTimeout | .readTimeout | .writeTimeout | .poolTimeout => true
  | _ => false

/-- Whether the fault is one of the exchange, so that its message can be passed on. -/
def ClientFault.isExchange : ClientFault → Bool
  | .invalidUrl | .other => false
  | _ => true

/-- An answer whose body comes in chunks. The body can break off with a fault of the client. -/
structure Response where
  status : Nat
  headers : List (Text × Text)
  chunks : List Bytes
  broken : Option (ClientFault × Text) := none

inductive Reply where
  | fault (fault : ClientFault) (message : Text)
  | response (response : Response)

inductive FetchError where
  | rejected (rejection : Rejection)
  | client (fault : ClientFault) (message : Text)
  | status (code : Nat)
  | notHtml (mediaType : Text)
  | badLength (declared : Text)
  | longLength (digits : Nat)
  | badHost (fault : LabelFault)
  | charset (fault : CharsetFault)
  | tooLarge
  | tooManyRedirects
  deriving DecidableEq, Repr

def FetchError.message : FetchError → Text
  | .rejected r => r.message
  | .client _ m => m
  | .status code => decimal code
  | .notHtml t => "Expected an HTML page, got '".toList ++ t ++ "'.".toList
  | .badLength declared =>
    "invalid literal for int() with base 10: ".toList ++ (quoted declared).take 200
  | .longLength digits => longNumberMessage digits
  | .badHost fault => fault.message
  | .charset fault => fault.message
  | .tooLarge => "Page exceeds the maximum allowed size.".toList
  | .tooManyRedirects => "Too many redirects.".toList

def maxPageSize : Nat := 5242880

def maxRedirects : Nat := 10

/-- The values of a header, whatever the case of its name, joined by commas. -/
def Response.header? (r : Response) (name : String) : Option Text :=
  match r.headers.filter fun h => h.1.map Char.toLower == name.toList with
  | [] => none
  | h :: hs => some (joinWith [',', ' '] ((h :: hs).map (·.2)))

/-- A response as the client hands it over, the chunks of its body as they were before the body was
coded to be sent. A fault in the coding is one of the client, and shows in the chunk that has it. -/
def Response.unpacked (r : Response) : Response :=
  match contentCodings ((r.header? "content-encoding").getD []) with
  | [] => r
  | codings =>
    let (chunks, fault) := removeCodings codings r.chunks
    { r with chunks, broken := (fault.map fun f => (.undecodable, f.message)).or r.broken }

def checkContentType (header : Text) : Except FetchError Unit :=
  if namesHtml header then .ok () else .error (.notHtml (mediaType header))

/-- A declared length that is not empty has to be an integer within the bound. -/
def checkDeclaredLength : Option Text → Except FetchError Unit
  | none => .ok ()
  | some [] => .ok ()
  | some (c :: t) =>
    match readDecimal (c :: t) with
    | .error .malformed => .error (.badLength (c :: t))
    | .error (.tooLong digits) => .error (.longLength digits)
    | .ok n => if (maxPageSize : Int) < n then .error .tooLarge else .ok ()

/-- Gathers the chunks of a body and stops at the first that exceeds the bound. -/
def gatherBody (buffer : Bytes) : List Bytes → Except FetchError Bytes
  | [] => .ok buffer
  | chunk :: rest =>
    if maxPageSize < (buffer ++ chunk).length then .error .tooLarge
    else gatherBody (buffer ++ chunk) rest

/-- A body ends when all of its chunks were handed over, unless it has broken off. -/
def Response.checkEnd (r : Response) : Except FetchError Unit :=
  match r.broken with
  | none => .ok ()
  | some (fault, message) => .error (.client fault message)

/-- The charset that the content type names, if it names one. -/
def Response.charsetName? (codecs : Codecs) (r : Response) : Except CharsetFault (Option Text) :=
  match r.header? "content-type" with
  | some header => charsetParameter codecs header
  | none => .ok none

/-- The text of bytes in the charset that is named, and in UTF-8 where none is. -/
def Response.decode (codecs : Codecs) (r : Response) (bytes : Bytes) :
    Except CharsetFault Text := do
  match ← r.charsetName? codecs with
  | some name => decodeNamed codecs name bytes
  | none => .ok (decodeUtf8 bytes)

/-- The text of a page that was answered. -/
def Response.readHtml (codecs : Codecs) (r : Response) : Except FetchError Text := do
  checkContentType ((r.header? "content-type").getD [])
  checkDeclaredLength (r.header? "content-length")
  let body ← gatherBody [] r.chunks
  r.checkEnd
  (r.decode codecs body).mapError .charset

def Response.isRedirect (r : Response) : Bool := 300 ≤ r.status && r.status < 400

def Response.isSuccess (r : Response) : Bool := 200 ≤ r.status && r.status < 300

/-- The client looks at the target of these redirects itself. -/
def inspectedStatuses : List Nat := [301, 302, 303, 307, 308]

/-- What the client finds wrong with a redirect before it is followed. -/
def Response.checkRedirect (r : Response) : Except FetchError Unit :=
  match inspectedStatuses.contains r.status, r.header? "location" with
  | true, some location =>
    match RequestUrl.parse location with
    | .error e =>
      .error (.client .remoteProtocol
        ("Invalid URL in location header: ".toList ++ e.message ++ ['.']))
    | .ok u =>
      if !u.scheme.isEmpty && u.host.isEmpty && !u.path.isEmpty && u.path.head? != some '/' then
        .error (.client .invalidUrl RequestFault.noLeadingSlash.message)
      else u.checkHost.mapError .badHost
  | _, _ => .ok ()

/-- The request for a URL, when there can be one. -/
def requestFor (url : Text) : Except FetchError RequestUrl := do
  let target ← (RequestUrl.parse url).mapError fun e => .client .invalidUrl e.message
  target.checkHost.mapError .badHost
  return target

/-- The URLs that were requested, in order, and what came of it. -/
structure FetchRun where
  requests : List Text
  outcome : Except FetchError Text

def FetchRun.stop (outcome : Except FetchError Text) : FetchRun := ⟨[], outcome⟩

def FetchRun.after (url : Text) (run : FetchRun) : FetchRun :=
  { run with requests := url :: run.requests }

/-- The target of a redirect, when it may be requested. -/
def redirectTarget (dns : Resolver) (url : Text) (r : Response) : Except FetchError Text := do
  r.checkRedirect
  let location := (r.header? "location").getD []
  let target ← (joinUrl url location).mapError fun f => .rejected (.malformed f)
  (checkUrl dns target).mapError .rejected
  return target

/-- What is done with an answer: a redirect is followed without a look at its body, and the body of
a page is read. -/
def fetchFrom (codecs : Codecs) (dns : Resolver) : (budget : Nat) → (url : Text) → List Reply →
    FetchRun
  | 0, _, _ => .stop (.error .tooManyRedirects)
  | budget + 1, url, script =>
    match requestFor url with
    | .error e => .stop (.error e)
    | .ok target =>
      .after target.text <|
        match script with
        | [] => .stop (.error (.client .connect "no scripted response".toList))
        | .fault fault message :: _ => .stop (.error (.client fault message))
        | .response r :: rest =>
          if r.isRedirect then
            match redirectTarget dns url r with
            | .error e => .stop (.error e)
            | .ok next => fetchFrom codecs dns budget next rest
          else if r.isSuccess then .stop (r.unpacked.readHtml codecs)
          else .stop (.error (.status r.status))

/-- Downloads the page at a URL. -/
def fetchHtml (codecs : Codecs) (dns : Resolver) (url : Text) (script : List Reply) : FetchRun :=
  match checkUrl dns url with
  | .error e => .stop (.error (.rejected e))
  | .ok () => fetchFrom codecs dns (maxRedirects + 1) url script

end PageClip
