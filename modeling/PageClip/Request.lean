import PageClip.Answer
import PageClip.CanonicalUrl
import PageClip.Catalog
import PageClip.Charset
import PageClip.Checked
import PageClip.JsonText

/-! Requests to the service, and the jobs they ask for once their bodies are read and checked. Zeros
among the first bytes of a body tell that its characters take two or four bytes each. -/

namespace PageClip

inductive CharacterSize where
  | variable
  | two (bigEndian : Bool)
  | four (bigEndian : Bool)
  deriving DecidableEq, Repr

def characterSize : Bytes → CharacterSize
  | [0, _] => .two true
  | [_, 0] => .two false
  | 0 :: 0 :: _ :: _ :: _ => .four true
  | 0 :: _ :: _ :: _ :: _ => .two true
  | _ :: 0 :: 0 :: 0 :: _ => .four false
  | _ :: 0 :: _ :: _ :: _ => .two false
  | _ => .variable

/-- The characters of four bytes each, if nothing is left over and every code is one. -/
def fourByteText? (bigEndian : Bool) : Bytes → Option Text
  | [] => some []
  | a :: b :: c :: d :: rest =>
    let bytes := if bigEndian then [a, b, c, d] else [d, c, b, a]
    let code := bytes.foldl (fun n byte => n * 256 + byte.toNat) 0
    if 0x10ffff < code then none else (fourByteText? bigEndian rest).map (unitChar code :: ·)
  | _ => none

/-- The text of a body that is one. A byte order mark in front is no part of it. -/
def bodyText? : Bytes → Option Text
  | 0xef :: 0xbb :: 0xbf :: rest => whole? (utf8Units rest)
  | bytes =>
    match characterSize bytes with
    | .variable => whole? (utf8Units bytes)
    | .two bigEndian =>
      if bytes.length % 2 = 0 then some (decodeUtf16 bigEndian bytes) else none
    | .four bigEndian => fourByteText? bigEndian bytes

/-- The metadata of a page: texts and nulls, an issue for each other value. -/
def readMetadata : Value → Checked (Dict (Option Text))
  | .dict entries => eachEntry (nullable readText) entries
  | _ => .fail .notDict

def readPage : Value → Checked Page := object fun entries =>
  Page.mk
    <$> required readText "title".toList entries
    <*> required readText "url".toList entries
    <*> optional readText [] ["selection".toList] entries
    <*> optional readText [] ["content".toList] entries
    <*> optional readMetadata [] ["meta".toList] entries

/-- The fields that only describe a function are checked and dropped. -/
def readCopyFunction : Value → Checked CopyFunction := object fun entries =>
  (fun id _ _ code templateId options _ _ _ _ _ => ⟨id, code, templateId, options⟩)
    <$> required readText "id".toList entries
    <*> optional readText [] ["name".toList] entries
    <*> optional readText [] ["description".toList] entries
    <*> optional readText [] ["code".toList] entries
    <*> optional (nullable readText) none ["templateId".toList, "template_id".toList] entries
    <*> optional (nullable readDict) none ["customOptions".toList, "custom_options".toList] entries
    <*> optional (nullable readText) none ["urlPattern".toList, "url_pattern".toList] entries
    <*> optional (nullable readText) none
          ["backgroundColor".toList, "background_color".toList] entries
    <*> optional (nullable readText) none ["textColor".toList, "text_color".toList] entries
    <*> optional (nullable readInteger) none ["createdAt".toList, "created_at".toList] entries
    <*> optional (nullable readInteger) none ["updatedAt".toList, "updated_at".toList] entries

/-- What a request carries. A body is malformed where its text stops being a value, and
unreadable when it has no text or a value that is too large. -/
inductive Body where
  | absent
  | malformed (index : Nat)
  | unreadable
  | value (v : Value)

def Body.ofJson : Except JsonFault Value → Body
  | .ok v => .value v
  | .error (.malformed index) => .malformed index
  | .error .oversized => .unreadable

def Body.ofBytes (bytes : Bytes) : Body :=
  if bytes.isEmpty then .absent
  else match bodyText? bytes with
    | some t => .ofJson (readJson t)
    | none => .unreadable

/-- What a request finds around it: the network, and the codecs that the platform has. -/
structure Web where
  dns : Resolver
  script : List Reply
  codecs : Codecs

structure Request where
  method : Text
  path : Text
  body : Body
  web : Web

/-- The method of a request; its case does not matter. -/
def Request.verb (r : Request) : Text := r.method.map Char.toUpper

inductive Job where
  | greet
  | list
  | entry (id : Text)
  | evaluate (id : Text) (page : Page) (options : Options)
  | classify (code : Text)
  | validate (code : Text)
  | render (template : Text) (data : Dict Value)
  | execute (function : CopyFunction) (page : Page)
  | context (url selection : Text)
  | executeUrl (url selection : Text) (function : CopyFunction)

/-- The endpoint whose use a job counts as. -/
def Job.endpoint? : Job → Option Endpoint
  | .execute .. => some .execute
  | .context .. => some .context
  | .executeUrl .. => some .executeUrl
  | _ => none

def readEvaluation (id : Text) : Value → Checked Job := object fun entries =>
  Job.evaluate id
    <$> required readPage "context".toList entries
    <*> optional (nullable readDict) none ["customOptions".toList, "custom_options".toList] entries

def readSource : Value → Checked Text := object (required readText "code".toList)

def readRendering : Value → Checked Job := object fun entries =>
  Job.render
    <$> required readText "template".toList entries
    <*> optional readDict [] ["data".toList] entries

def readExecution : Value → Checked Job := object fun entries =>
  Job.execute
    <$> required readCopyFunction "function".toList entries
    <*> required readPage "context".toList entries

def readContext : Value → Checked Job := object fun entries =>
  Job.context
    <$> required readUrl "url".toList entries
    <*> optional readText [] ["selection".toList] entries

def readUrlExecution : Value → Checked Job := object fun entries =>
  Job.executeUrl
    <$> required readUrl "url".toList entries
    <*> optional readText [] ["selection".toList] entries
    <*> required readCopyFunction "function".toList entries

/-- A method and what it asks of a path: a job as it stands, or one that a body describes. -/
inductive Route where
  | get (job : Job)
  | post (read : Value → Checked Job)

def Route.method : Route → Text
  | .get _ => "GET".toList
  | .post _ => "POST".toList

/-- A text without the newline that may end it. -/
def withoutNewline (t : Text) : Text := if t.getLast? = some '\n' then t.dropLast else t

/-- What a path asks for. A newline at the end of a path is no part of a fixed last word. -/
def route? (path : Text) : Option Route :=
  match splitAtChar '/' path with
  | [[], last] =>
    match String.ofList (withoutNewline last) with
    | "" => some (.get .greet)
    | "templates" => some (.get .list)
    | "classify" => some (.post fun v => (readSource v).map .classify)
    | "validate" => some (.post fun v => (readSource v).map .validate)
    | "render" => some (.post readRendering)
    | "execute" => some (.post readExecution)
    | "context" => some (.post readContext)
    | _ => none
  | [[], place, last] =>
    match String.ofList place, String.ofList (withoutNewline last) with
    | "templates", _ => if last.isEmpty then none else some (.get (.entry last))
    | "execute", "url" => some (.post readUrlExecution)
    | _, _ => none
  | [[], place, id, last] =>
    match String.ofList place, String.ofList (withoutNewline last) with
    | "templates", "evaluate" => if id.isEmpty then none else some (.post (readEvaluation id))
    | _, _ => none
  | _ => none

/-- The path of a request target from the root, without query and fragment, its dot segments
and its escapes resolved. -/
def targetPath (target : Text) : Text :=
  let path := target.takeWhile fun c => c != '?' && c != '#'
  decodeUtf8 (percentDecode (normalPath ('/' :: path.dropWhile (· == '/'))))

/-- A path without the slashes at its end. -/
def withoutSlashes (path : Text) : Text := (path.reverse.dropWhile (· == '/')).reverse

/-- A job without issues, or the answer that lists them as issues of the body. -/
def jobOfBody (checked : Checked Job) : Except Answer Job :=
  match checked.under (.key "body".toList) with
  | .ok job => .ok job
  | .bad issues => .error (.invalid issues)

/-- The job that a body describes. -/
def Body.job (read : Value → Checked Job) : Body → Except Answer Job
  | .absent => jobOfBody (.fail .missing)
  | .malformed index => jobOfBody (.bad [⟨[.index index], .malformedJson⟩])
  | .unreadable => .error (.refused .unreadableBody)
  | .value v => jobOfBody (read v)

/-- What a path without a route is answered: only slashes too many are forgiven. -/
def strayAnswer (path : Text) : Answer :=
  if path.getLast? == some '/' && (route? (withoutSlashes path)).isSome then .statusOnly 307
  else .refused .unknownPath

/-- The job that a request asks for. The body is checked first of all that a job needs. -/
def Request.job (r : Request) : Except Answer Job :=
  let path := targetPath r.path
  match route? path with
  | none => .error (strayAnswer path)
  | some route =>
    if r.verb != route.method then .error (.refused .wrongMethod)
    else match route with
      | .get job => .ok job
      | .post read => r.body.job read

end PageClip
