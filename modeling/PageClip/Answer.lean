import PageClip.Catalog
import PageClip.Checked
import PageClip.Classification
import PageClip.Fetch
import PageClip.RateLimit

/-! What the service answers: results, refusals with their cause, and validation issues,
each with its status and its body. -/

namespace PageClip

/-- Why a request that was well formed is not served. -/
inductive Refusal where
  | unknownPath
  | wrongMethod
  | unreadableBody
  | unknownTemplate (id : Text)
  | execution (error : ExecutionError)
  | fetch (error : FetchError)
  deriving DecidableEq, Repr

/-- The status of a failed fetch: what the caller asked for wrongly, what the other side
failed to do, and all else. -/
def FetchError.refusalStatus : FetchError → Nat
  | .rejected _ => 400
  | .badLength _ => 400
  | .longLength _ => 400
  | .badHost _ => 400
  | .charset fault => if fault.isOfValue then 400 else 500
  | .client fault _ => if fault.isTimeout then 504 else if fault.isExchange then 502 else 500
  | .status _ => 502
  | .notHtml _ => 502
  | .tooLarge => 502
  | .tooManyRedirects => 502

def unforeseenDetail : Text := "An unexpected error occurred.".toList

def FetchError.refusalDetail : FetchError → Text
  | .charset fault => if fault.isOfValue then fault.message else unforeseenDetail
  | .client fault message =>
    if fault.isTimeout then "The target URL timed out.".toList
    else if fault.isExchange then message
    else unforeseenDetail
  | .status code => "Target URL returned HTTP ".toList ++ decimal code ++ ['.']
  | e => e.message

def Refusal.status : Refusal → Nat
  | .unknownPath => 404
  | .wrongMethod => 405
  | .unreadableBody => 400
  | .unknownTemplate _ => 404
  | .execution _ => 422
  | .fetch e => e.refusalStatus

def Refusal.detail : Refusal → Text
  | .unknownPath => "Not Found".toList
  | .wrongMethod => "Method Not Allowed".toList
  | .unreadableBody => "There was an error parsing the body".toList
  | .unknownTemplate id => (Failure.unknownTemplate id).message
  | .execution e => e.message
  | .fetch e => e.refusalDetail

inductive Answer where
  | greeting
  | entries (entries : List CatalogEntry)
  | entry (entry : CatalogEntry)
  | clip (clip : Clip Text)
  | classification (classification : Classification)
  | validation (result : Except Failure (Clip Text))
  | rendered (text : Text)
  | page (page : Page)
  | pageClip (page : Page) (clip : Clip Text)
  | invalid (issues : List Issue)
  | refused (refusal : Refusal)
  | limited (limit : Nat)
  | statusOnly (status : Nat)

def Answer.status : Answer → Nat
  | .invalid _ => 422
  | .refused r => r.status
  | .limited _ => 429
  | .statusOnly status => status
  | _ => 200

def record (fields : List (String × Value)) : Value :=
  .dict (fields.map fun f => (f.1.toList, f.2))

def textOrNull : Option Text → Value
  | some t => .text t
  | none => .null

def CatalogEntry.toValue (e : CatalogEntry) : Value :=
  record [("id", .text e.id), ("name", .text e.name), ("description", .text e.description),
    ("code", .text e.code)]

/-- A clip with both of its parts, one that is absent being null. -/
def fullClip (c : Clip Text) : Value :=
  record [("text", textOrNull c.text), ("html", textOrNull c.html)]

/-- A clip without the parts that are absent. -/
def presentClip (c : Clip Text) : Value :=
  record ((c.text.toList.map fun t => ("text", .text t)) ++
    c.html.toList.map fun t => ("html", .text t))

def Page.toValue (p : Page) : Value :=
  record [("title", .text p.title), ("url", .text p.url), ("selection", .text p.selection),
    ("content", .text p.content), ("meta", .dict (p.metadata.map fun e => (e.1, textOrNull e.2)))]

def Place.toValue : Place → Value
  | .key name => .text name
  | .index n => .int n

/-- An issue as its place and its kind. -/
def Issue.toValue (i : Issue) : Value :=
  .list [.list (i.place.map Place.toValue), .text i.kind.code]

def Classification.toValue (c : Classification) : Value :=
  record [("templateId", .text c.templateId),
    ("customOptions", match c.template with
      | some t => record [("template", .text t)]
      | none => .null)]

def Answer.body : Answer → Value
  | .greeting => record [("message", .text "Hello from Concopy".toList)]
  | .entries es => .list (es.map CatalogEntry.toValue)
  | .entry e => e.toValue
  | .clip c => presentClip c
  | .classification c => c.toValue
  | .validation (.ok fields) =>
    record [("valid", .bool true), ("fields", presentClip fields), ("error", .null)]
  | .validation (.error e) =>
    record [("valid", .bool false), ("fields", .dict []), ("error", .text e.message)]
  | .rendered t => record [("output", .text t)]
  | .page p => p.toValue
  | .pageClip p c => record [("context", p.toValue), ("result", fullClip c)]
  | .invalid issues => record [("detail", .list (issues.map Issue.toValue))]
  | .refused r => record [("detail", .text r.detail)]
  | .limited limit =>
    record [("error", .text ("Rate limit exceeded: ".toList ++ decimal limit ++
      " per 1 minute".toList))]
  | .statusOnly _ => .text []

end PageClip
