import PageClip.HtmlPage
import PageClip.Request

/-! The service: a request becomes a job, the use of its endpoint is counted, and the job is
run while the limit allows it. -/

namespace PageClip

/-- An answer, and the addresses that were requested for it. -/
structure Served where
  answer : Answer
  requests : List Text := []

def answerOf {α : Type} (give : α → Answer) : Except Refusal α → Answer
  | .ok a => give a
  | .error r => .refused r

/-- The snapshot of the page at an address, and the addresses requested on the way. -/
def loadPage (web : Web) (url selection : Text) : Except Refusal Page × List Text :=
  let run := fetchHtml web.codecs web.dns url web.script
  ((run.outcome.map fun html => pageOfHtml html url selection).mapError .fetch, run.requests)

def findTemplate (id : Text) : Except Refusal CatalogEntry :=
  (findEntry id).mapError fun _ => .unknownTemplate id

def runFunction (f : CopyFunction) (page : Page) : Except Refusal (Clip Text) :=
  (f.execute page).mapError .execution

def Job.run (web : Web) : Job → Served
  | .greet => ⟨.greeting, []⟩
  | .list => ⟨.entries catalog, []⟩
  | .entry id => ⟨answerOf .entry (findTemplate id), []⟩
  | .evaluate id page options =>
    ⟨answerOf (fun e => .clip (e.evaluate page options)) (findTemplate id), []⟩
  | .classify code => ⟨.classification (PageClip.classify code), []⟩
  | .validate code => ⟨.validation (parseFunction code), []⟩
  | .render template data => ⟨.rendered (PageClip.render template (displayIn data)), []⟩
  | .execute f page => ⟨answerOf .clip (runFunction f page), []⟩
  | .context url selection =>
    let (page, requests) := loadPage web url selection
    ⟨answerOf .page page, requests⟩
  | .executeUrl url selection f =>
    let (page, requests) := loadPage web url selection
    ⟨answerOf (fun r => .pageClip r.1 r.2) (do
      let page ← page
      return (page, ← runFunction f page)), requests⟩

/-- Runs a job that may still be run. -/
def Job.serve (hits : Hits) (web : Web) (job : Job) : Hits × Served :=
  match job.endpoint? with
  | none => (hits, job.run web)
  | some e =>
    (hits.add e, if hits.spent e then ⟨.limited e.limit, []⟩ else job.run web)

/-- Serves one request. A request that asks for no job is not counted, and one for the head
alone is answered by its status. -/
def serve (hits : Hits) (r : Request) : Hits × Served :=
  let (hits, served) := match r.job with
    | .ok job => job.serve hits r.web
    | .error answer => (hits, ⟨answer, []⟩)
  if r.verb == "HEAD".toList then
    (hits, { served with answer := .statusOnly served.answer.status })
  else (hits, served)

/-- Serves requests in order, all in one window. -/
def serveAll (hits : Hits) : List Request → List Served
  | [] => []
  | r :: rest =>
    let (hits, served) := serve hits r
    served :: serveAll hits rest

end PageClip
