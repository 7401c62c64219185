import PageClip.Service

/-! The limits of the endpoints over one window. A use is counted for the endpoint it is a use of
and for no other, so what is asked of one endpoint does not show in the answers of another. -/

namespace PageClip

/-- The reader of the bodies that an endpoint takes. -/
def Endpoint.read : Endpoint → Value → Checked Job
  | .execute => readExecution
  | .context => readContext
  | .executeUrl => readUrlExecution

/-- The endpoint that a path leads to. -/
def endpointAt? (path : Text) : Option Endpoint :=
  match splitAtChar '/' path with
  | [[], last] =>
    match String.ofList (withoutNewline last) with
    | "execute" => some .execute
    | "context" => some .context
    | _ => none
  | [[], place, last] =>
    match String.ofList place, String.ofList (withoutNewline last) with
    | "execute", "url" => some .executeUrl
    | _, _ => none
  | _ => none

/-- The endpoint that a request is sent to. -/
def Request.target? (r : Request) : Option Endpoint :=
  if r.verb = "POST".toList then endpointAt? (targetPath r.path) else none

/-- The endpoint whose use a request is counted as: only a valid body makes it one. -/
def Request.counted? (r : Request) : Option Endpoint :=
  if r.job.isOk then r.target? else none

def uses (e : Endpoint) (requests : List Request) : Nat :=
  requests.countP fun r => r.counted? = some e

/-- What a request is answered when nothing was sent before it. -/
def Request.alone (r : Request) : Served := (serve {} r).2

/-- What a request is answered once the endpoints have been used so often. -/
def Request.answerAfter (r : Request) (used : Endpoint → Nat) : Served :=
  match r.counted? with
  | none => r.alone
  | some e => if e.limit ≤ used e then ⟨.limited e.limit, []⟩ else r.alone

section reading
variable {α β : Type} {v : Value}

theorem map_ok {f : α → β} {x : Checked α} {b : β} (h : f <$> x = .ok b) :
    ∃ a, x = .ok a ∧ b = f a := by
  cases x with
  | ok a => exact ⟨a, rfl, (Checked.ok.inj h).symm⟩
  | bad issues => cases h

theorem ap_ok {f : Checked (α → β)} {x : Checked α} {b : β} (h : f <*> x = .ok b) :
    ∃ g a, f = .ok g ∧ b = g a := by
  cases f with
  | ok g =>
    cases x with
    | ok a => exact ⟨g, a, rfl, (Checked.ok.inj h).symm⟩
    | bad issues => cases h
  | bad issues => cases x <;> cases h

theorem object_ok {read : Dict Value → Checked α} {a : α} (h : object read v = .ok a) :
    ∃ entries, read entries = .ok a := by
  cases v with
  | dict entries => exact ⟨entries, h⟩
  | _ => cases h

theorem read_endpoint? {e : Endpoint} {job : Job} (h : e.read v = .ok job) :
    job.endpoint? = some e := by
  cases e with
  | execute =>
    obtain ⟨entries, hjob⟩ := object_ok h
    obtain ⟨g, page, hg, rfl⟩ := ap_ok hjob
    obtain ⟨f, _, rfl⟩ := map_ok hg
    rfl
  | context =>
    obtain ⟨entries, hjob⟩ := object_ok h
    obtain ⟨g, selection, hg, rfl⟩ := ap_ok hjob
    obtain ⟨url, _, rfl⟩ := map_ok hg
    rfl
  | executeUrl =>
    obtain ⟨entries, hjob⟩ := object_ok h
    obtain ⟨g, f, hg, rfl⟩ := ap_ok hjob
    obtain ⟨g', selection, hg', rfl⟩ := ap_ok hg
    obtain ⟨url, _, rfl⟩ := map_ok hg'
    rfl

theorem endpoint?_of_map {read : Value → Checked α} {f : α → Job} {job : Job}
    (hf : ∀ a, (f a).endpoint? = none) (h : (read v).map f = .ok job) : job.endpoint? = none := by
  obtain ⟨a, _, rfl⟩ := map_ok h
  exact hf a

theorem readRendering_endpoint? {job : Job} (h : readRendering v = .ok job) :
    job.endpoint? = none := by
  obtain ⟨entries, hjob⟩ := object_ok h
  obtain ⟨g, data, hg, rfl⟩ := ap_ok hjob
  obtain ⟨template, _, rfl⟩ := map_ok hg
  rfl

theorem readEvaluation_endpoint? {id : Text} {job : Job} (h : readEvaluation id v = .ok job) :
    job.endpoint? = none := by
  obtain ⟨entries, hjob⟩ := object_ok h
  obtain ⟨g, options, hg, rfl⟩ := ap_ok hjob
  obtain ⟨page, _, rfl⟩ := map_ok hg
  rfl

end reading

section routes
variable {path : Text} {route : Route} {e : Endpoint}

/-- Whether the jobs of a route count as uses of this endpoint. -/
def Route.CountsAs (e : Option Endpoint) : Route → Prop
  | .get job => job.endpoint? = none ∧ e = none
  | .post read => ∀ v job, read v = .ok job → job.endpoint? = e

theorem route?_of_endpointAt? (h : endpointAt? path = some e) :
    route? path = some (.post e.read) := by
  unfold endpointAt? at h
  unfold route?
  split at h
  · rename_i last hpath
    simp only [hpath]
    split at h
    · rename_i hlast
      obtain rfl := Option.some.inj h
      simp only [hlast]
      rfl
    · rename_i hlast
      obtain rfl := Option.some.inj h
      simp only [hlast]
      rfl
    · cases h
  · rename_i place last hpath
    simp only [hpath]
    split at h
    · rename_i hplace hlast
      obtain rfl := Option.some.inj h
      simp only [hplace, hlast]
      rfl
    · cases h
  · cases h

/-- The words of a path decide both what it leads to and which endpoint that is. -/
theorem route?_countsAs (h : route? path = some route) : route.CountsAs (endpointAt? path) := by
  unfold route? at h
  unfold endpointAt?
  split at h
  · rename_i last hpath
    simp only [hpath]
    split at h <;> rename_i hlast <;> cases h <;> simp only [hlast]
    · exact ⟨rfl, rfl⟩
    · exact ⟨rfl, rfl⟩
    · exact fun _ _ hread => endpoint?_of_map (fun _ => rfl) hread
    · exact fun _ _ hread => endpoint?_of_map (fun _ => rfl) hread
    · exact fun _ _ hread => readRendering_endpoint? hread
    · exact fun _ _ hread => read_endpoint? (e := .execute) hread
    · exact fun _ _ hread => read_endpoint? (e := .context) hread
  · rename_i place last hpath
    simp only [hpath]
    split at h
    · rename_i hplace
      split at h
      · cases h
      · cases h
        simp only [hplace]
        exact ⟨rfl, rfl⟩
    · rename_i hplace hlast
      cases h
      simp only [hplace, hlast]
      exact fun _ _ hread => read_endpoint? (e := .executeUrl) hread
    · cases h
  · rename_i place id last hpath
    simp only [hpath]
    split at h
    · split at h
      · cases h
      · cases h
        exact fun _ _ hread => readEvaluation_endpoint? hread
    · cases h
  · cases h

end routes

section request
variable {r : Request} {e : Endpoint} {job : Job} {answer : Answer}

theorem Request.job_of_target? (h : r.target? = some e) : r.job = r.body.job e.read := by
  rw [Request.target?] at h
  split at h
  · rename_i hverb
    have hmethod : (r.verb != (Route.post e.read).method) = false := by
      simp [hverb, Route.method]
    simp only [Request.job, route?_of_endpointAt? h, hmethod]
    rfl
  · cases h

example (web : Web) :
    Request.target? ⟨"post".toList, "/a/../execute/url?x=1".toList, .absent, web⟩ =
      some .executeUrl := by
  rfl

theorem jobOfBody_ok {checked : Checked Job} (h : jobOfBody checked = .ok job) :
    checked = .ok job := by
  cases checked with
  | ok a => exact congrArg Checked.ok (Except.ok.inj h)
  | bad issues => cases h

theorem jobOfBody_error {checked : Checked Job} (h : jobOfBody checked = .error answer) :
    ∃ issues, answer = .invalid issues := by
  cases checked with
  | ok a => cases h
  | bad issues => exact ⟨_, (Except.error.inj h).symm⟩

theorem Body.job_ok {body : Body} {read : Value → Checked Job} (h : body.job read = .ok job) :
    ∃ v, read v = .ok job := by
  cases body with
  | absent => cases h
  | malformed index => cases h
  | unreadable => cases h
  | value v => exact ⟨v, jobOfBody_ok h⟩

theorem Body.job_error {body : Body} {read : Value → Checked Job}
    (h : body.job read = .error answer) :
    (∃ issues, answer = .invalid issues) ∨
      (body = .unreadable ∧ answer = .refused .unreadableBody) := by
  cases body with
  | absent =>
    have hissues : jobOfBody (.fail .missing) = .error answer := h
    exact .inl (jobOfBody_error hissues)
  | malformed index =>
    have hissues : jobOfBody (.bad [⟨[.index index], .malformedJson⟩]) = .error answer := h
    exact .inl (jobOfBody_error hissues)
  | unreadable => exact .inr ⟨rfl, (Except.error.inj h).symm⟩
  | value v => exact .inl (jobOfBody_error h)

/-- What a job counts as is what its request was sent to. -/
theorem Request.endpoint?_of_job (h : r.job = .ok job) : job.endpoint? = r.target? := by
  rw [Request.job] at h
  split at h
  · cases h
  · rename_i route hroute
    have hcounts := route?_countsAs hroute
    rw [Request.target?]
    split at h
    · cases h
    · rename_i hverb
      rw [Bool.not_eq_true, bne_eq_false_iff_eq] at hverb
      cases route with
      | get job' =>
        obtain rfl := Except.ok.inj h
        have hget : r.verb ≠ "POST".toList := by
          rw [hverb, Route.method]
          decide
        rw [if_neg hget]
        exact hcounts.1
      | post read =>
        obtain ⟨v, hread⟩ := Body.job_ok h
        have hpost : r.verb = "POST".toList := hverb
        rw [if_pos hpost]
        exact hcounts v job hread

theorem Request.verb_of_target? (h : r.target? = some e) : r.verb = "POST".toList := by
  rw [Request.target?] at h
  split at h
  · assumption
  · cases h

end request

section step
variable {r : Request} {e : Endpoint} {job : Job} {answer : Answer} {hits : Hits}

theorem counted?_of_error (h : r.job = .error answer) : r.counted? = none := by
  simp [Request.counted?, h, Except.isOk, Except.toBool]

theorem counted?_of_ok (h : r.job = .ok job) : r.counted? = r.target? := by
  simp [Request.counted?, h, Except.isOk, Except.toBool]

theorem target?_of_counted? (h : r.counted? = some e) : r.target? = some e := by
  cases hjob : r.job with
  | error answer =>
    rw [counted?_of_error hjob] at h
    cases h
  | ok job => rwa [← counted?_of_ok hjob]

theorem verb_ne_head (hpost : r.verb = "POST".toList) : (r.verb == "HEAD".toList) = false := by
  rw [hpost]
  decide

theorem Request.answerAfter_congr {used used' : Endpoint → Nat}
    (h : ∀ e, r.counted? = some e → used e = used' e) :
    r.answerAfter used = r.answerAfter used' := by
  rw [Request.answerAfter, Request.answerAfter]
  cases hcounted : r.counted? with
  | none => rfl
  | some e => simp only [h e hcounted]

theorem serve_of_error (h : r.job = .error answer) (hits : Hits) :
    serve hits r = (hits, r.alone) := by
  simp only [Request.alone, serve, h]
  split <;> rfl

theorem serve_of_uncounted (h : r.job = .ok job) (hnone : job.endpoint? = none) (hits : Hits) :
    serve hits r = (hits, r.alone) := by
  simp only [Request.alone, serve, h, Job.serve, hnone]
  split <;> rfl

theorem serve_of_counted (h : r.job = .ok job) (hsome : job.endpoint? = some e)
    (hpost : r.verb = "POST".toList) (hits : Hits) :
    serve hits r =
      (hits.add e, if hits.spent e then ⟨.limited e.limit, []⟩ else job.run r.web) := by
  simp only [serve, h, Job.serve, hsome, verb_ne_head hpost]
  rfl

theorem Request.alone_of_counted (h : r.job = .ok job) (hsome : job.endpoint? = some e)
    (hpost : r.verb = "POST".toList) : r.alone = job.run r.web := by
  have hfresh : (Hits.spent {} e) = false := by cases e <;> rfl
  rw [Request.alone, serve_of_counted h hsome hpost, hfresh]
  rfl

theorem Request.alone_of_error (h : r.job = .error answer) (hpost : r.verb = "POST".toList) :
    r.alone = ⟨answer, []⟩ := by
  simp only [Request.alone, serve, h, verb_ne_head hpost]
  rfl

theorem serve_eq (hits : Hits) (r : Request) :
    (serve hits r).2 = r.answerAfter hits.count ∧
      ∀ e, (serve hits r).1.count e = hits.count e + if r.counted? = some e then 1 else 0 := by
  cases hjob : r.job with
  | error answer =>
    rw [serve_of_error hjob, Request.answerAfter, counted?_of_error hjob]
    exact ⟨rfl, fun e => rfl⟩
  | ok job =>
    have hendpoint := Request.endpoint?_of_job hjob
    have hcounted := counted?_of_ok hjob
    cases htarget : r.target? with
    | none =>
      rw [htarget] at hendpoint hcounted
      rw [serve_of_uncounted hjob hendpoint, Request.answerAfter, hcounted]
      exact ⟨rfl, fun e => rfl⟩
    | some e =>
      have hpost := Request.verb_of_target? htarget
      rw [htarget] at hendpoint hcounted
      rw [serve_of_counted hjob hendpoint hpost, Request.answerAfter, hcounted,
        Request.alone_of_counted hjob hendpoint hpost]
      refine ⟨?_, fun f => ?_⟩
      · simp [Hits.spent]
      · rw [Hits.count_add]
        simp

theorem FetchError.refusalStatus_ne (e : FetchError) : e.refusalStatus ≠ 429 := by
  cases e with
  | charset fault =>
    rw [FetchError.refusalStatus]
    split <;> decide
  | client fault message =>
    rw [FetchError.refusalStatus]
    split
    · decide
    · split <;> decide
  | _ => simp [FetchError.refusalStatus]

theorem Refusal.status_ne (refusal : Refusal) : refusal.status ≠ 429 := by
  cases refusal with
  | fetch e => exact e.refusalStatus_ne
  | _ => simp [Refusal.status]

theorem answerOf_status_ne {α : Type} {give : α → Answer} (hgive : ∀ a, (give a).status = 200)
    (result : Except Refusal α) : (answerOf give result).status ≠ 429 := by
  cases result with
  | ok a =>
    rw [answerOf, hgive]
    decide
  | error refusal => exact refusal.status_ne

/-- A job that is run is never answered as if a limit were reached. -/
theorem Job.run_status_ne (web : Web) (job : Job) : (job.run web).answer.status ≠ 429 := by
  cases job with
  | entry id => exact answerOf_status_ne (fun _ => rfl) _
  | evaluate id page options => exact answerOf_status_ne (fun _ => rfl) _
  | execute f page => exact answerOf_status_ne (fun _ => rfl) _
  | context url selection => exact answerOf_status_ne (fun _ => rfl) _
  | executeUrl url selection f => exact answerOf_status_ne (fun _ => rfl) _
  | _ => simp [Job.run, Answer.status]

end step

section run
variable {requests : List Request} {hits hits' : Hits} {e : Endpoint}

theorem length_serveAll (hits : Hits) (requests : List Request) :
    (serveAll hits requests).length = requests.length := by
  induction requests generalizing hits with
  | nil => rfl
  | cons r rest ih => rw [serveAll, List.length_cons, ih, List.length_cons]

theorem serveAll_cons (hits : Hits) (r : Request) (rest : List Request) :
    serveAll hits (r :: rest) = (serve hits r).2 :: serveAll (serve hits r).1 rest := rfl

theorem getElem?_serveAll (hits : Hits) (requests : List Request) (i : Nat) :
    (serveAll hits requests)[i]? = requests[i]?.map fun r =>
      r.answerAfter fun e => hits.count e + uses e (requests.take i) := by
  induction requests generalizing hits i with
  | nil => rfl
  | cons r rest ih =>
    obtain ⟨hanswer, hcount⟩ := serve_eq hits r
    cases i with
    | zero =>
      rw [serveAll, List.getElem?_cons_zero, List.getElem?_cons_zero, hanswer]
      rfl
    | succ i =>
      rw [serveAll, List.getElem?_cons_succ, ih, List.getElem?_cons_succ]
      -- What the counters hold after one step is what was counted up to there.
      have huses : (fun e => (serve hits r).1.count e + uses e (rest.take i)) =
          fun e => hits.count e + uses e ((r :: rest).take (i + 1)) := by
        funext e
        rw [hcount, List.take_succ_cons, uses, uses, List.countP_cons]
        simp only [decide_eq_true_eq]
        omega
      rw [huses]

/-- Requests to other places leave the counter of an endpoint alone. -/
theorem filter_serveAll (hcount : hits.count e = hits'.count e) (requests : List Request) :
    ((requests.zip (serveAll hits requests)).filter fun p => p.1.target? = some e).map (·.2) =
      serveAll hits' (requests.filter fun r => r.target? = some e) := by
  induction requests generalizing hits hits' with
  | nil => rfl
  | cons r rest ih =>
    obtain ⟨hanswer, hnext⟩ := serve_eq hits r
    obtain ⟨hanswer', hnext'⟩ := serve_eq hits' r
    rw [serveAll_cons, List.zip_cons_cons]
    by_cases htarget : r.target? = some e
    · have hsame : r.answerAfter hits.count = r.answerAfter hits'.count := by
        refine r.answerAfter_congr fun f hf => ?_
        have htarget' := target?_of_counted? hf
        rw [htarget] at htarget'
        rw [← Option.some.inj htarget', hcount]
      have hrest : (serve hits r).1.count e = (serve hits' r).1.count e := by
        rw [hnext, hnext', hcount]
      rw [List.filter_cons_of_pos (by simpa using htarget), List.map_cons,
        List.filter_cons_of_pos (by simpa using htarget), serveAll_cons, ih hrest, hanswer,
        hanswer', hsame]
    · have hcounted : r.counted? ≠ some e := fun h => htarget (target?_of_counted? h)
      have hrest : (serve hits r).1.count e = hits'.count e := by
        rw [hnext, if_neg hcounted, hcount, Nat.add_zero]
      rw [List.filter_cons_of_neg (by simpa using htarget),
        List.filter_cons_of_neg (by simpa using htarget)]
      exact ih hrest

end run

/-- What the requests of one window are answered. Only valid requests to an endpoint are counted
for it, and each counter holds for its own endpoint alone. -/
structure IsolatedLimits (requests : List Request) (answers : List Served) : Prop where
  length : answers.length = requests.length
  invalid : ∀ (i : Nat) (r : Request) (e : Endpoint) (answer : Answer),
    requests[i]? = some r → r.target? = some e → r.job = .error answer →
      answers[i]? = some ⟨answer, []⟩ ∧ ((∃ issues, answer = .invalid issues) ∨
        (r.body = .unreadable ∧ answer = .refused .unreadableBody))
  limited : ∀ (i : Nat) (r : Request) (e : Endpoint) (job : Job),
    requests[i]? = some r → r.target? = some e → r.job = .ok job →
      ((∃ served, answers[i]? = some served ∧ served.answer.status = 429) ↔
        e.limit ≤ uses e (requests.take i))
  unlimited : ∀ (i : Nat) (r : Request), requests[i]? = some r →
    (∀ e, r.counted? = some e → uses e (requests.take i) < e.limit) → answers[i]? = some r.alone
  separate : ∀ e : Endpoint,
    ((requests.zip answers).filter fun p => p.1.target? = some e).map (·.2) =
      serveAll {} (requests.filter fun r => r.target? = some e)

theorem serveAll_isolated (requests : List Request) :
    IsolatedLimits requests (serveAll {} requests) := by
  have hanswer : ∀ (i : Nat) (r : Request), requests[i]? = some r → (serveAll {} requests)[i]? =
      some (r.answerAfter fun e => uses e (requests.take i)) := by
    intro i r hr
    have hzero : ∀ e : Endpoint, Hits.count {} e = 0 := fun e => by cases e <;> rfl
    simp only [getElem?_serveAll, hr, Option.map_some, hzero, Nat.zero_add]
  constructor
  case length => exact length_serveAll {} requests
  case invalid =>
    intro i r e answer hr htarget hjob
    rw [hanswer i r hr, Request.answerAfter, counted?_of_error hjob]
    have herror := hjob
    rw [Request.job_of_target? htarget] at herror
    exact ⟨congrArg some (Request.alone_of_error hjob (Request.verb_of_target? htarget)),
      Body.job_error herror⟩
  case limited =>
    intro i r e job hr htarget hjob
    have hcounted := (counted?_of_ok hjob).trans htarget
    have hendpoint := (Request.endpoint?_of_job hjob).trans htarget
    have hstatus := Job.run_status_ne r.web job
    simp only [hanswer i r hr, Request.answerAfter, hcounted, Option.some.injEq, exists_eq_left',
      Request.alone_of_counted hjob hendpoint (Request.verb_of_target? htarget)]
    by_cases hspent : e.limit ≤ uses e (requests.take i)
    · rw [if_pos hspent]
      exact iff_of_true rfl hspent
    · rw [if_neg hspent]
      exact iff_of_false hstatus hspent
  case unlimited =>
    intro i r hr hfree
    rw [hanswer i r hr, Request.answerAfter]
    cases hcounted : r.counted? with
    | none => rfl
    | some e =>
      have hlt := hfree e hcounted
      simp only [if_neg (Nat.not_le.mpr hlt)]
  case separate => exact fun e => filter_serveAll rfl requests

end PageClip
