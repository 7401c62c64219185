import Mathlib.Data.List.Chain
import PageClip.Proofs.PageResponse

/-! The turns of a download. In each turn one checked URL is handed to the client, and a redirect
leads to the next turn while its target is checked and the bound allows it. -/

namespace PageClip

/-- A URL that was handed to the client, and what the client gave back. -/
structure Turn where
  url : Text
  reply : Except FetchError Response

/-- What the network answers next. -/
def nextAnswer : List Reply → Except FetchError Response
  | [] => .error (.client .connect "no scripted response".toList)
  | .fault fault message :: _ => .error (.client fault message)
  | .response r :: _ => .ok r

/-- What the client gives back for a URL, `script` being what the network still has to say. -/
def clientReply (url : Text) (script : List Reply) : Except FetchError Response := do
  let _ ← requestFor url
  let r ← nextAnswer script
  r.checkRedirect
  return r

/-- The URL that a redirect leads to, unless it is rejected. -/
def redirectedUrl (dns : Resolver) (url : Text) (r : Response) : Except Rejection Text := do
  let target ← (joinUrl url ((r.header? "location").getD [])).mapError .malformed
  checkUrl dns target
  return target

namespace Turn

/-- The request that the client sends, unless the URL is none it can send one for. -/
def request? (t : Turn) : Option Text := (requestFor t.url).toOption.map RequestUrl.text

/-- The URL of the next turn, if there may be one. -/
def next? (dns : Resolver) (t : Turn) : Option Text :=
  match t.reply with
  | .ok r => if r.isRedirect then (redirectedUrl dns t.url r).toOption else none
  | .error _ => none

/-- What comes of a download that ends with the turn. -/
def outcome (codecs : Codecs) (dns : Resolver) (t : Turn) : Except FetchError Text :=
  match t.reply with
  | .error e => .error e
  | .ok r =>
    if r.isRedirect then
      match redirectedUrl dns t.url r with
      | .error e => .error (.rejected e)
      | .ok _ => .error .tooManyRedirects
    else if r.isSuccess then r.unpacked.readHtml codecs
    else .error (.status r.status)

end Turn

def turnsFrom (dns : Resolver) : (budget : Nat) → (url : Text) → List Reply → List Turn
  | 0, _, _ => []
  | budget + 1, url, script =>
    let turn : Turn := ⟨url, clientReply url script⟩
    turn :: match turn.next? dns with
      | some next => turnsFrom dns budget next script.tail
      | none => []

/-- Turns as they come about: the bound is reached, or a turn does not lead on, or it does. -/
inductive Turns (dns : Resolver) : Nat → Text → List Reply → List Turn → Prop where
  | spent {url script} : Turns dns 0 url script []
  | last {budget url script} : Turn.next? dns ⟨url, clientReply url script⟩ = none →
      Turns dns (budget + 1) url script [⟨url, clientReply url script⟩]
  | more {budget url next script turns} :
      Turn.next? dns ⟨url, clientReply url script⟩ = some next →
      Turns dns budget next script.tail turns →
      Turns dns (budget + 1) url script (⟨url, clientReply url script⟩ :: turns)

def fetchTurns (dns : Resolver) (url : Text) (script : List Reply) : List Turn :=
  match checkUrl dns url with
  | .error _ => []
  | .ok () => turnsFrom dns (maxRedirects + 1) url script

/-- What comes of a download that took these turns. -/
def lastOutcome (codecs : Codecs) (dns : Resolver) (turns : List Turn) : Except FetchError Text :=
  (turns.getLast?.map (Turn.outcome codecs dns)).getD (.error .tooManyRedirects)

/-- Which URLs a download hands to the client and why, how often it does, and when a text comes
of it. -/
structure SafeRun (codecs : Codecs) (dns : Resolver) (url : Text) (script : List Reply)
    (turns : List Turn) (run : FetchRun) : Prop where
  requests : run.requests = turns.filterMap Turn.request?
  replies : ∀ i (hi : i < turns.length), turns[i].reply = clientReply turns[i].url (script.drop i)
  accepted : ∀ t ∈ turns, checkUrl dns t.url = .ok ()
  first : checkUrl dns url = .ok () → turns.head?.map Turn.url = some url
  redirected : turns.IsChain fun t u => ∃ r, t.reply = .ok r ∧ r.isRedirect = true ∧
    joinUrl t.url ((r.header? "location").getD []) = .ok u.url
  bounded : turns.length ≤ maxRedirects + 1 ∧ run.requests.length ≤ maxRedirects + 1
  start_rejected : ∀ e, checkUrl dns url = .error e →
    turns = [] ∧ run.requests = [] ∧ run.outcome = .error (.rejected e)
  target_rejected : ∀ before t after r e, turns = before ++ t :: after → t.reply = .ok r →
    r.isRedirect = true → redirectedUrl dns t.url r = .error e →
    after = [] ∧ run.outcome = .error (.rejected e)
  exhausted : ∀ before t r target, turns = before ++ [t] → t.reply = .ok r → r.isRedirect = true →
    redirectedUrl dns t.url r = .ok target →
    turns.length = maxRedirects + 1 ∧ run.outcome = .error .tooManyRedirects
  answered : ∀ text, run.outcome = .ok text ↔ ∃ before t r, turns = before ++ [t] ∧
    (∀ u ∈ before, ∃ r, u.reply = .ok r ∧ 300 ≤ r.status ∧ r.status < 400) ∧
    t.reply = .ok r ∧ 200 ≤ r.status ∧ r.status < 300 ∧ r.unpacked.IsPage codecs text

section step
variable {codecs : Codecs} {dns : Resolver} {url target : Text} {script : List Reply} {r : Response}
  {t : Turn}

/-- The client finds fault with the target of a redirect only. -/
theorem isRedirect_of_checkRedirect {e : FetchError} (h : r.checkRedirect = .error e) :
    r.isRedirect = true := by
  rw [Response.checkRedirect] at h
  split at h
  · rename_i hstatus _
    simp only [inspectedStatuses, List.contains_eq_mem, decide_eq_true_eq, List.mem_cons,
      List.not_mem_nil, or_false] at hstatus
    rw [isRedirect_iff]
    omega
  · cases h

theorem redirectTarget_eq (h : r.checkRedirect = .ok ()) :
    redirectTarget dns url r = (redirectedUrl dns url r).mapError .rejected := by
  cases hjoin : joinUrl url ((r.header? "location").getD []) with
  | error f =>
    simp only [redirectTarget, redirectedUrl, h, hjoin]
    rfl
  | ok target =>
    simp only [redirectTarget, redirectedUrl, h, hjoin]
    change ((checkUrl dns target).mapError FetchError.rejected >>= fun _ => .ok target) =
      (checkUrl dns target >>= fun _ => .ok target).mapError FetchError.rejected
    cases checkUrl dns target <;> rfl

theorem redirectedUrl_ok_iff {target : Text} :
    redirectedUrl dns url r = .ok target ↔
      joinUrl url ((r.header? "location").getD []) = .ok target ∧ checkUrl dns target = .ok () := by
  constructor
  · intro h
    obtain ⟨target', hjoin, h⟩ := bind_eq_ok.mp h
    obtain ⟨⟨⟩, hcheck, h⟩ := bind_eq_ok.mp h
    obtain rfl := Except.ok.inj h
    exact ⟨mapError_eq_ok.mp hjoin, hcheck⟩
  · rintro ⟨hjoin, hcheck⟩
    exact bind_eq_ok.mpr ⟨target, mapError_eq_ok.mpr hjoin, bind_eq_ok.mpr ⟨(), hcheck, rfl⟩⟩

theorem fetchFrom_succ_eq (codecs : Codecs) (dns : Resolver) (budget : Nat) (url : Text)
    (script : List Reply) : fetchFrom codecs dns (budget + 1) url script =
      match requestFor url with
      | .error e => .stop (.error e)
      | .ok target =>
        .after target.text <|
          match nextAnswer script with
          | .error e => .stop (.error e)
          | .ok r =>
            if r.isRedirect then
              match redirectTarget dns url r with
              | .error e => .stop (.error e)
              | .ok next => fetchFrom codecs dns budget next script.tail
            else if r.isSuccess then .stop (r.unpacked.readHtml codecs)
            else .stop (.error (.status r.status)) := by
  cases script with
  | nil => rfl
  | cons reply rest => cases reply <;> rfl

/-- The request and the answer of one turn are all that a step of the download uses. -/
theorem fetchFrom_succ (codecs : Codecs) (dns : Resolver) (budget : Nat) (url : Text)
    (script : List Reply) : fetchFrom codecs dns (budget + 1) url script =
      let turn : Turn := ⟨url, clientReply url script⟩
      match turn.next? dns with
      | some next =>
        ⟨turn.request?.toList ++ (fetchFrom codecs dns budget next script.tail).requests,
          (fetchFrom codecs dns budget next script.tail).outcome⟩
      | none => ⟨turn.request?.toList, turn.outcome codecs dns⟩ := by
  rw [fetchFrom_succ_eq]
  cases hreq : requestFor url with
  | error e =>
    have hreply : clientReply url script = .error e := by
      simp only [clientReply, hreq, bind, Except.bind]
    simp only [Turn.next?, Turn.request?, Turn.outcome, hreply, hreq]
    rfl
  | ok target =>
    cases hanswer : nextAnswer script with
    | error e =>
      have hreply : clientReply url script = .error e := by
        simp only [clientReply, hreq, hanswer, bind, Except.bind]
      simp only [Turn.next?, Turn.request?, Turn.outcome, hreply, hreq]
      rfl
    | ok r =>
      cases hcheck : r.checkRedirect with
      | error e =>
        have hreply : clientReply url script = .error e := by
          simp only [clientReply, hreq, hanswer, hcheck, bind, Except.bind]
        have htarget : redirectTarget dns url r = .error e := by
          simp only [redirectTarget, hcheck, bind, Except.bind]
        simp only [Turn.next?, Turn.request?, Turn.outcome, hreply, hreq,
          isRedirect_of_checkRedirect hcheck, htarget]
        rfl
      | ok u =>
        have hreply : clientReply url script = .ok r := by
          simp only [clientReply, hreq, hanswer, hcheck, bind, Except.bind, pure, Except.pure]
        simp only [Turn.next?, Turn.request?, Turn.outcome, hreply, hreq, redirectTarget_eq hcheck]
        cases hredirect : r.isRedirect with
        | false => cases hsuccess : r.isSuccess <;> rfl
        | true => cases hurl : redirectedUrl dns url r <;> rfl

theorem next?_eq_some_iff {next : Text} :
    t.next? dns = some next ↔ ∃ r, t.reply = .ok r ∧ r.isRedirect = true ∧
      joinUrl t.url ((r.header? "location").getD []) = .ok next ∧ checkUrl dns next = .ok () := by
  rw [Turn.next?]
  cases t.reply with
  | error e => simp
  | ok r =>
    simp only [Except.ok.injEq, exists_eq_left', ← redirectedUrl_ok_iff]
    cases r.isRedirect with
    | false => simp
    | true => cases redirectedUrl dns t.url r <;> simp [Except.toOption]

theorem outcome_of_next? {next : Text} (h : t.next? dns = some next) :
    t.outcome codecs dns = .error .tooManyRedirects := by
  obtain ⟨r, hreply, hredirect, hurl⟩ := next?_eq_some_iff.mp h
  simp only [Turn.outcome, hreply, hredirect, redirectedUrl_ok_iff.mpr hurl, if_true]

end step

section run
variable {codecs : Codecs} {dns : Resolver} {budget : Nat} {url next : Text} {script : List Reply}
  {t : Turn} {before turns : List Turn}

theorem turns_turnsFrom (dns : Resolver) (budget : Nat) (url : Text) (script : List Reply) :
    Turns dns budget url script (turnsFrom dns budget url script) := by
  induction budget generalizing url script with
  | zero => exact .spent
  | succ budget ih =>
    cases h : Turn.next? dns ⟨url, clientReply url script⟩ with
    | none =>
      simp only [turnsFrom, h]
      exact .last h
    | some next =>
      simp only [turnsFrom, h]
      exact .more h (ih next script.tail)

theorem lastOutcome_singleton : lastOutcome codecs dns [t] = t.outcome codecs dns := rfl

theorem lastOutcome_append_singleton :
    lastOutcome codecs dns (before ++ [t]) = t.outcome codecs dns := by
  simp [lastOutcome]

theorem lastOutcome_cons (h : t.next? dns = some next) :
    lastOutcome codecs dns (t :: turns) = lastOutcome codecs dns turns := by
  cases turns with
  | nil =>
    -- A turn that leads on is the last one only when the bound is reached.
    rw [lastOutcome_singleton, outcome_of_next? h]
    rfl
  | cons u turns => rfl

/-- The turns tell the whole run: what was requested, and what came of it. -/
theorem Turns.fetchFrom_eq (h : Turns dns budget url script turns) :
    fetchFrom codecs dns budget url script =
      ⟨turns.filterMap Turn.request?, lastOutcome codecs dns turns⟩ := by
  induction h with
  | spent => rfl
  | last hnext =>
    rw [fetchFrom_succ, lastOutcome_singleton]
    simp only [hnext, List.filterMap_cons, List.filterMap_nil]
    split <;> rename_i hrequest <;> rw [hrequest] <;> rfl
  | more hnext _ ih =>
    rw [fetchFrom_succ, lastOutcome_cons hnext]
    simp only [hnext, ih, List.filterMap_cons]
    split <;> rename_i hrequest <;> rw [hrequest] <;> rfl

theorem Turns.length_le (h : Turns dns budget url script turns) : turns.length ≤ budget := by
  induction h with
  | spent => exact Nat.le_refl 0
  | last _ => exact Nat.le_add_left 1 _
  | more _ _ ih => exact Nat.succ_le_succ ih

theorem Turns.head? (h : Turns dns budget url script turns) (ht : t ∈ turns.head?) :
    t.url = url := by
  cases h with
  | spent => cases ht
  | last _ => rw [← Option.some.inj ht]
  | more _ _ => rw [← Option.some.inj ht]

/-- Every URL was checked: the first by assumption, each later one before its turn was taken. -/
theorem Turns.accepted (h : Turns dns budget url script turns) (hurl : checkUrl dns url = .ok ()) :
    ∀ t ∈ turns, checkUrl dns t.url = .ok () := by
  induction h with
  | spent => simp
  | last _ => simpa using hurl
  | more hnext _ ih =>
    obtain ⟨_, _, _, _, htarget⟩ := next?_eq_some_iff.mp hnext
    rw [List.forall_mem_cons]
    exact ⟨hurl, ih htarget⟩

theorem Turns.isChain (h : Turns dns budget url script turns) :
    turns.IsChain fun t u => t.next? dns = some u.url := by
  induction h with
  | spent => exact .nil
  | last _ => exact .singleton _
  | more hnext hrest ih =>
    refine List.isChain_cons.mpr ⟨fun u hu => ?_, ih⟩
    rw [hnext, hrest.head? hu]

/-- Each turn uses up one reply of the script. -/
theorem Turns.reply_getElem (h : Turns dns budget url script turns) (i : Nat)
    (hi : i < turns.length) : turns[i].reply = clientReply turns[i].url (script.drop i) := by
  induction h generalizing i with
  | spent => exact absurd hi (Nat.not_lt_zero i)
  | last _ =>
    obtain rfl := Nat.lt_one_iff.mp hi
    rfl
  | more _ _ ih =>
    cases i with
    | zero => rfl
    | succ i =>
      simp only [List.getElem_cons_succ, ← List.drop_tail]
      exact ih i (Nat.lt_of_succ_lt_succ hi)

/-- Where the last turn leads on, only the bound has kept the next one off. -/
theorem Turns.length_eq (h : Turns dns budget url script turns) (hlast : turns.getLast? = some t)
    (hnext : t.next? dns = some next) : turns.length = budget := by
  induction h with
  | spent => rfl
  | last hnone =>
    obtain rfl := Option.some.inj hlast
    rw [List.getLast_singleton, hnone] at hnext
    cases hnext
  | more _ hrest ih =>
    -- With some budget left there is a next turn, and the last one is among those behind.
    refine congrArg (· + 1) ?_
    cases hrest with
    | spent => rfl
    | last _ => exact ih hlast
    | more _ _ => exact ih hlast

end run

section download
variable {codecs : Codecs} {dns : Resolver} {url : Text} {script : List Reply}
  {turns before after : List Turn} {t : Turn} {r : Response} {text : Text}

theorem outcome_ok_iff : t.outcome codecs dns = .ok text ↔
    ∃ r, t.reply = .ok r ∧ 200 ≤ r.status ∧ r.status < 300 ∧ r.unpacked.IsPage codecs text := by
  rw [Turn.outcome]
  cases t.reply with
  | error e => simp
  | ok r =>
    have hsplit : (200 ≤ r.status ∧ r.status < 300 ∧ r.unpacked.IsPage codecs text) ↔
        r.isSuccess = true ∧ r.unpacked.readHtml codecs = .ok text := by
      rw [isSuccess_iff, readHtml_ok_iff, and_assoc]
    simp only [Except.ok.injEq, exists_eq_left', hsplit]
    cases hsuccess : r.isSuccess with
    | true => simp [isRedirect_of_isSuccess hsuccess]
    | false => cases r.isRedirect <;> simp; cases redirectedUrl dns t.url r <;> simp

theorem lastOutcome_ok_iff : lastOutcome codecs dns turns = .ok text ↔
    ∃ before t, turns = before ++ [t] ∧ t.outcome codecs dns = .ok text := by
  constructor
  · intro h
    cases hlast : turns.getLast? with
    | none =>
      rw [lastOutcome, hlast] at h
      cases h
    | some t =>
      rw [lastOutcome, hlast] at h
      exact ⟨turns.dropLast, t, (List.dropLast_append_getLast? t hlast).symm, h⟩
  · rintro ⟨before, t, rfl, h⟩
    rwa [lastOutcome_append_singleton]

theorem exists_next_of_mem (hchain : (before ++ [t]).IsChain fun t u => t.next? dns = some u.url)
    {u : Turn} (hu : u ∈ before) : ∃ next, u.next? dns = some next := by
  obtain ⟨a, b, rfl⟩ := List.append_of_mem hu
  obtain ⟨v, rest, hrest⟩ := List.exists_cons_of_ne_nil (List.append_ne_nil_of_right_ne_nil b
    (List.cons_ne_nil t []))
  rw [List.append_assoc, List.cons_append, hrest] at hchain
  exact ⟨v.url, (List.isChain_append_cons_cons.mp hchain).2.1⟩

theorem eq_nil_of_next?
    (hchain : (before ++ t :: after).IsChain fun t u => t.next? dns = some u.url)
    (h : t.next? dns = none) : after = [] := by
  cases after with
  | nil => rfl
  | cons u rest =>
    rw [(List.isChain_append_cons_cons.mp hchain).2.1] at h
    cases h

theorem safeRun_of_accepted (h : checkUrl dns url = .ok ()) :
    SafeRun codecs dns url script (fetchTurns dns url script)
      (fetchHtml codecs dns url script) := by
  have hfetch : fetchHtml codecs dns url script =
      fetchFrom codecs dns (maxRedirects + 1) url script := by
    rw [fetchHtml, h]
  have hfrom : fetchTurns dns url script = turnsFrom dns (maxRedirects + 1) url script := by
    rw [fetchTurns, h]
  have hturns := turns_turnsFrom dns (maxRedirects + 1) url script
  have hrun := hfetch.trans hturns.fetchFrom_eq
  have hchain := hturns.isChain
  rw [hfrom]
  constructor
  case requests => rw [hrun]
  case replies => exact hturns.reply_getElem
  case accepted => exact hturns.accepted h
  case first => exact fun _ => rfl
  case redirected =>
    refine hchain.imp fun t u htu => ?_
    obtain ⟨r, hreply, hredirect, hjoin, _⟩ := next?_eq_some_iff.mp htu
    exact ⟨r, hreply, hredirect, hjoin⟩
  case bounded =>
    rw [hrun]
    exact ⟨hturns.length_le, Nat.le_trans (List.length_filterMap_le ..) hturns.length_le⟩
  case start_rejected =>
    intro e he
    rw [h] at he
    cases he
  case target_rejected =>
    intro before t after r e hsplit hreply hredirect htarget
    have hnext : t.next? dns = none := by
      simp only [Turn.next?, hreply, hredirect, htarget, if_true, Except.toOption]
    have houtcome : t.outcome codecs dns = .error (.rejected e) := by
      simp only [Turn.outcome, hreply, hredirect, htarget, if_true]
    rw [hsplit] at hchain
    obtain rfl := eq_nil_of_next? hchain hnext
    rw [hrun, hsplit, lastOutcome_append_singleton]
    exact ⟨rfl, houtcome⟩
  case exhausted =>
    intro before t r target hsplit hreply hredirect htarget
    have hnext : t.next? dns = some target :=
      next?_eq_some_iff.mpr ⟨r, hreply, hredirect, redirectedUrl_ok_iff.mp htarget⟩
    have hlast : (turnsFrom dns (maxRedirects + 1) url script).getLast? = some t := by
      rw [hsplit, List.getLast?_concat]
    refine ⟨hturns.length_eq hlast hnext, ?_⟩
    rw [hrun, hsplit, lastOutcome_append_singleton]
    exact outcome_of_next? hnext
  case answered =>
    intro text
    rw [hrun, lastOutcome_ok_iff]
    constructor
    · rintro ⟨before, t, hsplit, htext⟩
      rw [hsplit] at hchain
      obtain ⟨r, hreply, hpage⟩ := outcome_ok_iff.mp htext
      refine ⟨before, t, r, hsplit, fun u hu => ?_, hreply, hpage⟩
      obtain ⟨next, hnext⟩ := exists_next_of_mem hchain hu
      obtain ⟨r, hreply, hredirect, _⟩ := next?_eq_some_iff.mp hnext
      exact ⟨r, hreply, isRedirect_iff.mp hredirect⟩
    · rintro ⟨before, t, r, hsplit, _, hreply, hpage⟩
      exact ⟨before, t, hsplit, outcome_ok_iff.mpr ⟨r, hreply, hpage⟩⟩

theorem safeRun_of_rejected {e : Rejection} (h : checkUrl dns url = .error e) :
    SafeRun codecs dns url script (fetchTurns dns url script)
      (fetchHtml codecs dns url script) := by
  have hturns : fetchTurns dns url script = [] := by rw [fetchTurns, h]
  have hrun : fetchHtml codecs dns url script = .stop (.error (.rejected e)) := by rw [fetchHtml, h]
  rw [hturns, hrun]
  constructor
  case requests => rfl
  case replies => exact fun i hi => absurd hi (Nat.not_lt_zero i)
  case accepted => simp
  case first => simp [h]
  case redirected => exact .nil
  case bounded => exact ⟨Nat.zero_le _, Nat.zero_le _⟩
  case start_rejected =>
    intro e' he
    rw [h] at he
    obtain rfl := Except.error.inj he
    exact ⟨rfl, rfl, rfl⟩
  case target_rejected => simp
  case exhausted => simp
  case answered => simp [FetchRun.stop]

end download

/-- Every download is safe, whatever the hosts resolve to and whatever the network answers. -/
theorem fetchHtml_safe (codecs : Codecs) (dns : Resolver) (url : Text) (script : List Reply) :
    SafeRun codecs dns url script (fetchTurns dns url script)
      (fetchHtml codecs dns url script) := by
  cases h : checkUrl dns url with
  | error e => exact safeRun_of_rejected h
  | ok u => exact safeRun_of_accepted h

-- A redirect to a host of the own network ends the run before a second request.
example (codecs : Codecs) : (fetchHtml codecs [("b".toList, ["127.0.0.1".toList])]
    "http://a/".toList [.response ⟨302, [("location".toList, "//b/".toList)], [], none⟩,
      .response ⟨200, [], [[60]], none⟩]).requests = ["http://a/".toList] := by
  rfl

end PageClip
