import SesSender.Spec.Http
import SesSender.Proofs.Attribution

/-! What a caller without the key can do: nothing but ask for rows of
`email_results`, one for each call. -/

namespace Ses

open Calendar

variable {E : Env} {H : HttpEnv} {s t : Sys}

/-! ## The key -/

/-- The first header of the name holds the configured key, and there is one. -/
def HttpRequest.hasKey (H : HttpEnv) (req : HttpRequest) : Bool :=
  decide (H.apiKey ≠ "") && decide ((req.headers.get API_KEY_HEADER).bind toStr = some H.apiKey)

theorem apiKeyAuth_toOption (H : HttpEnv) (req : HttpRequest) :
    (apiKeyAuth H req).toOption = if req.hasKey H then some () else none := by
  unfold apiKeyAuth HttpRequest.hasKey
  cases hkey : (req.headers.get API_KEY_HEADER).bind toStr with
  | none => simp [Except.toOption]
  | some key =>
    by_cases hempty : H.apiKey = ""
    · by_cases hk : key = "" <;> simp [hk, hempty, Except.toOption]
    · by_cases hk : key = H.apiKey
      · simp [hk, hempty, Except.toOption]
      · by_cases hk' : key = ""
        · simp [hk', Ne.symm hempty, Except.toOption]
        · simp [hk, hk', Except.toOption]

/-! ## What the public endpoints leave alone -/

/-- The steps of the two public endpoints. -/
def Event.isPublic : Event → Bool
  | .notify _ _ => true
  | .getOpen _ => true
  | .saveResult _ _ => true
  | _ => false

/-- The state without `email_results`, written or about to be. -/
def Sys.forget (s : Sys) : Sys :=
  { s with db := { s.db with results := Table.empty }, pending := [] }

/-- No other step reads `email_results`. -/
theorem Sys.step_forget {e : Event} (he : e.isPublic = false) :
    s.forget.step E e = (s.step E e).map Sys.forget := by
  cases e with
  | tick => grind [Sys.step, Sys.forget]
  | saveContents => grind [Sys.step, Sys.saveContents, Sys.forget, Sys.setHandler]
  | saveRequests => grind [Sys.step, Sys.saveRequests, Sys.forget, Sys.setHandler]
  | handOff i o =>
    have hi : s.forget.handlers[i]? = s.handlers[i]? := rfl
    simp only [Sys.step, Sys.handOff, hi]
    split
    · cases o <;> grind [Sys.forget, Sys.setHandler, Sys.accept]
    · rfl
  | sendBlocked => grind [Sys.step, Sys.sendBlocked, Sys.forget, Sys.setHandler, Sys.accept]
  | rollback => grind [Sys.step, Sys.rollback, Sys.forget, Sys.setHandler]
  | dropHandler => grind [Sys.step, Sys.forget, Sys.setHandler]
  | claimBatch => grind [Sys.step, Sys.claimBatch, Sys.forget, Sys.setScheduler]
  | fetchContents =>
    have hsel : ∀ ids, selectScheduled s.forget.db ids = selectScheduled s.db ids := fun _ => rfl
    grind [Sys.step, Sys.fetchContents, Sys.forget, Sys.setScheduler]
  | schedulerSend => grind [Sys.step, Sys.schedulerSend, Sys.forget, Sys.setScheduler, Sys.accept]
  | stopTopic => grind [Sys.step, Sys.forget]
  | recv => grind [Sys.step, Sys.recv, Sys.forget]
  | spawnTask => grind [Sys.step, Sys.spawnTask, Sys.forget]
  | callSes => grind [Sys.step, Sys.callSes, Sys.forget, Sys.setTask]
  | sesReturn => grind [Sys.step, Sys.sesReturn, Sys.forget, Sys.setTask]
  | postSend => grind [Sys.step, Sys.postSend, Sys.forget, Sys.setTask]
  | postRecv => grind [Sys.step, Sys.postRecv, Sys.forget]
  | postTimeout => grind [Sys.step, Sys.postTimeout, Sys.forget]
  | postClosed => grind [Sys.step, Sys.postClosed, Sys.forget]
  | flushBulk => grind [Sys.step, Sys.flushBulk, Sys.forget]
  | flushOne => grind [Sys.step, Sys.flushOne, Sys.forget]
  | notify => cases he
  | getOpen => cases he
  | saveResult => cases he
  | _ => rfl

theorem Sys.Step.forget_eq {e : Event} (hs : s.Step E e t) (he : e.isPublic = true) :
    t.forget = s.forget := by
  cases hs with
  | notifyRefused => rfl
  | notified => rfl
  | openRefused => rfl
  | opened => rfl
  | resultSaved => rfl
  | resultRefused => rfl
  | _ => cases he

/-! ## Calls without the key -/

/-- The handlers that `api_key_auth` stands before. -/
def Endpoint.guarded : Endpoint → Bool
  | .createMessage => true
  | .getTopic _ => true
  | .stopTopic _ => true
  | .getSentCount => true
  | _ => false

theorem app_auth {method : Method} {path : List String} {route : Route}
    (h : app method path = some route) : route.auth = route.endpoint.guarded := by
  have hsome : ∀ {r : Route}, some r = some route → r.auth = r.endpoint.guarded →
      route.auth = route.endpoint.guarded := by
    intro r hr hguarded
    exact Option.some.inj hr ▸ hguarded
  unfold app at h
  split at h
  · split_ifs at h
    exact hsome h rfl
  · split_ifs at h
    exact hsome h rfl
  · split_ifs at h
    exact hsome h rfl
  · split_ifs at h
    · exact hsome h rfl
    · exact hsome h rfl
  · split_ifs at h
    exact hsome h rfl
  · split_ifs at h
    exact hsome h rfl
  · split_ifs at h
    exact hsome h rfl
  · cases h

/-- A call with the key of a route that asks for it, or a step of the process
outside the two public endpoints. -/
def HttpEvent.keyed (H : HttpEnv) : HttpEvent → Bool
  | .call req _ _ => req.hasKey H && (app req.method req.path).any (·.auth)
  | .sys e => !e.isPublic

theorem HttpRequest.reaches_guarded {req : HttpRequest} {endpoint : Endpoint}
    (h : req.reaches H = some endpoint) :
    endpoint.guarded = (req.hasKey H && (app req.method req.path).any (·.auth)) := by
  obtain ⟨route, happ, hroute⟩ := Option.bind_eq_some_iff.1 h
  rw [happ, Option.any_some]
  have hauth := app_auth happ
  cases hr : route.auth with
  | false =>
    rw [hr, if_neg Bool.false_ne_true] at hroute
    obtain rfl := Option.some.inj hroute
    rw [Bool.and_false, ← hauth, hr]
  | true =>
    rw [hr, if_pos rfl, apiKeyAuth_toOption] at hroute
    obtain ⟨u, hkey, rfl⟩ := Option.map_eq_some_iff.1 hroute
    cases hhas : req.hasKey H with
    | false => rw [hhas, if_neg Bool.false_ne_true] at hkey; cases hkey
    | true => rw [← hauth, hr, Bool.and_true]

theorem Endpoint.event_isPublic {req : HttpRequest} {bodyFails ok : Bool} {endpoint : Endpoint}
    {e : Event} (h : endpoint.event H req bodyFails ok = some e) :
    e.isPublic = !endpoint.guarded := by
  cases endpoint with
  | createMessage =>
    obtain ⟨payload, -, rfl⟩ := Option.map_eq_some_iff.1 h
    rfl
  | stopTopic segment =>
    obtain ⟨topicId, -, hsome⟩ := Option.bind_eq_some_iff.1 h
    split_ifs at hsome
    obtain rfl := Option.some.inj hsome
    rfl
  | trackOpen =>
    obtain rfl := Option.some.inj h
    rfl
  | handleSnsEvent =>
    simp only [Endpoint.event] at h
    split at h
    · obtain rfl := Option.some.inj h
      rfl
    · cases h
  | _ => cases h

/-- What the call sets off in the process. -/
def HttpEvent.event (H : HttpEnv) : HttpEvent → Option Event
  | .call req bodyFails ok => req.event H bodyFails ok
  | .sys e => some e

theorem HttpEvent.event_isPublic {e : HttpEvent} {ev : Event} (h : e.event H = some ev) :
    ev.isPublic = !e.keyed H := by
  cases e with
  | call req bodyFails ok =>
    obtain ⟨endpoint, hreach, hev⟩ := Option.bind_eq_some_iff.1 h
    rw [Endpoint.event_isPublic hev, HttpRequest.reaches_guarded hreach]
    rfl
  | sys e =>
    obtain rfl := Option.some.inj h
    simp [HttpEvent.keyed]

/-- Serving is a step of the process, or nothing. -/
theorem serve_cases {e : HttpEvent} (h : Sys.serve E H s e = some t) :
    (e.event H = none ∧ t = s) ∨ ∃ ev, e.event H = some ev ∧ s.step E ev = some t := by
  cases e with
  | call req bodyFails ok =>
    change (req.event H bodyFails ok).elim (some s) (s.step E) = some t at h
    cases hev : req.event H bodyFails ok with
    | none =>
      rw [hev] at h
      exact Or.inl ⟨hev, (Option.some.inj h).symm⟩
    | some ev =>
      rw [hev] at h
      exact Or.inr ⟨ev, hev, h⟩
  | sys e =>
    change (if e.entry then none else s.step E e) = some t at h
    split_ifs at h
    exact Or.inr ⟨e, rfl, h⟩

/-- A keyed event does to a state that forgets what it does to the whole one. -/
theorem serve_forget {e : HttpEvent} (hkey : e.keyed H = true) (h : Sys.serve E H s e = some t) :
    Sys.serve E H s.forget e = some t.forget := by
  have hstep : ∀ {ev : Event}, e.event H = some ev → s.step E ev = some t →
      s.forget.step E ev = some t.forget := by
    intro ev hev hs
    have hp : ev.isPublic = false := by rw [HttpEvent.event_isPublic hev, hkey]; rfl
    rw [Sys.step_forget hp, hs, Option.map_some]
  rcases serve_cases h with ⟨hev, rfl⟩ | ⟨ev, hev, hs⟩
  · cases e with
    | call req bodyFails ok =>
      change (req.event H bodyFails ok).elim _ _ = _
      rw [show req.event H bodyFails ok = none from hev, Option.elim_none]
    | sys => cases hev
  · cases e with
    | call req bodyFails ok =>
      change (req.event H bodyFails ok).elim _ _ = _
      rw [show req.event H bodyFails ok = some ev from hev, Option.elim_some]
      exact hstep hev hs
    | sys e =>
      obtain rfl := Option.some.inj hev
      change (if e.entry then none else s.step E e) = some t at h
      change (if e.entry then none else s.forget.step E e) = some t.forget
      split_ifs at h ⊢
      exact hstep rfl hs

/-- Every other event does nothing to it. -/
theorem serve_unkeyed {e : HttpEvent} (hkey : e.keyed H = false)
    (h : Sys.serve E H s e = some t) : t.forget = s.forget := by
  rcases serve_cases h with ⟨-, rfl⟩ | ⟨ev, hev, hs⟩
  · rfl
  · refine (Sys.Step.of_step hs).forget_eq ?_
    rw [HttpEvent.event_isPublic hev, hkey]
    rfl

/-- Calls without the key leave no trace outside `email_results`: without them,
and without every call of the public endpoints, the rest of the run goes through
and reaches the same state. -/
theorem unkeyed_calls_leave_no_trace {now₀ : Instant} {evs : List HttpEvent}
    (hrun : Served E H now₀ evs t) : Served E H now₀ (evs.filter (HttpEvent.keyed H)) t.forget := by
  have hstep : ∀ {s : Sys} {e : HttpEvent} {t : Sys}, Sys.serve E H s e = some t →
      Exec.run (Sys.serve E H) s.forget (if e.keyed H then some e else none).toList =
        some t.forget := by
    intro s e t h
    cases hkey : e.keyed H with
    | true => exact Exec.run_cons.2 ⟨t.forget, serve_forget hkey h, rfl⟩
    | false =>
      rw [if_neg Bool.false_ne_true, serve_unkeyed hkey h]
      rfl
  rw [← List.filterMap_eq_filter]
  exact Exec.run_project hstep hrun

def sampleHttp : HttpEnv where
  apiKey := "k"
  payload req := if req.body = [1] then some (sampleMail "a" none) else none
  topicId := some
  fromSlice _ := none

/-- A call of `create_message` with the key, one without, and an open. -/
def sampleCalls : List HttpEvent :=
  [.call ⟨.post, ["v1", "messages"], "", [("x-api-key", [107])], [1]⟩ false true,
    .call ⟨.post, ["v1", "messages"], "", [], [1]⟩ false true] ++
  (saving 0).map .sys ++
  [.call ⟨.get, ["v1", "events", "open"], "request_id=1", [], []⟩ false true,
    .sys (.saveResult 0 true)]

theorem unkeyed_calls_leave_no_trace_sample :
    ∃ t, Served sampleEnv sampleHttp newYear sampleCalls t ∧ t.db.results.rows.length = 1 ∧
      (sampleCalls.filter (HttpEvent.keyed sampleHttp)).length = 3 ∧
      Served sampleEnv sampleHttp newYear (sampleCalls.filter (HttpEvent.keyed sampleHttp))
        t.forget := by
  obtain ⟨t, ht, h⟩ := Exec.exists_of_any (Sys.serve sampleEnv sampleHttp) (Sys.init newYear)
    sampleCalls (fun t => decide (t.db.results.rows.length = 1)) (by decide)
  exact ⟨t, ht, of_decide_eq_true h, by decide, unkeyed_calls_leave_no_trace ht⟩

/-! ## Where results come from -/

def HttpEvent.request : HttpEvent → Option HttpRequest
  | .call req _ _ => some req
  | .sys _ => none

/-- The call came, in this run, to a process with these requests in its table. -/
def CameTo (E : Env) (H : HttpEnv) (now₀ : Instant) (evs : List HttpEvent) (req : HttpRequest)
    (requests : Table RequestRow) : Prop :=
  ∃ pre bodyFails ok post s, evs = pre ++ .call req bodyFails ok :: post ∧
    Served E H now₀ pre s ∧ s.db.requests = requests

/-- The call brings this result, given the tables it may have come to. A notification
is for the request whose row carried the message id of its mail there. -/
inductive HttpRequest.Brings (E : Env) (H : HttpEnv)
    (came : HttpRequest → Table RequestRow → Prop) (req : HttpRequest) : EmailResult → Prop where
  | opened {r} (reaches : req.reaches H = some .trackOpen)
      (read : (E.openQuery req.query).bind openResult = some r) : Brings E H came req r
  | notified {r message messageId n m requests row} (reaches : req.reaches H = some .handleSnsEvent)
      (read : snsMessage H false req = .ok (.notification message messageId))
      (parsed : E.sesNotification message = some n) (mail : n.mailMessageId = some m)
      (table : came req requests) (found : requests.get? r.requestId.toInt = some row)
      (carried : row.messageId = some m) (status : r.status = n.eventType)
      (raw : r.raw = some message) : Brings E H came req r

def EmailResult.IsRow (r : EmailResult) (row : ResultRow) : Prop :=
  row.requestId = r.requestId.toInt ∧ row.status = r.status ∧ row.raw = r.raw

theorem snsMessage_ok {req : HttpRequest} {bodyFails : Bool} {m : SnsMessage}
    (h : snsMessage H bodyFails req = .ok m) : snsMessage H false req = .ok m := by
  simp only [snsMessage] at h ⊢
  split at h
  · cases h
  · rename_i htype
    split at h
    · cases h
    · rename_i hbody
      rw [not_or] at hbody
      rw [if_neg htype, if_neg (not_or.2 ⟨Bool.false_ne_true, hbody.2⟩)]
      exact h

section Owed

variable {came : HttpRequest → Table RequestRow → Prop}

theorem HttpRequest.event_brings {req : HttpRequest} {bodyFails ok : Bool} {e : Event}
    (hcame : came req s.db.requests) (h : req.event H bodyFails ok = some e) (hs : s.Step E e t) :
    t.db.results = s.db.results ∧
      (t.pending = s.pending ∨ ∃ r, t.pending = s.pending ++ [r] ∧ req.Brings E H came r) := by
  obtain ⟨endpoint, hreach, hev⟩ := Option.bind_eq_some_iff.1 h
  cases endpoint with
  | createMessage =>
    obtain ⟨payload, -, rfl⟩ := Option.map_eq_some_iff.1 hev
    cases hs
    exact ⟨rfl, Or.inl rfl⟩
  | stopTopic segment =>
    obtain ⟨topicId, -, hsome⟩ := Option.bind_eq_some_iff.1 hev
    split_ifs at hsome
    obtain rfl := Option.some.inj hsome
    cases hs
    · exact ⟨rfl, Or.inl rfl⟩
    · exact ⟨rfl, Or.inl rfl⟩
  | trackOpen =>
    obtain rfl := Option.some.inj hev
    cases hs with
    | openRefused => exact ⟨rfl, Or.inl rfl⟩
    | opened read => exact ⟨rfl, Or.inr ⟨_, rfl, .opened hreach read⟩⟩
  | handleSnsEvent =>
    simp only [Endpoint.event] at hev
    split at hev
    · rename_i message messageId hread
      obtain rfl := Option.some.inj hev
      cases hs with
      | notifyRefused => exact ⟨rfl, Or.inl rfl⟩
      | notified lookup =>
        obtain ⟨n, m, row, hn, hm, hrow, hmid, hst, hraw⟩ := notificationResult_spec lookup
        exact ⟨rfl, Or.inr ⟨_, rfl,
          .notified hreach (snsMessage_ok hread) hn hm hcame hrow hmid hst hraw⟩⟩
    · cases hev
  | _ => cases hev

/-- Each result, written or about to be, is owed to one of the calls. -/
def Sys.Owed (E : Env) (H : HttpEnv) (came : HttpRequest → Table RequestRow → Prop) (s : Sys)
    (calls : List HttpRequest) : Prop :=
  ∃ (written : List (ResultRow × HttpRequest)) (waiting : List (EmailResult × HttpRequest)),
    written.map Prod.fst = s.db.results.rows.map Prod.snd ∧
    waiting.map Prod.fst = s.pending ∧
    (∀ p ∈ written, ∃ r, p.2.Brings E H came r ∧ r.IsRow p.1) ∧
    (∀ p ∈ waiting, p.2.Brings E H came p.1) ∧
    (written.map Prod.snd ++ waiting.map Prod.snd).Subperm calls

theorem Sys.Owed.mono {calls calls' : List HttpRequest} (h : s.Owed E H came calls)
    (hsub : calls.Subperm calls') (hresults : t.db.results = s.db.results)
    (hpending : t.pending = s.pending) : t.Owed E H came calls' := by
  obtain ⟨written, waiting, hw, hp, hwritten, hwaiting, hcalls⟩ := h
  exact ⟨written, waiting, hresults ▸ hw, hpending ▸ hp, hwritten, hwaiting, hcalls.trans hsub⟩

/-- A call that brings a result is one more to owe it to. -/
theorem Sys.Owed.bring {calls : List HttpRequest} {req : HttpRequest} {r : EmailResult}
    (h : s.Owed E H came calls) (hbrings : req.Brings E H came r)
    (hresults : t.db.results = s.db.results)
    (hpending : t.pending = s.pending ++ [r]) : t.Owed E H came (calls ++ [req]) := by
  obtain ⟨written, waiting, hw, hp, hwritten, hwaiting, hcalls⟩ := h
  refine ⟨written, waiting ++ [(r, req)], hresults ▸ hw, ?_, hwritten, ?_, ?_⟩
  · rw [hpending, List.map_append, hp]
    rfl
  · intro p hp'
    rcases List.mem_append.1 hp' with hp' | hp'
    · exact hwaiting p hp'
    · obtain rfl := List.mem_singleton.1 hp'
      exact hbrings
  · rw [List.map_append, ← List.append_assoc]
    exact List.Subperm.append hcalls (List.Subperm.refl [req])

/-- An `INSERT` moves a result from those that wait to those that are written, or drops it. -/
theorem Sys.Owed.save {calls : List HttpRequest} {k : ℕ} {ok : Bool} (h : s.Owed E H came calls)
    (hs : s.Step E (.saveResult k ok) t) : t.Owed E H came calls := by
  obtain ⟨written, waiting, hw, hp, hwritten, hwaiting, hcalls⟩ := h
  have herase : (waiting.eraseIdx k).map Prod.fst = s.pending.eraseIdx k := by
    rw [← hp, List.eraseIdx_map]
  have hleft : ∀ p ∈ waiting.eraseIdx k, p.2.Brings E H came p.1 :=
    fun p hp' => hwaiting p (List.mem_of_mem_eraseIdx hp')
  cases hs with
  | @resultSaved _ r results pending save =>
    obtain rfl := EmailResult.save_eq save
    rw [← hp, List.getElem?_map] at pending
    obtain ⟨⟨r', req⟩, hk, rfl⟩ := Option.map_eq_some_iff.1 pending
    obtain ⟨hlt, hget⟩ := List.getElem?_eq_some_iff.1 hk
    have hperm : (waiting.map Prod.snd).Perm (req :: (waiting.eraseIdx k).map Prod.snd) := by
      have := (List.getElem_cons_eraseIdx_perm hlt).symm.map Prod.snd
      rwa [hget] at this
    refine ⟨written ++ [(⟨r'.requestId.toInt, r'.status, r'.raw, s.now.stamp⟩, req)],
      waiting.eraseIdx k, ?_, herase, ?_, hleft, ?_⟩
    · rw [List.map_append, hw]
      simp [Table.append]
    · intro p hp'
      rcases List.mem_append.1 hp' with hp' | hp'
      · exact hwritten p hp'
      · obtain rfl := List.mem_singleton.1 hp'
        exact ⟨r', hwaiting _ (List.mem_of_getElem? hk), rfl, rfl, rfl⟩
    · refine (List.Perm.subperm_right ?_).1 hcalls
      rw [List.map_append, List.append_assoc]
      exact hperm.append_left _
  | resultRefused =>
    refine ⟨written, waiting.eraseIdx k, hw, herase, hwritten, hleft, ?_⟩
    have hsub : ((waiting.eraseIdx k).map Prod.snd).Sublist (waiting.map Prod.snd) :=
      (List.eraseIdx_sublist _ _).map _
    exact (List.Sublist.append_left hsub _).subperm.trans hcalls

theorem Sys.Owed.step {calls : List HttpRequest} {e : HttpEvent} (h : s.Owed E H came calls)
    (hcame : ∀ req, e.request = some req → came req s.db.requests)
    (hs : Sys.serve E H s e = some t) : t.Owed E H came (calls ++ e.request.toList) := by
  have hmore : calls.Subperm (calls ++ e.request.toList) :=
    (List.sublist_append_left _ _).subperm
  rcases serve_cases hs with ⟨-, rfl⟩ | ⟨ev, hev, hstep⟩
  · exact h.mono hmore rfl rfl
  · have hst := Sys.Step.of_step hstep
    cases e with
    | call req bodyFails ok =>
      obtain ⟨hresults, hpending | ⟨r, hpending, hbrings⟩⟩ :=
        HttpRequest.event_brings (hcame req rfl) hev hst
      · exact h.mono hmore hresults hpending
      · exact h.bring hbrings hresults hpending
    | sys e =>
      obtain rfl := Option.some.inj hev
      rw [HttpEvent.request, Option.toList_none, List.append_nil]
      have hentry : e.entry = false := by
        change (if e.entry then none else s.step E e) = some t at hs
        split_ifs at hs with hentry
        exact Bool.not_eq_true _ ▸ hentry
      cases hst with
      | resultSaved pending save => exact h.save (.resultSaved pending save)
      | resultRefused ok pending => exact h.save (.resultRefused ok pending)
      | restart =>
        obtain ⟨written, waiting, hw, -, hwritten, -, hcalls⟩ := h
        refine ⟨written, [], hw, rfl, hwritten, nofun, ?_⟩
        exact (List.Sublist.append_left (List.nil_sublist _) _).subperm.trans hcalls
      | notifyRefused => cases hentry
      | notified => cases hentry
      | openRefused => cases hentry
      | opened => cases hentry
      | _ => exact h.mono (.refl calls) rfl rfl

theorem Sys.Owed.run {calls : List HttpRequest} {evs : List HttpEvent} (h : s.Owed E H came calls)
    (hcame : ∀ pre e post u req, evs = pre ++ e :: post → e.request = some req →
      Exec.run (Sys.serve E H) s pre = some u → came req u.db.requests)
    (hrun : Exec.run (Sys.serve E H) s evs = some t) :
    t.Owed E H came (calls ++ evs.filterMap HttpEvent.request) := by
  induction evs generalizing s calls with
  | nil =>
    obtain rfl := Exec.run_nil.1 hrun
    rwa [List.filterMap_nil, List.append_nil]
  | cons e evs ih =>
    obtain ⟨u, hu, hr⟩ := Exec.run_cons.1 hrun
    rw [Exec.filterMap_cons_toList, ← List.append_assoc]
    refine ih (h.step (fun req hreq => hcame [] e evs s req rfl hreq rfl) hu) ?_ hr
    intro pre e' post v req hevs hreq hv
    exact hcame (e :: pre) e' post v req (congrArg (e :: ·) hevs) hreq (Exec.run_cons.2 ⟨u, hu, hv⟩)

end Owed

theorem HttpEvent.request_eq_some {e : HttpEvent} {req : HttpRequest} (h : e.request = some req) :
    ∃ bodyFails ok, e = .call req bodyFails ok := by
  cases e with
  | call req' bodyFails ok =>
    obtain rfl := Option.some.inj h
    exact ⟨bodyFails, ok, rfl⟩
  | sys => cases h

/-- Each row of `email_results` is owed to a call of a public endpoint that brought
it, and no call to more than one. -/
theorem results_owed_to_calls {now₀ : Instant} {evs : List HttpEvent}
    (hrun : Served E H now₀ evs t) :
    ∃ owed : List (ResultRow × HttpRequest),
      owed.map Prod.fst = t.db.results.rows.map Prod.snd ∧
      (owed.map Prod.snd).Subperm (evs.filterMap HttpEvent.request) ∧
      ∀ p ∈ owed, ∃ r, p.2.Brings E H (CameTo E H now₀ evs) r ∧ r.IsRow p.1 := by
  have hinit : (Sys.init now₀).Owed E H (CameTo E H now₀ evs) [] :=
    ⟨[], [], rfl, rfl, nofun, nofun, .refl []⟩
  have hcame : ∀ pre e post u req, evs = pre ++ e :: post → e.request = some req →
      Exec.run (Sys.serve E H) (Sys.init now₀) pre = some u →
      CameTo E H now₀ evs req u.db.requests := by
    intro pre e post u req hevs hreq hu
    obtain ⟨bodyFails, ok, rfl⟩ := HttpEvent.request_eq_some hreq
    exact ⟨pre, bodyFails, ok, post, u, hevs, hu, rfl⟩
  obtain ⟨written, waiting, hw, -, hwritten, -, hcalls⟩ := hinit.run hcame hrun
  exact ⟨written, hw, (List.sublist_append_left _ _).subperm.trans hcalls, hwritten⟩

def snsHttp : HttpEnv :=
  { sampleHttp with
    fromSlice := fun body =>
      if body = [2] then
        some (.object [("Message", .string deliveryText), ("MessageId", .string "n-1")])
      else none }

/-- One mail goes out; its delivery is notified and its pixel is opened. -/
def publicCalls : List HttpEvent :=
  [.call ⟨.post, ["v1", "messages"], "", [("x-api-key", [107])], [1]⟩ false true] ++
  (saving 0 ++ [Event.handOff 0 .ok] ++ answerEvents ++ flushEvents).map .sys ++
  [.call ⟨.post, ["v1", "events", "results"], "", [("x-amz-sns-message-type",
      "Notification".toList.map fun c => c.toNat.toUInt8)], [2]⟩ false true,
    .sys (.saveResult 0 true),
    .call ⟨.get, ["v1", "events", "open"], "request_id=1", [], []⟩ false true,
    .sys (.saveResult 0 true)]

theorem results_owed_to_calls_sample : ∃ t, Served sampleEnv snsHttp newYear publicCalls t ∧
    t.db.results.rows.map (fun r => (r.2.requestId, r.2.status)) =
      [(1, "Delivery"), (1, "Open")] ∧
    ∃ owed : List (ResultRow × HttpRequest), owed.length = 2 ∧
      (owed.map Prod.snd).Subperm (publicCalls.filterMap HttpEvent.request) ∧
      ∀ p ∈ owed, ∃ r, p.2.Brings sampleEnv snsHttp
        (CameTo sampleEnv snsHttp newYear publicCalls) r ∧ r.IsRow p.1 := by
  obtain ⟨t, ht, h⟩ := Exec.exists_of_any (Sys.serve sampleEnv snsHttp) (Sys.init newYear)
    publicCalls (fun t => decide (t.db.results.rows.map (fun r => (r.2.requestId, r.2.status)) =
      [(1, "Delivery"), (1, "Open")])) (by decide)
  have hresults := of_decide_eq_true h
  obtain ⟨owed, hrows, hsub, hbrings⟩ := results_owed_to_calls ht
  refine ⟨t, ht, hresults, owed, ?_, hsub, hbrings⟩
  have hlen := congrArg List.length hrows
  have htwo := congrArg List.length hresults
  rw [List.length_map] at hlen htwo
  rw [hlen, List.length_map, htwo]
  rfl

/-! ## A handler and its steps -/

theorem serve_call {req : HttpRequest} {endpoint : Endpoint} (h : req.reaches H = some endpoint)
    (bodyFails ok : Bool) : Sys.serve E H s (.call req bodyFails ok) =
      (endpoint.event H req bodyFails ok).elim (some s) (s.step E) := by
  change (req.event H bodyFails ok).elim _ _ = _
  rw [HttpRequest.event, h, Option.bind_some]

theorem step_saveResult {r : EmailResult} (h : s.pending = [r]) (insertFails : Bool) :
    ∃ t, Sys.serve E H s (.sys (.saveResult 0 (!insertFails))) = some t ∧
      t.db = (if insertFails then s.db
        else (r.save E s.now s.db.requests s.db.results).elim s.db
          fun results => { s.db with results }) := by
  change ∃ t, s.saveResult E 0 (!insertFails) = some t ∧ _
  simp only [Sys.saveResult, h, List.getElem?_cons_zero]
  cases insertFails with
  | true => exact ⟨_, rfl, rfl⟩
  | false =>
    cases hsave : r.save E s.now s.db.requests s.db.results with
    | none => exact ⟨_, rfl, rfl⟩
    | some results => exact ⟨_, rfl, rfl⟩

/-- What `handle_sns_event` does to the tables, the steps it sets off do. -/
theorem handleSnsEvent_served (hpending : s.pending = []) {req : HttpRequest}
    (hreach : req.reaches H = some .handleSnsEvent) (bodyFails lookupFails insertFails : Bool) :
    ∃ evs t, Exec.run (Sys.serve E H) s
        (.call req bodyFails (!lookupFails) :: evs) = some t ∧
      t.db = (handleSnsEvent E H s.now bodyFails lookupFails insertFails req s.db).2 := by
  have hquiet : Endpoint.event H req bodyFails (!lookupFails) .handleSnsEvent = none →
      Exec.run (Sys.serve E H) s [.call req bodyFails (!lookupFails)] = some s := by
    intro hnone
    refine Exec.run_cons.2 ⟨s, ?_, rfl⟩
    rw [serve_call hreach, hnone, Option.elim_none]
  unfold handleSnsEvent
  cases hread : snsMessage H bodyFails req with
  | error e => exact ⟨[], s, hquiet (by simp only [Endpoint.event, hread]), rfl⟩
  | ok m =>
    cases m with
    | subscriptionConfirmation =>
      exact ⟨[], s, hquiet (by simp only [Endpoint.event, hread]), rfl⟩
    | other => exact ⟨[], s, hquiet (by simp only [Endpoint.event, hread]), rfl⟩
    | notification message messageId =>
      have hcall : Sys.serve E H s (.call req bodyFails (!lookupFails)) =
          some (s.notify E message (!lookupFails)) := by
        rw [serve_call hreach]
        simp only [Endpoint.event, hread]
        rfl
      simp only [processSesNotification]
      cases hlookup : notificationResult E lookupFails s.db.requests message with
      | error e =>
        refine ⟨[], s, Exec.run_cons.2 ⟨s, ?_, rfl⟩, rfl⟩
        rw [hcall, Sys.notify, Bool.not_not, hlookup]
      | ok r =>
        have hnotify : s.notify E message (!lookupFails) = { s with pending := [r] } := by
          rw [Sys.notify, Bool.not_not, hlookup, hpending]
          rfl
        obtain ⟨t, ht, hdb⟩ := step_saveResult (E := E) (H := H)
          (s := { s with pending := [r] }) rfl insertFails
        refine ⟨[.sys (.saveResult 0 (!insertFails))], t, Exec.run_cons.2
          ⟨_, hcall.trans (congrArg some hnotify), Exec.run_cons.2 ⟨t, ht, rfl⟩⟩, hdb.trans ?_⟩
        cases insertFails with
        | true => rfl
        | false =>
          cases hsave : r.save E s.now s.db.requests s.db.results with
          | none => simp [hsave]
          | some results => simp [hsave]

theorem snsMessage_refused {req : HttpRequest} {bodyFails : Bool} {e : AppError}
    (h : snsMessage H bodyFails req = .error e) : e.intoResponse.status = 400 := by
  simp only [snsMessage] at h
  split_ifs at h
  · exact Except.error.inj h ▸ rfl
  · exact Except.error.inj h ▸ rfl
  · split at h
    · exact Except.error.inj h ▸ rfl
    · cases h

theorem notificationResult_refused {lookupFails : Bool} {requests : Table RequestRow}
    {message : String} {e : AppError}
    (h : notificationResult E lookupFails requests message = .error e) :
    e.intoResponse.status = 400 ∨ e.intoResponse.status = 404 := by
  unfold notificationResult at h
  split at h
  · exact Or.inl (Except.error.inj h ▸ rfl)
  · split at h
    · exact Or.inl (Except.error.inj h ▸ rfl)
    · split_ifs at h
      · exact Or.inr (Except.error.inj h ▸ rfl)
      · split at h
        · exact Or.inr (Except.error.inj h ▸ rfl)
        · cases h

/-- A call that `handle_sns_event` refuses leaves the tables as they are. The caller
is to blame, unless a result was there and its `INSERT` failed: then the answer
tells nothing of the database. -/
theorem handleSnsEvent_refused {now : Instant} {bodyFails lookupFails insertFails : Bool}
    {req : HttpRequest} {db : Db} {e : AppError}
    (h : (handleSnsEvent E H now bodyFails lookupFails insertFails req db).1 = .error e) :
    (handleSnsEvent E H now bodyFails lookupFails insertFails req db).2 = db ∧
    (e.intoResponse.status = 400 ∨ e.intoResponse.status = 404 ∨
      e.intoResponse = ⟨500, "Database error occurred"⟩ ∧ ∃ message messageId r,
        snsMessage H bodyFails req = .ok (.notification message messageId) ∧
        notificationResult E lookupFails db.requests message = .ok r ∧
        (insertFails = true ∨ r.save E now db.requests db.results = none)) := by
  unfold handleSnsEvent at h ⊢
  cases hread : snsMessage H bodyFails req with
  | error e' =>
    rw [hread] at h
    obtain rfl := Except.error.inj h
    exact ⟨rfl, Or.inl (snsMessage_refused hread)⟩
  | ok m =>
    rw [hread] at h
    cases m with
    | subscriptionConfirmation => cases h
    | other => cases h
    | notification message messageId =>
      simp only [processSesNotification] at h ⊢
      cases hlookup : notificationResult E lookupFails db.requests message with
      | error e' =>
        rw [hlookup] at h
        obtain rfl := Except.error.inj h
        exact ⟨rfl, (notificationResult_refused hlookup).imp_right Or.inl⟩
      | ok r =>
        rw [hlookup] at h
        cases hins : insertFails with
        | true =>
          rw [hins] at h
          obtain rfl := Except.error.inj h
          exact ⟨rfl, Or.inr (Or.inr ⟨rfl, message, messageId, r, rfl, hlookup, Or.inl rfl⟩)⟩
        | false =>
          cases hsave : r.save E now db.requests db.results with
          | none =>
            simp only [hins, hsave] at h ⊢
            obtain rfl := Except.error.inj h
            exact ⟨rfl, Or.inr (Or.inr ⟨rfl, message, messageId, r, rfl, hlookup, Or.inr hsave⟩)⟩
          | some results =>
            simp only [hins, hsave] at h
            cases h

end Ses
