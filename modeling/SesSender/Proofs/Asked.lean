import SesSender.Proofs.Copies
import SesSender.Proofs.Gate
import SesSender.Proofs.History
import SesSender.Proofs.Pickup
import SesSender.Proofs.Responses

/-! What `send_email` is called for: letters that callers with the key have asked for, to the
address, under the subject and with the text they asked for, and none more often than
they asked. -/

namespace Ses

open Calendar

variable {E : Env} {H : HttpEnv} {s t : Sys} {e : Event} {now₀ : Instant} {evs : List Event}
  {payload : CreateMessageRequest} {asked : List Letter}

/-! ## Letters -/

/-- What one reader is to get. -/
structure Letter where
  email : String
  subject : String
  content : String
  deriving DecidableEq

def EmailRequest.letter (req : EmailRequest) : Letter := ⟨req.email, req.subject, req.content⟩

/-- One letter for each address of each message. -/
def CreateMessageRequest.letters (payload : CreateMessageRequest) : List Letter :=
  payload.messages.flatMap fun msg =>
    msg.emails.map fun email => ⟨email, msg.subject, msg.content⟩

/-- The letter of a row, with the content the row refers to. -/
def Db.letter (db : Db) (id : Int) : Option Letter :=
  (db.requests.get? id).bind fun row =>
    (db.contents.get? row.contentId).map fun c => ⟨row.email, c.subject, c.content⟩

def Db.letters (db : Db) : List Letter := (db.requests.rows.map Prod.fst).filterMap db.letter

theorem letters_mails (payload : CreateMessageRequest) (seq : Int) :
    (payload.mails seq).map (·.letter) = payload.letters := by
  unfold CreateMessageRequest.mails CreateMessageRequest.letters
  conv_rhs => rw [← List.zipIdx_map_fst 0 payload.messages, List.flatMap_map]
  rw [List.map_flatMap]
  simp only [List.map_map]
  rfl

theorem Db.letter_eq_some {db : Db} {id : Int} {l : Letter} : db.letter id = some l ↔
    ∃ row c, db.requests.get? id = some row ∧ db.contents.get? row.contentId = some c ∧
      l = ⟨row.email, c.subject, c.content⟩ := by
  unfold Db.letter
  simp only [Option.bind_eq_some_iff, Option.map_eq_some_iff]
  refine ⟨?_, ?_⟩
  · rintro ⟨row, hrow, c, hc, rfl⟩
    exact ⟨row, c, hrow, hc, rfl⟩
  · rintro ⟨row, c, hrow, hc, rfl⟩
    exact ⟨row, hrow, c, hc, rfl⟩

theorem Db.mem_ids {db : Db} {id : Int} :
    id ∈ db.requests.rows.map Prod.fst ↔ db.requests.get? id ≠ none := by
  rw [List.mem_map, Option.ne_none_iff_exists']
  refine ⟨?_, ?_⟩
  · rintro ⟨r, hr, rfl⟩
    exact ⟨r.2, Table.get?_eq_some.2 hr⟩
  · rintro ⟨row, hrow⟩
    exact ⟨_, Table.get?_eq_some.1 hrow, rfl⟩

theorem Db.row_of_letter {db : Db} {id : Int} {l : Letter} (h : db.letter id = some l) :
    db.requests.get? id ≠ none := by
  obtain ⟨row, -, hrow, -⟩ := Db.letter_eq_some.1 h
  rw [hrow]
  exact Option.some_ne_none row

/-- Every row refers to a content. -/
def Db.Named (db : Db) : Prop := ∀ id, db.requests.get? id ≠ none → ∃ l, db.letter id = some l

/-- What the tables of a database have lost nothing of. -/
structure Db.Kept (db db' : Db) : Prop where
  letter : ∀ id l, db.letter id = some l → db'.letter id = some l
  contents : ∀ id c, db.contents.get? id = some c → db'.contents.get? id = some c

/-- Where no row is new, the letters are the same. -/
theorem Db.Kept.letters_perm {db db' : Db} (h : db.Kept db') (hnamed : db.Named)
    (hnew : ∀ id, db.requests.get? id = none → db'.requests.get? id = none) :
    db'.letters.Perm db.letters := by
  have hids : (db'.requests.rows.map Prod.fst).Perm (db.requests.rows.map Prod.fst) := by
    refine (List.perm_ext_iff_of_nodup db'.requests.nodup db.requests.nodup).2 fun id => ?_
    rw [Db.mem_ids, Db.mem_ids]
    refine ⟨fun hid hnone => hid (hnew id hnone), fun hid => ?_⟩
    obtain ⟨l, hl⟩ := hnamed id hid
    exact Db.row_of_letter (h.letter id l hl)
  refine (hids.filterMap db'.letter).trans (.of_eq ?_)
  refine List.filterMap_congr fun id hid => ?_
  obtain ⟨l, hl⟩ := hnamed id (Db.mem_ids.1 hid)
  rw [hl, h.letter id l hl]

theorem Sys.Step.db_kept (hs : s.Step E e t) : s.db.Kept t.db := by
  refine ⟨fun id l hl => ?_, hs.grows.contents⟩
  obtain ⟨row, c, hrow, hc, rfl⟩ := Db.letter_eq_some.1 hl
  obtain ⟨row', hrow', hk⟩ := hs.requests.kept hrow
  refine Db.letter_eq_some.2 ⟨row', c, hrow', ?_, ?_⟩
  · rw [hk.contentId]
    exact hs.grows.contents _ _ hc
  · rw [hk.email]

/-- The letter of the request is the one of its row. -/
def Db.Knows (db : Db) (req : EmailRequest) : Prop :=
  ∃ id, req.rowid = some id ∧ db.letter id = some req.letter

theorem Db.Knows.kept {db db' : Db} {req : EmailRequest} (h : db.Knows req) (hk : db.Kept db') :
    db'.Knows req := by
  obtain ⟨id, hid, hl⟩ := h
  exact ⟨id, hid, hk.letter id _ hl⟩

theorem Resolves.kept {db db' : Db} {mails : List EmailRequest} (h : Resolves db.contents mails)
    (hk : db.Kept db') : Resolves db'.contents mails := by
  intro req hreq
  obtain ⟨c, row, hc, hrow, htext⟩ := h req hreq
  exact ⟨c, row, hc, hk.contents _ _ hrow, htext⟩

/-! ## What is held is known -/

/-- What a call is about to insert. -/
def Handler.toSave : Handler → List EmailRequest
  | .contentsSaved payload contents => payload.requests contents
  | _ => []

/-- What a call still asks for. -/
def Handler.asks : Handler → List Letter
  | .received payload => payload.letters
  | h => h.toSave.map (·.letter)

def Scheduler.picked : Scheduler → List ScheduledEmailRow
  | .sending rows => rows
  | _ => []

@[simp] theorem Handler.toSave_next (rest : List EmailRequest) (loop : HandOff)
    (response : CreateMessageResponse) : (Handler.next rest loop response).toSave = [] := by
  unfold Handler.next
  split_ifs <;> rfl

@[simp] theorem Handler.asks_next (rest : List EmailRequest) (loop : HandOff)
    (response : CreateMessageResponse) : (Handler.next rest loop response).asks = [] := by
  unfold Handler.next
  split_ifs <;> rfl

@[simp] theorem Scheduler.picked_next (rows : List ScheduledEmailRow) :
    (Scheduler.next rows).picked = rows := by
  cases rows <;> rfl

/-- Every letter in the tables or still asked for was asked for, and every request in
memory carries the letter of its row. -/
structure Asked (s : Sys) (asked : List Letter) : Prop where
  named : s.db.Named
  toSave : Resolves s.db.contents (s.handlers.flatMap (·.toSave))
  unsent : ∀ req ∈ s.handlers.flatMap (·.unsent), s.db.Knows req
  picked : ∀ row ∈ s.schedulers.flatMap (·.picked), s.db.Knows row.toRequest
  accepted : ∀ req ∈ s.hist.accepted, s.db.Knows req
  owed : (s.db.letters : Multiset Letter) + (s.handlers.flatMap (·.asks) : List Letter) ≤ asked

theorem Asked.mono (h : Asked s asked) (more : List Letter) : Asked s (asked ++ more) :=
  { h with owed := h.owed.trans (Multiset.coe_le.2 (List.sublist_append_left asked more).subperm) }

/-- A statement that inserts no request. -/
theorem Asked.db {db : Db} (h : Asked s asked) (hk : s.db.Kept db)
    (hnew : ∀ id, s.db.requests.get? id = none → db.requests.get? id = none) :
    Asked { s with db } asked where
  named id hid := by
    obtain ⟨l, hl⟩ := h.named id fun hnone => hid (hnew id hnone)
    exact ⟨l, hk.letter id l hl⟩
  toSave := h.toSave.kept hk
  unsent req hreq := (h.unsent req hreq).kept hk
  picked row hrow := (h.picked row hrow).kept hk
  accepted req hreq := (h.accepted req hreq).kept hk
  owed := by
    rw [Multiset.coe_eq_coe.2 (hk.letters_perm h.named hnew)]
    exact h.owed

theorem asks_setHandler {i : ℕ} {hd : Handler} (hi : s.handlers[i]? = some hd) :
    ∃ N : Multiset Letter, ((s.handlers.flatMap (·.asks) : List Letter) : Multiset Letter) =
        hd.asks + N ∧
      ∀ hd' : Handler, (((s.handlers.set i hd').flatMap (·.asks) : List Letter) :
        Multiset Letter) = hd'.asks + N := by
  obtain ⟨rest, hrest, hset⟩ := Lists.flatMap_set (·.asks) hi
  exact ⟨rest, Multiset.coe_eq_coe.2 hrest, fun hd' => Multiset.coe_eq_coe.2 (hset hd')⟩

/-- A handler that goes on with nothing to save. -/
theorem Asked.set_handler (h : Asked s asked) {i : ℕ} {hd hd' : Handler}
    (hi : s.handlers[i]? = some hd) (hsave : hd'.toSave = []) (hasks : hd'.asks = [])
    (hunsent : ∀ req ∈ hd'.unsent, s.db.Knows req) : Asked (s.setHandler i hd') asked where
  named := h.named
  toSave req hreq := by
    rcases Lists.mem_flatMap_set hreq with hreq | hreq
    · rw [hsave] at hreq
      cases hreq
    · exact h.toSave req hreq
  unsent req hreq := (Lists.mem_flatMap_set hreq).elim (hunsent req) (h.unsent req)
  picked := h.picked
  accepted := h.accepted
  owed := by
    obtain ⟨N, hN, hset⟩ := asks_setHandler hi
    have howed := h.owed
    rw [hN] at howed
    change (s.db.letters : Multiset Letter) +
      ((s.handlers.set i hd').flatMap (·.asks) : List Letter) ≤ asked
    rw [hset, hasks]
    exact le_trans (add_le_add_right (add_le_add_left (Multiset.zero_le _) N) _) howed

theorem Asked.set_scheduler (h : Asked s asked) {j : ℕ} {c : Scheduler}
    (hpicked : ∀ row ∈ c.picked, s.db.Knows row.toRequest) : Asked (s.setScheduler j c) asked :=
  { h with
    picked := fun row hrow => (Lists.mem_flatMap_set hrow).elim (hpicked row) (h.picked row) }

theorem Asked.accept (h : Asked s asked) {req : EmailRequest} (hreq : s.db.Knows req) :
    Asked (s.accept req) asked :=
  { h with
    accepted := by
      intro r hr
      rcases List.mem_append.1 hr with hr | hr
      · exact h.accepted r hr
      · exact List.mem_singleton.1 hr ▸ hreq }

/-! ## The inserts -/

/-- The contents of a call are saved: it goes on asking for its letters. -/
theorem Asked.save_contents (h : Asked s asked) {i : ℕ} {clock : ℕ → Instant} {F : TxFaults}
    {saved : List EmailContent} {contents : Table ContentRow}
    (hi : s.handlers[i]? = some (.received payload))
    (save : EmailContent.saveBatch clock F payload.contents s.db.contents = .ok (saved, contents))
    (hk : s.db.Kept { s.db with contents }) (hfit : contents.seq ≤ i32Max) :
    Asked { s.setHandler i (.contentsSaved payload saved) with db := { s.db with contents } }
      asked := by
  have hdb := h.db hk fun _ hnone => hnone
  obtain ⟨rows, rfl, hrows, rfl⟩ := EmailContent.saveBatch_spec save
  have hlen : rows.length = payload.messages.length :=
    CreateMessageRequest.ContentRows.length hrows
  rw [Table.seq_append, hlen] at hfit
  refine { hdb with toSave := ?_, unsent := ?_, owed := ?_ }
  · intro req hreq
    rcases Lists.mem_flatMap_set hreq with hreq | hreq
    · rw [Handler.toSave, requests_saved] at hreq
      exact resolves_saved hfit hrows req hreq
    · exact hdb.toSave req hreq
  · intro req hreq
    rcases Lists.mem_flatMap_set hreq with hreq | hreq
    · cases hreq
    · exact hdb.unsent req hreq
  · obtain ⟨N, hN, hset⟩ := asks_setHandler hi
    have howed := hdb.owed
    rw [hN] at howed
    refine le_trans (le_of_eq ?_) howed
    congr 1
    refine (hset _).trans ?_
    change (((payload.requests _).map (·.letter) : List Letter) : Multiset Letter) + N =
      payload.letters + N
    rw [requests_saved, letters_mails]

section Append

variable {clock : ℕ → Instant} {requests : List EmailRequest} {rows : List RequestRow} {db : Db}

/-- The row that stores a request whose content resolves has the letter of the request. -/
theorem letter_append (hres : Resolves db.contents requests)
    (hrows : List.Forall₂ (Stores E db.contents clock) requests rows) {i : ℕ} {req : EmailRequest}
    (hi : requests[i]? = some req) :
    ({ db with requests := db.requests.append rows } : Db).letter (db.requests.seq + 1 + i) =
      some req.letter := by
  obtain ⟨row, hrow, ⟨k, hto⟩, -⟩ := Lists.forall₂_getElem?_left hrows hi
  obtain ⟨topicId, contentId, -, hc, rfl⟩ := EmailRequest.toRow_eq_some.1 hto
  obtain ⟨c, content, hc', hget, hsubject, hcontent⟩ := hres req (List.mem_of_getElem? hi)
  obtain rfl : contentId = c := Option.some.inj (hc.symm.trans hc')
  refine Db.letter_eq_some.2 ⟨_, content, (Table.get?_append_new i).trans hrow, hget, ?_⟩
  rw [EmailRequest.letter, hsubject, hcontent]

/-- The new rows have the letters of the requests, in their order. -/
theorem letters_append (hres : Resolves db.contents requests)
    (hrows : List.Forall₂ (Stores E db.contents clock) requests rows) (hnamed : db.Named)
    (hk : db.Kept { db with requests := db.requests.append rows }) :
    ({ db with requests := db.requests.append rows } : Db).letters =
      db.letters ++ requests.map (·.letter) := by
  unfold Db.letters
  rw [Table.append, List.map_append, List.filterMap_append]
  congr 1
  · refine List.filterMap_congr fun id hid => ?_
    obtain ⟨l, hl⟩ := hnamed id (Db.mem_ids.1 hid)
    rw [hl]
    exact hk.letter id l hl
  · refine Lists.filterMap_of_forall₂ (List.forall₂_iff_get.2 ⟨?_, fun i h₁ h₂ => ?_⟩)
    · simp [hrows.length_eq]
    · have hi : i < requests.length := by simpa using h₂
      simp only [List.get_eq_getElem, List.getElem_map, List.getElem_mapIdx]
      exact letter_append hres hrows (List.getElem?_eq_getElem hi)

theorem named_append (hres : Resolves db.contents requests)
    (hrows : List.Forall₂ (Stores E db.contents clock) requests rows) (hnamed : db.Named)
    (hk : db.Kept { db with requests := db.requests.append rows }) :
    ({ db with requests := db.requests.append rows } : Db).Named := by
  intro id hid
  obtain ⟨row, hrow⟩ := Option.ne_none_iff_exists'.1 hid
  rcases Table.get?_append_cases hrow with hold | ⟨i, rfl, hi⟩
  · obtain ⟨l, hl⟩ := hnamed id (hold ▸ Option.some_ne_none row)
    exact ⟨l, hk.letter id l hl⟩
  · obtain ⟨req, hreq, -⟩ := Lists.forall₂_getElem?_right hrows hi
    exact ⟨_, letter_append hres hrows hreq⟩

end Append

/-- The requests of a call are saved: their letters are in the tables from then on. -/
theorem Asked.save_requests (h : Asked s asked) {i : ℕ} {clock : ℕ → Instant} {F : TxFaults}
    {contents : List EmailContent} {saved : List EmailRequest} {r : Table RequestRow} {hd : Handler}
    (hi : s.handlers[i]? = some (.contentsSaved payload contents))
    (save : EmailRequest.saveBatch E s.db.contents clock F (payload.requests contents)
      s.db.requests = .ok (saved, r))
    (hk : s.db.Kept { s.db with requests := r }) (hfit : r.seq ≤ i32Max)
    (hsave : hd.toSave = []) (hasks : hd.asks = []) (hunsent : ∀ req ∈ hd.unsent, req ∈ saved) :
    Asked { s.setHandler i hd with
      db := { s.db with requests := r }
      hist := { s.hist with saved := s.hist.saved ++ saved } } asked := by
  obtain ⟨rows, rfl, hrows, rfl⟩ := EmailRequest.saveBatch_spec save
  have hres : Resolves s.db.contents (payload.requests contents) :=
    fun req hreq => h.toSave req (List.mem_flatMap.2 ⟨_, List.mem_of_getElem? hi, hreq⟩)
  rw [Table.seq_append, ← hrows.length_eq] at hfit
  have h0 := s.db.requests.seq_nonneg
  refine ⟨named_append hres hrows h.named hk, ?_, ?_, fun row hrow => (h.picked row hrow).kept hk,
    fun req hreq => (h.accepted req hreq).kept hk, ?_⟩
  · intro req hreq
    rcases Lists.mem_flatMap_set hreq with hreq | hreq
    · rw [hsave] at hreq
      cases hreq
    · exact h.toSave.kept hk req hreq
  · intro req hreq
    rcases Lists.mem_flatMap_set hreq with hreq | hreq
    · obtain ⟨j, hj, rfl⟩ := List.mem_mapIdx.1 (hunsent req hreq)
      refine ⟨_, rfl, ?_⟩
      rw [asI32_toInt (by omega) (by omega)]
      have hl := letter_append hres hrows (List.getElem?_eq_getElem hj)
      exact hl
    · exact (h.unsent req hreq).kept hk
  · obtain ⟨N, hN, hset⟩ := asks_setHandler hi
    have howed := h.owed
    rw [hN] at howed
    refine le_trans (le_of_eq ?_) howed
    rw [letters_append hres hrows h.named hk, ← Multiset.coe_add, add_assoc]
    congr 1
    refine congrArg _ ((hset hd).trans ?_)
    rw [hasks, Multiset.coe_nil, zero_add]

/-- What phase 2 reads are the letters of the rows. -/
theorem knows_selected {db : Db} {ids : List Int} {rows : List ScheduledEmailRow}
    (h : selectScheduled db ids = some rows) (hfit : db.requests.seq ≤ i32Max) :
    ∀ row ∈ rows, db.Knows row.toRequest := by
  intro row hrow
  obtain ⟨⟨id, r, c⟩, hj, rfl, -, -, hemail, hsubject, hcontent⟩ :=
    Lists.forall₂_mem_right (selectScheduled_spec h) hrow
  obtain ⟨-, hget, hc⟩ := mem_joined.1 hj
  have hpos := Table.pos_of_get? hget
  have hle := Table.le_seq_of_get? hget
  refine ⟨(asI32 row.id).toInt, rfl, ?_⟩
  rw [asI32_toInt (by omega) (by omega)]
  refine Db.letter_eq_some.2 ⟨r, c, hget, hc, ?_⟩
  rw [← hemail, ← hsubject, ← hcontent]
  rfl

/-! ## The step -/

/-- What an event asks for. -/
def Event.letters : Event → List Letter
  | .request payload => payload.letters
  | _ => []

/-- A statement that hands out no rowid adds no row. -/
theorem RequestsChange.no_new {r : Table RequestRow} (h : RequestsChange E s r)
    (hseq : r.seq = s.db.requests.seq) (id : Int) (hnone : s.db.requests.get? id = none) :
    r.get? id = none := by
  cases h with
  | same => exact hnone
  | @insert _ _ _ rows _ =>
    rw [Table.seq_append] at hseq
    obtain rfl : rows = [] := List.length_eq_zero_iff.1 (by omega)
    rwa [Table.append_nil]
  | rollback => rw [get?_rollbackToCreated, hnone, Option.map_none]
  | claim => rw [get?_claim, hnone, Option.map_none]
  | stop => rw [get?_stopTopic, hnone, Option.map_none]
  | bulk _ written => rw [get?_bulkUpdateAll written, hnone, Option.map_none]
  | update => rw [get?_update, hnone, Option.map_none]

theorem Asked.request (h : Asked s asked) (payload : CreateMessageRequest) :
    Asked { s with handlers := s.handlers ++ [.received payload] } (asked ++ payload.letters) := by
  refine ⟨h.named, ?_, ?_, h.picked, h.accepted, ?_⟩
  · simpa only [List.flatMap_append, List.flatMap_singleton, Handler.toSave, List.append_nil]
      using h.toSave
  · simpa only [List.flatMap_append, List.flatMap_singleton, Handler.unsent, List.append_nil]
      using h.unsent
  · rw [List.flatMap_append, List.flatMap_singleton, ← Multiset.coe_add, ← Multiset.coe_add,
      ← add_assoc]
    exact add_le_add_left h.owed _

theorem Asked.step (hs : s.Step E e t) (hfit : t.IdsFit) (hcontents : t.db.contents.seq ≤ i32Max)
    (h : Asked s asked) : Asked t (asked ++ e.letters) := by
  have hk := hs.db_kept
  have hnew := hs.requests.no_new
  have hmore := h.mono e.letters
  cases hs with
  | request payload => exact h.request payload
  | contentsRefused _ handler | requestsRefused _ handler =>
    exact hmore.set_handler handler rfl rfl (by simp [Handler.unsent])
  | contentsSaved handler save => exact hmore.save_contents handler save hk hcontents
  | scheduledSaved _ handler _ save =>
    exact hmore.save_requests handler save hk hfit rfl rfl (by simp [Handler.unsent])
  | immediateSaved _ handler _ save =>
    exact hmore.save_requests handler save hk hfit (by simp) (by simp) (by simp)
  | handOffFailed handler =>
    refine hmore.set_handler handler (by simp) (by simp) fun r hr => ?_
    rw [Handler.unsent_next] at hr
    exact h.unsent r (mem_handlers handler (List.mem_cons_of_mem _ hr))
  | handOffAccepted handler =>
    have hreq := h.unsent _ (mem_handlers handler List.mem_cons_self)
    refine (hmore.accept hreq).set_handler handler (by simp) (by simp) fun r hr => ?_
    rw [Handler.unsent_next] at hr
    exact h.unsent r (mem_handlers handler (List.mem_cons_of_mem _ hr))
  | handOffBlocked handler =>
    exact hmore.set_handler handler rfl rfl fun r hr => h.unsent r (mem_handlers handler hr)
  | blockedAccepted handler =>
    have hreq := h.unsent _ (mem_handlers handler List.mem_cons_self)
    refine (hmore.accept hreq).set_handler handler (by simp) (by simp) fun r hr => ?_
    rw [Handler.unsent_next] at hr
    exact h.unsent r (mem_handlers handler (List.mem_cons_of_mem _ hr))
  | blockedClosed handler =>
    refine hmore.set_handler handler (by simp) (by simp) fun r hr => ?_
    rw [Handler.unsent_next] at hr
    exact h.unsent r (mem_handlers handler (List.mem_cons_of_mem _ hr))
  | rolledBack handler =>
    have hdb := hmore.db hk (hnew (seq_rollbackToCreated _ _ _))
    exact hdb.set_handler handler rfl rfl (by simp [Handler.unsent])
  | rollbackFailed handler => exact hmore.set_handler handler rfl rfl (by simp [Handler.unsent])
  | dropHandler handler => exact hmore.set_handler handler rfl rfl (by simp [Handler.unsent])
  | spawnScheduler =>
    refine { hmore with picked := ?_ }
    simpa only [List.flatMap_append, List.flatMap_singleton, Scheduler.picked, List.append_nil]
      using h.picked
  | claimUnread =>
    exact (hmore.db hk (hnew rfl)).set_scheduler (by simp [Scheduler.picked])
  | @claimed j chosen updated =>
    refine (hmore.db hk (hnew rfl)).set_scheduler ?_
    cases updated <;> simp [Scheduler.picked]
  | fetchFailed | fetchUnread | schedulerClosed =>
    exact hmore.set_scheduler (by simp [Scheduler.picked])
  | fetched scheduler selected perm =>
    refine hmore.set_scheduler fun row hrow => ?_
    rw [Scheduler.picked_next] at hrow
    exact knows_selected selected hfit row (perm.mem_iff.1 hrow)
  | schedulerSent scheduler =>
    have hrows := fun row hrow => h.picked row
      (List.mem_flatMap.2 ⟨_, List.mem_of_getElem? scheduler, hrow⟩)
    refine (hmore.accept (hrows _ List.mem_cons_self)).set_scheduler fun row hrow => ?_
    rw [Scheduler.picked_next] at hrow
    exact hrows row (List.mem_cons_of_mem _ hrow)
  | stopTopic => exact hmore.db hk (hnew rfl)
  | flushed _ written =>
    exact { hmore.db hk (hnew (seq_bulkUpdateAll written)) with }
  | updated => exact { hmore.db hk (hnew rfl) with }
  | resultSaved => exact { hmore.db hk (hnew rfl) with }
  | restart =>
    refine ⟨h.named, ?_, by simp [Sys.boot], by simp [Sys.boot], h.accepted, ?_⟩
    · simp [Sys.boot, Resolves]
    · refine le_trans ?_ hmore.owed
      exact add_le_add_right (Multiset.zero_le _) _
  | _ => exact { hmore with }

theorem contents_seq_le (hrun : Exec.run (Sys.step E) s evs = some t) :
    s.db.contents.seq ≤ t.db.contents.seq := by
  refine Exec.run_rel (R := fun s t : Sys => s.db.contents.seq ≤ t.db.contents.seq)
    (fun _ => le_rfl) le_trans (fun h => ?_) hrun
  cases Sys.Step.of_step h with
  | contentsSaved _ save =>
    obtain ⟨rows, rfl, -⟩ := EmailContent.saveBatch_spec save
    rw [Table.seq_append]
    omega
  | _ => exact le_rfl

/-- In every run every letter in the tables was asked for, and every request carries the
letter of its row. -/
theorem Asked.run (h : Asked s asked) (hrun : Exec.run (Sys.step E) s evs = some t)
    (hfit : t.IdsFit) (hcontents : t.db.contents.seq ≤ i32Max) :
    Asked t (asked ++ evs.flatMap Event.letters) := by
  induction evs generalizing s asked with
  | nil =>
    obtain rfl := Exec.run_nil.1 hrun
    rwa [List.flatMap_nil, List.append_nil]
  | cons e evs ih =>
    obtain ⟨u, hu, hr⟩ := Exec.run_cons.1 hrun
    have hgrows := grows_of_run hr
    rw [List.flatMap_cons, ← List.append_assoc]
    exact ih (h.step (Sys.Step.of_step hu) (hgrows.seq.trans hfit)
      ((contents_seq_le hr).trans hcontents)) hr

theorem Run.asked_letters (hrun : Run E now₀ evs s) (hfit : s.IdsFit)
    (hcontents : s.db.contents.seq ≤ i32Max) : Asked s (evs.flatMap Event.letters) := by
  have hinit : Asked (Sys.init now₀) [] :=
    ⟨fun _ hid => absurd rfl hid, nofun, nofun, nofun, nofun, le_rfl⟩
  exact hinit.run hrun hfit hcontents

/-! ## What `send_email` is called for -/

/-- Requests of different rows have the letters of different rows. -/
theorem letters_subperm {db : Db} {reqs : List EmailRequest} (hknown : ∀ req ∈ reqs, db.Knows req)
    (hn : (reqs.filterMap (·.rowid)).Nodup) : (reqs.map (·.letter)).Subperm db.letters := by
  have hids : (reqs.filterMap (·.rowid)).Subperm (db.requests.rows.map Prod.fst) := by
    refine List.subperm_of_subset hn fun id hid => ?_
    obtain ⟨req, hreq, hrow⟩ := List.mem_filterMap.1 hid
    obtain ⟨id', hid', hl⟩ := hknown req hreq
    obtain rfl : id = id' := Option.some.inj (hrow.symm.trans hid')
    exact Db.mem_ids.2 (Db.row_of_letter hl)
  have hletters : reqs.map (·.letter) = (reqs.filterMap (·.rowid)).filterMap db.letter := by
    rw [List.filterMap_filterMap]
    refine (List.filterMap_eq_map_iff_forall_eq_some.2 fun req hreq => ?_).symm
    obtain ⟨id, hid, hl⟩ := hknown req hreq
    rw [hid, Option.bind_some, hl]
  rw [hletters]
  exact Lists.subperm_filterMap db.letter hids

/-- `send_email` is called for letters that were asked for, none more often than it was. -/
theorem called_subperm (hrun : Run E now₀ evs s) (hfit : s.IdsFit)
    (hcontents : s.db.contents.seq ≤ i32Max) :
    (s.hist.called.map fun call => call.1.letter).Subperm (evs.flatMap Event.letters) := by
  have hasked := Run.asked_letters hrun hfit hcontents
  have hcalled := hrun.called_accepted
  have hn : ((s.hist.called.map Prod.fst).filterMap (·.rowid)).Nodup :=
    Multiset.nodup_of_le (Multiset.coe_le.2 (Lists.subperm_filterMap _ hcalled))
      (hrun.inv hfit).book.once
  have hletters := letters_subperm (fun req hreq => hasked.accepted req (hcalled.subset hreq)) hn
  rw [List.map_map] at hletters
  refine hletters.trans ?_
  exact Multiset.coe_le.1 ((Multiset.le_add_right _ _).trans hasked.owed)

/-! ## Behind the router -/

/-- What a call asks for: nothing, unless it gets to `create_message` and its body is read. -/
def HttpEvent.letters (H : HttpEnv) : HttpEvent → List Letter
  | .call req _ _ =>
    match req.reaches H with
    | some .createMessage => (H.payload req).elim [] CreateMessageRequest.letters
    | _ => []
  | .sys _ => []

theorem HttpRequest.letters_event (req : HttpRequest) (bodyFails ok : Bool) :
    (req.event H bodyFails ok).toList.flatMap Event.letters =
      HttpEvent.letters H (.call req bodyFails ok) := by
  unfold HttpRequest.event
  simp only [HttpEvent.letters]
  cases req.reaches H with
  | none => rfl
  | some endpoint =>
    rw [Option.bind_some]
    cases endpoint with
    | createMessage =>
      simp only [Endpoint.event]
      cases H.payload req with
      | none => rfl
      | some payload => exact List.flatMap_singleton Event.letters (.request payload)
    | stopTopic segment =>
      simp only [Endpoint.event]
      cases H.topicId segment with
      | none => rfl
      | some topicId =>
        rw [Option.bind_some]
        split_ifs <;> rfl
    | handleSnsEvent =>
      simp only [Endpoint.event]
      split <;> rfl
    | _ => rfl

/-- Behind the router only calls ask for letters. -/
theorem letters_served {evs : List HttpEvent} (hrun : Exec.run (Sys.serve E H) s evs = some t) :
    (evs.filterMap (HttpEvent.event H)).flatMap Event.letters =
      evs.flatMap (HttpEvent.letters H) := by
  induction evs generalizing s with
  | nil => rfl
  | cons e evs ih =>
    obtain ⟨u, hu, hr⟩ := Exec.run_cons.1 hrun
    rw [Exec.filterMap_cons_toList, List.flatMap_append, List.flatMap_cons, ih hr]
    congr 1
    cases e with
    | call req bodyFails ok => exact req.letters_event bodyFails ok
    | sys e =>
      change (if e.entry then none else s.step E e) = some u at hu
      cases e with
      | request => cases hu
      | _ => rfl

/-- A run behind the router is a run of the process. -/
theorem served_project {evs : List HttpEvent} (hrun : Exec.run (Sys.serve E H) s evs = some t) :
    Exec.run (Sys.step E) s (evs.filterMap (HttpEvent.event H)) = some t := by
  refine Exec.run_project (π := id) (fun {s e t} h => ?_) hrun
  rcases serve_cases h with ⟨hnone, rfl⟩ | ⟨ev, hev, hs⟩
  · rw [hnone]
    rfl
  · rw [hev]
    exact Exec.run_cons.2 ⟨t, hs, rfl⟩

theorem HttpEvent.keyed_of_letters {e : HttpEvent} (h : e.letters H ≠ []) : e.keyed H = true := by
  cases e with
  | sys => exact absurd rfl h
  | call req bodyFails ok =>
    simp only [HttpEvent.letters] at h
    split at h
    · rename_i hreach
      exact (HttpRequest.reaches_guarded hreach).symm
    · exact absurd rfl h

/-- Each letter `send_email` is called for was asked for by a call with the key, and
`send_email` is called for it no more often than it was asked for; its body carries the
pixel of its own row. -/
theorem sent_only_asked {evs : List HttpEvent} (hrun : Served E H now₀ evs s) (hfit : s.IdsFit)
    (hcontents : s.db.contents.seq ≤ i32Max) :
    (s.hist.called.map fun call => call.1.letter).Subperm
        ((evs.filter (HttpEvent.keyed H)).flatMap (HttpEvent.letters H)) ∧
      ∀ call ∈ s.hist.called, call.2 = call.1.body E ∧ s.db.Knows call.1 := by
  have hproc : Run E now₀ (evs.filterMap (HttpEvent.event H)) s := served_project hrun
  have hasked := Run.asked_letters hproc hfit hcontents
  refine ⟨?_, fun call hcall => ⟨((hproc.inv hfit).carried.called call hcall).2, ?_⟩⟩
  · have hletters := called_subperm hproc hfit hcontents
    rw [letters_served hrun] at hletters
    rwa [Lists.flatMap_filter fun _ => HttpEvent.keyed_of_letters]
  · exact hasked.accepted _ (hproc.called_accepted.subset (List.mem_map_of_mem hcall))

/-- One call with the key, one without; the mail goes out once. -/
theorem sent_only_asked_sample : ∃ s, Served sampleEnv sampleHttp newYear
      (sampleCalls.take 2 ++ (saving 0).map .sys ++
        [.sys (.handOff 0 .ok), .sys .recv, .sys .spawnTask, .sys (.callSes 0)]) s ∧
    s.hist.called.length = 1 ∧
    (s.hist.called.map fun call => call.1.letter).Subperm
      [⟨"reader@example.com", "Hello", "<p>Hi</p>"⟩] := by
  obtain ⟨s, hs, h⟩ := Exec.exists_of_any (Sys.serve sampleEnv sampleHttp) (Sys.init newYear)
    (sampleCalls.take 2 ++ (saving 0).map .sys ++
      [.sys (.handOff 0 .ok), .sys .recv, .sys .spawnTask, .sys (.callSes 0)])
    (fun s => decide (s.hist.called.length = 1 ∧ s.IdsFit ∧ s.db.contents.seq ≤ i32Max))
    (by decide)
  obtain ⟨hcalled, hfit, hcontents⟩ := of_decide_eq_true h
  exact ⟨s, hs, hcalled, (sent_only_asked hs hfit hcontents).1⟩

end Ses
