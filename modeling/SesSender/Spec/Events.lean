import SesSender.Spec.Messages

/-! `handlers/event_handlers.rs` and `models/result.rs`: opens of the tracking
pixel and SNS notifications, and the rows they add to `email_results`. -/

namespace Ses

open Calendar

/-- The value of a list of decimal digits. -/
def digitsValue (ds : List Char) : ℕ := ds.foldl (fun n c => 10 * n + (c.toNat - '0'.toNat)) 0

/-- `str::parse::<i32>`: an optional sign, at least one ASCII digit, in range. -/
def parseI32 (s : String) : Option Int32 :=
  let unsigned (ds : List Char) : Option ℕ :=
    if ds.isEmpty || !ds.all Char.isDigit then none else some (digitsValue ds)
  match s.toList with
  | '-' :: ds => (unsigned ds).bind fun n => decodeI32 (-n)
  | '+' :: ds => (unsigned ds).bind fun n => decodeI32 n
  | ds => (unsigned ds).bind fun n => decodeI32 n

structure EmailResult where
  id : Option Int32
  requestId : Int32
  status : String
  raw : Option String
  deriving DecidableEq

/-- `EmailResult::save`, refused when the request does not exist. -/
def EmailResult.save (E : Env) (now : Instant) (requests : Table RequestRow) (r : EmailResult)
    (t : Table ResultRow) : Option (Table ResultRow) :=
  if E.foreignKeys && (requests.get? r.requestId.toInt).isNone then none
  else t.insert? [{ requestId := r.requestId.toInt, status := r.status, raw := r.raw
                    createdAt := now.stamp }]

/-- The result `track_open` saves, when the query carries a request id. -/
def openResult (query : OpenQueryParams) : Option EmailResult :=
  (query.requestId.bind parseI32).map fun id =>
    { id := none, requestId := id, status := "Open", raw := none }

def SesNotification.mailMessageId (n : SesNotification) : Option String :=
  ((n.otherFields.get "mail").bind fun m => m.get "messageId").bind Value.asStr

/-- `process_ses_notification` up to its `INSERT`: the result to save, or the
error answered. A failing lookup statement is answered as a missing row is. -/
def notificationResult (E : Env) (lookupFails : Bool) (requests : Table RequestRow)
    (message : String) : Except AppError EmailResult :=
  match E.sesNotification message with
  | none => .error (.badRequest "Non-SES notification")
  | some notification =>
    match notification.mailMessageId with
    | none => .error (.badRequest "SES message_id not found")
    | some sesMsgId =>
      if lookupFails then .error (.notFound "Request not found")
      else match EmailRequest.getRequestIdByMessageId sesMsgId requests with
      | .error _ => .error (.notFound "Request not found")
      | .ok requestId =>
        .ok { id := none, requestId, status := notification.eventType, raw := some message }

/-- `process_ses_notification` as a whole. -/
def processSesNotification (E : Env) (now : Instant) (lookupFails insertFails : Bool)
    (message : String) (db : Db) : Except AppError Unit × Db :=
  match notificationResult E lookupFails db.requests message with
  | .error e => (.error e, db)
  | .ok r =>
    if insertFails then (.error (.database .database), db)
    else match r.save E now db.requests db.results with
    | none => (.error (.database .database), db)
    | some results => (.ok (), { db with results })

/-- A 1x1 transparent PNG. -/
def TRACKING_PIXEL : List UInt8 :=
  [0x89, 0x50, 0x4E, 0x47, 0x0D, 0x0A, 0x1A, 0x0A, 0x00, 0x00, 0x00, 0x0D, 0x49, 0x48, 0x44, 0x52,
   0x00, 0x00, 0x00, 0x01, 0x00, 0x00, 0x00, 0x01, 0x08, 0x06, 0x00, 0x00, 0x00, 0x1F, 0x15, 0xC4,
   0x89, 0x00, 0x00, 0x00, 0x0A, 0x49, 0x44, 0x41, 0x54, 0x78, 0x9C, 0x63, 0x00, 0x00, 0x00, 0x02,
   0x00, 0x01, 0xE2, 0x26, 0x05, 0x9B, 0x00, 0x00, 0x00, 0x00, 0x49, 0x45, 0x4E, 0x44, 0xAE, 0x42,
   0x60, 0x82]

structure PixelResponse where
  status : ℕ
  contentType : String
  body : List UInt8

/-- `track_open` as a whole. The answer is the pixel, saved or not. -/
def trackOpen (E : Env) (now : Instant) (insertFails : Bool) (query : OpenQueryParams) (db : Db) :
    PixelResponse × Db :=
  let response := ⟨200, "image/png", TRACKING_PIXEL⟩
  match openResult query with
  | none => (response, db)
  | some r =>
    if insertFails then (response, db)
    else match r.save E now db.requests db.results with
    | none => (response, db)
    | some results => (response, { db with results })

/-! ## Sequences of events -/

/-- A `track_open` request or an SNS notification, with the time it is handled
at and the statements that fail for it. -/
inductive Incoming where
  | opened (now : Instant) (insertFails : Bool) (query : OpenQueryParams)
  | notified (now : Instant) (lookupFails insertFails : Bool) (message : String)

def Incoming.apply (E : Env) (db : Db) : Incoming → Db
  | .opened now insertFails query => (trackOpen E now insertFails query db).2
  | .notified now lookupFails insertFails message =>
    (processSesNotification E now lookupFails insertFails message db).2

/-- The events in order. -/
def Incoming.run (E : Env) (db : Db) (evs : List Incoming) : Db := evs.foldl (Incoming.apply E) db

end Ses
