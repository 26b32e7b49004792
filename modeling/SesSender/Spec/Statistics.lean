import SesSender.Lib.Grouping
import SesSender.Spec.System

/-! The figures the API reports: how many mails went out in the last hours, and
what became of the requests of a topic. SQL leaves open in which order the
groups of a `GROUP BY` come, so that order is a choice of the call. -/

namespace Ses

open Calendar Grouping

/-- `COUNT(*)` or a column read as `i32`, an error when it does not fit. -/
def fetchI32 (x : Int) : Except SqlxError Int32 := (decodeI32 x).elim (.error .database) .ok

/-- `HashMap<String, i32>` -/
abbrev Counts := Finmap fun _ : String => Int32

/-- What a label counts, nothing when it is not there. -/
def Counts.get (m : Counts) (label : String) : Int := ((m.lookup label).map Int32.toInt).getD 0

/-- The sum of all counts. -/
def Counts.total (m : Counts) : Int := Grouping.total Int32.toInt m

def topicRows (topicId : String) (t : Table RequestRow) : List (Int × RequestRow) :=
  t.rows.filter fun r => r.2.topicId = topicId

/-! ## Statuses of a topic -/

/-- `SELECT status, COUNT(*) … WHERE topic_id = ? GROUP BY status` -/
def statusGroups (topicId : String) (t : Table RequestRow) : List (Int × Int) :=
  (groupBy (fun r : Int × RequestRow => r.2.status) (topicRows topicId t)).map fun g =>
    (g.1, g.2.length)

/-- `from_i32(status).map_or("Unknown", as_str)` -/
def statusLabel (status : Int32) : String :=
  (EmailMessageStatus.fromI32 status).elim "Unknown" EmailMessageStatus.asStr

/-- A fetched row, as `(i32, i32)`. -/
def fetchGroup (g : Int × Int) : Option (Int32 × Int32) :=
  (decodeI32 g.1).bind fun status => (decodeI32 g.2).map fun count => (status, count)

/-- `EmailRequest::get_request_counts_by_topic_id`, for the order in which the
groups come; `none` when they are not the ones the query has. -/
def EmailRequest.getRequestCountsByTopicId (groups : List (Int × Int)) (topicId : String)
    (t : Table RequestRow) : Option (Except SqlxError Counts) :=
  if ¬ groups.isPerm (statusGroups topicId t) then none
  else some ((groups.mapM fetchGroup).elim (.error .database) fun rows =>
    .ok (collect (rows.map fun r => (statusLabel r.1, r.2))))

/-- None of the five statuses. -/
def unknownStatus (status : Int) : Bool :=
  [EmailMessageStatus.created, .processed, .sent, .failed, .stopped].all fun st =>
    status ≠ st.asI32

/-- How many requests of the topic have a status that satisfies `p`. -/
def statusCount (topicId : String) (t : Table RequestRow) (p : Int → Bool) : ℕ :=
  ((topicRows topicId t).filter fun r => p r.2.status).length

/-- The counts are those of the topic's rows. -/
structure StatusCounts (topicId : String) (t : Table RequestRow) (m : Counts) : Prop where
  total : m.total = (topicRows topicId t).length
  named : ∀ st : EmailMessageStatus, m.get st.asStr = statusCount topicId t (· = st.asI32)
  unknown : m.get "Unknown" = statusCount topicId t unknownStatus

/-! ## Results of a topic -/

/-- The rows of `email_results r INNER JOIN email_requests req`, of one topic. -/
def topicResults (topicId : String) (db : Db) : List ResultRow :=
  (db.results.rows.map Prod.snd).filter fun r =>
    (db.requests.get? r.requestId).any fun req => req.topicId = topicId

/-- `SELECT r.status, COUNT(DISTINCT r.request_id) … GROUP BY r.status` -/
def resultGroups (topicId : String) (db : Db) : List (String × Int) :=
  (groupBy ResultRow.status (topicResults topicId db)).map fun g =>
    (g.1, (g.2.map ResultRow.requestId).dedup.length)

/-- `EmailResult::get_result_counts_by_topic_id` -/
def EmailResult.getResultCountsByTopicId (groups : List (String × Int)) (topicId : String)
    (db : Db) : Option (Except SqlxError Counts) :=
  if ¬ groups.isPerm (resultGroups topicId db) then none
  else some ((groups.mapM fun g => (decodeI32 g.2).map fun count => (g.1, count)).elim
    (.error .database) fun rows => .ok (collect rows))

/-! ## Mails sent -/

/-- Julian day 0, the first moment SQLite knows, in seconds from the start of year 0. -/
def julianZero : Int := -(1721059 * 86400 + 43200)

/-- `datetime('now', '-{hours} hours')`. It is NULL before `julianZero`, and
for negative hours, where `--5 hours` is no modifier. -/
def windowStart (now : Instant) (hours : Int32) : Option String :=
  if hours.toInt < 0 then none
  else
    let start := now.hoursBefore hours.toInt.toNat
    if start.secs < julianZero then none else some start.stamp

/-- `EmailRequest::sent_count`. A comparison with NULL selects nothing. -/
def EmailRequest.sentCount (now : Instant) (hours : Int32) (t : Table RequestRow) :
    Except SqlxError Int32 :=
  fetchI32 (t.rows.filter fun r => r.2.status = EmailMessageStatus.sent.asI32 ∧
    (windowStart now hours).any fun start => start ≤ r.2.createdAt).length

/-- `get_sent_count` -/
def getSentCount (now : Instant) (hours : Option Int32) (t : Table RequestRow) :
    Except AppError Int32 :=
  (EmailRequest.sentCount now (hours.getD 24) t).mapError AppError.database

end Ses
