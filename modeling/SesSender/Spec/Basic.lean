import SesSender.Lib.Stamp
import SesSender.Lib.Table

/-! The data of the program: the rows of its three tables, the values it passes
around in memory, and what it takes from outside. Rowids are 64-bit and are
`Int` here; ids in memory are `i32` and are `Int32`. -/

namespace Ses

open Calendar

/-- `as i32`: the low 32 bits. -/
def asI32 (id : Int) : Int32 := Int32.ofInt id

def i32Max : Int := 2147483647

theorem asI32_toInt {id : Int} (h0 : 0 ≤ id) (h : id ≤ i32Max) : (asI32 id).toInt = id := by
  unfold asI32 i32Max at *
  rw [Int32.toInt_ofInt]
  exact Int.bmod_eq_of_le (by simp [Int32.size]; omega) (by simp [Int32.size]; omega)

/-- Reading an INTEGER column as `i32`, an error when it does not fit. -/
def decodeI32 (x : Int) : Option Int32 :=
  if -2147483648 ≤ x ∧ x ≤ i32Max then some (Int32.ofInt x) else none

theorem decodeI32_toInt (x : Int32) : decodeI32 x.toInt = some x := by
  have h1 := x.le_toInt
  have h2 := x.toInt_lt
  unfold decodeI32 i32Max
  rw [if_pos (by constructor <;> omega), Int32.ofInt_toInt]

theorem decodeI32_eq_some {x : Int} {y : Int32} (h : decodeI32 x = some y) : y.toInt = x := by
  unfold decodeI32 i32Max at h
  split at h
  · obtain rfl := Option.some.inj h
    rw [Int32.toInt_ofInt]
    exact Int.bmod_eq_of_le (by simp [Int32.size]; omega) (by simp [Int32.size]; omega)
  · cases h

theorem decodeI32_of_fit {x : Int} (h0 : 0 ≤ x) (h : x ≤ i32Max) :
    decodeI32 x = some (asI32 x) :=
  if_pos ⟨by omega, h⟩

/-- What is not negative is read as an `i32` unless it is too large. -/
theorem decodeI32_iff_fit {x : Int} (h0 : 0 ≤ x) : (∃ y, decodeI32 x = some y) ↔ x ≤ i32Max := by
  refine ⟨fun ⟨y, hy⟩ => ?_, fun h => ⟨_, decodeI32_of_fit h0 h⟩⟩
  have := decodeI32_eq_some hy
  have := y.toInt_lt
  unfold i32Max
  omega

/-- A wall-clock reading in UTC. The clock shows no leap second. -/
structure Instant extends DateTime where
  second_lt : second < 60

/-! ## Statuses -/

inductive EmailMessageStatus where
  | created | processed | sent | failed | stopped
  deriving DecidableEq, Repr

/-- `as i32`, as the status column stores it. -/
def EmailMessageStatus.asI32 : EmailMessageStatus → Int
  | .created => 0
  | .processed => 1
  | .sent => 2
  | .failed => 3
  | .stopped => 4

/-- `from_i32` -/
def EmailMessageStatus.fromI32 (value : Int32) : Option EmailMessageStatus :=
  match value.toInt with
  | 0 => some .created
  | 1 => some .processed
  | 2 => some .sent
  | 3 => some .failed
  | 4 => some .stopped
  | _ => none

def EmailMessageStatus.asStr : EmailMessageStatus → String
  | .created => "Created"
  | .processed => "Processed"
  | .sent => "Sent"
  | .failed => "Failed"
  | .stopped => "Stopped"

theorem EmailMessageStatus.fromI32_eq_some {value : Int32} {st : EmailMessageStatus} :
    fromI32 value = some st ↔ value.toInt = st.asI32 := by
  unfold fromI32 EmailMessageStatus.asI32
  refine ⟨?_, ?_⟩
  · intro h
    split at h <;> rename_i hv <;> cases h <;> exact hv
  · intro h
    rw [h]
    cases st <;> rfl

theorem EmailMessageStatus.asStr_injective {st st' : EmailMessageStatus}
    (h : st.asStr = st'.asStr) : st = st' := by
  cases st <;> cases st' <;> first | rfl | exact absurd h (by decide)

/-! ## Rows -/

/-- `email_contents` -/
structure ContentRow where
  subject : String
  content : String
  createdAt : String
  deriving DecidableEq

/-- `email_requests`. The status column takes any integer. -/
structure RequestRow where
  topicId : String
  contentId : Int
  messageId : Option String
  email : String
  scheduledAt : String
  status : Int
  error : Option String
  createdAt : String
  updatedAt : String
  deriving DecidableEq

/-- `email_results` -/
structure ResultRow where
  requestId : Int
  status : String
  raw : Option String
  createdAt : String
  deriving DecidableEq

structure Db where
  contents : Table ContentRow
  requests : Table RequestRow
  results : Table ResultRow

def Db.empty : Db := ⟨Table.empty, Table.empty, Table.empty⟩

/-! ## Values in memory -/

structure EmailContent where
  id : Option Int32
  subject : String
  content : String
  deriving DecidableEq

structure EmailRequest where
  id : Option Int32
  topicId : Option String
  contentId : Option Int32
  email : String
  subject : String
  content : String
  scheduledAt : Option String
  status : Int
  error : Option String
  messageId : Option String
  deriving DecidableEq

/-- The rowid a request addresses: its id, widened back when it is bound. -/
def EmailRequest.rowid (req : EmailRequest) : Option Int := req.id.map Int32.toInt

inductive SqlxError where
  | rowNotFound
  | database
  deriving DecidableEq

/-! ## Outside -/

/-- `serde_json::Value`, numbers as their text. -/
inductive Value where
  | null
  | bool (b : Bool)
  | number (text : String)
  | string (s : String)
  | array (items : List Value)
  | object (fields : List (String × Value))

def Value.get (v : Value) (key : String) : Option Value :=
  match v with
  | .object fields => (fields.find? fun f => f.1 = key).map Prod.snd
  | _ => none

def Value.asStr : Value → Option String
  | .string s => some s
  | _ => none

structure SesNotification where
  eventType : String
  otherFields : Value

structure OpenQueryParams where
  requestId : Option String
  deriving DecidableEq

/-- What the code takes from outside: its configuration, the database option,
and the three library calls that read text. -/
structure Env where
  serverUrl : String
  sendChannelBuffer : ℕ
  postSendChannelBuffer : ℕ
  /-- whether the connections check foreign keys -/
  foreignKeys : Bool
  /-- `NaiveDateTime::parse_from_str(s, "%Y-%m-%d %H:%M:%S").ok()` -/
  parseFromStr : String → Option DateTime
  /-- `serde_json::from_str::<SesNotification>(s).ok()` -/
  sesNotification : String → Option SesNotification
  /-- the `Query<OpenQueryParams>` extractor on a query string -/
  openQuery : String → Option OpenQueryParams

end Ses
