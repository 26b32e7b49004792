import SesSender.Lib.Grouping
import SesSender.Lib.Lists
import SesSender.Lib.Sql

/-! The SQL of single statements, `SELECT … FROM … JOIN … WHERE … GROUP BY … ORDER BY …
LIMIT …` and `UPDATE … SET … WHERE … RETURNING …`: from the text to the statement, and
from the statement to the answers it admits. What SQL leaves open stays open: the order
of rows and groups, and which of several rows with one key a `LIMIT` cuts off. -/

namespace Sql

/-- Line breaks separate words as blanks do. -/
def oneLine (text : String) : List Char := text.toList.map fun c => if c = '\n' then ' ' else c

/-! ## Statements -/

inductive Operand where
  /-- `source.name`, or `name` where `source` is empty -/
  | column (source name : String)
  | param (k : ℕ)
  /-- `datetime('now')` -/
  | now
  /-- `datetime('now', ?)` -/
  | shifted (k : ℕ)
  deriving DecidableEq

inductive Compare where
  | eq | le | ge
  deriving DecidableEq

inductive Condition where
  | compare (left : Operand) (op : Compare) (right : Operand)
  /-- `left IN (?, …)` -/
  | among (left : Operand) (keys : List ℕ)
  deriving DecidableEq

inductive Item where
  | value (o : Operand)
  /-- `COUNT(*)` -/
  | countAll
  /-- `COUNT(DISTINCT o)` -/
  | countDistinct (o : Operand)
  deriving DecidableEq

/-- A table under the name its columns are qualified with. -/
structure Source where
  table : String
  name : String
  deriving DecidableEq

structure Join where
  source : Source
  left : Operand
  right : Operand
  deriving DecidableEq

structure Select where
  items : List Item
  source : Source
  join : Option Join
  filter : List Condition
  groupBy : Option Operand
  orderBy : Option Operand
  limit : Option ℕ
  deriving DecidableEq

inductive Filter where
  | all (conditions : List Condition)
  /-- `left IN (SELECT …)` -/
  | among (left : Operand) (q : Select)
  deriving DecidableEq

/-- `UPDATE table SET sets WHERE filter RETURNING returning` -/
structure Change where
  table : String
  sets : List (String × Operand)
  filter : Filter
  returning : List Operand
  deriving DecidableEq

/-! ## Reading a statement -/

def parseOperand : List Token → Option (Operand × List Token)
  | .param k :: ts => some (.param k, ts)
  | .word "datetime" :: .symbol '(' :: .literal "now" :: .symbol ')' :: ts => some (.now, ts)
  | .word "datetime" :: .symbol '(' :: .literal "now" :: .symbol ',' :: .param k :: .symbol ')' ::
      ts => some (.shifted k, ts)
  | .word source :: .symbol '.' :: .word name :: ts => some (.column source name, ts)
  | .word name :: ts => some (.column "" name, ts)
  | _ => none

/-- One thing after another with `sep` between them, at most `fuel` of them. -/
def parseSep {β : Type} (one : List Token → Option (β × List Token)) (sep : Token) :
    ℕ → List Token → Option (List β × List Token)
  | 0, _ => none
  | fuel + 1, ts =>
    match one ts with
    | some (b, t :: rest) =>
      if t = sep then (parseSep one sep fuel rest).map fun r => (b :: r.1, r.2)
      else some ([b], t :: rest)
    | some (b, []) => some ([b], [])
    | none => none

def parseItem : List Token → Option (Item × List Token)
  | .word "COUNT" :: .symbol '(' :: .symbol '*' :: .symbol ')' :: ts => some (.countAll, ts)
  | .word "COUNT" :: .symbol '(' :: .word "DISTINCT" :: ts =>
    match parseOperand ts with
    | some (o, .symbol ')' :: rest) => some (.countDistinct o, rest)
    | _ => none
  | ts => (parseOperand ts).map fun r => (.value r.1, r.2)

/-- A list `IN (?, …)` ends the text. -/
def parseCondition (ts : List Token) : Option (Condition × List Token) :=
  match parseOperand ts with
  | some (a, .symbol '=' :: rest) => (parseOperand rest).map fun r => (.compare a .eq r.1, r.2)
  | some (a, .symbol '<' :: .symbol '=' :: rest) =>
    (parseOperand rest).map fun r => (.compare a .le r.1, r.2)
  | some (a, .symbol '>' :: .symbol '=' :: rest) =>
    (parseOperand rest).map fun r => (.compare a .ge r.1, r.2)
  | some (a, .word "IN" :: .symbol '(' :: rest) =>
    (parseKeys rest).map fun keys => (.among a keys, [])
  | _ => none

def parseConditions (ts : List Token) : Option (List Condition × List Token) :=
  parseSep parseCondition (.word "AND") ts.length ts

/-- The words that can follow a table. -/
def keywords : List String :=
  ["INNER", "JOIN", "ON", "WHERE", "GROUP", "ORDER", "LIMIT", "SET", "RETURNING"]

def parseSource : List Token → Option (Source × List Token)
  | .word table :: .word name :: ts =>
    if name ∈ keywords then some (⟨table, table⟩, .word name :: ts) else some (⟨table, name⟩, ts)
  | .word table :: ts => some (⟨table, table⟩, ts)
  | _ => none

def parseOn (ts : List Token) : Option (Option Join × List Token) :=
  match parseSource ts with
  | some (source, .word "ON" :: rest) =>
    match parseOperand rest with
    | some (left, .symbol '=' :: rest) =>
      (parseOperand rest).map fun r => (some ⟨source, left, r.1⟩, r.2)
    | _ => none
  | _ => none

def parseJoin : List Token → Option (Option Join × List Token)
  | .word "INNER" :: .word "JOIN" :: ts => parseOn ts
  | .word "JOIN" :: ts => parseOn ts
  | ts => some (none, ts)

def parseWhere : List Token → Option (List Condition × List Token)
  | .word "WHERE" :: ts => parseConditions ts
  | ts => some ([], ts)

def parseGroupBy : List Token → Option (Option Operand × List Token)
  | .word "GROUP" :: .word "BY" :: ts => (parseOperand ts).map fun r => (some r.1, r.2)
  | ts => some (none, ts)

def parseOrderBy : List Token → Option (Option Operand × List Token)
  | .word "ORDER" :: .word "BY" :: ts =>
    match parseOperand ts with
    | some (o, .word "ASC" :: rest) => some (some o, rest)
    | _ => none
  | ts => some (none, ts)

def parseLimit : List Token → Option ℕ × List Token
  | .word "LIMIT" :: .param k :: ts => (some k, ts)
  | ts => (none, ts)

/-- The clauses behind the items. -/
def parseFrom (items : List Item) (ts : List Token) : Option (Select × List Token) :=
  (parseSource ts).bind fun source =>
    (parseJoin source.2).bind fun join =>
      (parseWhere join.2).bind fun filter =>
        (parseGroupBy filter.2).bind fun groupBy =>
          (parseOrderBy groupBy.2).map fun orderBy =>
            let limit := parseLimit orderBy.2
            (⟨items, source.1, join.1, filter.1, groupBy.1, orderBy.1, limit.1⟩, limit.2)

def parseSelectTokens : List Token → Option (Select × List Token)
  | .word "SELECT" :: ts =>
    match parseSep parseItem (.symbol ',') ts.length ts with
    | some (items, .word "FROM" :: rest) => parseFrom items rest
    | _ => none
  | _ => none

def parseSelect (text : String) : Option Select :=
  match parseSelectTokens (lex 0 false [] (oneLine text)) with
  | some (q, []) => some q
  | _ => none

def parseSet : List Token → Option ((String × Operand) × List Token)
  | .word c :: .symbol '=' :: ts => (parseOperand ts).map fun r => ((c, r.1), r.2)
  | _ => none

def parseFilter (ts : List Token) : Option (Filter × List Token) :=
  match parseOperand ts with
  | some (a, .word "IN" :: .symbol '(' :: .word "SELECT" :: rest) =>
    match parseSelectTokens (.word "SELECT" :: rest) with
    | some (q, .symbol ')' :: rest) => some (.among a q, rest)
    | _ => none
  | _ => (parseConditions ts).map fun r => (.all r.1, r.2)

def parseReturning : List Token → Option (List Operand)
  | [] => some []
  | .word "RETURNING" :: ts =>
    match parseSep parseOperand (.symbol ',') ts.length ts with
    | some (os, []) => some os
    | _ => none
  | _ => none

def parseChangeTokens : List Token → Option Change
  | .word "UPDATE" :: .word table :: .word "SET" :: ts =>
    match parseSep parseSet (.symbol ',') ts.length ts with
    | some (sets, .word "WHERE" :: rest) =>
      (parseFilter rest).bind fun filter =>
        (parseReturning filter.2).map fun returning => ⟨table, sets, filter.1, returning⟩
    | _ => none
  | _ => none

def parseChange (text : String) : Option Change := parseChangeTokens (lex 0 false [] (oneLine text))

/-- A list of `?`s is read as the condition that ends the text. -/
theorem parseConditions_among {left : Operand} {ts : List Token} {keys : List ℕ} (hkeys : keys ≠ [])
    (hleft : parseOperand (ts ++ .word "IN" :: .symbol '(' :: keysTokens keys) =
      some (left, .word "IN" :: .symbol '(' :: keysTokens keys)) :
    parseConditions (ts ++ .word "IN" :: .symbol '(' :: keysTokens keys) =
      some ([.among left keys], []) := by
  have hone : parseCondition (ts ++ .word "IN" :: .symbol '(' :: keysTokens keys) =
      some (.among left keys, []) := by
    rw [parseCondition, hleft]
    simp only [parseKeys_tokens hkeys, Option.map_some]
  obtain ⟨k, hk⟩ : ∃ k, (ts ++ .word "IN" :: .symbol '(' :: keysTokens keys).length = k + 1 :=
    ⟨ts.length + 1 + (keysTokens keys).length, by simp; omega⟩
  rw [parseConditions, hk, parseSep, hone]

theorem parseFilter_among {left : Operand} {ts : List Token} {keys : List ℕ} (hkeys : keys ≠ [])
    (hleft : parseOperand (ts ++ .word "IN" :: .symbol '(' :: keysTokens keys) =
      some (left, .word "IN" :: .symbol '(' :: keysTokens keys)) :
    parseFilter (ts ++ .word "IN" :: .symbol '(' :: keysTokens keys) =
      some (.all [.among left keys], []) := by
  obtain ⟨k, rest, hhead⟩ : ∃ k rest, keysTokens keys = .param k :: rest := by
    cases keys with
    | nil => exact absurd rfl hkeys
    | cons k ks =>
      cases ks with
      | nil => exact ⟨k, _, rfl⟩
      | cons k' ks => exact ⟨k, _, rfl⟩
  have hconditions := parseConditions_among hkeys hleft
  rw [parseFilter, hleft, hconditions, hhead]
  rfl

/-! ## What a statement names -/

/-- Which of the sources has the column, when it is one alone. -/
def resolve (names : List (String × List String)) (source name : String) : Option ℕ :=
  match names.zipIdx.filter fun p => (source = "" ∨ p.1.1 = source) ∧ name ∈ p.1.2 with
  | [p] => some p.2
  | _ => none

section Known

variable (names : List (String × List String))

def Operand.known : Operand → Bool
  | .column source name => (resolve names source name).isSome
  | _ => true

def Condition.known : Condition → Bool
  | .compare left _ right => left.known names && right.known names
  | .among left _ => left.known names

def Item.known : Item → Bool
  | .value o => o.known names
  | .countAll => true
  | .countDistinct o => o.known names

end Known

/-- `ON` is one more condition. -/
def Select.conditions (q : Select) : List Condition :=
  (q.join.map fun j => .compare j.left .eq j.right).toList ++ q.filter

def Select.known (names : List (String × List String)) (q : Select) : Bool :=
  q.items.all (·.known names) && q.conditions.all (·.known names) &&
    q.groupBy.all (·.known names) && q.orderBy.all (·.known names)

/-! ## What a statement yields -/

/-- What the database does with values. A comparison with NULL holds of nothing. -/
structure Values (α : Type*) where
  eq : α → α → Bool
  le : α → α → Bool
  clock : α
  /-- the clock, moved as the text says -/
  shifted : α → α
  count : ℕ → α
  /-- how many rows a `LIMIT` leaves, `none` for all -/
  limit : α → Option ℕ

structure Relation (α : Type*) where
  columns : List String
  rows : List (String → α)

/-- Rows side by side, one of each source. -/
abbrev Tuple (α : Type*) := List (String → α)

structure Product (α : Type*) where
  names : List (String × List String)
  rows : List (Tuple α)

section Eval

variable {α : Type*} (V : Values α) (param : ℕ → α) (db : String → Option (Relation α))

def Source.product (s : Source) : Option (Product α) :=
  (db s.table).map fun r => ⟨[(s.name, r.columns)], r.rows.map fun row => [row]⟩

def Product.times (p p' : Product α) : Product α :=
  ⟨p.names ++ p'.names, p.rows.flatMap fun r => p'.rows.map fun r' => r ++ r'⟩

def Select.product (q : Select) : Option (Product α) :=
  match q.join with
  | none => q.source.product db
  | some j =>
    (q.source.product db).bind fun p => (j.source.product db).map fun p' => p.times p'

theorem Select.product_single {q : Select} {r : Relation α} (hjoin : q.join = none)
    (hr : db q.source.table = some r) :
    q.product db = some ⟨[(q.source.name, r.columns)], r.rows.map fun row => [row]⟩ := by
  rw [Select.product, hjoin, Source.product, hr]
  rfl

theorem Select.product_join {q : Select} {j : Join} {r r' : Relation α} (hjoin : q.join = some j)
    (hr : db q.source.table = some r) (hr' : db j.source.table = some r') :
    q.product db = some ⟨[(q.source.name, r.columns), (j.source.name, r'.columns)],
      r.rows.flatMap fun row => r'.rows.map fun row' => [row, row']⟩ := by
  simp only [Select.product, hjoin, Source.product, hr, hr', Option.map_some, Option.bind_some,
    Product.times, List.flatMap_map, List.map_map]
  rfl

/-- The rows of a join, each with what it is joined with. -/
def pairs {ξ υ : Type*} (xs : List ξ) (ys : List υ) (on : ξ → υ → Bool) : List (ξ × υ) :=
  xs.flatMap fun x => (ys.filter (on x)).map fun y => (x, y)

variable (names : List (String × List String)) (row : Tuple α)

def Operand.eval : Operand → Option α
  | .column source name => (resolve names source name).bind fun i => row[i]?.map fun r => r name
  | .param k => some (param k)
  | .now => some V.clock
  | .shifted k => some (V.shifted (param k))

def Compare.holds : Compare → α → α → Bool
  | .eq, x, y => V.eq x y
  | .le, x, y => V.le x y
  | .ge, x, y => V.le y x

def Condition.holds : Condition → Bool
  | .compare left op right =>
    match left.eval V param names row, right.eval V param names row with
    | some x, some y => op.holds V x y
    | _, _ => false
  | .among left keys => (left.eval V param names row).any fun x => keys.any fun k => V.eq x (param k)

def holdsAll (conditions : List Condition) : Bool := conditions.all fun c => c.holds V param names row

theorem filter_pairs {ξ υ : Type*} {f : ξ → υ → Tuple α} {conditions : List Condition}
    {on : ξ → υ → Bool} (hon : ∀ x y, holdsAll V param names (f x y) conditions = on x y)
    (xs : List ξ) (ys : List υ) :
    ((xs.flatMap fun x => ys.map (f x)).filter fun row =>
      holdsAll V param names row conditions) = (pairs xs ys on).map fun z => f z.1 z.2 := by
  rw [List.filter_flatMap, pairs, List.map_flatMap]
  refine List.flatMap_congr fun x _ => ?_
  rw [List.filter_map, List.map_map]
  congr 1
  exact List.filter_congr fun y _ => hon x y

def Item.aggregates : Item → Bool
  | .value _ => false
  | _ => true

/-- The value of an item for a group of rows. -/
def Item.eval [DecidableEq α] (group : List (Tuple α)) : Item → Option α
  | .value o => group.head?.bind fun row => o.eval V param names row
  | .countAll => some (V.count group.length)
  | .countDistinct o =>
    let values := group.filterMap fun row => o.eval V param names row
    some (V.count (values.filter fun v => V.eq v v).dedup.length)

theorem Item.eval_countDistinct [DecidableEq α] {ξ : Type*} {o : Operand} {tuple : ξ → Tuple α}
    {value : ξ → α} (hvalue : ∀ x, o.eval V param names (tuple x) = some (value x))
    (heq : ∀ x, V.eq (value x) (value x) = true) (xs : List ξ) :
    Item.eval V param names (xs.map tuple) (.countDistinct o) =
      some (V.count (xs.map value).dedup.length) := by
  have hvalues : (xs.map tuple).filterMap (fun row => o.eval V param names row) = xs.map value := by
    rw [List.filterMap_map, ← List.filterMap_eq_map]
    exact List.filterMap_congr fun x _ => hvalue x
  have hall : (xs.map value).filter (fun v => V.eq v v) = xs.map value := by
    refine List.filter_eq_self.2 fun v hv => ?_
    obtain ⟨x, -, rfl⟩ := List.mem_map.1 hv
    exact heq x
  simp only [Item.eval, hvalues, hall]

/-- How many of `n` rows are left. -/
def Select.kept (q : Select) (n : ℕ) : ℕ :=
  (q.limit.bind fun k => V.limit (param k)).elim n fun m => min m n

theorem Select.kept_self {q : Select} (hlimit : q.limit = none) (n : ℕ) : q.kept V param n = n := by
  rw [Select.kept, hlimit]
  rfl

variable [DecidableEq α]

/-- The rows of the product that pass, in the groups that become a row each. -/
def Select.groups (p : Product α) (q : Select) : List (List (Tuple α)) :=
  let rows := p.rows.filter fun row => holdsAll V param p.names row q.conditions
  match q.groupBy with
  | some o => (Grouping.groupBy (fun row => o.eval V param p.names row) rows).map Prod.snd
  | none => if q.items.any (·.aggregates) then [rows] else rows.map fun row => [row]

section Groups

variable {V param} {ξ : Type*} {p : Product α} {q : Select} {xs : List ξ} {tuple : ξ → Tuple α}

theorem Select.groups_rows (hgroupBy : q.groupBy = none)
    (hitems : q.items.any (·.aggregates) = false)
    (hrows : (p.rows.filter fun row => holdsAll V param p.names row q.conditions) = xs.map tuple) :
    q.groups V param p = xs.map fun x => [tuple x] := by
  rw [Select.groups, hgroupBy, hrows, hitems]
  exact List.map_map

/-- Without `GROUP BY` an aggregate is over all rows. -/
theorem Select.groups_all (hgroupBy : q.groupBy = none)
    (hitems : q.items.any (·.aggregates) = true)
    (hrows : (p.rows.filter fun row => holdsAll V param p.names row q.conditions) = xs.map tuple) :
    q.groups V param p = [xs].map fun xs => xs.map tuple := by
  rw [Select.groups, hgroupBy, hrows, hitems]
  rfl

theorem Select.groups_groupBy {ι : Type*} [DecidableEq ι] {o : Operand} (value : ι → α)
    (key : ξ → ι) (hinj : Function.Injective value) (hgroupBy : q.groupBy = some o)
    (hkey : ∀ x, o.eval V param p.names (tuple x) = some (value (key x)))
    (hrows : (p.rows.filter fun row => holdsAll V param p.names row q.conditions) = xs.map tuple) :
    q.groups V param p = (Grouping.groupBy key xs).map fun g => g.2.map tuple := by
  have hsome : Function.Injective fun i => some (value i) :=
    (Option.some_injective α).comp hinj
  rw [Select.groups, hgroupBy, hrows]
  dsimp only
  rw [Grouping.groupBy_map (fun i => some (value i)) key hsome hkey, List.map_map]
  rfl

end Groups

/-- The row a group becomes. -/
def Select.output (p : Product α) (q : Select) (group : List (Tuple α)) :
    Option (List α) :=
  q.items.mapM (Item.eval V param p.names group)

/-- By the key of `ORDER BY`, `group` may come before `group'`. -/
def Select.before (p : Product α) (q : Select) (group group' : List (Tuple α)) : Bool :=
  match q.orderBy with
  | none => true
  | some o =>
    match Item.eval V param p.names group (.value o),
        Item.eval V param p.names group' (.value o) with
    | some x, some y => V.le x y
    | _, _ => false

/-- The statement may yield `result`. -/
def Select.Yields (q : Select) (result : List (List α)) : Prop :=
  ∃ p, q.product db = some p ∧ q.known p.names = true ∧
    ∃ kept rest : List (List (Tuple α)), (kept ++ rest).Perm (q.groups V param p) ∧
      kept.length = q.kept V param (q.groups V param p).length ∧
      kept.Pairwise (fun g g' => q.before V param p g g' = true) ∧
      (∀ g ∈ kept, ∀ g' ∈ rest, q.before V param p g g' = true) ∧
      kept.mapM (q.output V param p) = some result

/-- The groups that are kept, in their order, and the rest, each named by what it is made of. -/
theorem Select.yields_iff {ρ : Type*} {q : Select} {p : Product α} {xs : List ρ}
    {group : ρ → List (Tuple α)} {out : ρ → List α} {result : List (List α)}
    (hp : q.product db = some p) (hknown : q.known p.names = true)
    (hgroups : q.groups V param p = xs.map group)
    (hout : ∀ x ∈ xs, q.output V param p (group x) = some (out x)) :
    q.Yields V param db result ↔ ∃ kept rest : List ρ, (kept ++ rest).Perm xs ∧
      kept.length = q.kept V param xs.length ∧
      kept.Pairwise (fun x y => q.before V param p (group x) (group y) = true) ∧
      (∀ x ∈ kept, ∀ y ∈ rest, q.before V param p (group x) (group y) = true) ∧
      result = kept.map out := by
  have hmap : ∀ kept rest : List ρ, (kept ++ rest).Perm xs →
      (kept.map group).mapM (q.output V param p) = some (kept.map out) := by
    intro kept rest hperm
    rw [List.mapM_map]
    exact Lists.mapM_of_forall fun x hx => hout x (hperm.subset (List.mem_append_left rest hx))
  refine ⟨?_, ?_⟩
  · rintro ⟨p', hp', -, kept, rest, hperm, hlen, hsorted, hcross, hresult⟩
    obtain rfl : p = p' := Option.some.inj (hp.symm.trans hp')
    rw [hgroups] at hperm hlen
    obtain ⟨zs, hzs, hmapped⟩ := Lists.exists_perm_map hperm
    obtain ⟨ks, rs, rfl, rfl, rfl⟩ := List.map_eq_append_iff.1 hmapped
    rw [List.length_map, List.length_map] at hlen
    rw [List.pairwise_map] at hsorted
    refine ⟨ks, rs, hzs, hlen, hsorted, fun x hx y hy => ?_, ?_⟩
    · exact hcross _ (List.mem_map_of_mem hx) _ (List.mem_map_of_mem hy)
    · rw [hmap ks rs hzs] at hresult
      exact (Option.some.inj hresult).symm
  · rintro ⟨kept, rest, hperm, hlen, hsorted, hcross, rfl⟩
    refine ⟨p, hp, hknown, kept.map group, rest.map group, ?_, ?_, ?_, ?_, hmap kept rest hperm⟩
    · rw [hgroups, ← List.map_append]
      exact hperm.map _
    · rw [hgroups, List.length_map, List.length_map, hlen]
    · exact List.pairwise_map.2 hsorted
    · intro g hg g' hg'
      obtain ⟨x, hx, rfl⟩ := List.mem_map.1 hg
      obtain ⟨y, hy, rfl⟩ := List.mem_map.1 hg'
      exact hcross x hx y hy

/-- Without `ORDER BY` and `LIMIT` each group becomes a row, in any order. -/
theorem Select.yields_perm_iff {ρ : Type*} {q : Select} {p : Product α} {xs : List ρ}
    {group : ρ → List (Tuple α)} {out : ρ → List α} {result : List (List α)}
    (horder : q.orderBy = none) (hlimit : q.limit = none) (hp : q.product db = some p)
    (hknown : q.known p.names = true) (hgroups : q.groups V param p = xs.map group)
    (hout : ∀ x ∈ xs, q.output V param p (group x) = some (out x)) :
    q.Yields V param db result ↔ ∃ kept : List ρ, kept.Perm xs ∧ result = kept.map out := by
  have hbefore : ∀ g g' : List (Tuple α), q.before V param p g g' = true := fun g g' => by
    rw [Select.before, horder]
  rw [q.yields_iff V param db hp hknown hgroups hout]
  refine ⟨?_, ?_⟩
  · rintro ⟨kept, rest, hperm, hlen, -, -, hresult⟩
    rw [q.kept_self V param hlimit, ← hperm.length_eq, List.length_append] at hlen
    obtain rfl : rest = [] := List.length_eq_zero_iff.1 (by omega)
    rw [List.append_nil] at hperm
    exact ⟨kept, hperm, hresult⟩
  · rintro ⟨kept, hperm, hresult⟩
    refine ⟨kept, [], by rwa [List.append_nil], ?_, ?_, nofun, hresult⟩
    · rw [q.kept_self V param hlimit, hperm.length_eq]
    · exact List.pairwise_of_forall fun x y => hbefore (group x) (group y)

/-- The rows an `UPDATE` of a table with these columns may pick. -/
def Filter.Picks (columns : List String) (table : String) (f : Filter)
    (picked : (String → α) → Bool) : Prop :=
  match f with
  | .all conditions =>
    conditions.all (·.known [(table, columns)]) = true ∧
      picked = fun row => holdsAll V param [(table, columns)] [row] conditions
  | .among left q =>
    left.known [(table, columns)] = true ∧ ∃ result, q.Yields V param db result ∧
      picked = fun row => (left.eval V param [(table, columns)] [row]).any fun x =>
        result.any fun r => r.head?.any fun y => V.eq x y

end Eval

end Sql
