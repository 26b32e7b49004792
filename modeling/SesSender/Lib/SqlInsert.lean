import SesSender.Lib.Sql

/-! The SQL of generated statements `INSERT INTO t (c, …) VALUES (v, …), …`, with
one group of values after another. A `?` stands for the parameter of its place
among the `?`s of the text. -/

namespace Sql

inductive Value where
  | param (k : ℕ)
  /-- `datetime('now')` -/
  | now
  deriving DecidableEq

/-- `INSERT INTO table (columns) VALUES rows` -/
structure Insert where
  table : String
  columns : List String
  rows : List (List Value)
  deriving DecidableEq

/-! ## Reading a statement -/

/-- Names with commas between them, up to the bracket that closes them. -/
def parseNames : List Token → Option (List String × List Token)
  | .word c :: .symbol ',' :: ts => (parseNames ts).map fun r => (c :: r.1, r.2)
  | .word c :: .symbol ')' :: ts => some ([c], ts)
  | _ => none

def parseValues : List Token → Option (List Value × List Token)
  | .param k :: .symbol ',' :: ts => (parseValues ts).map fun r => (.param k :: r.1, r.2)
  | .param k :: .symbol ')' :: ts => some ([.param k], ts)
  | .word "datetime" :: .symbol '(' :: .literal "now" :: .symbol ')' :: .symbol ',' :: ts =>
    (parseValues ts).map fun r => (.now :: r.1, r.2)
  | .word "datetime" :: .symbol '(' :: .literal "now" :: .symbol ')' :: .symbol ')' :: ts =>
    some ([.now], ts)
  | _ => none

/-- Groups of values with commas between them up to the end, at most `fuel` of them. -/
def parseRows : ℕ → List Token → Option (List (List Value))
  | fuel + 1, .symbol '(' :: ts =>
    match parseValues ts with
    | some (vs, []) => some [vs]
    | some (vs, .symbol ',' :: rest) => (parseRows fuel rest).map (vs :: ·)
    | _ => none
  | _, _ => none

def parseInsertTokens : List Token → Option Insert
  | .word "INSERT" :: .word "INTO" :: .word table :: .symbol '(' :: ts =>
    match parseNames ts with
    | some (columns, .word "VALUES" :: rest) =>
      (parseRows rest.length rest).map fun rows => ⟨table, columns, rows⟩
    | _ => none
  | _ => none

def parseInsert (text : String) : Option Insert := parseInsertTokens (tokens text)

/-! ## Statements as tokens -/

def Value.tokens : Value → List Token
  | .param k => [.param k]
  | .now => [.word "datetime", .symbol '(', .literal "now", .symbol ')']

def namesTokens : List String → List Token
  | [] => [.symbol ')']
  | [c] => [.word c, .symbol ')']
  | c :: cs => .word c :: .symbol ',' :: namesTokens cs

def valuesTokens : List Value → List Token
  | [] => [.symbol ')']
  | [v] => v.tokens ++ [.symbol ')']
  | v :: vs => v.tokens ++ .symbol ',' :: valuesTokens vs

def rowsTokens : List (List Value) → List Token
  | [] => []
  | [vs] => .symbol '(' :: valuesTokens vs
  | vs :: rows => .symbol '(' :: (valuesTokens vs ++ .symbol ',' :: rowsTokens rows)

def Insert.tokens (i : Insert) : List Token :=
  [.word "INSERT", .word "INTO", .word i.table, .symbol '('] ++
    (namesTokens i.columns ++ .word "VALUES" :: rowsTokens i.rows)

theorem parseNames_tokens {cs : List String} (hne : cs ≠ []) (rest : List Token) :
    parseNames (namesTokens cs ++ rest) = some (cs, rest) := by
  induction cs with
  | nil => exact absurd rfl hne
  | cons c cs ih =>
    cases cs with
    | nil => rfl
    | cons c' cs =>
      have htail := ih (by simp)
      simp only [namesTokens, List.cons_append, parseNames] at htail ⊢
      rw [htail]
      rfl

theorem parseValues_tokens {vs : List Value} (hne : vs ≠ []) (rest : List Token) :
    parseValues (valuesTokens vs ++ rest) = some (vs, rest) := by
  induction vs with
  | nil => exact absurd rfl hne
  | cons v vs ih =>
    cases vs with
    | nil => cases v <;> rfl
    | cons v' vs =>
      have htail := ih (by simp)
      cases v with
      | param k =>
        simp only [valuesTokens, Value.tokens, List.cons_append, List.nil_append,
          parseValues] at htail ⊢
        rw [htail]
        rfl
      | now =>
        simp only [valuesTokens, Value.tokens, List.cons_append, List.nil_append,
          parseValues] at htail ⊢
        rw [htail]
        rfl

theorem length_rowsTokens (rows : List (List Value)) : rows.length ≤ (rowsTokens rows).length := by
  induction rows with
  | nil => exact le_rfl
  | cons vs rows ih =>
    cases rows with
    | nil => simp [rowsTokens]
    | cons vs' rows =>
      simp only [rowsTokens, List.length_cons, List.length_append] at ih ⊢
      omega

theorem parseRows_tokens {rows : List (List Value)} (hne : rows ≠ [])
    (hvalues : ∀ vs ∈ rows, vs ≠ []) {fuel : ℕ} (hfuel : rows.length ≤ fuel) :
    parseRows fuel (rowsTokens rows) = some rows := by
  induction rows generalizing fuel with
  | nil => exact absurd rfl hne
  | cons vs rows ih =>
    obtain ⟨fuel, rfl⟩ : ∃ k, fuel = k + 1 := ⟨fuel - 1, by simp at hfuel; omega⟩
    have hvs := hvalues vs List.mem_cons_self
    cases rows with
    | nil =>
      have hparse := parseValues_tokens hvs []
      rw [List.append_nil] at hparse
      simp only [rowsTokens, parseRows, hparse]
    | cons vs' rows =>
      have hle : (vs' :: rows).length ≤ fuel := by simpa using hfuel
      have hrest := ih (by simp) (fun v hv => hvalues v (List.mem_cons_of_mem _ hv)) hle
      simp only [rowsTokens, parseRows, parseValues_tokens hvs] at hrest ⊢
      rw [hrest]
      rfl

/-- A statement that names some column and inserts some values is read back from its tokens. -/
theorem parseInsertTokens_tokens {i : Insert} (hcolumns : i.columns ≠ []) (hrows : i.rows ≠ [])
    (hvalues : ∀ vs ∈ i.rows, vs ≠ []) : parseInsertTokens i.tokens = some i := by
  obtain ⟨table, columns, rows⟩ := i
  simp only [Insert.tokens, List.cons_append, List.nil_append, parseInsertTokens,
    parseNames_tokens hcolumns, parseRows_tokens hrows hvalues (length_rowsTokens rows),
    Option.map_some]

/-! ## Groups all alike -/

/-- `c` groups, the first `?` of the first being the `n`-th of the text, each with `m` of them. -/
def rowsFrom (row : ℕ → List Value) (m : ℕ) : ℕ → ℕ → List (List Value)
  | _, 0 => []
  | n, c + 1 => row n :: rowsFrom row m (n + m) c

section Rows

variable {row : ℕ → List Value} {m : ℕ}

theorem mem_rowsFrom {vs : List Value} {n c : ℕ} (h : vs ∈ rowsFrom row m n c) :
    ∃ k, vs = row k := by
  induction c generalizing n with
  | zero => cases h
  | succ c ih =>
    rcases List.mem_cons.1 h with rfl | h
    · exact ⟨n, rfl⟩
    · exact ih h

/-- The text of one group, again and again with commas between, gives the tokens of them all. -/
theorem lexes_rows {group : String}
    (hgroup : ∀ n, Lexes n [] group.toList (.symbol '(' :: valuesTokens (row n)) m [])
    (n : ℕ) {c : ℕ} (hc : c ≠ 0) :
    Lexes n [] (", ".intercalate (List.replicate c group)).toList
      (rowsTokens (rowsFrom row m n c)) (c * m) [] := by
  rw [String.toList_intercalate, List.map_replicate]
  induction c generalizing n with
  | zero => exact absurd rfl hc
  | succ c ih =>
    cases c with
    | zero =>
      rw [Nat.zero_add, Nat.one_mul]
      simpa [rowsFrom, rowsTokens] using hgroup n
    | succ c =>
      have hcomma : Lexes (n + m) [] ", ".toList [.symbol ','] 0 [] := ⟨fun _ => rfl, rfl⟩
      have hall := (hgroup n).append rfl (hcomma.append rfl (ih (n + m) (by omega)))
      have hcount : m + (0 + (c + 1) * m) = (c + 1 + 1) * m := by
        rw [Nat.zero_add, Nat.add_mul (c + 1), Nat.one_mul, Nat.add_comm]
      rw [hcount] at hall
      exact hall

/-- Every group reads the values of its own element. -/
theorem mapM_rowsFrom {ξ α β : Type*} {values : ξ → List α} {g : List α → List Value → Option β}
    {f : ξ → Option β} (hlen : ∀ x, (values x).length = m)
    (heval : ∀ before x after, g (before ++ (values x ++ after)) (row before.length) = f x)
    (before : List α) (xs : List ξ) :
    (rowsFrom row m before.length xs.length).mapM (g (before ++ xs.flatMap values)) =
      xs.mapM f := by
  induction xs generalizing before with
  | nil => rfl
  | cons x xs ih =>
    have hrest := ih (before ++ values x)
    rw [List.length_append, hlen, List.append_assoc] at hrest
    rw [List.length_cons, rowsFrom, List.mapM_cons, List.mapM_cons, List.flatMap_cons, heval, hrest]

end Rows

/-! ## Values -/

/-- What a value is on execution. -/
def Value.eval {α : Type*} (param : ℕ → α) (clock : α) : Value → α
  | .param k => param k
  | .now => clock

end Sql
