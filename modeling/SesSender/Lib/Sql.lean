import Mathlib.Data.List.Basic
import Mathlib.Data.Nat.Digits.Defs
import Mathlib.Data.String.Basic

/-! The SQL of generated statements `UPDATE t SET c = CASE k WHEN … END, … WHERE
k IN (…)`: from the text to tokens, from the tokens to the statement, and the
value each assignment has. A `?` stands for the parameter of its place among the
`?`s of the text; one inside a literal stands for itself. -/

namespace Sql

/-! ## Tokens -/

inductive Token where
  | word (w : String)
  | number (n : ℕ)
  | literal (s : String)
  | param (k : ℕ)
  | symbol (c : Char)
  deriving DecidableEq

def isWord (c : Char) : Bool := c.isAlphanum || c = '_'

/-- The token the characters of a word make. -/
def wordToken (w : List Char) : List Token :=
  if w.isEmpty then []
  else if w.all Char.isDigit then [.number (Nat.ofDigitChars 10 w 0)]
  else [.word (String.ofList w)]

/-- The tokens of a text, after `n` parameters and with `w` read of a word or,
when `quoted`, of a literal. An open literal at the end leaves its quote. -/
def lex (n : ℕ) (quoted : Bool) (w : List Char) : List Char → List Token
  | [] => if quoted then [.symbol '\''] else wordToken w
  | c :: cs =>
    if quoted then
      if c = '\'' then .literal (String.ofList w) :: lex n false [] cs
      else lex n true (w ++ [c]) cs
    else if isWord c then lex n false (w ++ [c]) cs
    else wordToken w ++
      if c = '\'' then lex n true [] cs
      else if c = '?' then .param n :: lex (n + 1) false [] cs
      else if c = ' ' then lex n false [] cs
      else .symbol c :: lex n false [] cs

def tokens (text : String) : List Token := lex 0 false [] text.toList

def Token.isParam : Token → Bool
  | .param _ => true
  | _ => false

/-- How many `?`s of the text take a value. -/
def placeholders (text : String) : ℕ := (tokens text).countP Token.isParam

/-- With `n` parameters and the characters `v` of a word read, the text gives
`ts`, takes `k` parameters and ends inside the word `w`, whatever follows it. -/
structure Lexes (n : ℕ) (v text : List Char) (ts : List Token) (k : ℕ) (w : List Char) : Prop where
  lex_eq : ∀ rest, lex n false v (text ++ rest) = ts ++ lex (n + k) false w rest
  params : ts.countP Token.isParam = k

theorem Lexes.nil (n : ℕ) (v : List Char) : Lexes n v [] [] 0 v := ⟨fun _ => rfl, rfl⟩

theorem Lexes.append {n k l m : ℕ} {v w u xs ys : List Char} {ts us : List Token}
    (hx : Lexes n v xs ts k w) (hm : n + k = m) (hy : Lexes m w ys us l u) :
    Lexes n v (xs ++ ys) (ts ++ us) (k + l) u := by
  subst hm
  refine ⟨fun rest => ?_, by rw [List.countP_append, hx.params, hy.params]⟩
  rw [List.append_assoc, hx.lex_eq, hy.lex_eq, List.append_assoc, Nat.add_assoc]

section Whole

variable {text : String} {ts : List Token} {k : ℕ}

theorem Lexes.lex_all {cs : List Char} (h : Lexes 0 [] cs ts k []) : lex 0 false [] cs = ts := by
  have hend := h.lex_eq []
  rwa [List.append_nil, lex, if_neg (by simp), wordToken, List.isEmpty_nil, if_pos rfl,
    List.append_nil] at hend

theorem Lexes.tokens_eq (h : Lexes 0 [] text.toList ts k []) : tokens text = ts :=
  h.lex_all

theorem Lexes.placeholders_eq (h : Lexes 0 [] text.toList ts k []) : placeholders text = k := by
  rw [placeholders, h.tokens_eq, h.params]

end Whole

/-- The characters of a word are read as one. -/
theorem lex_word (n : ℕ) {w : List Char} (hw : ∀ c ∈ w, isWord c = true) (v rest : List Char) :
    lex n false v (w ++ rest) = lex n false (v ++ w) rest := by
  induction w generalizing v with
  | nil => rw [List.nil_append, List.append_nil]
  | cons c w ih =>
    rw [List.cons_append, lex, if_neg (by simp), if_pos (hw c (by simp)),
      ih fun c' hc' => hw c' (by simp [hc']), List.append_assoc]
    rfl

theorem isWord_of_isDigit {c : Char} (h : c.isDigit = true) : isWord c = true := by
  simp [isWord, Char.isAlphanum, h]

theorem isDigit_toDigits (n : ℕ) : ∀ c ∈ Nat.toDigits 10 n, c.isDigit = true :=
  fun _ hc => Nat.isDigit_of_mem_toDigits (by decide) (by decide) hc

/-- The decimal digits of a number, up to a blank. -/
theorem lexes_toDigits (n m : ℕ) : Lexes n [] (Nat.toDigits 10 m ++ [' ']) [.number m] 0 [] := by
  refine ⟨fun rest => ?_, rfl⟩
  have hd := isDigit_toDigits m
  have hne : (Nat.toDigits 10 m).isEmpty = false := by
    rw [List.isEmpty_eq_false_iff]
    exact Nat.toDigits_ne_nil
  rw [List.append_assoc, lex_word n fun c hc => isWord_of_isDigit (hd c hc), List.nil_append,
    List.singleton_append, lex, if_neg (by simp), if_neg (by decide), if_neg (by decide),
    if_neg (by decide), if_pos rfl, wordToken, if_neg (by simp [hne]),
    if_pos (List.all_eq_true.2 hd), Nat.ofDigitChars_ten_toDigits]
  rfl

/-- An integer as a term of the language. -/
def intTokens (i : Int) : List Token :=
  if i < 0 then [.symbol '-', .number i.natAbs] else [.number i.natAbs]

theorem lexes_int (n : ℕ) (i : Int) :
    Lexes n [] ((toString i).toList ++ [' ']) (intTokens i) 0 [] := by
  cases i with
  | ofNat m =>
    have htext : (toString (Int.ofNat m)).toList = Nat.toDigits 10 m := String.toList_ofList
    rw [htext, intTokens, if_neg (by simp)]
    exact lexes_toDigits n m
  | negSucc m =>
    have htext : (toString (Int.negSucc m)).toList = '-' :: Nat.toDigits 10 (m + 1) := by
      change ("-" ++ Nat.repr (m + 1)).toList = _
      rw [String.toList_append, Nat.toList_repr]
      rfl
    rw [htext, intTokens, if_pos (Int.negSucc_lt_zero m)]
    have hdash : Lexes n [] ['-'] [.symbol '-'] 0 [] := ⟨fun _ => rfl, rfl⟩
    exact hdash.append rfl (lexes_toDigits n (m + 1))

/-! ## Statements -/

/-- `WHEN value THEN ?` -/
structure Branch where
  value : Int
  param : ℕ
  deriving DecidableEq

inductive Expr where
  /-- `CASE column branches ELSE orElse END` -/
  | case (column : String) (branches : List Branch) (orElse : String)
  /-- `datetime('now')` -/
  | now
  deriving DecidableEq

structure Assignment where
  column : String
  value : Expr
  deriving DecidableEq

/-- `UPDATE table SET sets WHERE key IN (keys)` -/
structure Update where
  table : String
  sets : List Assignment
  key : String
  keys : List ℕ
  deriving DecidableEq

def parseBranches : List Token → List Branch × List Token
  | .word "WHEN" :: .number n :: .word "THEN" :: .param k :: ts =>
    let (bs, rest) := parseBranches ts
    (⟨n, k⟩ :: bs, rest)
  | .word "WHEN" :: .symbol '-' :: .number n :: .word "THEN" :: .param k :: ts =>
    let (bs, rest) := parseBranches ts
    (⟨-n, k⟩ :: bs, rest)
  | ts => ([], ts)

def parseExpr : List Token → Option (Expr × List Token)
  | .word "CASE" :: .word column :: ts =>
    match parseBranches ts with
    | (bs, .word "ELSE" :: .word orElse :: .word "END" :: rest) =>
      some (.case column bs orElse, rest)
    | _ => none
  | .word "datetime" :: .symbol '(' :: .literal "now" :: .symbol ')' :: rest => some (.now, rest)
  | _ => none

/-- Assignments with commas between them, at most `fuel` of them. -/
def parseSets : ℕ → List Token → Option (List Assignment × List Token)
  | 0, _ => none
  | fuel + 1, .word column :: .symbol '=' :: ts =>
    match parseExpr ts with
    | some (e, .symbol ',' :: rest) =>
      (parseSets fuel rest).map fun r => (⟨column, e⟩ :: r.1, r.2)
    | some (e, rest) => some ([⟨column, e⟩], rest)
    | none => none
  | _, _ => none

/-- `?,…,?)` up to the end of the text. -/
def parseKeys : List Token → Option (List ℕ)
  | .param k :: .symbol ',' :: ts => (parseKeys ts).map (k :: ·)
  | [.param k, .symbol ')'] => some [k]
  | _ => none

def parseTokens : List Token → Option Update
  | .word "UPDATE" :: .word table :: .word "SET" :: ts =>
    match parseSets ts.length ts with
    | some (sets, .word "WHERE" :: .word key :: .word "IN" :: .symbol '(' :: rest) =>
      (parseKeys rest).map fun keys => ⟨table, sets, key, keys⟩
    | _ => none
  | _ => none

def parse (text : String) : Option Update := parseTokens (tokens text)

/-! ## Statements as tokens -/

def Branch.tokens (b : Branch) : List Token :=
  .word "WHEN" :: (intTokens b.value ++ [.word "THEN", .param b.param])

def Expr.tokens : Expr → List Token
  | .case column branches orElse =>
    [.word "CASE", .word column] ++ branches.flatMap Branch.tokens ++
      [.word "ELSE", .word orElse, .word "END"]
  | .now => [.word "datetime", .symbol '(', .literal "now", .symbol ')']

def Assignment.tokens (a : Assignment) : List Token :=
  [.word a.column, .symbol '='] ++ a.value.tokens

def setsTokens : List Assignment → List Token
  | [] => []
  | [a] => a.tokens
  | a :: as => a.tokens ++ .symbol ',' :: setsTokens as

def keysTokens : List ℕ → List Token
  | [] => [.symbol ')']
  | [k] => [.param k, .symbol ')']
  | k :: ks => .param k :: .symbol ',' :: keysTokens ks

def Update.tokens (u : Update) : List Token :=
  [.word "UPDATE", .word u.table, .word "SET"] ++ (setsTokens u.sets ++
    [.word "WHERE", .word u.key, .word "IN", .symbol '('] ++ keysTokens u.keys)

theorem parseBranches_cons (b : Branch) (ts : List Token) :
    parseBranches (b.tokens ++ ts) = (b :: (parseBranches ts).1, (parseBranches ts).2) := by
  obtain ⟨value, param⟩ := b
  cases value with
  | ofNat m =>
    have hint : intTokens (Int.ofNat m) = [.number m] := if_neg (by simp)
    simp only [Branch.tokens, hint, List.cons_append, List.nil_append, parseBranches]
    rfl
  | negSucc m =>
    have hint : intTokens (Int.negSucc m) = [.symbol '-', .number (m + 1)] :=
      if_pos (Int.negSucc_lt_zero m)
    simp only [Branch.tokens, hint, List.cons_append, List.nil_append, parseBranches]
    rfl

theorem parseBranches_tokens (bs : List Branch) (rest : List Token) :
    parseBranches (bs.flatMap Branch.tokens ++ .word "ELSE" :: rest) =
      (bs, .word "ELSE" :: rest) := by
  induction bs with
  | nil => rfl
  | cons b bs ih => rw [List.flatMap_cons, List.append_assoc, parseBranches_cons, ih]

theorem parseExpr_tokens (e : Expr) (rest : List Token) :
    parseExpr (e.tokens ++ rest) = some (e, rest) := by
  cases e with
  | case column branches orElse =>
    simp only [Expr.tokens, List.cons_append, List.nil_append, List.append_assoc, parseExpr,
      parseBranches_tokens]
  | now => rfl

theorem length_setsTokens (sets : List Assignment) : sets.length ≤ (setsTokens sets).length := by
  induction sets with
  | nil => exact le_rfl
  | cons a as ih =>
    cases as with
    | nil => simp [setsTokens, Assignment.tokens]
    | cons a' as =>
      simp only [setsTokens, List.length_append, List.length_cons] at ih ⊢
      omega

theorem parseSets_tokens {sets : List Assignment} (hne : sets ≠ []) {fuel : ℕ}
    (hfuel : sets.length ≤ fuel) (rest : List Token) :
    parseSets fuel (setsTokens sets ++ .word "WHERE" :: rest) =
      some (sets, .word "WHERE" :: rest) := by
  induction sets generalizing fuel with
  | nil => exact absurd rfl hne
  | cons a as ih =>
    obtain ⟨fuel, rfl⟩ : ∃ k, fuel = k + 1 := ⟨fuel - 1, by simp at hfuel; omega⟩
    cases as with
    | nil =>
      simp only [setsTokens, Assignment.tokens, List.cons_append, List.nil_append, parseSets,
        parseExpr_tokens]
    | cons a' as =>
      have hle : (a' :: as).length ≤ fuel := by simpa using hfuel
      have hrest := ih (by simp) hle
      simp only [setsTokens, Assignment.tokens, List.cons_append, List.nil_append,
        List.append_assoc, parseSets, parseExpr_tokens] at hrest ⊢
      rw [hrest]
      rfl

theorem parseKeys_tokens {keys : List ℕ} (hne : keys ≠ []) :
    parseKeys (keysTokens keys) = some keys := by
  induction keys with
  | nil => exact absurd rfl hne
  | cons k ks ih =>
    cases ks with
    | nil => rfl
    | cons k' ks =>
      rw [keysTokens, parseKeys, ih (by simp)]
      · rfl
      · simp

/-- A statement that sets something and lists some key is read back from its tokens. -/
theorem parseTokens_tokens {u : Update} (hsets : u.sets ≠ []) (hkeys : u.keys ≠ []) :
    parseTokens u.tokens = some u := by
  obtain ⟨table, sets, key, keys⟩ := u
  let rest : List Token := [.word key, .word "IN", .symbol '('] ++ keysTokens keys
  have hfuel : sets.length ≤ (setsTokens sets ++ .word "WHERE" :: rest).length := by
    rw [List.length_append]
    exact (length_setsTokens sets).trans (Nat.le_add_right _ _)
  have hparse := parseSets_tokens hsets hfuel rest
  simp only [Update.tokens, rest, List.cons_append, List.nil_append, List.append_assoc,
    parseTokens] at hparse ⊢
  rw [hparse]
  simp only [parseKeys_tokens hkeys, Option.map_some]

/-! ## Values -/

def Expr.columns : Expr → List String
  | .case column _ orElse => [column, orElse]
  | .now => []

/-- The columns the statement names. -/
def Update.columns (u : Update) : List String :=
  u.key :: u.sets.flatMap fun a => a.column :: a.value.columns

section Eval

variable {α : Type*} [DecidableEq α] (ofInt : Int → α) (param : ℕ → α) (clock : α)
  (column : String → α)

/-- What an expression yields on a row, the first matching branch of a `CASE`. -/
def Expr.eval : Expr → α
  | .case key branches orElse =>
    match branches.find? fun b => column key = ofInt b.value with
    | some b => param b.param
    | none => column orElse
  | .now => clock

/-- Whether the statement changes the row. -/
def Update.selects (u : Update) : Bool := column u.key ∈ u.keys.map param

/-- A `CASE` over branches bound to the values of `pairs` yields the value of
the first pair that matches. -/
theorem Expr.eval_case {pairs : List (Int × α)} {branches : List Branch} {key orElse : String}
    (h : List.Forall₂ (fun p b => b.value = p.1 ∧ param b.param = p.2) pairs branches) :
    Expr.eval ofInt param clock column (.case key branches orElse) =
      ((pairs.find? fun p => column key = ofInt p.1).map Prod.snd).getD (column orElse) := by
  unfold Expr.eval
  induction h with
  | nil => rfl
  | @cons p b pairs branches hpb _ ih =>
    by_cases hmatch : column key = ofInt p.1
    · simp [hpb.1, hpb.2, hmatch]
    · simpa [hpb.1, hmatch] using ih

end Eval

end Sql
