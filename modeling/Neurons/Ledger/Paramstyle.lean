import Mathlib.Data.String.Basic

/-! # Placeholders of the ledger's statements

`pg_paramstyle.py` turns the question marks of a statement into the parameters of psycopg. A
statement is made of plain characters and quoted spans; psycopg takes `%%` for a percent sign and
`%s` for a parameter. Reading the translated text as psycopg does gives the statement back, with
a parameter for each question mark outside the quoted spans.
-/

namespace Neurons.Ledger

/-! ## The translation -/

/-- The scan of `qmark_to_pyformat`, inside a literal, inside an identifier or outside both. -/
def scan (inSquote inDquote : Bool) : List Char → List Char
  | [] => []
  | ch :: rest =>
      if ch = '%' then '%' :: '%' :: scan inSquote inDquote rest
      else if inSquote then
        if ch = '\'' then
          match rest with
          | '\'' :: rest => '\'' :: '\'' :: scan true inDquote rest
          | rest => ch :: scan false inDquote rest
        else ch :: scan true inDquote rest
      else if inDquote then ch :: scan false (ch ≠ '"') rest
      else if ch = '\'' then ch :: scan true false rest
      else if ch = '"' then ch :: scan false true rest
      else if ch = '?' then '%' :: 's' :: scan false false rest
      else ch :: scan false false rest

def qmarkToPyformat (sql : String) : String := String.ofList (scan false false sql.toList)

/-! ## Reading it as psycopg does -/

inductive Token where
  | char (c : Char)
  | param
  deriving DecidableEq, Repr

/-- The character that a token of a statement stands for. -/
def Token.source : Token → Char
  | .char c => c
  | .param => '?'

/-- The tokens of a pyformat text; other placeholders are refused. -/
def readPyformat : List Char → Option (List Token)
  | [] => some []
  | '%' :: '%' :: rest => (Token.char '%' :: ·) <$> readPyformat rest
  | '%' :: 's' :: rest => (Token.param :: ·) <$> readPyformat rest
  | '%' :: _ => none
  | c :: rest => (Token.char c :: ·) <$> readPyformat rest

/-! ## Statements -/

def IsQuote (c : Char) : Prop := c = '\'' ∨ c = '"'

instance (c : Char) : Decidable (IsQuote c) := by
  unfold IsQuote
  infer_instance

/-- A character inside a span; the quote itself stands there doubled. -/
inductive Quoted (quote : Char) where
  | char (c : Char) (other : c ≠ quote)
  | doubled

def Quoted.spell {quote : Char} : Quoted quote → List Char
  | .char c _ => [c]
  | .doubled => [quote, quote]

inductive Span where
  | plain (c : Char) (unquoted : ¬ IsQuote c)
  | quoted (quote : Char) (isQuote : IsQuote quote) (body : List (Quoted quote))

def Span.spell : Span → List Char
  | .plain c _ => [c]
  | .quoted quote _ body => quote :: body.flatMap Quoted.spell ++ [quote]

def Span.tokens : Span → List Token
  | .plain c _ => if c = '?' then [.param] else [.char c]
  | .quoted quote isQuote body => (Span.quoted quote isQuote body).spell.map .char

/-- A span that the end of the text leaves open. -/
structure OpenSpan where
  quote : Char
  isQuote : IsQuote quote
  body : List (Quoted quote)

def OpenSpan.spell (last : OpenSpan) : List Char := last.quote :: last.body.flatMap Quoted.spell

structure Statement where
  spans : List Span
  last : Option OpenSpan

def Statement.spell (sql : Statement) : List Char :=
  sql.spans.flatMap Span.spell ++ sql.last.elim [] OpenSpan.spell

/-- The question marks outside the quoted spans are parameters, everything else is itself. -/
def Statement.tokens (sql : Statement) : List Token :=
  sql.spans.flatMap Span.tokens ++ sql.last.elim [] fun last => last.spell.map .char

/-! ## Quotes as switches -/

/-- The tokens of a text read from inside a span or from outside all of them. A doubled quote
    closes its span and opens it again. -/
def tokensFrom : Option Char → List Char → List Token
  | _, [] => []
  | none, c :: rest =>
      if IsQuote c then .char c :: tokensFrom (some c) rest
      else (if c = '?' then .param else .char c) :: tokensFrom none rest
  | some quote, c :: rest => .char c :: tokensFrom (if c = quote then none else some quote) rest

theorem tokensFrom_body {quote : Char} (isQuote : IsQuote quote) (body : List (Quoted quote)) (rest : List Char) :
    tokensFrom (some quote) (body.flatMap Quoted.spell ++ rest) =
      (body.flatMap Quoted.spell).map .char ++ tokensFrom (some quote) rest := by
  induction body with
  | nil => rfl
  | cons item body ih =>
      cases item with
      | char c other => simp [Quoted.spell, tokensFrom, other, ih]
      | doubled => simp [Quoted.spell, tokensFrom, isQuote, ih]

theorem tokensFrom_span (span : Span) (rest : List Char) :
    tokensFrom none (span.spell ++ rest) = span.tokens ++ tokensFrom none rest := by
  cases span with
  | plain c unquoted =>
      simp only [Span.spell, Span.tokens, List.singleton_append, tokensFrom, if_neg unquoted]
      split <;> rfl
  | quoted quote isQuote body =>
      have inside := tokensFrom_body isQuote body (quote :: rest)
      simp [Span.spell, Span.tokens, tokensFrom, isQuote, inside]

/-- Read from outside, a statement has its tokens. -/
theorem tokensFrom_spell (sql : Statement) : tokensFrom none sql.spell = sql.tokens := by
  obtain ⟨spans, last⟩ := sql
  simp only [Statement.spell, Statement.tokens]
  induction spans with
  | nil =>
      cases last with
      | none => rfl
      | some last =>
          have inside := tokensFrom_body last.isQuote last.body []
          rw [List.append_nil] at inside
          simp [OpenSpan.spell, tokensFrom, last.isQuote, inside]
  | cons span spans ih =>
      rw [List.flatMap_cons, List.flatMap_cons, List.append_assoc, List.append_assoc, tokensFrom_span, ih]

/-- Every text is a statement; behind an open quote it is the rest of a span and then one. -/
theorem exists_statement (text : List Char) :
    (∃ sql : Statement, sql.spell = text) ∧
      ∀ quote, IsQuote quote → ∃ body : List (Quoted quote), text = body.flatMap Quoted.spell ∨
        ∃ sql : Statement, text = body.flatMap Quoted.spell ++ quote :: sql.spell := by
  induction text with
  | nil => exact ⟨⟨⟨[], none⟩, rfl⟩, fun quote _ => ⟨[], .inl rfl⟩⟩
  | cons c rest ih =>
      obtain ⟨⟨sql, spelled⟩, inside⟩ := ih
      constructor
      · by_cases isQuote : IsQuote c
        · obtain ⟨body, ended | ⟨sql, closed⟩⟩ := inside c isQuote
          · exact ⟨⟨[], some ⟨c, isQuote, body⟩⟩, by simp [Statement.spell, OpenSpan.spell, ended]⟩
          · exact ⟨⟨.quoted c isQuote body :: sql.spans, sql.last⟩, by
              simp [Statement.spell, Span.spell, closed]⟩
        · exact ⟨⟨.plain c isQuote :: sql.spans, sql.last⟩, by simp [← spelled, Statement.spell, Span.spell]⟩
      · intro quote isQuote
        by_cases closes : c = quote
        · exact ⟨[], .inr ⟨sql, by simp [closes, spelled]⟩⟩
        · obtain ⟨body, ended | ⟨sql, closed⟩⟩ := inside quote isQuote
          · exact ⟨.char c closes :: body, .inl (by simp [Quoted.spell, ended])⟩
          · exact ⟨.char c closes :: body, .inr ⟨sql, by simp [Quoted.spell, closed]⟩⟩

/-! ## The translation preserves statements -/

/-- The span that the flags of the scan stand for. -/
def modeOf (inSquote inDquote : Bool) : Option Char :=
  if inSquote then some '\'' else if inDquote then some '"' else none

@[simp]
theorem modeOf_outside : modeOf false false = none := rfl

@[simp]
theorem modeOf_squote (inDquote : Bool) : modeOf true inDquote = some '\'' := rfl

@[simp]
theorem modeOf_dquote : modeOf false true = some '"' := rfl

@[simp]
theorem readPyformat_percent (rest : List Char) :
    readPyformat ('%' :: '%' :: rest) = (Token.char '%' :: ·) <$> readPyformat rest := rfl

@[simp]
theorem readPyformat_param (rest : List Char) :
    readPyformat ('%' :: 's' :: rest) = (Token.param :: ·) <$> readPyformat rest := rfl

theorem readPyformat_plain {c : Char} (plain : c ≠ '%') (rest : List Char) :
    readPyformat (c :: rest) = (Token.char c :: ·) <$> readPyformat rest := by
  rw [readPyformat]
  · exact fun _ same => absurd same plain
  · exact fun _ same => absurd same plain
  · exact plain

/-- What the scan writes reads as the tokens of the text. -/
theorem readPyformat_scan (inSquote inDquote : Bool) (text : List Char) (one : ¬ (inSquote ∧ inDquote)) :
    readPyformat (scan inSquote inDquote text) = some (tokensFrom (modeOf inSquote inDquote) text) := by
  fun_induction scan inSquote inDquote text with
  | case1 inSquote inDquote => cases modeOf inSquote inDquote <;> rfl
  | case2 inSquote inDquote rest ih =>
      rw [readPyformat_percent, ih one]
      cases mode : modeOf inSquote inDquote with
      | none => rfl
      | some quote =>
          have other : '%' ≠ quote := by
            unfold modeOf at mode
            rintro rfl
            split at mode
            · cases mode
            · split at mode <;> cases mode
          simp [tokensFrom, other]
  | case3 inDquote rest notPercent ih =>
      rw [readPyformat_plain (by decide), readPyformat_plain (by decide), ih one]
      simp [tokensFrom, IsQuote]
  | case4 inDquote rest single notPercent ih =>
      have outside : inDquote = false := by simpa using one
      subst outside
      rw [readPyformat_plain (by decide), ih (by simp)]
      simp [tokensFrom]
  | case5 inDquote ch rest notPercent inside ih =>
      rw [readPyformat_plain notPercent, ih one]
      simp [tokensFrom, inside]
  | case6 inSquote ch rest notPercent outside ih =>
      have unquoted : inSquote = false := by simpa using outside
      subst unquoted
      rw [readPyformat_plain notPercent, ih (by simp)]
      by_cases closes : ch = '"' <;> simp [tokensFrom, closes]
  | case7 inSquote inDquote rest outside outside' notPercent ih =>
      simp only [Bool.not_eq_true] at outside outside'
      subst outside outside'
      rw [readPyformat_plain (by decide), ih (by simp)]
      simp [tokensFrom, IsQuote]
  | case8 inSquote inDquote rest outside outside' notPercent other ih =>
      simp only [Bool.not_eq_true] at outside outside'
      subst outside outside'
      rw [readPyformat_plain (by decide), ih (by simp)]
      simp [tokensFrom, IsQuote]
  | case9 inSquote inDquote rest outside outside' notPercent other other' ih =>
      simp only [Bool.not_eq_true] at outside outside'
      subst outside outside'
      rw [readPyformat_param, ih (by simp)]
      simp [tokensFrom, IsQuote]
  | case10 inSquote inDquote ch rest notPercent outside outside' other other' notMark ih =>
      simp only [Bool.not_eq_true] at outside outside'
      subst outside outside'
      rw [readPyformat_plain notPercent, ih (by simp)]
      simp [tokensFrom, IsQuote, other, other', notMark]

theorem source_tokens (sql : Statement) : sql.tokens.map Token.source = sql.spell := by
  have chars (text : List Char) : (text.map Token.char).map Token.source = text := by
    rw [List.map_map]
    exact List.map_id text
  have spans (spans : List Span) : (spans.flatMap Span.tokens).map Token.source = spans.flatMap Span.spell := by
    induction spans with
    | nil => rfl
    | cons span spans ih =>
        rw [List.flatMap_cons, List.flatMap_cons, List.map_append, ih]
        congr 1
        cases span with
        | plain c unquoted =>
            simp only [Span.tokens, Span.spell]
            split
            · next mark => simp [Token.source, mark]
            · rfl
        | quoted quote isQuote body => exact chars _
  rw [Statement.tokens, Statement.spell, List.map_append, spans]
  congr 1
  cases sql.last with
  | none => rfl
  | some last => exact chars _

/-- Every text is a statement of plain characters and quoted spans, and its translation reads as that
    statement with the question marks outside the spans as parameters. -/
theorem qmarkToPyformat_preserves (text : String) :
    (∃ sql : Statement, sql.spell = text.toList) ∧
      ∀ sql : Statement, sql.spell = text.toList →
        readPyformat (qmarkToPyformat text).toList = some sql.tokens ∧
          sql.tokens.map Token.source = text.toList := by
  refine ⟨(exists_statement text.toList).1, ?_⟩
  intro sql spelled
  have read : readPyformat (qmarkToPyformat text).toList = some (tokensFrom none text.toList) := by
    rw [qmarkToPyformat, String.toList_ofList, readPyformat_scan false false text.toList (by decide), modeOf_outside]
  rw [read, ← spelled, tokensFrom_spell]
  exact ⟨rfl, source_tokens sql⟩

example : qmarkToPyformat "WHERE s = 'it''s a ? mark' AND r = 50% AND y = ?" =
    "WHERE s = 'it''s a ? mark' AND r = 50%% AND y = %s" := by
  decide +kernel

end Neurons.Ledger
