import DocTables.Proofs.Query.Pieces
import DocTables.Proofs.Query.Token

/-!
# The grammar of reads

The statements that SQLite takes for reads of one table, as far as they are made of columns,
literals, comparisons and connectives:

SELECT [DISTINCT] columns FROM table [WHERE expression] [ORDER BY terms] [LIMIT n [OFFSET m]]

A statement is a list of pieces (`pieces`), and an expression a list of the tokens of its pieces.
The grammar is given by its productions and knows nothing of conditions or queries.  The words of
the last clause are none that may stand anywhere else in a read (`IsUnlimitedRead.not_mem`), so
`OFFSET` stands directly after a `LIMIT` or not at all (`IsRead.exists_of_offset`).
-/

namespace DocTables

/-! ## Expressions -/

/-- An operator between two expressions. -/
inductive IsOperator : List SqlToken → Prop
  /-- A comparison. -/
  | sign {sign : String} (h : sign ∈ ["=", "<>", ">", ">=", "<", "<="]) : IsOperator [.sign sign]
  /-- Sameness, which is never unknown. -/
  | is : IsOperator [.word "IS"]
  /-- Difference, which is never unknown. -/
  | isNot : IsOperator [.word "IS", .word "NOT"]
  /-- Both hold. -/
  | and : IsOperator [.word "AND"]
  /-- One holds. -/
  | or : IsOperator [.word "OR"]

/-- The tokens are an expression. -/
inductive IsExpression : List SqlToken → Prop
  /-- No value. -/
  | null : IsExpression [.word "NULL"]
  /-- A number. -/
  | number {text : String} (h : IsNumeral text.toList) : IsExpression [.number text]
  /-- A text. -/
  | text (content : String) : IsExpression [.text content]
  /-- A column. -/
  | column {path : String} (h : isColumnPath path = true) : IsExpression [.word path]
  /-- Two expressions with an operator between them. -/
  | binary {left operator right : List SqlToken} (hleft : IsExpression left)
    (hoperator : IsOperator operator) (hright : IsExpression right) :
    IsExpression (left ++ operator ++ right)
  /-- One of several expressions. -/
  | oneOf {tested : List SqlToken} {items : List (List SqlToken)} (htested : IsExpression tested)
    (hitems : ∀ item ∈ items, IsExpression item) :
    IsExpression (tested ++ [.word "IN", .opening] ++ [SqlToken.comma].intercalate items ++
      [.closing])
  /-- An expression in parentheses. -/
  | parenthesized {inner : List SqlToken} (h : IsExpression inner) :
    IsExpression ([.opening] ++ inner ++ [.closing])

/-! ## Statements -/

/-- What the rows are told from each other by: everything, or what is read of them. -/
inductive IsQuantifier : List String → Prop
  /-- Every row is read. -/
  | all : IsQuantifier []
  /-- Rows that look the same are read once. -/
  | distinct : IsQuantifier ["DISTINCT"]

/-- The columns that are read. -/
inductive IsColumns : List String → Prop
  /-- All of them. -/
  | star : IsColumns ["*"]
  /-- Some columns, at least one. -/
  | named {columns : List String} (hne : columns ≠ [])
    (h : ∀ column ∈ columns, isColumnPath column = true) :
    IsColumns ([","].intercalate (columns.map fun column => [column]))

/-- The clause with the condition, if there is one. -/
inductive IsWhere : List String → Prop
  /-- No condition. -/
  | none : IsWhere []
  /-- A condition, of which each piece is read into tokens. -/
  | expression {expression : List String} {tokens : List (List SqlToken)}
    (htokens : List.Forall₂ (fun piece tokens => sqlTokens? piece = some tokens) expression tokens)
    (h : IsExpression tokens.flatten) : IsWhere ("WHERE" :: expression)

/-- A term of an order. -/
inductive IsTerm : List String → Prop
  /-- A column alone. -/
  | column {column : String} (h : isColumnPath column = true) : IsTerm [column]
  /-- A column and its direction. -/
  | directed {column direction : String} (h : isColumnPath column = true)
    (hdirection : direction ∈ ["ASC", "DESC"]) : IsTerm [column, direction]

/-- The clause with the order, if there is one. -/
inductive IsOrder : List String → Prop
  /-- No order. -/
  | none : IsOrder []
  /-- Some terms, at least one. -/
  | terms {terms : List (List String)} (hne : terms ≠ []) (h : ∀ term ∈ terms, IsTerm term) :
    IsOrder ("ORDER" :: "BY" :: [","].intercalate terms)

/-- The clause with the limits, if there is one. -/
inductive IsLimits : List String → Prop
  /-- No limits. -/
  | none : IsLimits []
  /-- A largest number of rows. -/
  | limit {n : String} (hn : IsNumeral n.toList) : IsLimits ["LIMIT", n]
  /-- A largest number of rows, and a number of rows to skip. -/
  | offset {n m : String} (hn : IsNumeral n.toList) (hm : IsNumeral m.toList) :
    IsLimits ["LIMIT", n, "OFFSET", m]

/-- The pieces are a read up to its limits. -/
inductive IsUnlimitedRead : List String → Prop
  /-- The clauses in their order. -/
  | select {quantifier columns condition order : List String} {table : String}
    (hquantifier : IsQuantifier quantifier) (hcolumns : IsColumns columns)
    (htable : isPlainName table = true) (hwhere : IsWhere condition) (horder : IsOrder order) :
    IsUnlimitedRead
      ("SELECT" :: quantifier ++ columns ++ ["FROM", table] ++ condition ++ order)

/-- The pieces are a read. -/
inductive IsRead : List String → Prop
  /-- The limits come last. -/
  | limited {read limits : List String} (hread : IsUnlimitedRead read) (hlimits : IsLimits limits) :
    IsRead (read ++ limits)

/-- The text is a read. -/
def IsReadText (text : String) : Prop := IsRead (pieces text)

/-! ## Words -/

/-- What a list of lists consists of, with a separator between any two of them. -/
lemma mem_of_mem_intercalate {α : Type} {separator piece : α} {lists : List (List α)}
    (h : piece ∈ [separator].intercalate lists) :
    piece = separator ∨ ∃ list ∈ lists, piece ∈ list := by
  induction lists with
  | nil => cases h
  | cons first rest ih =>
    cases rest with
    | nil =>
      rw [List.intercalate_singleton] at h
      exact .inr ⟨first, List.mem_cons_self, h⟩
    | cons second others =>
      rw [List.intercalate_cons_cons, List.append_assoc, List.mem_append, List.mem_append] at h
      rcases h with hfirst | hseparator | hrest
      · exact .inr ⟨first, List.mem_cons_self, hfirst⟩
      · exact .inl (List.mem_singleton.mp hseparator)
      · rcases ih hrest with hseparator | ⟨list, hlist, hpiece⟩
        · exact .inl hseparator
        · exact .inr ⟨list, List.mem_cons_of_mem _ hlist, hpiece⟩

/-- What is in the first of two related lists is related to something in the second. -/
lemma exists_mem_of_forall₂ {α β : Type} {related : α → β → Prop} {first : List α} {second : List β}
    (h : List.Forall₂ related first second) {a : α} (ha : a ∈ first) :
    ∃ b ∈ second, related a b := by
  induction h with
  | nil => cases ha
  | cons hhead _ ih =>
    rcases List.mem_cons.mp ha with rfl | htail
    · exact ⟨_, List.mem_cons_self, hhead⟩
    · obtain ⟨b, hb, hrelated⟩ := ih htail
      exact ⟨b, List.mem_cons_of_mem _ hb, hrelated⟩

/-- The words that stand in expressions besides columns. -/
def expressionWords : List String := ["NULL", "IS", "NOT", "AND", "OR", "IN"]

/-- The words of operators are among them. -/
lemma IsOperator.word_mem {operator : List SqlToken} {word : String} (h : IsOperator operator)
    (hword : .word word ∈ operator) : word ∈ expressionWords := by
  cases h with
  | sign _ => simp at hword
  | is => simp_all [expressionWords]
  | isNot =>
    have hwords : word = "IS" ∨ word = "NOT" := by simpa using hword
    rcases hwords with rfl | rfl <;> simp [expressionWords]
  | and => simp_all [expressionWords]
  | or => simp_all [expressionWords]

/-- Every word of an expression is a column or one of them. -/
lemma IsExpression.word_mem {tokens : List SqlToken} {word : String} (h : IsExpression tokens)
    (hword : .word word ∈ tokens) : isColumnPath word = true ∨ word ∈ expressionWords := by
  induction h with
  | null =>
    obtain rfl := SqlToken.word.inj (List.mem_singleton.mp hword)
    exact .inr List.mem_cons_self
  | number h => simp at hword
  | text content => simp at hword
  | column h =>
    obtain rfl := SqlToken.word.inj (List.mem_singleton.mp hword)
    exact .inl h
  | binary _ hoperator _ ihleft ihright =>
    rw [List.mem_append, List.mem_append] at hword
    rcases hword with (hleft | hmiddle) | hright
    · exact ihleft hleft
    · exact .inr (hoperator.word_mem hmiddle)
    · exact ihright hright
  | oneOf _ _ ihtested ihitems =>
    simp only [List.mem_append] at hword
    rcases hword with ((htested | hin) | hitems) | hclosing
    · exact ihtested htested
    · have hword : word = "IN" := by simpa using hin
      exact .inr (by simp [hword, expressionWords])
    · rcases mem_of_mem_intercalate hitems with hcomma | ⟨item, hitem, hword⟩
      · cases hcomma
      · exact ihitems item hitem hword
    · simp at hclosing
  | parenthesized _ ih =>
    simp only [List.mem_append, List.mem_singleton] at hword
    rcases hword with (hopening | hinner) | hclosing
    · cases hopening
    · exact ih hinner
    · cases hclosing

/-- The words of the last clause. -/
def limitWords : List String := ["LIMIT", "OFFSET"]

/-- The words that stand in the clauses of a read before the last one. -/
def readWords : List String :=
  ["SELECT", "DISTINCT", "*", ",", "FROM", "WHERE", "ORDER", "BY", "ASC", "DESC"]

/-- What the words of the last clause are not, and that each is read as a word: all that is known of
them. -/
structure IsReserved (word : String) : Prop where
  path : isColumnPath word = false
  name : isPlainName word = false
  expression : word ∉ expressionWords
  read : word ∉ readWords
  token : sqlTokens? word = some [.word word]

lemma isReserved_of_mem {word : String} (h : word ∈ limitWords) : IsReserved word := by
  rcases List.mem_cons.mp h with rfl | h
  · exact ⟨by decide +kernel, by decide +kernel, by decide, by decide, by decide +kernel⟩
  · obtain rfl := List.mem_singleton.mp h
    exact ⟨by decide +kernel, by decide +kernel, by decide, by decide, by decide +kernel⟩

section

variable {word : String} {list : List String} (hword : IsReserved word)
include hword

lemma IsReserved.ne_path {path : String} (h : isColumnPath path = true) : word ≠ path := by
  rintro rfl
  exact Bool.false_ne_true (hword.path.symm.trans h)

lemma IsReserved.ne_name {name : String} (h : isPlainName name = true) : word ≠ name := by
  rintro rfl
  exact Bool.false_ne_true (hword.name.symm.trans h)

lemma IsReserved.ne_word {other : String} (h : other ∈ readWords) : word ≠ other := by
  rintro rfl
  exact hword.read h

lemma IsQuantifier.not_mem (h : IsQuantifier list) : word ∉ list := by
  cases h with
  | all => exact List.not_mem_nil
  | distinct => simpa using hword.ne_word (by simp [readWords])

lemma IsColumns.not_mem (h : IsColumns list) : word ∉ list := by
  cases h with
  | star => simpa using hword.ne_word (by simp [readWords])
  | named _ hcolumns =>
    intro hmem
    rcases mem_of_mem_intercalate hmem with hcomma | ⟨piece, hpiece, hmem⟩
    · exact hword.ne_word (by simp [readWords]) hcomma
    · obtain ⟨column, hcolumn, rfl⟩ := List.mem_map.mp hpiece
      exact hword.ne_path (hcolumns column hcolumn) (List.mem_singleton.mp hmem)

/-- A reserved word that stood in a condition would be a word of its expression. -/
lemma IsWhere.not_mem (h : IsWhere list) : word ∉ list := by
  cases h with
  | none => exact List.not_mem_nil
  | expression htokens hexpression =>
    intro hmem
    rcases List.mem_cons.mp hmem with hwhere | hmem
    · exact hword.ne_word (by simp [readWords]) hwhere
    · obtain ⟨tokens, htokens, hsome⟩ := exists_mem_of_forall₂ htokens hmem
      rw [hword.token] at hsome
      have htoken := List.mem_flatten_of_mem htokens (Option.some.inj hsome ▸ List.mem_cons_self)
      rcases hexpression.word_mem htoken with hpath | hexpression
      · exact hword.ne_path hpath rfl
      · exact hword.expression hexpression

lemma IsTerm.not_mem (h : IsTerm list) : word ∉ list := by
  cases h with
  | column hcolumn => simpa using hword.ne_path hcolumn
  | directed hcolumn hdirection =>
    intro hmem
    rcases List.mem_cons.mp hmem with hpath | hmem
    · exact hword.ne_path hcolumn hpath
    · obtain rfl := List.mem_singleton.mp hmem
      rcases List.mem_cons.mp hdirection with rfl | hdirection
      · exact hword.ne_word (by simp [readWords]) rfl
      · exact hword.ne_word (by simp [readWords]) (List.mem_singleton.mp hdirection)

lemma IsOrder.not_mem (h : IsOrder list) : word ∉ list := by
  cases h with
  | none => exact List.not_mem_nil
  | terms _ hterms =>
    intro hmem
    rcases List.mem_cons.mp hmem with horder | hmem
    · exact hword.ne_word (by simp [readWords]) horder
    rcases List.mem_cons.mp hmem with hby | hmem
    · exact hword.ne_word (by simp [readWords]) hby
    rcases mem_of_mem_intercalate hmem with hcomma | ⟨term, hterm, hmem⟩
    · exact hword.ne_word (by simp [readWords]) hcomma
    · exact (hterms term hterm).not_mem hword hmem

/-- A reserved word stands nowhere in a read up to its limits. -/
lemma IsUnlimitedRead.not_mem (h : IsUnlimitedRead list) : word ∉ list := by
  cases h with
  | select hquantifier hcolumns htable hwhere horder =>
    intro hmem
    simp only [List.mem_append, List.mem_cons, List.not_mem_nil, or_false] at hmem
    rcases hmem with (((((hselect | hmem) | hmem) | hfrom | htableWord) | hmem) | hmem)
    · exact hword.ne_word (by simp [readWords]) hselect
    · exact hquantifier.not_mem hword hmem
    · exact hcolumns.not_mem hword hmem
    · exact hword.ne_word (by simp [readWords]) hfrom
    · exact hword.ne_name htable htableWord
    · exact hwhere.not_mem hword hmem
    · exact horder.not_mem hword hmem

end

/-- Nor is it a number. -/
lemma not_isNumeral_of_mem {word : String} (h : word ∈ limitWords) : ¬ IsNumeral word.toList := by
  intro hnumeral
  have hchars := hnumeral.isNumberText.2
  rcases List.mem_cons.mp h with rfl | h
  · exact absurd (hchars 'L' (by decide)) (by decide)
  · obtain rfl := List.mem_singleton.mp h
    exact absurd (hchars 'O' (by decide)) (by decide)

/-- In a read, rows are skipped directly after a limit, and at the very end. -/
lemma IsRead.exists_of_offset {before after : List String}
    (h : IsRead (before ++ "OFFSET" :: after)) :
    ∃ read n m, IsUnlimitedRead read ∧ IsNumeral n.toList ∧ IsNumeral m.toList ∧
      before = read ++ ["LIMIT", n] ∧ after = [m] := by
  have hword : "OFFSET" ∈ limitWords := by simp [limitWords]
  have hreserved := isReserved_of_mem hword
  have hmem : "OFFSET" ∈ before ++ "OFFSET" :: after := by simp
  have hnumber : ∀ {n : String}, IsNumeral n.toList → "OFFSET" ≠ n := by
    rintro n hn rfl
    exact not_isNumeral_of_mem hword hn
  generalize hlist : before ++ "OFFSET" :: after = list at h hmem
  cases h with
  | @limited read _ hread hlimits =>
    have hnot := hread.not_mem hreserved
    cases hlimits with
    | none =>
      rw [List.append_nil] at hmem
      exact absurd hmem hnot
    | @limit n hn =>
      have hmissing : "OFFSET" ∉ read ++ ["LIMIT", n] := by simp [hnot, hnumber hn]
      exact absurd hmem hmissing
    | @offset n m hn hm =>
      have hbefore : "OFFSET" ∉ read ++ ["LIMIT", n] := by simp [hnot, hnumber hn]
      have hafter : "OFFSET" ∉ [m] := by simp [hnumber hm]
      have hsplit : read ++ ["LIMIT", n] ++ "OFFSET" :: [m] = before ++ "OFFSET" :: after := by
        rw [hlist, List.append_assoc]
        rfl
      obtain ⟨hread', -, hm'⟩ := (List.append_cons_inj_of_notMem hbefore hafter).mp hsplit
      exact ⟨read, n, m, hread, hn, hm, hread'.symm, hm'.symm⟩

end DocTables
