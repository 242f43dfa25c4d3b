import DocTables.Proofs.Decimal.NumberText
import DocTables.Proofs.Name
import DocTables.Proofs.Result
import DocTables.Proofs.Schema.DefinitionReader
import DocTables.Schema.Table
import Mathlib.Data.List.Forall2

/-!
# Definitions determine the columns of their tables

The statement that creates a table is read back as the name of the table and its columns, whatever
properties the table was made for and whatever stands in the texts of their defaults
(`ofText?_createStatement`); so is the column of a statement that adds one (`ofAddition?_text`).
Only whether a column is to have an index is no part of its definition, and a default that is no
text is told by its literal alone.

`Reads` says which tokens a piece of text is read as, whatever delimiter follows it; the tokens of a
statement follow from those of its names, types, keywords and literals.
-/

namespace DocTables

namespace DefinitionToken

/-! ## Pieces of text -/

/-- A delimiter or the end comes next. -/
def AtBoundary (rest : List Char) : Prop := ∀ c ∈ rest.head?, (delimiter? c).isSome = true

/-- The text is read as the tokens, when a delimiter or nothing comes after it. -/
def Reads (text : String) (tokens : List DefinitionToken) : Prop :=
  ∀ rest, AtBoundary rest →
    scan (.bare []) (text.toList ++ rest) = (scan (.bare []) rest).map (tokens ++ ·)

variable {first second text separator : String} {tokens more between : List DefinitionToken}
  {cs rest seen : List Char} {c : Char}

/-- A text of which the tokens are known is read as these. -/
lemma Reads.definitionTokens? (h : Reads text tokens) : definitionTokens? text = some tokens := by
  have hend := h [] fun c hc => by cases hc
  rw [List.append_nil] at hend
  rw [DocTables.definitionTokens?, hend]
  simp [scan, ended]

/-- A delimiter ends the word before it. -/
lemma scan_delimiter (h : delimiter? c = some tokens) :
    scan (.bare seen) (c :: rest) = (scan (.bare []) rest).map (ended seen ++ tokens ++ ·) := by
  rw [scan, h]

/-- A word that has been read ends where a delimiter comes next. -/
lemma scan_bare_of_boundary (hrest : AtBoundary rest) (seen : List Char) :
    scan (.bare seen) rest = (scan (.bare []) rest).map (ended seen ++ ·) := by
  cases rest with
  | nil => simp [scan, ended]
  | cons c others =>
    obtain ⟨tokens, htokens⟩ := Option.isSome_iff_exists.mp (hrest c rfl)
    rw [scan_delimiter htokens, scan_delimiter htokens, Option.map_map]
    congr 1
    funext later
    simp [ended]

/-- Whether a character is part of the word in which it stands. -/
def isWordChar (c : Char) : Bool := (delimiter? c).isNone && c ≠ '"'

/-- The characters of a word are read one after the other. -/
lemma scan_wordChars (h : ∀ c ∈ cs, isWordChar c = true) :
    scan (.bare seen) (cs ++ rest) = scan (.bare (seen ++ cs)) rest := by
  induction cs generalizing seen with
  | nil => rw [List.nil_append, List.append_nil]
  | cons c others ih =>
    obtain ⟨hc, hothers⟩ := List.forall_mem_cons.mp h
    simp only [isWordChar, Bool.and_eq_true, Option.isNone_iff_eq_none, decide_eq_true_eq] at hc
    rw [List.cons_append, scan, hc.1]
    simp only [if_neg hc.2]
    rw [ih hothers, List.append_assoc, List.singleton_append]

/-- A word is one token. -/
lemma reads_word (hne : text ≠ "") (h : ∀ c ∈ text.toList, isWordChar c = true) :
    Reads text [.word text] := by
  intro rest hrest
  have hended : ended text.toList = [.word text] := by
    have hempty : text.toList.isEmpty = false := by
      rw [List.isEmpty_eq_false_iff]
      exact fun hnil => hne (String.toList_eq_nil_iff.mp hnil)
    rw [ended, hempty, String.ofList_toList]
    rfl
  rw [scan_wordChars h, List.nil_append, scan_bare_of_boundary hrest, hended]

/-- The content of a quoted text is read back from its doubled form. -/
lemma scan_doubled (hrest : AtBoundary rest) (seen cs : List Char) :
    scan (.quoted seen) (Text.doubled '"' cs ++ '"' :: rest) =
      (scan (.bare []) rest).map (.text (String.ofList (seen ++ cs)) :: ·) := by
  induction cs generalizing seen with
  | nil =>
    rw [Text.doubled, List.nil_append, List.append_nil, scan]
    rintro others rfl
    exact absurd (hrest '"' rfl) (by decide)
  | cons c others ih =>
    have hothers := ih (seen ++ [c])
    rw [List.append_assoc, List.singleton_append] at hothers
    unfold Text.doubled
    split
    · rename_i hquote
      subst hquote
      rw [List.cons_append, List.cons_append, scan, hothers]
    · rename_i hquote
      rw [List.cons_append, scan, hothers]
      · exact fun _ heq => absurd heq hquote
      · exact hquote

/-- A quoted text is one token, whatever characters are in it. -/
lemma reads_quoted (content : String) : Reads (Text.quoted '"' content) [.text content] := by
  intro rest hrest
  have hopen : delimiter? '"' = none := rfl
  rw [Text.quoted, String.toList_ofList, List.cons_append, List.append_assoc, scan, hopen]
  simp only [if_true]
  rw [List.singleton_append, scan_doubled hrest, List.nil_append, String.ofList_toList,
    Option.map_map]
  rfl

/-- A separator begins with a delimiter and is read as tokens of its own. -/
def Separates (separator : String) (tokens : List DefinitionToken) : Prop :=
  (∃ c cs, separator.toList = c :: cs ∧ (delimiter? c).isSome = true) ∧
    ∀ rest, scan (.bare []) (separator.toList ++ rest) = (scan (.bare []) rest).map (tokens ++ ·)

/-- Pieces with a separator between them are read one after the other. -/
lemma Reads.append (hfirst : Reads first tokens) (hseparator : Separates separator between)
    (hsecond : Reads second more) :
    Reads (first ++ separator ++ second) (tokens ++ between ++ more) := by
  intro rest hrest
  obtain ⟨⟨c, cs, hseparator, hc⟩, hscan⟩ := hseparator
  have hboundary : AtBoundary (separator.toList ++ (second.toList ++ rest)) := by
    rw [hseparator]
    rintro d ⟨⟩
    exact hc
  rw [String.toList_append, String.toList_append, List.append_assoc, List.append_assoc,
    hfirst _ hboundary, hscan, hsecond rest hrest, Option.map_map, Option.map_map]
  congr 1
  funext later
  simp only [Function.comp_apply, List.append_assoc]

/-- Nothing is read as no token. -/
lemma reads_empty : Reads "" [] := by
  intro rest _
  simp

/-- Pieces with the same separator between any two of them are read one after the other. -/
lemma reads_intercalate {texts : List String} {lists : List (List DefinitionToken)}
    (hseparator : Separates separator between) (h : List.Forall₂ Reads texts lists) :
    Reads (separator.intercalate texts) (between.intercalate lists) := by
  induction h with
  | nil =>
    rw [String.intercalate_nil]
    exact reads_empty
  | cons hfirst hrest ih =>
    cases hrest with
    | nil =>
      rw [String.intercalate_singleton, List.intercalate_singleton]
      exact hfirst
    | cons _ _ =>
      rw [String.intercalate_cons_cons, List.intercalate_cons_cons]
      exact hfirst.append hseparator ih

/-- With nothing between them, lists are joined as they are. -/
lemma intercalate_nothing {α : Type} (lists : List (List α)) :
    ([] : List α).intercalate lists = lists.flatten := by
  induction lists with
  | nil => rfl
  | cons first rest ih =>
    cases rest with
    | nil => simp
    | cons second others =>
      rw [List.intercalate_cons_cons, ih, List.append_nil, ← List.flatten_cons]

lemma separates_blank : Separates " " [] := by
  refine ⟨⟨' ', [], rfl, rfl⟩, fun rest => ?_⟩
  exact scan_delimiter rfl

lemma separates_closing : Separates ")" [.closing] := by
  refine ⟨⟨')', [], rfl, rfl⟩, fun rest => ?_⟩
  exact scan_delimiter rfl

/-- Two delimiters separate, and are read one after the other. -/
lemma separates_pair {d : Char} (hc : delimiter? c = some tokens) (hd : delimiter? d = some more) :
    Separates (String.ofList [c, d]) (tokens ++ more) := by
  refine ⟨⟨c, [d], String.toList_ofList, by rw [hc]; rfl⟩, fun rest => ?_⟩
  have hfirst : scan (.bare []) (c :: d :: rest) =
      (scan (.bare []) (d :: rest)).map (tokens ++ ·) := scan_delimiter hc
  have hsecond : scan (.bare []) (d :: rest) = (scan (.bare []) rest).map (more ++ ·) :=
    scan_delimiter hd
  rw [String.toList_ofList, List.cons_append, List.cons_append, List.nil_append, hfirst, hsecond,
    Option.map_map]
  congr 1
  funext later
  rw [Function.comp_apply, List.append_assoc]

lemma separates_comma : Separates ", " [.comma] := by
  have hpair : Separates (String.ofList [',', ' ']) ([.comma] ++ []) := separates_pair rfl rfl
  exact hpair

lemma separates_opening : Separates " (" [.opening] := by
  have hpair : Separates (String.ofList [' ', '(']) ([] ++ [.opening]) := separates_pair rfl rfl
  exact hpair

end DefinitionToken

open DefinitionToken

/-! ## Columns -/

/-- The literal that a default is written as. -/
def Scalar.defined : Scalar → DefaultLiteral
  | .text s => .text s
  | value => .word value.literal

/-- What the definition of a column says: all of the column but whether it is to have an index. -/
def Column.defined (column : Column) : DefinedColumn where
  name := column.name
  type := column.type
  unique := column.unique
  primaryKey := column.primaryKey
  notNull := column.notNull
  default := column.default.map Scalar.defined

/-- The token of a default. -/
def DefaultLiteral.token : DefaultLiteral → DefinitionToken
  | .text content => .text content
  | .word literal => .word literal

/-- The tokens of the words of a definition. -/
def Column.tokenLists (column : Column) : List (List DefinitionToken) :=
  [[DefinitionToken.word column.name], [DefinitionToken.word column.type.name]] ++
    (if column.unique then [[DefinitionToken.word "UNIQUE"]] else []) ++
    (if column.primaryKey then
      [[DefinitionToken.word "PRIMARY", DefinitionToken.word "KEY"]] else []) ++
    (if column.notNull then [[DefinitionToken.word "NOT", DefinitionToken.word "NULL"]] else []) ++
    (match column.default with
      | some value => [[DefinitionToken.word "DEFAULT", value.defined.token]]
      | none => [])

/-- The tokens of a definition. -/
def Column.definitionTokens (column : Column) : List DefinitionToken := column.tokenLists.flatten

/-- The tokens of definitions with commas between them. -/
def Column.definitionsTokens (columns : List Column) : List DefinitionToken :=
  [.comma].intercalate (columns.map Column.definitionTokens)

/-- A plain name is one word. -/
lemma reads_plainName {name : String} (h : isPlainName name = true) : Reads name [.word name] := by
  obtain ⟨first, others, hname, -⟩ := exists_of_isPlainName h
  refine reads_word (fun hempty => ?_) fun c hc => ?_
  · rw [hempty] at hname
    cases hname
  · have hrest := isNameRest_of_mem_plain h c hc
    have hne : ∀ d, isNameRest d = false → c ≠ d := by
      rintro d hd rfl
      exact Bool.false_ne_true (hd.symm.trans hrest)
    simp [isWordChar, delimiter?, hne ' ' rfl, hne ',' rfl, hne '(' rfl, hne ')' rfl, hne '"' rfl]

/-- A keyword is one word. -/
lemma reads_keyword {keyword : String}
    (h : (keyword ≠ "" && keyword.toList.all isWordChar) = true) :
    Reads keyword [.word keyword] := by
  rw [Bool.and_eq_true, decide_eq_true_eq, List.all_eq_true] at h
  exact reads_word h.1 h.2

/-- A number is one word. -/
lemma reads_number {text : String} (h : IsNumberText text.toList) : Reads text [.word text] := by
  refine reads_word (fun hempty => h.1 (String.toList_eq_nil_iff.mpr hempty)) fun c hc => ?_
  have hnumber := h.2 c hc
  have hne : ∀ d, isNumberChar d = false → c ≠ d := by
    rintro d hd rfl
    exact Bool.false_ne_true (hd.symm.trans hnumber)
  simp [isWordChar, delimiter?, hne ' ' rfl, hne ',' rfl, hne '(' rfl, hne ')' rfl, hne '"' rfl]

/-- The literal of a default is one token. -/
lemma Scalar.reads_defaultLiteral (value : Scalar) :
    Reads value.defaultLiteral [value.defined.token] := by
  cases htext : value.isText with
  | true =>
    cases value with
    | text s => exact reads_quoted s
    | _ => cases htext
  | false =>
    have hword : value.defaultLiteral = value.literal ∧
        value.defined.token = .word value.literal := by
      cases value with
      | text s => cases htext
      | _ => exact ⟨rfl, rfl⟩
    rw [hword.1, hword.2]
    rcases Scalar.literal_of_not_text htext with hnull | hnumber
    · rw [hnull]
      exact reads_keyword rfl
    · exact reads_number hnumber.isNumberText

/-- The words of a definition are read as their tokens. -/
lemma Column.reads_definitionWords {column : Column} (h : isPlainName column.name = true) :
    List.Forall₂ Reads column.definitionWords column.tokenLists := by
  have htype : Reads column.type.name [.word column.type.name] := by
    cases column.type <;> exact reads_keyword rfl
  have hunique : Reads "UNIQUE" [.word "UNIQUE"] := reads_keyword rfl
  have hprimary : Reads ("PRIMARY" ++ " " ++ "KEY") [.word "PRIMARY", .word "KEY"] :=
    (reads_keyword rfl).append separates_blank (reads_keyword rfl)
  have hnotNull : Reads ("NOT" ++ " " ++ "NULL") [.word "NOT", .word "NULL"] :=
    (reads_keyword rfl).append separates_blank (reads_keyword rfl)
  have hdefault : ∀ value : Scalar, Reads ("DEFAULT" ++ " " ++ value.defaultLiteral)
      [.word "DEFAULT", value.defined.token] := fun value =>
    (reads_keyword rfl).append separates_blank value.reads_defaultLiteral
  have hif : ∀ {flag : Bool} {text : String} {tokens : List DefinitionToken}, Reads text tokens →
      List.Forall₂ Reads (if flag then [text] else []) (if flag then [tokens] else []) := by
    intro flag text tokens hreads
    cases flag with
    | true => exact .cons hreads .nil
    | false => exact .nil
  refine List.rel_append (List.rel_append (List.rel_append (List.rel_append ?_ ?_) ?_) ?_) ?_
  · exact .cons (reads_plainName h) (.cons htype .nil)
  · exact hif hunique
  · exact hif hprimary
  · exact hif hnotNull
  · cases hvalue : column.default with
    | none =>
      simp only [Column.defaultLiteral, hvalue, Option.map_none]
      exact .nil
    | some value =>
      simp only [Column.defaultLiteral, hvalue, Option.map_some]
      exact .cons (hdefault value) .nil

/-- The definition of a column is read as its tokens. -/
lemma Column.reads_definition {column : Column} (h : isPlainName column.name = true) :
    Reads column.definition column.definitionTokens := by
  have hwords := reads_intercalate separates_blank (Column.reads_definitionWords h)
  rwa [intercalate_nothing] at hwords

/-- Definitions with commas between them are read as their tokens. -/
lemma Column.reads_definitions {columns : List Column}
    (h : ∀ column ∈ columns, isPlainName column.name = true) :
    Reads (Column.definitions columns) (Column.definitionsTokens columns) := by
  refine reads_intercalate separates_comma ?_
  rw [List.forall₂_map_left_iff, List.forall₂_map_right_iff, List.forall₂_same]
  exact fun column hcolumn => Column.reads_definition (h column hcolumn)

namespace DefinedTable

/-! ## Reading back -/

/-- The last clause, a default, is read back, if no clause comes after it. -/
lemma readClauses_default (defined : DefinedColumn) {rest : List DefinitionToken}
    (hrest : ∀ defined, readClauses defined rest = (defined, rest))
    (literal : Option DefaultLiteral) (hdefined : defined.default = none) :
    readClauses defined ((match literal with
        | some literal => [DefinitionToken.word "DEFAULT", literal.token]
        | none => []) ++ rest) =
      ({ defined with default := literal }, rest) := by
  cases literal with
  | none =>
    obtain ⟨name, type, unique, primaryKey, notNull, default⟩ := defined
    cases hdefined
    exact hrest _
  | some literal =>
    cases literal with
    | text content => exact hrest _
    | word literal => exact hrest _

/-- The clauses of a column are read back, if no clause comes after its definition. -/
lemma readClauses_tokens (column : Column) (rest : List DefinitionToken)
    (hrest : ∀ defined, readClauses defined rest = (defined, rest)) :
    readClauses { name := column.name, type := column.type }
      ((column.tokenLists.drop 2).flatten ++ rest) = (column.defined, rest) := by
  obtain ⟨name, type, unique, primaryKey, indexed, notNull, default⟩ := column
  have hdefault : ∀ defined : DefinedColumn, defined.default = none →
      readClauses defined ((match default with
          | some value => [[DefinitionToken.word "DEFAULT", value.defined.token]]
          | none => []).flatten ++ rest) =
        ({ defined with default := default.map Scalar.defined }, rest) := by
    intro defined hdefined
    rw [← readClauses_default defined hrest _ hdefined]
    cases default <;> rfl
  cases unique <;> cases primaryKey <;> cases notNull <;> exact hdefault _ rfl

/-- The name of a type is read as the type. -/
lemma columnType?_name (type : ColumnType) : columnType? type.name = some type := by
  cases type <;> rfl

/-- A definition begins with the name and the type of its column. -/
lemma definitionTokens_eq (column : Column) :
    column.definitionTokens =
      .word column.name :: .word column.type.name :: (column.tokenLists.drop 2).flatten := rfl

/-- After the first definition comes a comma. -/
lemma definitionsTokens_cons_cons (first second : Column) (others : List Column) :
    Column.definitionsTokens (first :: second :: others) =
      first.definitionTokens ++ .comma :: Column.definitionsTokens (second :: others) := by
  simp only [Column.definitionsTokens, List.map_cons, List.intercalate_cons_cons, List.append_assoc,
    List.singleton_append]

lemma definitionsTokens_singleton (column : Column) :
    Column.definitionsTokens [column] = column.definitionTokens := List.intercalate_singleton

/-- Columns are read back from their definitions. -/
lemma readColumns_tokens {columns : List Column} (hne : columns ≠ []) {bound : Nat}
    (hbound : columns.length ≤ bound) :
    readColumns bound (Column.definitionsTokens columns ++ [DefinitionToken.closing]) =
      some (columns.map Column.defined) := by
  induction columns generalizing bound with
  | nil => exact absurd rfl hne
  | cons first others ih =>
    obtain ⟨below, rfl⟩ : ∃ below, bound = below + 1 := by
      rw [List.length_cons] at hbound
      exact ⟨bound - 1, by omega⟩
    cases others with
    | nil =>
      rw [definitionsTokens_singleton, definitionTokens_eq]
      have hclauses := readClauses_tokens first [.closing] fun _ => rfl
      simp only [List.cons_append, readColumns, columnType?_name, hclauses, Option.bind_eq_bind,
        Option.bind_some, List.map_singleton]
    | cons second more =>
      have hlater := ih (List.cons_ne_nil _ _) (Nat.le_of_succ_le_succ hbound)
      rw [definitionsTokens_cons_cons, definitionTokens_eq]
      have hclauses := readClauses_tokens first
        (.comma :: (Column.definitionsTokens (second :: more) ++ [.closing])) fun _ => rfl
      simp only [List.cons_append, List.append_assoc, readColumns, columnType?_name, hclauses,
        Option.bind_eq_bind, Option.bind_some, hlater, Option.map_some, List.map_cons]

/-- There are not more columns than tokens. -/
lemma length_le_definitionsTokens (columns : List Column) :
    columns.length ≤ (Column.definitionsTokens columns).length := by
  induction columns with
  | nil => exact Nat.zero_le _
  | cons first others ih =>
    cases others with
    | nil =>
      rw [definitionsTokens_singleton, definitionTokens_eq]
      simp only [List.length_cons, List.length_nil]
      omega
    | cons second more =>
      rw [definitionsTokens_cons_cons]
      simp only [List.length_append, List.length_cons] at ih ⊢
      omega

/-- The tokens of the statement that creates a table. -/
def tokensOf (table : Table) : List DefinitionToken :=
  DefinitionToken.word "CREATE" :: DefinitionToken.word "TABLE" ::
    DefinitionToken.word table.name :: DefinitionToken.opening ::
    (Column.definitionsTokens table.columns ++ [DefinitionToken.closing])

/-- What stands in the parentheses of a table is read back. -/
lemma readTable_tokens (columns : List Column) :
    readTable (Column.definitionsTokens columns ++ [DefinitionToken.closing]) =
      some (columns.map Column.defined) := by
  cases columns with
  | nil => rfl
  | cons first others =>
    have hlength : (first :: others).length ≤
        (Column.definitionsTokens (first :: others) ++ [DefinitionToken.closing]).length := by
      have hle := length_le_definitionsTokens (first :: others)
      rw [List.length_append]
      omega
    rw [readTable, readColumns_tokens (List.cons_ne_nil first others) hlength]
    intro hclosing
    cases others with
    | nil => cases hclosing
    | cons second more => cases hclosing

/-- A table is read back from its tokens. -/
lemma ofTokens?_tokensOf (table : Table) :
    ofTokens? (tokensOf table) = some ⟨table.name, table.columns.map Column.defined⟩ := by
  have hread : ofTokens? (tokensOf table) =
      (readTable (Column.definitionsTokens table.columns ++ [DefinitionToken.closing])).map
        fun columns => ⟨table.name, columns⟩ := rfl
  rw [hread, readTable_tokens]
  rfl

/-- The statement that creates a table, piece by piece. -/
lemma createStatement_eq (table : Table) : table.createStatement =
    "CREATE TABLE " ++ table.name ++ " (" ++ Column.definitions table.columns ++ ")" := rfl

/-- The statement that creates a table is read as its tokens. -/
lemma definitionTokens?_createStatement {table : Table} (hname : isPlainName table.name = true)
    (hcolumns : ∀ column ∈ table.columns, isPlainName column.name = true) :
    definitionTokens? table.createStatement = some (tokensOf table) := by
  have hcreate : Reads "CREATE" [.word "CREATE"] := reads_keyword rfl
  have htable : Reads "TABLE" [.word "TABLE"] := reads_keyword rfl
  have hhead := (hcreate.append separates_blank htable).append separates_blank
    (reads_plainName hname)
  have hall := (hhead.append separates_opening (Column.reads_definitions hcolumns)).append
    separates_closing reads_empty
  have htext : table.createStatement = "CREATE" ++ " " ++ "TABLE" ++ " " ++ table.name ++ " (" ++
      Column.definitions table.columns ++ ")" ++ "" := by
    rw [createStatement_eq, String.append_empty]
    rfl
  refine (congrArg definitionTokens? htext).trans (hall.definitionTokens?.trans ?_)
  simp [tokensOf]

/-- The statement that adds a column is read back. -/
lemma ofAddition?_text {table : String} {column : Column} (htable : isPlainName table = true)
    (hcolumn : isPlainName column.name = true) :
    ofAddition? ("ALTER TABLE " ++ table ++ " ADD COLUMN " ++ column.definition) =
      some (table, column.defined) := by
  have halter : Reads ("ALTER" ++ " " ++ "TABLE") [.word "ALTER", .word "TABLE"] :=
    (reads_keyword rfl).append separates_blank (reads_keyword rfl)
  have hadd : Reads ("ADD" ++ " " ++ "COLUMN") [.word "ADD", .word "COLUMN"] :=
    (reads_keyword rfl).append separates_blank (reads_keyword rfl)
  have hall := ((halter.append separates_blank (reads_plainName htable)).append separates_blank
    hadd).append separates_blank (Column.reads_definition hcolumn)
  have htext : "ALTER TABLE " ++ table ++ " ADD COLUMN " ++ column.definition =
      "ALTER" ++ " " ++ "TABLE" ++ " " ++ table ++ " " ++ ("ADD" ++ " " ++ "COLUMN") ++ " " ++
        column.definition := by
    have hhead : "ALTER TABLE " = "ALTER" ++ " " ++ "TABLE" ++ " " := by decide
    have hmiddle : " ADD COLUMN " = " " ++ ("ADD" ++ " " ++ "COLUMN") ++ " " := by decide
    rw [hhead, hmiddle]
    simp only [String.append_assoc]
  have hclauses := readClauses_tokens column [] fun _ => rfl
  rw [List.append_nil] at hclauses
  rw [ofAddition?, htext, hall.definitionTokens?, definitionTokens_eq]
  simp only [List.cons_append, List.nil_append, columnType?_name, hclauses, Option.bind_eq_bind,
    Option.bind_some]

/-! ## What is lost -/

/-- A default is read as `NULL` just if it is written so: a text is told from the word by its
quotes. -/
lemma defined_eq_null_iff (value : Scalar) :
    value.defined = .word "NULL" ↔ value.defaultLiteral = "NULL" := by
  constructor
  · intro h
    cases value with
    | text s => cases h
    | _ => exact DefaultLiteral.word.inj h
  · intro h
    have hnull : Reads "NULL" [.word "NULL"] := reads_keyword rfl
    have htokens := value.reads_defaultLiteral.definitionTokens?
    rw [h, hnull.definitionTokens?, Option.some.injEq, List.singleton_inj] at htokens
    cases hdefined : value.defined with
    | text content =>
      rw [hdefined] at htokens
      cases htokens
    | word literal =>
      rw [hdefined] at htokens
      rw [DefinitionToken.word.inj htokens]

/-- A default is written by its literal. -/
lemma defaultLiteral_eq (value : Scalar) :
    value.defaultLiteral = match value.defined with
      | .text content => Text.quoted '"' content
      | .word literal => literal := by
  cases value <;> rfl

/-- Columns of which the definitions say the same have the same definition. -/
lemma definition_congr {column other : Column} (h : column.defined = other.defined) :
    column.definition = other.definition := by
  obtain ⟨name, type, unique, primaryKey, indexed, notNull, default⟩ := column
  obtain ⟨name', type', unique', primaryKey', indexed', notNull', default'⟩ := other
  simp only [Column.defined, DefinedColumn.mk.injEq] at h
  obtain ⟨rfl, rfl, rfl, rfl, rfl, hdefault⟩ := h
  have hliteral : default.map Scalar.defaultLiteral = default'.map Scalar.defaultLiteral := by
    have hmap := congrArg (Option.map fun literal : DefaultLiteral => match literal with
      | .text content => Text.quoted '"' content
      | .word literal => literal) hdefault
    simpa only [Option.map_map, Function.comp_def, ← defaultLiteral_eq] using hmap
  simp only [Column.definition, Column.definitionWords, Column.defaultLiteral, hliteral]

/-- Tables of which the definitions say the same have the same statement. -/
lemma createStatement_congr {table other : Table} (hname : other.name = table.name)
    (h : other.columns.map Column.defined = table.columns.map Column.defined) :
    other.createStatement = table.createStatement := by
  have hdefinitions : other.columns.map Column.definition =
      table.columns.map Column.definition := by
    rw [← List.forall₂_eq_eq_eq, List.forall₂_map_left_iff, List.forall₂_map_right_iff] at h ⊢
    exact h.imp fun _ _ => definition_congr
  rw [createStatement_eq, createStatement_eq, Column.definitions, Column.definitions, hname,
    hdefinitions]

variable {name : String} {properties : PropertySet} {table : Table}

/-- A table of properties has a plain name and their columns, whose names are plain. -/
lemma eq_and_plain_of_ofProperties (h : Table.ofProperties name properties = .ok table) :
    table = ⟨name, properties.columns⟩ ∧ isPlainName table.name = true ∧
      ∀ column ∈ table.columns, isPlainName column.name = true := by
  unfold Table.ofProperties at h
  split at h
  · rename_i hname
    cases h
    refine ⟨rfl, hname, fun column hcolumn => ?_⟩
    obtain ⟨property, hproperty, rfl⟩ := List.mem_map.mp hcolumn
    exact properties.names_valid property hproperty
  · cases h

/-- The statement that creates a table is read back as its name and its columns, in the order in
which the properties are declared.  So two tables with the same statement are the same but for what
their literals cannot tell of a default, and for the columns that are to have an index, which no
statement tells. -/
theorem ofText?_createStatement (h : Table.ofProperties name properties = .ok table) :
    ofText? table.createStatement =
        some ⟨name, properties.toList.map fun property => property.column.defined⟩ ∧
      (∀ (other : Table) (name' : String) (properties' : PropertySet),
        Table.ofProperties name' properties' = .ok other →
        (other.createStatement = table.createStatement ↔ other.name = table.name ∧
          other.columns.map Column.defined = table.columns.map Column.defined)) ∧
      ∀ indexed : Column → Bool,
        Table.createStatement ⟨table.name, table.columns.map fun column =>
          { column with indexed := indexed column }⟩ = table.createStatement := by
  have hread : ∀ {name : String} {properties : PropertySet} {table : Table},
      Table.ofProperties name properties = .ok table →
      ofText? table.createStatement = some ⟨table.name, table.columns.map Column.defined⟩ := by
    intro name properties table h
    obtain ⟨-, hname, hcolumns⟩ := eq_and_plain_of_ofProperties h
    rw [ofText?, definitionTokens?_createStatement hname hcolumns, Option.bind_some,
      ofTokens?_tokensOf]
  refine ⟨?_, fun other name' properties' hother => ?_, fun indexed => ?_⟩
  · rw [hread h, (eq_and_plain_of_ofProperties h).1, PropertySet.columns, List.map_map]
    rfl
  · constructor
    · intro hstatement
      have hsame := hread hother
      rw [hstatement, hread h] at hsame
      obtain ⟨hname, hcolumns⟩ := DefinedTable.mk.inj (Option.some.inj hsame)
      exact ⟨hname.symm, hcolumns.symm⟩
    · rintro ⟨hname, hcolumns⟩
      exact createStatement_congr hname hcolumns
  · refine createStatement_congr rfl ?_
    rw [List.map_map]
    rfl

/-- Properties with a piece of a definition as the text of a default, a default of `NULL`, and an
index. -/
def misleadingProperties : List Property :=
  [{ Property.plain "title" .string with default := some (.string "\", b REAL UNIQUE) (") },
    { Property.plain "rank" .number with default := some .null, indexed := true },
    { Property.plain "open" .boolean with default := some (.bool true), required := true }]

/-- The text is told from the definitions around it, and the three defaults are told apart. -/
theorem ofText?_misleadingProperties : ∃ properties table,
    misleadingProperties.foldlM PropertySet.push .empty = .ok properties ∧
      Table.ofProperties "notes" properties = .ok table ∧
      table.createStatement =
        "CREATE TABLE notes (title TEXT DEFAULT \"\"\", b REAL UNIQUE) (\", " ++
          "rank REAL DEFAULT NULL, open INTEGER NOT NULL DEFAULT 1)" ∧
      ofText? table.createStatement = some ⟨"notes", [
        { name := "title", type := .text, default := some (.text "\", b REAL UNIQUE) (") },
        { name := "rank", type := .real, default := some (.word "NULL") },
        { name := "open", type := .integer, notNull := true, default := some (.word "1") }]⟩ := by
  have hrun : Except.toOption (do
      let properties ← misleadingProperties.foldlM PropertySet.push .empty
      let table ← Table.ofProperties "notes" properties
      return (table.createStatement,
        properties.toList.map fun property => property.column.defined)) =
        some ("CREATE TABLE notes (title TEXT DEFAULT \"\"\", b REAL UNIQUE) (\", " ++
          "rank REAL DEFAULT NULL, open INTEGER NOT NULL DEFAULT 1)", [
          { name := "title", type := .text, default := some (.text "\", b REAL UNIQUE) (") },
          { name := "rank", type := .real, default := some (.word "NULL") },
          { name := "open", type := .integer, notNull := true, default := some (.word "1") }]) := by
    decide +kernel
  obtain ⟨properties, hproperties, hrun⟩ := exists_of_bind_eq_ok (eq_ok_of_toOption hrun)
  obtain ⟨table, htable, hrun⟩ := exists_of_bind_eq_ok hrun
  obtain ⟨hstatement, hcolumns⟩ := Prod.mk.inj (Except.ok.inj hrun)
  have hread := (ofText?_createStatement htable).1
  rw [hcolumns] at hread
  exact ⟨properties, table, hproperties, htable, hstatement, hread⟩

end DefinedTable

end DocTables
