import DocTables.Proofs.Query.CallOrder
import Mathlib.Data.List.Forall2
import Mathlib.Data.List.Nodup

/-!
# The forms of sorting

An order can be asked for by a text of words, by a list of names, by a mapping from fields to
directions, and by one call for each term.  A term is spelled by its column, with a minus sign
before it where the order is descending (`OrderTerm.spec`).  All forms come to the same for the same
terms: these are added in their order after the ones that are there, or the first one that names no
column is refused (`Query.orderedBy`).  So a chain of calls, each in a form of its own, adds the
terms of one call after those of the other (`Query.sorted_as_spelled`).
-/

namespace DocTables

/-! ## Words with blanks between them -/

namespace Text

/-- A text that has letters and no blank. -/
structure IsWord (word : String) : Prop where
  ne_empty : word ≠ ""
  not_blank : ∀ c ∈ word.toList, isBlank c = false

/-- Whether a text is a word can be found by a test. -/
lemma isWord_of_all {word : String} (hne : word ≠ "")
    (h : (word.toList.all fun c => !isBlank c) = true) : IsWord word :=
  ⟨hne, fun c hc => Bool.not_eq_true' _ ▸ List.all_eq_true.mp h c hc⟩

/-- A text of words, with at least one blank between two of them, and perhaps blanks around them. -/
inductive Spaced : List String → List Char → Prop
  /-- There is nothing. -/
  | nil : Spaced [] []
  /-- A blank is before the rest. -/
  | blank {c : Char} {words : List String} {rest : List Char} (hblank : isBlank c = true)
    (hrest : Spaced words rest) : Spaced words (c :: rest)
  /-- There is one word. -/
  | last (word : String) : Spaced [word] word.toList
  /-- A word and a blank are before the rest. -/
  | word {c : Char} {words : List String} {rest : List Char} (word : String)
    (hblank : isBlank c = true) (hrest : Spaced words rest) :
    Spaced (word :: words) (word.toList ++ c :: rest)

variable {words : List String} {cs : List Char}

/-- The letters of a word are read before what comes after them. -/
lemma wordsFrom_append {letters : List Char} (hletters : ∀ c ∈ letters, isBlank c = false)
    (current rest : List Char) :
    wordsFrom current (letters ++ rest) = wordsFrom (letters.reverse ++ current) rest := by
  induction letters generalizing current with
  | nil => rfl
  | cons c letters ih =>
    obtain ⟨hfirst, hletters⟩ := List.forall_mem_cons.mp hletters
    rw [List.cons_append, wordsFrom, if_neg (Bool.eq_false_iff.mp hfirst), ih hletters,
      List.reverse_cons, List.append_assoc, List.singleton_append]

/-- Blanks part the words of a text, and nothing else does. -/
lemma wordsFrom_of_spaced (h : Spaced words cs) (hwords : ∀ word ∈ words, IsWord word) :
    wordsFrom [] cs = words.map String.toList := by
  have hread : ∀ {word : String}, IsWord word → word.toList.reverse.isEmpty = false := by
    intro word hword
    rw [List.isEmpty_eq_false_iff, ne_eq, List.reverse_eq_nil_iff, String.toList_eq_nil_iff]
    exact hword.ne_empty
  induction h with
  | nil => rfl
  | blank hblank _ ih =>
    rw [wordsFrom, if_pos hblank]
    exact ih hwords
  | last word =>
    have hword := hwords word List.mem_cons_self
    rw [← List.append_nil word.toList, wordsFrom_append hword.not_blank, List.append_nil, wordsFrom,
      hread hword, List.reverse_reverse]
    rfl
  | @word c words rest word hblank _ ih =>
    obtain ⟨hword, hwords⟩ := List.forall_mem_cons.mp hwords
    rw [wordsFrom_append hword.not_blank, List.append_nil, wordsFrom, if_pos hblank, hread hword,
      List.reverse_reverse, ih hwords]
    rfl

/-- The words of a text are those it was made of. -/
lemma words_of_spaced {text : String} (h : Spaced words text.toList)
    (hwords : ∀ word ∈ words, IsWord word) : Text.words text = words := by
  have hback : String.ofList ∘ String.toList = id := funext fun _ => String.ofList_toList
  rw [Text.words, wordsFrom_of_spaced h hwords, List.map_map, hback, List.map_id]

end Text

/-! ## Terms -/

namespace OrderTerm

/-- How a term is spelled: by its column, with a minus sign before it if the order is descending. -/
def spec (term : OrderTerm) : String :=
  match term.direction with
  | .ascending => term.column
  | .descending => "-" ++ term.column

/-- The column of a term can be told from the sign before it and from the blanks around it. -/
structure IsSpellable (term : OrderTerm) : Prop where
  word : Text.IsWord term.column
  unsigned : term.column.toList.head? ≠ some '-'

variable {term : OrderTerm}

/-- What is spelled is a word. -/
lemma IsSpellable.isWord_spec (h : term.IsSpellable) : Text.IsWord term.spec := by
  unfold spec
  split
  · exact h.word
  · have hsigned : ("-" ++ term.column).toList = '-' :: term.column.toList :=
      String.toList_append
    refine ⟨fun hempty => ?_, ?_⟩
    · rw [hempty] at hsigned
      cases hsigned
    · rw [hsigned, List.forall_mem_cons]
      exact ⟨rfl, h.word.not_blank⟩

/-- A term is read as it is spelled. -/
lemma IsSpellable.ofSpec_spec (h : term.IsSpellable) : ofSpec term.spec = term := by
  obtain ⟨column, direction⟩ := term
  cases direction with
  | ascending =>
    unfold ofSpec
    split
    · rename_i rest hcolumn
      exact absurd (congrArg List.head? hcolumn) h.unsigned
    · rfl
  | descending =>
    have hsigned : ("-" ++ column).toList = '-' :: column.toList := String.toList_append
    unfold ofSpec spec
    dsimp only
    rw [hsigned]
    exact congrArg (OrderTerm.mk · .descending) String.ofList_toList

/-- Terms are read as they are spelled. -/
lemma map_ofSpec_spec {terms : List OrderTerm} (h : ∀ term ∈ terms, term.IsSpellable) :
    (terms.map spec).map ofSpec = terms := by
  rw [List.map_map]
  refine Eq.trans ?_ (List.map_id terms)
  exact List.map_congr_left fun term hterm => (h term hterm).ofSpec_spec

end OrderTerm

/-! ## Tokens of mappings -/

/-- The tokens for a descending order: the integer `-1`, and two words in any case. -/
inductive IsDescendingToken : Json → Prop
  /-- The integer. -/
  | minusOne : IsDescendingToken (.number (.int (-1)))
  /-- The short word. -/
  | short {s : String} (h : Text.equalIgnoringAsciiCase s "desc" = true) :
    IsDescendingToken (.string s)
  /-- The long word. -/
  | long {s : String} (h : Text.equalIgnoringAsciiCase s "descending" = true) :
    IsDescendingToken (.string s)

/-- Every token that does not stand for a descending order stands for an ascending one. -/
lemma Direction.getD_ofToken?_eq_descending_iff {token : Json} :
    (ofToken? token).getD .ascending = .descending ↔ IsDescendingToken token := by
  cases token with
  | string s =>
    rw [ofToken?]
    by_cases hdescending : (Text.equalIgnoringAsciiCase s "desc" ||
        Text.equalIgnoringAsciiCase s "descending") = true
    · rw [if_pos hdescending]
      refine iff_of_true rfl ?_
      rcases Bool.or_eq_true_iff.mp hdescending with hshort | hlong
      · exact .short hshort
      · exact .long hlong
    · rw [if_neg hdescending]
      refine iff_of_false ?_ ?_
      · split <;> exact Direction.noConfusion
      · rintro (_ | hshort | hlong)
        · exact hdescending (Bool.or_eq_true_iff.mpr (.inl hshort))
        · exact hdescending (Bool.or_eq_true_iff.mpr (.inr hlong))
  | number n =>
    rw [ofToken?]
    by_cases hminus : n.toInt64? = some (-1)
    · rw [if_pos hminus]
      refine iff_of_true rfl ?_
      cases n with
      | float x => cases hminus
      | int n =>
        rw [Json.Number.toInt64?] at hminus
        split at hminus
        · rw [Option.some.inj hminus]
          exact .minusOne
        · cases hminus
    · rw [if_neg hminus]
      refine iff_of_false ?_ ?_
      · split <;> exact Direction.noConfusion
      · rintro (_ | _ | _)
        exact hminus rfl
  | _ => exact iff_of_false Direction.noConfusion nofun

/-- A field and its token stand for a term. -/
structure OrderTerm.Entry (term : OrderTerm) (entry : String × Json) : Prop where
  column : entry.1 = term.column
  direction : IsDescendingToken entry.2 ↔ term.direction = .descending

/-- The terms of a mapping are read off its entries. -/
lemma map_of_entries {terms : List OrderTerm} {entries : List (String × Json)}
    (h : List.Forall₂ OrderTerm.Entry terms entries) :
    (entries.map fun entry =>
      (⟨entry.1, (Direction.ofToken? entry.2).getD .ascending⟩ : OrderTerm)) = terms := by
  induction h with
  | nil => rfl
  | @cons term entry terms entries hentry _ ih =>
    obtain ⟨column, direction⟩ := term
    obtain ⟨hcolumn, hdirection⟩ := hentry
    have htoken : (Direction.ofToken? entry.2).getD .ascending = direction := by
      have hiff := Direction.getD_ofToken?_eq_descending_iff.trans hdirection
      cases direction with
      | descending => exact hiff.mpr rfl
      | ascending =>
        cases hread : (Direction.ofToken? entry.2).getD .ascending with
        | ascending => rfl
        | descending => cases hiff.mp hread
    rw [List.map_cons, ih, htoken, hcolumn]

/-! ## Terms in their order -/

/-- A key that is new comes last. -/
lemma Json.Fields.put_of_notMem {fields : Fields} {entry : String × Json}
    (h : entry.1 ∉ fields.map Prod.fst) : put entry.1 entry.2 fields = fields ++ [entry] := by
  induction fields with
  | nil => rfl
  | cons field rest ih =>
    rw [List.map_cons, List.mem_cons, not_or] at h
    rw [put, if_neg (Ne.symm h.1), ih h.2]
    rfl

/-- Entries with different keys are an object as they are. -/
lemma Json.Fields.ofEntries_of_nodup {entries : List (String × Json)}
    (h : (entries.map Prod.fst).Nodup) : ofEntries entries = entries := by
  have hfold : ∀ {given fields : List (String × Json)}, ((fields ++ given).map Prod.fst).Nodup →
      given.foldl (fun fields entry => put entry.1 entry.2 fields) fields = fields ++ given := by
    intro given fields hnodup
    induction given generalizing fields with
    | nil => rw [List.foldl_nil, List.append_nil]
    | cons entry rest ih =>
      have hentry : entry.1 ∉ fields.map Prod.fst := by
        rw [List.map_append] at hnodup
        exact fun hmem => List.disjoint_of_nodup_append hnodup hmem List.mem_cons_self
      rw [List.append_cons] at hnodup
      rw [List.foldl_cons, put_of_notMem hentry, ih hnodup, ← List.append_cons]
  exact hfold h

namespace Query

variable {query : Query} {terms : List OrderTerm} {text : String}

/-- The query with the terms after those of its order, if all of them name columns; the first one
that does not is refused. -/
def orderedBy (query : Query) (terms : List OrderTerm) : Except QueryError Query :=
  match terms.find? fun term => !isColumnPath term.column with
  | none => .ok { query with order := query.order ++ terms }
  | some term => .error (.invalid (.invalidSortField term.column))

/-- Terms are added one after the other. -/
lemma addOrder_eq (query : Query) (terms : List OrderTerm) :
    query.addOrder terms = query.orderedBy terms := by
  induction terms generalizing query with
  | nil =>
    rw [addOrder, orderedBy, List.find?_nil, List.append_nil]
  | cons term rest ih =>
    rw [addOrder]
    by_cases hpath : isColumnPath term.column = true
    · have hfind : (term :: rest).find? (fun term => !isColumnPath term.column) =
          rest.find? fun term => !isColumnPath term.column := by
        refine List.find?_cons_of_neg ?_
        rw [hpath]
        exact Bool.false_ne_true
      have horder : query.order ++ term :: rest = query.order ++ [term] ++ rest :=
        List.append_cons query.order term rest
      rw [if_pos hpath, ih, orderedBy, orderedBy, hfind, horder]
    · have hfind : (term :: rest).find? (fun term => !isColumnPath term.column) = some term := by
        refine List.find?_cons_of_pos ?_
        rw [Bool.not_eq_true', ← Bool.not_eq_true]
        exact hpath
      rw [if_neg hpath, orderedBy, hfind]

/-- Terms are added in parts. -/
lemma addOrder_append (query : Query) (first second : List OrderTerm) :
    query.addOrder (first ++ second) =
      query.addOrder first >>= fun query => query.addOrder second := by
  induction first generalizing query with
  | nil => rfl
  | cons term rest ih =>
    rw [List.cons_append, addOrder, addOrder]
    split
    · exact ih _
    · rfl

/-- The names of a list are read as terms. -/
lemma addOrderNames_map (query : Query) (names : List String) :
    query.addOrderNames (names.map Json.string) = query.addOrder (names.map OrderTerm.ofSpec) := by
  induction names generalizing query with
  | nil => rfl
  | cons name rest ih =>
    have hsplit := addOrder_append query [.ofSpec name] (rest.map .ofSpec)
    rw [List.map_cons, List.map_cons, ← List.singleton_append (x := OrderTerm.ofSpec name), hsplit,
      addOrderNames]
    exact congrArg _ (funext ih)

/-! ## Forms -/

/-- A text that spells terms sorts by them. -/
lemma sort_text (hterms : ∀ term ∈ terms, term.IsSpellable)
    (htext : Text.Spaced (terms.map OrderTerm.spec) text.toList) :
    query.sort (.string text) = query.orderedBy terms := by
  have hwords : ∀ word ∈ terms.map OrderTerm.spec, Text.IsWord word :=
    List.forall_mem_map.mpr fun term hterm => (hterms term hterm).isWord_spec
  rw [sort, Text.words_of_spaced htext hwords, OrderTerm.map_ofSpec_spec hterms, addOrder_eq]

/-- A list that spells terms sorts by them. -/
lemma sort_list (hterms : ∀ term ∈ terms, term.IsSpellable) :
    query.sort (.array (terms.map fun term => .string term.spec)) = query.orderedBy terms := by
  have hnames := addOrderNames_map query (terms.map OrderTerm.spec)
  rw [List.map_map, OrderTerm.map_ofSpec_spec hterms] at hnames
  rw [sort, ← addOrder_eq, ← hnames]
  rfl

/-- A mapping that stands for terms sorts by them. -/
lemma sort_mapping {entries : List (String × Json)}
    (hentries : List.Forall₂ OrderTerm.Entry terms entries)
    (hdistinct : (terms.map OrderTerm.column).Nodup) :
    query.sort (.object (Json.Fields.ofEntries entries)) = query.orderedBy terms := by
  have hnames : entries.map Prod.fst = terms.map OrderTerm.column := by
    have hcolumns := congrArg (List.map OrderTerm.column) (map_of_entries hentries)
    rwa [List.map_map] at hcolumns
  rw [sort, Json.Fields.ofEntries_of_nodup (hnames ▸ hdistinct), map_of_entries hentries,
    addOrder_eq]

/-- A call for one term sorts by it. -/
lemma orderBy_spec {term : OrderTerm} (hterm : term.IsSpellable) :
    query.orderBy term.spec = query.orderedBy [term] := by
  rw [orderBy, hterm.ofSpec_spec, addOrder_eq]

/-- Terms that are ordered by in two parts are ordered by together. -/
lemma orderedBy_append (query : Query) (first second : List OrderTerm) :
    query.orderedBy (first ++ second) =
      query.orderedBy first >>= fun query => query.orderedBy second := by
  rw [← addOrder_eq, addOrder_append, addOrder_eq]
  exact congrArg _ (funext fun _ => addOrder_eq _ second)

end Query

/-- A call spells terms in one of the forms. -/
inductive QueryCall.SpellsOrder : List OrderTerm → QueryCall → Prop
  /-- By a text of words. -/
  | text {terms : List OrderTerm} {text : String} (hterms : ∀ term ∈ terms, term.IsSpellable)
    (htext : Text.Spaced (terms.map OrderTerm.spec) text.toList) :
    SpellsOrder terms (.sort (.string text))
  /-- By a list of names. -/
  | list {terms : List OrderTerm} (hterms : ∀ term ∈ terms, term.IsSpellable) :
    SpellsOrder terms (.sort (.array (terms.map fun term => .string term.spec)))
  /-- By a mapping from fields to directions. -/
  | mapping {terms : List OrderTerm} {entries : List (String × Json)}
    (hentries : List.Forall₂ OrderTerm.Entry terms entries)
    (hdistinct : (terms.map OrderTerm.column).Nodup) :
    SpellsOrder terms (.sort (.object (Json.Fields.ofEntries entries)))
  /-- By the name of one term. -/
  | name {term : OrderTerm} (hterm : term.IsSpellable) : SpellsOrder [term] (.orderBy term.spec)

namespace Query

variable {query : Query} {terms : List OrderTerm} {text : String}

/-- A call in any form orders by the terms that it spells. -/
lemma call_of_spellsOrder {call : QueryCall} (h : QueryCall.SpellsOrder terms call) :
    query.call call = query.orderedBy terms := by
  cases h with
  | text hterms htext => exact sort_text hterms htext
  | list hterms => exact sort_list hterms
  | mapping hentries hdistinct => exact sort_mapping hentries hdistinct
  | name hterm => exact orderBy_spec hterm

/-- A chain of calls orders by the terms of all of them, in their order. -/
lemma callAll_of_spellsOrder {groups : List (List OrderTerm)} {calls : List QueryCall}
    (h : List.Forall₂ QueryCall.SpellsOrder groups calls) :
    query.callAll calls = query.orderedBy groups.flatten := by
  induction h generalizing query with
  | nil =>
    rw [callAll, List.flatten_nil, ← addOrder_eq, addOrder]
  | cons hfirst _ ih =>
    rw [callAll, List.flatten_cons, orderedBy_append, call_of_spellsOrder hfirst]
    exact congrArg _ (funext fun _ => ih)

/-! ## Any call about the order -/

/-- A step adds the same terms to every query, after those of its order, or it refuses every query
for the same reason. -/
def Appends (step : Query → Except QueryError Query) : Prop :=
  (∃ added, ∀ query, step query = .ok { query with order := query.order ++ added }) ∨
    ∃ reason, ∀ query, step query = .error reason

lemma appends_orderedBy (terms : List OrderTerm) : Appends fun query => query.orderedBy terms := by
  unfold orderedBy
  cases terms.find? fun term => !isColumnPath term.column with
  | none => exact .inl ⟨terms, fun query => rfl⟩
  | some term => exact .inr ⟨_, fun query => rfl⟩

/-- Two such steps are one. -/
lemma Appends.andThen {first second : Query → Except QueryError Query} (hfirst : Appends first)
    (hsecond : Appends second) : Appends fun query => first query >>= second := by
  rcases hfirst with ⟨added, hfirst⟩ | ⟨reason, hfirst⟩
  · rcases hsecond with ⟨more, hsecond⟩ | ⟨reason, hsecond⟩
    · refine .inl ⟨added ++ more, fun query => ?_⟩
      dsimp only
      rw [hfirst, ← List.append_assoc]
      exact hsecond _
    · refine .inr ⟨reason, fun query => ?_⟩
      dsimp only
      rw [hfirst]
      exact hsecond _
  · refine .inr ⟨reason, fun query => ?_⟩
    dsimp only
    rw [hfirst]
    rfl

lemma appends_addOrderNames (names : List Json) :
    Appends fun query => query.addOrderNames names := by
  induction names with
  | nil =>
    refine .inl ⟨[], fun query => ?_⟩
    dsimp only
    rw [addOrderNames, List.append_nil]
  | cons name rest ih =>
    cases name with
    | string field =>
      have hstep : (fun query : Query => query.addOrderNames (.string field :: rest)) = fun query =>
          query.orderedBy [.ofSpec field] >>= fun query => query.addOrderNames rest := by
        funext query
        rw [addOrderNames, addOrder_eq]
      rw [hstep]
      exact (appends_orderedBy _).andThen ih
    | _ => exact .inr ⟨_, fun query => rfl⟩

/-- So do all calls about the order. -/
lemma appends_call {call : QueryCall} (h : call.part? = some .order) :
    Appends fun query => query.call call := by
  have hterms : ∀ terms, Appends fun query => query.addOrder terms := by
    intro terms
    have hsame : (fun query : Query => query.addOrder terms) = fun query => query.orderedBy terms :=
      funext fun query => addOrder_eq query terms
    rw [hsame]
    exact appends_orderedBy terms
  cases call with
  | sort spec =>
    cases spec with
    | null => exact appends_addOrderNames []
    | string text => exact hterms _
    | array names => exact appends_addOrderNames names
    | object fields => exact hterms _
    | _ => exact .inr ⟨_, fun query => rfl⟩
  | orderBy spec => exact hterms _
  | _ => cases h

/-! ## All forms agree -/

/-- A text of words, a list, one call for each term, and a mapping if the columns are different:
they all order by the terms that they spell, which come after the ones that are there; or they all
refuse the first term that names no column.  Calls that come one after the other add the terms of
one after those of the other, whatever their forms are, and a call with any other value adds its
terms last as well. -/
theorem sorted_as_spelled (query : Query) (terms : List OrderTerm)
    (hterms : ∀ term ∈ terms, term.IsSpellable) :
    (∀ text : String, Text.Spaced (terms.map OrderTerm.spec) text.toList →
      query.sort (.string text) = query.orderedBy terms) ∧
    query.sort (.array (terms.map fun term => .string term.spec)) = query.orderedBy terms ∧
    query.callAll (terms.map fun term => .orderBy term.spec) = query.orderedBy terms ∧
    (∀ entries : List (String × Json), List.Forall₂ OrderTerm.Entry terms entries →
      (terms.map OrderTerm.column).Nodup →
      query.sort (.object (Json.Fields.ofEntries entries)) = query.orderedBy terms) ∧
    (∀ (groups : List (List OrderTerm)) (calls : List QueryCall),
      List.Forall₂ QueryCall.SpellsOrder groups calls →
      query.callAll calls = query.orderedBy groups.flatten) ∧
    ∀ call : QueryCall, call.part? = some .order → Appends fun query => query.call call := by
  refine ⟨fun text htext => sort_text hterms htext, sort_list hterms, ?_,
    fun entries hentries hdistinct => sort_mapping hentries hdistinct,
    fun groups calls hcalls => callAll_of_spellsOrder hcalls, fun call hcall => appends_call hcall⟩
  have hsingle : List.Forall₂ QueryCall.SpellsOrder (terms.map fun term => [term])
      (terms.map fun term => .orderBy term.spec) := by
    rw [List.forall₂_map_left_iff, List.forall₂_map_right_iff, List.forall₂_same]
    exact fun term hterm => .name (hterms term hterm)
  have hflatten : (terms.map fun term => [term]).flatten = terms := by
    rw [← List.flatMap_def, List.flatMap_singleton']
  rw [callAll_of_spellsOrder hsingle, hflatten]

/-- People are sorted by their names and then from the oldest, in every form; and the same terms are
added by two calls of different forms. -/
theorem people_sorted_alike :
    let terms : List OrderTerm := [⟨"name", .ascending⟩, ⟨"age", .descending⟩]
    ∃ query, Query.ofTable "people" = .ok query ∧ (∀ term ∈ terms, term.IsSpellable) ∧
      query.sort (.string " name\t-age") = query.orderedBy terms ∧
      query.sort (.array [.string "name", .string "-age"]) = query.orderedBy terms ∧
      query.callAll [.orderBy "name", .orderBy "-age"] = query.orderedBy terms ∧
      query.sort (.object [("name", .string "sideways"), ("age", .string "Descending")]) =
        query.orderedBy terms ∧
      query.callAll [.sort (.string "name"), .orderBy "-age"] = query.orderedBy terms ∧
      query.orderedBy terms = .ok { query with order := terms } := by
  intro terms
  obtain ⟨query, hquery, hunordered⟩ :
      ∃ query, Query.ofTable "people" = .ok query ∧ query.order = [] := by
    have hplain : isPlainName "people" = true := by decide +kernel
    exact ⟨_, if_pos hplain, rfl⟩
  have hname : (⟨"name", .ascending⟩ : OrderTerm).IsSpellable :=
    ⟨Text.isWord_of_all (by decide) (by decide), by decide⟩
  have hage : (⟨"age", .descending⟩ : OrderTerm).IsSpellable :=
    ⟨Text.isWord_of_all (by decide) (by decide), by decide⟩
  have hterms : ∀ term ∈ terms, term.IsSpellable :=
    List.forall_mem_cons.mpr ⟨hname, List.forall_mem_singleton.mpr hage⟩
  obtain ⟨htext, hlist, hcalls, hmapping, hchain, -⟩ := sorted_as_spelled query terms hterms
  have hspaced : Text.Spaced (terms.map OrderTerm.spec) " name\t-age".toList :=
    .blank rfl (.word "name" rfl (.last "-age"))
  have hentries : List.Forall₂ OrderTerm.Entry terms
      [("name", .string "sideways"), ("age", .string "Descending")] := by
    refine .cons ⟨rfl, iff_of_false ?_ Direction.noConfusion⟩
      (.cons ⟨rfl, iff_of_true (.long rfl) rfl⟩ .nil)
    rintro (_ | hshort | hlong)
    · cases hshort
    · cases hlong
  have hspelled : List.Forall₂ QueryCall.SpellsOrder
      [[⟨"name", .ascending⟩], [⟨"age", .descending⟩]]
      [.sort (.string "name"), .orderBy "-age"] :=
    .cons (.text (List.forall_mem_singleton.mpr hname) (.last "name")) (.cons (.name hage) .nil)
  have hpaths : terms.find? (fun term => !isColumnPath term.column) = none := by decide +kernel
  refine ⟨query, hquery, hterms, htext _ hspaced, hlist, hcalls,
    hmapping _ hentries (by decide), hchain _ _ hspelled, ?_⟩
  rw [orderedBy, hpaths]
  dsimp only
  rw [hunordered, List.nil_append]

end Query

end DocTables
