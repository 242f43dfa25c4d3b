import DocTables.Name
import DocTables.Proofs.Decimal.NumberText
import Mathlib.Data.List.Forall2

/-!
# The tokens of a WHERE clause

The text of a condition is read one character at a time into words, numbers, comparison signs,
quoted texts, parentheses and commas.  In a quoted text every character stands for itself, except
that a quote mark ends it unless another one follows, which then stands for one quote mark of the
text.

`Spells` says which tokens a piece of text is read as, whatever delimiter follows it.  Pieces with a
delimiter between them are read piece by piece (`Spells.append`), so the tokens of a text follow
from those of its parts; in particular nothing that stands in a quoted text is taken for anything
else.
-/

namespace DocTables

/-- A token. -/
inductive SqlToken where
  /-- A name, alone or after the name of its table and a point, or a keyword. -/
  | word (text : String)
  /-- A number. -/
  | number (text : String)
  /-- A comparison sign. -/
  | sign (text : String)
  /-- A quoted text, by its content. -/
  | text (content : String)
  /-- An opening parenthesis. -/
  | opening
  /-- A closing parenthesis. -/
  | closing
  /-- A comma. -/
  | comma
deriving DecidableEq, Repr

/-! ## Reading characters -/

/-- What has been read of the token that is being read. -/
inductive Scanning where
  /-- No token is being read. -/
  | between
  /-- A word. -/
  | word (seen : List Char)
  /-- A number. -/
  | number (seen : List Char)
  /-- A comparison sign. -/
  | sign (seen : List Char)
  /-- A quoted text that has not ended. -/
  | quoted (seen : List Char)
  /-- A quoted text after a quote mark; it has ended unless another one follows. -/
  | quoteSeen (seen : List Char)
deriving DecidableEq, Repr

namespace Scanning

/-- Whether a word may go on with the character. -/
def isWordChar (c : Char) : Bool := isNameRest c || c = '.'

/-- Whether the character stands in comparison signs. -/
def isSignChar (c : Char) : Bool := c = '<' || c = '=' || c = '>'

/-- How the token that is being read goes on with a character, if it does. -/
def goOn : Scanning → Char → Option Scanning
  | .between, _ => none
  | .word seen, c => if isWordChar c then some (.word (seen ++ [c])) else none
  | .number seen, c => if isNumberChar c then some (.number (seen ++ [c])) else none
  | .sign seen, c => if isSignChar c then some (.sign (seen ++ [c])) else none
  | .quoted seen, c => some (if c = '\x27' then .quoteSeen seen else .quoted (seen ++ [c]))
  | .quoteSeen seen, c => if c = '\x27' then some (.quoted (seen ++ [c])) else none

/-- The token that has been read, if it may end. -/
def finish : Scanning → Option (List SqlToken)
  | .between => some []
  | .word seen => some [.word (String.ofList seen)]
  | .number seen => some [.number (String.ofList seen)]
  | .sign seen => some [.sign (String.ofList seen)]
  | .quoted _ => none
  | .quoteSeen seen => some [.text (String.ofList seen)]

/-- What a character begins where no token is being read. -/
def start (c : Char) : Option (List SqlToken × Scanning) :=
  if c = ' ' then some ([], .between)
  else if c = '(' then some ([.opening], .between)
  else if c = ')' then some ([.closing], .between)
  else if c = ',' then some ([.comma], .between)
  else if c = '\x27' then some ([], .quoted [])
  else if isSignChar c then some ([], .sign [c])
  else if isNumberChar c then some ([], .number [c])
  else if isNameStart c then some ([], .word [c])
  else none

/-- Reads a character: the token goes on, or it ends and the character begins something else. -/
def step (state : Scanning) (c : Char) : Option (List SqlToken × Scanning) :=
  match state.goOn c with
  | some next => some ([], next)
  | none =>
    match state.finish, start c with
    | some ended, some (begun, next) => some (ended ++ begun, next)
    | _, _ => none

/-- Reads characters up to the end. -/
def scan : Scanning → List Char → Option (List SqlToken)
  | state, [] => state.finish
  | state, c :: rest =>
    match state.step c with
    | some (tokens, next) => (scan next rest).map (tokens ++ ·)
    | none => none

end Scanning

/-- The tokens of a text, if it can be read. -/
def sqlTokens? (text : String) : Option (List SqlToken) := Scanning.scan .between text.toList

namespace Scanning

/-! ## Runs of characters -/

/-- Reading the characters gives the tokens and leads from one state to another, whatever
follows. -/
def Passes (state : Scanning) (cs : List Char) (tokens : List SqlToken) (next : Scanning) : Prop :=
  ∀ rest, scan state (cs ++ rest) = (scan next rest).map (tokens ++ ·)

variable {state next last : Scanning} {cs ds seen : List Char} {c : Char}
  {tokens more : List SqlToken}

/-- Reading nothing leads nowhere. -/
lemma passes_nil (state : Scanning) : Passes state [] [] state := by
  intro rest
  simp

/-- Runs are read one after the other. -/
lemma Passes.append (h : Passes state cs tokens next) (hmore : Passes next ds more last) :
    Passes state (cs ++ ds) (tokens ++ more) last := by
  intro rest
  rw [List.append_assoc, h, hmore, Option.map_map]
  congr 1
  funext later
  rw [Function.comp_apply, List.append_assoc]

/-- One character is read by one step. -/
lemma passes_of_step (h : state.step c = some (tokens, next)) : Passes state [c] tokens next := by
  intro rest
  rw [List.cons_append, List.nil_append, scan, h]

/-- A character with which the token goes on gives no token. -/
lemma passes_of_goOn (h : state.goOn c = some next) : Passes state [c] [] next := by
  refine passes_of_step ?_
  rw [step, h]

/-- A run of characters with each of which a token goes on. -/
lemma passes_of_forall_goOn {reading : List Char → Scanning}
    (h : ∀ seen, ∀ c ∈ cs, (reading seen).goOn c = some (reading (seen ++ [c]))) :
    Passes (reading seen) cs [] (reading (seen ++ cs)) := by
  induction cs generalizing seen with
  | nil =>
    rw [List.append_nil]
    exact passes_nil _
  | cons c rest ih =>
    have hfirst : Passes (reading seen) [c] [] (reading (seen ++ [c])) :=
      passes_of_goOn (h seen c List.mem_cons_self)
    have hrest : Passes (reading (seen ++ [c])) rest [] (reading (seen ++ [c] ++ rest)) :=
      ih fun seen d hd => h seen d (List.mem_cons_of_mem _ hd)
    rw [List.append_assoc] at hrest
    exact hfirst.append hrest

/-- A quoted text is read back from its doubled form. -/
lemma passes_doubled (seen cs : List Char) :
    Passes (.quoted seen) (Text.doubled '\x27' cs) [] (.quoted (seen ++ cs)) := by
  induction cs generalizing seen with
  | nil =>
    rw [List.append_nil]
    exact passes_nil _
  | cons c rest ih =>
    have hrest := ih (seen ++ [c])
    rw [List.append_assoc] at hrest
    unfold Text.doubled
    split
    · -- a quote mark is written twice: the first one might end the text, the second one revokes it
      rename_i hquote
      have hfirst : Passes (.quoted seen) ['\x27'] [] (.quoteSeen seen) := passes_of_goOn rfl
      have hsecond : Passes (.quoteSeen seen) ['\x27'] [] (.quoted (seen ++ [c])) := by
        rw [hquote]
        exact passes_of_goOn rfl
      exact (hfirst.append hsecond).append hrest
    · rename_i hquote
      have hfirst : Passes (.quoted seen) [c] [] (.quoted (seen ++ [c])) := by
        refine passes_of_goOn ?_
        rw [goOn, if_neg hquote]
      exact hfirst.append hrest

/-! ## Pieces of text -/

/-- The text is read as tokens, of which the last one may still be open at its end. -/
def Spells (text : String) (tokens : List SqlToken) : Prop :=
  ∃ before state ended, Passes .between text.toList before state ∧ state.finish = some ended ∧
    tokens = before ++ ended

/-- The text ends any token before it, and is read as tokens itself. -/
def Separates (separator : String) (tokens : List SqlToken) : Prop :=
  ∀ state ended, state.finish = some ended →
    Passes state separator.toList (ended ++ tokens) .between

variable {text separator : String}

/-- A text of which the tokens are known is read as these. -/
lemma Spells.sqlTokens? (h : Spells text tokens) : sqlTokens? text = some tokens := by
  obtain ⟨before, state, ended, hpasses, hfinish, rfl⟩ := h
  have hscan := hpasses []
  rw [List.append_nil, scan, hfinish] at hscan
  exact hscan

/-- Nothing is read as no token. -/
lemma spells_empty : Spells "" [] := ⟨[], .between, [], passes_nil _, rfl, rfl⟩

/-- Two pieces with a separator between them are read one after the other. -/
lemma Spells.append {first second : String} {others : List SqlToken} (hfirst : Spells first tokens)
    (hseparator : Separates separator others) (hsecond : Spells second more) :
    Spells (first ++ separator ++ second) (tokens ++ others ++ more) := by
  obtain ⟨before, state, ended, hpasses, hfinish, rfl⟩ := hfirst
  obtain ⟨before', state', ended', hpasses', hfinish', rfl⟩ := hsecond
  refine ⟨before ++ (ended ++ others) ++ before', state', ended', ?_, hfinish', ?_⟩
  · rw [String.toList_append, String.toList_append]
    exact (hpasses.append (hseparator state ended hfinish)).append hpasses'
  · simp only [List.append_assoc]

/-- A piece with a separator on each side separates. -/
lemma Separates.around {before after : String} {others : List SqlToken}
    (hbefore : Separates before tokens) (htext : Spells text others)
    (hafter : Separates after more) :
    Separates (before ++ text ++ after) (tokens ++ others ++ more) := by
  intro state ended hfinish
  obtain ⟨first, last, ended', hpasses, hfinish', rfl⟩ := htext
  rw [String.toList_append, String.toList_append]
  have hrun := ((hbefore state ended hfinish).append hpasses).append (hafter last ended' hfinish')
  simpa only [List.append_assoc] using hrun

/-- Pieces with the same separator between any two of them are read one after the other. -/
lemma spells_intercalate {others : List SqlToken} {texts : List String}
    {lists : List (List SqlToken)} (hseparator : Separates separator others)
    (h : List.Forall₂ Spells texts lists) :
    Spells (separator.intercalate texts) (others.intercalate lists) := by
  induction h with
  | nil =>
    rw [String.intercalate_nil]
    exact spells_empty
  | @cons text tokens rest lists hfirst hrest ih =>
    cases hrest with
    | nil =>
      rw [String.intercalate_singleton, List.intercalate_singleton]
      exact hfirst
    | cons _ _ =>
      rw [String.intercalate_cons_cons, List.intercalate_cons_cons]
      exact hfirst.append hseparator ih

/-! ## Separators -/

/-- The characters that end every token but a quoted text. -/
def IsDelimiter (c : Char) : Prop := c = ' ' ∨ c = '(' ∨ c = ')' ∨ c = ','

/-- No token that may end goes on with a delimiter. -/
lemma goOn_delimiter {ended : List SqlToken} (hfinish : state.finish = some ended)
    (hc : IsDelimiter c) : state.goOn c = none := by
  cases state with
  | quoted seen => cases hfinish
  | _ => rcases hc with rfl | rfl | rfl | rfl <;> rfl

/-- A delimiter separates. -/
lemma separates_of_isDelimiter (hc : IsDelimiter c) (hstart : start c = some (tokens, .between)) :
    Separates (String.ofList [c]) tokens := by
  intro state ended hfinish
  rw [String.toList_ofList]
  refine passes_of_step ?_
  rw [step, goOn_delimiter hfinish hc, hfinish, hstart]

lemma separates_blank : Separates " " [] := separates_of_isDelimiter (.inl rfl) rfl

lemma separates_opening : Separates "(" [.opening] := separates_of_isDelimiter (.inr (.inl rfl)) rfl

lemma separates_closing : Separates ")" [.closing] :=
  separates_of_isDelimiter (.inr (.inr (.inl rfl))) rfl

lemma separates_comma : Separates "," [.comma] :=
  separates_of_isDelimiter (.inr (.inr (.inr rfl))) rfl

/-! ## Tokens -/

/-- A character of a class is none outside of it. -/
lemma ne_of_apply_eq_false {isIn : Char → Bool} {d : Char} (hc : isIn c = true)
    (hd : isIn d = false) : c ≠ d := by
  rintro rfl
  exact Bool.false_ne_true (hd.symm.trans hc)

/-- A letter is no digit. -/
lemma isDigit_of_isAlpha (h : c.isAlpha = true) : c.isDigit = false := by
  rw [← Bool.not_eq_true, Char.isDigit_iff_toNat]
  rintro ⟨-, hdigit⟩
  have hletter : 'A'.toNat ≤ c.toNat := by
    rcases Bool.or_eq_true_iff.mp h with hupper | hlower
    · exact UInt32.le_iff_toNat_le.mp (of_decide_eq_true hupper).1
    · have hlow := UInt32.le_iff_toNat_le.mp (of_decide_eq_true (Bool.and_eq_true_iff.mp hlower).1)
      exact Nat.le_trans (by decide) hlow
  have hbetween : '9'.toNat < 'A'.toNat := by decide
  omega

/-- Names have no characters in common with the beginnings of other tokens. -/
lemma start_of_isNameStart (h : isNameStart c = true) : start c = some ([], .word [c]) := by
  have hne : ∀ d, isNameStart d = false → c ≠ d := fun d => ne_of_apply_eq_false h
  have hsign : isSignChar c = false := by
    simp [isSignChar, hne '<' rfl, hne '=' rfl, hne '>' rfl]
  have hnumber : isNumberChar c = false := by
    have hdigit : c.isDigit = false := by
      have hletter : c.isAlpha = true ∨ c = '_' := by simpa [isNameStart] using h
      rcases hletter with hletter | rfl
      · exact isDigit_of_isAlpha hletter
      · rfl
    simp [isNumberChar, hdigit, hne '-' rfl, hne '.' rfl]
  simp [start, hne ' ' rfl, hne '(' rfl, hne ')' rfl, hne ',' rfl, hne '\x27' rfl,
    hsign, hnumber, h]

/-- Numbers have no characters in common with the beginnings of other tokens. -/
lemma start_of_isNumberChar (h : isNumberChar c = true) : start c = some ([], .number [c]) := by
  have hne : ∀ d, isNumberChar d = false → c ≠ d := fun d => ne_of_apply_eq_false h
  have hsign : isSignChar c = false := by
    simp [isSignChar, hne '<' rfl, hne '=' rfl, hne '>' rfl]
  simp [start, hne ' ' rfl, hne '(' rfl, hne ')' rfl, hne ',' rfl, hne '\x27' rfl, hsign, h]

/-- A sign begins no other token. -/
lemma start_of_isSignChar (h : isSignChar c = true) : start c = some ([], .sign [c]) := by
  have hne : ∀ d, isSignChar d = false → c ≠ d := fun d => ne_of_apply_eq_false h
  simp [start, hne ' ' rfl, hne '(' rfl, hne ')' rfl, hne ',' rfl, hne '\x27' rfl, h]

/-- A token that goes on with each of its characters is read as a whole. -/
lemma spells_of_start (token : String → SqlToken) (reading : List Char → Scanning)
    {rest : List Char}
    (hfinish : ∀ seen, (reading seen).finish = some [token (String.ofList seen)])
    (htext : text.toList = c :: rest) (hstart : start c = some ([], reading [c]))
    (hrest : ∀ seen, ∀ d ∈ rest, (reading seen).goOn d = some (reading (seen ++ [d]))) :
    Spells text [token text] := by
  refine ⟨[], reading (c :: rest), [token text], ?_, ?_, rfl⟩
  · have hfirst : Passes .between [c] [] (reading [c]) := by
      refine passes_of_step ?_
      rw [step, hstart]
      rfl
    rw [htext]
    exact hfirst.append (passes_of_forall_goOn hrest)
  · rw [hfinish, ← htext, String.ofList_toList]

lemma spells_word {rest : List Char} (htext : text.toList = c :: rest) (hc : isNameStart c = true)
    (hrest : ∀ d ∈ rest, isWordChar d = true) : Spells text [.word text] := by
  refine spells_of_start .word .word (fun _ => rfl) htext (start_of_isNameStart hc) ?_
  intro seen d hd
  rw [goOn, if_pos (hrest d hd)]

lemma spells_number (h : IsNumberText text.toList) : Spells text [.number text] := by
  obtain ⟨hne, hchars⟩ := h
  obtain ⟨c, rest, htext⟩ := List.exists_cons_of_ne_nil hne
  rw [htext] at hchars
  obtain ⟨hc, hrest⟩ := List.forall_mem_cons.mp hchars
  refine spells_of_start .number .number (fun _ => rfl) htext
    (start_of_isNumberChar hc) ?_
  intro seen d hd
  rw [goOn, if_pos (hrest d hd)]

lemma spells_sign {rest : List Char} (htext : text.toList = c :: rest) (hc : isSignChar c = true)
    (hrest : ∀ d ∈ rest, isSignChar d = true) : Spells text [.sign text] := by
  refine spells_of_start .sign .sign (fun _ => rfl) htext (start_of_isSignChar hc) ?_
  intro seen d hd
  rw [goOn, if_pos (hrest d hd)]

/-- A quoted text is read as its content, whatever characters are in it. -/
lemma spells_quoted (content : String) : Spells (Text.quoted '\x27' content) [.text content] := by
  refine ⟨[], .quoteSeen content.toList, [.text content], ?_, ?_, rfl⟩
  · have hopen : Passes .between ['\x27'] [] (.quoted []) := passes_of_step rfl
    have hclose : Passes (.quoted content.toList) ['\x27'] [] (.quoteSeen content.toList) :=
      passes_of_goOn rfl
    have hcontent := passes_doubled [] content.toList
    rw [Text.quoted, String.toList_ofList]
    exact hopen.append (hcontent.append hclose)
  · rw [finish, String.ofList_toList]

end Scanning

end DocTables
