import DocTables.Name
import DocTables.Text.Quoted
import Mathlib.Data.List.Forall2
import Mathlib.Tactic.Lemma

/-!
# The pieces of a statement

A statement is cut at its blanks and commas, and nowhere inside of parentheses or of a quoted text:
a piece is a name, a keyword, a literal, or everything between an opening parenthesis and the one
that closes it.  A comma is a piece of its own.  The cut knows nothing of the statement; it follows
the characters one by one and keeps count of open parentheses and of whether a text is open
(`Place`).

`Parts` says which pieces a piece of text is cut into, whatever comes after it.  It is put together
from names and literals, which are never cut (`Solid`), and from parentheses around text that closes
all it opens (`Inside`).
-/

namespace DocTables

/-! ## Joined texts -/

/-- What the empty text has, and appending keeps, is kept when texts are joined. -/
lemma closed_intercalate {property : String → Prop} {separator : String} {texts : List String}
    (hempty : property "")
    (happend : ∀ {first second}, property first → property second → property (first ++ second))
    (hseparator : property separator) (h : ∀ text ∈ texts, property text) :
    property (separator.intercalate texts) := by
  induction texts with
  | nil =>
    rw [String.intercalate_nil]
    exact hempty
  | cons first rest ih =>
    obtain ⟨hfirst, hrest⟩ := List.forall_mem_cons.mp h
    cases rest with
    | nil =>
      rw [String.intercalate_singleton]
      exact hfirst
    | cons second others =>
      rw [String.intercalate_cons_cons]
      exact happend (happend hfirst hseparator) (ih hrest)

/-! ## Cutting -/

/-- Where a character of a statement stands. -/
structure Place where
  /-- The number of open parentheses. -/
  depth : Nat
  /-- Whether a quoted text is open. -/
  quoted : Bool
deriving DecidableEq, Repr

namespace Place

/-- Outside of parentheses and texts. -/
def top : Place := ⟨0, false⟩

/-- The place after a character. A quote mark that is doubled closes a text and opens it again. -/
def after (place : Place) (c : Char) : Place :=
  if c = '\x27' then ⟨place.depth, !place.quoted⟩
  else if place.quoted then place
  else if c = '(' then ⟨place.depth + 1, false⟩
  else if c = ')' then ⟨place.depth - 1, false⟩
  else place

/-- The piece that has been read, unless nothing has. -/
def ended (seen : List Char) : List String := if seen.isEmpty then [] else [String.ofList seen]

/-- Cuts characters, given the place where they begin and what has been read of the first piece. -/
def cut (place : Place) (seen : List Char) : List Char → List String
  | [] => ended seen
  | c :: rest =>
    if place = top ∧ c = ' ' then ended seen ++ cut top [] rest
    else if place = top ∧ c = ',' then ended seen ++ "," :: cut top [] rest
    else cut (place.after c) (seen ++ [c]) rest

/-- Reading the characters leads from one place to another, and none of them is a blank or a comma
at which a statement is cut. -/
def Leads : Place → List Char → Place → Prop
  | place, [], next => place = next
  | place, c :: rest, next =>
    ¬ (place = top ∧ (c = ' ' ∨ c = ',')) ∧ Leads (place.after c) rest next

variable {place next last : Place} {cs ds seen : List Char}

lemma Leads.append (h : Leads place cs next) (hmore : Leads next ds last) :
    Leads place (cs ++ ds) last := by
  induction cs generalizing place with
  | nil =>
    obtain rfl : place = next := h
    exact hmore
  | cons c rest ih =>
    obtain ⟨hc, hrest⟩ := h
    exact ⟨hc, ih hrest⟩

/-- Characters that are not cut belong to the piece that is being read. -/
lemma cut_of_leads (h : Leads place cs next) (rest : List Char) :
    cut place seen (cs ++ rest) = cut next (seen ++ cs) rest := by
  induction cs generalizing place seen with
  | nil =>
    obtain rfl : place = next := h
    rw [List.nil_append, List.append_nil]
  | cons c others ih =>
    obtain ⟨hc, hothers⟩ := h
    have hblank : ¬ (place = top ∧ c = ' ') := fun hcut => hc ⟨hcut.1, .inl hcut.2⟩
    have hcomma : ¬ (place = top ∧ c = ',') := fun hcut => hc ⟨hcut.1, .inr hcut.2⟩
    rw [List.cons_append, cut, if_neg hblank, if_neg hcomma, ih hothers, List.append_assoc,
      List.singleton_append]

/-- A character that neither opens nor closes anything. -/
def isStill (c : Char) : Bool := c ≠ '\x27' && c ≠ '(' && c ≠ ')'

/-- A still character at which a statement is never cut. -/
def isUncut (c : Char) : Bool := isStill c && c ≠ ' ' && c ≠ ','

/-- Still characters lead nowhere, if no cut is made at them. -/
lemma leads_of_still (hstill : ∀ c ∈ cs, isStill c = true)
    (huncut : ∀ c ∈ cs, ¬ (place = top ∧ (c = ' ' ∨ c = ','))) : Leads place cs place := by
  induction cs with
  | nil => rfl
  | cons c rest ih =>
    obtain ⟨hc, hrest⟩ := List.forall_mem_cons.mp hstill
    obtain ⟨hcut, huncut'⟩ := List.forall_mem_cons.mp huncut
    have hstays : place.after c = place := by
      simp only [isStill, Bool.and_eq_true, decide_eq_true_eq] at hc
      obtain ⟨⟨hquote, hopening⟩, hclosing⟩ := hc
      rw [after, if_neg hquote, if_neg hopening, if_neg hclosing, ite_self]
    refine ⟨hcut, ?_⟩
    rw [hstays]
    exact ih hrest huncut'

/-- The content of a quoted text leads nowhere: each quote mark in it is followed by another one. -/
lemma leads_doubled (depth : Nat) (cs : List Char) :
    Leads ⟨depth, true⟩ (Text.doubled '\x27' cs) ⟨depth, true⟩ := by
  have hquoted : ∀ c, ¬ ((⟨depth, true⟩ : Place) = top ∧ (c = ' ' ∨ c = ',')) := by
    rintro c ⟨htop, -⟩
    cases htop
  induction cs with
  | nil => rfl
  | cons c rest ih =>
    unfold Text.doubled
    split
    · refine ⟨hquoted _, ?_, ih⟩
      rintro ⟨-, hblank | hcomma⟩
      · cases hblank
      · cases hcomma
    · rename_i hquote
      refine ⟨hquoted c, ?_⟩
      have hstays : (⟨depth, true⟩ : Place).after c = ⟨depth, true⟩ := by
        rw [after, if_neg hquote, if_pos rfl]
      rw [hstays]
      exact ih

end Place

open Place

/-- The pieces of a statement. -/
def pieces (text : String) : List String := cut top [] text.toList

example : pieces "INSERT INTO t (a, b) VALUES (1, \x27) (, \x27\x27\x27)" =
    ["INSERT", "INTO", "t", "(a, b)", "VALUES", "(1, \x27) (, \x27\x27\x27)"] := by decide +kernel

/-! ## Texts that are not cut -/

/-- The text is not cut, wherever it stands outside of quoted texts, and closes all it opens. -/
def Solid (text : String) : Prop := ∀ depth, Leads ⟨depth, false⟩ text.toList ⟨depth, false⟩

/-- The text is not cut between parentheses, and closes all it opens. -/
def Inside (text : String) : Prop :=
  ∀ depth, Leads ⟨depth + 1, false⟩ text.toList ⟨depth + 1, false⟩

variable {first second text separator : String}

/-- A text of characters that do nothing is not cut. -/
lemma solid_of_uncut (h : text.toList.all isUncut = true) : Solid text := by
  have huncut : ∀ c ∈ text.toList, (isStill c = true ∧ c ≠ ' ') ∧ c ≠ ',' := by
    intro c hc
    simpa only [isUncut, Bool.and_eq_true, decide_eq_true_eq] using List.all_eq_true.mp h c hc
  refine fun depth => leads_of_still (fun c hc => (huncut c hc).1.1) fun c hc hcut => ?_
  exact hcut.2.elim (huncut c hc).1.2 (huncut c hc).2

/-- Neither is a text of characters of one kind, if none that does anything is of it. -/
lemma solid_of_kind {kind : Char → Bool} (h : ∀ c ∈ text.toList, kind c = true)
    (hkind : (['\x27', '(', ')', ' ', ','].all fun c => !kind c) = true) : Solid text := by
  simp only [List.all_cons, List.all_nil, Bool.and_true, Bool.and_eq_true, Bool.not_eq_true']
    at hkind
  obtain ⟨hquote, hopening, hclosing, hblank, hcomma⟩ := hkind
  have hne : ∀ c ∈ text.toList, ∀ excluded, kind excluded = false → c ≠ excluded := by
    rintro c hc _ hexcluded rfl
    rw [h c hc] at hexcluded
    cases hexcluded
  refine solid_of_uncut (List.all_eq_true.mpr fun c hc => ?_)
  simp only [isUncut, isStill, Bool.and_eq_true, decide_eq_true_eq]
  exact ⟨⟨⟨⟨hne c hc _ hquote, hne c hc _ hopening⟩, hne c hc _ hclosing⟩, hne c hc _ hblank⟩,
    hne c hc _ hcomma⟩

/-- A text of still characters may stand between parentheses. -/
lemma inside_of_still (h : text.toList.all isStill = true) : Inside text := by
  refine fun depth => leads_of_still (List.all_eq_true.mp h) fun c _ hcut => ?_
  cases hcut.1

lemma Solid.append (hfirst : Solid first) (hsecond : Solid second) : Solid (first ++ second) := by
  intro depth
  rw [String.toList_append]
  exact (hfirst depth).append (hsecond depth)

lemma Solid.inside (h : Solid text) : Inside text := fun depth => h (depth + 1)

lemma Inside.append (hfirst : Inside first) (hsecond : Inside second) :
    Inside (first ++ second) := by
  intro depth
  rw [String.toList_append]
  exact (hfirst depth).append (hsecond depth)

/-- Text between parentheses is not cut. -/
lemma Inside.parenthesized (h : Inside text) : Solid ("(" ++ text ++ ")") := by
  intro depth
  rw [String.toList_append, String.toList_append]
  have hopening : Leads ⟨depth, false⟩ "(".toList ⟨depth + 1, false⟩ := by
    refine ⟨?_, rfl⟩
    rintro ⟨-, hblank | hcomma⟩
    · cases hblank
    · cases hcomma
  have hclosing : Leads ⟨depth + 1, false⟩ ")".toList ⟨depth, false⟩ := by
    refine ⟨?_, rfl⟩
    rintro ⟨-, hblank | hcomma⟩
    · cases hblank
    · cases hcomma
  exact (hopening.append (h depth)).append hclosing

/-- A quoted text is not cut, whatever characters are in it. -/
lemma solid_quoted (content : String) : Solid (Text.quoted '\x27' content) := by
  intro depth
  rw [Text.quoted, String.toList_ofList]
  have hopening : ¬ ((⟨depth, false⟩ : Place) = top ∧ ('\x27' = ' ' ∨ '\x27' = ',')) := by
    rintro ⟨-, hblank | hcomma⟩
    · cases hblank
    · cases hcomma
  have hclosing : Leads ⟨depth, true⟩ ['\x27'] ⟨depth, false⟩ := by
    refine ⟨?_, rfl⟩
    rintro ⟨htop, -⟩
    cases htop
  exact ⟨hopening, (leads_doubled depth content.toList).append hclosing⟩

/-- Texts between parentheses may be joined by what may stand there. -/
lemma inside_intercalate {texts : List String} (hseparator : Inside separator)
    (h : ∀ text ∈ texts, Inside text) : Inside (separator.intercalate texts) :=
  closed_intercalate (fun _ => rfl) Inside.append hseparator h

/-! ## Texts that are cut -/

/-- The text is cut into the pieces, when a blank, a comma or nothing comes after it. -/
def Parts (text : String) (list : List String) : Prop :=
  ∀ rest : List Char, (∀ c ∈ rest.head?, c = ' ' ∨ c = ',') →
    cut top [] (text.toList ++ rest) = list ++ cut top [] rest

variable {list more : List String}

/-- A whole text is cut into its parts. -/
lemma Parts.pieces_eq (h : Parts text list) : pieces text = list := by
  have hend := h [] fun c hc => by cases hc
  rwa [List.append_nil, cut, ended, List.isEmpty_nil, if_pos rfl, List.append_nil] at hend

/-- A text that is not cut is one piece. -/
lemma Solid.parts (h : Solid text) (hne : text ≠ "") : Parts text [text] := by
  intro rest hrest
  have hended : ended text.toList = [text] := by
    have hempty : text.toList.isEmpty = false := by
      rw [List.isEmpty_eq_false_iff]
      exact fun hnil => hne (String.toList_eq_nil_iff.mp hnil)
    rw [ended, hempty, String.ofList_toList]
    rfl
  rw [top, cut_of_leads (h 0), List.nil_append]
  cases rest with
  | nil => rw [cut, hended, cut, ended, List.isEmpty_nil, if_pos rfl, List.append_nil]
  | cons c others =>
    rcases hrest c rfl with rfl | rfl
    · have hblank : (⟨0, false⟩ : Place) = top ∧ ' ' = ' ' := ⟨rfl, rfl⟩
      rw [cut, if_pos hblank, hended, cut, if_pos hblank]
      rfl
    · have hcomma : (⟨0, false⟩ : Place) = top ∧ ',' = ',' := ⟨rfl, rfl⟩
      have hblank : ¬ ((⟨0, false⟩ : Place) = top ∧ ',' = ' ') := by
        rintro ⟨-, hblank⟩
        cases hblank
      rw [cut, if_neg hblank, if_pos hcomma, hended, cut, if_neg hblank, if_pos hcomma]
      rfl

/-- Text between parentheses is one piece with them. -/
lemma Inside.parts (h : Inside text) : Parts ("(" ++ text ++ ")") ["(" ++ text ++ ")"] := by
  refine h.parenthesized.parts fun hempty => ?_
  have hlist := congrArg String.toList hempty
  simp at hlist

/-- Texts with a blank between them are cut there. -/
lemma Parts.blank (hfirst : Parts first list) (hsecond : Parts second more) :
    Parts (first ++ " " ++ second) (list ++ more) := by
  intro rest hrest
  have hlead : ∀ c ∈ (' ' :: (second.toList ++ rest)).head?, c = ' ' ∨ c = ',' := by simp
  have hskip : cut top [] (' ' :: (second.toList ++ rest)) =
      cut top [] (second.toList ++ rest) := by
    rw [cut, if_pos ⟨rfl, rfl⟩]
    rfl
  have htext : (first ++ " " ++ second).toList ++ rest =
      first.toList ++ ' ' :: (second.toList ++ rest) := by simp
  rw [htext, hfirst _ hlead, hskip, hsecond rest hrest, List.append_assoc]

/-- Texts with a comma between them are cut there. -/
lemma Parts.comma (hfirst : Parts first list) (hsecond : Parts second more) :
    Parts (first ++ ", " ++ second) (list ++ [","] ++ more) := by
  intro rest hrest
  have hlead : ∀ c ∈ (',' :: ' ' :: (second.toList ++ rest)).head?, c = ' ' ∨ c = ',' := by simp
  have hskip : cut top [] (',' :: ' ' :: (second.toList ++ rest)) =
      "," :: cut top [] (second.toList ++ rest) := by
    have hblank : ¬ (top = top ∧ ',' = ' ') := by
      rintro ⟨-, hblank⟩
      cases hblank
    rw [cut, if_neg hblank, if_pos ⟨rfl, rfl⟩, cut, if_pos ⟨rfl, rfl⟩]
    rfl
  have htext : (first ++ ", " ++ second).toList ++ rest =
      first.toList ++ ',' :: ' ' :: (second.toList ++ rest) := by simp
  rw [htext, hfirst _ hlead, hskip, hsecond rest hrest]
  simp only [List.append_assoc, List.cons_append, List.nil_append]

/-- Texts with commas between them are cut there. -/
lemma parts_intercalate {texts : List String} {lists : List (List String)} (hne : texts ≠ [])
    (h : List.Forall₂ Parts texts lists) :
    Parts (", ".intercalate texts) ([","].intercalate lists) := by
  induction h with
  | nil => exact absurd rfl hne
  | cons hfirst hrest ih =>
    cases hrest with
    | nil =>
      rw [String.intercalate_singleton, List.intercalate_singleton]
      exact hfirst
    | cons _ _ =>
      rw [String.intercalate_cons_cons, List.intercalate_cons_cons]
      exact hfirst.comma (ih (List.cons_ne_nil _ _))

/-- A clause that may be missing is nothing, or a blank and a text that is cut into the pieces. -/
def Clause (text : String) (list : List String) : Prop :=
  (text = "" ∧ list = []) ∨ ∃ body, text = " " ++ body ∧ Parts body list

/-- A clause comes after a text. -/
lemma Parts.clause (hfirst : Parts first list) (hsecond : Clause second more) :
    Parts (first ++ second) (list ++ more) := by
  rcases hsecond with ⟨rfl, rfl⟩ | ⟨body, rfl, hbody⟩
  · rw [String.append_empty, List.append_nil]
    exact hfirst
  · rw [← String.append_assoc]
    exact hfirst.blank hbody

end DocTables
