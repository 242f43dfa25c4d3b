import DocTables.Scalar
import Mathlib.Tactic.Lemma

/-!
# The texts of numbers

A number that is written without an exponent is digits, perhaps with a point and more digits after
them, and perhaps with a minus sign before them (`IsNumeral`).  So it is a text of digits, minus
signs and points, and never empty (`IsNumberText`): it ends where a blank, a comma or a parenthesis
follows.  A literal is such a text, `NULL` or a quoted text.
-/

namespace DocTables

/-! ## Characters of numbers -/

/-- Whether a character may stand in a number. -/
def isNumberChar (c : Char) : Bool := c.isDigit || c = '-' || c = '.'

/-- Characters, at least one, of which each may stand in a number. -/
def IsNumberText (cs : List Char) : Prop := cs ≠ [] ∧ ∀ c ∈ cs, isNumberChar c = true

/-- A minus sign may come first. -/
lemma IsNumberText.negate {cs : List Char} (h : IsNumberText cs) : IsNumberText ('-' :: cs) :=
  ⟨List.cons_ne_nil _ _, List.forall_mem_cons.mpr ⟨rfl, h.2⟩⟩

/-! ## Numerals -/

/-- Decimal digits, at least one. -/
def IsDigits (cs : List Char) : Prop := cs ≠ [] ∧ ∀ c ∈ cs, c.isDigit = true

/-- A numeral without a sign. -/
inductive IsUnsignedNumeral : List Char → Prop
  /-- Digits. -/
  | whole {cs : List Char} (h : IsDigits cs) : IsUnsignedNumeral cs
  /-- Digits on both sides of a point. -/
  | fraction {whole places : List Char} (hwhole : IsDigits whole) (hplaces : IsDigits places) :
    IsUnsignedNumeral (whole ++ '.' :: places)

/-- A numeral, perhaps with a minus sign before it. -/
inductive IsNumeral : List Char → Prop
  /-- Without a sign. -/
  | unsigned {cs : List Char} (h : IsUnsignedNumeral cs) : IsNumeral cs
  /-- With a minus sign. -/
  | negative {cs : List Char} (h : IsUnsignedNumeral cs) : IsNumeral ('-' :: cs)

section

variable {cs ds : List Char}

lemma isDigits_singleton {c : Char} (h : c.isDigit = true) : IsDigits [c] :=
  ⟨List.cons_ne_nil _ _, List.forall_mem_singleton.mpr h⟩

/-- More digits may follow. -/
lemma IsDigits.append (h : IsDigits cs) (hds : ∀ c ∈ ds, c.isDigit = true) : IsDigits (cs ++ ds) :=
  ⟨List.append_ne_nil_of_left_ne_nil h.1 _, List.forall_mem_append.mpr ⟨h.2, hds⟩⟩

/-- Digits may stand in a number. -/
lemma IsDigits.isNumberText (h : IsDigits cs) : IsNumberText cs := by
  refine ⟨h.1, fun c hc => ?_⟩
  rw [isNumberChar, h.2 c hc, Bool.true_or, Bool.true_or]

lemma IsUnsignedNumeral.isNumberText (h : IsUnsignedNumeral cs) : IsNumberText cs := by
  cases h with
  | whole h => exact h.isNumberText
  | fraction hwhole hplaces =>
    refine ⟨List.append_ne_nil_of_right_ne_nil _ (List.cons_ne_nil _ _), ?_⟩
    exact List.forall_mem_append.mpr
      ⟨hwhole.isNumberText.2, List.forall_mem_cons.mpr ⟨rfl, hplaces.isNumberText.2⟩⟩

/-- A numeral consists of characters of numbers. -/
lemma IsNumeral.isNumberText (h : IsNumeral cs) : IsNumberText cs := by
  cases h with
  | unsigned h => exact h.isNumberText
  | negative h => exact h.isNumberText.negate

end

/-! ## Integers -/

/-- The decimal digits of a natural number. -/
lemma isDigits_toDigits (n : Nat) : IsDigits (Nat.toDigits 10 n) :=
  ⟨Nat.toDigits_ne_nil, fun _ hc => Nat.isDigit_of_mem_toDigits (by omega) (by omega) hc⟩

/-- An integer that is not negative is written by its digits. -/
lemma toList_toString_ofNat (m : Nat) : (toString (Int.ofNat m)).toList = Nat.toDigits 10 m := by
  rw [show toString (Int.ofNat m) = toString m from rfl]
  simp

/-- A negative integer is written with a minus sign before its digits. -/
lemma toList_toString_negSucc (m : Nat) :
    (toString (Int.negSucc m)).toList = '-' :: Nat.toDigits 10 (m + 1) := by
  rw [show toString (Int.negSucc m) = "-" ++ toString (m + 1) from rfl, String.toList_append]
  simp

/-- The text of an integer. -/
lemma isNumeral_toString (n : Int) : IsNumeral (toString n).toList := by
  cases n with
  | ofNat m =>
    rw [toList_toString_ofNat]
    exact .unsigned (.whole (isDigits_toDigits m))
  | negSucc m =>
    rw [toList_toString_negSucc]
    exact .negative (.whole (isDigits_toDigits _))

/-! ## Numbers with a point -/

namespace DecimalLayout

/-- Zeros are digits. -/
lemma forall_mem_replicate_zero (count : Nat) :
    ∀ c ∈ List.replicate count '0', c.isDigit = true := by
  intro c hc
  rw [List.eq_of_mem_replicate hc]
  rfl

/-- Digits with zeros after them, with a point among them, or with a point and zeros before them. -/
lemma isUnsignedNumeral_positionalText (layout : DecimalLayout) {ds : List Char} (h : IsDigits ds)
    (k : Int) : IsUnsignedNumeral (layout.positionalText ds k) := by
  have hzero : IsDigits ['0'] := isDigits_singleton rfl
  simp only [positionalText]
  split
  · have hwhole := h.append (forall_mem_replicate_zero k.toNat)
    split
    · exact .fraction hwhole hzero
    · rw [List.append_nil]
      exact .whole hwhole
  · rename_i hnegative
    split
    · rename_i hplaces
      refine .fraction ⟨?_, fun c hc => h.2 c (List.mem_of_mem_take hc)⟩
        ⟨?_, fun c hc => h.2 c (List.mem_of_mem_drop hc)⟩
      · refine List.ne_nil_of_length_pos ?_
        rw [List.length_take]
        omega
      · refine List.ne_nil_of_length_pos ?_
        rw [List.length_drop]
        omega
    · refine .fraction hzero ⟨List.append_ne_nil_of_right_ne_nil _ h.1, ?_⟩
      exact List.forall_mem_append.mpr ⟨forall_mem_replicate_zero _, h.2⟩

/-- A layout without exponents writes numerals. -/
lemma isNumeral_of_text? {layout : DecimalLayout} (hpositional : layout.positional = none)
    {x : Binary64} {text : String} (h : layout.text? x = some text) : IsNumeral text.toList := by
  cases x with
  | finite negative m e =>
    have hbody : IsUnsignedNumeral (layout.unsignedText (Decimal.shortest layout.tie m e)) := by
      rw [unsignedText, hpositional]
      exact isUnsignedNumeral_positionalText layout (isDigits_toDigits _) _
    rw [← Option.some.inj h, String.toList_ofList]
    split
    · exact .negative hbody
    · exact .unsigned hbody
  | infinite negative => cases h
  | nan => cases h

end DecimalLayout

/-! ## Literals -/

/-- The text of a literal: `NULL`, a number, or a text between quote marks. -/
def IsLiteral (quote : Char) (text : String) : Prop :=
  text = "NULL" ∨ IsNumberText text.toList ∨ ∃ content, text = Text.quoted quote content

namespace Scalar

variable {value : Scalar}

/-- Whatever is no text is written as `NULL` or as a numeral. -/
lemma literal_of_not_text (h : value.isText = false) :
    value.literal = "NULL" ∨ IsNumeral value.literal.toList := by
  cases value with
  | null => exact .inl rfl
  | bool b =>
    cases b
    · exact .inr (.unsigned (.whole (isDigits_singleton (c := '0') rfl)))
    · exact .inr (.unsigned (.whole (isDigits_singleton (c := '1') rfl)))
  | int n => exact .inr (isNumeral_toString n)
  | float x =>
    cases htext : numberLayout.text? x with
    | none => exact .inl (by simp only [literal, htext, Option.getD_none])
    | some digits =>
      refine .inr ?_
      simp only [literal, htext, Option.getD_some]
      exact DecimalLayout.isNumeral_of_text? rfl htext
  | text s => cases h

/-- So it is a literal without quote marks. -/
lemma isLiteral_of_not_text {quote : Char} (h : value.isText = false) :
    IsLiteral quote value.literal := by
  rcases literal_of_not_text h with hnull | hnumber
  · exact .inl hnull
  · exact .inr (.inl hnumber.isNumberText)

/-- A scalar is written as a literal, with single quote marks around a text. -/
lemma isLiteral_literal (value : Scalar) : IsLiteral '\x27' value.literal := by
  cases value with
  | text s => exact .inr (.inr ⟨s, rfl⟩)
  | _ => exact isLiteral_of_not_text rfl

/-- A default is written as a literal, with double quote marks around a text. -/
lemma isLiteral_defaultLiteral (value : Scalar) : IsLiteral '"' value.defaultLiteral := by
  unfold defaultLiteral
  split
  · exact .inr (.inr ⟨_, rfl⟩)
  · rename_i hvalue
    refine isLiteral_of_not_text ?_
    cases value with
    | text s => exact absurd rfl (hvalue s)
    | _ => rfl

end Scalar

end DocTables
