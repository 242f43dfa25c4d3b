import DocTables.Proofs.Name
import DocTables.Proofs.Name.Keyword
import DocTables.Text.Blank
import Mathlib.Computability.Language

/-!
# The grammar of names

The rules for the spelling of names, as languages of characters: a name is a letter or an
underscore, followed by letters, digits and underscores, and the path of a column is a name, or two
of them with a point between.  The checks of names accept just what is spelled by these rules and
has no keyword for a part (`accepted_iff_spelled`).  So nothing that is accepted has a quote, a
blank or a semicolon in it.
-/

namespace DocTables

open Computability

/-! ## Languages -/

/-- The 26 letters in both cases. -/
def IsLetter (c : Char) : Prop := ('a' ≤ c ∧ c ≤ 'z') ∨ ('A' ≤ c ∧ c ≤ 'Z')

/-- The ten digits. -/
def IsDecimal (c : Char) : Prop := '0' ≤ c ∧ c ≤ '9'

/-- The texts of one character of a class. -/
def oneOf (accepts : Char → Prop) : Language Char := {cs | ∃ c, accepts c ∧ cs = [c]}

/-- The spelling of names. -/
def nameLanguage : Language Char :=
  oneOf (fun c => IsLetter c ∨ c = '_') * (oneOf fun c => IsLetter c ∨ IsDecimal c ∨ c = '_')∗

/-- The spelling of the paths of columns. -/
def pathLanguage : Language Char := nameLanguage * (1 + oneOf (· = '.') * nameLanguage)

/-- The characters that must not get into a statement with a name, besides the blanks. -/
def unsafeChars : List Char := ['\x27', '"', '\x60', '\n', '$', ';']

variable {accepts : Char → Prop} {cs first second : List Char} {c : Char} {text : String}

lemma mem_oneOf : cs ∈ oneOf accepts ↔ ∃ c, accepts c ∧ cs = [c] := Iff.rfl

/-- A repetition of one character after the other is a text of such characters. -/
lemma mem_kstar_oneOf : cs ∈ (oneOf accepts)∗ ↔ ∀ c ∈ cs, accepts c := by
  rw [Language.mem_kstar]
  constructor
  · rintro ⟨parts, rfl, hparts⟩ c hc
    obtain ⟨part, hpart, hmem⟩ := List.mem_flatten.mp hc
    obtain ⟨d, hd, rfl⟩ := hparts part hpart
    rwa [List.mem_singleton.mp hmem]
  · intro hall
    refine ⟨cs.map fun c => [c], ?_, ?_⟩
    · induction cs with
      | nil => rfl
      | cons c rest ih =>
        rw [List.map_cons, List.flatten_cons, ← ih (List.forall_mem_cons.mp hall).2]
        rfl
    · intro part hpart
      obtain ⟨c, hc, rfl⟩ := List.mem_map.mp hpart
      exact ⟨c, hall c hc, rfl⟩

/-! ## Characters -/

lemma isAlpha_iff : c.isAlpha = true ↔ IsLetter c := by
  have hcases : c.isAlpha =
      (decide ('A' ≤ c ∧ c ≤ 'Z') || (decide ('a' ≤ c) && decide (c ≤ 'z'))) := rfl
  simp only [hcases, Bool.or_eq_true, Bool.and_eq_true, decide_eq_true_eq]
  exact or_comm

lemma isNameStart_iff : isNameStart c = true ↔ IsLetter c ∨ c = '_' := by
  rw [isNameStart, Bool.or_eq_true, isAlpha_iff, decide_eq_true_eq]

lemma isNameRest_iff : isNameRest c = true ↔ IsLetter c ∨ IsDecimal c ∨ c = '_' := by
  have hdigit : c.isDigit = true ↔ IsDecimal c := by
    rw [Char.isDigit, Bool.and_eq_true, decide_eq_true_eq, decide_eq_true_eq]
    exact Iff.rfl
  rw [isNameRest, Char.isAlphanum, Bool.or_eq_true, Bool.or_eq_true, isAlpha_iff, hdigit,
    decide_eq_true_eq, or_assoc]

/-- The characters of names come before the blanks that are no ASCII characters, and are none of the
others. -/
lemma isBlank_of_isNameRest (h : isNameRest c = true) : Text.isBlank c = false := by
  have hrange : 48 ≤ c.toNat ∧ c.toNat ≤ 122 := by
    rcases isNameRest_iff.mp h with (⟨hlow, hhigh⟩ | ⟨hlow, hhigh⟩) | ⟨hlow, hhigh⟩ | rfl
    · exact ⟨Nat.le_trans (by decide) hlow, hhigh⟩
    · exact ⟨Nat.le_trans (by decide) hlow, Nat.le_trans hhigh (by decide)⟩
    · exact ⟨hlow, Nat.le_trans hhigh (by decide)⟩
    · decide
  rw [Bool.eq_false_iff]
  simp only [Text.isBlank, ne_eq, Bool.or_eq_true, Bool.and_eq_true, decide_eq_true_eq, beq_iff_eq]
  omega

/-- No character of a name is unsafe. -/
lemma not_unsafe_of_isNameRest (h : isNameRest c = true) : c ∉ unsafeChars := by
  have hnone : unsafeChars.any isNameRest = false := by decide
  intro hmem
  exact List.any_eq_false.mp hnone c hmem h

/-! ## Names -/

/-- The spelling of a name is that of its characters. -/
lemma mem_nameLanguage : cs ∈ nameLanguage ↔ isNameSpelling cs = true := by
  rw [nameLanguage, Language.mem_mul]
  constructor
  · rintro ⟨_, ⟨c, hc, rfl⟩, rest, hrest, rfl⟩
    rw [mem_kstar_oneOf] at hrest
    rw [List.singleton_append, isNameSpelling, isNameStart_iff.mpr hc, Bool.true_and,
      List.all_eq_true]
    exact fun d hd => isNameRest_iff.mpr (hrest d hd)
  · intro hspelling
    cases cs with
    | nil => cases hspelling
    | cons c rest =>
      rw [isNameSpelling, Bool.and_eq_true, List.all_eq_true] at hspelling
      refine ⟨[c], ⟨c, isNameStart_iff.mp hspelling.1, rfl⟩, rest, ?_, rfl⟩
      exact mem_kstar_oneOf.mpr fun d hd => isNameRest_iff.mp (hspelling.2 d hd)

/-- A plain name is spelled like a name and is no keyword. -/
lemma isPlainName_iff :
    isPlainName text = true ↔ text.toList ∈ nameLanguage ∧ isKeyword text = false := by
  rw [isPlainName, Bool.and_eq_true, Bool.not_eq_true', mem_nameLanguage]

/-- There is no point in what is spelled like a name. -/
lemma point_not_mem (h : cs ∈ nameLanguage) : '.' ∉ cs := by
  have hpoint : isNameRest '.' = false := by decide
  intro hmem
  cases cs with
  | nil => cases hmem
  | cons c rest =>
    rw [mem_nameLanguage, isNameSpelling, Bool.and_eq_true, List.all_eq_true] at h
    rcases List.mem_cons.mp hmem with rfl | hrest
    · rw [isNameRest_of_isNameStart h.1] at hpoint
      cases hpoint
    · rw [h.2 '.' hrest] at hpoint
      cases hpoint

/-! ## Paths -/

/-- A path is spelled like a name, or like two names with a point between. -/
lemma mem_pathLanguage :
    cs ∈ pathLanguage ↔ cs ∈ nameLanguage ∨
      ∃ first ∈ nameLanguage, ∃ second ∈ nameLanguage, cs = first ++ '.' :: second := by
  rw [pathLanguage, mul_add, mul_one, Language.mem_add]
  refine or_congr_right ?_
  rw [Language.mem_mul]
  constructor
  · rintro ⟨first, hfirst, _, ⟨_, ⟨c, rfl, rfl⟩, second, hsecond, rfl⟩, rfl⟩
    exact ⟨first, hfirst, second, hsecond, rfl⟩
  · rintro ⟨first, hfirst, second, hsecond, rfl⟩
    exact ⟨first, hfirst, '.' :: second, ⟨['.'], ⟨'.', rfl, rfl⟩, second, hsecond, rfl⟩, rfl⟩

/-- The check of a path cuts it at the first point. -/
lemma isColumnPath_of_point (hfirst : '.' ∉ first) (htext : text.toList = first ++ '.' :: second) :
    isColumnPath text =
      (isPlainName (String.ofList first) && isPlainName (String.ofList second)) := by
  have hpass : ∀ c ∈ first, (c != '.') = true := by
    intro c hc
    rw [bne_iff_ne]
    rintro rfl
    exact hfirst hc
  have htake : text.toList.takeWhile (· != '.') = first := by
    rw [htext, List.takeWhile_append_of_pos hpass]
    exact List.append_nil first
  have hdrop : text.toList.dropWhile (· != '.') = '.' :: second := by
    rw [htext, List.dropWhile_append_of_pos hpass]
    rfl
  simp only [isColumnPath, htake, hdrop]

lemma toList_path (table column : String) :
    (table ++ "." ++ column).toList = table.toList ++ '.' :: column.toList := by
  rw [String.toList_append, String.toList_append, List.append_assoc]
  rfl

/-- The path of a column is a plain name, or two plain names with a point between. -/
lemma isColumnPath_iff :
    isColumnPath text = true ↔ isPlainName text = true ∨ ∃ table column,
      isPlainName table = true ∧ isPlainName column = true ∧ text = table ++ "." ++ column := by
  constructor
  · intro h
    by_cases hpoint : '.' ∈ text.toList
    · right
      obtain ⟨first, second, htext, hfirst⟩ := List.eq_append_cons_of_mem hpoint
      rw [isColumnPath_of_point hfirst htext, Bool.and_eq_true] at h
      refine ⟨String.ofList first, String.ofList second, h.1, h.2, String.toList_inj.mp ?_⟩
      rw [toList_path, String.toList_ofList, String.toList_ofList, htext]
    · left
      have hnone : text.toList.dropWhile (· != '.') = [] := by
        rw [List.dropWhile_eq_nil_iff]
        intro c hc
        rw [bne_iff_ne]
        rintro rfl
        exact hpoint hc
      simp only [isColumnPath, hnone] at h
      exact h
  · rintro (hplain | ⟨table, column, htable, hcolumn, rfl⟩)
    · exact isColumnPath_of_isPlainName hplain
    · have hfirst := point_not_mem (isPlainName_iff.mp htable).1
      rw [isColumnPath_of_point hfirst (toList_path table column), String.ofList_toList,
        String.ofList_toList, htable, hcolumn]
      rfl

/-- A path is spelled by the rules, and none of its parts is a keyword. -/
lemma isColumnPath_iff_parts :
    isColumnPath text = true ↔ text.toList ∈ pathLanguage ∧
      ∀ part ∈ text.toList.splitOn '.', isKeyword (String.ofList part) = false := by
  rw [isColumnPath_iff, mem_pathLanguage]
  constructor
  · rintro (hplain | ⟨table, column, htable, hcolumn, rfl⟩)
    · obtain ⟨hspelled, hkeyword⟩ := isPlainName_iff.mp hplain
      refine ⟨.inl hspelled, ?_⟩
      rw [List.splitOn_eq_singleton (point_not_mem hspelled), List.forall_mem_singleton,
        String.ofList_toList]
      exact hkeyword
    · obtain ⟨hfirst, hfirstWord⟩ := isPlainName_iff.mp htable
      obtain ⟨hsecond, hsecondWord⟩ := isPlainName_iff.mp hcolumn
      rw [toList_path, List.splitOn_append_cons_self_of_not_mem (point_not_mem hfirst),
        List.splitOn_eq_singleton (point_not_mem hsecond)]
      refine ⟨.inr ⟨_, hfirst, _, hsecond, rfl⟩, List.forall_mem_cons.mpr ⟨?_, ?_⟩⟩
      · rwa [String.ofList_toList]
      · rwa [List.forall_mem_singleton, String.ofList_toList]
  · rintro ⟨hspelled | ⟨first, hfirst, second, hsecond, htext⟩, hparts⟩
    · rw [List.splitOn_eq_singleton (point_not_mem hspelled), List.forall_mem_singleton,
        String.ofList_toList] at hparts
      exact .inl (isPlainName_iff.mpr ⟨hspelled, hparts⟩)
    · rw [htext, List.splitOn_append_cons_self_of_not_mem (point_not_mem hfirst),
        List.splitOn_eq_singleton (point_not_mem hsecond), List.forall_mem_cons,
        List.forall_mem_singleton] at hparts
      have hplain : ∀ {cs : List Char}, cs ∈ nameLanguage → isKeyword (String.ofList cs) = false →
          isPlainName (String.ofList cs) = true := by
        intro cs hcs hword
        refine isPlainName_iff.mpr ⟨?_, hword⟩
        rwa [String.toList_ofList]
      refine .inr ⟨_, _, hplain hfirst hparts.1, hplain hsecond hparts.2, String.toList_inj.mp ?_⟩
      rw [toList_path, String.toList_ofList, String.toList_ofList, htext]

/-- There is one point at most in a path. -/
lemma count_point_le_one (h : cs ∈ pathLanguage) : cs.count '.' ≤ 1 := by
  rcases mem_pathLanguage.mp h with hname | ⟨first, hfirst, second, hsecond, rfl⟩
  · rw [List.count_eq_zero_of_not_mem (point_not_mem hname)]
    exact Nat.zero_le 1
  · rw [List.count_append, List.count_cons_self,
      List.count_eq_zero_of_not_mem (point_not_mem hfirst),
      List.count_eq_zero_of_not_mem (point_not_mem hsecond)]

/-- What is accepted as a path has nothing in it that could end a name in a statement. -/
lemma safe_of_isColumnPath (h : isColumnPath text = true) :
    ∀ c ∈ text.toList, c ∉ unsafeChars ∧ Text.isBlank c = false := by
  obtain ⟨first, rest, htext, hfirst, hrest⟩ := exists_of_isColumnPath h
  rw [htext, List.forall_mem_cons]
  have hstart := isNameRest_of_isNameStart hfirst
  refine ⟨⟨not_unsafe_of_isNameRest hstart, isBlank_of_isNameRest hstart⟩, fun c hc => ?_⟩
  rcases hrest c hc with hname | rfl
  · exact ⟨not_unsafe_of_isNameRest hname, isBlank_of_isNameRest hname⟩
  · decide

/-! ## What is accepted -/

/-- A word is a keyword just if it is an entry of the table up to the case of ASCII letters; a plain
name is what is spelled like a name and is no keyword; the path of a column is a plain name, or two
of them with a point between, and so what is spelled like a path and has no keyword between its
points.  What is accepted has no unsafe character and no blank in it, and at most one point. -/
theorem accepted_iff_spelled (text : String) :
    (isKeyword text = true ↔
      ∃ entry ∈ Keyword.table, Text.equalIgnoringAsciiCase entry text = true) ∧
    (isPlainName text = true ↔ text.toList ∈ nameLanguage ∧ isKeyword text = false) ∧
    (isColumnPath text = true ↔ isPlainName text = true ∨ ∃ table column,
      isPlainName table = true ∧ isPlainName column = true ∧ text = table ++ "." ++ column) ∧
    (isColumnPath text = true ↔ text.toList ∈ pathLanguage ∧
      ∀ part ∈ text.toList.splitOn '.', isKeyword (String.ofList part) = false) ∧
    (isPlainName text = true → '.' ∉ text.toList) ∧
    (isColumnPath text = true → text.toList.count '.' ≤ 1 ∧
      ∀ c ∈ text.toList, c ∉ unsafeChars ∧ Text.isBlank c = false) := by
  refine ⟨isKeyword_eq_true_iff, isPlainName_iff, isColumnPath_iff, isColumnPath_iff_parts, ?_, ?_⟩
  · intro hplain
    exact point_not_mem (isPlainName_iff.mp hplain).1
  · intro hpath
    exact ⟨count_point_le_one (isColumnPath_iff_parts.mp hpath).1, safe_of_isColumnPath hpath⟩

/-- The name of a table and the path of one of its columns are accepted, and the only point is the
one between them. -/
theorem customers_order_id_accepted :
    isPlainName "customers" = true ∧ '.' ∉ "customers".toList ∧
      isColumnPath "customers.order_id" = true ∧ "customers.order_id".toList.count '.' ≤ 1 ∧
      ∀ c ∈ "customers.order_id".toList, c ∉ unsafeChars ∧ Text.isBlank c = false := by
  have hplain : isPlainName "customers" = true := by decide +kernel
  have hpath : isColumnPath "customers.order_id" = true := by decide +kernel
  obtain ⟨-, -, -, -, hname, -⟩ := accepted_iff_spelled "customers"
  obtain ⟨-, -, -, -, -, hsafe⟩ := accepted_iff_spelled "customers.order_id"
  exact ⟨hplain, hname hplain, hpath, hsafe hpath⟩

end DocTables
