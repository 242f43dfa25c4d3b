import DocTables.Name.Keyword
import Mathlib.Data.String.Basic
import Mathlib.Tactic.Lemma

/-!
# Looking keywords up

A word is a keyword if it agrees with an entry of the table up to the case of ASCII letters
(`isKeyword_eq_true_iff`).  The table holds capital letters only, so such a word agrees with the
entry once its own letters are capital; and the table is in order, so halving misses no entry
(`Keyword.searchBetween_eq_true_iff`).
-/

namespace DocTables

/-! ## Letter case -/

namespace Text

/-- Small letters come 32 places after the capital ones. -/
lemma toNat_toUpper (c : Char) :
    c.toUpper.toNat = if 97 ≤ c.toNat ∧ c.toNat ≤ 122 then c.toNat - 32 else c.toNat := by
  unfold Char.toUpper
  split
  · rename_i hsmall
    obtain ⟨hlow, hhigh⟩ : 97 ≤ c.toNat ∧ c.toNat ≤ 122 := hsmall
    rw [if_pos ⟨hlow, hhigh⟩]
    change (c.val + ('A'.val - 'a'.val)).toNat = c.val.toNat - 32
    have hval : c.toNat = c.val.toNat := rfl
    rw [UInt32.toNat_add]
    have hshift : ('A'.val - 'a'.val).toNat = 2 ^ 32 - 32 := rfl
    omega
  · rename_i hsmall
    exact (if_neg hsmall).symm

/-- Capital letters come 32 places before the small ones. -/
lemma toNat_toLower (c : Char) :
    c.toLower.toNat = if 65 ≤ c.toNat ∧ c.toNat ≤ 90 then c.toNat + 32 else c.toNat := by
  unfold Char.toLower
  split
  · rename_i hcapital
    obtain ⟨hlow, hhigh⟩ : 65 ≤ c.toNat ∧ c.toNat ≤ 90 := hcapital
    rw [if_pos ⟨hlow, hhigh⟩]
    change (c.val + ('a'.val - 'A'.val)).toNat = c.val.toNat + 32
    have hval : c.toNat = c.val.toNat := rfl
    rw [UInt32.toNat_add]
    have hshift : ('a'.val - 'A'.val).toNat = 32 := rfl
    omega
  · rename_i hcapital
    exact (if_neg hcapital).symm

/-- The small form of a letter does not depend on its case. -/
lemma toLower_toUpper (c : Char) : c.toUpper.toLower = c.toLower := by
  refine Char.toNat_inj.mp ?_
  rw [toNat_toLower, toNat_toLower, toNat_toUpper]
  by_cases hsmall : 97 ≤ c.toNat ∧ c.toNat ≤ 122
  · rw [if_pos hsmall, if_pos (by omega), if_neg (by omega)]
    omega
  · rw [if_neg hsmall]

/-- The capital form of a letter does not depend on its case. -/
lemma toUpper_toLower (c : Char) : c.toLower.toUpper = c.toUpper := by
  refine Char.toNat_inj.mp ?_
  rw [toNat_toUpper, toNat_toUpper, toNat_toLower]
  by_cases hcapital : 65 ≤ c.toNat ∧ c.toNat ≤ 90
  · rw [if_pos hcapital, if_pos (by omega), if_neg (by omega)]
    omega
  · rw [if_neg hcapital]

/-- A text in capital letters agrees with another one up to case, if it is the capital form of
it. -/
lemma equalIgnoringAsciiCase_iff_of_capital {entry word : String}
    (hcapital : asciiUpper entry = entry) :
    equalIgnoringAsciiCase entry word = true ↔ asciiUpper word = entry := by
  rw [equalIgnoringAsciiCase, beq_iff_eq]
  constructor
  · intro hsame
    have hupper := congrArg (List.map Char.toUpper) hsame
    rw [List.map_map, List.map_map] at hupper
    have hcompose : Char.toUpper ∘ Char.toLower = Char.toUpper := funext toUpper_toLower
    rw [hcompose] at hupper
    rw [← hcapital, asciiUpper, asciiUpper, hupper]
  · rintro rfl
    have hcompose : Char.toLower ∘ Char.toUpper = Char.toLower := funext toLower_toUpper
    rw [asciiUpper, String.toList_ofList, List.map_map, hcompose]

end Text

/-! ## Halving -/

namespace Keyword

variable {entries : Array String} {word : String} {low high : Nat}

/-- A word that is found by halving is one of the entries. -/
lemma mem_of_searchBetween (h : searchBetween entries word low high = true) : word ∈ entries := by
  fun_induction searchBetween entries word low high with
  | case1 => cases h
  | case2 low high hlt middle hfound => exact Array.mem_of_getElem? hfound
  | case3 low high hlt middle entry hentry hne hless ih => exact ih h
  | case4 low high hlt middle entry hentry hne hless ih => exact ih h
  | case5 => cases h

/-- Among entries in order, an entry between the bounds is found. -/
lemma searchBetween_of_getElem? (hsorted : entries.toList.Pairwise (· < ·)) {place : Nat}
    (hplace : entries[place]? = some word) (hlow : low ≤ place) (hhigh : place < high)
    (hsize : high ≤ entries.size) : searchBetween entries word low high = true := by
  have hless : ∀ {i j : Nat} {first second : String}, entries[i]? = some first →
      entries[j]? = some second → i < j → first < second := by
    intro i j first second hfirst hsecond hij
    obtain ⟨hi, rfl⟩ := Array.getElem?_eq_some_iff.mp hfirst
    obtain ⟨hj, rfl⟩ := Array.getElem?_eq_some_iff.mp hsecond
    exact List.pairwise_iff_getElem.mp hsorted i j hi hj hij
  fun_induction searchBetween entries word low high with
  | case1 low high hlt middle hnone =>
    have hmiddle : middle < entries.size := by omega
    rw [Array.getElem?_eq_getElem hmiddle] at hnone
    cases hnone
  | case2 => rfl
  | case3 low high hlt middle entry hentry hne hbefore ih =>
    -- the entry in the middle comes before the word, so the word is to the right of it
    refine ih ?_ hhigh hsize
    rcases Nat.lt_trichotomy middle place with hright | hsame | hleft
    · exact hright
    · rw [hsame, hplace] at hentry
      exact absurd (Option.some.inj hentry).symm hne
    · exact absurd (hless hplace hentry hleft) (String.lt_asymm hbefore)
  | case4 low high hlt middle entry hentry hne hafter ih =>
    refine ih hlow ?_ (by omega)
    rcases Nat.lt_trichotomy middle place with hright | hsame | hleft
    · exact absurd (hless hentry hplace hright) hafter
    · rw [hsame, hplace] at hentry
      exact absurd (Option.some.inj hentry).symm hne
    · exact hleft
  | case5 low high hempty => omega

/-- Halving finds just the entries, if these are in order. -/
lemma searchBetween_eq_true_iff (hsorted : entries.toList.Pairwise (· < ·)) :
    searchBetween entries word 0 entries.size = true ↔ word ∈ entries := by
  refine ⟨mem_of_searchBetween, fun hmem => ?_⟩
  obtain ⟨place, hplace, hword⟩ := Array.mem_iff_getElem.mp hmem
  exact searchBetween_of_getElem? hsorted (Array.getElem?_eq_some_iff.mpr ⟨hplace, hword⟩)
    (Nat.zero_le place) hplace (Nat.le_refl _)

/-- The table is in order. -/
lemma sorted_table : table.toList.Pairwise (· < ·) := by
  rw [← List.isChain_iff_pairwise]
  decide +kernel

/-- The table holds capital letters. -/
lemma asciiUpper_of_mem_table {entry : String} (h : entry ∈ table) :
    Text.asciiUpper entry = entry := by
  have hall : ∀ entry ∈ table.toList, Text.asciiUpper entry = entry := by decide +kernel
  exact hall entry (Array.mem_toList_iff.mpr h)

end Keyword

/-- The keywords are the words that agree with an entry of the table up to the case of their ASCII
letters. -/
lemma isKeyword_eq_true_iff {word : String} :
    isKeyword word = true ↔
      ∃ entry ∈ Keyword.table, Text.equalIgnoringAsciiCase entry word = true := by
  rw [isKeyword, Keyword.searchBetween_eq_true_iff Keyword.sorted_table]
  constructor
  · intro hmem
    have hcapital := Keyword.asciiUpper_of_mem_table hmem
    exact ⟨_, hmem, (Text.equalIgnoringAsciiCase_iff_of_capital hcapital).mpr rfl⟩
  · rintro ⟨entry, hentry, hsame⟩
    have hcapital := Keyword.asciiUpper_of_mem_table hentry
    rwa [(Text.equalIgnoringAsciiCase_iff_of_capital hcapital).mp hsame]

end DocTables
