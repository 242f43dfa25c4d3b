import DocTables.Name
import Mathlib.Data.List.Nodup
import Mathlib.Data.List.TakeWhile
import Mathlib.Tactic.Lemma

/-!
# Names in statements and in lists

Which characters stand in plain names and in the paths of columns.  They are none of those that part
the words and the clauses of a statement, so a name is always one word.  Names that are collected
into a list are all in it, if they are different from each other, and then there is one thing at
most that is found under a name.
-/

namespace DocTables

/-! ## Characters -/

/-- A plain name begins like a name and goes on like one. -/
lemma exists_of_isPlainName {name : String} (h : isPlainName name = true) :
    ∃ c rest, name.toList = c :: rest ∧ isNameStart c = true ∧ ∀ d ∈ rest, isNameRest d = true := by
  rw [isPlainName, Bool.and_eq_true] at h
  have hspelling := h.1
  cases hname : name.toList with
  | nil =>
    rw [hname] at hspelling
    cases hspelling
  | cons c rest =>
    rw [hname, isNameSpelling, Bool.and_eq_true, List.all_eq_true] at hspelling
    exact ⟨c, rest, rfl, hspelling⟩

/-- A name may go on with any character it may begin with. -/
lemma isNameRest_of_isNameStart {c : Char} (h : isNameStart c = true) : isNameRest c = true := by
  rw [isNameStart, Bool.or_eq_true] at h
  rw [isNameRest, Char.isAlphanum, Bool.or_eq_true, Bool.or_eq_true]
  rcases h with h | h
  · exact .inl (.inl h)
  · exact .inr h

/-- Every character of a plain name is one that a name may go on with. -/
lemma isNameRest_of_mem_plain {name : String} (h : isPlainName name = true) :
    ∀ c ∈ name.toList, isNameRest c = true := by
  obtain ⟨first, rest, hname, hfirst, hrest⟩ := exists_of_isPlainName h
  intro c hc
  rw [hname] at hc
  rcases List.mem_cons.mp hc with rfl | hmem
  · exact isNameRest_of_isNameStart hfirst
  · exact hrest c hmem

/-- The path of a column begins like a name, and goes on like one or with the point. -/
lemma exists_of_isColumnPath {path : String} (h : isColumnPath path = true) :
    ∃ c rest, path.toList = c :: rest ∧ isNameStart c = true ∧
      ∀ d ∈ rest, isNameRest d = true ∨ d = '.' := by
  simp only [isColumnPath] at h
  split at h
  · obtain ⟨c, rest, hpath, hc, hrest⟩ := exists_of_isPlainName h
    exact ⟨c, rest, hpath, hc, fun d hd => .inl (hrest d hd)⟩
  · rename_i point second hsecond
    rw [Bool.and_eq_true] at h
    obtain ⟨c, rest, hfirst, hc, hrest⟩ := exists_of_isPlainName h.1
    have hlast := isNameRest_of_mem_plain h.2
    rw [String.toList_ofList] at hfirst hlast
    have hpoint : point = '.' := by
      have hne : path.toList.dropWhile (· != '.') ≠ [] := by
        rw [hsecond]
        exact List.cons_ne_nil _ _
      have hhead := List.head_dropWhile_not (· != '.') hne
      simpa [hsecond] using hhead
    have hpath : path.toList = c :: (rest ++ '.' :: second) := by
      rw [← List.takeWhile_append_dropWhile (p := (· != '.')) (l := path.toList), hfirst, hsecond,
        hpoint]
      rfl
    refine ⟨c, rest ++ '.' :: second, hpath, hc, List.forall_mem_append.mpr ⟨?_, ?_⟩⟩
    · exact fun d hd => .inl (hrest d hd)
    · exact List.forall_mem_cons.mpr ⟨.inr rfl, fun d hd => .inl (hlast d hd)⟩

/-- A plain name is the path of a column. -/
lemma isColumnPath_of_isPlainName {name : String} (h : isPlainName name = true) :
    isColumnPath name = true := by
  have hpoint : isNameRest '.' = false := by decide
  have hnone : name.toList.dropWhile (· != '.') = [] := by
    rw [List.dropWhile_eq_nil_iff]
    intro c hc
    rw [bne_iff_ne]
    rintro rfl
    exact Bool.false_ne_true (hpoint.symm.trans (isNameRest_of_mem_plain h '.' hc))
  simp only [isColumnPath, hnone]
  exact h

/-! ## Lists -/

/-- Different names are collected as they are. -/
lemma foldl_eq_append {names columns : List String} (h : (columns ++ names).Nodup) :
    names.foldl
        (fun columns name => if name ∈ columns then columns else columns ++ [name]) columns =
      columns ++ names := by
  induction names generalizing columns with
  | nil => rw [List.foldl_nil, List.append_nil]
  | cons name rest ih =>
    have hname : name ∉ columns := by
      have hdisjoint := List.disjoint_of_nodup_append h
      exact fun hmem => hdisjoint hmem List.mem_cons_self
    rw [List.append_cons] at h
    rw [List.foldl_cons, if_neg hname, ih h, ← List.append_cons]

/-- What is found under a name is there and has the name. -/
lemma mem_and_name_of_find? {α : Type} {nameOf : α → String} {items : List α} {item : α}
    {name : String} (h : items.find? (fun other => nameOf other == name) = some item) :
    item ∈ items ∧ nameOf item = name := by
  have hname := List.find?_some h
  rw [beq_iff_eq] at hname
  exact ⟨List.mem_of_find?_eq_some h, hname⟩

/-- Where no name occurs twice, what is there under a name is found. -/
lemma find?_name_eq_some_iff {α : Type} {nameOf : α → String} {items : List α} {item : α}
    {name : String} (hnames : (items.map nameOf).Nodup) :
    items.find? (fun other => nameOf other == name) = some item ↔
      item ∈ items ∧ nameOf item = name := by
  refine ⟨mem_and_name_of_find?, ?_⟩
  rintro ⟨hitem, rfl⟩
  have hsome : (items.find? fun other => nameOf other == nameOf item).isSome = true :=
    List.find?_isSome.mpr ⟨item, hitem, beq_self_eq_true (nameOf item)⟩
  obtain ⟨found, hfound⟩ := Option.isSome_iff_exists.mp hsome
  obtain ⟨hmem, hname⟩ := mem_and_name_of_find? hfound
  rw [hfound, List.inj_on_of_nodup_map hnames hmem hitem hname]

end DocTables
