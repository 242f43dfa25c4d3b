import DocTables.Decimal.Layout
import DocTables.Json.Reader
import Mathlib.Data.List.Nodup
import Mathlib.Tactic.Lemma

/-!
# The values that JSON texts spell

A value that a text spells has numbers that are finite and integers that are in range, and in each
of its objects every key once (`wellFormed_of_parse?`).  What is proved of documents is proved of
such values; the type of values has others as well.
-/

namespace DocTables

/-! ## Finite numbers -/

namespace Binary64

/-- The leading digit of a quotient is not beyond that of its numerator. -/
lemma leadingExponent_le (n d : Nat) : leadingExponent n d ≤ (n.log2 : Int) - (d.log2 : Int) := by
  unfold leadingExponent
  simp only
  split <;> omega

/-- A natural number with few enough digits has a finite nearest number. -/
lemma isFinite_ofRatio (negative : Bool) {n : Nat} (h : n.log2 ≤ 1000) :
    (ofRatio negative n 1).isFinite = true := by
  have hleading := leadingExponent_le n 1
  have hone : Nat.log2 1 = 0 := by decide
  unfold ofRatio
  split
  · rfl
  · have hexponent : max (leadingExponent n 1 - 52) leastExponent + 1 ≤ greatestExponent := by
      rw [hone] at hleading
      simp only [leastExponent, greatestExponent]
      omega
    have hfinite : ∀ m e, e ≤ greatestExponent →
        (if greatestExponent < e then infinite negative
          else finite negative m e).isFinite = true := by
      intro m e he
      rw [if_neg (Int.not_lt.mpr he)]
      rfl
    simp only
    split
    · exact hfinite _ _ hexponent
    · exact hfinite _ _ (by omega)

end Binary64

/-- A finite number has a text in every layout. -/
lemma DecimalLayout.exists_text? (layout : DecimalLayout) {x : Binary64} (h : x.isFinite = true) :
    ∃ text, layout.text? x = some text := by
  cases x with
  | finite negative m e => exact ⟨_, rfl⟩
  | infinite negative => cases h
  | nan => cases h

namespace Json

/-- A number that a JSON value can have: an integer of 64 bits, signed or not, or a finite
number. -/
def Number.InRange : Number → Prop
  | .int n => leastInt64 ≤ n ∧ n ≤ greatestNat64
  | .float x => x.isFinite = true

/-- The nearest binary number of such a number is finite. -/
lemma Number.InRange.isFinite_toBinary64 {n : Number} (h : n.InRange) :
    n.toBinary64.isFinite = true := by
  cases n with
  | float x => exact h
  | int n =>
    refine Binary64.isFinite_ofRatio _ ?_
    obtain ⟨hleast, hgreatest⟩ := h
    have hsize : n.natAbs < 2 ^ 65 := by
      simp only [leastInt64, greatestNat64] at hleast hgreatest
      have hpow : Int.pow 2 63 = 9223372036854775808 := by decide
      have hpow' : Nat.pow 2 64 = 18446744073709551616 := by decide
      omega
    by_cases hzero : n.natAbs = 0
    · rw [hzero]
      decide
    · have hlog := (Nat.log2_lt hzero).mpr hsize
      omega

/-! ## Looking up keys -/

/-- A key that is there has a value. -/
lemma Fields.exists_get? {fields : Fields} {name : String} (h : name ∈ fields.names) :
    ∃ value, fields.get? name = some value := by
  obtain ⟨entry, hentry, rfl⟩ := List.mem_map.mp h
  exact Option.isSome_iff_exists.mp (List.lookup_isSome_iff.mpr ⟨entry, hentry, beq_self_eq_true _⟩)

/-- A key that is not there has none. -/
lemma Fields.get?_eq_none {fields : Fields} {name : String} (h : name ∉ fields.names) :
    fields.get? name = none := by
  refine List.lookup_eq_none_iff.mpr fun entry hentry => ?_
  rw [bne_iff_ne]
  rintro rfl
  exact h (List.mem_map_of_mem hentry)

/-- In an object with different keys, every entry is found by its key. -/
lemma Fields.get?_of_mem {fields : Fields} (hnames : fields.names.Nodup)
    {entry : String × Json} (hentry : entry ∈ fields) : fields.get? entry.1 = some entry.2 := by
  induction fields with
  | nil => cases hentry
  | cons first rest ih =>
    obtain ⟨key, value⟩ := first
    obtain ⟨hkey, hrest⟩ := List.nodup_cons.mp hnames
    unfold get? at ih ⊢
    rcases List.mem_cons.mp hentry with rfl | hmem
    · exact List.lookup_cons_self
    · have hname : entry.1 ∈ names rest := List.mem_map_of_mem hmem
      have hne : (entry.1 == key) = false :=
        beq_eq_false_iff_ne.mpr fun heq => hkey (heq ▸ hname)
      rw [List.lookup_cons, hne]
      exact ih hrest hmem

/-! ## Well-formed values -/

/-- Every number of a value is in range, and no object has a key twice. -/
inductive WellFormed : Json → Prop
  /-- No value. -/
  | null : WellFormed .null
  /-- A truth value. -/
  | bool (b : Bool) : WellFormed (.bool b)
  /-- A number in range. -/
  | number {n : Number} (h : n.InRange) : WellFormed (.number n)
  /-- A string. -/
  | string (s : String) : WellFormed (.string s)
  /-- A list of well-formed values. -/
  | array {items : List Json} (h : ∀ item ∈ items, WellFormed item) : WellFormed (.array items)
  /-- An object with well-formed values under different keys. -/
  | object {fields : Fields} (hnames : fields.names.Nodup)
    (h : ∀ field ∈ fields, WellFormed field.2) : WellFormed (.object fields)

/-- The keys after one was set. -/
lemma Fields.names_put (name : String) (value : Json) (fields : Fields) :
    (put name value fields).names =
      if name ∈ fields.names then fields.names else fields.names ++ [name] := by
  induction fields with
  | nil => rfl
  | cons field rest ih =>
    obtain ⟨key, old⟩ := field
    have hnames : ∀ value fields, names ((key, value) :: fields) = key :: names fields :=
      fun _ _ => rfl
    rw [put]
    split
    · rename_i hkey
      rw [hnames, hnames, if_pos (hkey ▸ List.mem_cons_self)]
    · rename_i hkey
      rw [hnames, hnames, ih]
      have hmem : name ∈ key :: names rest ↔ name ∈ names rest := by
        rw [List.mem_cons, or_iff_right fun heq => hkey heq.symm]
      simp only [hmem]
      split <;> rfl

/-- Setting a key keeps an object well-formed. -/
lemma WellFormed.put {name : String} {value : Json} {fields : Fields}
    (h : WellFormed (.object fields)) (hvalue : value.WellFormed) :
    WellFormed (.object (fields.put name value)) := by
  cases h with
  | object hnames hfields =>
    refine .object ?_ ?_
    · rw [Fields.names_put]
      split
      · exact hnames
      · rename_i hname
        exact List.nodup_append'.mpr ⟨hnames, List.nodup_singleton name, by simpa using hname⟩
    · clear hnames
      induction fields with
      | nil => exact List.forall_mem_singleton.mpr hvalue
      | cons field rest ih =>
        obtain ⟨hfield, hrest⟩ := List.forall_mem_cons.mp hfields
        obtain ⟨key, old⟩ := field
        rw [Fields.put]
        split
        · exact List.forall_mem_cons.mpr ⟨hvalue, hrest⟩
        · exact List.forall_mem_cons.mpr ⟨hfield, ih hrest⟩

/-- An object is well-formed, whatever well-formed entries were set one after the other. -/
lemma wellFormed_ofEntries {entries : List (String × Json)}
    (h : ∀ entry ∈ entries, entry.2.WellFormed) :
    WellFormed (.object (Fields.ofEntries entries)) := by
  have hfold : ∀ fields : Fields, WellFormed (.object fields) → WellFormed (.object
      (entries.foldl (fun fields entry => Fields.put entry.1 entry.2 fields) fields)) := by
    induction entries with
    | nil => exact fun _ hfields => hfields
    | cons first rest ih =>
      obtain ⟨hfirst, hrest⟩ := List.forall_mem_cons.mp h
      exact fun _ hfields => ih hrest _ (hfields.put hfirst)
  exact hfold [] (.object List.nodup_nil (List.forall_mem_nil _))

/-- A number that is spelled is in range. -/
lemma inRange_of_number? {spelling : NumberSpelling} {n : Number} (h : spelling.number? = some n) :
    n.InRange := by
  unfold NumberSpelling.number? at h
  extract_lets signed x at h
  split at h
  · rename_i hwhole
    cases h
    exact hwhole.2.2
  · split at h
    · rename_i hfinite
      cases h
      exact hfinite
    · cases h

mutual

/-- A value that is spelled is well-formed. -/
lemma wellFormed_of_value? {depth : Nat} {spelled : Spelled} {value : Json}
    (h : spelled.value? depth = some value) : value.WellFormed := by
  match spelled, depth, h with
  | .null, _, h =>
    cases h
    exact .null
  | .bool b, _, h =>
    cases h
    exact .bool b
  | .number spelling, _, h =>
    obtain ⟨n, hn, rfl⟩ := Option.map_eq_some_iff.mp h
    exact .number (inRange_of_number? hn)
  | .string units, _, h =>
    obtain ⟨s, -, rfl⟩ := Option.map_eq_some_iff.mp h
    exact .string s
  | .array items, depth + 1, h =>
    obtain ⟨values, hvalues, rfl⟩ := Option.map_eq_some_iff.mp h
    exact .array (forall_wellFormed_of_values? hvalues)
  | .object entries, depth + 1, h =>
    obtain ⟨fields, hfields, rfl⟩ := Option.map_eq_some_iff.mp h
    exact wellFormed_of_fields? hfields (.object List.nodup_nil (List.forall_mem_nil _))

/-- Values that are spelled are well-formed. -/
lemma forall_wellFormed_of_values? {depth : Nat} {spelled : List Spelled} {values : List Json}
    (h : Spelled.values? depth spelled = some values) : ∀ value ∈ values, value.WellFormed := by
  match spelled, h with
  | [], h =>
    cases h
    exact List.forall_mem_nil _
  | first :: rest, h =>
    obtain ⟨value, hvalue, h⟩ := Option.bind_eq_some_iff.mp h
    obtain ⟨others, hothers, h⟩ := Option.bind_eq_some_iff.mp h
    cases h
    exact List.forall_mem_cons.mpr
      ⟨wellFormed_of_value? hvalue, forall_wellFormed_of_values? hothers⟩

/-- An object whose entries are set one after the other is well-formed. -/
lemma wellFormed_of_fields? {depth : Nat} {done fields : Fields}
    {entries : List (List StringUnit × Spelled)}
    (h : Spelled.fields? depth done entries = some fields) (hdone : WellFormed (.object done)) :
    WellFormed (.object fields) := by
  match entries, h with
  | [], h =>
    cases h
    exact hdone
  | (key, item) :: rest, h =>
    obtain ⟨name, -, h⟩ := Option.bind_eq_some_iff.mp h
    obtain ⟨value, hvalue, h⟩ := Option.bind_eq_some_iff.mp h
    exact wellFormed_of_fields? h (hdone.put (wellFormed_of_value? hvalue))

end

/-- Whatever a JSON text spells is well-formed. -/
lemma wellFormed_of_parse? {text : String} {value : Json} (h : parse? text = some value) :
    value.WellFormed := by
  obtain ⟨spelled, -, hvalue⟩ := Option.bind_eq_some_iff.mp h
  exact wellFormed_of_value? hvalue

end Json

end DocTables
