import DocTables.Proofs.Json.WellFormed
import DocTables.Proofs.Schema.PropertySet
import DocTables.Schema.Declaration
import Mathlib.Data.List.Forall2

/-!
# Declarations of properties

A schema is read entry by entry, and each entry adds a property or is refused.  What an entry
describes is said by a grammar of its own (`Property.DescribedBy`): the type is a text, whatever
blanks are around it and whatever the case of its letters, and it stands alone, under a key of an
object or as the first item of a list; the default and the flags may follow.

A schema is accepted just if it describes a set of properties, which is then the one that is read,
and otherwise the first entry that cannot be added is reported.
-/

namespace DocTables

/-! ## Names of types -/

namespace Text

variable {before letters after : List Char}

/-- What is trimmed are blanks. -/
lemma exists_of_trimBlanks (cs : List Char) : ∃ before after,
    cs = before ++ trimBlanks cs ++ after ∧ ∀ c ∈ before ++ after, isBlank c = true := by
  refine ⟨cs.takeWhile isBlank, ((cs.dropWhile isBlank).reverse.takeWhile isBlank).reverse, ?_, ?_⟩
  · rw [trimBlanks, List.append_assoc, ← List.reverse_append, List.takeWhile_append_dropWhile,
      List.reverse_reverse, List.takeWhile_append_dropWhile]
  · intro c hc
    rw [List.mem_append, List.mem_reverse] at hc
    exact hc.elim List.mem_takeWhile_imp List.mem_takeWhile_imp

/-- Blanks are dropped up to the first character that is none. -/
lemma dropWhile_isBlank_append {rest : List Char} (hbefore : ∀ c ∈ before, isBlank c = true)
    (hne : letters ≠ []) (hletters : ∀ c ∈ letters, isBlank c = false) :
    (before ++ (letters ++ rest)).dropWhile isBlank = letters ++ rest := by
  obtain ⟨first, others, rfl⟩ := List.exists_cons_of_ne_nil hne
  have hfirst : ¬ isBlank first = true := Bool.eq_false_iff.mp (hletters first List.mem_cons_self)
  rw [List.dropWhile_append_of_pos hbefore, List.cons_append, List.dropWhile_cons_of_neg hfirst]

/-- A text without blanks is what is left when blanks around it are trimmed. -/
lemma trimBlanks_append (hblanks : ∀ c ∈ before ++ after, isBlank c = true) (hne : letters ≠ [])
    (hletters : ∀ c ∈ letters, isBlank c = false) :
    trimBlanks (before ++ letters ++ after) = letters := by
  rw [List.forall_mem_append] at hblanks
  rw [trimBlanks, List.append_assoc, dropWhile_isBlank_append hblanks.1 hne hletters,
    List.reverse_append, ← List.append_nil letters.reverse, dropWhile_isBlank_append,
    List.append_nil, List.reverse_reverse]
  · exact fun c hc => hblanks.2 c (List.mem_reverse.mp hc)
  · exact fun h => hne (List.reverse_eq_nil_iff.mp h)
  · exact fun c hc => hletters c (List.mem_reverse.mp hc)

/-- Blanks have no other case. -/
lemma toLower_of_isBlank {c : Char} (h : isBlank c = true) : c.toLower = c := by
  have hletter : ¬ (65 ≤ c.toNat ∧ c.toNat ≤ 90) := by
    simp only [isBlank, Bool.or_eq_true, Bool.and_eq_true, decide_eq_true_eq, beq_iff_eq] at h
    omega
  unfold Char.toLower
  rw [dif_neg]
  exact hletter

end Text

namespace PropertyType

variable {type other : PropertyType} {descriptor : String} {error : SchemaError}

/-- A descriptor names a type if it is the name of the type but for blanks around it and the case of
letters. -/
def NamedBy (type : PropertyType) (descriptor : String) : Prop :=
  ∃ before letters after, descriptor.toList = before ++ letters ++ after ∧
    (∀ c ∈ before ++ after, Text.isBlank c = true) ∧
    letters.map Char.toLower = type.name.toList.map Char.toLower

/-- The name of a type has letters and no blanks, in any case of letters. -/
lemma isBlank_of_map_toLower {letters : List Char}
    (h : letters.map Char.toLower = type.name.toList.map Char.toLower) :
    letters ≠ [] ∧ ∀ c ∈ letters, Text.isBlank c = false := by
  have hname : (type.name.toList.map Char.toLower).isEmpty = false ∧
      (type.name.toList.map Char.toLower).any Text.isBlank = false := by
    cases type <;> decide
  rw [← h, List.isEmpty_eq_false_iff, Ne, List.map_eq_nil_iff, List.any_eq_false] at hname
  refine ⟨hname.1, fun c hc => ?_⟩
  by_contra hblank
  rw [Bool.not_eq_false] at hblank
  have hlower := hname.2 _ (List.mem_map_of_mem hc)
  rw [Text.toLower_of_isBlank hblank] at hlower
  exact hlower hblank

/-- That a descriptor names a type is what is tested. -/
lemma equalIgnoringAsciiCase_trim_iff :
    Text.equalIgnoringAsciiCase type.name (Text.trim descriptor) = true ↔
      type.NamedBy descriptor := by
  rw [Text.equalIgnoringAsciiCase, beq_iff_eq, Text.trim, String.toList_ofList]
  constructor
  · intro h
    obtain ⟨before, after, hparts, hblanks⟩ := Text.exists_of_trimBlanks descriptor.toList
    exact ⟨before, _, after, hparts, hblanks, h.symm⟩
  · rintro ⟨before, letters, after, hparts, hblanks, hletters⟩
    obtain ⟨hne, hplain⟩ := isBlank_of_map_toLower hletters
    rw [hparts, Text.trimBlanks_append hblanks hne hplain, hletters]

lemma mem_all (type : PropertyType) : type ∈ all := by
  cases type <;> decide

/-- Different types have different names, in any case of letters. -/
lemma eq_of_map_toLower
    (h : type.name.toList.map Char.toLower = other.name.toList.map Char.toLower) :
    type = other := by
  have hnames : (all.map fun type => type.name.toList.map Char.toLower).Nodup := by
    decide +kernel
  exact List.inj_on_of_nodup_map hnames type.mem_all other.mem_all h

/-- A descriptor is read as the type that it names. -/
lemma ofDescriptor_eq_ok_iff : ofDescriptor descriptor = .ok type ↔ type.NamedBy descriptor := by
  unfold ofDescriptor
  split
  · rename_i found hfound
    have hnamed := List.find?_some hfound
    constructor
    · rintro ⟨⟩
      exact equalIgnoringAsciiCase_trim_iff.mp hnamed
    · intro h
      have hsame := equalIgnoringAsciiCase_trim_iff.mpr h
      rw [Text.equalIgnoringAsciiCase, beq_iff_eq] at hnamed hsame
      rw [eq_of_map_toLower (hnamed.trans hsame.symm)]
  · rename_i hnone
    refine ⟨nofun, fun h => ?_⟩
    have hother := List.find?_eq_none.mp hnone type type.mem_all
    exact absurd (equalIgnoringAsciiCase_trim_iff.mpr h) hother

/-- A descriptor that names no type is refused. -/
lemma ofDescriptor_eq_error_iff : ofDescriptor descriptor = .error error ↔
    (∀ type : PropertyType, ¬ type.NamedBy descriptor) ∧ error = .unsupportedType descriptor := by
  constructor
  · intro h
    refine ⟨fun type hnamed => ?_, ?_⟩
    · rw [ofDescriptor_eq_ok_iff.mpr hnamed] at h
      cases h
    · unfold ofDescriptor at h
      split at h
      · cases h
      · exact (Except.error.inj h).symm
  · rintro ⟨hnone, rfl⟩
    unfold ofDescriptor
    split
    · rename_i type hfound
      have hnamed := List.find?_some hfound
      exact absurd (equalIgnoringAsciiCase_trim_iff.mp hnamed) (hnone type)
    · rfl

end PropertyType

/-! ## Declarations -/

namespace Declaration

/-- What is said of the type: `null` says nothing. -/
inductive GivesType : Option Json → Option String → Prop
  /-- Nothing is said. -/
  | absent : GivesType none none
  /-- The value is `null`. -/
  | null : GivesType (some .null) none
  /-- The type is named. -/
  | text (descriptor : String) : GivesType (some (.string descriptor)) (some descriptor)

/-- What is said of the default: `null` says nothing. -/
inductive GivesDefault : Option Json → Option Json → Prop
  /-- Nothing is said. -/
  | absent : GivesDefault none none
  /-- The value is `null`. -/
  | null : GivesDefault (some .null) none
  /-- Any other value is the default. -/
  | value {value : Json} (hvalue : value ≠ .null) : GivesDefault (some value) (some value)

/-- What is said of a flag, which is not set if nothing is said. -/
inductive GivesFlag : Option Json → Bool → Prop
  /-- Nothing is said. -/
  | absent : GivesFlag none false
  /-- The flag is set or not. -/
  | bool (flag : Bool) : GivesFlag (some (.bool flag)) flag

/-- The declaration says what its parts do. -/
structure Gives (part? : String → Option Json) (declaration : Declaration) : Prop where
  /-- The type. -/
  type : GivesType (part? "type") declaration.type
  /-- The default. -/
  default : GivesDefault (part? "defaultsTo") declaration.default
  /-- Whether no value may occur twice. -/
  unique : GivesFlag (part? "unique") declaration.unique
  /-- Whether the property is the primary key. -/
  primaryKey : GivesFlag (part? "primaryKey") declaration.primaryKey
  /-- Whether the column is to have an index. -/
  indexed : GivesFlag (part? "index") declaration.indexed
  /-- Whether `NULL` is excluded. -/
  required : GivesFlag (part? "required") declaration.required

/-- The parts in the order in which a list has them. -/
def partNames : List String := ["type", "defaultsTo", "unique", "primaryKey", "index", "required"]

/-- The spellings of a declaration. -/
inductive SpelledBy : Json → Declaration → Prop
  /-- The type stands alone. -/
  | text (descriptor : String) :
    SpelledBy (.string descriptor) ⟨some descriptor, none, false, false, false, false⟩
  /-- The parts are under their keys; the other keys do not matter. -/
  | object {fields : Json.Fields} {declaration : Declaration} (h : Gives fields.get? declaration) :
    SpelledBy (.object fields) declaration
  /-- The first parts, two at least, are in a list. -/
  | list {items : List Json} {declaration : Declaration} (hleast : 2 ≤ items.length)
    (hmost : items.length ≤ partNames.length)
    (h : Gives (fun name => (partNames.zip items).lookup name) declaration) :
    SpelledBy (.array items) declaration

variable {value : Json} {declaration : Declaration}

lemma type?_eq_some_iff {part : Option Json} {type : Option String} :
    type? part = some type ↔ GivesType part type := by
  constructor
  · intro h
    unfold type? at h
    split at h <;> cases h
    · exact .absent
    · exact .null
    · exact .text _
  · rintro (_ | _ | _) <;> rfl

lemma default?_eq_iff {part default : Option Json} :
    default? part = default ↔ GivesDefault part default := by
  constructor
  · rintro rfl
    unfold default?
    split
    · exact .absent
    · exact .null
    · rename_i hvalue
      exact .value fun hnull => hvalue hnull
  · rintro (_ | _ | hvalue)
    · rfl
    · rfl
    · rw [default?]
      exact hvalue

lemma flag?_eq_some_iff {part : Option Json} {flag : Bool} :
    flag? part = some flag ↔ GivesFlag part flag := by
  constructor
  · intro h
    unfold flag? at h
    split at h <;> cases h
    · exact .absent
    · exact .bool _
  · rintro (_ | _) <;> rfl

/-- The parts of a list are found by their names. -/
lemma lookup_zip {names : List String} (hnames : names.Nodup) {items : List Json} {i : Nat}
    (hi : i < names.length) : (names.zip items).lookup names[i] = items[i]? := by
  induction names generalizing items i with
  | nil => cases hi
  | cons name rest ih =>
    obtain ⟨hname, hrest⟩ := List.nodup_cons.mp hnames
    cases items with
    | nil => rfl
    | cons item others =>
      cases i with
      | zero => exact List.lookup_cons_self
      | succ i =>
        have hi := Nat.lt_of_succ_lt_succ hi
        have hne : (rest[i] == name) = false := by
          rw [beq_eq_false_iff_ne]
          exact fun heq => hname (heq ▸ List.getElem_mem hi)
        rw [List.zip_cons_cons, List.getElem_cons_succ, List.lookup_cons, hne, ih hrest hi]
        rfl

/-- The parts make the declaration that says what they do. -/
lemma ofParts?_eq_some_iff {part? : String → Option Json} :
    ofParts? (part? "type") (part? "defaultsTo") (part? "unique") (part? "primaryKey")
      (part? "index") (part? "required") = some declaration ↔ Gives part? declaration := by
  constructor
  · intro h
    simp only [ofParts?, Option.bind_eq_bind, Option.bind_eq_some_iff, Option.pure_def,
      Option.some.injEq] at h
    obtain ⟨type, htype, unique, hunique, key, hkey, indexed, hindexed, required, hrequired, rfl⟩ :=
      h
    exact ⟨type?_eq_some_iff.mp htype, default?_eq_iff.mp rfl, flag?_eq_some_iff.mp hunique,
      flag?_eq_some_iff.mp hkey, flag?_eq_some_iff.mp hindexed, flag?_eq_some_iff.mp hrequired⟩
  · intro h
    simp only [ofParts?, type?_eq_some_iff.mpr h.type, default?_eq_iff.mpr h.default,
      flag?_eq_some_iff.mpr h.unique, flag?_eq_some_iff.mpr h.primaryKey,
      flag?_eq_some_iff.mpr h.indexed, flag?_eq_some_iff.mpr h.required]
    rfl

/-- The items of a list are its parts in order. -/
lemma ofParts?_items_iff {items : List Json} :
    ofParts? items[0]? items[1]? items[2]? items[3]? items[4]? items[5]? = some declaration ↔
      Gives (fun name => (partNames.zip items).lookup name) declaration := by
  have hnames : partNames.Nodup := by decide
  have hpart : ∀ i (hi : i < partNames.length), items[i]? =
      (partNames.zip items).lookup partNames[i] :=
    fun i hi => (lookup_zip hnames hi).symm
  rw [hpart 0 (by decide), hpart 1 (by decide), hpart 2 (by decide), hpart 3 (by decide),
    hpart 4 (by decide), hpart 5 (by decide)]
  exact @ofParts?_eq_some_iff declaration fun name => (partNames.zip items).lookup name

/-- A value is read as the declaration that it spells. -/
lemma ofJson?_eq_some_iff : ofJson? value = some declaration ↔ SpelledBy value declaration := by
  constructor
  · intro h
    unfold ofJson? at h
    split at h
    · cases h
      exact .text _
    · exact .object (ofParts?_eq_some_iff.mp h)
    · split_ifs at h with hlength
      exact .list hlength.1 hlength.2 (ofParts?_items_iff.mp h)
    · cases h
  · intro h
    cases h with
    | text descriptor => rfl
    | object h => exact ofParts?_eq_some_iff.mpr h
    | list hleast hmost h =>
      rw [ofJson?, if_pos ⟨hleast, hmost⟩]
      exact ofParts?_items_iff.mpr h

end Declaration

/-! ## Entries -/

/-- What an entry describes: a property of its name, with a type that there is. -/
inductive Property.DescribedBy : String × Json → Property → Prop
  /-- The declaration is spelled out, and its type is named. -/
  | mk {name descriptor : String} {value : Json} {declaration : Declaration} {type : PropertyType}
    (hspelled : declaration.SpelledBy value) (htype : declaration.type = some descriptor)
    (hnamed : type.NamedBy descriptor) :
    DescribedBy (name, value) {
      name := name
      type := type
      default := declaration.default
      unique := declaration.unique
      primaryKey := declaration.primaryKey
      indexed := declaration.indexed
      required := declaration.required }

variable {name : String} {value : Json} {declaration : Declaration} {property : Property}
  {error : SchemaError} {entry : String × Json} {entries : List (String × Json)}
  {properties : List Property}

/-- A declaration has no property just if it has no type, or one that is none. -/
lemma Declaration.property_eq_error_iff : declaration.property name = .error error ↔
    (declaration.type = none ∧ error = .missingType name) ∨
    ∃ descriptor, declaration.type = some descriptor ∧
      (∀ type : PropertyType, ¬ type.NamedBy descriptor) ∧ error = .unsupportedType descriptor := by
  unfold Declaration.property
  cases htype : declaration.type with
  | none => simp [eq_comm]
  | some descriptor =>
    simp only [reduceCtorEq, false_and, false_or, Option.some.injEq, exists_eq_left',
      ← PropertyType.ofDescriptor_eq_error_iff]
    constructor
    · intro h
      rcases cases_of_bind_eq_error h with h | ⟨type, -, h⟩
      · exact h
      · cases h
    · intro h
      rw [h]
      rfl

/-- An entry describes the property of the declaration that it spells. -/
lemma Property.describedBy_iff : property.DescribedBy (name, value) ↔
    ∃ declaration : Declaration, declaration.SpelledBy value ∧
      declaration.property name = .ok property := by
  constructor
  · rintro ⟨hspelled, htype, hnamed⟩
    refine ⟨_, hspelled, ?_⟩
    rw [Declaration.property, htype]
    simp only [PropertyType.ofDescriptor_eq_ok_iff.mpr hnamed]
    rfl
  · rintro ⟨declaration, hspelled, hproperty⟩
    unfold Declaration.property at hproperty
    split at hproperty
    · cases hproperty
    · rename_i descriptor htype
      obtain ⟨type, hnamed, hproperty⟩ := exists_of_bind_eq_ok hproperty
      cases hproperty
      exact .mk hspelled htype (PropertyType.ofDescriptor_eq_ok_iff.mp hnamed)

namespace PropertySet

variable {set next start : PropertySet}

/-- Why an entry cannot be added: its value has none of the accepted forms, else it has no type,
else its type is none that there is, else the property that it describes is refused. -/
inductive Offends (set : PropertySet) : String × Json → SchemaError → Prop
  /-- The value spells no declaration. -/
  | form {name : String} {value : Json}
    (h : ∀ declaration : Declaration, ¬ declaration.SpelledBy value) :
    Offends set (name, value) (.malformedProperty name)
  /-- The declaration has no type. -/
  | untyped {name : String} {value : Json} {declaration : Declaration}
    (hspelled : declaration.SpelledBy value) (htype : declaration.type = none) :
    Offends set (name, value) (.missingType name)
  /-- The type of the declaration is none that there is. -/
  | type {name descriptor : String} {value : Json} {declaration : Declaration}
    (hspelled : declaration.SpelledBy value) (htype : declaration.type = some descriptor)
    (hnone : ∀ type : PropertyType, ¬ type.NamedBy descriptor) :
    Offends set (name, value) (.unsupportedType descriptor)
  /-- The property is refused. -/
  | property {entry : String × Json} {property : Property} {error : SchemaError}
    (hdescribed : property.DescribedBy entry) (hrefuses : set.Refuses property error) :
    Offends set entry error

/-- The property of the declaration that is spelled is added. -/
lemma declare_of_spelledBy (h : declaration.SpelledBy value) :
    set.declare name value = declaration.property name >>= set.push := by
  rw [declare, Declaration.ofJson?_eq_some_iff.mpr h]

/-- Nothing is added if no declaration is spelled. -/
lemma declare_of_not_spelledBy (h : ∀ declaration : Declaration, ¬ declaration.SpelledBy value) :
    set.declare name value = .error (.malformedProperty name) := by
  have hnone : Declaration.ofJson? value = none :=
    Option.eq_none_iff_forall_ne_some.mpr fun declaration hspelled =>
      h declaration (Declaration.ofJson?_eq_some_iff.mp hspelled)
  rw [declare, hnone]

/-- An entry adds the property that it describes. -/
lemma declare_eq_ok_iff : set.declare name value = .ok next ↔
    ∃ property, Property.DescribedBy (name, value) property ∧ set.push property = .ok next := by
  constructor
  · intro h
    by_cases hspells : ∃ declaration : Declaration, declaration.SpelledBy value
    · obtain ⟨declaration, hspelled⟩ := hspells
      rw [declare_of_spelledBy hspelled] at h
      obtain ⟨property, hproperty, hpush⟩ := exists_of_bind_eq_ok h
      exact ⟨property, Property.describedBy_iff.mpr ⟨declaration, hspelled, hproperty⟩, hpush⟩
    · rw [declare_of_not_spelledBy (not_exists.mp hspells)] at h
      cases h
  · rintro ⟨property, hdescribed, hpush⟩
    obtain ⟨declaration, hspelled, hproperty⟩ := Property.describedBy_iff.mp hdescribed
    rw [declare_of_spelledBy hspelled, hproperty]
    exact hpush

/-- An entry that cannot be added is refused for the first reason that holds. -/
lemma declare_eq_error_iff :
    set.declare name value = .error error ↔ set.Offends (name, value) error := by
  constructor
  · intro h
    by_cases hspells : ∃ declaration : Declaration, declaration.SpelledBy value
    · obtain ⟨declaration, hspelled⟩ := hspells
      rw [declare_of_spelledBy hspelled] at h
      rcases cases_of_bind_eq_error h with hproperty | ⟨property, hproperty, hpush⟩
      · rcases Declaration.property_eq_error_iff.mp hproperty with
          ⟨htype, rfl⟩ | ⟨descriptor, htype, hnone, rfl⟩
        · exact .untyped hspelled htype
        · exact .type hspelled htype hnone
      · exact .property (Property.describedBy_iff.mpr ⟨declaration, hspelled, hproperty⟩)
          (push_eq_error_iff.mp hpush)
    · rw [declare_of_not_spelledBy (not_exists.mp hspells)] at h
      cases h
      exact .form (not_exists.mp hspells)
  · intro h
    cases h with
    | form h => exact declare_of_not_spelledBy h
    | untyped hspelled htype =>
      rw [declare_of_spelledBy hspelled,
        Declaration.property_eq_error_iff.mpr (.inl ⟨htype, rfl⟩)]
      rfl
    | type hspelled htype hnone =>
      rw [declare_of_spelledBy hspelled,
        Declaration.property_eq_error_iff.mpr (.inr ⟨_, htype, hnone, rfl⟩)]
      rfl
    | property hdescribed hrefuses =>
      obtain ⟨declaration, hspelled, hproperty⟩ := Property.describedBy_iff.mp hdescribed
      rw [declare_of_spelledBy hspelled, hproperty]
      exact push_eq_error_iff.mpr hrefuses

/-! ## Schemas -/

/-- A property is not refused where it comes next in a set of properties. -/
lemma not_refuses_of_toList (h : set.toList = start.toList ++ property :: properties) :
    ¬ start.Refuses property error := by
  have hmem : property ∈ set.toList := h ▸ List.mem_append_right _ List.mem_cons_self
  have hnew : property.name ∉ start.names := by
    have hnames := set.names_nodup
    rw [h, List.map_append] at hnames
    exact fun hname => List.disjoint_of_nodup_append hnames hname List.mem_cons_self
  intro hrefuses
  cases hrefuses with
  | name hname =>
    rw [set.names_valid property hmem] at hname
    cases hname
  | repeated _ hpresent => exact hnew (contains_iff_mem_names.mp hpresent)
  | @primaryKey _ _ hkey other hother hotherKey =>
    have hsame : property = other :=
      eq_of_primaryKey hmem (h ▸ List.mem_append_left _ hother) hkey hotherKey
    exact hnew (hsame ▸ List.mem_map_of_mem hother)

/-- The properties that entries describe are added in their order. -/
lemma declareAll_eq_ok_iff : start.declareAll entries = .ok set ↔
    ∃ properties, List.Forall₂ Property.DescribedBy entries properties ∧
      set.toList = start.toList ++ properties := by
  induction entries generalizing start with
  | nil =>
    constructor
    · intro h
      cases h
      exact ⟨[], .nil, (List.append_nil _).symm⟩
    · rintro ⟨_, ⟨⟩, hlist⟩
      rw [List.append_nil] at hlist
      rw [ext_toList hlist]
      rfl
  | cons entry rest ih =>
    obtain ⟨name, value⟩ := entry
    constructor
    · intro h
      obtain ⟨next, hdeclare, hrest⟩ := exists_of_bind_eq_ok h
      obtain ⟨property, hdescribed, hpush⟩ := declare_eq_ok_iff.mp hdeclare
      obtain ⟨properties, hproperties, hlist⟩ := ih.mp hrest
      refine ⟨property :: properties, .cons hdescribed hproperties, ?_⟩
      rw [hlist, toList_of_push hpush, List.append_assoc, List.singleton_append]
    · rintro ⟨_, hproperties, hlist⟩
      obtain ⟨property, properties, hdescribed, hrest, rfl⟩ :=
        List.forall₂_cons_left_iff.mp hproperties
      -- the whole set has the property at this place, so it is taken here
      obtain ⟨next, hpush⟩ := exists_push fun _ => not_refuses_of_toList hlist
      have hnext : set.toList = next.toList ++ properties := by
        rw [hlist, toList_of_push hpush, List.append_assoc, List.singleton_append]
      rw [declareAll, declare_eq_ok_iff.mpr ⟨property, hdescribed, hpush⟩]
      exact ih.mpr ⟨properties, hrest, hnext⟩

/-- The first entry that cannot be added is reported. -/
lemma declareAll_eq_error_iff : start.declareAll entries = .error error ↔
    ∃ before entry after reached, entries = before ++ entry :: after ∧
      start.declareAll before = .ok reached ∧ reached.Offends entry error := by
  induction entries generalizing start with
  | nil =>
    constructor
    · intro h
      cases h
    · rintro ⟨before, entry, after, reached, hnil, -⟩
      exact absurd hnil.symm (List.append_ne_nil_of_right_ne_nil _ (List.cons_ne_nil _ _))
  | cons first rest ih =>
    obtain ⟨name, value⟩ := first
    constructor
    · intro h
      rcases cases_of_bind_eq_error h with hdeclare | ⟨next, hdeclare, hrest⟩
      · exact ⟨[], (name, value), rest, start, rfl, rfl, declare_eq_error_iff.mp hdeclare⟩
      · obtain ⟨before, entry, after, reached, rfl, hreached, hoffends⟩ := ih.mp hrest
        refine ⟨(name, value) :: before, entry, after, reached, rfl, ?_, hoffends⟩
        rw [declareAll, hdeclare]
        exact hreached
    · rintro ⟨before, entry, after, reached, hentries, hreached, hoffends⟩
      cases before with
      | nil =>
        cases hentries
        cases hreached
        rw [declareAll, declare_eq_error_iff.mpr hoffends]
        rfl
      | cons other before =>
        cases hentries
        obtain ⟨next, hdeclare, hrest⟩ := exists_of_bind_eq_ok hreached
        rw [declareAll, hdeclare]
        exact ih.mpr ⟨before, entry, after, reached, rfl, hrest, hoffends⟩

/-- The properties have the names of the entries that describe them. -/
lemma names_of_described (h : List.Forall₂ Property.DescribedBy entries properties) :
    Json.Fields.names entries = properties.map Property.name := by
  induction h with
  | nil => rfl
  | @cons entry property rest others hdescribed _ ih =>
    obtain ⟨_, _, _⟩ := hdescribed
    exact congrArg _ ih

/-- A value that is read is an object, each entry of which describes the next property. -/
lemma ofJson_eq_ok_iff : ofJson value = .ok set ↔ ∃ entries, value = .object entries ∧
    List.Forall₂ Property.DescribedBy entries set.toList := by
  constructor
  · intro h
    unfold ofJson at h
    split at h
    · rename_i entries
      obtain ⟨properties, hproperties, hlist⟩ := declareAll_eq_ok_iff.mp h
      exact ⟨entries, rfl, hlist ▸ hproperties⟩
    · cases h
  · rintro ⟨entries, rfl, hproperties⟩
    exact declareAll_eq_ok_iff.mpr ⟨set.toList, hproperties, rfl⟩

/-- A value that is not read is no object, or has an entry that cannot be added. -/
lemma ofJson_eq_error_iff : ofJson value = .error error ↔
    ((∀ entries, value ≠ .object entries) ∧ error = .notAnObject) ∨
    ∃ before entry after, ∃ reached : PropertySet, value = .object (before ++ entry :: after) ∧
      List.Forall₂ Property.DescribedBy before reached.toList ∧ reached.Offends entry error := by
  constructor
  · intro h
    unfold ofJson at h
    split at h
    · obtain ⟨before, entry, after, reached, rfl, hreached, hoffends⟩ :=
        declareAll_eq_error_iff.mp h
      obtain ⟨properties, hproperties, hlist⟩ := declareAll_eq_ok_iff.mp hreached
      exact .inr ⟨before, entry, after, reached, rfl, hlist ▸ hproperties, hoffends⟩
    · rename_i hother
      cases h
      exact .inl ⟨hother, rfl⟩
  · rintro (⟨hother, rfl⟩ | ⟨before, entry, after, reached, rfl, hproperties, hoffends⟩)
    · unfold ofJson
      split
      · exact absurd rfl (hother _)
      · rfl
    · refine declareAll_eq_error_iff.mpr ⟨before, entry, after, reached, rfl, ?_, hoffends⟩
      exact declareAll_eq_ok_iff.mpr ⟨reached.toList, hproperties, rfl⟩

/-- A value is read as a set of properties just if it is an object of which each entry describes one
of them, in their order.  There is such a set just if the names of the entries are plain and
different and at most one of them describes a primary key.  Otherwise the value is no object, or it
is refused for its first entry that cannot be added to the properties that the entries before it
describe. -/
theorem read_as_described (value : Json) :
    (∀ set, ofJson value = .ok set ↔ ∃ entries, value = .object entries ∧
      List.Forall₂ Property.DescribedBy entries set.toList) ∧
    ((∃ set, ofJson value = .ok set) ↔ ∃ entries properties, value = .object entries ∧
      List.Forall₂ Property.DescribedBy entries properties ∧
      (∀ entry ∈ entries, isPlainName entry.1 = true) ∧ (Json.Fields.names entries).Nodup ∧
      (properties.filter Property.primaryKey).length ≤ 1) ∧
    ∀ error, ofJson value = .error error ↔
      ((∀ entries, value ≠ .object entries) ∧ error = .notAnObject) ∨
      ∃ before entry after, ∃ reached : PropertySet, value = .object (before ++ entry :: after) ∧
        List.Forall₂ Property.DescribedBy before reached.toList ∧ reached.Offends entry error := by
  refine ⟨fun set => ofJson_eq_ok_iff, ?_, fun error => ofJson_eq_error_iff⟩
  constructor
  · rintro ⟨set, hset⟩
    obtain ⟨entries, rfl, hproperties⟩ := ofJson_eq_ok_iff.mp hset
    have hnames : Json.Fields.names entries = set.names := names_of_described hproperties
    refine ⟨entries, set.toList, rfl, hproperties, fun entry hentry => ?_, hnames ▸ set.names_nodup,
      set.primaryKeys_le_one⟩
    have hname : entry.1 ∈ set.names := by
      rw [← hnames]
      exact List.mem_map_of_mem hentry
    obtain ⟨property, hproperty, hname⟩ := List.mem_map.mp hname
    exact hname ▸ set.names_valid property hproperty
  · rintro ⟨entries, properties, rfl, hproperties, hplain, hdistinct, hkeys⟩
    have hnames := names_of_described hproperties
    have hvalid : ∀ property ∈ properties, isPlainName property.name = true := by
      intro property hproperty
      have hname : property.name ∈ Json.Fields.names entries := by
        rw [hnames]
        exact List.mem_map_of_mem hproperty
      obtain ⟨entry, hentry, hname⟩ := List.mem_map.mp hname
      exact hname ▸ hplain entry hentry
    exact ⟨⟨properties, hvalid, hnames ▸ hdistinct, hkeys⟩,
      ofJson_eq_ok_iff.mpr ⟨entries, rfl, hproperties⟩⟩

/-- All three spellings in one schema, the type of one of them with blanks and in small letters. -/
example : (ofJson (.object [("name", .string " string "),
      ("age", .array [.string "Number", .number (.int 20), .bool false, .bool true]),
      ("nick", .object
        [("type", .string "String"), ("defaultsTo", .null), ("length", .null)])])).map
      (fun set => set.toList.map fun property =>
        (property.name, property.type, property.primaryKey)) =
    .ok [("name", .string, false), ("age", .number, true), ("nick", .string, false)] := by
  decide +kernel

/-- That the type is none is said before that the name is not plain, and of a later entry nothing
is. -/
example : (ofJson (.object [("9th", .string "Buffer"), ("age", .bool true)])).map names =
    .error (.unsupportedType "Buffer") := by
  decide +kernel

end PropertySet

end DocTables
