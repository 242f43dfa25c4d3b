import DocTables.Proofs.Name
import DocTables.Proofs.Result
import DocTables.Schema.Table
import Mathlib.Data.List.Nodup

/-!
# Sets of properties under calls

A set of properties is changed by calls that add and remove properties, one after the other.
Whatever the calls are, the set holds just the properties that were added and not removed since, in
the order in which they were added (`toList_callAll`); a property is refused for one of three
reasons, of which the first one that holds is reported (`push_eq_error_iff`), and the set stays as
it was.

The tables that are made of such sets have columns with different names, at most one of which is the
primary key, so that no name of an index is lost as a repeated one.
-/

namespace DocTables

namespace PropertySet

variable {set next : PropertySet} {property other : Property} {name : String} {error : SchemaError}

/-! ## Members -/

/-- Sets with the same properties in the same order are the same. -/
lemma ext_toList (h : set.toList = next.toList) : set = next := by
  cases set
  cases next
  congr

/-- A property is found by its name. -/
lemma get?_eq_some_iff :
    set.get? name = some property ↔ property ∈ set.toList ∧ property.name = name :=
  find?_name_eq_some_iff set.names_nodup

/-- The names for which a property is found are those of the set. -/
lemma contains_iff_mem_names : set.contains name = true ↔ name ∈ set.names := by
  rw [contains, Option.isSome_iff_exists, names, List.mem_map]
  exact exists_congr fun property => get?_eq_some_iff

/-- There is only one primary key. -/
lemma eq_of_primaryKey (hproperty : property ∈ set.toList) (hother : other ∈ set.toList)
    (hkey : property.primaryKey = true) (hotherKey : other.primaryKey = true) :
    property = other := by
  have hmem : property ∈ set.toList.filter Property.primaryKey :=
    List.mem_filter.mpr ⟨hproperty, hkey⟩
  have hotherMem : other ∈ set.toList.filter Property.primaryKey :=
    List.mem_filter.mpr ⟨hother, hotherKey⟩
  obtain ⟨only, honly⟩ : ∃ only, set.toList.filter Property.primaryKey = [only] := by
    refine List.length_eq_one_iff.mp (Nat.le_antisymm set.primaryKeys_le_one ?_)
    exact List.length_pos_of_mem hmem
  rw [honly] at hmem hotherMem
  rw [List.mem_singleton.mp hmem, List.mem_singleton.mp hotherMem]

/-! ## Additions -/

/-- The reason to refuse a property: it has no plain name, else its name is repeated, else it is a
second primary key. -/
inductive Refuses (set : PropertySet) (property : Property) : SchemaError → Prop
  /-- The name is not plain. -/
  | name (hname : isPlainName property.name = false) :
    Refuses set property (.invalidIdentifier property.name)
  /-- There is a property of the same name. -/
  | repeated (hname : isPlainName property.name = true)
    (hpresent : set.contains property.name = true) :
    Refuses set property (.duplicateProperty property.name)
  /-- There is another primary key. -/
  | primaryKey (hname : isPlainName property.name = true)
    (hnew : set.contains property.name = false) (hkey : property.primaryKey = true)
    {other : Property} (hother : other ∈ set.toList) (hotherKey : other.primaryKey = true) :
    Refuses set property (.duplicatePrimaryKey property.name)

/-- Whether there is a primary key. -/
lemma hasPrimaryKey_iff :
    set.hasPrimaryKey = true ↔ ∃ other ∈ set.toList, other.primaryKey = true :=
  List.any_eq_true

/-- A property is refused for the first reason that holds. -/
lemma push_eq_error_iff : set.push property = .error error ↔ set.Refuses property error := by
  constructor
  · intro h
    unfold push at h
    split_ifs at h with hname hnew hkey
    · cases h
      exact .repeated hname (contains_iff_mem_names.mpr hnew)
    · cases h
      obtain ⟨other, hother, hotherKey⟩ := hasPrimaryKey_iff.mp hkey.2
      exact .primaryKey hname (Bool.eq_false_iff.mpr fun h => hnew (contains_iff_mem_names.mp h))
        hkey.1 hother hotherKey
    · cases h
      exact .name (Bool.eq_false_iff.mpr hname)
  · intro h
    cases h with
    | name hname => rw [push, dif_neg (Bool.eq_false_iff.mp hname)]
    | repeated hname hpresent =>
      rw [push, dif_pos hname, dif_pos (contains_iff_mem_names.mp hpresent)]
    | primaryKey hname hnew hkey hother hotherKey =>
      have hother : set.hasPrimaryKey = true := hasPrimaryKey_iff.mpr ⟨_, hother, hotherKey⟩
      rw [push, dif_pos hname, dif_neg fun h => ?_, dif_pos ⟨hkey, hother⟩]
      exact Bool.eq_false_iff.mp hnew (contains_iff_mem_names.mpr h)

/-- A property that is taken comes last. -/
lemma toList_of_push (h : set.push property = .ok next) :
    next.toList = set.toList ++ [property] := by
  unfold push at h
  split_ifs at h
  cases h
  rfl

/-- A property is taken if no reason to refuse it holds. -/
lemma exists_push (h : ∀ error, ¬ set.Refuses property error) :
    ∃ next, set.push property = .ok next := by
  cases hresult : set.push property with
  | ok next => exact ⟨next, rfl⟩
  | error error => exact absurd (push_eq_error_iff.mp hresult) (h error)

/-! ## Removals -/

/-- The property that is found is taken out of its place, and the others stay. -/
lemma exists_of_get? (h : set.get? name = some property) : ∃ before after,
    set.toList = before ++ property :: after ∧ (set.erase name).toList = before ++ after := by
  obtain ⟨hname, before, after, hlist, hbefore⟩ := List.find?_eq_some_iff_append.mp h
  refine ⟨before, after, hlist, ?_⟩
  have hothers : ∀ other ∈ before, ¬ (other.name == name) = true := by
    intro other hother
    simpa using hbefore other hother
  change set.toList.eraseP (fun other => other.name == name) = _
  rw [hlist, List.eraseP_append_right _ hothers, List.eraseP_cons, hname, cond_true]

/-- The properties of the other names stay. -/
lemma toList_erase (set : PropertySet) (name : String) :
    (set.erase name).toList = set.toList.filter fun property => property.name != name := by
  cases hfound : set.get? name with
  | none =>
    have hothers : ∀ property ∈ set.toList, ¬ (property.name == name) = true :=
      List.find?_eq_none.mp hfound
    change set.toList.eraseP (fun other => other.name == name) = _
    rw [List.eraseP_of_forall_not hothers, List.filter_eq_self.mpr]
    simpa using hothers
  | some property =>
    obtain ⟨before, after, hlist, herase⟩ := exists_of_get? hfound
    have hnames := set.names_nodup
    rw [hlist, List.map_append, List.map_cons, List.nodup_middle, List.nodup_cons,
      ← List.map_append] at hnames
    obtain ⟨-, rfl⟩ := get?_eq_some_iff.mp hfound
    have hothers : ∀ other ∈ before ++ after, (other.name != property.name) = true := by
      intro other hother
      rw [bne_iff_ne]
      exact fun hname => hnames.1 (hname ▸ List.mem_map_of_mem hother)
    rw [herase, hlist, List.filter_append, List.filter_cons_of_neg (by simp), ← List.filter_append,
      List.filter_eq_self.mpr hothers]

/-- Where a property was removed, one of the same name and with the same key can be added. -/
lemma not_refuses_erase (h : set.get? name = some property) (hname : other.name = name)
    (hkey : other.primaryKey = property.primaryKey) : ¬ (set.erase name).Refuses other error := by
  obtain ⟨hproperty, rfl⟩ := get?_eq_some_iff.mp h
  intro hrefuses
  cases hrefuses with
  | name hodd =>
    rw [hname, set.names_valid property hproperty] at hodd
    cases hodd
  | repeated _ hpresent =>
    obtain ⟨present, hpresent, hsame⟩ := List.mem_map.mp (contains_iff_mem_names.mp hpresent)
    rw [toList_erase, List.mem_filter, bne_iff_ne] at hpresent
    exact hpresent.2 (hsame.trans hname)
  | primaryKey _ _ hother hsecond hsecondKey =>
    rw [toList_erase, List.mem_filter, bne_iff_ne] at hsecond
    have hsame := eq_of_primaryKey hproperty hsecond.1 (hkey.symm.trans hother) hsecondKey
    exact hsecond.2 (hsame ▸ rfl)

end PropertySet

/-! ## Chains of calls -/

/-- A call on a set of properties. -/
inductive PropertyCall where
  /-- Adds a property at the end. -/
  | push (property : Property)
  /-- Adds a property at the end, in a chain that is given up if the property is refused. -/
  | including (property : Property)
  /-- Removes the property of a name. -/
  | remove (name : String)

/-- What a call comes to. -/
inductive PropertyReply where
  /-- The property is added. -/
  | added
  /-- The property is refused. -/
  | refused (error : SchemaError)
  /-- The property that had the name, if there was one, is removed. -/
  | removed (property : Option Property)

namespace PropertyCall

/-- What a call comes to, and the set that it leaves; none is left of a chain that is given up. -/
def apply (set : PropertySet) : PropertyCall → PropertyReply × Option PropertySet
  | .push property =>
    match set.push property with
    | .ok next => (.added, some next)
    | .error error => (.refused error, some set)
  | .including property =>
    match set.push property with
    | .ok next => (.added, some next)
    | .error error => (.refused error, none)
  | .remove name => (.removed (set.get? name), some (set.erase name))

/-- The property that a call is to add. -/
def property? : PropertyCall → Option Property
  | .push property => some property
  | .including property => some property
  | .remove _ => none

/-- Whether a call is to remove the property of a name. -/
def removes (name : String) : PropertyCall → Bool
  | .remove other => other == name
  | _ => false

variable {set next : PropertySet} {call : PropertyCall} {reply : PropertyReply}
  {property : Property} {error : SchemaError}

/-- A call that is to add a property removes none. -/
lemma removes_of_property? (h : call.property? = some property) (name : String) :
    call.removes name = false := by
  cases call with
  | push property => rfl
  | including property => rfl
  | remove name => cases h

/-- A property that is taken is added. -/
lemma apply_of_push_ok (hcall : call.property? = some property) (h : set.push property = .ok next) :
    call.apply set = (.added, some next) := by
  cases call with
  | push property =>
    cases hcall
    rw [apply, h]
  | including property =>
    cases hcall
    rw [apply, h]
  | remove name => cases hcall

/-- A property that is not taken is refused. -/
lemma apply_of_push_error (hcall : call.property? = some property)
    (h : set.push property = .error error) : (call.apply set).1 = .refused error := by
  cases call with
  | push property =>
    cases hcall
    rw [apply, h]
  | including property =>
    cases hcall
    rw [apply, h]
  | remove name => cases hcall

/-- A call that leaves a set adds a property, is refused and leaves the set as it was, or removes a
property. -/
lemma cases_of_apply (h : call.apply set = (reply, some next)) :
    (∃ property, call.property? = some property ∧ set.push property = .ok next ∧ reply = .added) ∨
    (∃ property error, call = .push property ∧ reply = .refused error ∧ next = set) ∨
    ∃ name, call = .remove name ∧ reply = .removed (set.get? name) ∧ next = set.erase name := by
  cases call with
  | push property =>
    cases hpush : set.push property with
    | ok taken =>
      rw [apply_of_push_ok rfl hpush] at h
      cases h
      exact .inl ⟨property, rfl, hpush, rfl⟩
    | error error =>
      rw [apply, hpush] at h
      cases h
      exact .inr (.inl ⟨property, error, rfl, rfl, rfl⟩)
  | including property =>
    cases hpush : set.push property with
    | ok taken =>
      rw [apply_of_push_ok rfl hpush] at h
      cases h
      exact .inl ⟨property, rfl, hpush, rfl⟩
    | error error =>
      rw [apply, hpush] at h
      cases h
  | remove name =>
    cases h
    exact .inr (.inr ⟨name, rfl, rfl, rfl⟩)

end PropertyCall

/-- The calls on a set, with what each of them came to. -/
abbrev PropertyLog := List (PropertyCall × PropertyReply)

namespace PropertyLog

/-- Whether the property of a name is to be removed. -/
def removes (log : PropertyLog) (name : String) : Bool := log.any fun entry => entry.1.removes name

/-- The properties that were added and not removed later, in the order in which they were added. -/
def present : PropertyLog → List Property
  | [] => []
  | (call, .added) :: rest =>
    (call.property?.toList.filter fun property => !removes rest property.name) ++ present rest
  | (_, _) :: rest => present rest

lemma removes_cons (call : PropertyCall) (reply : PropertyReply) (log : PropertyLog)
    (name : String) :
    removes ((call, reply) :: log) name = (call.removes name || log.removes name) :=
  List.any_cons

end PropertyLog

namespace PropertySet

variable {set next start : PropertySet} {property other : Property} {name : String}
  {error : SchemaError} {calls : List PropertyCall} {log : PropertyLog}

/-- The calls with what they came to, and the set that they leave if no chain is given up. -/
def callAll (set : PropertySet) : List PropertyCall → Option (PropertyLog × PropertySet)
  | [] => some ([], set)
  | call :: rest =>
    match call.apply set with
    | (reply, some next) => (next.callAll rest).map fun run => ((call, reply) :: run.1, run.2)
    | (_, none) => none

/-- Each of the calls was made on the set that the one before it left. -/
lemma exists_of_callAll {call : PropertyCall} {rest : List PropertyCall}
    (h : start.callAll (call :: rest) = some (log, set)) : ∃ reply next more,
      call.apply start = (reply, some next) ∧ next.callAll rest = some (more, set) ∧
        log = (call, reply) :: more := by
  rw [callAll] at h
  split at h
  · rename_i reply next happly
    obtain ⟨⟨more, last⟩, hrest, hlog⟩ := Option.map_eq_some_iff.mp h
    cases hlog
    exact ⟨reply, next, more, happly, hrest, rfl⟩
  · cases h

/-- All the calls were made. -/
lemma map_fst_of_callAll (h : start.callAll calls = some (log, set)) :
    log.map Prod.fst = calls := by
  induction calls generalizing start log with
  | nil =>
    cases h
    rfl
  | cons call rest ih =>
    obtain ⟨reply, next, more, -, hrest, rfl⟩ := exists_of_callAll h
    rw [List.map_cons, ih hrest]

/-- A set holds what it had and what was added, but for what was removed later. -/
lemma toList_callAll (h : start.callAll calls = some (log, set)) :
    set.toList =
      (start.toList.filter fun property => !log.removes property.name) ++ log.present := by
  induction calls generalizing start log with
  | nil =>
    cases h
    exact (List.filter_true _).symm.trans (List.append_nil _).symm
  | cons call rest ih =>
    obtain ⟨reply, next, more, happly, hrest, rfl⟩ := exists_of_callAll h
    rw [ih hrest]
    rcases PropertyCall.cases_of_apply happly with
      ⟨property, hproperty, hpush, rfl⟩ | ⟨property, error, rfl, rfl, rfl⟩ | ⟨name, rfl, rfl, rfl⟩
    · have hlog : ∀ name, PropertyLog.removes ((call, .added) :: more) name =
          more.removes name := by
        intro name
        rw [PropertyLog.removes_cons, PropertyCall.removes_of_property? hproperty, Bool.false_or]
      simp only [hlog, toList_of_push hpush, PropertyLog.present, hproperty, Option.toList_some,
        List.filter_append, List.append_assoc]
    · -- a refused call says nothing about what is present
      rfl
    · have hpresent : PropertyLog.present ((.remove name, .removed (start.get? name)) :: more) =
          more.present := rfl
      rw [toList_erase, List.filter_filter, hpresent]
      congr 1
      refine List.filter_congr fun property _ => ?_
      rw [PropertyLog.removes_cons, PropertyCall.removes, Bool.not_or, Bool.and_comm, bne, BEq.comm]

/-! ## Tables -/

/-- The columns have the names of the properties. -/
lemma names_columns (set : PropertySet) : set.columns.map Column.name = set.names := by
  rw [columns, List.map_map]
  rfl

/-- There is no column of a primary key but the one that is found. -/
lemma filter_primaryKey_columns (set : PropertySet) :
    set.columns.filter Column.primaryKey = (set.columns.find? Column.primaryKey).toList := by
  have hlength : (set.columns.filter Column.primaryKey).length ≤ 1 := by
    rw [columns, List.filter_map, List.length_map]
    exact set.primaryKeys_le_one
  rw [← List.head?_filter]
  match hkeys : set.columns.filter Column.primaryKey with
  | [] => rfl
  | [only] => rfl
  | first :: second :: rest =>
    rw [hkeys, List.length_cons, List.length_cons] at hlength
    omega

/-- The names of indexes are those of the properties that are to have one. -/
lemma indexNames_eq (set : PropertySet) :
    set.indexNames = (set.toList.filter fun property =>
      property.indexed || property.primaryKey).map Property.name := by
  have hnames : ((set.toList.filter fun property => property.indexed || property.primaryKey).map
      Property.name).Nodup := set.names_nodup.sublist (List.filter_sublist.map _)
  have hcollect := @foldl_eq_append _ [] hnames
  rw [List.foldl_map] at hcollect
  rw [indexNames, Column.indexNames, columns, List.filter_map, List.foldl_map]
  exact hcollect

/-- The columns of the table differ in name, the one that is found as its primary key is the only
one, and its indexes are those of all the properties that are to have one. -/
structure Determines (set : PropertySet) (table : Table) : Prop where
  /-- No name of a column occurs twice. -/
  names_nodup : (table.columns.map Column.name).Nodup
  /-- There is no other primary key. -/
  primaryKey_eq : table.columns.filter Column.primaryKey = table.primaryKey?.toList
  /-- No name of an index is lost. -/
  indexNames_eq : table.indexNames =
    (set.toList.filter fun property => property.indexed || property.primaryKey).map Property.name

/-- This holds of the tables that are made of the set. -/
lemma determines_of_ofProperties {table : Table} (h : Table.ofProperties name set = .ok table) :
    set.Determines table := by
  unfold Table.ofProperties at h
  split_ifs at h
  cases h
  exact ⟨set.names_columns.symm ▸ set.names_nodup, set.filter_primaryKey_columns, set.indexNames_eq⟩

/-! ## All calls -/

/-- What the calls on a set come to. -/
structure AnswersCalls (set : PropertySet) : Prop where
  /-- A property is refused for the first of the reasons that holds. -/
  refused_iff : ∀ (call : PropertyCall) (property : Property), call.property? = some property →
    ∀ error, (call.apply set).1 = .refused error ↔ set.Refuses property error
  /-- A set that refuses a property stays as it was. -/
  kept : ∀ (property : Property) (error : SchemaError),
    ((PropertyCall.push property).apply set).1 = .refused error →
      ((PropertyCall.push property).apply set).2 = some set
  /-- A property that is not refused comes last. -/
  added : ∀ (call : PropertyCall) (property : Property), call.property? = some property →
    (∀ error, ¬ set.Refuses property error) →
      ∃ next, call.apply set = (.added, some next) ∧ next.toList = set.toList ++ [property]
  /-- The property of a name is taken out of its place, and the others stay in theirs. -/
  removed : ∀ (name : String) (property : Property) (next : PropertySet),
    (PropertyCall.remove name).apply set = (.removed (some property), some next) →
      property.name = name ∧
        ∃ before after, set.toList = before ++ property :: after ∧ next.toList = before ++ after
  /-- Another property of the name, with the same key, can be added in its stead. -/
  replaced : ∀ (name : String) (property again : Property) (next : PropertySet),
    (PropertyCall.remove name).apply set = (.removed (some property), some next) →
      again.name = name → again.primaryKey = property.primaryKey →
        ∃ last, (PropertyCall.push again).apply next = (.added, some last) ∧
          last.toList = next.toList ++ [again]

/-- A property that is not refused is added by any call that is to add it. -/
lemma exists_apply_of_not_refuses {call : PropertyCall} (hcall : call.property? = some property)
    (h : ∀ error, ¬ set.Refuses property error) :
    ∃ next, call.apply set = (.added, some next) ∧ next.toList = set.toList ++ [property] := by
  obtain ⟨next, hpush⟩ := exists_push h
  exact ⟨next, PropertyCall.apply_of_push_ok hcall hpush, toList_of_push hpush⟩

/-- A call is refused just for the reasons to refuse the property that it is to add. -/
lemma apply_eq_refused_iff {call : PropertyCall} (hcall : call.property? = some property) :
    (call.apply set).1 = .refused error ↔ set.Refuses property error := by
  rw [← push_eq_error_iff]
  cases hpush : set.push property with
  | ok next =>
    rw [PropertyCall.apply_of_push_ok hcall hpush]
    exact ⟨nofun, nofun⟩
  | error reason =>
    rw [PropertyCall.apply_of_push_error hcall hpush]
    exact ⟨fun h => congrArg _ (PropertyReply.refused.inj h),
      fun h => congrArg _ (Except.error.inj h)⟩

/-- Sets answer all calls so. -/
lemma answersCalls (set : PropertySet) : set.AnswersCalls where
  refused_iff _ _ hcall _ := apply_eq_refused_iff hcall
  kept property error h := by
    rw [apply_eq_refused_iff rfl, ← push_eq_error_iff] at h
    rw [PropertyCall.apply, h]
  added _ _ hcall h := exists_apply_of_not_refuses hcall h
  removed name property next h := by
    obtain ⟨hreply, hnext⟩ := Prod.mk.inj h
    have hfound : set.get? name = some property := PropertyReply.removed.inj hreply
    obtain ⟨before, after, hlist, herase⟩ := exists_of_get? hfound
    obtain rfl := Option.some.inj hnext
    exact ⟨(get?_eq_some_iff.mp hfound).2, before, after, hlist, herase⟩
  replaced name property again next h hname hkey := by
    obtain ⟨hreply, hnext⟩ := Prod.mk.inj h
    obtain rfl := Option.some.inj hnext
    exact exists_apply_of_not_refuses rfl fun _ =>
      not_refuses_erase (PropertyReply.removed.inj hreply) hname hkey

/-- After any calls on the empty set, all names are plain and different, at most one property is the
primary key, and the properties are those that were added and not removed later, in the order in
which they were added.  A property is refused just for the first of the reasons that holds, and then
the set stays as it was; the place of one that was removed can be taken by another one of its name
with the same key.  The tables of the set have different columns and no second primary key, and an
index for every property that is to have one. -/
theorem kept_by_calls (hcalls : empty.callAll calls = some (log, set)) :
    ((∀ property ∈ set.toList, isPlainName property.name = true) ∧ set.names.Nodup ∧
      (set.toList.filter Property.primaryKey).length ≤ 1) ∧
    (log.map Prod.fst = calls ∧ set.toList = log.present) ∧
    set.AnswersCalls ∧
    (set.indexNames = (set.toList.filter fun property =>
      property.indexed || property.primaryKey).map Property.name) ∧
    ∀ name table, Table.ofProperties name set = .ok table → set.Determines table := by
  refine ⟨⟨set.names_valid, set.names_nodup, set.primaryKeys_le_one⟩,
    ⟨map_fst_of_callAll hcalls, ?_⟩, set.answersCalls, set.indexNames_eq,
    fun name table htable => determines_of_ofProperties htable⟩
  rw [toList_callAll hcalls, empty, List.filter_nil, List.nil_append]

/-- A key that is removed and added again, with properties in between that are refused. -/
def numberedCalls : List PropertyCall :=
  [.push { Property.plain "number" .number with primaryKey := true }, .push (.plain "9th" .string),
    .push (.plain "number" .string), .including (.plain "name" .string),
    .push { Property.plain "id" .number with primaryKey := true }, .remove "number", .remove "id",
    .push { Property.plain "number" .string with primaryKey := true }]

/-- The key comes last now, and there is still no other one. -/
theorem numbered_kept : ∃ log set, empty.callAll numberedCalls = some (log, set) ∧
    set.names = ["name", "number"] ∧ set.toList = log.present ∧
    set.toList.map Property.primaryKey = [false, true] ∧
    ((PropertyCall.push { Property.plain "id" .number with primaryKey := true }).apply set).1 =
      .refused (.duplicatePrimaryKey "id") := by
  have hrun : (empty.callAll numberedCalls).map (fun run =>
      (run.2.names, run.2.toList.map Property.primaryKey)) =
      some (["name", "number"], [false, true]) := by
    decide +kernel
  obtain ⟨⟨log, set⟩, hcalls, hset⟩ := Option.map_eq_some_iff.mp hrun
  obtain ⟨hnames, hkeys⟩ := Prod.mk.inj hset
  obtain ⟨-, ⟨-, hpresent⟩, hanswers, -⟩ := kept_by_calls hcalls
  have hkey : ∃ other ∈ set.toList, other.primaryKey = true :=
    List.mem_map.mp (hkeys ▸ List.mem_cons_of_mem _ List.mem_cons_self)
  obtain ⟨other, hother, hotherKey⟩ := hkey
  have hnew : set.contains "id" = false := by
    rw [Bool.eq_false_iff, Ne, contains_iff_mem_names, hnames]
    decide
  refine ⟨log, set, hcalls, hnames, hpresent, hkeys, (hanswers.refused_iff _ _ rfl _).mpr ?_⟩
  exact .primaryKey (by decide +kernel) hnew rfl hother hotherKey

end PropertySet

end DocTables
