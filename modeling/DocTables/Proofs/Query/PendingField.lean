import DocTables.Proofs.Query.Accumulation

/-!
# Fields that are named for a later comparison

A query has one place for a field that was named and is to be compared by a later call.  Naming
another field takes the place of the first one, and a comparison with a field of its own empties the
place; in both cases the first field is gone, and no rendering complains about it.

Each step moves a field into the place, from there into a comparison, or out of it without a trace
(`perm_of_call`).  So of the fields that a chain of calls names, each one is compared, replaced, or
left in the place at the end (`perm_of_callAll`); a query with a field in the place is not rendered
(`pendingField_of_render`).  Hence all of them are compared just if none is named while another one
waits (`fields_compared_iff_none_waits`).
-/

namespace DocTables

namespace QueryCall

/-! ## What calls do to the field that waits -/

/-- The field that a call names for a comparison after it. -/
def named? : QueryCall → Option String
  | .onField field => some field
  | _ => none

/-- Whether a call names a field, for a comparison after it or for its own. -/
def names : QueryCall → Bool
  | .onField _ | .compareField .. => true
  | _ => false

/-- Whether a call compares the field that was named before it. -/
def compares : QueryCall → Bool
  | .compare .. => true
  | _ => false

/-- The comparison that a call makes with the field that was named before it. -/
def compared? (pending : Option String) : QueryCall → Option Comparison
  | .compare comparator value =>
    pending.bind fun field =>
      (Operand.ofJson comparator value >>= Comparison.make field comparator).toOption
  | _ => none

/-- The field that waits and that a call takes the place of. -/
def replaced? (pending : Option String) (call : QueryCall) : Option String :=
  if call.names then pending else none

/-- The fields that the calls of a chain name for comparisons after them, in order. -/
def named (calls : List QueryCall) : List String := calls.filterMap named?

/-- The comparisons that the calls of a chain make with fields that were named before them, in
order. -/
def comparisons (pending : Option String) : List QueryCall → List Comparison
  | [] => []
  | call :: rest => (call.compared? pending).toList ++ comparisons (call.pendingAfter pending) rest

/-- The fields that were named and then replaced without a comparison, in order. -/
def replaced (pending : Option String) : List QueryCall → List String
  | [] => []
  | call :: rest => (call.replaced? pending).toList ++ replaced (call.pendingAfter pending) rest

lemma named_cons (call : QueryCall) (rest : List QueryCall) :
    named (call :: rest) = call.named?.toList ++ named rest := by
  rw [named, List.filterMap_cons]
  cases call.named? <;> rfl

/-- A comparison with a field that was named is what its call contributes. -/
lemma contributed?_of_compared? {pending : Option String} {call : QueryCall}
    {comparison : Comparison} (h : call.compared? pending = some comparison) :
    call.contributed? pending = some (.comparison comparison) := by
  cases call with
  | compare comparator value =>
    obtain ⟨field, rfl, hmake⟩ := Option.bind_eq_some_iff.mp h
    have hmade : Comparison.ofJson? field comparator value = some (.comparison comparison) := by
      rw [Comparison.ofJson?, hmake, Option.map_some]
    exact hmade
  | _ => cases h

/-- So the comparisons are among the contributions, in order. -/
lemma sublist_contributions (pending : Option String) (calls : List QueryCall) :
    ((comparisons pending calls).map Condition.comparison).Sublist
    (contributions pending calls) := by
  induction calls generalizing pending with
  | nil => exact List.Sublist.slnil
  | cons call rest ih =>
    rw [comparisons, contributions, List.map_append]
    refine List.Sublist.append ?_ (ih _)
    cases hcompared : call.compared? pending with
    | none => exact List.nil_sublist _
    | some comparison =>
      rw [contributed?_of_compared? hcompared]
      exact List.Sublist.refl _

end QueryCall

namespace Query

open QueryCall

variable {query next : Query} {call : QueryCall} {calls : List QueryCall}

/-! ## One call -/

/-- A comparison with the field that waits is made of it. -/
lemma compared?_of_compare {comparator : Comparator} {value : Json}
    (h : query.compare comparator value = .ok next) :
    ∃ comparison,
      (QueryCall.compare comparator value).compared? query.pendingField = some comparison ∧
      query.pendingField = some comparison.field := by
  obtain ⟨-, field, operand, comparison, hpending, hread, hmake, -⟩ := exists_of_compare h
  have hfield : comparison.field = field := by
    rw [(Filter.eq_of_make hmake).1]
  have hcompared : (Operand.ofJson comparator value >>= Comparison.make field comparator).toOption =
      some comparison := by
    rw [hread]
    change (Comparison.make field comparator operand).toOption = some comparison
    rw [hmake]
    rfl
  refine ⟨comparison, ?_, ?_⟩
  · rw [compared?, hpending, Option.bind_some]
    exact hcompared
  · rw [hpending, hfield]

/-- A call takes the field that waits into its comparison, replaces it, or leaves it; nothing else
becomes of it, nor of the field that the call names. -/
lemma perm_of_call (h : query.call call = .ok next) :
    ((call.compared? query.pendingField).toList.map Comparison.field ++
        (call.replaced? query.pendingField).toList ++ next.pendingField.toList).Perm
      (query.pendingField.toList ++ call.named?.toList) := by
  have hpending : next.pendingField = call.pendingAfter query.pendingField := (collects_of_call h).2
  rw [hpending]
  cases call with
  | onField field => exact List.Perm.refl _
  | compare comparator value =>
    obtain ⟨comparison, hcompared, hfield⟩ := compared?_of_compare h
    rw [hcompared, hfield]
    exact List.Perm.refl _
  | compareField field comparator value => exact List.Perm.refl _
  | _ => exact List.Perm.of_eq (List.append_nil _).symm

/-- The field that is compared was named before the one that waits afterwards. -/
lemma sublist_of_call (h : query.call call = .ok next) :
    ((call.compared? query.pendingField).toList.map Comparison.field ++
        next.pendingField.toList).Sublist (query.pendingField.toList ++ call.named?.toList) := by
  have hpending : next.pendingField = call.pendingAfter query.pendingField := (collects_of_call h).2
  rw [hpending]
  cases call with
  | onField field => exact List.sublist_append_right _ _
  | compare comparator value =>
    obtain ⟨comparison, hcompared, hfield⟩ := compared?_of_compare h
    rw [hcompared, hfield]
    exact List.Sublist.refl _
  | compareField field comparator value => exact List.nil_sublist _
  | _ => exact List.sublist_append_left _ _

/-- A call makes a comparison with the field that waits just if it is one. -/
lemma length_compared?_of_call (h : query.call call = .ok next) :
    (call.compared? query.pendingField).toList.length = if call.compares then 1 else 0 := by
  cases call with
  | compare comparator value =>
    obtain ⟨comparison, hcompared, -⟩ := compared?_of_compare h
    rw [hcompared]
    rfl
  | _ => rfl

/-! ## Chains of calls -/

/-- Of the fields that a chain of calls names, and the one that waited before it, each one is
compared, replaced, or waits in the end. -/
lemma perm_of_callAll (h : query.callAll calls = .ok next) :
    ((comparisons query.pendingField calls).map Comparison.field ++
        replaced query.pendingField calls ++ next.pendingField.toList).Perm
      (query.pendingField.toList ++ named calls) := by
  induction calls generalizing query with
  | nil =>
    cases h
    exact List.Perm.of_eq (List.append_nil _).symm
  | cons first rest ih =>
    obtain ⟨called, hcalled, hrest⟩ := exists_of_bind_eq_ok h
    have hfirst := perm_of_call hcalled
    have hothers := ih hrest
    have hpending : called.pendingField = first.pendingAfter query.pendingField :=
      (collects_of_call hcalled).2
    rw [comparisons, replaced, ← hpending, named_cons, List.map_append, List.perm_iff_count]
    intro field
    have hcount := hfirst.count_eq field
    have hcounts := hothers.count_eq field
    simp only [List.count_append] at hcount hcounts ⊢
    omega

/-- The fields are compared in the order in which they were named. -/
lemma sublist_of_callAll (h : query.callAll calls = .ok next) :
    ((comparisons query.pendingField calls).map Comparison.field).Sublist
      (query.pendingField.toList ++ named calls) := by
  induction calls generalizing query with
  | nil => exact List.nil_sublist _
  | cons first rest ih =>
    obtain ⟨called, hcalled, hrest⟩ := exists_of_bind_eq_ok h
    have hfirst := sublist_of_call hcalled
    have hpending : called.pendingField = first.pendingAfter query.pendingField :=
      (collects_of_call hcalled).2
    have hothers := (List.Sublist.refl
      ((first.compared? query.pendingField).toList.map Comparison.field)).append (ih hrest)
    rw [comparisons, ← hpending, named_cons, List.map_append]
    refine hothers.trans ?_
    rw [← List.append_assoc, ← List.append_assoc]
    exact hfirst.append (List.Sublist.refl _)

/-- There are as many comparisons with fields that were named as there are calls that make one. -/
lemma length_comparisons_of_callAll (h : query.callAll calls = .ok next) :
    (comparisons query.pendingField calls).length = calls.countP compares := by
  induction calls generalizing query with
  | nil => rfl
  | cons first rest ih =>
    obtain ⟨called, hcalled, hrest⟩ := exists_of_bind_eq_ok h
    have hfirst := length_compared?_of_call hcalled
    have hpending : called.pendingField = first.pendingAfter query.pendingField :=
      (collects_of_call hcalled).2
    rw [comparisons, ← hpending, List.length_append, hfirst, ih hrest, List.countP_cons,
      Nat.add_comm]

/-- Nothing is replaced just if no field is named while another one waits. -/
lemma replaced_eq_nil_iff (h : query.callAll calls = .ok next) :
    replaced query.pendingField calls = [] ↔
      ∀ before call after reached, calls = before ++ call :: after →
        query.callAll before = .ok reached → call.names = true → reached.pendingField = none := by
  induction calls generalizing query with
  | nil =>
    refine ⟨fun _ before call after reached hsplit => ?_, fun _ => rfl⟩
    exact absurd hsplit.symm (List.append_ne_nil_of_right_ne_nil _ (List.cons_ne_nil _ _))
  | cons first rest ih =>
    obtain ⟨called, hcalled, hrest⟩ := exists_of_bind_eq_ok h
    have hpending : called.pendingField = first.pendingAfter query.pendingField :=
      (collects_of_call hcalled).2
    have hothers := ih hrest
    have hfirst : (first.replaced? query.pendingField).toList = [] ↔
        (first.names = true → query.pendingField = none) := by
      unfold replaced?
      cases first.names <;> simp
    rw [replaced, ← hpending, List.append_eq_nil_iff, hfirst, hothers]
    constructor
    · rintro ⟨hnow, hlater⟩ before call after reached hsplit hreached hnames
      cases before with
      | nil =>
        obtain ⟨rfl, rfl⟩ := List.cons.inj hsplit
        cases hreached
        exact hnow hnames
      | cons earlier others =>
        obtain ⟨rfl, rfl⟩ := List.cons.inj hsplit
        obtain ⟨called', hcalled', hreached⟩ := exists_of_bind_eq_ok hreached
        obtain rfl : called = called' := Except.ok.inj (hcalled.symm.trans hcalled')
        exact hlater others call after reached rfl hreached hnames
    · intro hall
      refine ⟨fun hnames => hall [] first rest query rfl rfl hnames, ?_⟩
      intro before call after reached hsplit hreached hnames
      have hthere : query.callAll (first :: before) = .ok reached := by
        rw [callAll, hcalled]
        exact hreached
      exact hall (first :: before) call after reached
        (by rw [hsplit, List.cons_append]) hthere hnames

/-- A query with a field that waits does not pass the check of its clauses. -/
lemma pendingField_of_requireExpressible {result : Unit}
    (h : query.requireExpressible = .ok result) :
    query.pendingField = none := by
  unfold requireExpressible at h
  split at h
  · cases h
  · assumption

/-- So it is not rendered. -/
lemma pendingField_of_render {sql : String} (h : query.render = .ok sql) :
    query.pendingField = none := by
  obtain ⟨statement, hstatement, -⟩ := exists_of_map_eq_ok h
  unfold Query.statement at hstatement
  obtain ⟨_, hexpressible, -⟩ := exists_of_bind_eq_ok hstatement
  rw [← pendingField_finalize]
  exact pendingField_of_requireExpressible hexpressible

/-! ## Queries that are rendered -/

/-- A comparison of a field that was named, with one of a field of its own after it. -/
def comparedInTurn : List QueryCall :=
  [.onField "age", .compare .gt (.number (.int 20)), .compareField "name" .eq (.string "Ada"),
    .onField "city", .limit (.number (.int 5)), .compare .ne .null]

/-- A removal for which two fields are named, and compared once. -/
def namedTwice : List QueryCall :=
  [.remove (.object []), .onField "age", .onField "name", .compare .eq (.string "Ada")]

/-- A removal for which a field is named before another one is compared. -/
def comparedBetween : List QueryCall :=
  [.remove (.object []), .onField "age", .compareField "name" .eq (.string "Ada")]

/-- When a query is rendered, each field that its calls named was compared or replaced, and the
comparisons, one for each call that makes one, are part of its condition.  There are as many of them
as fields that were named just if no field was named, for a later comparison or for its own, while
another one waited; and then they compare all these fields in turn. -/
theorem fields_compared_iff_none_waits {table sql : String} {start query : Query}
    {calls : List QueryCall} (hstart : ofTable table = .ok start)
    (hcalls : start.callAll calls = .ok query) (hrender : query.render = .ok sql) :
    ((comparisons none calls).map Comparison.field ++ replaced none calls).Perm (named calls) ∧
    (comparisons none calls).length = calls.countP compares ∧
    ((comparisons none calls).map Condition.comparison).Sublist (contributions none calls) ∧
    ((comparisons none calls).length = (named calls).length ↔
      ∀ before call after reached, calls = before ++ call :: after →
        start.callAll before = .ok reached → call.names = true → reached.pendingField = none) ∧
    ((comparisons none calls).length = (named calls).length ↔
      (comparisons none calls).map Comparison.field = named calls) := by
  have hnone : start.pendingField = none := (start_of_ofTable hstart).2
  have hperm : ((comparisons none calls).map Comparison.field ++ replaced none calls).Perm
      (named calls) := by
    have hall := perm_of_callAll hcalls
    rw [hnone, pendingField_of_render hrender] at hall
    simpa using hall
  have hlength : (comparisons none calls).length + (replaced none calls).length =
      (named calls).length := by
    rw [← hperm.length_eq, List.length_append, List.length_map]
  have hreplaced : (comparisons none calls).length = (named calls).length ↔
      replaced none calls = [] := by
    rw [← List.length_eq_zero_iff]
    omega
  have hwaits := replaced_eq_nil_iff hcalls
  have hcount := length_comparisons_of_callAll hcalls
  have hinOrder := sublist_of_callAll hcalls
  rw [hnone] at hwaits hcount hinOrder
  refine ⟨hperm, hcount, sublist_contributions none calls, hreplaced.trans hwaits, ?_⟩
  constructor
  · intro hsame
    exact hinOrder.eq_of_length (by rw [List.length_map, hsame]; rfl)
  · intro hsame
    rw [← hsame, List.length_map]

/-- A comparison of another field before or after, but not in between, leaves the fields that were
named to be compared: those of the age and of the city. -/
theorem age_and_city_compared : ∃ start query sql, ofTable "people" = .ok start ∧
    start.callAll comparedInTurn = .ok query ∧ query.render = .ok sql ∧
    sql = "SELECT * FROM people WHERE " ++
      "(age > 20 AND name = \x27Ada\x27 AND city IS NOT NULL) LIMIT 5" ∧
    (comparisons none comparedInTurn).map Comparison.field = named comparedInTurn := by
  have hrun : Except.toOption (do
      let start ← ofTable "people"
      let query ← start.callAll comparedInTurn
      query.render) =
        some ("SELECT * FROM people WHERE " ++
          "(age > 20 AND name = \x27Ada\x27 AND city IS NOT NULL) LIMIT 5") := by
    decide +kernel
  obtain ⟨start, hstart, hrun⟩ := exists_of_bind_eq_ok (eq_ok_of_toOption hrun)
  obtain ⟨query, hcalls, hrender⟩ := exists_of_bind_eq_ok hrun
  obtain ⟨-, hcount, -, -, hinOrder⟩ := fields_compared_iff_none_waits hstart hcalls hrender
  exact ⟨start, query, _, hstart, hcalls, hrender, rfl, hinOrder.mp hcount⟩

/-- Two removals of which one names two fields and compares one, and the other compares a field of
its own while a named one waits.  Both are rendered, with one comparison of the name; nothing is
left of the age. -/
theorem age_forgotten : (∃ start query, ofTable "people" = .ok start ∧
      start.callAll namedTwice = .ok query ∧
      query.render = .ok "DELETE FROM people WHERE (name = \x27Ada\x27)" ∧
      named namedTwice = ["age", "name"] ∧
      (comparisons none namedTwice).map Comparison.field = ["name"]) ∧
    ∃ start query, ofTable "people" = .ok start ∧ start.callAll comparedBetween = .ok query ∧
      query.render = .ok "DELETE FROM people WHERE (name = \x27Ada\x27)" ∧
      named comparedBetween = ["age"] ∧ comparisons none comparedBetween = [] := by
  have hruns : ∀ calls ∈ [namedTwice, comparedBetween], Except.toOption (do
      let start ← ofTable "people"
      let query ← start.callAll calls
      query.render) = some "DELETE FROM people WHERE (name = \x27Ada\x27)" := by
    decide +kernel
  have hrendered : ∀ calls ∈ [namedTwice, comparedBetween], ∃ start query,
      ofTable "people" = .ok start ∧ start.callAll calls = .ok query ∧
        query.render = .ok "DELETE FROM people WHERE (name = \x27Ada\x27)" := by
    intro calls hcalls
    obtain ⟨start, hstart, hrun⟩ := exists_of_bind_eq_ok (eq_ok_of_toOption (hruns calls hcalls))
    obtain ⟨query, hcalled, hrender⟩ := exists_of_bind_eq_ok hrun
    exact ⟨start, query, hstart, hcalled, hrender⟩
  constructor
  · obtain ⟨start, query, hstart, hcalled, hrender⟩ := hrendered _ List.mem_cons_self
    exact ⟨start, query, hstart, hcalled, hrender, rfl, by decide +kernel⟩
  · obtain ⟨start, query, hstart, hcalled, hrender⟩ :=
      hrendered _ (List.mem_cons_of_mem _ List.mem_cons_self)
    exact ⟨start, query, hstart, hcalled, hrender, rfl, rfl⟩

end Query

end DocTables
