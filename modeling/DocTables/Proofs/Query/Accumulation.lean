import DocTables.Proofs.Query.Finalization
import DocTables.Proofs.Query.Meaning

/-!
# Conditions accumulate

What a call contributes to the conditions of a query can be read off the call, given the field that
was named before it (`QueryCall.contributed?`).  A chain of calls collects just what its calls
contribute, in order: the condition is the flat AND group of all contributions
(`Condition.conjunction`), whatever other calls stand between them.  In particular a call that
changes the verb keeps the conditions, so a removal or a change never takes in more rows than the
calls before it allowed.
-/

namespace DocTables

/-! ## Conjunctions -/

namespace Truth

lemma and_assoc (first second third : Truth) :
    (first.and second).and third = first.and (second.and third) := by
  cases first <;> cases second <;> cases third <;> rfl

@[simp] lemma yes_and (truth : Truth) : Truth.yes.and truth = truth := by cases truth <;> rfl

end Truth

/-- The conjunction of two lists of truth values is that of their conjunctions. -/
lemma Connective.join_and_append (first second : List Truth) :
    Connective.and.join (first ++ second) =
      (Connective.and.join first).and (Connective.and.join second) := by
  induction first with
  | nil => exact (Truth.yes_and _).symm
  | cons truth rest ih =>
    have hcons : ∀ values, Connective.and.join (truth :: values) =
        truth.and (Connective.and.join values) := fun _ => rfl
    rw [List.cons_append, hcons, hcons, ih, Truth.and_assoc]

namespace Condition

variable {valuation : Valuation} {condition first second third : Condition}
  {conditions : List Condition}

/-- All conditions of a list together: none, the only one, or the flat AND group of all of them. -/
def conjunction : List Condition → Option Condition
  | [] => none
  | [only] => some only
  | conditions => some (.group .and (conditions.flatMap conjuncts))

/-- What a query's condition becomes when a call contributes one, or none. -/
def extended : Option Condition → Option Condition → Option Condition
  | present, none => present
  | none, some contributed => some contributed
  | some present, some contributed => some (present.and contributed)

/-- What two conditions join is joined by both together. -/
lemma conjuncts_and (first second : Condition) :
    (first.and second).conjuncts = first.conjuncts ++ second.conjuncts := rfl

/-- Joining is associative: the groups are flat. -/
lemma and_assoc (first second third : Condition) :
    (first.and second).and third = first.and (second.and third) := by
  have hmembers : (first.and second).conjuncts ++ third.conjuncts =
      first.conjuncts ++ (second.and third).conjuncts := by
    rw [conjuncts_and, conjuncts_and, List.append_assoc]
  exact congrArg (Condition.group .and) hmembers

/-- A further condition extends the conjunction. -/
lemma conjunction_append (conditions : List Condition) (contributed : Option Condition) :
    conjunction (conditions ++ contributed.toList) =
      extended (conjunction conditions) contributed := by
  cases contributed with
  | none =>
    rw [Option.toList_none, List.append_nil]
    cases conjunction conditions <;> rfl
  | some condition =>
    rw [Option.toList_some]
    match conditions with
    | [] => rfl
    | [only] => simp [conjunction, extended, and]
    | first :: second :: rest => simp [conjunction, extended, and, conjuncts]

/-! ### Truth -/

lemma evals_eq_map (valuation : Valuation) (conditions : List Condition) :
    evals valuation conditions = conditions.map (eval valuation) := by
  induction conditions with
  | nil => rfl
  | cons first rest ih => rw [evals, List.map_cons, ih]

/-- A condition is the conjunction of what it joins. -/
lemma join_conjuncts (valuation : Valuation) (condition : Condition) :
    Connective.and.join (condition.conjuncts.map (eval valuation)) = condition.eval valuation := by
  have halone : Connective.and.join ([condition].map (eval valuation)) = condition.eval valuation :=
    Connective.and.join_singleton _
  cases condition with
  | comparison c => exact halone
  | group connective members =>
    cases connective with
    | and => rw [eval, evals_eq_map, conjuncts]
    | or => exact halone

/-- What several conditions join is true together just if they are. -/
lemma join_flatMap_conjuncts (valuation : Valuation) (conditions : List Condition) :
    Connective.and.join ((conditions.flatMap conjuncts).map (eval valuation)) =
      Connective.and.join (conditions.map (eval valuation)) := by
  induction conditions with
  | nil => rfl
  | cons first rest ih =>
    rw [List.flatMap_cons, List.map_append, Connective.join_and_append, ih, join_conjuncts,
      List.map_cons]
    rfl

/-- The conjunction of conditions has the truth of all of them together. -/
lemma eval_of_conjunction (h : conjunction conditions = some condition) (valuation : Valuation) :
    condition.eval valuation = Connective.and.join (conditions.map (eval valuation)) := by
  match conditions, h with
  | [only], h =>
    cases h
    exact (Connective.and.join_singleton _).symm
  | first :: second :: rest, h =>
    cases h
    rw [eval, evals_eq_map, join_flatMap_conjuncts]

end Condition

/-! ## Contributions -/

/-- The condition of a filter document, if it has one. -/
def Filter.condition? (document : Json) : Option Condition := (compile document).toOption.join

/-- The comparison of a field with a document's value, if it can be made. -/
def Comparison.ofJson? (field : String) (comparator : Comparator) (value : Json) :
    Option Condition :=
  (Operand.ofJson comparator value >>= make field comparator).toOption.map .comparison

namespace QueryCall

/-- The condition that a call contributes, given the field that was named before it. -/
def contributed? (pending : Option String) : QueryCall → Option Condition
  | .find document | .findOne document | .remove document | .count document | .filter document
  | .update document _ | .distinct _ document => Filter.condition? document
  | .findById id => Filter.condition? (.object [("id", id)])
  | .compare comparator value => pending.bind fun field => Comparison.ofJson? field comparator value
  | .compareField field comparator value => Comparison.ofJson? field comparator value
  | _ => none

/-- The field that is named and not yet compared after a call. -/
def pendingAfter (pending : Option String) : QueryCall → Option String
  | .onField field => some field
  | .compare .. | .compareField .. => none
  | _ => pending

/-- The conditions that the calls of a chain contribute, in order. -/
def contributions (pending : Option String) : List QueryCall → List Condition
  | [] => []
  | call :: rest =>
    (call.contributed? pending).toList ++ contributions (call.pendingAfter pending) rest

end QueryCall

namespace Query

variable {query next : Query} {call : QueryCall} {calls : List QueryCall}

/-- A query collects a condition, or none, and is left with a field that was named, or with none. -/
abbrev Collects (query : Query) (contributed : Option Condition) (pending : Option String)
    (next : Query) : Prop :=
  next.condition = Condition.extended query.condition contributed ∧ next.pendingField = pending

/-- A query that keeps its condition collects none. -/
lemma collects_none (hcondition : next.condition = query.condition)
    (hpending : next.pendingField = query.pendingField) :
    Collects query none query.pendingField next := by
  refine ⟨?_, hpending⟩
  rw [hcondition]
  cases query.condition <;> rfl

/-- Adding a condition is collecting it. -/
lemma condition_collect (query : Query) (condition : Option Condition) :
    (query.collect condition).condition = Condition.extended query.condition condition := by
  unfold collect addCondition
  cases condition <;> cases query.condition <;> rfl

lemma pendingField_collect (query : Query) (condition : Option Condition) :
    (query.collect condition).pendingField = query.pendingField := by
  cases condition <;> rfl

/-- The document of a call is what the call contributes. -/
lemma Prepares.contributes {document : Json} {prepared : Query}
    (h : Prepares query call document prepared) (pending : Option String) :
    call.contributed? pending = Filter.condition? document ∧
      call.pendingAfter pending = pending := by
  cases h <;> exact ⟨rfl, rfl⟩

/-- A comparison that is made is contributed, and no field waits after it. -/
lemma collects_compared {field : String} {comparator : Comparator} {value : Json}
    {operand : Operand} {comparison : Comparison}
    (hread : Operand.ofJson comparator value = .ok operand)
    (hmake : Comparison.make field comparator operand = .ok comparison) :
    Collects query (Comparison.ofJson? field comparator value) none
      ({ query with pendingField := none }.addCondition (.comparison comparison)) := by
  have hcontributed : Comparison.ofJson? field comparator value =
      some (.comparison comparison) := by
    rw [Comparison.ofJson?, hread]
    change (Comparison.make field comparator operand).toOption.map _ = _
    rw [hmake]
    rfl
  rw [hcontributed]
  exact ⟨condition_collect { query with pendingField := none } (some _), rfl⟩

/-- Every call that is not refused contributes what can be read off it, and nothing that was
collected before is lost. -/
lemma collects_of_call (h : query.call call = .ok next) :
    Collects query (call.contributed? query.pendingField) (call.pendingAfter query.pendingField)
      next := by
  cases effect_of_call h with
  | @document call document prepared condition hopen hprepares hcompile =>
    obtain ⟨hcontributed, hafter⟩ := hprepares.contributes query.pendingField
    obtain ⟨hcondition, hpending, -⟩ := hprepares.conditions_eq
    have hread : Filter.condition? document = condition := by
      rw [Filter.condition?, hcompile]
      rfl
    rw [hcontributed, hafter, hread]
    refine ⟨?_, ?_⟩
    · rw [condition_collect, hcondition]
    · rw [pendingField_collect, hpending]
  | onField => exact ⟨(collects_none rfl rfl).1, rfl⟩
  | compare _ hpending hread hmake =>
    rw [QueryCall.contributed?, hpending, Option.bind_some]
    exact collects_compared hread hmake
  | compareField _ _ hread hmake => exact collects_compared hread hmake
  | finalize => exact collects_none query.condition_finalize query.pendingField_finalize
  | _ => exact collects_none rfl rfl

/-- A chain of calls that is not refused extends the conjunction of what was collected before by
what its calls contribute. -/
lemma condition_of_callAll {collected : List Condition}
    (hcollected : query.condition = Condition.conjunction collected)
    (h : query.callAll calls = .ok next) :
    next.condition = Condition.conjunction
      (collected ++ QueryCall.contributions query.pendingField calls) := by
  induction calls generalizing query collected with
  | nil =>
    cases h
    rw [QueryCall.contributions, List.append_nil, hcollected]
  | cons first rest ih =>
    obtain ⟨called, hcalled, hrest⟩ := exists_of_bind_eq_ok h
    obtain ⟨hcondition, hpending⟩ := collects_of_call hcalled
    rw [hcollected, ← Condition.conjunction_append] at hcondition
    rw [ih hcondition hrest, hpending, QueryCall.contributions, List.append_assoc]

/-- A query starts without a condition, and without a field that was named. -/
lemma start_of_ofTable {table : String} (h : ofTable table = .ok query) :
    query.condition = none ∧ query.pendingField = none := by
  obtain ⟨-, rfl⟩ := eq_of_ofTable h
  exact ⟨rfl, rfl⟩

/-- A search for some people, some calls about a city and the order, and the removal of some of
them. -/
def keptByRemove : List QueryCall :=
  [.find (.object [("age", .object [("$gt", .number (.int 20))]), ("name", .string "Ada")]),
    .limit (.number (.int 5)), .onField "city", .compare .eq (.string "Bern"), .orderBy "name",
    .remove (.object [("$or", .array [.object [("a", .null)], .object [("b", .null)]])])]

/-- After any chain of calls that is not refused, the condition of the query is the conjunction of
all conditions that the calls contribute, in order and flat; it is true just as far as all of them
are, under every valuation of the comparisons.  Joining is associative, so nothing depends on how
the conditions were put together. -/
theorem condition_eq_conjunction {table : String} {start query : Query} {calls : List QueryCall}
    (hstart : ofTable table = .ok start) (hcalls : start.callAll calls = .ok query) :
    query.condition = Condition.conjunction (QueryCall.contributions none calls) ∧
    (∀ condition, query.condition = some condition → ∀ valuation,
      condition.eval valuation = Connective.and.join
        ((QueryCall.contributions none calls).map (Condition.eval valuation))) ∧
    ∀ first second third : Condition,
      (first.and second).and third = first.and (second.and third) := by
  obtain ⟨hnone, hpending⟩ := start_of_ofTable hstart
  have hcondition : query.condition =
      Condition.conjunction (QueryCall.contributions none calls) := by
    have hcollected : start.condition = Condition.conjunction [] := hnone
    rw [condition_of_callAll hcollected hcalls, hpending, List.nil_append]
  refine ⟨hcondition, fun condition hsome valuation => ?_, Condition.and_assoc⟩
  rw [hcondition] at hsome
  exact Condition.eval_of_conjunction hsome valuation

/-- A removal after a search takes in only the records that the conditions of both describe,
whatever else was called in between; the AND group of the search takes the other conditions in, the
OR group of the removal does not. -/
theorem conditions_kept_by_remove : ∃ start query, ofTable "people" = .ok start ∧
    start.callAll keptByRemove = .ok query ∧ query.verb = .delete ∧
    (QueryCall.contributions none keptByRemove).map Condition.clause =
      ["(age > 20 AND name = \x27Ada\x27)", "(city = \x27Bern\x27)", "(a IS NULL OR b IS NULL)"] ∧
    query.condition.map Condition.clause =
      some ("(age > 20 AND name = \x27Ada\x27 AND city = \x27Bern\x27 AND " ++
        "(a IS NULL OR b IS NULL))") := by
  have hrun : Except.toOption (do
      let start ← ofTable "people"
      let query ← start.callAll keptByRemove
      return query.verb) = some .delete := by
    decide +kernel
  obtain ⟨start, hstart, hrun⟩ := exists_of_bind_eq_ok (eq_ok_of_toOption hrun)
  obtain ⟨query, hcalls, hrun⟩ := exists_of_bind_eq_ok hrun
  refine ⟨start, query, hstart, hcalls, Except.ok.inj hrun, by decide +kernel, ?_⟩
  rw [(condition_eq_conjunction hstart hcalls).1]
  decide +kernel

end Query

end DocTables
