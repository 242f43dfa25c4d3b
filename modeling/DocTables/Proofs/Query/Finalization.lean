import DocTables.Proofs.Query.Edits
import Mathlib.Logic.Function.Iterate

/-!
# Queries whose conditions are fixed

A query is finalized by the call of that name and by every rendering, also by one that is refused.
What was fixed then is the condition that the query had, and it stays so: calls that are about
conditions are refused from then on, and all other calls neither read nor write what belongs to the
conditions (`call_withConditionsOf`).  The second fact says more than that they leave it alone: they
do the same whatever the conditions are, so it makes no difference whether a query is finalized
before or after them (`finalize_call`).
-/

namespace DocTables

/-! ## Calls that are about conditions -/

/-- Whether a call is about the conditions of a query: it adds one, or names the field of the next
one. -/
def QueryCall.isConditional : QueryCall → Bool
  | .find _ | .findOne _ | .findById _ | .update .. | .remove _ | .count _ | .distinct ..
  | .filter _ | .onField _ | .compare .. | .compareField .. => true
  | .select _ | .insert _ | .insertMany _ | .limit _ | .offset _ | .sort _ | .orderBy _
  | .finalize => false

/-- Whether the arguments of a call pass the checks that are made before its conditions are looked
at: assignments must be a document whose keys are plain names, and the field whose different values
are read must be a column path. -/
def QueryCall.ArgumentsPass : QueryCall → Prop
  | .update _ assignments => ∃ entries, assignments = .object entries ∧
      ∀ name ∈ Json.Fields.names entries, isPlainName name = true
  | .distinct field _ => isColumnPath field = true
  | _ => True

namespace Query

variable {query next : Query} {call : QueryCall} {calls : List QueryCall}

lemma filter_of_finalized (query : Query) (h : query.finalized = true) (document : Json) :
    query.filter document = .error (.invalid .finalized) := by
  unfold Query.filter requireOpen
  rw [if_pos h]
  rfl

lemma onField_of_finalized (h : query.finalized = true) (field : String) :
    query.onField field = .error (.invalid .finalized) := by
  unfold Query.onField requireOpen
  rw [if_pos h]
  rfl

lemma compare_of_finalized (h : query.finalized = true) (comparator : Comparator) (value : Json) :
    query.compare comparator value = .error (.invalid .finalized) := by
  unfold Query.compare requireOpen
  rw [if_pos h]
  rfl

lemma findOne_of_finalized (h : query.finalized = true) (document : Json) :
    query.findOne document = .error (.invalid .finalized) := by
  unfold Query.findOne Query.find
  rw [filter_of_finalized { query with verb := .select, extent := .all } h]
  rfl

/-- Once a query is finalized, every call that is about conditions is refused for this reason. -/
lemma call_of_finalized (h : query.finalized = true) (hconditional : call.isConditional = true)
    (hpass : call.ArgumentsPass) : query.call call = .error (.invalid .finalized) := by
  cases call with
  | find document =>
    exact filter_of_finalized { query with verb := .select, extent := .all } h document
  | findOne document => exact findOne_of_finalized h document
  | findById id => exact findOne_of_finalized h _
  | update document assignments =>
    obtain ⟨entries, rfl, hnames⟩ := hpass
    rw [Query.call, Query.update, requireColumns_eq_ok_iff.mpr hnames]
    exact filter_of_finalized { query with verb := .update, assignments := _ } h document
  | remove document => exact filter_of_finalized { query with verb := .delete } h document
  | count document => exact filter_of_finalized { query with verb := .count } h document
  | distinct field document =>
    have hpath : isColumnPath field = true := hpass
    rw [Query.call, Query.distinct, if_pos hpath]
    exact filter_of_finalized { query with verb := .distinct, extent := .all, columns := [field] } h
      document
  | filter document => exact filter_of_finalized query h document
  | onField field => exact onField_of_finalized h field
  | compare comparator value => exact compare_of_finalized h comparator value
  | compareField field comparator value =>
    rw [Query.call, Query.compareField, onField_of_finalized h]
    rfl
  | _ => cases hconditional

/-! ## All other calls

Such a call reads and writes one part of a query, so it does the same after a change of the
others. -/

section Elsewhere

variable (change : Query → Query)

/-- A selection of columns does the same in a query that was changed elsewhere. -/
lemma select_change
    (hcolumn : ∀ query column, change { query with columns := query.columns ++ [column] } =
      { change query with columns := (change query).columns ++ [column] })
    (query : Query) (columns : List String) :
    (change query).select columns = (query.select columns).map change := by
  induction columns generalizing query with
  | nil => rfl
  | cons column rest ih =>
    rw [Query.select, Query.select]
    split
    · exact ih query
    · split
      · rw [← hcolumn]
        exact ih { query with columns := query.columns ++ [column] }
      · rfl

/-- So does an insertion. -/
lemma insertMany_change
    (hrows : ∀ query rows, change { query with verb := .insert, rows := rows } =
      { change query with verb := .insert, rows := rows })
    (query : Query) (documents : List Json) :
    (change query).insertMany documents = (query.insertMany documents).map change := by
  unfold Query.insertMany
  split
  · rfl
  · cases documentRows documents with
    | error reason => rfl
    | ok rows => exact congrArg Except.ok (hrows query rows).symm

/-- So does a limit. -/
lemma setLimit_change
    (hlimit : ∀ query n, change { query with limit := some n } =
      { change query with limit := some n })
    (query : Query) (value : Json) :
    (change query).setLimit value = change (query.setLimit value) := by
  unfold Query.setLimit
  split
  · exact (hlimit query _).symm
  · rfl

/-- So does an offset. -/
lemma setOffset_change
    (hoffset : ∀ query n, change { query with offset := some n } =
      { change query with offset := some n })
    (query : Query) (value : Json) :
    (change query).setOffset value = change (query.setOffset value) := by
  unfold Query.setOffset
  split
  · exact (hoffset query _).symm
  · rfl

/-! ### Orders -/

variable (horder : ∀ query term, change { query with order := query.order ++ [term] } =
  { change query with order := (change query).order ++ [term] })

include horder

/-- Terms are added to the order of a query that was changed elsewhere as to that of any other. -/
lemma addOrder_change (query : Query) (terms : List OrderTerm) :
    (change query).addOrder terms = (query.addOrder terms).map change := by
  induction terms generalizing query with
  | nil => rfl
  | cons term rest ih =>
    rw [Query.addOrder, Query.addOrder]
    split
    · rw [← horder]
      exact ih { query with order := query.order ++ [term] }
    · rfl

lemma addOrderNames_change (query : Query) (names : List Json) :
    (change query).addOrderNames names = (query.addOrderNames names).map change := by
  induction names generalizing query with
  | nil => rfl
  | cons name rest ih =>
    cases name with
    | string field =>
      rw [Query.addOrderNames, Query.addOrderNames, addOrder_change change horder]
      cases query.addOrder [.ofSpec field] with
      | error reason => rfl
      | ok ordered => exact ih ordered
    | _ => rfl

lemma sort_change (query : Query) (spec : Json) :
    (change query).sort spec = (query.sort spec).map change := by
  cases spec with
  | string fields => exact addOrder_change change horder query _
  | array names => exact addOrderNames_change change horder query names
  | object fields => exact addOrder_change change horder query _
  | _ => rfl

end Elsewhere

/-- A query with the conditions of another one, and with all that belongs to them. -/
def withConditionsOf (query other : Query) : Query :=
  { query with
    condition := other.condition
    pendingField := other.pendingField
    whereClause := other.whereClause
    finalized := other.finalized }

/-- A call that is not about conditions, and does not fix them, does the same whatever the
conditions are. -/
lemma call_withConditionsOf (query other : Query) (h : call.isConditional = false)
    (hcall : call ≠ .finalize) :
    (query.withConditionsOf other).call call =
      (query.call call).map (·.withConditionsOf other) := by
  cases call with
  | select columns => exact select_change (·.withConditionsOf other) (fun _ _ => rfl) query columns
  | insert document =>
    exact insertMany_change (·.withConditionsOf other) (fun _ _ => rfl) query [document]
  | insertMany documents =>
    exact insertMany_change (·.withConditionsOf other) (fun _ _ => rfl) query documents
  | limit value =>
    exact congrArg Except.ok
      (setLimit_change (·.withConditionsOf other) (fun _ _ => rfl) query value)
  | offset value =>
    exact congrArg Except.ok
      (setOffset_change (·.withConditionsOf other) (fun _ _ => rfl) query value)
  | sort spec => exact sort_change (·.withConditionsOf other) (fun _ _ => rfl) query spec
  | orderBy spec => exact addOrder_change (·.withConditionsOf other) (fun _ _ => rfl) query _
  | finalize => exact absurd rfl hcall
  | _ => cases h

/-- Such a call leaves the conditions as they were. -/
lemma withConditionsOf_of_call (h : call.isConditional = false) (hfinalize : call ≠ .finalize)
    (hcall : query.call call = .ok next) : next.withConditionsOf query = next := by
  have hsame : query.call call = (query.call call).map (·.withConditionsOf query) :=
    call_withConditionsOf query query h hfinalize
  rw [hcall] at hsame
  exact (Except.ok.inj hsame).symm

/-! ## Finalization -/

/-- Fixing the conditions changes nothing but what belongs to them. -/
lemma withConditionsOf_finalize (query : Query) :
    query.withConditionsOf query.finalize = query.finalize := by
  rw [finalize_eq]
  rfl

/-- What finalization makes of a query depends on its conditions alone. -/
lemma finalize_withConditionsOf (query other : Query) :
    (query.withConditionsOf other).finalize = query.withConditionsOf other.finalize := by
  rw [finalize_eq, finalize_eq]
  rfl

/-- Only the first finalization counts. -/
lemma finalize_of_finalized (h : query.finalized = true) : query.finalize = query := if_pos h

/-- A call that is not about conditions can be made before the query is finalized or after it. -/
lemma finalize_call (query : Query) (h : call.isConditional = false) :
    query.finalize.call call = (query.call call).map finalize := by
  by_cases hfinalize : call = .finalize
  · subst hfinalize
    rfl
  · rw [← withConditionsOf_finalize query, call_withConditionsOf _ _ h hfinalize]
    cases hcall : query.call call with
    | error reason => rfl
    | ok next =>
      have hnext := withConditionsOf_of_call h hfinalize hcall
      refine congrArg Except.ok ?_
      rw [← hnext, finalize_withConditionsOf]
      rfl

/-- So can a chain of such calls. -/
lemma finalize_callAll (query : Query) (h : ∀ call ∈ calls, call.isConditional = false) :
    query.finalize.callAll calls = (query.callAll calls).map finalize := by
  induction calls generalizing query with
  | nil => rfl
  | cons first rest ih =>
    obtain ⟨hfirst, hrest⟩ := List.forall_mem_cons.mp h
    rw [callAll, callAll, finalize_call query hfirst]
    cases query.call first with
    | error reason => rfl
    | ok called => exact ih called hrest

/-- A query is rendered to the same text whether or not it was finalized before. -/
lemma render_finalize (query : Query) : query.finalize.render = query.render := by
  unfold Query.render
  rw [finalize_of_finalized query.finalized_finalize]

/-! ## Queries that are kept -/

/-- What can happen to a query: a call that is not refused, or a rendering, whatever comes of it. -/
inductive Step (query : Query) : Query → Prop
  /-- A call is made. -/
  | call {call : QueryCall} {next : Query} (h : query.call call = .ok next) : Step query next
  /-- The query is rendered, or an attempt is made. -/
  | rendering : Step query query.rendering.2

/-- A chain of calls and renderings. -/
abbrev Steps : Query → Query → Prop := Relation.ReflTransGen Step

/-- The query comes about from the query on a whole table by calls and renderings. -/
def Reachable (table : String) (query : Query) : Prop :=
  ∃ start, ofTable table = .ok start ∧ Steps start query

/-- Every step is a chain of edits. -/
lemma Step.edits (h : Step query next) : Edits query next := by
  cases h with
  | call hcall => exact edits_of_call hcall
  | rendering => exact .single .finalize

/-- So is every chain of steps. -/
lemma edits_of_steps (h : Steps query next) : Edits query next := by
  induction h with
  | refl => exact .refl
  | tail _ hstep ih => exact ih.trans hstep.edits

/-- A chain of calls that is not refused is a chain of steps. -/
lemma steps_of_callAll (h : query.callAll calls = .ok next) : Steps query next := by
  induction calls generalizing query with
  | nil =>
    cases h
    exact .refl
  | cons first rest ih =>
    obtain ⟨called, hcalled, hrest⟩ := exists_of_bind_eq_ok h
    exact .head (.call hcalled) (ih hrest)

/-- What comes about by one more step comes about. -/
lemma Reachable.tail {table : String} (h : Reachable table query) (hstep : Step query next) :
    Reachable table next := by
  obtain ⟨start, hstart, hsteps⟩ := h
  exact ⟨start, hstart, hsteps.tail hstep⟩

/-- A query that comes about has the form of queries. -/
lemma Reachable.wellFormed {table : String} (h : Reachable table query) : query.WellFormed := by
  obtain ⟨start, hstart, hsteps⟩ := h
  exact (wellFormed_of_ofTable hstart).edits (edits_of_steps hsteps)

/-- An edit of a finalized query leaves what was fixed. -/
lemma Edit.fixed (h : Edit query next) (hfinalized : query.finalized = true) :
    next.finalized = true ∧ next.condition = query.condition ∧
      next.whereClause = query.whereClause := by
  cases h with
  | condition hopen hcondition =>
    rw [hfinalized] at hopen
    cases hopen
  | finalize =>
    rw [finalize_of_finalized hfinalized]
    exact ⟨hfinalized, rfl, rfl⟩
  | _ => exact ⟨hfinalized, rfl, rfl⟩

/-- A chain of edits of a finalized query leaves what was fixed. -/
lemma edits_fixed (h : Edits query next) (hfinalized : query.finalized = true) :
    next.finalized = true ∧ next.condition = query.condition ∧
      next.whereClause = query.whereClause := by
  induction h with
  | refl => exact ⟨hfinalized, rfl, rfl⟩
  | tail _ hedit ih =>
    obtain ⟨hreached, hcondition, hwhere⟩ := ih
    obtain ⟨hnext, hcondition', hwhere'⟩ := hedit.fixed hreached
    exact ⟨hnext, hcondition'.trans hcondition, hwhere'.trans hwhere⟩

/-- However often a query is rendered, the text is that of the first time. -/
lemma rendering_iterate (query : Query) (times : Nat) :
    ((fun kept : Query => kept.rendering.2)^[times] query).rendering.1 = query.rendering.1 := by
  induction times generalizing query with
  | zero => rfl
  | succ times ih =>
    rw [Function.iterate_succ_apply, ih]
    exact render_finalize query

/-- A chain of calls is made one part after the other. -/
lemma callAll_append (query : Query) (first second : List QueryCall) :
    query.callAll (first ++ second) =
      query.callAll first >>= fun reached => reached.callAll second := by
  induction first generalizing query with
  | nil => rfl
  | cons call rest ih =>
    rw [List.cons_append, callAll, callAll]
    cases query.call call with
    | error reason => rfl
    | ok called => exact ih called

/-- A chain of calls is rendered to the same text when the query is finalized in between, unless a
call that is about conditions comes later. -/
lemma render_callAll_finalize (query : Query) (first : List QueryCall) {later : List QueryCall}
    (hlater : ∀ call ∈ later, call.isConditional = false) :
    (query.callAll (first ++ .finalize :: later) >>= render) =
      (query.callAll (first ++ later) >>= render) := by
  rw [callAll_append, callAll_append]
  cases query.callAll first with
  | error reason => rfl
  | ok reached =>
    have hcommute : reached.callAll (.finalize :: later) = (reached.callAll later).map finalize :=
      finalize_callAll reached hlater
    change (reached.callAll (.finalize :: later) >>= render) = (reached.callAll later >>= render)
    rw [hcommute]
    cases reached.callAll later with
    | error reason => rfl
    | ok last => exact render_finalize last

/-- A query that was not finalized has no `WHERE` clause yet.  One that was has the clause of its
condition; nothing that happens to it changes the condition or the clause, and every call that is
about conditions is refused.  So it is rendered to the same text every time, and finalizing it at
any point after the last call that is about conditions makes no difference to the text. -/
theorem condition_fixed_by_finalization {table : String} (h : Reachable table query) :
    (query.finalized = false → query.whereClause = none) ∧
    (query.finalized = true →
      query.whereClause.map Condition.clause = query.condition.map Condition.clause ∧
      (∀ next, Steps query next → next.finalized = true ∧ next.condition = query.condition ∧
        next.whereClause = query.whereClause) ∧
      ∀ call, call.isConditional = true → call.ArgumentsPass →
        query.call call = .error (.invalid .finalized)) ∧
    (∀ times, ((fun kept : Query => kept.rendering.2)^[times] query).rendering.1 =
      query.rendering.1) ∧
    ∀ first later, (∀ call ∈ later, call.isConditional = false) →
      (query.callAll (first ++ .finalize :: later) >>= render) =
        (query.callAll (first ++ later) >>= render) := by
  have hfixed := h.wellFormed.fixed
  refine ⟨fun hopen => ?_, fun hfinalized => ⟨?_, fun next hsteps => ?_, fun call => ?_⟩,
    rendering_iterate query, fun first later => render_callAll_finalize query first⟩
  · rw [hfixed, hopen]
    rfl
  · rw [hfixed, hfinalized]
    rfl
  · exact edits_fixed (edits_of_steps hsteps) hfinalized
  · exact call_of_finalized hfinalized

/-- A rendering that is refused, because a field was named and never compared, fixes the condition:
the comparison that was missing comes too late. -/
theorem failed_rendering_fixes_condition : ∃ query, Reachable "people" query ∧
    query.rendering.1 = .error (.invalid (.danglingField "age")) ∧
      query.rendering.2.whereClause.map Condition.clause = some "(name = \x27Ada\x27)" ∧
      query.rendering.2.call (.compare .gt (.number (.int 20))) = .error (.invalid .finalized) := by
  have hrun : Except.toOption (do
      let start ← ofTable "people"
      let query ← start.callAll [.filter (.object [("name", .string "Ada")]), .onField "age"]
      return (query.pendingField, query.condition.map Condition.clause)) =
        some (some "age", some "(name = \x27Ada\x27)") := by
    decide +kernel
  obtain ⟨start, hstart, hrun⟩ := exists_of_bind_eq_ok (eq_ok_of_toOption hrun)
  obtain ⟨query, hcalls, hrun⟩ := exists_of_bind_eq_ok hrun
  obtain ⟨hpending, hclause⟩ := Prod.mk.inj (Except.ok.inj hrun)
  have hreachable : Reachable "people" query := ⟨start, hstart, steps_of_callAll hcalls⟩
  have hrendered : Reachable "people" query.rendering.2 := hreachable.tail .rendering
  obtain ⟨hwhere, -, hrefused⟩ :=
    (condition_fixed_by_finalization hrendered).2.1 query.finalized_finalize
  refine ⟨query, hreachable, ?_, ?_, hrefused _ rfl trivial⟩
  · change query.render = _
    unfold render statement requireExpressible
    rw [pendingField_finalize, hpending]
    rfl
  · rw [hwhere, rendering, condition_finalize, hclause]

end Query

end DocTables
