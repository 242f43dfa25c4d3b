import DocTables.Proofs.Query.Finalization

/-!
# The order of calls

A call that adds conditions, columns or terms of the order, or sets a limit or an offset, reads and
writes one part of a query (`Query.Part`): in two queries that have this part in common it does the
same (`Query.call_withPart`).  So two such calls that are about different parts can change places
(`Query.call_comm`), and a chain of them can be reordered as long as the calls about each part stay
in order: it makes the same query, with the same text and the same result
(`Query.callAll_of_reordered`).
-/

namespace DocTables

/-! ## Parts -/

/-- A part of a query that is put together by calls of its own. -/
inductive Query.Part where
  /-- The conditions, with all that belongs to them. -/
  | conditions
  /-- The columns to read. -/
  | columns
  /-- The order. -/
  | order
  /-- The largest number of rows. -/
  | limit
  /-- The number of rows to skip. -/
  | offset
deriving DecidableEq

namespace QueryCall

/-- The part that a call is about, if it is about one part only. -/
def part? : QueryCall → Option Query.Part
  | .filter _ | .onField _ | .compare .. | .compareField .. => some .conditions
  | .select _ => some .columns
  | .sort _ | .orderBy _ => some .order
  | .limit _ => some .limit
  | .offset _ => some .offset
  | _ => none

/-- The calls of a chain that are about a part. -/
def about (part : Query.Part) (calls : List QueryCall) : List QueryCall :=
  calls.filter fun call => call.part? = some part

/-- A chain consists of the calls of another one, and the calls about each part are in the same
order. -/
structure Reordered (others calls : List QueryCall) : Prop where
  perm : others.Perm calls
  about : ∀ part, about part others = about part calls

variable {call : QueryCall} {rest calls before after : List QueryCall} {part : Query.Part}

lemma about_append (first second : List QueryCall) :
    about part (first ++ second) = about part first ++ about part second := List.filter_append _ _

lemma about_cons (h : call.part? = some part) :
    about part (call :: rest) = call :: about part rest :=
  List.filter_cons_of_pos (decide_eq_true h)

lemma about_cons_of_ne (h : call.part? ≠ some part) : about part (call :: rest) = about part rest :=
  List.filter_cons_of_neg fun heq => h (of_decide_eq_true heq)

lemma about_eq_nil (h : ∀ call ∈ calls, call.part? ≠ some part) : about part calls = [] :=
  List.filter_eq_nil_iff.mpr fun call hmem heq => h call hmem (of_decide_eq_true heq)

/-- What is the first call of a reordered chain has only calls about other parts before it. -/
lemma Reordered.exists_first (h : Reordered (call :: rest) calls) (hpart : call.part? = some part) :
    ∃ before after, calls = before ++ call :: after ∧
      ∀ earlier ∈ before, earlier.part? ≠ some part := by
  have habout := h.about part
  rw [about_cons hpart, eq_comm, QueryCall.about, List.filter_eq_cons_iff] at habout
  obtain ⟨before, after, hcalls, hbefore, -⟩ := habout
  exact ⟨before, after, hcalls, fun earlier hmem hearlier =>
    hbefore earlier hmem (decide_eq_true hearlier)⟩

/-- Without this call, the chains are still reordered. -/
lemma Reordered.tail (h : Reordered (call :: rest) (before ++ call :: after))
    (hpart : call.part? = some part) (hbefore : ∀ earlier ∈ before, earlier.part? ≠ some part) :
    Reordered rest (before ++ after) := by
  refine ⟨(h.perm.trans List.perm_middle).cons_inv, fun other => ?_⟩
  have habout := h.about other
  rw [about_append] at habout ⊢
  by_cases hother : call.part? = some other
  · obtain rfl : part = other := Option.some.inj (hpart.symm.trans hother)
    rw [about_eq_nil hbefore, about_cons hpart, about_cons hpart] at habout
    rw [about_eq_nil hbefore]
    exact (List.cons.inj habout).2
  · rwa [about_cons_of_ne hother, about_cons_of_ne hother] at habout

end QueryCall

namespace Query

open QueryCall

variable {query next called : Query} {call first second : QueryCall} {calls others : List QueryCall}
  {part other : Part}

/-- A query with a part of another one. -/
def withPart (query : Query) (part : Part) (source : Query) : Query :=
  match part with
  | .conditions => query.withConditionsOf source
  | .columns => { query with columns := source.columns }
  | .order => { query with order := source.order }
  | .limit => { query with limit := source.limit }
  | .offset => { query with offset := source.offset }

@[simp] lemma withPart_self (query : Query) (part : Part) : query.withPart part query = query := by
  cases part <;> rfl

/-- Different parts are replaced independently. -/
lemma withPart_comm (hparts : part ≠ other) (query first second : Query) :
    (query.withPart part first).withPart other second =
      (query.withPart other second).withPart part first := by
  cases part <;> cases other <;> first | rfl | exact absurd rfl hparts

/-! ## Calls about one part -/

section Conditions

variable (base query : Query)

lemma filter_withConditionsOf (document : Json) :
    (base.withConditionsOf query).filter document =
      (query.filter document).map base.withConditionsOf := by
  have hopen : (base.withConditionsOf query).requireOpen = query.requireOpen := rfl
  unfold Query.filter
  rw [hopen]
  cases query.requireOpen with
  | error reason => rfl
  | ok checked =>
    cases Filter.compile document with
    | error reason => rfl
    | ok compiled => cases compiled <;> rfl

lemma onField_withConditionsOf (field : String) :
    (base.withConditionsOf query).onField field =
      (query.onField field).map base.withConditionsOf := by
  have hopen : (base.withConditionsOf query).requireOpen = query.requireOpen := rfl
  unfold Query.onField
  rw [hopen]
  cases query.requireOpen with
  | error reason => rfl
  | ok checked =>
    dsimp only [bind, Except.bind]
    split <;> rfl

lemma compare_withConditionsOf (comparator : Comparator) (value : Json) :
    (base.withConditionsOf query).compare comparator value =
      (query.compare comparator value).map base.withConditionsOf := by
  have hopen : (base.withConditionsOf query).requireOpen = query.requireOpen := rfl
  have hpending : (base.withConditionsOf query).pendingField = query.pendingField := rfl
  unfold Query.compare
  rw [hopen, hpending]
  cases query.requireOpen with
  | error reason => rfl
  | ok checked =>
    cases query.pendingField with
    | none => rfl
    | some field =>
      dsimp only [bind, Except.bind]
      cases Operand.ofJson comparator value with
      | error reason => rfl
      | ok operand =>
        dsimp only
        cases Comparison.make field comparator operand <;> rfl

lemma compareField_withConditionsOf (field : String) (comparator : Comparator) (value : Json) :
    (base.withConditionsOf query).compareField field comparator value =
      (query.compareField field comparator value).map base.withConditionsOf := by
  rw [Query.compareField, Query.compareField, onField_withConditionsOf]
  cases query.onField field with
  | error reason => rfl
  | ok named => exact compare_withConditionsOf base named comparator value

end Conditions

/-- A call about a part does to it what it does in any other query with this part, and leaves the
rest as it is. -/
lemma call_withPart (h : call.part? = some part) (base query : Query) :
    (base.withPart part query).call call = (query.call call).map (base.withPart part) := by
  cases call with
  | filter document =>
    cases h
    exact filter_withConditionsOf base query document
  | onField field =>
    cases h
    exact onField_withConditionsOf base query field
  | compare comparator value =>
    cases h
    exact compare_withConditionsOf base query comparator value
  | compareField field comparator value =>
    cases h
    exact compareField_withConditionsOf base query field comparator value
  | select columns =>
    cases h
    exact select_change (base.withPart .columns) (fun _ _ => rfl) query columns
  | sort spec =>
    cases h
    exact sort_change (base.withPart .order) (fun _ _ => rfl) query spec
  | orderBy spec =>
    cases h
    exact addOrder_change (base.withPart .order) (fun _ _ => rfl) query [.ofSpec spec]
  | limit value =>
    cases h
    exact congrArg Except.ok (setLimit_change (base.withPart .limit) (fun _ _ => rfl) query value)
  | offset value =>
    cases h
    exact congrArg Except.ok (setOffset_change (base.withPart .offset) (fun _ _ => rfl) query value)
  | _ => cases h

/-- It changes no other part. -/
lemma withPart_of_call (h : call.part? = some part) (hcall : query.call call = .ok next) :
    query.withPart part next = next := by
  have hsame := call_withPart h query query
  rw [withPart_self, hcall] at hsame
  exact (Except.ok.inj hsame).symm

/-- A change of one part makes no difference to a call about another one. -/
lemma call_of_withPart (hparts : part ≠ other) (hcall : call.part? = some other)
    (hchanged : query.withPart part next = next) :
    next.call call = (query.call call).map (next.withPart other) := by
  have hkept : next.withPart other query = next := by
    rw [← hchanged, withPart_comm hparts, withPart_self]
  have hmapped := call_withPart hcall next query
  rwa [hkept] at hmapped

/-- Calls about different parts can change places. -/
lemma call_comm (hparts : part ≠ other) (hfirst : first.part? = some part)
    (hsecond : second.part? = some other) (hcalled : query.call first = .ok called)
    (hnext : called.call second = .ok next) :
    ∃ reached, query.call second = .ok reached ∧ reached.call first = .ok next := by
  have hchanged : query.withPart part called = called := withPart_of_call hfirst hcalled
  rw [call_of_withPart hparts hsecond hchanged] at hnext
  obtain ⟨reached, hreached, rfl⟩ := exists_of_map_eq_ok hnext
  have hwritten : query.withPart other reached = reached := withPart_of_call hsecond hreached
  refine ⟨reached, hreached, ?_⟩
  rw [call_of_withPart hparts.symm hfirst hwritten, hcalled]
  refine congrArg Except.ok ?_
  calc reached.withPart part called
      = (query.withPart other reached).withPart part called := by rw [hwritten]
    _ = (query.withPart part called).withPart other reached := withPart_comm hparts.symm _ _ _
    _ = called.withPart other reached := by rw [hchanged]

/-! ## Chains of calls -/

/-- A call can be made before calls about other parts. -/
lemma callAll_moved {before after : List QueryCall} (hcall : call.part? = some part)
    (hbefore : ∀ earlier ∈ before, ∃ other, part ≠ other ∧ earlier.part? = some other)
    (h : query.callAll (before ++ call :: after) = .ok next) :
    query.callAll (call :: (before ++ after)) = .ok next := by
  induction before generalizing query with
  | nil => exact h
  | cons earlier rest ih =>
    obtain ⟨⟨other, hparts, hearlier⟩, hrest⟩ := List.forall_mem_cons.mp hbefore
    obtain ⟨called, hcalled, hlater⟩ := exists_of_bind_eq_ok h
    obtain ⟨both, hboth, hlast⟩ := exists_of_bind_eq_ok (ih hrest hlater)
    obtain ⟨reached, hreached, hsame⟩ := call_comm hparts.symm hearlier hcall hcalled hboth
    rw [callAll, hreached]
    change reached.callAll (earlier :: (rest ++ after)) = _
    rw [callAll, hsame]
    exact hlast

/-- **Calls in another order.**  Let a chain of calls, each about one part of the query, not be
refused. If they are made in another order that keeps the calls about each part in order, they are
not refused either and lead to the same query, so to the same text and the same run. -/
theorem callAll_of_reordered (hparts : ∀ call ∈ calls, call.part?.isSome = true)
    (hothers : Reordered others calls) (h : query.callAll calls = .ok next) :
    query.callAll others = .ok next := by
  induction others generalizing query calls with
  | nil =>
    obtain rfl : calls = [] := List.nil_perm.mp hothers.perm
    exact h
  | cons call rest ih =>
    have hmem : call ∈ calls := hothers.perm.subset List.mem_cons_self
    obtain ⟨part, hpart⟩ := Option.isSome_iff_exists.mp (hparts call hmem)
    obtain ⟨before, after, rfl, hbefore⟩ := hothers.exists_first hpart
    have hrest : ∀ later ∈ before ++ after, later.part?.isSome = true := fun later hlater =>
      hparts later ((List.perm_middle.mem_iff).mpr (List.mem_cons_of_mem call hlater))
    have hpassed : ∀ earlier ∈ before, ∃ other, part ≠ other ∧ earlier.part? = some other := by
      intro earlier hearlier
      obtain ⟨other, hother⟩ :=
        Option.isSome_iff_exists.mp (hrest earlier (List.mem_append_left after hearlier))
      exact ⟨other, fun heq => hbefore earlier hearlier (heq ▸ hother), hother⟩
    obtain ⟨called, hcalled, hlast⟩ := exists_of_bind_eq_ok (callAll_moved hpart hpassed h)
    rw [callAll, hcalled]
    exact ih hrest (hothers.tail hpart hbefore) hlast

/-- A condition, and a field that waits for its comparison. -/
def cityNamed : List QueryCall :=
  [.filter (.object [("age", .object [("$gt", .number (.int 20))])]), .onField "city"]

/-- Columns, orders and limits, one of which is no number. -/
def citySorted : List QueryCall :=
  [.limit (.number (.int 5)), .sort (.string "age"), .select ["name"], .limit (.string "ten"),
    .offset (.number (.int 2)), .orderBy "-name"]

/-- The comparison that the field waits for. -/
def cityCompared : List QueryCall := [.compare .eq (.string "Bern")]

/-- The statement of these calls. -/
def citySql : String :=
  "SELECT name FROM people WHERE (age > 20 AND city = \x27Bern\x27) " ++
    "ORDER BY age ASC, name DESC LIMIT 5 OFFSET 2"

/-- Whether columns, orders and limits are set before the conditions, or while a field waits for its
comparison, the query is the same. -/
theorem city_sorted_before_named : ∃ start next, ofTable "people" = .ok start ∧
    start.callAll (cityNamed ++ (citySorted ++ cityCompared)) = .ok next ∧
    start.callAll (citySorted ++ (cityNamed ++ cityCompared)) = .ok next ∧
    next.render = .ok citySql := by
  have hparts : ∀ call ∈ cityNamed ++ (citySorted ++ cityCompared), call.part?.isSome = true :=
    List.all_eq_true.mp rfl
  have hreordered : Reordered (citySorted ++ (cityNamed ++ cityCompared))
      (cityNamed ++ (citySorted ++ cityCompared)) :=
    ⟨List.perm_append_comm_assoc _ _ _, fun part => by cases part <;> rfl⟩
  have hrun : Except.toOption (do
      let start ← ofTable "people"
      let next ← start.callAll (cityNamed ++ (citySorted ++ cityCompared))
      next.render) = some citySql := by
    decide +kernel
  obtain ⟨start, hstart, hrun⟩ := exists_of_bind_eq_ok (eq_ok_of_toOption hrun)
  obtain ⟨next, hnext, hrender⟩ := exists_of_bind_eq_ok hrun
  exact ⟨start, next, hstart, hnext, callAll_of_reordered hparts hreordered hnext, hrender⟩

end Query

end DocTables
