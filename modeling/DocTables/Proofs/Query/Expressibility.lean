import DocTables.Proofs.Query.Insertion
import DocTables.Proofs.Query.PendingField

/-!
# Which queries are rendered

A query is rendered just if a statement with its verb can express all that it holds, whatever calls
it was built by: an order and limits are only expressed by reads, conditions by everything but
insertions, and a field that was named and never compared by nothing (`Query.Expressible`).  What is
left over from an earlier verb counts.

Rendering looks at the conditions that were fixed and not at those that were collected, and calls
about conditions are refused once they are fixed.  So a chain of calls that fixes the conditions
somewhere runs through the same queries as the chain without these calls, up to their finalization
(`callAll_withoutFinalize`), and it does not matter to the text when they were fixed.
-/

namespace DocTables

namespace QueryCall

/-- Whether a call fixes the conditions. -/
def isFinalize : QueryCall → Bool
  | .finalize => true
  | _ => false

/-- The calls of a chain without those that fix the conditions. -/
def withoutFinalize (calls : List QueryCall) : List QueryCall :=
  calls.filter fun call => !call.isFinalize

lemma isFinalize_eq_false_of_ne {call : QueryCall} (h : call ≠ .finalize) :
    call.isFinalize = false := by
  cases call with
  | finalize => exact absurd rfl h
  | _ => rfl

end QueryCall

namespace Query

open QueryCall

variable {query next reached : Query} {call : QueryCall} {calls : List QueryCall}

/-! ## Expressible queries -/

/-- No order and no limits are set. -/
def Unpaged (query : Query) : Prop :=
  query.order = [] ∧ query.limit = none ∧ query.offset = none

/-- The query holds all that a statement with a verb needs, and nothing that the statement cannot
express. -/
def Suits (query : Query) : Verb → Prop
  | .select | .distinct => True
  | .insert => query.condition = none ∧ query.Unpaged ∧
      ¬ (2 ≤ query.rows.length ∧ ∀ row ∈ query.rows, row = [])
  | .update => query.assignments ≠ [] ∧ query.Unpaged
  | .delete | .count => query.Unpaged

/-- No field waits for its comparison, and the query suits its verb. -/
def Expressible (query : Query) : Prop := query.pendingField = none ∧ query.Suits query.verb

lemma isPaged_eq_false_iff : query.isPaged = false ↔ query.Unpaged := by
  simp [isPaged, Unpaged, and_assoc]

/-- Fixing the conditions changes nothing that matters. -/
lemma expressible_finalize (query : Query) : query.finalize.Expressible ↔ query.Expressible := by
  rw [finalize_eq]
  rfl

/-- Rows are inserted by one statement unless there are several, and none of them has a key. -/
lemma exists_insertStatement_iff {table : String} {rows : List Row} :
    (∃ statement, insertStatement table rows = .ok statement) ↔
      ¬ (2 ≤ rows.length ∧ ∀ row ∈ rows, row = []) := by
  rw [← columnUnion_eq_nil_iff, insertStatement]
  by_cases hcolumns : columnUnion rows = []
  · by_cases hseveral : 1 < rows.length
    · simp [hcolumns, hseveral, Nat.succ_le_of_lt hseveral]
    · simp [hcolumns, hseveral, Nat.lt_succ_of_le (Nat.le_of_not_lt hseveral)]
  · simp [hcolumns]

/-- An expressible query passes the check of its clauses, if its conditions are fixed. -/
lemma requireExpressible_of_expressible (hfixed : query.whereClause = query.condition)
    (h : query.Expressible) : query.requireExpressible = .ok () := by
  obtain ⟨hpending, hsuits⟩ := h
  unfold requireExpressible
  simp only [hpending, hfixed]
  cases hverb : query.verb with
  | select | distinct => rfl
  | insert =>
    rw [hverb] at hsuits
    obtain ⟨hcondition, hunpaged, -⟩ := hsuits
    simp [hcondition, isPaged_eq_false_iff.mpr hunpaged]
  | update =>
    rw [hverb] at hsuits
    obtain ⟨hassignments, hunpaged⟩ := hsuits
    simp [hassignments, isPaged_eq_false_iff.mpr hunpaged]
  | delete | count =>
    rw [hverb] at hsuits
    have hunpaged : query.Unpaged := hsuits
    simp [isPaged_eq_false_iff.mpr hunpaged]

/-- A query that passes the check, and whose rows can be inserted if that is its verb, is
expressible. -/
lemma expressible_of_statement {statement : QueryStatement}
    (hfixed : query.whereClause = query.condition) (h : query.statement = .ok statement) :
    query.Expressible := by
  unfold Query.statement at h
  obtain ⟨_, hchecked, h⟩ := exists_of_bind_eq_ok h
  obtain ⟨hunpaged, hinsert, hupdate⟩ := expressible_of_requireExpressible hchecked
  refine ⟨pendingField_of_requireExpressible hchecked, ?_⟩
  cases hverb : query.verb <;> rw [hverb] at hunpaged h
  case select | distinct => trivial
  case insert =>
    refine ⟨hfixed ▸ hinsert hverb, hunpaged (by decide) (by decide), ?_⟩
    exact exists_insertStatement_iff.mp ⟨statement, h⟩
  case update => exact ⟨hupdate hverb, hunpaged (by decide) (by decide)⟩
  case delete | count => exact hunpaged (by decide) (by decide)

/-- A query with fixed conditions stands for a statement just if it is expressible. -/
lemma exists_statement_iff (hfixed : query.whereClause = query.condition) :
    (∃ statement, query.statement = .ok statement) ↔ query.Expressible := by
  constructor
  · rintro ⟨statement, h⟩
    exact expressible_of_statement hfixed h
  · intro h
    unfold Query.statement
    rw [requireExpressible_of_expressible hfixed h]
    cases hverb : query.verb
    case insert =>
      have hsuits := h.2
      rw [hverb] at hsuits
      exact exists_insertStatement_iff.mpr hsuits.2.2
    all_goals exact ⟨_, rfl⟩

/-- A query that comes about is rendered just if it is expressible. -/
lemma exists_render_iff (h : query.WellFormed) :
    (∃ sql, query.render = .ok sql) ↔ query.Expressible := by
  have hfixed : query.finalize.whereClause = query.finalize.condition := by
    rw [(h.edit .finalize).fixed, query.finalized_finalize]
    rfl
  rw [← expressible_finalize, ← exists_statement_iff hfixed]
  constructor
  · rintro ⟨sql, hrender⟩
    obtain ⟨statement, hstatement, -⟩ := exists_of_map_eq_ok hrender
    exact ⟨statement, hstatement⟩
  · rintro ⟨statement, hstatement⟩
    refine ⟨statement.sql, ?_⟩
    rw [Query.render, hstatement]
    rfl

/-! ## When the conditions were fixed -/

/-- Only while the conditions are not fixed, a call about conditions is made. -/
lemma finalized_of_conditional (hconditional : call.isConditional = true)
    (h : query.call call = .ok next) : query.finalized = false := by
  cases effect_of_call h with
  | document hopen | onField hopen | compare hopen | compareField hopen => exact hopen
  | _ => cases hconditional

/-- A call that is made whether or not the conditions were fixed before leads to the same query, but
for that. -/
lemma exists_call_of_finalized (hsame : reached = query ∨ reached = query.finalize)
    (h : reached.call call = .ok next) :
    ∃ last, query.call call = .ok last ∧ (next = last ∨ next = last.finalize) := by
  rcases hsame with rfl | rfl
  · exact ⟨next, h, .inl rfl⟩
  · have hother : call.isConditional = false := by
      rw [← Bool.not_eq_true]
      intro hconditional
      have hopen := finalized_of_conditional hconditional h
      rw [finalized_finalize] at hopen
      cases hopen
    rw [finalize_call query hother] at h
    obtain ⟨last, hlast, rfl⟩ := exists_of_map_eq_ok h
    exact ⟨last, hlast, .inr rfl⟩

/-- A chain of calls that is not refused is not refused without the calls that fix the conditions,
and leads to the same query, but for that. -/
lemma callAll_withoutFinalize (hsame : reached = query ∨ reached = query.finalize)
    (h : reached.callAll calls = .ok next) :
    ∃ last, query.callAll (withoutFinalize calls) = .ok last ∧
      (next = last ∨ next = last.finalize) := by
  induction calls generalizing query reached with
  | nil =>
    cases h
    exact ⟨query, rfl, hsame⟩
  | cons first rest ih =>
    obtain ⟨called, hcalled, hrest⟩ := exists_of_bind_eq_ok h
    by_cases hfirst : first = .finalize
    · subst hfirst
      cases hcalled
      refine ih (.inr ?_) hrest
      rcases hsame with rfl | rfl
      · rfl
      · exact finalize_of_finalized query.finalized_finalize
    · obtain ⟨opened, hopened, hsame⟩ := exists_call_of_finalized hsame hcalled
      obtain ⟨last, hlast, hnext⟩ := ih hsame hrest
      refine ⟨last, ?_, hnext⟩
      rw [withoutFinalize, List.filter_cons_of_pos (by simp [isFinalize_eq_false_of_ne hfirst]),
        callAll, hopened]
      exact hlast

/-- Such a chain is rendered to the same text without these calls, or refused for the same
reason. -/
lemma exists_render_withoutFinalize (h : query.callAll calls = .ok next) :
    ∃ last, query.callAll (withoutFinalize calls) = .ok last ∧ last.render = next.render := by
  obtain ⟨last, hlast, rfl | rfl⟩ := callAll_withoutFinalize (.inl rfl) h
  · exact ⟨_, hlast, rfl⟩
  · exact ⟨last, hlast, last.render_finalize.symm⟩

/-! ## Rendered queries -/

/-- Two documents that are inserted after the conditions were fixed, one of them without keys. -/
def insertedAfterFinalize : List QueryCall :=
  [.select ["name"], .finalize, .insertMany [.object [], .object [("name", .string "Ada")]]]

/-- The search for one record, and the removal of all that it describes. -/
def removedAfterFindOne : List QueryCall :=
  [.findOne (.object [("name", .string "Ada")]), .remove (.object [])]

/-- However a query was built, it is rendered just if it is expressible.  Chains of calls that
differ only in where they fix the conditions, if they do so at all, are rendered to the same text or
refused for the same reason, and a chain that is not refused is not refused without these calls. -/
theorem rendered_iff_expressible {table : String} {start query : Query}
    (hstart : ofTable table = .ok start) (hcalls : start.callAll calls = .ok query) :
    ((∃ sql, query.render = .ok sql) ↔ query.Expressible) ∧
    (∃ other, start.callAll (withoutFinalize calls) = .ok other ∧ other.render = query.render) ∧
    ∀ others other, withoutFinalize others = withoutFinalize calls →
      start.callAll others = .ok other → other.render = query.render := by
  have hform : query.WellFormed := (wellFormed_of_ofTable hstart).callAll hcalls
  obtain ⟨last, hlast, hrender⟩ := exists_render_withoutFinalize hcalls
  refine ⟨exists_render_iff hform, ⟨last, hlast, hrender⟩, fun others other hsame hothers => ?_⟩
  obtain ⟨last', hlast', hrender'⟩ := exists_render_withoutFinalize hothers
  rw [hsame, hlast] at hlast'
  rw [← hrender', ← Except.ok.inj hlast', hrender]

/-- The insertion is rendered, with the columns to read left out, just as if the conditions had
never been fixed.  The removal is not rendered: it cannot express the limits that are left over from
the search. -/
theorem leftovers_rendered_or_refused :
    (∃ start query sql, ofTable "people" = .ok start ∧
      start.callAll insertedAfterFinalize = .ok query ∧ query.Expressible ∧
      query.render = .ok sql ∧ sql = "INSERT INTO people (name) VALUES (NULL), (\x27Ada\x27)" ∧
      ∃ other, start.callAll (withoutFinalize insertedAfterFinalize) = .ok other ∧
        other.render = .ok sql) ∧
    ∃ start query, ofTable "people" = .ok start ∧ start.callAll removedAfterFindOne = .ok query ∧
      ¬ query.Expressible ∧ ¬ ∃ sql, query.render = .ok sql := by
  constructor
  · have hrun : Except.toOption (do
        let start ← ofTable "people"
        let query ← start.callAll insertedAfterFinalize
        query.render) = some "INSERT INTO people (name) VALUES (NULL), (\x27Ada\x27)" := by
      decide +kernel
    obtain ⟨start, hstart, hrun⟩ := exists_of_bind_eq_ok (eq_ok_of_toOption hrun)
    obtain ⟨query, hcalls, hrender⟩ := exists_of_bind_eq_ok hrun
    obtain ⟨hexpressible, ⟨other, hother, hsame⟩, -⟩ := rendered_iff_expressible hstart hcalls
    exact ⟨start, query, _, hstart, hcalls, hexpressible.mp ⟨_, hrender⟩, hrender, rfl,
      other, hother, hsame.trans hrender⟩
  · have hrun : Except.toOption (do
        let start ← ofTable "people"
        let query ← start.callAll removedAfterFindOne
        return (query.verb, query.limit)) = some (.delete, some 1) := by
      decide +kernel
    obtain ⟨start, hstart, hrun⟩ := exists_of_bind_eq_ok (eq_ok_of_toOption hrun)
    obtain ⟨query, hcalls, hrun⟩ := exists_of_bind_eq_ok hrun
    obtain ⟨hverb, hlimit⟩ := Prod.mk.inj (Except.ok.inj hrun)
    have hleft : ¬ query.Expressible := by
      rintro ⟨-, hsuits⟩
      rw [hverb] at hsuits
      rw [hsuits.2.1] at hlimit
      cases hlimit
    refine ⟨start, query, hstart, hcalls, hleft, ?_⟩
    rwa [(rendered_iff_expressible hstart hcalls).1]

end Query

end DocTables
