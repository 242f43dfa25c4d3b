import DocTables.Proofs.Storage.Ensures

/-!
# Runs that come to a value

`Completes` says that a program comes to a value against a storage, with all that was sent on the
way and what was answered to it.  A program that goes on with the value of another one completes in
two parts, and its record is that of the first part followed by that of the second
(`Completes.of_bind`).  So what a long program sends is read off its parts.
-/

namespace DocTables.Dialogue

variable {σ ε α β τ : Type} {storage : Storage σ τ} {program : Dialogue σ ε α} {state after : τ}
  {value : α} {sent : List (Exchange σ)}

/-- The program comes to a value, and the storage never fails. -/
inductive Completes (storage : Storage σ τ) :
    Dialogue σ ε α → τ → α → List (Exchange σ) → τ → Prop
  /-- The program has come to its value. -/
  | done (value : α) (state : τ) : Completes storage (.done (.ok value)) state value [] state
  /-- A statement is answered, and the program completes with the reply. -/
  | ask {statement : σ} {next : Reply → Dialogue σ ε α} {state reached after : τ} {reply : Reply}
    {value : α} {sent : List (Exchange σ)}
    (hanswer : storage statement state = (.ok reply, reached))
    (hnext : Completes storage (next reply) reached value sent after) :
    Completes storage (.ask statement next) state value ((statement, .ok reply) :: sent) after

/-- A run that comes to a value completes with its record. -/
lemma completes_of_run (h : program.run storage state = (.ok value, after)) :
    Completes storage program state value (program.record storage state) after := by
  induction program generalizing state with
  | done result =>
    cases result with
    | ok value' =>
      obtain ⟨hvalue, rfl⟩ := Prod.mk.inj h
      rw [Except.ok.inj hvalue]
      exact .done value state
    | error reason => cases (Prod.mk.inj h).1
  | ask statement next ih =>
    rw [run] at h
    rw [record]
    split at h
    · cases (Prod.mk.inj h).1
    · rename_i reply reached hanswer
      rw [hanswer]
      exact .ask hanswer (ih reply h)

/-- A program that completes comes to its value when it is run. -/
lemma Completes.run_eq (h : Completes storage program state value sent after) :
    program.run storage state = (.ok value, after) := by
  induction h with
  | done value state => rfl
  | ask hanswer _ ih =>
    rw [run, hanswer]
    exact ih

/-- What has ended with a value completes at once. -/
lemma Completes.of_done {result : Except ε α}
    (h : Completes storage (.done result) state value sent after) :
    result = .ok value ∧ sent = [] ∧ after = state := by
  cases h
  exact ⟨rfl, rfl, rfl⟩

/-- A program that asks for a statement goes on with the reply. -/
lemma Completes.of_ask {statement : σ} {next : Reply → Dialogue σ ε α}
    (h : Completes storage (.ask statement next) state value sent after) :
    ∃ reply reached rest, storage statement state = (.ok reply, reached) ∧
      Completes storage (next reply) reached value rest after ∧
      sent = (statement, .ok reply) :: rest := by
  cases h with
  | ask hanswer hnext => exact ⟨_, _, _, hanswer, hnext, rfl⟩

/-- A program that goes on with the value of another one completes in two parts. -/
lemma Completes.of_bind {next : α → Dialogue σ ε β} {final : β}
    (h : Completes storage (program >>= next) state final sent after) :
    ∃ value reached first second, Completes storage program state value first reached ∧
      Completes storage (next value) reached final second after ∧ sent = first ++ second := by
  induction program generalizing state sent with
  | done result =>
    cases result with
    | ok value => exact ⟨value, state, [], sent, .done value state, h, rfl⟩
    | error reason => cases h.of_done.1
  | ask statement rest ih =>
    obtain ⟨reply, reached, later, hanswer, hnext, rfl⟩ := h.of_ask
    obtain ⟨value, middle, first, second, hfirst, hsecond, rfl⟩ := ih reply hnext
    exact ⟨value, middle, _, second, .ask hanswer hfirst, hsecond, rfl⟩

variable {allowed : σ → Prop}

/-- A program that refuses nothing completes, if each of its statements is answered. -/
lemma completes_of_answered
    (h : program.Ensures (.ofStatements allowed) (fun result _ => ∃ value, result = .ok value) ())
    (hanswered : ∀ exchange ∈ program.record storage state, ∃ reply, exchange.2 = .ok reply) :
    ∃ value after, Completes storage program state value (program.record storage state) after := by
  induction program generalizing state with
  | done result =>
    obtain ⟨value, rfl⟩ := h
    exact ⟨value, state, .done value state⟩
  | ask statement next ih =>
    rw [record] at hanswered ⊢
    split at hanswered
    · rename_i reply reached hanswer
      obtain ⟨-, hlater⟩ := List.forall_mem_cons.mp hanswered
      obtain ⟨value, after, hcompletes⟩ := ih reply (h.2 reply () trivial) hlater
      exact ⟨value, after, .ask hanswer hcompletes⟩
    · obtain ⟨reply, hreply⟩ := hanswered _ (List.mem_singleton_self _)
      cases hreply

/-- A program that only sends what leaves the storage as it is leaves it so. -/
lemma Completes.of_keeping {anyPost : Except ε α → Unit → Prop}
    (h : Completes storage program state value sent after)
    (hallowed : program.Ensures (.ofStatements allowed) anyPost ())
    (hkeeps : ∀ statement state, allowed statement → (storage statement state).2 = state) :
    after = state ∧ ∀ exchange ∈ sent, allowed exchange.1 := by
  induction h with
  | done value state => exact ⟨rfl, List.forall_mem_nil _⟩
  | @ask statement next state reached after reply value sent hanswer _ ih =>
    have hreached : reached = state := by
      rw [← hkeeps statement state hallowed.1, hanswer]
    obtain ⟨hafter, hsent⟩ := ih (hallowed.2 reply () trivial)
    exact ⟨hafter.trans hreached, List.forall_mem_cons.mpr ⟨hallowed.1, hsent⟩⟩

/-- A program that leaves two storage states as they are, and sends only what they answer alike,
comes to the same in both. -/
lemma run_eq_of_alike {post : Except ε α → τ → Prop} {other : τ}
    (h : program.Ensures (.ofRuns storage allowed) post state)
    (hkeeps : ∀ statement, allowed statement →
      (storage statement state).2 = state ∧ (storage statement other).2 = other)
    (halike : ∀ statement, allowed statement →
      (storage statement other).1 = (storage statement state).1) :
    (program.run storage other).1 = (program.run storage state).1 := by
  induction program with
  | done result => cases result <;> rfl
  | ask statement next ih =>
    obtain ⟨hstatement, hnext⟩ := h
    obtain ⟨hstate, hother⟩ := hkeeps statement hstatement
    have hanswer : storage statement state = ((storage statement state).1, state) :=
      Prod.ext rfl hstate
    have hanswer' : storage statement other = ((storage statement state).1, other) :=
      Prod.ext (halike statement hstatement) hother
    rw [run, run, hanswer']
    cases hreply : (storage statement state).1 with
    | error error =>
      rw [hreply] at hanswer
      rw [hanswer]
    | ok reply =>
      rw [hreply] at hanswer
      rw [hanswer]
      exact ih reply (hnext reply state hanswer)

end DocTables.Dialogue
