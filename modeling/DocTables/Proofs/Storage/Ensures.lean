import DocTables.Storage.Dialogue
import Mathlib.Tactic.Lemma

/-!
# What a dialogue ensures

A dialogue is a finite tree, so what it does against every storage is settled by recursion on it. A
*world* says in which states a statement may be asked for, and which replies and later states it can
lead to; `Ensures` says that a program only asks for what it may, whatever the replies are, and that
its result meets a postcondition. Three worlds are used:

* in the world of a storage the states are those of the storage, and a condition must hold in each
  of them in which the program asks for something.  It then holds wherever the program is stopped
  (`Ensures.holds_stateAfter`);
* in the world of runs a storage may fail, and nothing is required of the states.  What is ensured
  there holds of every run that comes to a value, and of every statement that was sent
  (`Ensures.of_run`, `Ensures.allowed_of_record`);
* in the world of records the states are the statements that were answered so far.  What may be
  asked for then limits the place of every statement in every record (`Ensures.mayAsk_of_record`).

Programs are composed by `Ensures.bind`, so each of them is reasoned about once.
-/

namespace DocTables.Dialogue

variable {σ ε α β τ : Type}

/-! ## Worlds -/

/-- How the states of a world develop under statements. -/
structure World (σ τ : Type) where
  /-- The statements that may be asked for in a state. -/
  mayAsk : τ → σ → Prop
  /-- The replies to a statement, with the states they lead to. -/
  answers : τ → σ → Reply → τ → Prop

/-- Whatever the replies are, the program asks only for what it may, and its result meets the
postcondition. -/
def Ensures (world : World σ τ) (post : Except ε α → τ → Prop) : Dialogue σ ε α → τ → Prop
  | .done result, state => post result state
  | .ask statement next, state =>
    world.mayAsk state statement ∧
      ∀ reply after, world.answers state statement reply after →
        (next reply).Ensures world post after

variable {world : World σ τ} {post : Except ε α → τ → Prop} {state : τ}

/-! ## Rules -/

/-- A lifted result is a program that has ended. -/
@[simp] lemma liftM_eq_done (result : Except ε α) :
    (liftM result : Dialogue σ ε α) = .done result := rfl

/-- A value is a program that has ended. -/
@[simp] lemma pure_eq_done (value : α) : (pure value : Dialogue σ ε α) = .done (.ok value) := rfl

/-- A program that has ended with a value goes on with it. -/
@[simp] lemma done_ok_bind (value : α) (next : α → Dialogue σ ε β) :
    (Dialogue.done (.ok value) >>= next) = next value := rfl

/-- A program that was refused does not go on. -/
@[simp] lemma done_error_bind (reason : ε) (next : α → Dialogue σ ε β) :
    (Dialogue.done (.error reason) >>= next) = .done (.error reason) := rfl

/-- Sending a statement and going on is asking for it. -/
@[simp] lemma send_bind (statement : σ) (next : Reply → Dialogue σ ε β) :
    (send statement >>= next) = .ask statement next := rfl

/-- Sending a statement for its effect is asking for it. -/
lemma discard_send (statement : σ) :
    (discard (send statement) : Dialogue σ ε Unit) = .ask statement fun _ => .done (.ok ()) := rfl

/-- It makes no difference where a program is cut into parts. -/
lemma bind_bind {γ : Type} (program : Dialogue σ ε α) (next : α → Dialogue σ ε β)
    (last : β → Dialogue σ ε γ) :
    (program >>= next >>= last) = program >>= fun value => next value >>= last := by
  induction program with
  | done result => cases result <;> rfl
  | ask statement rest ih => exact congrArg (Dialogue.ask statement) (funext ih)

/-- The postcondition may be weakened. -/
lemma Ensures.mono {weaker : Except ε α → τ → Prop} {program : Dialogue σ ε α}
    (h : program.Ensures world post state)
    (hpost : ∀ result after, post result after → weaker result after) :
    program.Ensures world weaker state := by
  induction program generalizing state with
  | done result => exact hpost _ _ h
  | ask statement next ih =>
    refine ⟨h.1, fun reply after hafter => ?_⟩
    exact ih reply (h.2 reply after hafter)

/-- What goes on after a program starts from what the program ensures. -/
lemma Ensures.bind {final : Except ε β → τ → Prop} {program : Dialogue σ ε α}
    {next : α → Dialogue σ ε β} (h : program.Ensures world post state)
    (hok : ∀ value after, post (.ok value) after → (next value).Ensures world final after)
    (herror : ∀ reason after, post (.error reason) after → final (.error reason) after) :
    (program >>= next).Ensures world final state := by
  induction program generalizing state with
  | done result =>
    cases result with
    | ok value => exact hok value state h
    | error reason => exact herror reason state h
  | ask statement rest ih =>
    refine ⟨h.1, fun reply after hafter => ?_⟩
    exact ih reply (h.2 reply after hafter)

/-! ## The world of a storage -/

/-- The state in which a storage is left when the program is stopped after a number of statements. A
program that ends before, or that a failing statement ends, is stopped there. -/
def stateAfter (storage : Storage σ τ) : Nat → Dialogue σ ε α → τ → τ
  | 0, _, state => state
  | _ + 1, .done _, state => state
  | count + 1, .ask statement next, state =>
    match storage statement state with
    | (.ok reply, after) => stateAfter storage count (next reply) after
    | (.error _, after) => after

/-- The world of a storage that never fails on what may be asked for, with a condition on the states
in which something is asked for. -/
def World.ofStorage (storage : Storage σ τ) (condition : τ → Prop) : World σ τ where
  mayAsk state statement :=
    condition state ∧ ∃ reply after, storage statement state = (.ok reply, after)
  answers state statement reply after := storage statement state = (.ok reply, after)

variable {storage : Storage σ τ} {condition : τ → Prop}

/-- A statement that succeeds is asked for, and the program goes on with its reply. -/
lemma Ensures.ask {statement : σ} {reply : Reply} {after : τ} {next : Reply → Dialogue σ ε α}
    (hanswer : storage statement state = (.ok reply, after)) (hcondition : condition state)
    (h : (next reply).Ensures (.ofStorage storage condition) post after) :
    (Dialogue.ask statement next).Ensures (.ofStorage storage condition) post state := by
  refine ⟨⟨hcondition, reply, after, hanswer⟩, fun reply' after' hanswer' => ?_⟩
  have heq : (Except.ok reply, after) = (.ok reply', after') := hanswer.symm.trans hanswer'
  obtain ⟨hreply, hafter⟩ := Prod.mk.inj heq
  cases hreply
  cases hafter
  exact h

/-- The condition holds wherever a program is stopped. -/
lemma Ensures.holds_stateAfter {program : Dialogue σ ε α}
    (h : program.Ensures (.ofStorage storage condition) post state)
    (hpost : ∀ result after, post result after → condition after) (count : Nat) :
    condition (program.stateAfter storage count state) := by
  induction program generalizing state count with
  | done result =>
    cases count with
    | zero => exact hpost _ _ h
    | succ count => exact hpost _ _ h
  | ask statement next ih =>
    obtain ⟨⟨hcondition, reply, after, hanswer⟩, hnext⟩ := h
    cases count with
    | zero => exact hcondition
    | succ count =>
      rw [stateAfter, hanswer]
      exact ih reply (hnext reply after hanswer) count

/-- A program that is not stopped ends in the postcondition, and the storage does not fail. -/
lemma Ensures.run_eq {program : Dialogue σ ε α}
    (h : program.Ensures (.ofStorage storage condition) post state) :
    ∃ result after, program.run storage state = (result.mapError .refused, after) ∧
      post result after := by
  induction program generalizing state with
  | done result =>
    refine ⟨result, state, ?_, h⟩
    cases result <;> rfl
  | ask statement next ih =>
    obtain ⟨⟨-, reply, after, hanswer⟩, hnext⟩ := h
    rw [run, hanswer]
    exact ih reply (hnext reply after hanswer)

/-! ## The world of records -/

/-- A statement with the answer to it. -/
abbrev Exchange (σ : Type) := σ × Except StorageError Reply

/-- The statements that a program sends to a storage, with the answers to them. -/
def record (storage : Storage σ τ) : Dialogue σ ε α → τ → List (Exchange σ)
  | .done _, _ => []
  | .ask statement next, state =>
    match storage statement state with
    | (.ok reply, after) => (statement, .ok reply) :: (next reply).record storage after
    | (.error error, _) => [(statement, .error error)]

/-- The world whose states are the records of what was answered, with the statements that may be
asked for after each of them. -/
def World.ofRecords (mayAsk : List (Exchange σ) → σ → Prop) : World σ (List (Exchange σ)) where
  mayAsk := mayAsk
  answers past statement reply after := after = past ++ [(statement, .ok reply)]

/-- In the world of records a program goes on with every reply. -/
lemma Ensures.askRecorded {mayAsk : List (Exchange σ) → σ → Prop}
    {post : Except ε α → List (Exchange σ) → Prop} {past : List (Exchange σ)} {statement : σ}
    {next : Reply → Dialogue σ ε α} (hmay : mayAsk past statement)
    (h : ∀ reply, (next reply).Ensures (.ofRecords mayAsk) post
      (past ++ [(statement, .ok reply)])) :
    (Dialogue.ask statement next).Ensures (.ofRecords mayAsk) post past := by
  refine ⟨hmay, ?_⟩
  rintro reply after rfl
  exact h reply

/-- The world that only tells statements that may be asked for from others. -/
def World.ofStatements (allowed : σ → Prop) : World σ Unit where
  mayAsk _ statement := allowed statement
  answers _ _ _ _ := True

/-- A program that only asks for what is always allowed adds only such statements to a record. -/
lemma Ensures.ofRecords {allowed : σ → Prop} {mayAsk : List (Exchange σ) → σ → Prop}
    {program : Dialogue σ ε α} {post : Except ε α → Unit → Prop} {past : List (Exchange σ)}
    (h : program.Ensures (.ofStatements allowed) post ())
    (hmay : ∀ past statement, allowed statement → mayAsk past statement) :
    program.Ensures (.ofRecords mayAsk) (fun _ after => ∃ sent, after = past ++ sent ∧
      ∀ exchange ∈ sent, allowed exchange.1) past := by
  induction program generalizing past with
  | done result => exact ⟨[], by simp, by simp⟩
  | ask statement next ih =>
    refine askRecorded (hmay _ _ h.1) fun reply => (ih reply (h.2 reply () trivial)).mono ?_
    rintro result after ⟨sent, rfl, hsent⟩
    refine ⟨(statement, .ok reply) :: sent, by simp, ?_⟩
    intro exchange hexchange
    rcases List.mem_cons.mp hexchange with rfl | hrest
    · exact h.1
    · exact hsent exchange hrest

/-- What a program sends is sent as well when something else comes after it. -/
lemma mem_record_bind {program : Dialogue σ ε α} {exchange : Exchange σ}
    (h : exchange ∈ program.record storage state) (next : α → Dialogue σ ε β) :
    exchange ∈ (program >>= next).record storage state := by
  induction program generalizing state with
  | done result => exact absurd h List.not_mem_nil
  | ask statement rest ih =>
    change exchange ∈ (Dialogue.ask statement fun reply => rest reply >>= next).record storage state
    rw [record] at h ⊢
    cases hanswer : storage statement state with
    | mk answer reached =>
      rw [hanswer] at h
      cases answer with
      | error error => exact h
      | ok reply =>
        rcases List.mem_cons.mp h with hfirst | hrest
        · rw [hfirst]
          exact List.mem_cons_self
        · exact List.mem_cons_of_mem _ (ih reply hrest)

/-- Every statement in a record may be asked for after those before it. -/
lemma Ensures.mayAsk_of_record {mayAsk : List (Exchange σ) → σ → Prop}
    {post : Except ε α → List (Exchange σ) → Prop} {program : Dialogue σ ε α}
    {past before after : List (Exchange σ)} {statement : σ} {answer : Except StorageError Reply}
    (h : program.Ensures (.ofRecords mayAsk) post past)
    (hrecord : program.record storage state = before ++ (statement, answer) :: after) :
    mayAsk (past ++ before) statement := by
  induction program generalizing past before state with
  | done result =>
    rw [record] at hrecord
    exact absurd hrecord.symm (List.append_ne_nil_of_right_ne_nil _ (List.cons_ne_nil _ _))
  | ask asked next ih =>
    obtain ⟨hasked, hnext⟩ := h
    cases before with
    | nil =>
      -- the statement is the first one of the record
      have hstatement : asked = statement := by
        rw [record] at hrecord
        split at hrecord
        · exact (Prod.mk.inj (List.cons.inj hrecord).1).1
        · exact (Prod.mk.inj (List.cons.inj hrecord).1).1
      rw [List.append_nil, ← hstatement]
      exact hasked
    | cons first rest =>
      rw [record] at hrecord
      split at hrecord
      · rename_i reply state' hanswer
        obtain ⟨hfirst, hrest⟩ := List.cons.inj hrecord
        rw [← hfirst, List.append_cons]
        exact ih reply (hnext reply _ rfl) hrest
      · have hnil := (List.cons.inj hrecord).2
        exact absurd hnil.symm (List.append_ne_nil_of_right_ne_nil _ (List.cons_ne_nil _ _))

/-- A failure is the last answer, and the program ends with it. -/
lemma record_error {program : Dialogue σ ε α} {before after : List (Exchange σ)} {statement : σ}
    {error : StorageError}
    (hrecord : program.record storage state = before ++ (statement, .error error) :: after) :
    after = [] ∧ (program.run storage state).1 = .error (.storage error) := by
  induction program generalizing before state with
  | done result =>
    rw [record] at hrecord
    exact absurd hrecord.symm (List.append_ne_nil_of_right_ne_nil _ (List.cons_ne_nil _ _))
  | ask asked next ih =>
    rw [record] at hrecord
    rw [run]
    split at hrecord
    · rename_i reply state' hanswer
      cases before with
      | nil => cases hrecord
      | cons first rest =>
        rw [hanswer]
        exact ih reply (List.cons.inj hrecord).2
    · rename_i failure state' hanswer
      cases before with
      | nil =>
        obtain ⟨hpair, hafter⟩ := List.cons.inj hrecord
        rw [hanswer, Except.error.inj (Prod.mk.inj hpair).2]
        exact ⟨hafter.symm, rfl⟩
      | cons first rest =>
        have hnil := (List.cons.inj hrecord).2
        exact absurd hnil.symm (List.append_ne_nil_of_right_ne_nil _ (List.cons_ne_nil _ _))

/-! ## The world of runs -/

/-- The world of a storage that may fail, with the statements that may be asked for. -/
def World.ofRuns (storage : Storage σ τ) (allowed : σ → Prop) : World σ τ where
  mayAsk _ statement := allowed statement
  answers state statement reply after := storage statement state = (.ok reply, after)

variable {allowed : σ → Prop}

/-- A run that comes to a value ends in the postcondition. -/
lemma Ensures.of_run {program : Dialogue σ ε α} {value : α} {after : τ}
    (h : program.Ensures (.ofRuns storage allowed) post state)
    (hrun : program.run storage state = (.ok value, after)) : post (.ok value) after := by
  induction program generalizing state with
  | done result =>
    cases result with
    | ok value' =>
      obtain ⟨hvalue, hafter⟩ := Prod.mk.inj hrun
      rw [← Except.ok.inj hvalue, ← hafter]
      exact h
    | error reason => cases (Prod.mk.inj hrun).1
  | ask statement next ih =>
    rw [run] at hrun
    split at hrun
    · cases (Prod.mk.inj hrun).1
    · rename_i reply reached hanswer
      exact ih reply (h.2 reply reached hanswer) hrun

/-- Every statement in the record of a run may be asked for. -/
lemma Ensures.allowed_of_record {program : Dialogue σ ε α}
    (h : program.Ensures (.ofRuns storage allowed) post state) :
    ∀ exchange ∈ program.record storage state, allowed exchange.1 := by
  induction program generalizing state with
  | done result => exact fun exchange hexchange => absurd hexchange List.not_mem_nil
  | ask statement next ih =>
    intro exchange hexchange
    rw [record] at hexchange
    split at hexchange
    · rename_i reply reached hanswer
      rcases List.mem_cons.mp hexchange with rfl | hrest
      · exact h.1
      · exact ih reply (h.2 reply reached hanswer) exchange hrest
    · rw [List.mem_singleton.mp hexchange]
      exact h.1

/-- A program that only asks for what is always allowed does so in every run, and maintains what
each of these statements maintains. -/
lemma Ensures.maintains {holds : τ → Prop} {program : Dialogue σ ε α}
    {anyPost : Except ε α → Unit → Prop}
    (h : program.Ensures (.ofStatements allowed) anyPost ())
    (hstep : ∀ statement reply before after, allowed statement → holds before →
      storage statement before = (.ok reply, after) → holds after) (hstate : holds state) :
    program.Ensures (.ofRuns storage allowed) (fun _ after => holds after) state := by
  induction program generalizing state with
  | done result => exact hstate
  | ask statement next ih =>
    refine ⟨h.1, fun reply after hanswer => ?_⟩
    exact ih reply (h.2 reply () trivial) (hstep statement reply state after h.1 hstate hanswer)

/-- So it keeps what each of these statements keeps. -/
lemma Ensures.keeps {ι : Type} {view : τ → ι} {program : Dialogue σ ε α}
    {anyPost : Except ε α → Unit → Prop}
    (h : program.Ensures (.ofStatements allowed) anyPost ())
    (hkeeps : ∀ statement reply before after, allowed statement →
      storage statement before = (.ok reply, after) → view after = view before) :
    program.Ensures (.ofRuns storage allowed) (fun _ after => view after = view state) state := by
  have hstep : ∀ statement reply before after, allowed statement → view before = view state →
      storage statement before = (.ok reply, after) → view after = view state :=
    fun statement reply before after hallowed hsame hanswer =>
      (hkeeps statement reply before after hallowed hanswer).trans hsame
  exact h.maintains hstep rfl

/-- Every statement that such a program sends is allowed. -/
lemma Ensures.sends_allowed {program : Dialogue σ ε α} {anyPost : Except ε α → Unit → Prop}
    (h : program.Ensures (.ofStatements allowed) anyPost ()) (storage : Storage σ τ) (state : τ) :
    ∀ exchange ∈ program.record storage state, allowed exchange.1 := by
  have hruns : program.Ensures (.ofRuns storage allowed) (fun _ _ => True) state :=
    h.maintains (fun _ _ _ _ _ _ _ => trivial) trivial
  exact hruns.allowed_of_record

/-- What is ensured of a storage that does not fail is ensured of its runs. -/
lemma Ensures.ofRuns {program : Dialogue σ ε α} {anyPost : Except ε α → Unit → Prop}
    (h : program.Ensures (.ofStorage storage condition) post state)
    (hallowed : program.Ensures (.ofStatements allowed) anyPost ()) :
    program.Ensures (.ofRuns storage allowed) post state := by
  induction program generalizing state with
  | done result => exact h
  | ask statement next ih =>
    refine ⟨hallowed.1, fun reply after hanswer => ?_⟩
    exact ih reply (h.2 reply after hanswer) (hallowed.2 reply () trivial)

/-- More statements may be allowed. -/
lemma Ensures.allow {more : σ → Prop} {program : Dialogue σ ε α}
    (h : program.Ensures (.ofRuns storage allowed) post state)
    (hmore : ∀ statement, allowed statement → more statement) :
    program.Ensures (.ofRuns storage more) post state := by
  induction program generalizing state with
  | done result => exact h
  | ask statement next ih =>
    exact ⟨hmore statement h.1, fun reply after hanswer => ih reply (h.2 reply after hanswer)⟩

end DocTables.Dialogue
