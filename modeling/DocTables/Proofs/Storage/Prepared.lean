import DocTables.Storage.Script
import DocTables.Proofs.Storage.Ensures

/-!
# Runs against prepared answers

A program that is run against prepared answers gets the replies that come before the first failure.
They settle what it asks for (`Dialogue.asked`) and whether it comes to an end
(`Dialogue.outcome?`); if they do not bring it to an end, it ends with the failure
(`Dialogue.run_answer`).  So what such a run does is a matter of lists of replies, with no storage
in it.
-/

namespace DocTables

namespace Script

/-- The replies that are handed out before the first failure. -/
def given : List (Except StorageError Reply) → List Reply
  | .ok reply :: rest => reply :: given rest
  | .error _ :: _ => []
  | [] => []

/-- The first failure. Without one, the answers run out. -/
def failure : List (Except StorageError Reply) → StorageError
  | .ok _ :: rest => failure rest
  | .error error :: _ => error
  | [] => exhausted

end Script

namespace Dialogue

variable {σ ε α β : Type}

/-- The statements that a program asks for when it gets some replies and no others. The last one may
be without a reply. -/
def asked : Dialogue σ ε α → List Reply → List σ
  | .done _, _ => []
  | .ask statement _, [] => [statement]
  | .ask statement next, reply :: rest => statement :: (next reply).asked rest

/-- The end that a program comes to when it gets some replies, if they are enough. -/
def outcome? : Dialogue σ ε α → List Reply → Option (Except ε α)
  | .done result, _ => some result
  | .ask .., [] => none
  | .ask _ next, reply :: rest => (next reply).outcome? rest

/-- The result of a run that comes to an end or is stopped by a failure. -/
def resultOf (error : StorageError) : Option (Except ε α) → Except (Failure ε) α
  | some result => result.mapError .refused
  | none => .error (.storage error)

section Results

variable {result : Except ε α}

/-- Refusals are told from failures of the storage. -/
lemma mapError_refused_ne_storage {error : StorageError} :
    result.mapError .refused ≠ (.error (.storage error) : Except (Failure ε) α) := by
  intro h
  cases result <;> cases h

lemma mapError_refused_eq_error_iff {reason : ε} :
    result.mapError .refused = (.error (.refused reason) : Except (Failure ε) α) ↔
      result = .error reason := by
  constructor
  · intro h
    cases result <;> cases h
    rfl
  · rintro rfl
    rfl

lemma mapError_refused_eq_ok_iff {value : α} :
    result.mapError .refused = (.ok value : Except (Failure ε) α) ↔ result = .ok value := by
  constructor
  · intro h
    cases result <;> cases h
    rfl
  · rintro rfl
    rfl

end Results

/-- A run against prepared answers depends on the replies before the first failure. -/
lemma run_answer (program : Dialogue σ ε α) (replies : List (Except StorageError Reply))
    (sent : List σ) :
    (program.run Script.answer ⟨replies, sent⟩).1 =
        resultOf (Script.failure replies) (program.outcome? (Script.given replies)) ∧
      (program.run Script.answer ⟨replies, sent⟩).2.sent =
        sent ++ program.asked (Script.given replies) := by
  induction program generalizing replies sent with
  | done result =>
    refine ⟨?_, ?_⟩
    · cases result <;> rfl
    · cases result <;> exact (List.append_nil sent).symm
  | ask statement next ih =>
    rcases replies with _ | ⟨_ | reply, rest⟩
    · exact ⟨rfl, rfl⟩
    · exact ⟨rfl, rfl⟩
    · obtain ⟨hresult, hsent⟩ := ih reply rest (sent ++ [statement])
      refine ⟨hresult, hsent.trans ?_⟩
      rw [List.append_assoc]
      rfl

variable {given : List Reply}

/-- A program that is not at its end has asked for one statement more than there are replies. -/
lemma outcome?_eq_none_iff (program : Dialogue σ ε α) (given : List Reply) :
    program.outcome? given = none ↔ (program.asked given).length = given.length + 1 := by
  induction program generalizing given with
  | done result => simp [outcome?, asked]
  | ask statement next ih =>
    rcases given with _ | ⟨reply, rest⟩
    · simp [outcome?, asked]
    · rw [outcome?, ih, asked, List.length_cons, List.length_cons, Nat.add_right_cancel_iff]

/-- A result is worked on without further statements. -/
lemma asked_bind_done (program : Dialogue σ ε α) (f : α → Except ε β) :
    (program >>= fun value => .done (f value)).asked given = program.asked given := by
  induction program generalizing given with
  | done result => cases result <;> rfl
  | ask statement next ih =>
    rcases given with _ | ⟨reply, rest⟩
    · rfl
    · exact congrArg (statement :: ·) (ih reply)

lemma outcome?_bind_done (program : Dialogue σ ε α) (f : α → Except ε β) :
    (program >>= fun value => .done (f value)).outcome? given =
      (program.outcome? given).map (· >>= f) := by
  induction program generalizing given with
  | done result => cases result <;> rfl
  | ask statement next ih =>
    rcases given with _ | ⟨reply, rest⟩
    · rfl
    · exact ih reply

end Dialogue

end DocTables
