import DocTables.Storage.Reply

/-!
# Dialogues with a storage

A program that talks to a storage is a tree: it has come to a result, or it asks for one statement
to be run and goes on with the answer. The tree says nothing of the storage, so the same program is
run against a database, against a list of prepared answers, or reasoned about for every storage.
When the storage fails, the dialogue ends there: nothing is asked after a failure.
-/

namespace DocTables

/-- A program over statements `σ`, with refusals `ε` and results `α`. -/
inductive Dialogue (σ ε α : Type) where
  /-- The program has ended. -/
  | done (result : Except ε α)
  /-- The program asks for a statement to be run. -/
  | ask (statement : σ) (next : Reply → Dialogue σ ε α)

namespace Dialogue

variable {σ ε α β τ : Type}

/-- The program that runs one statement. -/
def send (statement : σ) : Dialogue σ ε Reply := .ask statement fun reply => .done (.ok reply)

/-- The program that refuses to go on. -/
def refuse (reason : ε) : Dialogue σ ε α := .done (.error reason)

/-- Goes on with the result of a program. -/
def bind (program : Dialogue σ ε α) (next : α → Dialogue σ ε β) : Dialogue σ ε β :=
  match program with
  | .done (.ok value) => next value
  | .done (.error reason) => .done (.error reason)
  | .ask statement rest => .ask statement fun reply => (rest reply).bind next

instance : Monad (Dialogue σ ε) where
  pure value := .done (.ok value)
  bind := bind

instance : MonadLift (Except ε) (Dialogue σ ε) where
  monadLift result := .done result

/-- A storage with states `τ`: what it answers to a statement, and its state afterwards. -/
abbrev Storage (σ τ : Type) := σ → τ → Except StorageError Reply × τ

/-- Runs a program against a storage. -/
def run (storage : Storage σ τ) : Dialogue σ ε α → τ → Except (Failure ε) α × τ
  | .done (.ok value), state => (.ok value, state)
  | .done (.error reason), state => (.error (.refused reason), state)
  | .ask statement next, state =>
    match storage statement state with
    | (.error error, state) => (.error (.storage error), state)
    | (.ok reply, state) => (next reply).run storage state

end Dialogue

end DocTables
