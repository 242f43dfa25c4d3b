import DocTables.Storage.Dialogue

/-!
# A storage with prepared answers

The answers are given beforehand and handed out in order, whatever is asked; every statement that
was sent is on record. When the answers have run out, the storage fails.
-/

namespace DocTables

/-- The state of a storage with prepared answers. -/
structure Script (σ : Type) where
  /-- The answers that are left. -/
  replies : List (Except StorageError Reply)
  /-- The statements that were sent, in order. -/
  sent : List σ

namespace Script

variable {σ : Type}

/-- The storage that has been asked nothing yet. -/
def start (replies : List (Except StorageError Reply)) : Script σ := ⟨replies, []⟩

/-- The same answers with an empty record. -/
def forget (script : Script σ) : Script σ := ⟨script.replies, []⟩

/-- The failure of a storage without answers. -/
def exhausted : StorageError := ⟨"no scripted reply"⟩

/-- Hands out the next answer and records the statement. -/
def answer : Dialogue.Storage σ (Script σ) := fun statement script =>
  match script.replies with
  | [] => (.error exhausted, ⟨[], script.sent ++ [statement]⟩)
  | reply :: rest => (reply, ⟨rest, script.sent ++ [statement]⟩)

end Script

end DocTables
