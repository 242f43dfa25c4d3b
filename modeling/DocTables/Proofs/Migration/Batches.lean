import DocTables.Proofs.Migration.Steps
import DocTables.Proofs.Storage.Runs
import Mathlib.Algebra.Order.Floor.Div

/-!
# The batches of a copy

A copy takes the rows of its source in windows of one size, the last of which may be shorter.  The
windows follow each other without a gap and without an overlap (`windows_batchOffsets`), so the
slices that they take, one after the other, are all the rows in their order (`flatMap_slices`).

`CopiesSlices` says of a storage what is needed of it: it reports the number of rows that there are,
and each batch adds its slice to the target and leaves the source as it is.  Against such a storage,
the invariant of a copy is that the target holds the slices of the windows so far
(`copyBatches_ensures`).
-/

namespace DocTables.Migration

open Dialogue

/-! ## Windows -/

/-- The offsets cut a number of rows into windows: from each offset on, `size` rows belong to its
window, as far as there are so many. -/
structure Windows (size count : Nat) (offsets : List Nat) : Prop where
  /-- Every row lies in just one window. -/
  covers : ∀ row < count, ∃! offset, offset ∈ offsets ∧ offset ≤ row ∧ row < offset + size
  /-- Every window has a row in it. -/
  nonempty : ∀ offset ∈ offsets, offset < count
  /-- Each window begins where all those before it have ended. -/
  increasing : offsets.Pairwise fun earlier later => earlier + size ≤ later
  /-- There are no more windows than it takes. -/
  length_eq : offsets.length = count ⌈/⌉ size

variable {size count : Nat}

/-- A number is the offset of a window just if it is a multiple of the size and below the number of
rows. -/
lemma mem_batchOffsets_iff (hsize : 0 < size) {offset : Nat} :
    offset ∈ batchOffsets size count ↔ ∃ batch, offset = batch * size ∧ batch * size < count := by
  have hbelow : ∀ batch, batch < (count + size - 1) / size ↔ batch * size < count := by
    intro batch
    rw [Nat.lt_div_iff_mul_lt hsize]
    omega
  simp only [batchOffsets, List.mem_map, List.mem_range, hbelow]
  constructor
  · rintro ⟨batch, hbatch, rfl⟩
    exact ⟨batch, rfl, hbatch⟩
  · rintro ⟨batch, rfl, hbatch⟩
    exact ⟨batch, hbatch, rfl⟩

/-- The window of a row is that of the multiple of the size below it. -/
lemma windows_batchOffsets (hsize : 0 < size) (count : Nat) :
    Windows size count (batchOffsets size count) := by
  refine ⟨fun row hrow => ?_, fun offset hoffset => ?_, ?_, ?_⟩
  · have hle : row / size * size ≤ row := Nat.div_mul_le_self row size
    have hlt : row < row / size * size + size := Nat.lt_div_mul_add hsize
    refine ⟨row / size * size, ⟨(mem_batchOffsets_iff hsize).mpr ⟨_, rfl, by omega⟩, hle, hlt⟩, ?_⟩
    rintro other ⟨hother, hbegun, hnot⟩
    obtain ⟨batch, rfl, -⟩ := (mem_batchOffsets_iff hsize).mp hother
    rw [← Nat.succ_mul] at hnot
    rw [Nat.div_eq_of_lt_le hbegun hnot]
  · obtain ⟨batch, rfl, hbatch⟩ := (mem_batchOffsets_iff hsize).mp hoffset
    exact hbatch
  · refine List.pairwise_lt_range.map _ fun earlier later hlater => ?_
    calc earlier * size + size = (earlier + 1) * size := (Nat.succ_mul _ _).symm
      _ ≤ later * size := Nat.mul_le_mul_right size hlater
  · rw [batchOffsets, List.length_map, List.length_range, Nat.ceilDiv_eq_add_pred_div]

/-! ## Slices -/

section

variable {α : Type}

/-- The rows in the window of an offset. -/
def slice (rows : List α) (size offset : Nat) : List α := (rows.drop offset).take size

/-- The first rows, and the slice after them, are the first rows of a larger number. -/
lemma take_append_slice (rows : List α) (size start : Nat) :
    rows.take (start * size) ++ slice rows size (start * size) =
      rows.take ((start + 1) * size) := by
  rw [Nat.add_mul, Nat.one_mul, List.take_add, slice]

/-- The slices of all windows are all rows. -/
lemma flatMap_slices (hsize : 0 < size) (rows : List α) :
    (batchOffsets size rows.length).flatMap (slice rows size) = rows := by
  have hslices : ∀ batches, ((List.range batches).map (· * size)).flatMap (slice rows size) =
      rows.take (batches * size) := by
    intro batches
    induction batches with
    | zero => rw [Nat.zero_mul, List.range_zero, List.map_nil, List.flatMap_nil, List.take_zero]
    | succ batches ih =>
      rw [List.range_succ, List.map_append, List.flatMap_append, ih, List.map_singleton,
        List.flatMap_singleton, take_append_slice]
  have hcover : rows.length ≤ (rows.length + size - 1) / size * size := by
    have hlt : rows.length + size - 1 < (rows.length + size - 1) / size * size + size :=
      Nat.lt_div_mul_add hsize
    omega
  rw [batchOffsets, hslices, List.take_of_length_le hcover]

end

/-! ## What is sent -/

/-- A copy in batches that comes to a value has sent one batch for each offset, in order. -/
lemma copyBatches_sent {τ : Type} {storage : Storage MigrationStatement τ} {state after : τ}
    {copy : RowCopy} {copied : Nat} {offsets : List Nat} {sent : List (Exchange MigrationStatement)}
    (h : Completes storage (copyBatches copy size offsets) state copied sent after) :
    sent.map Prod.fst = offsets.map (.copyRows copy size) := by
  induction offsets generalizing state sent copied with
  | nil =>
    obtain ⟨-, rfl, -⟩ := h.of_done
    rfl
  | cons offset rest ih =>
    rw [copyBatches, send_bind] at h
    obtain ⟨reply, reached, later, -, hlater, rfl⟩ := h.of_ask
    obtain ⟨copied', last, batches, tail, hbatches, hdone, rfl⟩ := hlater.of_bind
    obtain ⟨-, rfl, rfl⟩ := hdone.of_done
    rw [List.append_nil, List.map_cons, ih hbatches, List.map_cons]

/-! ## Storages that copy -/

/-- A storage that copies slices.  Of its states is said which rows the source has, in the order of
their numbers, and what the target has; `shape` is what a copy makes of a row. -/
structure CopiesSlices {τ α β : Type} (storage : Storage MigrationStatement τ) (copy : RowCopy)
    (shape : α → β) (holds : List α → List β → τ → Prop) : Prop where
  /-- Reading the source gives as many rows as it has, and changes nothing. -/
  reads : ∀ {rows copied state}, holds rows copied state → ∃ reply after,
    storage (.readAll copy.source) state = (.ok reply, after) ∧
      reply.toRows.length = rows.length ∧ holds rows copied after
  /-- A batch adds its slice to the target, and reports how many rows these are. -/
  copies : ∀ {rows copied state} limit offset, holds rows copied state → ∃ reply after,
    storage (.copyRows copy limit offset) state = (.ok reply, after) ∧
      reply.rowsAffected = (slice rows limit offset).length ∧
      holds rows (copied ++ (slice rows limit offset).map shape) after

variable {τ α β : Type} {storage : Storage MigrationStatement τ} {copy : RowCopy} {shape : α → β}
  {holds : List α → List β → τ → Prop} {condition : τ → Prop} {rows : List α} {copied : List β}
  {state : τ}

/-- Batches add their slices to the target one after the other, and count the rows. -/
lemma copyBatches_ensures (hcopies : CopiesSlices storage copy shape holds)
    (hcondition : ∀ {rows copied state}, holds rows copied state → condition state)
    (offsets : List Nat) (hstate : holds rows copied state) :
    (copyBatches copy size offsets).Ensures (.ofStorage storage condition)
      (fun result after => result = .ok (offsets.flatMap (slice rows size)).length ∧
        holds rows (copied ++ (offsets.flatMap (slice rows size)).map shape) after) state := by
  induction offsets generalizing copied state with
  | nil =>
    refine ⟨rfl, ?_⟩
    rwa [List.flatMap_nil, List.map_nil, List.append_nil]
  | cons offset rest ih =>
    obtain ⟨reply, after, hanswer, hcount, hafter⟩ := hcopies.copies size offset hstate
    rw [copyBatches]
    refine Ensures.ask hanswer (hcondition hstate) ((ih hafter).bind ?_ ?_)
    · rintro moved reached ⟨hmoved, hreached⟩
      rw [List.flatMap_cons, List.length_append, List.map_append, ← List.append_assoc]
      refine ⟨?_, hreached⟩
      rw [Except.ok.inj hmoved, hcount]
    · rintro reason reached ⟨hreason, -⟩
      cases hreason

variable {options : MigrationOptions} {source target : String} {properties : PropertySet}
  {desired : Table} {live : List ReportedColumn}

/-- A copy that is not refused adds all rows of the source to the target, in order and in their new
shape, and counts them; one that is refused adds nothing. -/
lemma copyTable_ensures
    (hcopies : CopiesSlices storage
      (.ofProperties source target properties (live.map ReportedColumn.name)) shape holds)
    (hcondition : ∀ {rows copied state}, holds rows copied state → condition state)
    (hstate : holds rows copied state) :
    (copyTable options source target properties desired live).Ensures (.ofStorage storage condition)
      (fun result after => result = .ok rows.length ∧ holds rows (copied ++ rows.map shape) after ∨
        (∃ reason, result = .error reason) ∧ holds rows copied after) state := by
  have hpositive : 0 < max options.batchSize 1 := by omega
  obtain ⟨reply, after, hanswer, hcount, hafter⟩ := hcopies.reads hstate
  rw [copyTable_eq]
  refine Ensures.ask hanswer (hcondition hstate) ?_
  cases keyCheck desired (reply.toRows.map (reshape properties)) with
  | error reason => exact .inr ⟨⟨reason, rfl⟩, hafter⟩
  | ok _ =>
    refine (copyBatches_ensures hcopies hcondition _ hafter).mono ?_
    rintro result reached hreached
    rw [hcount, flatMap_slices hpositive] at hreached
    exact .inl hreached

end DocTables.Migration
