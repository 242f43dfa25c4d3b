import DocTables.Proofs.Query.Edits
import DocTables.Proofs.Storage.Ensures
import DocTables.Query.Execution
import DocTables.Record
import DocTables.Storage.Script
import Mathlib.Algebra.Order.Floor.Semifield
import Mathlib.Data.Rat.Floor

/-!
# What queries yield

A query sends one statement or none, and its verb says how the answer to it is read.  `Query.Yields`
says so by itself, with one rule for each pairing of verb and answer: the records of a read are
those of the rows that are not empty, a count is the number in the first row, and an answer that the
verb does not produce is refused.

A count may be any JSON number.  `Json.Number.count` is the greatest natural number of 64 bits that
is not above it, and zero for what is below zero; the exact value of a binary number is a rational
one here.
-/

namespace DocTables

/-! ## Counts -/

namespace Binary64

/-- The rational number that a sign, a significand and an exponent stand for. -/
def valueOf (negative : Bool) (m : Nat) (e : Int) : ℚ :=
  (if negative then -1 else 1) * (m * 2 ^ e)

/-- A number with a minus sign is not above zero. -/
lemma valueOf_nonpos (m : Nat) (e : Int) : valueOf true m e ≤ 0 := by
  have hsize : (0 : ℚ) ≤ m * 2 ^ e := mul_nonneg (Nat.cast_nonneg m) (zpow_nonneg zero_le_two e)
  rw [valueOf, if_pos rfl, neg_one_mul]
  exact neg_nonpos.mpr hsize

/-- The integer part of a number without a minus sign is its floor. -/
lemma truncate?_finite_false (m : Nat) (e : Int) :
    (finite false m e).truncate? = some (⌊valueOf false m e⌋₊ : Int) := by
  have hvalue : valueOf false m e = m * 2 ^ e := by
    rw [valueOf, if_neg Bool.false_ne_true, one_mul]
  simp only [truncate?, Bool.false_eq_true, if_false, hvalue]
  congr 2
  split
  · rename_i he
    obtain ⟨k, rfl⟩ := Int.eq_ofNat_of_zero_le he
    have hcast : (m : ℚ) * 2 ^ (k : Int) = ((m * 2 ^ k : Nat) : ℚ) := by
      push_cast
      rw [zpow_natCast]
    rw [hcast, Nat.floor_natCast]
    rfl
  · rename_i he
    obtain ⟨k, hk⟩ := Int.eq_ofNat_of_zero_le (show 0 ≤ -e by omega)
    have hcast : (m : ℚ) * 2 ^ e = (m : ℚ) / ((2 ^ k : Nat) : ℚ) := by
      rw [← neg_neg e, hk, zpow_neg, zpow_natCast, div_eq_mul_inv]
      push_cast
      rfl
    rw [hcast, Nat.floor_div_eq_div, hk]
    rfl

/-- The integer part of a number with a minus sign is not above zero. -/
lemma toNat_truncate?_finite_true (m : Nat) (e : Int) :
    ((finite true m e).truncate?.getD 0).toNat = 0 := by
  simp only [truncate?, if_true, Option.getD_some]
  omega

/-- The leading binary digit of a natural number is where its logarithm says. -/
lemma leadingExponent_one {n : Nat} (hn : n ≠ 0) : leadingExponent n 1 = n.log2 := by
  have hone : Nat.log2 1 = 0 := by decide
  have hle : 1 * Nat.pow 2 n.log2 ≤ n := by
    rw [one_mul]
    exact Nat.log2_self_le hn
  unfold leadingExponent
  rw [hone]
  simp only [scaleDown, Nat.cast_zero, sub_zero, Nat.cast_nonneg, if_true, Int.toNat_natCast, hle]

/-- A quotient is not rounded to less than its integer part. -/
lemma div_le_roundQuotient (n d : Nat) : n / d ≤ roundQuotient n d := by
  simp only [roundQuotient]
  split <;> omega

/-- A natural number beyond 64 bits is not brought back among them by rounding. -/
lemma greatest_le_truncate?_ofRatio {n : Nat} (hn : 2 ^ 64 ≤ n) :
    ofRatio false n 1 = .infinite false ∨
      2 ^ 64 ≤ ((ofRatio false n 1).truncate?.getD 0).toNat := by
  have hzero : n ≠ 0 := by omega
  have hlog : 64 ≤ n.log2 := (Nat.le_log2 hzero).mpr hn
  obtain ⟨k, hk⟩ := Nat.exists_eq_add_of_le (show 52 ≤ n.log2 by omega)
  have hexponent : max (leadingExponent n 1 - 52) leastExponent = k := by
    rw [leadingExponent_one hzero, leastExponent]
    omega
  have hscaled : scaleDown n 1 k = (n, 2 ^ k) := by
    simp [scaleDown]
  have hlarge : leastNormal * 2 ^ k ≤ n := by
    have hpow : leastNormal * 2 ^ k = 2 ^ n.log2 := by
      rw [hk, pow_add]
      rfl
    rw [hpow]
    exact Nat.log2_self_le hzero
  have hround : leastNormal ≤ roundQuotient n (2 ^ k) :=
    ((Nat.le_div_iff_mul_le (by positivity)).mpr hlarge).trans (div_le_roundQuotient n _)
  have hbeyond : ∀ m j : Nat, 2 ^ 64 ≤ m * 2 ^ j →
      (if greatestExponent < (j : Int) then infinite false
        else finite false m j) = .infinite false ∨
        2 ^ 64 ≤ ((if greatestExponent < (j : Int) then infinite false
          else finite false m j).truncate?.getD 0).toNat := by
    intro m j hm
    split
    · exact .inl rfl
    · right
      simp only [truncate?, Option.getD_some, Bool.false_eq_true, if_false, Int.natCast_nonneg,
        if_true, Int.toNat_natCast]
      exact hm
  have hpow : 2 ^ 64 ≤ leastNormal * 2 ^ k := by
    have hk' : 2 ^ 12 ≤ 2 ^ k := Nat.pow_le_pow_right (by decide) (by omega)
    calc 2 ^ 64 = leastNormal * 2 ^ 12 := by decide
      _ ≤ leastNormal * 2 ^ k := Nat.mul_le_mul_left _ hk'
  unfold ofRatio
  rw [if_neg hzero]
  simp only [hexponent, hscaled]
  split
  · have hgrows : 2 ^ k ≤ 2 ^ (k + 1) := Nat.pow_le_pow_right (by decide) (Nat.le_succ k)
    exact hbeyond _ (k + 1) (hpow.trans (Nat.mul_le_mul_left _ hgrows))
  · exact hbeyond _ k (hpow.trans (Nat.mul_le_mul_right _ hround))

/-- Rounding keeps the sign. -/
lemma ofRatio_true (n d : Nat) :
    ofRatio true n d = .infinite true ∨ ∃ m e, ofRatio true n d = .finite true m e := by
  have hsign : ∀ m e,
      (if greatestExponent < e then infinite true else finite true m e) = .infinite true ∨
      ∃ m' e', (if greatestExponent < e then infinite true else finite true m e) =
        .finite true m' e' := by
    intro m e
    split
    · exact .inl rfl
    · exact .inr ⟨m, e, rfl⟩
  unfold ofRatio
  split
  · exact .inr ⟨_, _, rfl⟩
  · exact hsign _ _

/-- A number without its fraction, moved among the natural numbers of 64 bits. -/
def toNat64 : Binary64 → Nat
  | .infinite false => Json.greatestNat64
  | x => min Json.greatestNat64 (x.truncate?.getD 0).toNat

/-- A finite number is moved to the greatest natural number of 64 bits that is not above it. -/
lemma toNat64_finite (negative : Bool) (m : Nat) (e : Int) :
    (finite negative m e).toNat64 = min Json.greatestNat64 ⌊valueOf negative m e⌋₊ := by
  rw [toNat64]
  · cases negative with
    | false => rw [truncate?_finite_false, Option.getD_some, Int.toNat_natCast]
    | true => rw [toNat_truncate?_finite_true, Nat.floor_of_nonpos (valueOf_nonpos m e)]
  · nofun

/-- A negative integer is moved to zero. -/
lemma toNat64_ofInt_of_neg {n : Int} (h : n < 0) : (ofInt n).toNat64 = 0 := by
  rw [ofInt, decide_eq_true h]
  rcases ofRatio_true n.natAbs 1 with hround | ⟨m, e, hround⟩
  · rw [hround]
    rfl
  · rw [hround, toNat64_finite, Nat.floor_of_nonpos (valueOf_nonpos m e), Nat.min_zero]

/-- An integer beyond 64 bits is moved to the greatest number of 64 bits. -/
lemma toNat64_ofInt_of_lt {n : Int} (h : Json.greatestNat64 < n) :
    (ofInt n).toNat64 = Json.greatestNat64 := by
  have hgreatest : Json.greatestNat64 = 2 ^ 64 - 1 := rfl
  rw [ofInt, decide_eq_false (by omega)]
  rcases greatest_le_truncate?_ofRatio (show 2 ^ 64 ≤ n.natAbs by omega) with hround | hround
  · rw [hround]
    rfl
  · unfold toNat64
    split
    · rfl
    · omega

end Binary64

/-- The greatest natural number of 64 bits that is not above a number, and zero where there is
none. -/
def Json.Number.count : Json.Number → Nat
  | .int n => min greatestNat64 n.toNat
  | .float (.finite negative m e) => min greatestNat64 ⌊Binary64.valueOf negative m e⌋₊
  | .float (.infinite negative) => if negative then 0 else greatestNat64
  | .float .nan => 0

namespace Query

/-- A number is read as its count. -/
lemma countValue?_number (n : Json.Number) : countValue? (.number n) = some n.count := by
  have hbinary (h : n.toNat64? = none) : countValue? (.number n) = some n.toBinary64.toNat64 := by
    rw [countValue?, h]
    rfl
  cases n with
  | int n =>
    by_cases hrange : 0 ≤ n ∧ n ≤ Json.greatestNat64
    · have hnat : (Json.Number.int n).toNat64? = some n.toNat := if_pos hrange
      have hcount : min Json.greatestNat64 n.toNat = n.toNat := by omega
      rw [countValue?, hnat, Json.Number.count, hcount]
    · rw [hbinary (if_neg hrange), Json.Number.count, Json.Number.toBinary64]
      by_cases hnegative : n < 0
      · rw [Binary64.toNat64_ofInt_of_neg hnegative, Int.toNat_of_nonpos hnegative.le, Nat.min_zero]
      · rw [Binary64.toNat64_ofInt_of_lt (by omega), Nat.min_eq_left (by omega)]
  | float x =>
    rw [hbinary rfl, Json.Number.toBinary64]
    cases x with
    | nan => rfl
    | infinite negative => cases negative <;> rfl
    | finite negative m e => rw [Binary64.toNat64_finite, Json.Number.count]

variable {ρ τ : Type} {record : String → Row → ρ} {toRecord : Row → ρ} {rows : List Row}
  {query : Query} {reply : Reply} {result : Except QueryError (QueryResult ρ)}

/-- The count of an answer is the number in its first row. -/
lemma countOf_cons {row : Row} {n : Json.Number} (h : row.get? "count" = some (.number n)) :
    countOf (row :: rows) = .ok n.count := by
  have hfound : (((row :: rows).head?.bind fun row => row.get? "count").bind countValue?) =
      some n.count := by
    rw [List.head?_cons, Option.bind_some, h, Option.bind_some, countValue?_number]
  rw [countOf, hfound]

/-- An answer without a number in its first row has no count. -/
lemma countOf_of_no_number
    (h : ∀ row ∈ rows.head?, ∀ n, row.get? "count" ≠ some (.number n)) :
    countOf rows = .error .noCount := by
  have hnone : ((rows.head?.bind fun row => row.get? "count").bind countValue?) = none := by
    rw [Option.bind_eq_none_iff]
    intro value hvalue
    obtain ⟨row, hrow, hvalue⟩ := Option.bind_eq_some_iff.mp hvalue
    cases value with
    | number n => exact absurd hvalue (h row hrow n)
    | _ => rfl
  rw [countOf, hnone]

/-! ## Records -/

/-- The records of the rows that are not empty, in their order. -/
inductive RecordsOf (toRecord : Row → ρ) : List Row → List ρ → Prop
  /-- No rows have no records. -/
  | nil : RecordsOf toRecord [] []
  /-- An empty row has no record. -/
  | empty {rows : List Row} {records : List ρ} (hrest : RecordsOf toRecord rows records) :
    RecordsOf toRecord ([] :: rows) records
  /-- Any other row has its record. -/
  | row {row : Row} {rows : List Row} {records : List ρ} (hrow : row ≠ [])
    (hrest : RecordsOf toRecord rows records) :
    RecordsOf toRecord (row :: rows) (toRecord row :: records)

/-- The record of the first row that is not empty, if there is one. -/
inductive FirstRecordOf (toRecord : Row → ρ) : List Row → Option ρ → Prop
  /-- All rows are empty. -/
  | none {rows : List Row} (hempty : ∀ row ∈ rows, row = []) : FirstRecordOf toRecord rows none
  /-- All rows before this one are empty. -/
  | some (before : List Row) {row : Row} (after : List Row) (hbefore : ∀ row ∈ before, row = [])
    (hrow : row ≠ []) : FirstRecordOf toRecord (before ++ row :: after) (some (toRecord row))

/-- The rows of an answer that are not empty. -/
def filledRows (rows : List Row) : List Row := rows.filter fun row => !row.isEmpty

lemma filledRows_nil_cons (rows : List Row) : filledRows ([] :: rows) = filledRows rows := rfl

lemma filledRows_cons {row : Row} (hrow : row ≠ []) (rows : List Row) :
    filledRows (row :: rows) = row :: filledRows rows :=
  List.filter_cons_of_pos (by simpa using hrow)

/-- Empty rows at the beginning do not count. -/
lemma filledRows_append {before : List Row} (hbefore : ∀ row ∈ before, row = []) (rows : List Row) :
    filledRows (before ++ rows) = filledRows rows := by
  have hnone : filledRows before = [] :=
    List.filter_eq_nil_iff.mpr fun row hrow => by simp [hbefore row hrow]
  rw [filledRows, List.filter_append]
  exact congrArg (· ++ filledRows rows) hnone

/-- The records are those of the rows that are left. -/
lemma recordsOf_iff {records : List ρ} :
    RecordsOf toRecord rows records ↔ (filledRows rows).map toRecord = records := by
  constructor
  · intro h
    induction h with
    | nil => rfl
    | empty _ ih => rw [filledRows_nil_cons, ih]
    | row hrow _ ih => rw [filledRows_cons hrow, List.map_cons, ih]
  · rintro rfl
    induction rows with
    | nil => exact .nil
    | cons row rows ih =>
      by_cases hrow : row = []
      · rw [hrow, filledRows_nil_cons]
        exact .empty ih
      · rw [filledRows_cons hrow, List.map_cons]
        exact .row hrow ih

/-- The first record is that of the first row that is left. -/
lemma firstRecordOf_iff {found : Option ρ} :
    FirstRecordOf toRecord rows found ↔ ((filledRows rows).map toRecord).head? = found := by
  constructor
  · intro h
    cases h with
    | none hempty =>
      have hnone := filledRows_append hempty []
      rw [List.append_nil] at hnone
      rw [hnone]
      rfl
    | some before after hbefore hrow =>
      rw [filledRows_append hbefore, filledRows_cons hrow]
      rfl
  · rintro rfl
    induction rows with
    | nil => exact .none (List.forall_mem_nil _)
    | cons row rows ih =>
      by_cases hrow : row = []
      · rw [hrow, filledRows_nil_cons]
        generalize ((filledRows rows).map toRecord).head? = found at ih
        cases ih with
        | none hempty => exact .none (List.forall_mem_cons.mpr ⟨rfl, hempty⟩)
        | some before after hbefore hrow =>
          exact .some ([] :: before) after (List.forall_mem_cons.mpr ⟨rfl, hbefore⟩) hrow
      · rw [filledRows_cons hrow]
        exact .some [] rows (List.forall_mem_nil _) hrow

/-! ## Answers -/

/-- The answers that a verb produces: rows where it reads, the effect of a write where it writes. -/
inductive Produces : Verb → Reply → Prop
  /-- Reading gives rows. -/
  | select (rows : List Row) : Produces .select (.rows rows)
  /-- Reading different values gives rows. -/
  | distinct (rows : List Row) : Produces .distinct (.rows rows)
  /-- Counting gives rows. -/
  | count (rows : List Row) : Produces .count (.rows rows)
  /-- Adding rows has an effect. -/
  | insert (id : Option Int) (count : Nat) : Produces .insert (.written id count)
  /-- Changing rows has an effect. -/
  | update (id : Option Int) (count : Nat) : Produces .update (.written id count)
  /-- Removing rows has an effect. -/
  | delete (id : Option Int) (count : Nat) : Produces .delete (.written id count)

/-- What a query yields when its statement is answered. -/
inductive Yields (query : Query) (record : String → Row → ρ) :
    Reply → Except QueryError (QueryResult ρ) → Prop
  /-- A read of all records yields those of the rows that are not empty. -/
  | many {rows : List Row} {records : List ρ}
    (hverb : query.verb = .select ∨ query.verb = .distinct) (hextent : query.extent = .all)
    (hrecords : RecordsOf (record query.table) rows records) :
    Yields query record (.rows rows) (.ok (.many records))
  /-- A read of one record yields that of the first row that is not empty. -/
  | one {rows : List Row} {found : Option ρ} (hverb : query.verb = .select ∨ query.verb = .distinct)
    (hextent : query.extent = .first) (hfound : FirstRecordOf (record query.table) rows found) :
    Yields query record (.rows rows) (.ok (.one found))
  /-- A count yields the number in the first row. -/
  | counted {row : Row} {rows : List Row} {n : Json.Number} (hverb : query.verb = .count)
    (hcount : row.get? "count" = some (.number n)) :
    Yields query record (.rows (row :: rows)) (.ok (.counted n.count))
  /-- A count without a number in the first row is refused. -/
  | noCount {rows : List Row} (hverb : query.verb = .count)
    (hcount : ∀ row ∈ rows.head?, ∀ n, row.get? "count" ≠ some (.number n)) :
    Yields query record (.rows rows) (.error .noCount)
  /-- An insertion yields the key made up for its row. -/
  | inserted (hverb : query.verb = .insert) (id : Option Int) (count : Nat) :
    Yields query record (.written id count) (.ok (.inserted id))
  /-- A change or a removal yields the number of its rows. -/
  | affected (hverb : query.verb = .update ∨ query.verb = .delete) (id : Option Int) (count : Nat) :
    Yields query record (.written id count) (.ok (.affected count))
  /-- Any other answer is refused. -/
  | unexpected {reply : Reply} (hreply : ¬ Produces query.verb reply) :
    Yields query record reply (.error (.unexpectedReply query.verb reply))

/-- A read is interpreted as far as its extent goes. -/
lemma interpret_read (hverb : query.verb = .select ∨ query.verb = .distinct) (rows : List Row) :
    query.interpret record (.rows rows) = match query.extent with
      | .all => .ok (.many ((filledRows rows).map (record query.table)))
      | .first => .ok (.one ((filledRows rows).map (record query.table)).head?) := by
  unfold interpret
  rcases hverb with hverb | hverb <;> rw [hverb] <;> rfl

/-- A count is interpreted by the first row. -/
lemma interpret_count (hverb : query.verb = .count) (rows : List Row) :
    query.interpret record (.rows rows) = (countOf rows).map .counted := by
  unfold interpret
  rw [hverb]

/-- An answer that the verb does not produce is not interpreted. -/
lemma interpret_unexpected (hreply : ¬ Produces query.verb reply) :
    query.interpret record reply = .error (.unexpectedReply query.verb reply) := by
  unfold interpret
  generalize query.verb = verb at hreply
  cases reply with
  | rows rows =>
    cases verb with
    | select => exact absurd (.select rows) hreply
    | distinct => exact absurd (.distinct rows) hreply
    | count => exact absurd (.count rows) hreply
    | _ => rfl
  | written id count =>
    cases verb with
    | insert => exact absurd (.insert id count) hreply
    | update => exact absurd (.update id count) hreply
    | delete => exact absurd (.delete id count) hreply
    | _ => rfl

/-- The brief message says as much as the full one, but of rows that were not expected. -/
lemma message_eq_fullMessage {error : QueryError}
    (h : ∀ verb rows, error ≠ .unexpectedReply verb (.rows rows)) :
    error.message = error.fullMessage := by
  cases error with
  | unexpectedReply verb reply =>
    cases reply with
    | rows rows => exact absurd rfl (h verb rows)
    | written id count => rfl
  | _ => rfl

/-- What a query yields is what the answer is interpreted as. -/
lemma interpret_of_yields (h : query.Yields record reply result) :
    query.interpret record reply = result := by
  cases h with
  | many hverb hextent hrecords =>
    rw [interpret_read hverb, hextent]
    exact congrArg (Except.ok ∘ QueryResult.many) (recordsOf_iff.mp hrecords)
  | one hverb hextent hfound =>
    rw [interpret_read hverb, hextent]
    exact congrArg (Except.ok ∘ QueryResult.one) (firstRecordOf_iff.mp hfound)
  | counted hverb hcount =>
    rw [interpret_count hverb, countOf_cons hcount]
    rfl
  | noCount hverb hcount =>
    rw [interpret_count hverb, countOf_of_no_number hcount]
    rfl
  | inserted hverb id count =>
    unfold interpret
    rw [hverb]
  | affected hverb id count =>
    unfold interpret
    rcases hverb with hverb | hverb <;> rw [hverb]
  | unexpected hreply => exact interpret_unexpected hreply

/-- A read yields something, whatever rows it is answered with. -/
lemma exists_yields_read (hverb : query.verb = .select ∨ query.verb = .distinct) (rows : List Row) :
    ∃ result, query.Yields record (.rows rows) result := by
  cases hextent : query.extent with
  | all => exact ⟨_, .many hverb hextent (recordsOf_iff.mpr rfl)⟩
  | first => exact ⟨_, .one hverb hextent (firstRecordOf_iff.mpr rfl)⟩

/-- So does a count. -/
lemma exists_yields_count (hverb : query.verb = .count) (rows : List Row) :
    ∃ result, query.Yields record (.rows rows) result := by
  by_cases hcount : ∃ row ∈ rows.head?, ∃ n, row.get? "count" = some (.number n)
  · obtain ⟨row, hrow, n, hn⟩ := hcount
    obtain ⟨others, rfl⟩ := List.head?_eq_some_iff.mp hrow
    exact ⟨_, .counted hverb hn⟩
  · exact ⟨_, .noCount hverb fun row hrow n hn => hcount ⟨row, hrow, n, hn⟩⟩

/-- Every query yields something, whatever the answer is. -/
lemma exists_yields (query : Query) (record : String → Row → ρ) (reply : Reply) :
    ∃ result, query.Yields record reply result := by
  by_cases hreply : Produces query.verb reply
  · cases hverb : query.verb <;> rw [hverb] at hreply <;> cases hreply
    case select rows => exact exists_yields_read (.inl hverb) rows
    case distinct rows => exact exists_yields_read (.inr hverb) rows
    case count rows => exact exists_yields_count hverb rows
    case insert id count => exact ⟨_, .inserted hverb id count⟩
    case update id count => exact ⟨_, .affected (.inl hverb) id count⟩
    case delete id count => exact ⟨_, .affected (.inr hverb) id count⟩
  · exact ⟨_, .unexpected hreply⟩

/-- An answer is interpreted as what the query yields. -/
lemma interpret_eq_iff :
    query.interpret record reply = result ↔ query.Yields record reply result := by
  refine ⟨?_, interpret_of_yields⟩
  rintro rfl
  obtain ⟨result, hyields⟩ := exists_yields query record reply
  rwa [interpret_of_yields hyields]

/-! ## Runs -/

/-- A storage that is shown the texts of statements only. -/
def readingTexts (storage : Dialogue.Storage String τ) : Dialogue.Storage QueryStatement τ :=
  fun statement => storage statement.sql

/-- The texts that a query sends to such a storage, with the answers to them. -/
def sentTexts (query : Query) (record : String → Row → ρ) (storage : Dialogue.Storage String τ)
    (state : τ) : List (Dialogue.Exchange String) :=
  ((query.execute record).record (readingTexts storage) state).map fun exchange =>
    (exchange.1.sql, exchange.2)

/-- A query that is not rendered has ended. -/
lemma execute_of_refused {error : QueryError} (h : query.render = .error error) :
    query.execute record = .done (.error error) := by
  rw [render] at h
  rw [execute]
  cases hstatement : query.finalize.statement with
  | error reason =>
    rw [hstatement] at h
    rw [← Except.error.inj h]
    rfl
  | ok statement =>
    rw [hstatement] at h
    cases h

/-- A query that is rendered asks for one statement, which has its text. -/
lemma exists_execute {sql : String} (h : query.render = .ok sql) :
    ∃ statement : QueryStatement, statement.sql = sql ∧
      query.execute record = .ask statement fun reply => .done (query.interpret record reply) := by
  obtain ⟨statement, hstatement, hsql⟩ := exists_of_map_eq_ok h
  refine ⟨statement, hsql, ?_⟩
  rw [execute, hstatement]
  rfl

/-- What a query comes to when it has been answered. -/
lemma run_done (result : Except QueryError (QueryResult ρ))
    (storage : Dialogue.Storage QueryStatement τ) (state : τ) :
    (Dialogue.done result).run storage state = (result.mapError .refused, state) := by
  cases result <;> rfl

/-- A query that is not rendered is refused for the same reason, and sends nothing.  Any other query
sends the text that it is rendered to and nothing else.  If the storage fails, so does the query, in
the words of the storage; if the storage answers, the result is the one thing that the query yields
for the answer. -/
theorem yields_of_answer (query : Query) (record : String → Row → ρ)
    (storage : Dialogue.Storage String τ) (state : τ) :
    (∀ error, query.render = .error error →
      (query.execute record).run (readingTexts storage) state = (.error (.refused error), state) ∧
      query.sentTexts record storage state = []) ∧
    ∀ sql, query.render = .ok sql →
      query.sentTexts record storage state = [(sql, (storage sql state).1)] ∧
      (∀ error after, storage sql state = (.error error, after) →
        (query.execute record).run (readingTexts storage) state =
          (.error (.storage error), after)) ∧
      ∀ reply after, storage sql state = (.ok reply, after) →
        ∃ result, query.Yields record reply result ∧
          (query.execute record).run (readingTexts storage) state =
            (result.mapError .refused, after) ∧
          ∀ other, query.Yields record reply other → other = result := by
  constructor
  · intro error hrefused
    rw [sentTexts, execute_of_refused hrefused]
    exact ⟨rfl, rfl⟩
  · intro sql hrender
    obtain ⟨statement, rfl, hexecute⟩ := exists_execute hrender
    rw [sentTexts, hexecute, Dialogue.record, Dialogue.run, readingTexts]
    rcases hanswer : storage statement.sql state with ⟨error | reply, reached⟩
    · refine ⟨rfl, ?_, ?_⟩
      · rintro error after ⟨⟩
        rfl
      · rintro reply after ⟨⟩
    · refine ⟨rfl, ?_, ?_⟩
      · rintro error after ⟨⟩
      rintro reply after ⟨⟩
      refine ⟨query.interpret record reply, interpret_eq_iff.mp rfl, run_done _ _ _, ?_⟩
      exact fun other hother => (interpret_of_yields hother).symm

/-- Rows of people, the first one empty. -/
def peopleRows : List Row := [[], [("name", .string "Ada")], [("name", .string "Grace")]]

/-- The search for one person finds the first one whose row is not empty; a count that is answered
with a negative number is zero; and a removal with the limits of a search sends nothing. -/
theorem ada_found_first :
    (∃ query sql, (ofTable "people" >>= fun start => start.findOne (.object [])) = .ok query ∧
      query.render = .ok sql ∧ sql = "SELECT * FROM people LIMIT 1 OFFSET 0" ∧
      query.sentTexts Record.mk Script.answer (.start [.ok (.rows peopleRows)]) =
        [(sql, .ok (.rows peopleRows))] ∧
      ((query.execute Record.mk).run (readingTexts Script.answer)
          (.start [.ok (.rows peopleRows)])).1 =
        .ok (.one (some ⟨"people", [("name", .string "Ada")]⟩))) ∧
    (∃ query sql, (ofTable "people" >>= fun start => start.count (.object [])) = .ok query ∧
      query.render = .ok sql ∧
      ((query.execute Record.mk).run (readingTexts Script.answer)
          (.start [.ok (.rows [[("count", .number (.int (-3)))]])])).1 = .ok (.counted 0)) ∧
    ∃ query error, (ofTable "people" >>= fun start => start.findOne (.object []) >>= fun one =>
        one.remove (.object [])) = .ok query ∧ query.render = .error error ∧
      query.sentTexts Record.mk Script.answer (.start [.ok (.rows peopleRows)]) = [] := by
  refine ⟨?_, ?_, ?_⟩
  · have hrun : Except.toOption (do
        let query ← ofTable "people" >>= fun start => start.findOne (.object [])
        let sql ← query.render
        return (sql, query.verb, query.extent, query.table)) =
        some ("SELECT * FROM people LIMIT 1 OFFSET 0", .select, .first, "people") := by
      decide +kernel
    obtain ⟨query, hquery, hrun⟩ := exists_of_bind_eq_ok (eq_ok_of_toOption hrun)
    obtain ⟨sql, hrender, hrun⟩ := exists_of_bind_eq_ok hrun
    obtain ⟨rfl, hverb, hextent, htable⟩ : sql = "SELECT * FROM people LIMIT 1 OFFSET 0" ∧
        query.verb = .select ∧ query.extent = .first ∧ query.table = "people" := by
      simpa using Except.ok.inj hrun
    obtain ⟨hsent, -, hanswered⟩ := (yields_of_answer query Record.mk Script.answer
      (.start [.ok (.rows peopleRows)])).2 _ hrender
    obtain ⟨result, -, hresult, hunique⟩ := hanswered _ _ rfl
    have hada : FirstRecordOf (Record.mk query.table) peopleRows
        (some ⟨query.table, [("name", .string "Ada")]⟩) :=
      .some [[]] _ (List.forall_mem_singleton.mpr rfl) (List.cons_ne_nil _ _)
    rw [← hunique _ (.one (.inl hverb) hextent hada), htable] at hresult
    exact ⟨query, _, hquery, hrender, rfl, hsent, congrArg Prod.fst hresult⟩
  · have hrun : Except.toOption (do
        let query ← ofTable "people" >>= fun start => start.count (.object [])
        let sql ← query.render
        return query.verb) = some .count := by
      decide +kernel
    obtain ⟨query, hquery, hrun⟩ := exists_of_bind_eq_ok (eq_ok_of_toOption hrun)
    obtain ⟨sql, hrender, hrun⟩ := exists_of_bind_eq_ok hrun
    obtain ⟨-, -, hanswered⟩ := (yields_of_answer query Record.mk Script.answer
      (.start [.ok (.rows [[("count", .number (.int (-3)))]])])).2 _ hrender
    obtain ⟨result, -, hresult, hunique⟩ := hanswered _ _ rfl
    have hzero : (Json.Number.int (-3)).count = 0 := by decide
    rw [← hunique _ (.counted (Except.ok.inj hrun) rfl), hzero] at hresult
    exact ⟨query, sql, hquery, hrender, congrArg Prod.fst hresult⟩
  · have hrun : Except.toOption (do
        let query ← ofTable "people" >>= fun start => start.findOne (.object []) >>= fun one =>
          one.remove (.object [])
        return query.render.toOption) = some none := by
      decide +kernel
    obtain ⟨query, hquery, hrun⟩ := exists_of_bind_eq_ok (eq_ok_of_toOption hrun)
    cases hrender : query.render with
    | ok sql =>
      rw [hrender] at hrun
      cases hrun
    | error error =>
      have hsent := ((yields_of_answer query Record.mk Script.answer
        (.start [.ok (.rows peopleRows)])).1 error hrender).2
      exact ⟨query, error, hquery, hrender, hsent⟩

end Query

end DocTables
