import DocTables.Proofs.Calendar.Date
import Mathlib.Data.List.GetD
import Mathlib.Data.List.Nodup

/-!
# Reading instants

A reader of instants that knows the form `Www, DD Mon YYYY HH:MM:SS GMT` and nothing of how days are
cut into dates.  It gives back the day of the week and the moment that a text tells
(`Moment.ofText?`), and a moment counts up to an instant by the rules of the calendar
(`Moment.seconds`).

What is written for an instant is read as the one moment that counts up to it, on the right day of
the week.  So different instants have different texts (`instantText_tells`).
-/

namespace DocTables.Calendar

/-! ## Moments -/

/-- A date and a time of its day. -/
structure Moment where
  /-- The date. -/
  date : Date
  /-- The full hours of the day. -/
  hour : Nat
  /-- The full minutes of the hour. -/
  minute : Nat
  /-- The full seconds of the minute. -/
  second : Nat
deriving DecidableEq, Repr

namespace Moment

/-- The moments of the calendar. -/
structure IsValid (moment : Moment) : Prop where
  date : moment.date.IsValid
  hour_lt : moment.hour < 24
  minute_lt : moment.minute < 60
  second_lt : moment.second < 60

/-- The seconds from the beginning of 1970 to a moment. -/
def seconds (moment : Moment) : Int :=
  86400 * moment.date.number + 3600 * moment.hour + 60 * moment.minute + moment.second

end Moment

/-! ## The reader -/

/-- Reads a number of a number of digits. -/
def digits? (width : Nat) (cs : List Char) : Option (Nat × List Char) :=
  if (cs.take width).length = width ∧ (cs.take width).all Char.isDigit then
    some (Nat.ofDigitChars 10 (cs.take width) 0, cs.drop width)
  else none

/-- Reads one of some words of three letters, as its place among them. -/
def word? (words : List String) (cs : List Char) : Option (Nat × List Char) :=
  (words.idxOf? (String.ofList (cs.take 3))).map fun place => (place, cs.drop 3)

/-- Reads all digits that come first, of which there must be four or more. -/
def longNumber? (cs : List Char) : Option (Nat × List Char) :=
  if 4 ≤ (cs.takeWhile Char.isDigit).length then
    digits? (cs.takeWhile Char.isDigit).length cs
  else none

/-- Reads a year: four digits, or a sign and four digits or more. -/
def year? : List Char → Option (Int × List Char)
  | '-' :: cs => (longNumber? cs).map fun read => (-read.1, read.2)
  | '+' :: cs => (longNumber? cs).map fun read => (read.1, read.2)
  | cs => (digits? 4 cs).map fun read => (read.1, read.2)

/-- Reads a date, with the day first. -/
def date? (cs : List Char) : Option (Date × List Char) := do
  let (day, cs) ← digits? 2 cs
  let cs ← cs.dropPrefix? [' ']
  let (month, cs) ← word? monthNames cs
  let cs ← cs.dropPrefix? [' ']
  let (year, cs) ← year? cs
  return (⟨year, month + 1, day⟩, cs)

/-- Reads the time of a day, and makes a moment of it. -/
def moment? (date : Date) (cs : List Char) : Option (Moment × List Char) := do
  let (hour, cs) ← digits? 2 cs
  let cs ← cs.dropPrefix? [':']
  let (minute, cs) ← digits? 2 cs
  let cs ← cs.dropPrefix? [':']
  let (second, cs) ← digits? 2 cs
  return (⟨date, hour, minute, second⟩, cs)

/-- Reads an instant, as the place of its day in the week and its moment. -/
def Moment.ofText? (text : String) : Option (Nat × Moment) := do
  let (weekday, cs) ← word? weekdayNames text.toList
  let cs ← cs.dropPrefix? [',', ' ']
  let (date, cs) ← date? cs
  let cs ← cs.dropPrefix? [' ']
  let (moment, cs) ← moment? date cs
  if cs = [' ', 'G', 'M', 'T'] then some (weekday, moment) else none

/-! ## Numbers and words -/

section Parts

variable {width n : Nat}

/-- A padded number consists of zeros and its digits. -/
lemma toList_padded (width n : Nat) :
    (padded width n).toList =
      List.replicate (width - (Nat.toDigits 10 n).length) '0' ++ Nat.toDigits 10 n :=
  String.toList_ofList

lemma length_padded (width n : Nat) :
    (padded width n).toList.length = max width (Nat.toDigits 10 n).length := by
  rw [toList_padded, List.length_append, List.length_replicate]
  omega

/-- A number that fits is as long as it is padded. -/
lemma length_padded_of_lt (hwidth : 0 < width) (h : n < 10 ^ width) :
    (padded width n).toList.length = width := by
  have hlength := (Nat.length_toDigits_le_iff (by omega) hwidth).mpr h
  rw [length_padded]
  omega

lemma isDigit_padded : ∀ c ∈ (padded width n).toList, c.isDigit = true := by
  rw [toList_padded, List.forall_mem_append]
  refine ⟨fun c hc => ?_, fun c hc => Nat.isDigit_of_mem_toDigits (by omega) (by omega) hc⟩
  rw [List.eq_of_mem_replicate hc]
  rfl

/-- A padded number has the value of the number. -/
lemma ofDigitChars_padded : Nat.ofDigitChars 10 (padded width n).toList 0 = n := by
  rw [toList_padded, Nat.ofDigitChars_append, Nat.ofDigitChars_replicate_zero, Nat.mul_zero,
    Nat.ofDigitChars_ten_toDigits]

/-- A padded number is read by its length. -/
lemma digits?_padded {length : Nat} (h : (padded width n).toList.length = length)
    (rest : List Char) :
    digits? length ((padded width n).toList ++ rest) = some (n, rest) := by
  have htake : ((padded width n).toList ++ rest).take length = (padded width n).toList := by
    rw [← h, List.take_left]
  have hdrop : ((padded width n).toList ++ rest).drop length = rest := by
    rw [← h, List.drop_left]
  rw [digits?, htake, hdrop, ofDigitChars_padded]
  exact if_pos ⟨h, List.all_eq_true.mpr isDigit_padded⟩

/-- The digits of a number end where there is another character. -/
lemma longNumber?_padded (c : Char) (hc : c.isDigit = false) (n : Nat) (rest : List Char) :
    longNumber? ((padded 4 n).toList ++ c :: rest) = some (n, c :: rest) := by
  have htake : ((padded 4 n).toList ++ c :: rest).takeWhile Char.isDigit = (padded 4 n).toList := by
    rw [List.takeWhile_append_of_pos isDigit_padded, List.takeWhile_cons_of_neg, List.append_nil]
    rw [hc]
    exact Bool.false_ne_true
  have hlength := length_padded 4 n
  rw [longNumber?, htake, if_pos (by omega), digits?_padded rfl]

/-- What stands first is dropped. -/
lemma dropPrefix?_append (sign rest : List Char) : (sign ++ rest).dropPrefix? sign = some rest :=
  List.dropPrefix?_append_of_beq rest (beq_self_eq_true sign)

/-- A year is read up to the blank after it. -/
lemma year?_yearText (year : Int) (rest : List Char) :
    year? ((yearText year).toList ++ ' ' :: rest) = some (year, ' ' :: rest) := by
  have hlong := longNumber?_padded ' ' rfl year.natAbs rest
  unfold yearText
  split
  · rename_i hnegative
    have hlist : ("-" ++ padded 4 year.natAbs).toList = '-' :: (padded 4 year.natAbs).toList :=
      String.toList_append
    rw [hlist, List.cons_append, year?, hlong, Option.map_some]
    dsimp only
    rw [Int.ofNat_natAbs_of_nonpos hnegative.le, Int.neg_neg]
  · rename_i hnegative
    have hvalue : (year.natAbs : Int) = year := Int.natAbs_of_nonneg (Int.not_lt.mp hnegative)
    split
    · rename_i hfits
      have hlength : (padded 4 year.natAbs).toList.length = 4 :=
        length_padded_of_lt (by omega) (by omega)
      have hread := digits?_padded hlength (' ' :: rest)
      have hsign : ∀ (sign : Char) (cs : List Char), sign.isDigit = false →
          (padded 4 year.natAbs).toList ++ ' ' :: rest ≠ sign :: cs := by
        intro sign cs hsign hcs
        cases hdigits : (padded 4 year.natAbs).toList with
        | nil =>
          rw [hdigits] at hlength
          cases hlength
        | cons c ds =>
          rw [hdigits] at hcs
          have hc : c.isDigit = true := isDigit_padded c (hdigits ▸ List.mem_cons_self)
          rw [(List.cons.inj hcs).1, hsign] at hc
          cases hc
      unfold year?
      split
      · rename_i cs hcs
        exact absurd hcs (hsign '-' cs rfl)
      · rename_i cs hcs
        exact absurd hcs (hsign '+' cs rfl)
      · rw [hread, Option.map_some]
        dsimp only
        rw [hvalue]
    · have hlist : ("+" ++ padded 4 year.natAbs).toList = '+' :: (padded 4 year.natAbs).toList :=
        String.toList_append
      rw [hlist, List.cons_append, year?, hlong, Option.map_some]
      dsimp only
      rw [hvalue]

lemma length_of_mem_weekdayNames : ∀ word ∈ weekdayNames, word.toList.length = 3 := by decide

lemma length_of_mem_monthNames : ∀ word ∈ monthNames, word.toList.length = 3 := by decide

/-- A word is read as its place. -/
lemma word?_append {words : List String} (hlengths : ∀ word ∈ words, word.toList.length = 3)
    (hdifferent : words.Nodup) {place : Nat} (hplace : place < words.length) (rest : List Char) :
    word? words ((words.getD place "").toList ++ rest) = some (place, rest) := by
  have hget : words.getD place "" = words[place] := List.getD_eq_getElem _ _ hplace
  have hlength := hlengths words[place] (List.getElem_mem hplace)
  have htake : (words[place].toList ++ rest).take 3 = words[place].toList := by
    rw [← hlength, List.take_left]
  have hdrop : (words[place].toList ++ rest).drop 3 = rest := by
    rw [← hlength, List.drop_left]
  have hfound : words.idxOf? words[place] = some place := by
    rw [List.idxOf?_eq_some_iff]
    refine ⟨hplace, rfl, fun other hother hsame => ?_⟩
    have hother' := hdifferent.getElem_inj_iff.mp hsame
    omega
  rw [hget, word?, htake, hdrop, String.ofList_toList, hfound]
  rfl

end Parts

/-! ## The text of an instant -/

/-- The moment of an instant. -/
def momentOf (seconds : Int) : Moment :=
  ⟨dateOfDay (seconds / 86400), (seconds % 86400).toNat / 3600, (seconds % 86400).toNat / 60 % 60,
    (seconds % 86400).toNat % 60⟩

variable {seconds : Int}

/-- The moment of an instant is one of the calendar, and counts up to the instant. -/
lemma momentOf_spec (seconds : Int) :
    (momentOf seconds).IsValid ∧ (momentOf seconds).seconds = seconds := by
  obtain ⟨hvalid, hnumber⟩ := dateOfDay_spec (seconds / 86400)
  refine ⟨⟨hvalid, ?_, ?_, ?_⟩, ?_⟩
  · unfold momentOf
    dsimp only
    omega
  · exact Nat.mod_lt _ (by omega)
  · exact Nat.mod_lt _ (by omega)
  · unfold momentOf Moment.seconds
    dsimp only
    rw [hnumber]
    omega

/-- A moment of the calendar is the moment of the instant it counts up to. -/
lemma Moment.IsValid.momentOf_seconds {moment : Moment} (h : moment.IsValid) :
    momentOf moment.seconds = moment := by
  obtain ⟨date, hour, minute, second⟩ := moment
  obtain ⟨hdate, hhour, hminute, hsecond⟩ := h
  dsimp only at hdate hhour hminute hsecond
  have hday : (⟨date, hour, minute, second⟩ : Moment).seconds / 86400 = date.number := by
    unfold Moment.seconds
    dsimp only
    omega
  have htime : ((⟨date, hour, minute, second⟩ : Moment).seconds % 86400).toNat =
      3600 * hour + 60 * minute + second := by
    unfold Moment.seconds
    dsimp only
    omega
  unfold momentOf
  rw [hday, htime, hdate.dateOfDay_number, Moment.mk.injEq]
  exact ⟨rfl, by omega, by omega, by omega⟩

/-- The text of a moment. -/
def momentText (moment : Moment) : String :=
  weekdayNames.getD moment.date.weekday "" ++ ", " ++ padded 2 moment.date.day ++ " " ++
    monthNames.getD (moment.date.month - 1) "" ++ " " ++ yearText moment.date.year ++ " " ++
    padded 2 moment.hour ++ ":" ++ padded 2 moment.minute ++ ":" ++ padded 2 moment.second ++ " GMT"

/-- The text of an instant is that of its moment. -/
lemma instantText_eq (seconds : Int) : instantText seconds = momentText (momentOf seconds) := by
  rw [instantText, weekday_eq]
  rfl

/-- How a date is written. -/
def dateChars (date : Date) : List Char :=
  (padded 2 date.day).toList ++ ' ' :: ((monthNames.getD (date.month - 1) "").toList ++
    ' ' :: (yearText date.year).toList)

/-- How the time of a moment is written. -/
def timeChars (moment : Moment) : List Char :=
  (padded 2 moment.hour).toList ++ ':' :: ((padded 2 moment.minute).toList ++
    ':' :: (padded 2 moment.second).toList)

/-- The text of a moment has the day of the week, the date and the time. -/
lemma toList_momentText (moment : Moment) :
    (momentText moment).toList =
      (weekdayNames.getD moment.date.weekday "").toList ++ ',' :: ' ' ::
        (dateChars moment.date ++ ' ' :: (timeChars moment ++ [' ', 'G', 'M', 'T'])) := by
  have hcomma : ", ".toList = [',', ' '] := rfl
  have hblank : " ".toList = [' '] := rfl
  have hcolon : ":".toList = [':'] := rfl
  have hzone : " GMT".toList = [' ', 'G', 'M', 'T'] := rfl
  simp only [momentText, dateChars, timeChars, String.toList_append, hcomma, hblank, hcolon, hzone,
    List.append_assoc, List.cons_append, List.nil_append]

section Texts

variable {date : Date} {moment : Moment}

lemma Date.IsValid.day_lt (h : date.IsValid) : date.day < 10 ^ 2 := by
  have hday := h.day_le
  have hmonth := daysInMonth_le date.year date.month
  omega

lemma Date.IsValid.place_lt (h : date.IsValid) : date.month - 1 < monthNames.length := by
  have hmonth := h.month_le
  change date.month - 1 < 12
  omega

/-- The parts of a time have two digits. -/
lemma Moment.IsValid.parts_lt (h : moment.IsValid) :
    moment.hour < 10 ^ 2 ∧ moment.minute < 10 ^ 2 ∧ moment.second < 10 ^ 2 :=
  ⟨h.hour_lt.trans (by omega), h.minute_lt.trans (by omega), h.second_lt.trans (by omega)⟩

/-- A date is read up to the blank after it. -/
lemma date?_dateChars (h : date.IsValid) (rest : List Char) :
    date? (dateChars date ++ ' ' :: rest) = some (date, ' ' :: rest) := by
  have hblank : ∀ rest : List Char, (' ' :: rest).dropPrefix? [' '] = some rest :=
    dropPrefix?_append [' ']
  have hday := digits?_padded (length_padded_of_lt (by omega) h.day_lt)
  have hmonth := word?_append length_of_mem_monthNames (by decide) h.place_lt
  have hplace : date.month - 1 + 1 = date.month := Nat.sub_add_cancel h.one_le_month
  rw [date?, dateChars]
  simp only [List.append_assoc, List.cons_append, hday, hblank, hmonth, year?_yearText, hplace,
    Option.bind_eq_bind, Option.bind_some, Option.pure_def]

/-- A time is read with its date. -/
lemma moment?_timeChars (h : moment.IsValid) (rest : List Char) :
    moment? moment.date (timeChars moment ++ rest) = some (moment, rest) := by
  have hcolon : ∀ rest : List Char, (':' :: rest).dropPrefix? [':'] = some rest :=
    dropPrefix?_append [':']
  obtain ⟨hhour, hminute, hsecond⟩ := h.parts_lt
  have hhours := digits?_padded (length_padded_of_lt (by omega) hhour)
  have hminutes := digits?_padded (length_padded_of_lt (by omega) hminute)
  have hseconds := digits?_padded (length_padded_of_lt (by omega) hsecond)
  rw [moment?, timeChars]
  simp only [List.append_assoc, List.cons_append, hhours, hcolon, hminutes, hseconds,
    Option.bind_eq_bind, Option.bind_some, Option.pure_def]

/-- What is written for a moment is read as this moment, on the right day of the week. -/
lemma ofText?_momentText (h : moment.IsValid) :
    Moment.ofText? (momentText moment) = some (moment.date.weekday, moment) := by
  have hcomma : ∀ rest : List Char, (',' :: ' ' :: rest).dropPrefix? [',', ' '] = some rest :=
    dropPrefix?_append [',', ' ']
  have hblank : ∀ rest : List Char, (' ' :: rest).dropPrefix? [' '] = some rest :=
    dropPrefix?_append [' ']
  have hweekday := word?_append length_of_mem_weekdayNames (by decide) (weekday_lt moment.date)
  rw [Moment.ofText?, toList_momentText]
  simp only [hweekday, hcomma, date?_dateChars h.date, hblank, moment?_timeChars h,
    Option.bind_eq_bind, Option.bind_some, if_true]

/-- A word of three letters has three letters. -/
lemma length_getD {words : List String} (hlengths : ∀ word ∈ words, word.toList.length = 3)
    {place : Nat} (hplace : place < words.length) : (words.getD place "").toList.length = 3 := by
  rw [List.getD_eq_getElem _ _ hplace]
  exact hlengths _ (List.getElem_mem hplace)

/-- In the years from 0 to 9999 all moments are written at the same length. -/
lemma length_momentText (h : moment.IsValid) (hfirst : 0 ≤ moment.date.year)
    (hlast : moment.date.year ≤ 9999) : (momentText moment).length = 29 := by
  have hweekday := length_getD length_of_mem_weekdayNames (weekday_lt moment.date)
  have hmonth := length_getD length_of_mem_monthNames h.date.place_lt
  have hyear : (yearText moment.date.year).toList.length = 4 := by
    rw [yearText, if_neg (by omega), if_pos (by omega)]
    exact length_padded_of_lt (by omega) (by omega)
  obtain ⟨hhour, hminute, hsecond⟩ := h.parts_lt
  have hnumber : ∀ {n : Nat}, n < 10 ^ 2 → (padded 2 n).toList.length = 2 :=
    length_padded_of_lt (by omega)
  rw [← String.length_toList, toList_momentText]
  simp only [dateChars, timeChars, List.length_append, List.length_cons, List.length_nil,
    hweekday, hmonth, hyear, hnumber h.date.day_lt, hnumber hhour, hnumber hminute, hnumber hsecond]

end Texts

/-- What is written for an instant is read as its moment. -/
lemma ofText?_instantText (seconds : Int) :
    Moment.ofText? (instantText seconds) =
      some ((momentOf seconds).date.weekday, momentOf seconds) := by
  rw [instantText_eq]
  exact ofText?_momentText (momentOf_spec seconds).1

lemma length_instantText (hfirst : 0 ≤ (momentOf seconds).date.year)
    (hlast : (momentOf seconds).date.year ≤ 9999) : (instantText seconds).length = 29 := by
  rw [instantText_eq]
  exact length_momentText (momentOf_spec seconds).1 hfirst hlast

/-- The instants for which dates are kept are those of the years from -262143 to 262142. -/
lemma inRange_iff (seconds : Int) :
    inRange seconds = true ↔
      -262143 ≤ (momentOf seconds).date.year ∧ (momentOf seconds).date.year ≤ 262142 := by
  obtain ⟨hvalid, hseconds⟩ := momentOf_spec seconds
  obtain ⟨hdate, hnumber⟩ := dateOfDay_spec (seconds / 86400)
  have hfirst := hdate.le_number_iff (-262143)
  have hlast := hdate.le_number_iff 262143
  have hfirstDay : daysBeforeYear (-262143) = -96465292 := rfl
  have hlastDay : daysBeforeYear 262143 = 95026237 := rfl
  rw [hnumber, hfirstDay] at hfirst
  rw [hnumber, hlastDay] at hlast
  rw [inRange, Bool.and_eq_true, decide_eq_true_eq, decide_eq_true_eq, firstInstant, lastInstant]
  change _ ↔
    -262143 ≤ (dateOfDay (seconds / 86400)).year ∧ (dateOfDay (seconds / 86400)).year ≤ 262142
  omega

/-- Every instant has one moment of the calendar that counts up to it, and its text is read as this
moment, on the day of the week of its date; in the years from 0 to 9999 the text has 29 characters.
So no other instant has the same text.  Dates are numbered as they follow each other in the
calendar, from the first day of 1970, a Thursday. -/
theorem instantText_tells (seconds : Int) :
    (∃ moment : Moment, moment.IsValid ∧ moment.seconds = seconds ∧
      (∀ other : Moment, other.IsValid → other.seconds = seconds → other = moment) ∧
      Moment.ofText? (instantText seconds) = some (moment.date.weekday, moment) ∧
      (0 ≤ moment.date.year → moment.date.year ≤ 9999 → (instantText seconds).length = 29) ∧
      (inRange seconds = true ↔ -262143 ≤ moment.date.year ∧ moment.date.year ≤ 262142)) ∧
    (∀ other : Int, instantText other = instantText seconds → other = seconds) ∧
    (⟨1970, 1, 1⟩ : Date).number = 0 ∧
    ∀ date : Date, date.IsValid → date.next.IsValid ∧ date.next.number = date.number + 1 := by
  obtain ⟨hvalid, hseconds⟩ := momentOf_spec seconds
  refine ⟨⟨momentOf seconds, hvalid, hseconds, ?_, ofText?_instantText seconds, length_instantText,
    inRange_iff seconds⟩, ?_, rfl, fun date hdate => hdate.next⟩
  · intro other hother hsame
    rw [← hsame, hother.momentOf_seconds]
  · intro other hsame
    have hread := ofText?_instantText other
    rw [hsame, ofText?_instantText, Option.some.injEq, Prod.mk.injEq] at hread
    rw [← (momentOf_spec other).2, ← hread.2, hseconds]

/-- The last second of a February that has no leap day, because 1900 is the last year of a century
that is not a fourth one. -/
theorem end_of_february_1900 :
    Moment.IsValid ⟨⟨1900, 2, 28⟩, 23, 59, 59⟩ ∧
      Moment.seconds ⟨⟨1900, 2, 28⟩, 23, 59, 59⟩ = -2203891201 ∧
      instantText (-2203891201) = "Wed, 28 Feb 1900 23:59:59 GMT" ∧
      (instantText (-2203891201)).length = 29 ∧
      Moment.ofText? (instantText (-2203891201)) = some (3, ⟨⟨1900, 2, 28⟩, 23, 59, 59⟩) ∧
      ∀ other : Int, instantText other = instantText (-2203891201) → other = -2203891201 := by
  have hvalid : Moment.IsValid ⟨⟨1900, 2, 28⟩, 23, 59, 59⟩ := by
    refine ⟨⟨?_, ?_, ?_, ?_⟩, ?_, ?_, ?_⟩ <;> decide
  have hseconds : Moment.seconds ⟨⟨1900, 2, 28⟩, 23, 59, 59⟩ = -2203891201 := by decide
  have hweekday : Date.weekday ⟨1900, 2, 28⟩ = 3 := by decide
  obtain ⟨⟨moment, -, -, hunique, hread, hlength, -⟩, hdistinct, -⟩ :=
    instantText_tells (-2203891201)
  obtain rfl := hunique _ hvalid hseconds
  rw [hweekday] at hread
  have htext : instantText (-2203891201) = "Wed, 28 Feb 1900 23:59:59 GMT" := by decide +kernel
  exact ⟨hvalid, hseconds, htext, hlength (by decide) (by decide), hread, hdistinct⟩

end DocTables.Calendar
