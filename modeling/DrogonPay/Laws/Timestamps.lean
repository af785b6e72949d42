import DrogonPay.Calendar.Civil
import DrogonPay.Model.Rfc3339

/-!
Contract: `parseRfc3339` accepts exactly its grammar and names the right instant.

Owns:
- `Timestamp`, the moments with their spellings, and `Timestamp.IsInstant`, the
  seconds they stand for, by counting days from 1970;
- `daysFromCivil_next`: the day formula grows by one from each date to the next;
- `parseRfc3339_exact`: what is accepted, what it is read as, and that no read
  leaves the text.

Does not own: which deadlines are refused.
-/

namespace DrogonPay.PayUtils

open Calendar

/-! ## Moments and their spellings -/

/-- What stands behind the time of day: `Z`, or hours and minutes ahead of or
behind UTC. -/
inductive Zone where
  | utc
  | offset (ahead : Bool) (hour minute : Nat) (hour_le : hour ≤ 23) (minute_le : minute ≤ 59)

namespace Zone

def text : Zone → Bytes
  | utc => [90]
  | offset ahead hour minute _ _ =>
      [if ahead then 43 else 45] ++ Decimal.fixedText 2 hour ++ [58] ++ Decimal.fixedText 2 minute

def seconds : Zone → Int
  | utc => 0
  | offset ahead hour minute _ _ =>
      let seconds : Int := hour * 3600 + minute * 60
      if ahead then seconds else -seconds

end Zone

/-- The date and the time of day at their fixed positions. -/
def momentText (year month day hour minute second : Nat) : Bytes :=
  Decimal.fixedText 4 year ++ [45] ++ Decimal.fixedText 2 month ++ [45] ++
    Decimal.fixedText 2 day ++ [84] ++ Decimal.fixedText 2 hour ++ [58] ++
    Decimal.fixedText 2 minute ++ [58] ++ Decimal.fixedText 2 second

/-- The fraction of a second: nothing, or a point and one or more digits. -/
def fractionText (digits : Bytes) : Bytes := if digits = [] then [] else 46 :: digits

/-- A date that exists, of four digits, a time of day and a zone. -/
structure Timestamp where
  date : Date
  hour : Nat
  minute : Nat
  second : Nat
  fraction : Bytes
  zone : Zone
  year_le : date.year ≤ 9999
  hour_le : hour ≤ 23
  minute_le : minute ≤ 59
  second_le : second ≤ 59
  fraction_digits : ∀ b ∈ fraction, Decimal.isDigit b = true

namespace Timestamp

def text (t : Timestamp) : Bytes :=
  momentText t.date.year t.date.month t.date.day t.hour t.minute t.second ++
    (fractionText t.fraction ++ t.zone.text)

/-- The seconds since the epoch: whole days, counted from the first of 1970, the
time of day, and back by the offset. -/
def IsInstant (t : Timestamp) (seconds : Int) : Prop :=
  ∃ days, DaysTo (Date.newYear 1970) t.date days ∧
    seconds = 86400 * days + (t.hour * 3600 + t.minute * 60 + t.second) - t.zone.seconds

end Timestamp

/-! ## The day formula -/

theorem daysInMonth_eq {year month : Nat} (month_pos : 1 ≤ month) (month_le : month ≤ 12) :
    daysInMonth year month = monthLength year month := by
  have leap : isLeapYear year = isLeap year := rfl
  have months : month = 1 ∨ month = 2 ∨ month = 3 ∨ month = 4 ∨ month = 5 ∨ month = 6 ∨
      month = 7 ∨ month = 8 ∨ month = 9 ∨ month = 10 ∨ month = 11 ∨ month = 12 := by omega
  rcases months with rfl | rfl | rfl | rfl | rfl | rfl | rfl | rfl | rfl | rfl | rfl | rfl <;>
    simp [daysInMonth, monthLength, leap]

/-- The formula without its eras. -/
theorem daysFromCivil_closed {year : Int} (month day : Nat) (nonneg : 0 ≤ year) :
    daysFromCivil year month day =
      (let shifted : Int := if month ≤ 2 then year - 1 else year
      365 * shifted + shifted / 4 - shifted / 100 + shifted / 400 +
        (((153 * (if month > 2 then month - 3 else month + 9) + 2) / 5 + day - 1 : Nat) : Int) -
        719468) := by
  unfold daysFromCivil
  simp only
  generalize (153 * (if month > 2 then month - 3 else month + 9) + 2) / 5 + day - 1 = dayOfYear
  generalize isShifted : (if month ≤ 2 then year - 1 else year) = shifted
  have bound : -1 ≤ shifted := by split at isShifted <;> omega
  have era : (if shifted ≥ 0 then shifted else shifted - 399).tdiv 400 = shifted / 400 := by
    split
    · exact Int.tdiv_eq_ediv_of_nonneg (by omega)
    · have before : shifted = -1 := by omega
      subst before
      rfl
  rw [era]
  omega

/-- The formula grows by one from each date to the next. -/
theorem daysFromCivil_next (date : Date) :
    daysFromCivil date.next.year date.next.month date.next.day =
      daysFromCivil date.year date.month date.day + 1 := by
  have month_pos := date.month_pos
  have month_le := date.month_le
  have day_pos := date.day_pos
  have day_le := date.day_le
  have closed : ∀ (year month day : Nat), daysFromCivil year month day = _ :=
    fun year month day => daysFromCivil_closed month day (Int.natCast_nonneg year)
  by_cases sameMonth : date.day < monthLength date.year date.month
  · obtain ⟨isYear, isMonth, isDay⟩ := Date.next_day sameMonth
    rw [isYear, isMonth, isDay, closed, closed]
    simp only
    omega
  · have last : date.day = monthLength date.year date.month := by omega
    by_cases sameYear : date.month < 12
    · obtain ⟨isYear, isMonth, isDay⟩ := Date.next_month sameMonth sameYear
      rw [isYear, isMonth, isDay, closed, closed, last]
      generalize date.year = year at *
      generalize date.month = month at *
      have months : month = 1 ∨ month = 2 ∨ month = 3 ∨ month = 4 ∨ month = 5 ∨ month = 6 ∨
          month = 7 ∨ month = 8 ∨ month = 9 ∨ month = 10 ∨ month = 11 := by omega
      rcases months with rfl | rfl | rfl | rfl | rfl | rfl | rfl | rfl | rfl | rfl | rfl
      case inr.inl =>
        -- the one month whose length depends on the year
        simp [monthLength, isLeap]
        split <;> omega
      all_goals
        simp [monthLength]
        try omega
    · obtain ⟨isYear, isMonth, isDay⟩ := Date.next_year sameMonth sameYear
      have december : date.month = 12 := by omega
      rw [isYear, isMonth, isDay, closed, closed, last, december]
      simp [monthLength]
      omega

theorem toNat_ofInt {n : Int} (nonneg : 0 ≤ n) (small : n < 2 ^ 32) :
    (UInt32.ofInt n).toNat = n.toNat := by
  rw [UInt32.ofInt, UInt32.toNat_ofNat', Int.emod_eq_of_lt nonneg small]
  omega

/-- No unsigned operation of the formula wraps for a date of four digits. -/
theorem daysFromCivilUnsigned_eq {year month day : Nat} (year_le : year ≤ 9999)
    (month_pos : 1 ≤ month) (month_le : month ≤ 12) (day_pos : 1 ≤ day) (day_le : day ≤ 31) :
    daysFromCivilUnsigned year month day = daysFromCivil year month day := by
  unfold daysFromCivilUnsigned daysFromCivil
  simp only
  generalize isShifted : (if month ≤ 2 then (year : Int) - 1 else year) = shifted
  have bound : -1 ≤ shifted ∧ shifted ≤ 9999 := by split at isShifted <;> omega
  have era : (if shifted ≥ 0 then shifted else shifted - 399).tdiv 400 = shifted / 400 := by
    split
    · exact Int.tdiv_eq_ediv_of_nonneg (by omega)
    · have before : shifted = -1 := by omega
      subst before
      rfl
  rw [era]
  generalize isYear : shifted - shifted / 400 * 400 = yearOfEra
  have yearBound : 0 ≤ yearOfEra ∧ yearOfEra < 400 := by omega
  have years : (UInt32.ofInt yearOfEra).toNat = yearOfEra.toNat :=
    toNat_ofInt (by omega) (by omega)
  have months : (UInt32.ofInt (month + if month > 2 then -3 else 9)).toNat =
      if month > 2 then month - 3 else month + 9 := by
    rw [toNat_ofInt (by split <;> omega) (by split <;> omega)]
    split <;> omega
  generalize (if month > 2 then month - 3 else month + 9) = shiftedMonth at months
  have monthBound : shiftedMonth < 22 := by
    rw [← months, toNat_ofInt (by split <;> omega) (by split <;> omega)]
    split <;> omega
  have months' : (153 * UInt32.ofInt (month + if month > 2 then -3 else 9) + 2).toNat =
      153 * shiftedMonth + 2 := by
    simp only [UInt32.toNat_add, UInt32.toNat_mul, months, UInt32.reduceToNat, Nat.reducePow]
    omega
  have dayOfYear : ((153 * UInt32.ofInt (month + if month > 2 then -3 else 9) + 2) / 5 +
      UInt32.ofNat day - 1).toNat = (153 * shiftedMonth + 2) / 5 + day - 1 := by
    simp only [UInt32.toNat_add, UInt32.toNat_sub, UInt32.toNat_div, months',
      UInt32.toNat_ofNat', UInt32.reduceToNat, Nat.reducePow]
    omega
  have dayOfEra : (UInt32.ofInt yearOfEra * 365 + UInt32.ofInt yearOfEra / 4 -
      UInt32.ofInt yearOfEra / 100).toNat =
      yearOfEra.toNat * 365 + yearOfEra.toNat / 4 - yearOfEra.toNat / 100 := by
    simp only [UInt32.toNat_add, UInt32.toNat_sub, UInt32.toNat_mul, UInt32.toNat_div, years,
      UInt32.reduceToNat, Nat.reducePow]
    omega
  rw [UInt32.toNat_add, dayOfYear, dayOfEra]
  omega

/-! ## Pieces of a text -/

theorem append_isPrefix_iff {front back text : Bytes} :
    front ++ back <+: text ↔ front <+: text ∧ back <+: text.drop front.length := by
  constructor
  · rintro ⟨rest, rfl⟩
    refine ⟨⟨back ++ rest, by rw [List.append_assoc]⟩, rest, ?_⟩
    rw [List.append_assoc, List.drop_left]
  · rintro ⟨⟨middle, rfl⟩, rest, isMiddle⟩
    rw [List.drop_left] at isMiddle
    exact ⟨rest, by rw [← isMiddle, List.append_assoc]⟩

theorem mark_isPrefix_iff {text : Bytes} {start : Nat} {mark : UInt8} :
    [mark] <+: text.drop start ↔ text[start]? = some mark := by
  rw [← Nat.add_zero start, ← List.getElem?_drop, Nat.add_zero]
  cases text.drop start <;> simp [eq_comm]

theorem foldlM_digits (text : Bytes) (initial : Nat) :
    text.foldlM (fun accumulated c =>
        if Decimal.isDigit c then some (accumulated * 10 + (c.toNat - 48)) else none) initial =
      if text.all Decimal.isDigit then
        some (text.foldl (fun accumulated c => 10 * accumulated + (c.toNat - 48)) initial)
      else none := by
  induction text generalizing initial with
  | nil => rfl
  | cons head tail inductionHypothesis =>
      cases isDig : Decimal.isDigit head with
      | true => simp [List.foldlM_cons, isDig, inductionHypothesis, Nat.mul_comm]
      | false => simp [List.foldlM_cons, isDig]

/-- A number of fixed width is read where its spelling stands. -/
theorem readFixedDigits_iff {s : Bytes} {start count number : Nat} (some_digit : 0 < count) :
    readFixedDigits s start count = some number ↔
      number < 10 ^ count ∧ Decimal.fixedText count number <+: s.drop start := by
  unfold readFixedDigits
  rw [foldlM_digits]
  by_cases fits : start + count > s.length
  · rw [if_pos fits]
    refine iff_of_false (by simp) ?_
    rintro ⟨-, isPrefix⟩
    have short := isPrefix.length_le
    rw [Decimal.length_fixedText, List.length_drop] at short
    omega
  · have width : ((s.drop start).take count).length = count := by simp; omega
    rw [if_neg fits]
    constructor
    · intro read
      split at read
      next digits =>
        have isNumber : Decimal.value ((s.drop start).take count) = number := by
          simpa [Decimal.value] using read
        have digits' := List.all_eq_true.mp digits
        have small := Decimal.value_lt digits'
        have spelled := Decimal.fixedText_value digits'
        rw [width, isNumber] at small spelled
        exact ⟨small, spelled ▸ List.take_prefix count _⟩
      next => simp at read
    · rintro ⟨small, isPrefix⟩
      have spelled : (s.drop start).take count = Decimal.fixedText count number := by
        have taken := List.prefix_iff_eq_take.mp isPrefix
        rw [Decimal.length_fixedText] at taken
        exact taken.symm
      have digits : (Decimal.fixedText count number).all Decimal.isDigit = true :=
        List.all_eq_true.mpr fun b member => Decimal.isDigit_of_mem_fixedText member
      have isValue := Decimal.value_fixedText count number
      rw [Nat.mod_eq_of_lt small] at isValue
      rw [spelled, if_pos digits]
      exact congrArg some isValue

/-! ## Reading the moment -/

theorem length_momentText (year month day hour minute second : Nat) :
    (momentText year month day hour minute second).length = 19 := by
  simp [momentText, Decimal.length_fixedText]

theorem momentText_isPrefix_iff {s : Bytes} {year month day hour minute second : Nat} :
    momentText year month day hour minute second <+: s ↔
      Decimal.fixedText 4 year <+: s.drop 0 ∧ s[4]? = some 45 ∧
      Decimal.fixedText 2 month <+: s.drop 5 ∧ s[7]? = some 45 ∧
      Decimal.fixedText 2 day <+: s.drop 8 ∧ s[10]? = some 84 ∧
      Decimal.fixedText 2 hour <+: s.drop 11 ∧ s[13]? = some 58 ∧
      Decimal.fixedText 2 minute <+: s.drop 14 ∧ s[16]? = some 58 ∧
      Decimal.fixedText 2 second <+: s.drop 17 := by
  simp only [momentText, append_isPrefix_iff, ← mark_isPrefix_iff, List.length_append,
    Decimal.length_fixedText, List.length_singleton, Nat.reduceAdd, List.drop_zero, and_assoc]

/-- A moment is read where its spelling stands and more text follows. -/
theorem readMoment_iff {s : Bytes} {year month day hour minute second : Nat} :
    readMoment s = some (year, month, day, hour, minute, second) ↔
      20 ≤ s.length ∧ (year < 10000 ∧ month < 100 ∧ day < 100 ∧ hour < 100 ∧ minute < 100 ∧
        second < 100) ∧ momentText year month day hour minute second <+: s := by
  have year_iff : readFixedDigits s 0 4 = some year ↔ _ := readFixedDigits_iff (by decide)
  have two_iff : ∀ start number, readFixedDigits s start 2 = some number ↔ _ :=
    fun start number => readFixedDigits_iff (by decide)
  by_cases short : s.length < 20
  · simp only [readMoment, if_pos short]
    refine iff_of_false (by simp) ?_
    rintro ⟨long, -⟩
    omega
  · have long : 20 ≤ s.length := by omega
    rw [momentText_isPrefix_iff]
    simp only [readMoment, if_neg short, Option.bind_eq_bind, Option.bind_eq_some_iff,
      Option.pure_def, Option.ite_none_right_eq_some, Option.some.injEq, Prod.mk.injEq]
    constructor
    · rintro ⟨_, readYear, _, readMonth, _, readDay, _, readHour, _, readMinute, _, readSecond,
        ⟨atFour, atSeven, atTen, atThirteen, atSixteen⟩, rfl, rfl, rfl, rfl, rfl, rfl⟩
      rw [two_iff] at readMonth readDay readHour readMinute readSecond
      rw [year_iff] at readYear
      exact ⟨long, ⟨readYear.1, readMonth.1, readDay.1, readHour.1, readMinute.1, readSecond.1⟩,
        readYear.2, atFour, readMonth.2, atSeven, readDay.2, atTen, readHour.2, atThirteen,
        readMinute.2, atSixteen, readSecond.2⟩
    · rintro ⟨-, ⟨year_lt, month_lt, day_lt, hour_lt, minute_lt, second_lt⟩, isYear, atFour,
        isMonth, atSeven, isDay, atTen, isHour, atThirteen, isMinute, atSixteen, isSecond⟩
      exact ⟨year, year_iff.mpr ⟨year_lt, isYear⟩, month, (two_iff _ _).mpr ⟨month_lt, isMonth⟩,
        day, (two_iff _ _).mpr ⟨day_lt, isDay⟩, hour, (two_iff _ _).mpr ⟨hour_lt, isHour⟩,
        minute, (two_iff _ _).mpr ⟨minute_lt, isMinute⟩, second,
        (two_iff _ _).mpr ⟨second_lt, isSecond⟩,
        ⟨atFour, atSeven, atTen, atThirteen, atSixteen⟩, rfl, rfl, rfl, rfl, rfl, rfl⟩

/-! ## The fraction and the zone -/

/-- A zone starts with a byte that is no digit and no point. -/
theorem Zone.text_head (zone : Zone) :
    ∃ head rest, zone.text = head :: rest ∧ head ≠ 46 ∧ Decimal.isDigit head = false := by
  cases zone with
  | utc => exact ⟨90, [], rfl, by decide, by decide⟩
  | offset ahead hour minute hour_le minute_le =>
      cases ahead with
      | true => exact ⟨43, _, rfl, by decide, by decide⟩
      | false => exact ⟨45, _, rfl, by decide, by decide⟩

theorem drop_mark {text : Bytes} {start : Nat} {mark : UInt8} (marked : text[start]? = some mark) :
    text.drop start = mark :: text.drop (start + 1) := by
  obtain ⟨bound, isMark⟩ := List.getElem?_eq_some_iff.mp marked
  rw [List.drop_eq_getElem_cons bound, isMark]

/-- Behind a fraction that was skipped a zone stands if it stood there before. -/
theorem skipFraction_iff {s : Bytes} {zone : Zone} :
    (∃ start, skipFraction s = some start ∧ s.drop start = zone.text) ↔
      ∃ digits : Bytes, (∀ b ∈ digits, Decimal.isDigit b = true) ∧
        s.drop 19 = fractionText digits ++ zone.text := by
  obtain ⟨head, rest, isText, noPoint, noDigit⟩ := zone.text_head
  unfold skipFraction
  constructor
  · rintro ⟨start, skipped, isZone⟩
    split at skipped
    next pointed =>
      simp only at skipped
      split at skipped
      next => simp at skipped
      next some_digit =>
        obtain rfl := Option.some.inj skipped
        have parts := List.prefix_iff_eq_append.mp
          (List.takeWhile_prefix (l := s.drop 20) Decimal.isDigit)
        have nonempty : (s.drop 20).takeWhile Decimal.isDigit ≠ [] := by
          simpa using some_digit
        rw [List.drop_drop, isZone] at parts
        refine ⟨(s.drop 20).takeWhile Decimal.isDigit,
          fun b member => List.mem_takeWhile_imp member, ?_⟩
        rw [drop_mark pointed, fractionText, if_neg nonempty, List.cons_append, parts]
    next unpointed =>
      obtain rfl := Option.some.inj skipped
      exact ⟨[], by simp, by simpa [fractionText] using isZone⟩
  · rintro ⟨digits, areDigits, isTail⟩
    by_cases absent : digits = []
    · subst absent
      have isZone : s.drop 19 = zone.text := by simpa [fractionText] using isTail
      have unpointed : ¬ s[19]? = some 46 := by
        rw [← mark_isPrefix_iff, isZone, isText]
        simpa using fun isPoint => noPoint isPoint.symm
      exact ⟨19, by rw [if_neg unpointed], isZone⟩
    · rw [fractionText, if_neg absent, List.cons_append] at isTail
      have pointed : s[19]? = some 46 := by
        rw [← mark_isPrefix_iff, isTail]
        simp
      have behind : s.drop 20 = digits ++ zone.text := by
        rw [drop_mark pointed] at isTail
        exact (List.cons.inj isTail).2
      have taken : (s.drop 20).takeWhile Decimal.isDigit = digits := by
        rw [behind, isText, List.takeWhile_append_of_pos areDigits]
        simp [noDigit]
      refine ⟨20 + digits.length, ?_, ?_⟩
      · rw [if_pos pointed, taken]
        simp [absent]
      · rw [← List.drop_drop, behind, List.drop_left]

theorem offsetText_isPrefix_iff {s : Bytes} {start hour minute : Nat} {sign : UInt8} :
    [sign] ++ Decimal.fixedText 2 hour ++ [58] ++ Decimal.fixedText 2 minute <+: s.drop start ↔
      s[start]? = some sign ∧ Decimal.fixedText 2 hour <+: s.drop (start + 1) ∧
      s[start + 3]? = some 58 ∧ Decimal.fixedText 2 minute <+: s.drop (start + 4) := by
  simp only [append_isPrefix_iff, ← mark_isPrefix_iff, List.length_append, List.drop_drop,
    Decimal.length_fixedText, List.length_singleton, Nat.reduceAdd, and_assoc]

/-- An offset is read where the spelling of a zone ends the text. -/
theorem readOffset_iff {s : Bytes} {start : Nat} {seconds : Int} :
    readOffset s start = .ok seconds ↔
      ∃ zone : Zone, s.drop start = zone.text ∧ seconds = zone.seconds := by
  have two_iff : ∀ start number, readFixedDigits s start 2 = some number ↔ _ :=
    fun start number => readFixedDigits_iff (by decide)
  constructor
  · intro read
    unfold readOffset at read
    split at read
    next => simp at read
    next mark isMark =>
      split at read
      next isUtc =>
        split at read
        next ended =>
          refine ⟨.utc, ?_, by simpa [Zone.seconds] using read.symm⟩
          rw [drop_mark isMark, isUtc, ended, List.drop_length]
          rfl
        next => simp at read
      next =>
        split at read
        next signed =>
          split at read
          next hour minute readHour isColon readMinute =>
            split at read
            next => simp at read
            next inRange =>
              split at read
              next => simp at read
              next ended =>
                have isPrefix := offsetText_isPrefix_iff.mpr
                  ⟨isMark, ((two_iff _ _).mp readHour).2, isColon, ((two_iff _ _).mp readMinute).2⟩
                have whole := isPrefix.eq_of_length (by
                  simp [Decimal.length_fixedText]
                  omega)
                refine ⟨.offset (decide (mark = 43)) hour minute (by omega) (by omega), ?_, ?_⟩
                · rw [← whole, Zone.text]
                  rcases signed with rfl | rfl <;> simp
                · rcases signed with rfl | rfl <;> simpa [Zone.seconds] using read.symm
          next => simp at read
        next => simp at read
  · rintro ⟨zone, isTail, rfl⟩
    cases zone with
    | utc =>
        have isMark : s[start]? = some 90 := by
          rw [← mark_isPrefix_iff, isTail]
          simp [Zone.text]
        have ended : start + 1 = s.length := by
          have length := congrArg List.length isTail
          simp [Zone.text] at length
          omega
        simp [readOffset, isMark, ended, Zone.seconds]
    | offset ahead hour minute hour_le minute_le =>
        have ended : start + 6 = s.length := by
          have length := congrArg List.length isTail
          simp [Zone.text, Decimal.length_fixedText] at length
          omega
        have isPrefix : (Zone.offset ahead hour minute hour_le minute_le).text <+: s.drop start :=
          isTail ▸ List.prefix_refl _
        obtain ⟨isMark, isHour, isColon, isMinute⟩ := offsetText_isPrefix_iff.mp isPrefix
        have readHour := (two_iff _ _).mpr ⟨by omega, isHour⟩
        have readMinute := (two_iff _ _).mpr ⟨by omega, isMinute⟩
        have inRange : ¬ (hour > 23 ∨ minute > 59) := by omega
        cases ahead <;> simp at isMark <;>
          simp [readOffset, isMark, readHour, readMinute, isColon, inRange, ended, Zone.seconds]

/-! ## The whole function -/

theorem daysTo_epoch {date : Date} {days : Int} (counted : DaysTo (Date.newYear 1970) date days) :
    days = daysFromCivil date.year date.month date.day := by
  let count : Date → Int := fun date => daysFromCivil date.year date.month date.day
  have grows : ∀ date, count date.next = count date + 1 := daysFromCivil_next
  have isDays := daysTo_of_step grows counted
  have epoch : count (Date.newYear 1970) = 0 := by decide
  rw [epoch, Int.sub_zero] at isDays
  exact isDays

/-- A timestamp names the instant the formula computes, and no other. -/
theorem isInstant_iff {t : Timestamp} {seconds : Int} :
    t.IsInstant seconds ↔
      seconds = daysFromCivil t.date.year t.date.month t.date.day * 86400 + t.hour * 3600 +
        t.minute * 60 + t.second - t.zone.seconds := by
  constructor
  · rintro ⟨days, counted, rfl⟩
    rw [daysTo_epoch counted]
    omega
  · rintro rfl
    obtain ⟨days, counted⟩ := daysTo_exists (Date.newYear 1970) t.date
    refine ⟨days, counted, ?_⟩
    rw [daysTo_epoch counted]
    omega

/-- What is accepted is a spelling, and is read as what it spells. -/
theorem parseRfc3339_spelled {s : Bytes} {seconds : Int} (parsed : parseRfc3339 s = .ok seconds) :
    ∃ t : Timestamp, t.text = s ∧ t.IsInstant seconds := by
  unfold parseRfc3339 at parsed
  split at parsed
  next => simp at parsed
  next year month day hour minute second read =>
    obtain ⟨-, ⟨year_lt, -, -, -, -, -⟩, isPrefix⟩ := readMoment_iff.mp read
    split at parsed
    next => simp at parsed
    next inCalendar =>
      split at parsed
      next => simp at parsed
      next start skipped =>
        cases readZone : readOffset s start with
        | error message => simp [readZone, bind, Except.bind] at parsed
        | ok offset =>
            simp only [readZone, bind, Except.bind, pure, Except.pure, Except.ok.injEq] at parsed
            obtain ⟨zone, isZone, rfl⟩ := readOffset_iff.mp readZone
            obtain ⟨fraction, digits, isTail⟩ := skipFraction_iff.mp ⟨start, skipped, isZone⟩
            have month_pos : 1 ≤ month := by omega
            have month_le : month ≤ 12 := by omega
            rw [daysInMonth_eq month_pos month_le] at inCalendar
            refine ⟨⟨⟨year, month, day, month_pos, month_le, by omega, by omega⟩, hour, minute,
              second, fraction, zone, by simp; omega, by omega, by omega, by omega, digits⟩, ?_,
              isInstant_iff.mpr parsed.symm⟩
            have whole := List.prefix_iff_eq_append.mp isPrefix
            rw [length_momentText, isTail] at whole
            exact whole

/-- A spelling is read as the instant it names. -/
theorem parseRfc3339_text {t : Timestamp} {seconds : Int} (named : t.IsInstant seconds) :
    parseRfc3339 t.text = .ok seconds := by
  have year_le := t.year_le
  have hour_le := t.hour_le
  have minute_le := t.minute_le
  have second_le := t.second_le
  have month_pos := t.date.month_pos
  have month_le := t.date.month_le
  have day_pos := t.date.day_pos
  have day_le := t.date.day_le
  have short := monthLength_le t.date.year t.date.month
  have isPrefix : momentText t.date.year t.date.month t.date.day t.hour t.minute t.second <+:
      t.text := List.prefix_append _ _
  have isTail : t.text.drop 19 = fractionText t.fraction ++ t.zone.text := by
    rw [Timestamp.text, ← length_momentText t.date.year t.date.month t.date.day t.hour t.minute
      t.second, List.drop_left]
  have long : 20 ≤ t.text.length := by
    obtain ⟨head, rest, isText, -, -⟩ := t.zone.text_head
    have length := congrArg List.length isTail
    simp [isText] at length
    omega
  have read := readMoment_iff.mpr ⟨long, ⟨by omega, by omega, by omega, by omega, by omega,
    by omega⟩, isPrefix⟩
  obtain ⟨start, skipped, isZone⟩ := skipFraction_iff.mpr ⟨t.fraction, t.fraction_digits, isTail⟩
  have readZone := readOffset_iff.mpr ⟨t.zone, isZone, rfl⟩
  have isMonth : daysInMonth t.date.year t.date.month = _ := daysInMonth_eq month_pos month_le
  have inCalendar : ¬ (t.date.month < 1 ∨ t.date.month > 12 ∨ t.date.day < 1 ∨
      t.date.day > daysInMonth t.date.year t.date.month ∨ t.hour > 23 ∨ t.minute > 59 ∨
      t.second > 59) := by omega
  rw [isInstant_iff.mp named]
  simp only [parseRfc3339, read, if_neg inCalendar, skipped, readZone]
  rfl

/-! ## No read leaves the text -/

theorem readDigitsInside_eq {s : Bytes} {start count : Nat} (accumulated : Nat)
    (fits : start + count ≤ s.length) :
    readDigitsInside s start count accumulated =
      some (((s.drop start).take count).foldlM (fun accumulated c =>
        if Decimal.isDigit c then some (accumulated * 10 + (c.toNat - 48)) else none)
        accumulated) := by
  induction count generalizing start accumulated with
  | zero => rfl
  | succ count inductionHypothesis =>
      have inside : start < s.length := by omega
      rw [readDigitsInside, List.drop_eq_getElem_cons inside, List.take_succ_cons,
        List.foldlM_cons, List.getElem?_eq_getElem inside]
      cases isDig : Decimal.isDigit s[start] with
      | true =>
          simp only [bind, Option.bind, isDig, if_true]
          exact inductionHypothesis _ (by omega)
      | false => simp [isDig]

theorem readFixedDigitsInside_eq (s : Bytes) (start count : Nat) :
    readFixedDigitsInside s start count = some (readFixedDigits s start count) := by
  unfold readFixedDigitsInside readFixedDigits
  split
  · rfl
  · exact readDigitsInside_eq 0 (by omega)

theorem readNumber_eq (s : Bytes) (start count : Nat) (next : Nat → Option (Except Bytes Int)) :
    readNumber s start count next =
      match readFixedDigits s start count with
      | some number => next number
      | none => some (.error kFormatError) := by
  rw [readNumber, readFixedDigitsInside_eq]
  rfl

theorem readMark_eq {s : Bytes} {start : Nat} (mark : UInt8) (next : Option (Except Bytes Int))
    (inside : start < s.length) :
    readMark s start mark next =
      if s[start]? = some mark then next else some (.error kFormatError) := by
  rw [readMark, List.getElem?_eq_getElem inside]
  simp

theorem skipDigitsInside_eq {s : Bytes} {fuel start : Nat} (enough : s.length ≤ start + fuel) :
    skipDigitsInside s fuel start =
      some (start + ((s.drop start).takeWhile Decimal.isDigit).length) := by
  induction fuel generalizing start with
  | zero =>
      have atEnd : s.drop start = [] := List.drop_eq_nil_of_le enough
      rw [skipDigitsInside, atEnd]
      rfl
  | succ fuel inductionHypothesis =>
      rw [skipDigitsInside]
      by_cases inside : start < s.length
      · rw [if_pos inside, List.getElem?_eq_getElem inside, List.drop_eq_getElem_cons inside]
        cases isDig : Decimal.isDigit s[start] with
        | true =>
            simp only [bind, Option.bind, isDig, if_true, List.takeWhile_cons, List.length_cons]
            rw [inductionHypothesis (by omega)]
            congr 1
            omega
        | false => simp [isDig]
      · simp [inside, List.drop_eq_nil_of_le (Nat.le_of_not_lt inside)]

theorem skipFractionInside_eq (s : Bytes) : skipFractionInside s = some (skipFraction s) := by
  unfold skipFractionInside skipFraction
  by_cases inside : 19 < s.length
  · rw [if_pos inside, List.getElem?_eq_getElem inside]
    by_cases pointed : s[19] = 46
    · simp only [bind, Option.bind, pointed, if_true, skipDigitsInside_eq (Nat.le_add_left _ 20)]
      split <;> split <;> first | rfl | omega
    · simp [pointed]
  · rw [if_neg inside, List.getElem?_eq_none (by omega)]
    simp

theorem readOffsetInside_eq {s : Bytes} {start : Nat} (next : Int → Int)
    (inside : start ≤ s.length) :
    readOffsetInside s start next = some (next <$> readOffset s start) := by
  unfold readOffsetInside readOffset
  by_cases ended : start = s.length
  · rw [if_pos ended, List.getElem?_eq_none (by omega)]
    rfl
  · have inside' : start < s.length := by omega
    rw [if_neg ended, List.getElem?_eq_getElem inside']
    simp only [bind, Option.bind]
    split
    next =>
      by_cases last : start + 1 = s.length
      · rw [if_neg (not_not_intro last), if_pos last]
        rfl
      · rw [if_pos last, if_neg last]
        rfl
    next =>
      split
      next =>
        rw [readNumber_eq]
        cases isHour : readFixedDigits s (start + 1) 2 with
        | none => rfl
        | some offsetHour =>
            simp only
            by_cases short : start + 1 + 2 ≥ s.length
            · rw [if_pos short, List.getElem?_eq_none (by omega : s.length ≤ start + 3)]
              rfl
            · rw [if_neg short, readMark_eq _ _ (by omega), readNumber_eq]
              by_cases isColon : s[start + 3]? = some 58
              · rw [if_pos isColon, isColon]
                cases isMinute : readFixedDigits s (start + 4) 2 with
                | none => rfl
                | some offsetMinute =>
                    simp only [Nat.add_assoc, Nat.reduceAdd]
                    split
                    · rfl
                    · split <;> rfl
              · rw [if_neg isColon]
                split
                next isColon' _ => exact absurd isColon' isColon
                next => rfl
      next => rfl

theorem skipFraction_le {s : Bytes} {start : Nat} (long : 20 ≤ s.length)
    (skipped : skipFraction s = some start) : start ≤ s.length := by
  unfold skipFraction at skipped
  split at skipped
  · simp only at skipped
    split at skipped
    · simp at skipped
    · have short := (List.takeWhile_prefix (l := s.drop 20) Decimal.isDigit).length_le
      rw [List.length_drop] at short
      have isStart := Option.some.inj skipped
      omega
  · have isStart := Option.some.inj skipped
    omega

/-- Each check of the moment reads what the ones before it found to be there. -/
theorem readMoment_inside {s : Bytes} (long : ¬ s.length < 20)
    (next : Nat → Nat → Nat → Nat → Nat → Nat → Option (Except Bytes Int)) :
    (readNumber s 0 4 fun year => readMark s 4 45 <|
      readNumber s 5 2 fun month => readMark s 7 45 <|
      readNumber s 8 2 fun day => readMark s 10 84 <|
      readNumber s 11 2 fun hour => readMark s 13 58 <|
      readNumber s 14 2 fun minute => readMark s 16 58 <|
      readNumber s 17 2 fun second => next year month day hour minute second) =
      match readMoment s with
      | none => some (.error kFormatError)
      | some (year, month, day, hour, minute, second) =>
          next year month day hour minute second := by
  have inside : ∀ {start}, start < 20 → start < s.length := fun below => by omega
  simp only [readMoment, if_neg long, readNumber_eq,
    readMark_eq _ _ (inside (by decide : 4 < 20)), readMark_eq _ _ (inside (by decide : 7 < 20)),
    readMark_eq _ _ (inside (by decide : 10 < 20)), readMark_eq _ _ (inside (by decide : 13 < 20)),
    readMark_eq _ _ (inside (by decide : 16 < 20))]
  cases readFixedDigits s 0 4 with
  | none => rfl
  | some year =>
  cases readFixedDigits s 5 2 with
  | none => simp
  | some month =>
  cases readFixedDigits s 8 2 with
  | none => simp
  | some day =>
  cases readFixedDigits s 11 2 with
  | none => simp
  | some hour =>
  cases readFixedDigits s 14 2 with
  | none => simp
  | some minute =>
  cases readFixedDigits s 17 2 with
  | none => simp
  | some second =>
  by_cases marked : s[4]? = some 45 ∧ s[7]? = some 45 ∧ s[10]? = some 84 ∧ s[13]? = some 58 ∧
      s[16]? = some 58
  · simp [marked]
  · simp only [Option.bind_eq_bind, Option.bind_some, if_neg marked]
    simp only [← ite_and, if_neg marked]

theorem parseRfc3339Inside_eq (s : Bytes) : parseRfc3339Inside s = some (parseRfc3339 s) := by
  unfold parseRfc3339Inside
  by_cases short : s.length < 20
  · simp [short, parseRfc3339, readMoment]
  · rw [if_neg short, readMoment_inside short, parseRfc3339, skipFractionInside_eq]
    cases isMoment : readMoment s with
    | none => rfl
    | some moment =>
        obtain ⟨year, month, day, hour, minute, second⟩ := moment
        obtain ⟨-, ⟨year_lt, -, -, -, -, -⟩, -⟩ := readMoment_iff.mp isMoment
        simp only
        split
        next => rfl
        next inCalendar =>
          cases skipped : skipFraction s with
          | none => rfl
          | some start =>
              have month_pos : 1 ≤ month := by omega
              have month_le : month ≤ 12 := by omega
              rw [daysInMonth_eq month_pos month_le] at inCalendar
              have day_le := monthLength_le year month
              simp only [bind, Option.bind]
              rw [readOffsetInside_eq _ (skipFraction_le (by omega) skipped),
                daysFromCivilUnsigned_eq (by omega) month_pos month_le (by omega) (by omega)]
              cases readOffset s start <;> rfl

/-- The function accepts exactly the spellings of a date and a time that exist,
reads each as the instant it names, and never reads outside its text. -/
theorem parseRfc3339_exact (s : Bytes) :
    parseRfc3339Inside s = some (parseRfc3339 s) ∧
      ((∃ seconds, parseRfc3339 s = .ok seconds) ↔ ∃ t : Timestamp, t.text = s) ∧
      ∀ seconds, parseRfc3339 s = .ok seconds ↔
        ∃ t : Timestamp, t.text = s ∧ t.IsInstant seconds := by
  refine ⟨parseRfc3339Inside_eq s, ⟨?_, ?_⟩, fun seconds => ⟨parseRfc3339_spelled, ?_⟩⟩
  · rintro ⟨seconds, parsed⟩
    obtain ⟨t, isText, -⟩ := parseRfc3339_spelled parsed
    exact ⟨t, isText⟩
  · rintro ⟨t, rfl⟩
    exact ⟨_, parseRfc3339_text (isInstant_iff.mpr rfl)⟩
  · rintro ⟨t, rfl, named⟩
    exact parseRfc3339_text named

end DrogonPay.PayUtils
