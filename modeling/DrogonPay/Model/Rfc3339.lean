import DrogonPay.Decimal.Text

/-!
Contract: deadlines as `utils/PayUtils.cc` reads them.

Owns:
- `parseRfc3339` with its helpers, and `validateTimeExpire`;
- `parseRfc3339Inside`, the same function read by read and with the 32-bit
  arithmetic of the day count, where a read outside the text is a result of its
  own.

Does not own: what a deadline is used for.
-/

namespace DrogonPay.PayUtils

/-- `count` digits from position `start` on. -/
def readFixedDigits (s : Bytes) (start count : Nat) : Option Nat :=
  if start + count > s.length then none
  else
    ((s.drop start).take count).foldlM (fun accumulated c =>
      if Decimal.isDigit c then some (accumulated * 10 + (c.toNat - 48)) else none) 0

def isLeapYear (year : Nat) : Bool :=
  (year % 4 = 0 && year % 100 ≠ 0) || year % 400 = 0

def daysInMonth (year month : Nat) : Nat :=
  if month = 2 && isLeapYear year then 29
  else [31, 28, 31, 30, 31, 30, 31, 31, 30, 31, 30, 31].getD (month - 1) 0

/-- Days between 1970-01-01 and a date of the proleptic Gregorian calendar. -/
def daysFromCivil (year : Int) (month day : Nat) : Int :=
  let year := if month ≤ 2 then year - 1 else year
  let era := (if year ≥ 0 then year else year - 399).tdiv 400
  let yearOfEra := (year - era * 400).toNat
  let shiftedMonth := if month > 2 then month - 3 else month + 9
  let dayOfYear := (153 * shiftedMonth + 2) / 5 + day - 1
  let dayOfEra := yearOfEra * 365 + yearOfEra / 4 - yearOfEra / 100 + dayOfYear
  era * 146097 + dayOfEra - 719468

/-- The sign between hours and minutes of an offset, and of a format. -/
def plusMinus : Bytes := [194, 177]

def kFormatError : Bytes :=
  ascii "expected RFC 3339 (yyyy-MM-DDTHH:mm:ss with a Z or " ++ plusMinus ++
    ascii "HH:MM timezone)"

/-- The seconds a `Z` or an offset at position `start` stands for. -/
def readOffset (value : Bytes) (start : Nat) : Except Bytes Int :=
  match value[start]? with
  | none => .error (ascii "the timestamp must carry a timezone (Z or " ++ plusMinus ++
      ascii "HH:MM)")
  | some zone =>
      if zone = 90 then
        if start + 1 = value.length then .ok 0 else .error kFormatError
      else if zone = 43 ∨ zone = 45 then
        match readFixedDigits value (start + 1) 2, value[start + 3]?,
            readFixedDigits value (start + 4) 2 with
        | some offsetHour, some 58, some offsetMinute =>
            if offsetHour > 23 ∨ offsetMinute > 59 then
              .error (ascii "the timezone offset is out of range")
            else if start + 6 ≠ value.length then .error kFormatError
            else
              let offset : Int := offsetHour * 3600 + offsetMinute * 60
              .ok (if zone = 43 then offset else -offset)
        | _, _, _ => .error kFormatError
      else .error kFormatError

/-- The date and the time of day, at fixed positions. -/
def readMoment (value : Bytes) : Option (Nat × Nat × Nat × Nat × Nat × Nat) := do
  if value.length < 20 then none
  let year ← readFixedDigits value 0 4
  let month ← readFixedDigits value 5 2
  let day ← readFixedDigits value 8 2
  let hour ← readFixedDigits value 11 2
  let minute ← readFixedDigits value 14 2
  let second ← readFixedDigits value 17 2
  if value[4]? = some 45 ∧ value[7]? = some 45 ∧ value[10]? = some 84 ∧ value[13]? = some 58 ∧
      value[16]? = some 58 then
    return (year, month, day, hour, minute, second)
  else none

/-- The position behind the seconds and their fraction. -/
def skipFraction (value : Bytes) : Option Nat :=
  if value[19]? = some 46 then
    let digits := ((value.drop 20).takeWhile Decimal.isDigit).length
    if digits = 0 then none else some (20 + digits)
  else some 19

/-- Seconds since the epoch, or why the text names no moment. -/
def parseRfc3339 (value : Bytes) : Except Bytes Int :=
  match readMoment value with
  | none => .error kFormatError
  | some (year, month, day, hour, minute, second) =>
      if month < 1 ∨ month > 12 ∨ day < 1 ∨ day > daysInMonth year month ∨ hour > 23 ∨
          minute > 59 ∨ second > 59 then
        .error (ascii "the timestamp names a moment that does not exist")
      else
        match skipFraction value with
        | none => .error kFormatError
        | some start => do
            let offsetSeconds ← readOffset value start
            return daysFromCivil year month day * 86400 + hour * 3600 + minute * 60 + second -
              offsetSeconds

/-- Why a payment end time is refused. -/
def validateTimeExpire (timeExpire channel : Bytes) (nowSeconds : Nat) : Option Bytes :=
  match parseRfc3339 timeExpire with
  | .error parseError => some (ascii "time_expire " ++ parseError)
  | .ok expirySeconds =>
      if expirySeconds ≤ nowSeconds then some (ascii "time_expire is already in the past")
      else if channel = ascii "wechat" ∧ expirySeconds > nowSeconds + 7 * 86400 then
        some (ascii "time_expire must be within 7 days for WeChat Pay")
      else none

/-! ## Read by read -/

/-- `daysFromCivil` with the unsigned variables it is written with. -/
def daysFromCivilUnsigned (year : Int) (month day : Nat) : Int :=
  let year := if month ≤ 2 then year - 1 else year
  let era := (if year ≥ 0 then year else year - 399).tdiv 400
  let yearOfEra : UInt32 := UInt32.ofInt (year - era * 400)
  let shiftedMonth : UInt32 := UInt32.ofInt (month + if month > 2 then -3 else 9)
  let dayOfYear : UInt32 := (153 * shiftedMonth + 2) / 5 + UInt32.ofNat day - 1
  let dayOfEra : UInt32 := yearOfEra * 365 + yearOfEra / 4 - yearOfEra / 100 + dayOfYear
  era * 146097 + dayOfEra.toNat - 719468

/-- The loop of `readFixedDigits`. Here and below the outer `none` is a read
outside the text. -/
def readDigitsInside (s : Bytes) : Nat → Nat → Nat → Option (Option Nat)
  | _, 0, accumulated => some (some accumulated)
  | start, count + 1, accumulated => do
      let c ← s[start]?
      if Decimal.isDigit c then
        readDigitsInside s (start + 1) count (accumulated * 10 + (c.toNat - 48))
      else some none

def readFixedDigitsInside (s : Bytes) (start count : Nat) : Option (Option Nat) :=
  if start + count > s.length then some none else readDigitsInside s start count 0

/-- Read a number of fixed width and go on with it. -/
def readNumber (value : Bytes) (start count : Nat) (next : Nat → Option (Except Bytes Int)) :
    Option (Except Bytes Int) := do
  match ← readFixedDigitsInside value start count with
  | some number => next number
  | none => some (.error kFormatError)

/-- Go on when this byte stands here. -/
def readMark (value : Bytes) (start : Nat) (mark : UInt8) (next : Option (Except Bytes Int)) :
    Option (Except Bytes Int) := do
  let c ← value[start]?
  if c = mark then next else some (.error kFormatError)

/-- The loop over the digits of a fraction. -/
def skipDigitsInside (value : Bytes) : Nat → Nat → Option Nat
  | 0, start => some start
  | fuel + 1, start =>
      if start < value.length then do
        let c ← value[start]?
        if Decimal.isDigit c then skipDigitsInside value fuel (start + 1) else some start
      else some start

/-- The position behind the fraction; the inner `none` is a fraction without
digits. -/
def skipFractionInside (value : Bytes) : Option (Option Nat) :=
  if 19 < value.length then do
    let c ← value[19]?
    if c = 46 then
      let stop ← skipDigitsInside value value.length 20
      if stop = 20 then some none else some (some stop)
    else some (some 19)
  else some (some 19)

/-- The zone at position `start`, and nothing behind it. -/
def readOffsetInside (value : Bytes) (start : Nat) (next : Int → Int) :
    Option (Except Bytes Int) :=
  if start = value.length then
    some (.error (ascii "the timestamp must carry a timezone (Z or " ++ plusMinus ++
      ascii "HH:MM)"))
  else do
    let zone ← value[start]?
    if zone = 90 then
      if start + 1 ≠ value.length then some (.error kFormatError) else some (.ok (next 0))
    else if zone = 43 ∨ zone = 45 then
      readNumber value (start + 1) 2 fun offsetHour =>
        if start + 1 + 2 ≥ value.length then some (.error kFormatError)
        else
          readMark value (start + 1 + 2) 58 <|
            readNumber value (start + 1 + 3) 2 fun offsetMinute =>
              if offsetHour > 23 ∨ offsetMinute > 59 then
                some (.error (ascii "the timezone offset is out of range"))
              else if start + 1 + 5 ≠ value.length then some (.error kFormatError)
              else
                let offset : Int := offsetHour * 3600 + offsetMinute * 60
                some (.ok (next (if zone = 43 then offset else -offset)))
    else some (.error kFormatError)

def parseRfc3339Inside (value : Bytes) : Option (Except Bytes Int) :=
  if value.length < 20 then some (.error kFormatError)
  else
    readNumber value 0 4 fun year =>
    readMark value 4 45 <|
    readNumber value 5 2 fun month =>
    readMark value 7 45 <|
    readNumber value 8 2 fun day =>
    readMark value 10 84 <|
    readNumber value 11 2 fun hour =>
    readMark value 13 58 <|
    readNumber value 14 2 fun minute =>
    readMark value 16 58 <|
    readNumber value 17 2 fun second =>
      if month < 1 ∨ month > 12 ∨ day < 1 ∨ day > daysInMonth year month ∨ hour > 23 ∨
          minute > 59 ∨ second > 59 then
        some (.error (ascii "the timestamp names a moment that does not exist"))
      else do
        match ← skipFractionInside value with
        | none => some (.error kFormatError)
        | some start =>
            readOffsetInside value start fun offsetSeconds =>
              daysFromCivilUnsigned year month day * 86400 + hour * 3600 + minute * 60 + second -
                offsetSeconds

example : (parseRfc3339 (ascii "2030-01-01T00:00:00+08:00")).toOption = some 1893427200 := by
  decide +kernel

end DrogonPay.PayUtils
