import NntpBench.Server.ParsedCommand

namespace NntpBench.Server

open Protocol

def parseDigits (digits : Str) : Option Nat :=
  if digits ≠ [] ∧ digits.all Char.isDigit then
    some (digits.foldl (fun acc c => acc * 10 + (c.toNat - 48)) 0)
  else none

/-- `value.parse()` for an unsigned type with values below `bound`: one `+` is allowed. -/
def parseUnsigned (bound : Nat) (value : Str) : Option Nat :=
  let digits :=
    match value with
    | '+' :: rest => rest
    | _ => value
  (parseDigits digits).filter (· < bound)

def parseI32 (value : Str) : Option Int :=
  match value with
  | '-' :: rest => ((parseDigits rest).filter (· ≤ 2 ^ 31)).map fun value => -(value : Int)
  | _ => (parseUnsigned (2 ^ 31) value).map fun value => (value : Int)

def parseAsciiDecimal (value : Bytes) : Option Nat :=
  value.foldlM (fun acc byte => if 48 ≤ byte then some (acc * 10 + (byte.toNat - 48)) else none) 0

structure CivilDate where
  year : Int
  month : Nat
  day : Nat
  deriving DecidableEq, Repr

def asI32 (value : Int) : Int := value.bmod (2 ^ 32)

/-- The release profile checks the arithmetic for overflow. -/
def civilFromUnixDays (daysSinceEpoch : Int) : CivilDate :=
  let z := daysSinceEpoch + 719468
  let era := (if z ≥ 0 then z else z - 146096).tdiv 146097
  let doe := z - era * 146097
  let yoe := (doe - doe / 1460 + doe / 36524 - doe / 146096) / 365
  let y := yoe + era * 400
  let doy := doe - (365 * yoe + yoe / 4 - yoe / 100)
  let mp := (5 * doy + 2) / 153
  let day := doy - (153 * mp + 2) / 5 + 1
  let month := mp + if mp < 10 then 3 else -9
  let year := y + if month ≤ 2 then 1 else 0
  ⟨asI32 year, month.toNat, day.toNat⟩

def daysFromCivil (year month day : Int) : Option Int :=
  if ¬ (1 ≤ month ∧ month ≤ 12) ∨ ¬ (1 ≤ day ∧ day ≤ 31) then none
  else
    let y := year - if month ≤ 2 then 1 else 0
    let era := (if y ≥ 0 then y else y - 399).tdiv 400
    let yoe := y - era * 400
    let mp := month + if month > 2 then -3 else 9
    let doy := (153 * mp + 2) / 5 + day - 1
    let doe := yoe * 365 + yoe / 4 - yoe / 100 + doy
    some (era * 146097 + doe - 719468)

def digitAt (value weight : Nat) : UInt8 := (48 + value / weight % 10).toUInt8

def writeFourDigits (value : Nat) : Bytes :=
  [digitAt value 1000, digitAt value 100, digitAt value 10, digitAt value 1]

def writeTwoDigits (value : Nat) : Bytes := [digitAt value 10, digitAt value 1]

/-- `days` as the source computes them from the seconds since the epoch. -/
def unixDays (seconds : Nat) : Int := (seconds / 86400 : Nat)

def dateResponseForUnixSeconds (seconds : Nat) : Bytes :=
  let date := civilFromUnixDays (unixDays seconds)
  let secondsOfDay := seconds % 86400
  ascii "111 " ++ writeFourDigits (date.year % 2 ^ 32).toNat ++ writeTwoDigits date.month ++
    writeTwoDigits date.day ++ writeTwoDigits (secondsOfDay / 3600) ++
    writeTwoDigits (secondsOfDay % 3600 / 60) ++ writeTwoDigits (secondsOfDay % 60) ++ CRLF

def currentUtcYear (now : Nat) : Nat := ((civilFromUnixDays (unixDays now)).year % 2 ^ 16).toNat

def normalizedNntpDateKey (date : Bytes) (currentYear : Nat) : Option Nat :=
  if (date.length ≠ 6 ∧ date.length ≠ 8) ∨ !date.all isAsciiDigit then none
  else do
    if date.length = 8 then
      let year ← parseAsciiDecimal (date.take 4)
      let month ← parseAsciiDecimal (date.extract 4 6)
      let day ← parseAsciiDecimal (date.drop 6)
      some (year * 10000 + month * 100 + day)
    else
      let shortYear ← parseAsciiDecimal (date.take 2)
      let currentCentury := currentYear / 100 * 100
      let year :=
        if shortYear ≤ currentYear % 100 then currentCentury + shortYear
        else currentCentury - 100 + shortYear
      let month ← parseAsciiDecimal (date.extract 2 4)
      let day ← parseAsciiDecimal (date.drop 4)
      some (year * 10000 + month * 100 + day)

def normalizedNntpDatetimeKey (date time : Bytes) (currentYear : Nat) : Option Nat := do
  let date ← normalizedNntpDateKey date currentYear
  if time.length ≠ 6 ∨ !time.all isAsciiDigit then none
  else
    let time ← parseAsciiDecimal time
    some (date * 1000000 + time)

def nntpDatetimeTimestamp (date time : Bytes) (currentYear : Nat) : Option Nat := do
  let dateKey ← normalizedNntpDateKey date currentYear
  if time.length ≠ 6 ∨ !time.all isAsciiDigit then none
  else
    let hour ← parseAsciiDecimal (time.take 2)
    let minute ← parseAsciiDecimal (time.extract 2 4)
    let second ← parseAsciiDecimal (time.drop 4)
    let days ← daysFromCivil (dateKey / 10000 : Nat) (dateKey / 100 % 100 : Nat)
      (dateKey % 100 : Nat)
    let seconds := days * 86400 + (hour * 3600 + minute * 60 + second : Nat)
    if seconds ≥ 0 then some seconds.toNat else none

/-- A failed overflow check. -/
inductive Panic where
  | arithmeticOverflow
  deriving DecidableEq, Repr

def splitWhitespace (value : Str) : List Str :=
  (value.splitOnP isUnicodeWhitespace).filter (· ≠ [])

def withoutSuffix (ending value : Str) : Str :=
  if ending <:+ value then value.take (value.length - ending.length) else value

def MONTHS : List Str :=
  ["Jan", "Feb", "Mar", "Apr", "May", "Jun", "Jul", "Aug", "Sep", "Oct", "Nov", "Dec"].map
    String.toList

def monthNumber (month : Str) : Option Nat := (MONTHS.idxOf? month).map (· + 1)

def offsetSeconds (tz : Str) : Option Int :=
  if eqIgnoreAsciiCase (asBytes tz) (ascii "GMT") ∨ tz = "+0000".toList then some 0
  else
    match tz with
    | '+' :: digits => (offsetOfDigits digits).map fun value => (value : Int)
    | '-' :: digits => (offsetOfDigits digits).map fun value => -(value : Int)
    | _ => none
where
  /-- Two digits for the hours and two for the minutes. -/
  offsetOfDigits (digits : Str) : Option Nat :=
    if digits.length = 4 ∧ digits.all Char.isDigit then do
      let hours ← parseDigits (digits.take 2)
      let minutes ← parseDigits (digits.drop 2)
      some (hours * 3600 + minutes * 60)
    else none

/-- The parts of a date before they are put together. -/
structure Rfc2822Parts where
  day : Nat
  month : Nat
  year : Int
  hour : Nat
  minute : Nat
  second : Nat
  zone : Str
  offsetSeconds : Int

/-- Day, month, year, time and zone of a date, with the weekday in front dropped. -/
def dateTokens (parts : List Str) : Option (List Str) :=
  match parts with
  | [] => none
  | first :: rest => if first.getLast? = some ',' then some rest else some parts

def rfc2822Parts (value : Bytes) : Option Rfc2822Parts := do
  let value := trim (← fromUtf8 value)
  let value := withoutSuffix " UTC".toList (withoutSuffix " GMT".toList value)
  let (day, month, year, time, tz) ←
    match ← dateTokens (splitWhitespace value) with
    | [day, month, year, time] => some (day, month, year, time, "+0000".toList)
    | [day, month, year, time, tz] => some (day, month, year, time, tz)
    | _ => none
  let day ← parseUnsigned (2 ^ 32) day
  let month ← monthNumber month
  let year ← parseI32 year
  let (hour, minute, second) ←
    match time.splitOn ':' with
    | [hour, minute, second] => some (hour, minute, second)
    | _ => none
  let hour ← parseUnsigned (2 ^ 32) hour
  let minute ← parseUnsigned (2 ^ 32) minute
  let second ← parseUnsigned (2 ^ 32) second
  let offsetSeconds ← offsetSeconds tz
  some { day, month, year, hour, minute, second, zone := tz, offsetSeconds }

/-- `hour * 3600 + minute * 60 + second` on 32 bits, with overflow checks. -/
def secondOfDay (hour minute second : Nat) : Except Panic Nat :=
  if hour * 3600 < 2 ^ 32 ∧ minute * 60 < 2 ^ 32 ∧ hour * 3600 + minute * 60 + second < 2 ^ 32 then
    .ok (hour * 3600 + minute * 60 + second)
  else .error .arithmeticOverflow

def parseRfc2822DateKey (value : Bytes) : Except Panic (Option Nat) :=
  match rfc2822Parts value with
  | none => .ok none
  | some parts =>
    match daysFromCivil parts.year parts.month (asI32 parts.day) with
    | none => .ok none
    | some days => do
      let time ← secondOfDay parts.hour parts.minute parts.second
      let seconds := days * 86400 + time - parts.offsetSeconds
      .ok (if seconds ≥ 0 then some seconds.toNat else none)

end NntpBench.Server
