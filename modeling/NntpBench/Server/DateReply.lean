import NntpBench.Lib.Calendar
import NntpBench.ReplyFrames
import NntpBench.Server.Dates

namespace NntpBench.Server

open Protocol Terminator

variable {value month now : Nat} {digits : Bytes}

/-- The year of an era and the day of the year, in years that start in March. The last day of such a
year is the leap day. -/
theorem dayOfYear_bounds {doe : Int} (hmin : 0 ≤ doe) (hmax : doe ≤ 146096) :
    let yoe := (doe - doe / 1460 + doe / 36524 - doe / 146096) / 365
    let doy := doe - (365 * yoe + yoe / 4 - yoe / 100)
    0 ≤ yoe ∧ yoe ≤ 399 ∧ 0 ≤ doy ∧ doy ≤ 365 ∧ (doy = 365 → Calendar.IsLeap (yoe + 1)) := by
  intro yoe doy
  by_cases hlast : doe = 146096
  · -- the leap day at the end of the era
    subst hlast
    decide
  have hera : doe / 146096 = 0 := by omega
  have hyear : yoe = (doe - doe / 1460 + doe / 36524) / 365 := by
    show (doe - doe / 1460 + doe / 36524 - doe / 146096) / 365 = _
    rw [hera, Int.sub_zero]
  have hdoy : doy = doe - (365 * yoe + yoe / 4 - yoe / 100) := rfl
  generalize doy = day at hdoy ⊢
  generalize yoe = year at hyear hdoy ⊢
  have hhundred : year / 100 = doe / 36524 := by omega
  have hquad : doe / 1460 = year / 4 ∨ doe / 1460 = year / 4 + 1 := by omega
  have hfew : 0 ≤ year ∧ year ≤ 399 := by omega
  refine ⟨hfew.1, hfew.2, by omega, by omega, fun hday => ⟨?_, ?_⟩⟩
  · have hrest : year % 4 = 0 ∨ year % 4 = 1 ∨ year % 4 = 2 ∨ year % 4 = 3 := by omega
    rcases hquad with hquad | hquad <;> rcases hrest with hrest | hrest | hrest | hrest <;> omega
  · by_contra hcentury
    rw [not_or, not_not] at hcentury
    omega

theorem asI32_of_bounds {value : Int} (hmin : 0 ≤ value) (hmax : value < 2 ^ 31) :
    asI32 value = value := by
  unfold asI32
  rw [Int.bmod_eq_of_le]
  · omega
  · omega

theorem civilFromUnixDays_spec {days : Int} (hmin : 0 ≤ days) (hmax : days < 2932897) :
    1970 ≤ (civilFromUnixDays days).year ∧ (civilFromUnixDays days).year ≤ 9999 ∧
      Calendar.IsDate (civilFromUnixDays days).year (civilFromUnixDays days).month
        (civilFromUnixDays days).day ∧
      Calendar.dayNumber (civilFromUnixDays days).year (civilFromUnixDays days).month
        (civilFromUnixDays days).day = days := by
  -- The dates from 1970 to 9999 are the days of the calendar.
  unfold civilFromUnixDays
  dsimp only
  rw [if_pos (by omega : days + 719468 ≥ 0), Int.tdiv_eq_ediv_of_nonneg (by omega)]
  generalize hera : (days + 719468) / 146097 = era
  generalize hdoe : days + 719468 - era * 146097 = doe
  obtain ⟨hyear₀, hyear₁, hday₀, hday₁, hleap⟩ := @dayOfYear_bounds doe (by omega) (by omega)
  generalize (doe - doe / 1460 + doe / 36524 - doe / 146096) / 365 = yoe at *
  generalize hdoy : doe - (365 * yoe + yoe / 4 - yoe / 100) = doy at *
  have hleap : doy = 365 → Calendar.IsLeap (yoe + era * 400 + 1) := by
    intro hlast
    have hyear := hleap hlast
    unfold Calendar.IsLeap at hyear ⊢
    omega
  -- the year starts in March 1969 or later
  have hfirst : 1969 ≤ yoe + era * 400 := by
    have hfourth : 4 ≤ era := by omega
    by_cases hera4 : era = 4
    · subst hera4
      omega
    · omega
  have hafter : yoe + era * 400 = 1969 → 306 ≤ doy := by
    intro heq
    obtain rfl : era = 4 := by omega
    obtain rfl : yoe = 369 := by omega
    omega
  generalize hmp : (5 * doy + 2) / 153 = mp
  have hmonth : 0 ≤ mp ∧ mp ≤ 11 := by omega
  have hday : ((doy - (153 * mp + 2) / 5 + 1).toNat : Int) = doy - (153 * mp + 2) / 5 + 1 :=
    Int.toNat_of_nonneg (by omega)
  have hquarter : (yoe + era * 400) / 4 = yoe / 4 + era * 100 := by omega
  have hcentury : (yoe + era * 400) / 100 = yoe / 100 + era * 4 := by omega
  have hera : (yoe + era * 400) / 400 = era := by omega
  by_cases hspring : mp < 10
  · -- March to December
    have hnumber : ((mp + 3).toNat : Int) = mp + 3 := Int.toNat_of_nonneg (by omega)
    rw [if_pos hspring, if_neg (by omega), Int.add_zero, asI32_of_bounds (by omega) (by omega)]
    refine ⟨by omega, by omega, ⟨by omega, by omega, by omega, ?_⟩, ?_⟩
    · unfold Calendar.monthLength
      split_ifs <;> omega
    · rw [Calendar.dayNumber_eq _ (by omega) (by omega)]
      dsimp only
      rw [if_neg (by omega), if_pos (by omega), hnumber, hday, Int.sub_zero,
        Int.add_neg_cancel_right, hquarter, hcentury, hera]
      omega
  · have hnumber : ((mp + -9).toNat : Int) = mp + -9 := Int.toNat_of_nonneg (by omega)
    rw [if_neg hspring, if_pos (by omega), asI32_of_bounds (by omega) (by omega)]
    refine ⟨by omega, by omega, ⟨by omega, by omega, by omega, ?_⟩, ?_⟩
    · unfold Calendar.monthLength
      split_ifs with hfebruary hyear
      · omega
      · have hshort : doy ≠ 365 := fun hlast => hyear (hleap hlast)
        omega
      · omega
      · omega
    · rw [Calendar.dayNumber_eq _ (by omega) (by omega)]
      dsimp only
      rw [if_pos (by omega), if_neg (by omega), hnumber, hday, Int.add_sub_cancel,
        Int.neg_add_cancel_right, hquarter, hcentury, hera]
      omega

theorem toNat_digitAt (value weight : Nat) :
    (digitAt value weight).toNat = 48 + value / weight % 10 := by
  unfold digitAt
  rw [Nat.toUInt8_eq, UInt8.toNat_ofNat']
  omega

theorem isAsciiDigit_digitAt (value weight : Nat) : isAsciiDigit (digitAt value weight) = true := by
  have hdigit := toNat_digitAt value weight
  simp only [isAsciiDigit, Bool.and_eq_true, decide_eq_true_eq, UInt8.le_iff_toNat_le, hdigit]
  exact ⟨Nat.le_add_right 48 _, by simp; omega⟩

theorem parseTwoDigits_writeTwoDigits (h : value < 100) :
    parseTwoDigits (writeTwoDigits value) = some value := by
  unfold writeTwoDigits parseTwoDigits
  dsimp only
  rw [isAsciiDigit_digitAt, isAsciiDigit_digitAt, toNat_digitAt, toNat_digitAt]
  simp only [Bool.and_self, if_true, Option.some.injEq]
  omega

theorem decimalValue_writeFourDigits (h : value < 10000) :
    decimalValue (writeFourDigits value) = value := by
  simp only [writeFourDigits, decimalValue, List.foldl_cons, List.foldl_nil, toNat_digitAt]
  omega

theorem exists_text_of_digits (h : ∀ byte ∈ digits, isAsciiDigit byte = true) :
    ∃ text, fromUtf8 digits = some text ∧ asBytes text = digits := by
  have hascii : ∀ byte ∈ digits, byte < 128 := by
    intro byte hbyte
    have hdigit := h byte hbyte
    simp only [isAsciiDigit, Bool.and_eq_true, decide_eq_true_eq, UInt8.le_iff_toNat_le] at hdigit
    rw [UInt8.lt_iff_toNat_lt]
    exact Nat.lt_of_le_of_lt hdigit.2 (by decide)
  have hencode := Utf8.encode_map_ofNat hascii
  refine ⟨_, ?_, hencode⟩
  calc fromUtf8 digits = fromUtf8 (Utf8.encode (digits.map fun byte => Char.ofNat byte.toNat)) := by
        rw [hencode]
    _ = some (digits.map fun byte => Char.ofNat byte.toNat) := Utf8.decode_encode _

def timestampDigits (year month day hour minute second : Nat) : Bytes :=
  writeFourDigits year ++ writeTwoDigits month ++ writeTwoDigits day ++ writeTwoDigits hour ++
    writeTwoDigits minute ++ writeTwoDigits second

section Timestamps

variable {year month day hour minute second : Nat}

theorem isAsciiDigit_timestampDigits :
    ∀ byte ∈ timestampDigits year month day hour minute second, isAsciiDigit byte = true := by
  simp [timestampDigits, writeFourDigits, writeTwoDigits, isAsciiDigit_digitAt]

theorem validateNntpDate_digits {text : Str} (hyear : 1900 ≤ year ∧ year ≤ 9999)
    (hmonth : 1 ≤ month ∧ month ≤ 12) (hday : 1 ≤ day ∧ day ≤ 31)
    (h : asBytes text = writeFourDigits year ++ writeTwoDigits month ++ writeTwoDigits day) :
    validateNntpDate text = true := by
  have hdigits : (asBytes text).all isAsciiDigit = true := by
    rw [h]
    simp [writeFourDigits, writeTwoDigits, isAsciiDigit_digitAt]
  have hmonthDigits : parseTwoDigits ((asBytes text).extract 4 6) = some month := by
    rw [h]
    exact parseTwoDigits_writeTwoDigits (by omega)
  have hdayDigits : parseTwoDigits ((asBytes text).drop 6) = some day := by
    rw [h]
    exact parseTwoDigits_writeTwoDigits (by omega)
  have hyearDigits : decimalValue ((asBytes text).take 4) = year := by
    rw [h]
    exact decimalValue_writeFourDigits (by omega)
  have hlength : (asBytes text).length = 8 := by
    rw [h]
    rfl
  unfold validateNntpDate
  dsimp only
  rw [hdigits, hlength, hmonthDigits, hdayDigits]
  dsimp only
  rw [if_pos rfl, hyearDigits]
  simp
  omega

theorem validateNntpTime_digits {text : Str} (hhour : hour ≤ 23) (hminute : minute ≤ 59)
    (hsecond : second ≤ 59)
    (h : asBytes text = writeTwoDigits hour ++ writeTwoDigits minute ++ writeTwoDigits second) :
    validateNntpTime text = true := by
  have hdigits : (asBytes text).all isAsciiDigit = true := by
    rw [h]
    simp [writeTwoDigits, isAsciiDigit_digitAt]
  have hhourDigits : parseTwoDigits ((asBytes text).take 2) = some hour := by
    rw [h]
    exact parseTwoDigits_writeTwoDigits (by omega)
  have hminuteDigits : parseTwoDigits ((asBytes text).extract 2 4) = some minute := by
    rw [h]
    exact parseTwoDigits_writeTwoDigits (by omega)
  have hsecondDigits : parseTwoDigits ((asBytes text).drop 4) = some second := by
    rw [h]
    exact parseTwoDigits_writeTwoDigits (by omega)
  have hlength : (asBytes text).length = 6 := by
    rw [h]
    rfl
  unfold validateNntpTime
  dsimp only
  rw [hdigits, hlength, hhourDigits, hminuteDigits, hsecondDigits]
  simp
  omega

theorem validateDateResponseArgument_digits (hyear : 1900 ≤ year ∧ year ≤ 9999)
    (hmonth : 1 ≤ month ∧ month ≤ 12) (hday : 1 ≤ day ∧ day ≤ 31) (hhour : hour ≤ 23)
    (hminute : minute ≤ 59) (hsecond : second ≤ 59) :
    validateDateResponseArgument (timestampDigits year month day hour minute second) = true := by
  -- A timestamp before the year 10000 is what the client expects of DATE.
  have hdigits := @isAsciiDigit_timestampDigits year month day hour minute second
  have hspace : SP ∉ timestampDigits year month day hour minute second := by
    intro hmem
    exact absurd (hdigits _ hmem) (by decide)
  have hne : timestampDigits year month day hour minute second ≠ [] := List.cons_ne_nil _ _
  have hsplit : splitRequiredResponseTokens 1 (timestampDigits year month day hour minute second) =
      some ([timestampDigits year month day hour minute second], []) := by
    have htoken := splitRequiredResponseTokens_succ 0 hspace (.inl rfl)
    rw [List.append_nil, if_neg hne, if_pos rfl] at htoken
    exact htoken
  obtain ⟨date, hdate, hdateBytes⟩ := exists_text_of_digits fun byte hbyte =>
    hdigits byte (List.mem_of_mem_take (i := 8) hbyte)
  obtain ⟨time, htime, htimeBytes⟩ := exists_text_of_digits fun byte hbyte =>
    hdigits byte (List.mem_of_mem_drop (i := 8) hbyte)
  have hvalidDate := validateNntpDate_digits hyear hmonth hday hdateBytes
  have hvalidTime := validateNntpTime_digits hhour hminute hsecond htimeBytes
  unfold validateDateResponseArgument
  rw [hsplit]
  dsimp only
  rw [hdate, htime, List.all_eq_true.mpr hdigits]
  simp only [Option.any_some, hvalidDate, hvalidTime]
  rfl

end Timestamps

theorem acceptedLine_date (hdigits : ∀ byte ∈ digits, isAsciiDigit byte = true)
    (hlength : digits.length = 14) (hvalid : validateDateResponseArgument digits = true) :
    AcceptedLine .date ⟨111, by decide, by decide⟩ (ascii "111 " ++ digits) := by
  have hstart : ascii "111 " = [49, 49, 49, SP] := by decide
  have hkind : validateResponseArguments .date 111 digits = validateDateResponseArgument digits :=
    rfl
  refine ⟨?_, ?_, ?_, by decide, ?_⟩
  · rw [isLineContent_append]
    refine ⟨by decide, ?_, ?_⟩
    · intro hcr
      exact absurd (hdigits _ hcr) (by decide)
    · intro hlf
      exact absurd (hdigits _ hlf) (by decide)
  · rw [StatusCode.parse_append (by decide)]
    decide
  · rw [List.length_append, hlength]
    decide
  · rw [validateResponseInitialLine_crlf, hstart]
    simp [responseArguments, getFrom, hkind, hvalid]

/-- Seconds since the epoch that are before the year 10000. -/
def YEAR_10000 : Nat := 253402300800

/-- The numbers of a reply to DATE name the time it is sent at. -/
structure NamesTime (year month day hour minute second now : Nat) : Prop where
  date : Calendar.IsDate year month day
  year_bounds : 1970 ≤ year ∧ year ≤ 9999
  hour_le : hour ≤ 23
  minute_le : minute ≤ 59
  second_le : second ≤ 59
  time : Calendar.dayNumber year month day * 86400 + (hour * 3600 + minute * 60 + second : Nat) =
    (now : Int)

theorem NamesTime.day_bounds {year day hour minute second : Nat}
    (h : NamesTime year month day hour minute second now) : 1 ≤ day ∧ day ≤ 31 := by
  have hlow := h.date.day_pos
  have hhigh := h.date.day_le.trans (Calendar.monthLength_le _ _)
  omega

theorem exists_timestamp (h : now < YEAR_10000) :
    ∃ year month day hour minute second, NamesTime year month day hour minute second now ∧
      dateResponseForUnixSeconds now =
        ascii "111 " ++ timestampDigits year month day hour minute second ++ CRLF := by
  unfold YEAR_10000 at h
  have hdays : unixDays now = (now / 86400 : Nat) := rfl
  obtain ⟨hlow, hhigh, hdate, hnumber⟩ :=
    @civilFromUnixDays_spec (unixDays now) (by omega) (by omega)
  unfold dateResponseForUnixSeconds
  dsimp only
  generalize civilFromUnixDays (unixDays now) = date at hlow hhigh hdate hnumber ⊢
  have hyear : ((date.year % 2 ^ 32).toNat : Int) = date.year := by omega
  refine ⟨(date.year % 2 ^ 32).toNat, date.month, date.day, now % 86400 / 3600,
    now % 86400 % 3600 / 60,
    now % 86400 % 60, ⟨by rwa [hyear], by omega, by omega, by omega, by omega, ?_⟩, ?_⟩
  · rw [hyear, hnumber]
    omega
  · simp only [timestampDigits, List.append_assoc]

theorem isFrame_dateResponse (h : now < YEAR_10000) :
    IsFrame .date (dateResponseForUnixSeconds now) := by
  obtain ⟨year, month, day, hour, minute, second, htime, hreply⟩ := exists_timestamp h
  have hyear := htime.year_bounds
  have hvalid := validateDateResponseArgument_digits ⟨by omega, hyear.2⟩
    ⟨htime.date.month_pos, htime.date.month_le⟩ htime.day_bounds htime.hour_le htime.minute_le
      htime.second_le
  have hline := acceptedLine_date isAsciiDigit_timestampDigits rfl hvalid
  rw [hreply]
  exact hline.isFrame_single (by decide) (by decide)

theorem daysFromCivil_eq (year : Int) {day : Int} (hmonth : 1 ≤ month ∧ month ≤ 12)
    (hday : 1 ≤ day ∧ day ≤ 31) : daysFromCivil year month day =
      some (Calendar.dayNumber year month day) := by
  have hera : ∀ y : Int, (if y ≥ 0 then y else y - 399).tdiv 400 = y / 400 := by
    intro y
    split_ifs with hy
    · exact Int.tdiv_eq_ediv_of_nonneg hy
    · have hsign : Int.sign 400 = 1 := rfl
      rw [Int.tdiv_eq_ediv, hsign]
      omega
  unfold daysFromCivil
  rw [if_neg (by omega), Calendar.dayNumber_eq year hmonth.1 hmonth.2]
  dsimp only
  rw [hera]
  congr 1
  split_ifs <;> omega

theorem parseAsciiDecimal_digits (h : ∀ byte ∈ digits, isAsciiDigit byte = true) :
    parseAsciiDecimal digits = some (decimalValue digits) := by
  unfold parseAsciiDecimal decimalValue
  generalize 0 = start
  induction digits generalizing start with
  | nil => rfl
  | cons byte digits ih =>
    rw [List.forall_mem_cons] at h
    have hdigit : 48 ≤ byte := by
      have hrange := h.1
      simp only [isAsciiDigit, Bool.and_eq_true, decide_eq_true_eq] at hrange
      exact hrange.1
    rw [List.foldlM_cons, if_pos hdigit, List.foldl_cons]
    exact ih h.2 _

theorem decimalValue_writeTwoDigits (h : value < 100) :
    decimalValue (writeTwoDigits value) = value := by
  simp only [writeTwoDigits, decimalValue, List.foldl_cons, List.foldl_nil, toNat_digitAt]
  omega

theorem parseAsciiDecimal_writeTwoDigits (h : value < 100) :
    parseAsciiDecimal (writeTwoDigits value) = some value := by
  rw [parseAsciiDecimal_digits (by simp [writeTwoDigits, isAsciiDigit_digitAt]),
    decimalValue_writeTwoDigits h]

theorem NamesTime.nntpDatetimeTimestamp_digits {year day hour minute second : Nat}
    (h : NamesTime year month day hour minute second now) (currentYear : Nat) :
    nntpDatetimeTimestamp ((timestampDigits year month day hour minute second).take 8)
      ((timestampDigits year month day hour minute second).drop 8) currentYear = some now := by
  -- The digits of a time, as the cut-off of NEWGROUPS or NEWNEWS, are that time.
  have hday := h.day_bounds
  have hyear := h.year_bounds
  obtain ⟨⟨hmonth₀, hmonth₁, -, -⟩, -, hhour, hminute, hsecond, hnow⟩ := h
  have hdigits := @isAsciiDigit_timestampDigits year month day hour minute second
  have hdate : normalizedNntpDateKey ((timestampDigits year month day hour minute second).take 8)
      currentYear = some (year * 10000 + month * 100 + day) := by
    have hfour : parseAsciiDecimal (writeFourDigits year) = some year := by
      rw [parseAsciiDecimal_digits (by simp [writeFourDigits, isAsciiDigit_digitAt]),
        decimalValue_writeFourDigits (by omega)]
    have hall : ((timestampDigits year month day hour minute second).take 8).all isAsciiDigit =
      true :=
      List.all_eq_true.mpr fun byte hbyte => hdigits byte (List.mem_of_mem_take hbyte)
    unfold normalizedNntpDateKey
    rw [if_neg (by rw [hall]; exact fun hor => hor.elim (fun hlength => hlength.2 rfl) (by decide)),
      if_pos
        (show ((timestampDigits year month day hour minute second).take 8).length = 8 from rfl)]
    show (parseAsciiDecimal (writeFourDigits year)).bind _ = _
    rw [hfour, Option.bind_some]
    show (parseAsciiDecimal (writeTwoDigits month)).bind _ = _
    rw [parseAsciiDecimal_writeTwoDigits (by omega), Option.bind_some]
    show (parseAsciiDecimal (writeTwoDigits day)).bind _ = _
    rw [parseAsciiDecimal_writeTwoDigits (by omega), Option.bind_some]
  have hall : ((timestampDigits year month day hour minute second).drop 8).all isAsciiDigit =
    true :=
    List.all_eq_true.mpr fun byte hbyte => hdigits byte (List.mem_of_mem_drop hbyte)
  unfold nntpDatetimeTimestamp
  rw [hdate]
  show (if _ then _ else _) = _
  rw [if_neg (by rw [hall]; exact fun hor => hor.elim (fun hlength => hlength rfl) (by decide))]
  show (parseAsciiDecimal (writeTwoDigits hour)).bind _ = _
  rw [parseAsciiDecimal_writeTwoDigits (by omega), Option.bind_some]
  show (parseAsciiDecimal (writeTwoDigits minute)).bind _ = _
  rw [parseAsciiDecimal_writeTwoDigits (by omega), Option.bind_some]
  show (parseAsciiDecimal (writeTwoDigits second)).bind _ = _
  rw [parseAsciiDecimal_writeTwoDigits (by omega), Option.bind_some,
    show (year * 10000 + month * 100 + day) / 10000 = year by omega,
    show (year * 10000 + month * 100 + day) / 100 % 100 = month by omega,
    show (year * 10000 + month * 100 + day) % 100 = day by omega,
    daysFromCivil_eq year ⟨hmonth₀, hmonth₁⟩ (by omega)]
  show (if _ then some _ else none) = _
  rw [hnow, if_pos (by omega), Int.toNat_natCast]

/-- **The reply to DATE is a frame whose digits name the time of the clock, and these digits as a
cut-off give back that time.** -/
theorem date_reply_names_the_instant {now : Nat} (h : now < YEAR_10000) :
    IsFrame .date (dateResponseForUnixSeconds now) ∧ (dateResponseForUnixSeconds now).length = 20 ∧
      ∃ digits : Bytes, dateResponseForUnixSeconds now = ascii "111 " ++ digits ++ CRLF ∧
        (∀ byte ∈ digits, isAsciiDigit byte = true) ∧
        NamesTime (decimalValue (digits.take 4)) (decimalValue (digits.extract 4 6))
          (decimalValue (digits.extract 6 8)) (decimalValue (digits.extract 8 10))
          (decimalValue (digits.extract 10 12)) (decimalValue (digits.drop 12)) now ∧
        ∀ currentYear, nntpDatetimeTimestamp (digits.take 8) (digits.drop 8) currentYear =
          some now := by
  obtain ⟨year, month, day, hour, minute, second, htime, hreply⟩ := exists_timestamp h
  refine ⟨isFrame_dateResponse h, by rw [hreply]; rfl, _, hreply, isAsciiDigit_timestampDigits, ?_,
    htime.nntpDatetimeTimestamp_digits⟩
  have hday := htime.day_bounds
  have hyear := htime.year_bounds
  have hmonth := htime.date.month_le
  show NamesTime (decimalValue (writeFourDigits year)) (decimalValue (writeTwoDigits month))
    (decimalValue (writeTwoDigits day)) (decimalValue (writeTwoDigits hour))
    (decimalValue (writeTwoDigits minute)) (decimalValue (writeTwoDigits second)) now
  have hhour := htime.hour_le
  have hminute := htime.minute_le
  have hsecond := htime.second_le
  repeat rw [decimalValue_writeTwoDigits (by omega)]
  rw [decimalValue_writeFourDigits (by omega)]
  exact htime

/-- The leap day of the year 2000. -/
theorem date_reply_of_leap_day :
    (dateResponseForUnixSeconds 951782400).length = 20 ∧ ∃ digits : Bytes,
      dateResponseForUnixSeconds 951782400 = ascii "111 " ++ digits ++ CRLF ∧
        ∀ currentYear, nntpDatetimeTimestamp (digits.take 8) (digits.drop 8) currentYear =
          some 951782400 := by
  obtain ⟨-, hlength, digits, hreply, -, -, hcutoff⟩ :=
    date_reply_names_the_instant (by decide : 951782400 < YEAR_10000)
  exact ⟨hlength, digits, hreply, hcutoff⟩

end NntpBench.Server
