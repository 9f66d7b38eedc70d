import Mathlib.Algebra.Group.Nat.Defs
import ODataService.Proofs.Bind
import ODataService.Proofs.Text.Character
import ODataService.Proofs.Text.Trimming
import ODataService.Proofs.Time.Calendar
import ODataService.Time.Stamp
import ODataService.Time.Timestamp

/-!
# Reading stamps

The text of a stamp is a timestamp, which is read as the instant that was
written, and so is the text of this instant anywhere else in the world, where an
offset from universal time stands behind it (`parse_zonedText`). The reader takes
the digits of each field and stops at the separator behind them.
-/

namespace ODataService.Time

/-! ## Digits -/

/-- A digit is written as one. -/
theorem isDigit_digitChar {d : Nat} (h : d < 10) : (Nat.digitChar d).isDigit = true := by
  have hAll : ∀ d : Fin 10, (Nat.digitChar d).isDigit = true := by decide
  exact hAll ⟨d, h⟩

/-- A digit is read from its code. -/
theorem toNat_digitChar {d : Nat} (h : d < 10) : (Nat.digitChar d).toNat - 0x30 = d := by
  have hAll : ∀ d : Fin 10, (Nat.digitChar d).toNat - 0x30 = d := by decide
  exact hAll ⟨d, h⟩

/-- Decimal digits are digits. -/
theorem isDigit_of_mem_decimalDigits {width n : Nat} {c : Char}
    (h : c ∈ decimalDigits width n) : c.isDigit = true := by
  induction width generalizing n with
  | zero => simp [decimalDigits] at h
  | succ width ih =>
    rw [decimalDigits, List.mem_append, List.mem_singleton] at h
    rcases h with h | rfl
    · exact ih h
    · exact isDigit_digitChar (Nat.mod_lt _ (by omega))

/-- Digits are written at the width that is asked for. -/
theorem length_decimalDigits (width n : Nat) : (decimalDigits width n).length = width := by
  induction width generalizing n with
  | zero => rfl
  | succ width ih => rw [decimalDigits, List.length_append, ih, List.length_singleton]

namespace Timestamp

/-- The digits of a number that fits are read as that number, in front of
whatever further digits are asked for. -/
theorem digits_decimalDigits_append (width k : Nat) {n : Nat} (h : n < 10 ^ width)
    (cs : List Char) :
    digits (width + k) (decimalDigits width n ++ cs) =
      (digits k cs).map fun (v, rest) => (n * 10 ^ k + v, rest) := by
  -- by induction on the width, which takes the last digit off
  induction width generalizing n k cs with
  | zero =>
    obtain rfl : n = 0 := by simpa using h
    rw [decimalDigits, List.nil_append, Nat.zero_add]
    cases digits k cs with
    | none => rfl
    | some p => simp
  | succ width ih =>
    have hTens : n / 10 < 10 ^ width := by
      rw [Nat.pow_succ] at h
      omega
    have hUnits : n % 10 < 10 := Nat.mod_lt _ (by omega)
    -- the last digit belongs to what is asked for behind the others
    have hLast : digits (k + 1) (Nat.digitChar (n % 10) :: cs) =
        (digits k cs).map fun (v, rest) => (n % 10 * 10 ^ k + v, rest) := by
      rw [digits, if_pos (isDigit_digitChar hUnits), toNat_digitChar hUnits]
      rfl
    have hWidth : width + 1 + k = width + (k + 1) := by omega
    rw [decimalDigits, List.append_assoc, List.singleton_append, hWidth, ih (k + 1) hTens, hLast,
      Option.map_map]
    congr 1
    funext ⟨v, rest⟩
    -- the digits in front have ten times the weight of the last one
    have hValue : n / 10 * 10 ^ (k + 1) + n % 10 * 10 ^ k = n * 10 ^ k := by
      rw [Nat.pow_succ, Nat.mul_comm (10 ^ k) 10, ← Nat.mul_assoc, ← Nat.add_mul,
        Nat.div_add_mod']
    simp only [Function.comp_apply, Prod.mk.injEq, and_true]
    omega

/-- A number is read from its digits. -/
theorem digits_decimalDigits {width n : Nat} (h : n < 10 ^ width) (cs : List Char) :
    digits width (decimalDigits width n ++ cs) = some (n, cs) := by
  have := digits_decimalDigits_append width 0 h cs
  simpa [digits] using this

/-! ## Dates -/

/-- Digits are not taken for a letter. -/
theorem decimalDigits_append_ne_cons {c : Char} (hc : c.isDigit = false) {width n : Nat}
    (hWidth : 0 < width) {cs ds : List Char} : decimalDigits width n ++ cs ≠ c :: ds := by
  intro h
  -- the first character is a digit, as there is one
  cases hDigits : decimalDigits width n with
  | nil =>
    have := length_decimalDigits width n
    rw [hDigits, List.length_nil] at this
    omega
  | cons d es =>
    have hDigit := isDigit_of_mem_decimalDigits (hDigits ▸ List.mem_cons_self (a := d) (l := es))
    rw [hDigits, List.cons_append, List.cons.injEq] at h
    rw [h.1, hc] at hDigit
    contradiction

/-- A written date is read as its year, month and day. -/
theorem dateParts_dateText {d : Date} (hYear : d.year < 10 ^ 4) (hMonth : d.month < 10 ^ 2)
    (hDay : d.day < 10 ^ 2) : dateParts (dateText d) = some (.ofMonth d) := by
  have hText : dateText d = decimalDigits 4 d.year ++
      '-' :: (decimalDigits 2 d.month ++ '-' :: (decimalDigits 2 d.day ++ [])) := by
    simp [dateText]
  rw [dateParts, hText, digits_decimalDigits hYear]
  simp only [Option.bind_eq_bind, Option.bind_some]
  split
  · -- the month starts with a digit, so this is no week
    next hWeek =>
    exact absurd hWeek (decimalDigits_append_ne_cons (by decide) (by omega))
  · rw [digits_decimalDigits hMonth]
    simp only [Option.bind_some, hyphen, if_true, digits_decimalDigits hDay]
    rfl

theorem length_dateText (d : Date) : (dateText d).length = 10 := by
  simp [dateText, length_decimalDigits]

/-- The reader takes the ten characters of a written date for the date. -/
theorem dateLength_dateText (d : Date) (cs : List Char) :
    dateLength (dateText d ++ cs) = 10 := by
  have hLength : (dateText d ++ cs).length ≠ 7 := by
    rw [List.length_append, length_dateText]
    omega
  have hHyphen : charAt (dateText d ++ cs) 4 '-' = true := rfl
  -- a week would have its letter where the month has a digit
  have hMonth : charAt (dateText d ++ cs) 5 'W' = false := by
    have hDigit := isDigit_digitChar (d := d.month / 10 % 10) (by omega)
    refine beq_eq_false_iff_ne.mpr fun hWeek => ?_
    have hLetter : Nat.digitChar (d.month / 10 % 10) = 'W' := Option.some.inj hWeek
    rw [hLetter] at hDigit
    contradiction
  rw [dateLength, if_neg hLength, if_pos hHyphen, hMonth]
  rfl

/-- The day of a valid date is its number. -/
theorem dayNumber_ofMonth {d : Date} (h : d.IsValid) : dayNumber (.ofMonth d) = .ok d.ordinal := by
  have hYear := h.year
  have hMonth := h.month
  have hDay := h.day
  unfold dayNumber
  dsimp only
  -- neither the year nor the month nor the day is out of range
  rw [if_neg (by omega), if_neg, if_neg]
  · simp only [Bool.or_eq_true, decide_eq_true_eq]
    omega
  · simp only [Bool.or_eq_true, decide_eq_true_eq]
    omega

/-! ## Times of day -/

/-- The fields of a number of milliseconds of a day. -/
def clockOf (millis : Nat) : Clock where
  hour := millis / 3600000
  minute := millis / 60000 % 60
  second := millis / 1000 % 60
  micro := millis % 1000 * 1000

/-- No digit starts an offset. -/
theorem startsOffset_of_isDigit {c : Char} (h : c.isDigit = true) : startsOffset c = false := by
  rw [startsOffset, Bool.or_eq_false_iff, Bool.or_eq_false_iff]
  refine ⟨⟨?_, ?_⟩, ?_⟩ <;>
    · refine beq_eq_false_iff_ne.mpr fun hc => ?_
      rw [hc] at h
      contradiction

/-- A time of day has no character that starts an offset. -/
theorem startsOffset_of_mem_clockText {millis : Nat} {c : Char} (h : c ∈ clockText millis) :
    startsOffset c = false := by
  simp only [clockText, List.mem_append, List.mem_cons] at h
  -- the characters are digits, two colons and a point
  rcases h with ((h | rfl | h) | rfl | h) | rfl | h
  · exact startsOffset_of_isDigit (isDigit_of_mem_decimalDigits h)
  · decide
  · exact startsOffset_of_isDigit (isDigit_of_mem_decimalDigits h)
  · decide
  · exact startsOffset_of_isDigit (isDigit_of_mem_decimalDigits h)
  · decide
  · exact startsOffset_of_isDigit (isDigit_of_mem_decimalDigits h)

/-- A field in front of a colon is read, and more fields follow. -/
theorem clockFields_colon (followed : Bool) (fields : Nat) {colons : Option Bool}
    (hColons : colons.getD true = true) {v : Nat} (hv : v < 10 ^ 2) {cs : List Char}
    (hcs : cs ≠ []) :
    clockFields followed (fields + 1) colons (decimalDigits 2 v ++ ':' :: cs) =
      (clockFields followed fields (some true) cs).map fun (vs, tail) => (v :: vs, tail) := by
  obtain ⟨c, cs, rfl⟩ := List.exists_cons_of_ne_nil hcs
  rw [clockFields, digits_decimalDigits hv]
  -- a colon behind the first field says that all fields have colons
  have hSeparator : colons.getD (':' == ':') = true := hColons
  simp only [Option.bind_eq_bind, Option.bind_some, hSeparator]
  cases clockFields followed fields (some true) (c :: cs) <;> rfl

/-- A field in front of a point is the last one before the fraction. -/
theorem clockFields_point (followed : Bool) (fields : Nat) {v : Nat} (hv : v < 10 ^ 2)
    {cs : List Char} (hcs : cs ≠ []) :
    clockFields followed (fields + 1) (some true) (decimalDigits 2 v ++ '.' :: cs) =
      some ([v], .fraction cs) := by
  obtain ⟨c, cs, rfl⟩ := List.exists_cons_of_ne_nil hcs
  rw [clockFields, digits_decimalDigits hv]
  rfl

/-- Three digits behind the point are milliseconds. -/
theorem fractionMicros_decimalDigits (followed : Bool) {v : Nat} (hv : v < 10 ^ 3) :
    fractionMicros followed (decimalDigits 3 v) = some (v * 1000, followed) := by
  have hDigits := digits_decimalDigits hv []
  rw [List.append_nil] at hDigits
  have hCount : min (decimalDigits 3 v).length 6 = 3 := rfl
  rw [fractionMicros, hCount, hDigits]
  rfl

/-- A written time of day is read as its hour, minute, second and fraction. -/
theorem clock_clockText {millis : Nat} (h : millis < 86400000) :
    clock true (clockText millis) = some (clockOf millis, true) := by
  have hHour : millis / 3600000 < 10 ^ 2 := by omega
  have hMinute : millis / 60000 % 60 < 10 ^ 2 := by omega
  have hSecond : millis / 1000 % 60 < 10 ^ 2 := by omega
  have hMilli : millis % 1000 < 10 ^ 3 := by omega
  -- two colons and a point, each behind the digits of a field
  have hText : clockText millis = decimalDigits 2 (millis / 3600000) ++
      ':' :: (decimalDigits 2 (millis / 60000 % 60) ++
        ':' :: (decimalDigits 2 (millis / 1000 % 60) ++ '.' :: decimalDigits 3 (millis % 1000))) := by
    simp [clockText]
  have hFields : clockFields true 3 none (clockText millis) =
      some ([millis / 3600000, millis / 60000 % 60, millis / 1000 % 60],
        .fraction (decimalDigits 3 (millis % 1000))) := by
    rw [hText, clockFields_colon true 2 rfl hHour (by simp [decimalDigits]),
      clockFields_colon true 1 rfl hMinute (by simp [decimalDigits]),
      clockFields_point true 0 hSecond (by simp [decimalDigits])]
    rfl
  rw [clock, hFields]
  simp only [Option.bind_eq_bind, Option.bind_some, fractionMicros_decimalDigits true hMilli]
  rfl

/-! ## Offsets -/

/-- The offset of universal time. -/
def utcOffset : List Char := ['+', '0', '0', ':', '0', '0']

/-- A field at the end of the text is the last one. -/
theorem clockFields_last (followed : Bool) (fields : Nat) (colons : Option Bool) {v : Nat}
    (hv : v < 10 ^ 2) :
    clockFields followed (fields + 1) colons (decimalDigits 2 v) =
      some ([v], .finish followed) := by
  have hDigits := digits_decimalDigits hv []
  rw [List.append_nil] at hDigits
  rw [clockFields, hDigits]
  rfl

end Timestamp

/-- An offset from universal time as it is written: a sign, and hours and minutes
of two digits, less than a day together. -/
structure WrittenOffset where
  negative : Bool
  hours : Nat
  minutes : Nat
  minutes_lt : minutes < 10 ^ 2
  lt_day : hours * 60 + minutes < 24 * 60

namespace WrittenOffset

/-- The offset as `+HH:MM` or `-HH:MM`. -/
def text (o : WrittenOffset) : List Char :=
  (if o.negative then '-' else '+') ::
    (decimalDigits 2 o.hours ++ ':' :: decimalDigits 2 o.minutes)

/-- The milliseconds that clocks are ahead of universal time or behind it. -/
def span (o : WrittenOffset) : Nat := (o.hours * 60 + o.minutes) * 60000

/-- The milliseconds that clocks are ahead of universal time. -/
def millis (o : WrittenOffset) : Int := if o.negative then -o.span else o.span

def utc : WrittenOffset := ⟨false, 0, 0, by decide, by decide⟩

theorem text_utc : utc.text = Timestamp.utcOffset := rfl

theorem millis_utc : utc.millis = 0 := rfl

/-- An offset is shorter than a day. -/
theorem checkOffset_millis (o : WrittenOffset) :
    Timestamp.checkOffset (o.millis * 1000) = .ok () := by
  have hDay := o.lt_day
  -- an offset is shorter than a day in either direction
  have hRange : -dayMicros < o.millis * 1000 ∧ o.millis * 1000 < dayMicros := by
    unfold millis span dayMicros
    split <;> omega
  rw [Timestamp.checkOffset, if_neg]
  simp only [Bool.or_eq_true, decide_eq_true_eq]
  omega

end WrittenOffset

namespace Timestamp

/-- The hours and minutes of an offset are read as a time of day. -/
theorem clock_offset (o : WrittenOffset) :
    clock false (decimalDigits 2 o.hours ++ ':' :: decimalDigits 2 o.minutes) =
      some ({ hour := o.hours, minute := o.minutes }, false) := by
  have hHours : o.hours < 10 ^ 2 := by
    have := o.lt_day
    omega
  rw [clock, clockFields_colon false 2 rfl hHours (by simp [decimalDigits]),
    clockFields_last false 1 _ o.minutes_lt]
  rfl

/-- The offset is the time of day that was read, with its sign. -/
theorem offsetMicros_clock (o : WrittenOffset) :
    offsetMicros o.negative { hour := o.hours, minute := o.minutes } = o.millis * 1000 := by
  have hSeconds : ({ hour := o.hours, minute := o.minutes } : Clock).seconds =
      (o.hours * 60 + o.minutes) * 60 := by
    show o.hours * 3600 + o.minutes * 60 + 0 = _
    omega
  rw [offsetMicros, hSeconds, WrittenOffset.millis, WrittenOffset.span]
  dsimp only
  -- the sign decides the direction
  split
  · split <;> omega
  · split <;> omega

/-- A time of day with an offset is read as both. -/
theorem timeParts_clockText {millis : Nat} (h : millis < 86400000) (o : WrittenOffset) :
    timeParts (clockText millis ++ o.text) = some ⟨clockOf millis, o.millis * 1000⟩ := by
  -- the time of day ends where the sign of the offset stands
  have hBody : ∀ c ∈ clockText millis, (! startsOffset c) = true := by
    intro c hc
    rw [startsOffset_of_mem_clockText hc]
    rfl
  obtain ⟨sign, hText, hStart, hZ, hNegative⟩ : ∃ sign,
      o.text = sign :: (decimalDigits 2 o.hours ++ ':' :: decimalDigits 2 o.minutes) ∧
        startsOffset sign = true ∧ sign ≠ 'Z' ∧ (sign == '-') = o.negative := by
    refine ⟨if o.negative then '-' else '+', rfl, ?_⟩
    cases o.negative <;> decide
  rw [hText]
  -- the text is cut at the sign, which is the first character of an offset
  have hTake : (clockText millis ++ sign :: (decimalDigits 2 o.hours ++
      ':' :: decimalDigits 2 o.minutes)).takeWhile (! startsOffset ·) = clockText millis := by
    rw [List.takeWhile_append_of_pos hBody, List.takeWhile_cons_of_neg (by simp [hStart]),
      List.append_nil]
  have hDrop : (clockText millis ++ sign :: (decimalDigits 2 o.hours ++
      ':' :: decimalDigits 2 o.minutes)).dropWhile (! startsOffset ·) =
        sign :: (decimalDigits 2 o.hours ++ ':' :: decimalDigits 2 o.minutes) := by
    rw [List.dropWhile_append_of_pos hBody, List.dropWhile_cons_of_neg (by simp [hStart])]
  rw [timeParts, hTake, hDrop]
  simp only [clock_clockText h, Option.bind_eq_bind, Option.bind_some, hZ, if_false, clock_offset,
    hNegative, offsetMicros_clock]
  rfl

/-! ## Stamps -/

/-- The time of day of a stamp is within its ranges. -/
theorem checkClock_clockOf {millis : Nat} (h : millis < 86400000) :
    checkClock (clockOf millis) = .ok () := by
  have hHour : ¬ 23 < (clockOf millis).hour := by
    simp only [clockOf]
    omega
  have hMinute : ¬ 59 < (clockOf millis).minute := by
    simp only [clockOf]
    omega
  have hSecond : ¬ 59 < (clockOf millis).second := by
    simp only [clockOf]
    omega
  rw [checkClock, if_neg hHour, if_neg hMinute, if_neg hSecond]

/-- The fields of a time of day add up to it. -/
theorem micros_clockOf (millis : Nat) :
    (clockOf millis).seconds * 1000000 + (clockOf millis).micro = millis * 1000 := by
  simp only [Clock.seconds, clockOf]
  omega

/-- The instant is counted from the epoch: days, the time of day and the offset back. -/
theorem instant_ofMonth {d : Date} (hd : d.IsValid) {millis : Nat} (h : millis < 86400000)
    (o : WrittenOffset) :
    instant (.ofMonth d) ⟨clockOf millis, o.millis * 1000⟩ =
      .ok (((d.ordinal : Int) - epochOrdinal) * dayMicros + millis * 1000 - o.millis * 1000) := by
  have hSum : ((clockOf millis).seconds : Int) * 1000000 + (clockOf millis).micro =
      millis * 1000 := by
    have := micros_clockOf millis
    omega
  have hWeek : checkWeek (.ofMonth d) = .ok () := rfl
  simp only [instant, hWeek, o.checkOffset_millis, dayNumber_ofMonth hd, checkClock_clockOf h,
    ok_bind]
  rw [← hSum]
  congr 1
  omega

/-- The text of a day and a time of day at some offset is a timestamp. -/
theorem parse_dateText {d : Date} (hd : d.IsValid) (hYear : d.year < 10 ^ 4) {millis : Nat}
    (h : millis < 86400000) (o : WrittenOffset) :
    parse (String.ofList (dateText d ++ 'T' :: (clockText millis ++ o.text))) =
      .ok (((d.ordinal : Int) - epochOrdinal) * dayMicros + millis * 1000 - o.millis * 1000) := by
  have hMonth : d.month < 10 ^ 2 := by
    have := hd.month
    omega
  have hDay : d.day < 10 ^ 2 := by
    have := hd.day
    have := daysInMonth_le d.year d.month
    omega
  -- a date of ten characters, a letter between, and the time of day behind it
  have hLong : ¬ (dateText d ++ 'T' :: (clockText millis ++ o.text)).length < 7 := by
    rw [List.length_append, length_dateText]
    omega
  have hTake : (dateText d ++ 'T' :: (clockText millis ++ o.text)).take 10 = dateText d :=
    List.take_left' (length_dateText d)
  have hDrop : (dateText d ++ 'T' :: (clockText millis ++ o.text)).drop 10 =
      'T' :: (clockText millis ++ o.text) := List.drop_left' (length_dateText d)
  rw [parse, String.toList_ofList]
  rw [if_neg hLong, dateLength_dateText, hTake, hDrop, dateParts_dateText hYear hMonth hDay,
    timeAfterDate, timeParts_clockText h]
  exact instant_ofMonth hd h o

end Timestamp

/-! ## Stamps -/

/-- The day number of an instant. -/
def dayOf (millis : Int) : Nat := (millis / dayMillis + epochOrdinal).toNat

/-- The milliseconds of an instant within its day. -/
def restOf (millis : Int) : Nat := (millis % dayMillis).toNat

/-- The time of day is shorter than a day. -/
theorem restOf_lt (millis : Int) : restOf millis < 86400000 := by
  unfold restOf dayMillis
  omega

/-- The year of an instant on the calendar has four digits. -/
theorem year_lt_of_isOnCalendar {millis : Int} (h : isOnCalendar millis = true) :
    (Date.ofOrdinal (dayOf millis)).year < 10 ^ 4 := by
  simp only [isOnCalendar, Bool.and_eq_true, decide_eq_true_eq] at h
  refine Date.year_lt_of_ordinal_lt (y := maxYear + 1) ?_
  rw [(Date.ofOrdinal_spec _).2, dayOf]
  omega

/-- An instant is made up of its day and the time of that day. -/
theorem micros_of_isOnCalendar {millis : Int} (h : isOnCalendar millis = true) :
    ((dayOf millis : Int) - epochOrdinal) * dayMicros + restOf millis * 1000 = millis * 1000 := by
  simp only [isOnCalendar, Bool.and_eq_true, decide_eq_true_eq] at h
  unfold dayOf restOf dayMillis dayMicros at *
  omega

/-- An instant as the date and the time of day that clocks at some offset show. -/
def zonedText (millis : Int) (o : WrittenOffset) : String :=
  String.ofList (dateText (Date.ofOrdinal (dayOf (millis + o.millis))) ++
    'T' :: (clockText (restOf (millis + o.millis)) ++ o.text))

/-- Wherever the clocks are that show it, an instant is read as the same number. -/
theorem parse_zonedText {millis : Int} {o : WrittenOffset}
    (h : isOnCalendar (millis + o.millis) = true) :
    Timestamp.parse (zonedText millis o) = .ok (millis * 1000) := by
  obtain ⟨hValid, hOrdinal⟩ := Date.ofOrdinal_spec (dayOf (millis + o.millis))
  rw [zonedText, Timestamp.parse_dateText hValid (year_lt_of_isOnCalendar h) (restOf_lt _),
    hOrdinal, micros_of_isOnCalendar h]
  congr 1
  omega

/-- A text of these fields starts with the first digit of the year. -/
theorem startsSolid_dateText (d : Date) (cs : List Char) :
    Text.StartsSolid (dateText d ++ cs) := by
  have hDigit := isDigit_digitChar (Nat.mod_lt (d.year / 10 / 10 / 10) (show 0 < 10 by decide))
  exact ⟨_, _, rfl, Text.isBlank_of_isDigit hDigit⟩

/-- A stamp is written as a date, a letter, a time of day and the mark of UTC. -/
theorem toList_stampText (millis : Int) :
    (stampText millis).toList =
      dateText (Date.ofOrdinal (dayOf millis)) ++ 'T' :: clockText (restOf millis) ++ ['Z'] := by
  rw [stampText, String.toList_ofList]
  rfl

/-- No white space stands around a stamp. -/
theorem strip_stampText (millis : Int) : Text.strip (stampText millis) = stampText millis := by
  apply Text.strip_eq
  · rw [toList_stampText, List.append_assoc]
    exact startsSolid_dateText _ _
  · rw [toList_stampText]
    exact ⟨_, 'Z', rfl, by decide⟩

end ODataService.Time
