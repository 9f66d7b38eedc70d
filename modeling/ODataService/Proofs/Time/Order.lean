import ODataService.Proofs.Time.Stamps

/-!
# The order of stamps

The texts of stamps are in the order of their instants (`stampText_lt`). A stamp is a row of fields
of fixed width, from the year down to the millisecond, so the first field that differs decides both
orders.
-/

namespace ODataService.Time

/-! ## Fields -/

/-- Of two texts, the first parts of which are of one length, these parts decide if they differ. -/
theorem append_lt_append_of_lt {a b : List Char} (hLength : a.length = b.length) (h : a < b)
    (cs ds : List Char) : a ++ cs < b ++ ds := by
  induction a generalizing b with
  | nil =>
    -- an empty text is behind none, and the other one is empty as well
    obtain rfl : b = [] := List.length_eq_zero_iff.mp hLength.symm
    exact absurd h (List.lt_irrefl [])
  -- the first characters decide, or the texts behind them
  | cons x a ih =>
    cases b with
    | nil => simp at hLength
    | cons y b =>
      rw [List.cons_append, List.cons_append, List.cons_lt_cons_iff]
      rcases List.cons_lt_cons_iff.mp h with hxy | ⟨hxy, hab⟩
      · exact .inl hxy
      · exact .inr ⟨hxy, ih (by simpa using hLength) hab⟩

/-- A smaller digit is the smaller character. -/
theorem digitChar_lt {m n : Nat} (h : m < n) (hn : n < 10) : Nat.digitChar m < Nat.digitChar n := by
  have hAll : ∀ n : Fin 10, ∀ m : Fin n, Nat.digitChar m < Nat.digitChar n := by decide
  exact hAll ⟨n, hn⟩ ⟨m, h⟩

/-- Digits of one width are in the order of the numbers. -/
theorem decimalDigits_lt {width m n : Nat} (h : m < n) (hn : n < 10 ^ width) :
    decimalDigits width m < decimalDigits width n := by
  -- on the digits from the last one: the number in front of it decides if it differs
  induction width generalizing m n with
  | zero => omega
  | succ width ih =>
    rw [decimalDigits, decimalDigits]
    have hTens : n / 10 < 10 ^ width := by
      rw [Nat.pow_succ] at hn
      omega
    rcases Nat.lt_or_ge (m / 10) (n / 10) with hlt | hge
    · have hLength :
          (decimalDigits width (m / 10)).length = (decimalDigits width (n / 10)).length := by
        rw [length_decimalDigits, length_decimalDigits]
      exact append_lt_append_of_lt hLength (ih hlt hTens) _ _
    · -- the last digits decide where the others are the same
      have hSame : m / 10 = n / 10 := by omega
      have hLast : m % 10 < n % 10 := by omega
      rw [hSame]
      refine List.append_left_lt (List.cons_lt_cons_iff.mpr (.inl ?_))
      exact digitChar_lt hLast (by omega)

/-- A field decides, or what follows it. -/
theorem field_lt {width m n : Nat} (hn : n < 10 ^ width) {cs ds : List Char}
    (h : m < n ∨ m = n ∧ cs < ds) :
    decimalDigits width m ++ cs < decimalDigits width n ++ ds := by
  rcases h with hlt | ⟨rfl, hrest⟩
  · have hLength : (decimalDigits width m).length = (decimalDigits width n).length := by
      rw [length_decimalDigits, length_decimalDigits]
    exact append_lt_append_of_lt hLength (decimalDigits_lt hlt hn) cs ds
  · exact List.append_left_lt hrest

theorem cons_lt {c : Char} {cs ds : List Char} (h : cs < ds) : c :: cs < c :: ds :=
  List.cons_lt_cons_iff.mpr (.inr ⟨rfl, h⟩)

/-! ## Dates -/

/-- A later month has more days in front of it. -/
theorem daysBeforeMonth_mono (y : Nat) {m n : Nat} (h : m ≤ n) :
    daysBeforeMonth y m ≤ daysBeforeMonth y n := by
  induction h with
  | refl => exact Nat.le_refl _
  | step _ ih => exact Nat.le_trans ih (Nat.le_add_right _ _)

namespace Date

variable {d e : Date}

/-- A date lies before the month that follows its own. -/
theorem IsValid.ordinal_lt_nextMonth (hd : d.IsValid) :
    d.ordinal < daysBeforeYear d.year + daysBeforeMonth d.year (d.month + 1) := by
  have hNext : daysBeforeMonth d.year (d.month + 1) =
      daysBeforeMonth d.year d.month + daysInMonth d.year d.month := rfl
  have hDay := hd.day
  unfold ordinal
  omega

/-- A day comes before the next year. -/
theorem IsValid.ordinal_lt_nextYear (hd : d.IsValid) : d.ordinal < daysBeforeYear (d.year + 1) := by
  have hMonth := hd.ordinal_lt_nextMonth
  -- its month ends with the year at the latest
  have hInYear : daysBeforeMonth d.year (d.month + 1) ≤ daysBeforeMonth d.year 13 :=
    daysBeforeMonth_mono _ (by have := hd.month; omega)
  rw [daysBeforeMonth_thirteen] at hInYear
  rw [daysBeforeYear_succ hd.year]
  omega

/-- Of two dates the first field that differs tells which is earlier. -/
theorem fields_of_ordinal_lt (he : e.IsValid) (h : d.ordinal < e.ordinal) :
    d.year < e.year ∨ d.year = e.year ∧
      (d.month < e.month ∨ d.month = e.month ∧ d.day - 1 < e.day - 1) := by
  -- the earlier day is in no later year
  have hYear : d.year ≤ e.year := by
    refine Nat.le_of_lt_succ (year_lt_of_ordinal_lt ?_)
    exact Nat.lt_trans h he.ordinal_lt_nextYear
  rcases Nat.lt_or_eq_of_le hYear with hlt | hSameYear
  · exact .inl hlt
  refine .inr ⟨hSameYear, ?_⟩
  have hMonth : d.month ≤ e.month := by
    refine Nat.le_of_not_lt fun hLater => ?_
    -- a later month starts behind the end of the earlier one
    have hEnd := he.ordinal_lt_nextMonth
    have hStart : daysBeforeMonth e.year (e.month + 1) ≤ daysBeforeMonth e.year d.month :=
      daysBeforeMonth_mono _ hLater
    have hd : d.ordinal = daysBeforeYear e.year + daysBeforeMonth e.year d.month + (d.day - 1) := by
      rw [ordinal, hSameYear]
    omega
  rcases Nat.lt_or_eq_of_le hMonth with hlt | hSameMonth
  · exact .inl hlt
  refine .inr ⟨hSameMonth, ?_⟩
  rw [ordinal, ordinal, hSameYear, hSameMonth] at h
  omega

end Date

/-- The earlier date has the smaller text. -/
theorem dateText_lt {d e : Date} (hd : d.IsValid) (he : e.IsValid) (hYear : e.year < 10 ^ 4)
    (h : d.ordinal < e.ordinal) : dateText d < dateText e := by
  have hMonth : e.month < 10 ^ 2 := by
    have := he.month
    omega
  have hDay : e.day < 10 ^ 2 := by
    have := he.day
    have := daysInMonth_le e.year e.month
    omega
  have hFields := Date.fields_of_ordinal_lt he h
  have hFirst := hd.day
  rw [dateText, dateText, List.append_assoc, List.append_assoc]
  -- field by field, from the year on
  refine field_lt hYear (hFields.imp_right (And.imp_right fun hRest => cons_lt ?_))
  refine field_lt hMonth (hRest.imp_right (And.imp_right fun hLast => cons_lt ?_))
  exact decimalDigits_lt (by omega) hDay

/-! ## Times of day -/

/-- The earlier time of a day has the smaller text. -/
theorem clockText_lt {m n : Nat} (h : m < n) (hn : n < 86400000) : clockText m < clockText n := by
  have hHour : n / 3600000 < 10 ^ 2 := by omega
  have hMinute : n / 60000 % 60 < 10 ^ 2 := by omega
  have hSecond : n / 1000 % 60 < 10 ^ 2 := by omega
  have hMilli : n % 1000 < 10 ^ 3 := by omega
  -- the first field in which the times differ decides
  have hFields : m / 3600000 < n / 3600000 ∨ m / 3600000 = n / 3600000 ∧
      (m / 60000 % 60 < n / 60000 % 60 ∨ m / 60000 % 60 = n / 60000 % 60 ∧
        (m / 1000 % 60 < n / 1000 % 60 ∨ m / 1000 % 60 = n / 1000 % 60 ∧ m % 1000 < n % 1000)) := by
    omega
  simp only [clockText, List.append_assoc, List.cons_append]
  refine field_lt hHour (hFields.imp_right (And.imp_right fun hRest => cons_lt ?_))
  refine field_lt hMinute (hRest.imp_right (And.imp_right fun hRest => cons_lt ?_))
  refine field_lt hSecond (hRest.imp_right (And.imp_right fun hLast => cons_lt ?_))
  exact decimalDigits_lt hLast hMilli

/-! ## Stamps -/

theorem length_clockText (millis : Nat) : (clockText millis).length = 12 := by
  simp [clockText, length_decimalDigits]

/-- The texts of stamps are in the order of their instants. -/
theorem stampText_lt {m n : Int} (h : m < n) (hm : isOnCalendar m = true)
    (hn : isOnCalendar n = true) : stampText m < stampText n := by
  rw [String.lt_iff, toList_stampText, toList_stampText, List.append_assoc, List.append_assoc]
  obtain ⟨hValidFirst, hFirst⟩ := Date.ofOrdinal_spec (dayOf m)
  obtain ⟨hValidSecond, hSecond⟩ := Date.ofOrdinal_spec (dayOf n)
  -- the earlier stamp is on an earlier day, or earlier on the same day
  have hDays : dayOf m < dayOf n ∨ dayOf m = dayOf n ∧ restOf m < restOf n := by
    simp only [isOnCalendar, Bool.and_eq_true, decide_eq_true_eq] at hm hn
    unfold dayOf restOf dayMillis at *
    omega
  rcases hDays with hlt | ⟨hSame, hRest⟩
  · -- the dates decide
    refine append_lt_append_of_lt
      (by rw [Timestamp.length_dateText, Timestamp.length_dateText]) ?_ _ _
    refine dateText_lt hValidFirst hValidSecond (year_lt_of_isOnCalendar hn) ?_
    rw [hFirst, hSecond]
    exact hlt
  · -- on one day the times decide
    rw [hSame]
    refine List.append_left_lt (cons_lt ?_)
    refine append_lt_append_of_lt (by rw [length_clockText, length_clockText]) ?_ _ _
    exact clockText_lt hRest (restOf_lt n)

/-- Stamps are written in order. -/
theorem stampText_le {m n : Int} (h : m ≤ n) (hm : isOnCalendar m = true)
    (hn : isOnCalendar n = true) : stampText m ≤ stampText n := by
  rcases Int.lt_or_eq_of_le h with hlt | rfl
  · exact String.not_lt.mp (String.lt_asymm (stampText_lt hlt hm hn))
  · exact String.le_refl _

/-- Different instants have different stamps. -/
theorem stampText_inj {m n : Int} (hm : isOnCalendar m = true) (hn : isOnCalendar n = true)
    (h : stampText m = stampText n) : m = n := by
  rcases Int.lt_trichotomy m n with hlt | heq | hgt
  · exact absurd (h ▸ stampText_lt hlt hm hn) (String.lt_irrefl _)
  · exact heq
  · exact absurd (h ▸ stampText_lt hgt hn hm) (String.lt_irrefl _)

end ODataService.Time
