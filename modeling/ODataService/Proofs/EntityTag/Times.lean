import ODataService.Proofs.EntityTag.Tags

/-!
# Times that are read back

A stamp has one form (`stampText_form`), and what is read from it is the instant that it was
written from, also where the same instant is written as clocks elsewhere show it
(`timeMillis_zonedText`). So the tags of two stamps differ if the stamps do. Main result:
`stamp_read_back`.
-/

namespace ODataService

namespace Time

/-! ## The form of a stamp -/

/-- Whether a text has a form, in which zeros stand for any digits and all other characters for
themselves. -/
def HasForm (form text : List Char) : Prop :=
  List.Forall₂ (fun f c => if f = '0' then c.isDigit = true else c = f) form text

/-- Digits of a width have the form of as many zeros. -/
theorem hasForm_decimalDigits (width n : Nat) :
    HasForm (List.replicate width '0') (decimalDigits width n) := by
  refine List.forall₂_iff_get.2 ⟨by simp [length_decimalDigits], fun i hi hj => ?_⟩
  simp only [List.get_eq_getElem, List.getElem_replicate, if_true]
  exact isDigit_of_mem_decimalDigits (List.getElem_mem hj)

/-- Forms are put together as the texts are. -/
theorem HasForm.append {form form' text text' : List Char} (h : HasForm form text)
    (h' : HasForm form' text') : HasForm (form ++ form') (text ++ text') :=
  List.rel_append h h'

/-- A character that stands for itself, in front of the rest. -/
theorem HasForm.literal {f : Char} (hf : f ≠ '0') {form text : List Char}
    (h : HasForm form text) : HasForm (f :: form) (f :: text) :=
  List.Forall₂.cons (by rw [if_neg hf]) h

/-- The form of stamps. -/
def stampForm : String := "0000-00-00T00:00:00.000Z"

/-- A stamp has the form of a date, a time to the millisecond and `Z`. -/
theorem stampText_form (millis : Int) : HasForm stampForm.toList (stampText millis).toList := by
  -- a separator, then digits
  have hField (width n : Nat) {f : Char} (hf : f ≠ '0') :
      HasForm (f :: List.replicate width '0') (f :: decimalDigits width n) :=
    (hasForm_decimalDigits width n).literal hf
  have hDate (d : Date) : HasForm "0000-00-00".toList (dateText d) :=
    ((hasForm_decimalDigits 4 d.year).append (hField 2 d.month (by decide))).append
      (hField 2 d.day (by decide))
  have hClock (n : Nat) : HasForm "00:00:00.000".toList (clockText n) :=
    (((hasForm_decimalDigits 2 _).append (hField 2 _ (by decide))).append
      (hField 2 _ (by decide))).append (hField 3 _ (by decide))
  rw [toList_stampText]
  exact ((hDate _).append ((hClock _).literal (by decide))).append (.literal (by decide) .nil)

/-! ## Other clocks -/

/-- A time with an offset starts with its date and ends with the last digit of the minutes. -/
theorem toList_zonedText (millis : Int) (o : WrittenOffset) :
    ∃ front, (zonedText millis o).toList =
      dateText (Date.ofOrdinal (dayOf (millis + o.millis))) ++ front ++
        [Nat.digitChar (o.minutes % 10)] := by
  refine ⟨'T' :: (clockText (restOf (millis + o.millis)) ++
    (if o.negative then '-' else '+') ::
      (decimalDigits 2 o.hours ++ [':', Nat.digitChar (o.minutes / 10 % 10)])), ?_⟩
  rw [zonedText, String.toList_ofList, WrittenOffset.text]
  simp [decimalDigits]

/-- The last digit of the minutes is a digit. -/
theorem isDigit_lastMinute (o : WrittenOffset) :
    (Nat.digitChar (o.minutes % 10)).isDigit = true :=
  isDigit_digitChar (Nat.mod_lt _ (by decide))

/-- A time with an offset has no blanks around it. -/
theorem strip_zonedText (millis : Int) (o : WrittenOffset) :
    Text.strip (zonedText millis o) = zonedText millis o := by
  obtain ⟨front, hText⟩ := toList_zonedText millis o
  apply Text.strip_eq
  · rw [hText, List.append_assoc]
    exact startsSolid_dateText _ _
  · rw [hText]
    exact ⟨_, _, rfl, Text.isBlank_of_isDigit (isDigit_lastMinute o)⟩

end Time

namespace EntityTag

open Time

/-- A text with an offset does not end with the letter for universal time. -/
theorem withOffset_zonedText (millis : Int) (o : WrittenOffset) :
    withOffset (zonedText millis o) = zonedText millis o := by
  obtain ⟨front, hText⟩ := toList_zonedText millis o
  rw [withOffset, hText, List.getLast?_concat]
  -- the last character is a digit, so there is no `Z` to replace
  split
  · next hLast =>
    have hDigit := isDigit_lastMinute o
    rw [Option.some.inj hLast] at hDigit
    exact absurd hDigit (by decide)
  · rfl

/-- An instant is read as its milliseconds wherever it is shown. -/
theorem timeMillis_zonedText {millis : Int} {o : WrittenOffset} (h : isOnCalendar millis = true)
    (hShown : isOnCalendar (millis + o.millis) = true) :
    timeMillis (.str (zonedText millis o)) = .ok (some millis) := by
  have hText : withOffset (Text.strip (zonedText millis o)) = zonedText millis o := by
    rw [strip_zonedText, withOffset_zonedText]
  exact timeMillis_of_zonedText hText h hShown

/-- The stamp of an instant has the form of a stamp and is read back as the milliseconds of this
instant, and so is the text of this instant at any offset at which its date is on the calendar. The
tag of a record with that stamp holds these milliseconds, and it is the tag of no other stamp. -/
theorem stamp_read_back {millis other : Int} (h : isOnCalendar millis = true)
    (hOther : isOnCalendar other = true) :
    HasForm stampForm.toList (stampText millis).toList ∧
      timeMillis (.str (stampText millis)) = .ok (some millis) ∧
      (∀ o : WrittenOffset, isOnCalendar (millis + o.millis) = true →
        timeMillis (.str (zonedText millis o)) = .ok (some millis)) ∧
      ∀ r s : Record, Keyed.get? r "updated_at" = some (.str (stampText millis)) →
        Keyed.get? s "updated_at" = some (.str (stampText other)) →
        ofRecord r = .ok (weak (toString millis)) ∧
          (ofRecord r = ofRecord s ↔ millis = other) := by
  refine ⟨stampText_form millis, timeMillis_stampText h,
    fun o hShown => timeMillis_zonedText h hShown, fun r s hr hs => ?_⟩
  rw [ofRecord_eq_stampTag hr h, ofRecord_eq_stampTag hs hOther]
  exact ⟨rfl, fun hSame => stampTag_inj.1 (Except.ok.inj hSame), fun hSame => hSame ▸ rfl⟩

/-- The last millisecond of a leap day before 1970. -/
def leapDayEnd : Int := -57974400001

/-- Clocks that show the next day by then, in the next month. -/
def halfHourAhead : WrittenOffset := ⟨false, 5, 30, by decide, by decide⟩

def recordAt (millis : Int) : Record := [("updated_at", .str (stampText millis))]

/-- The last millisecond of a leap day is read back, also with an offset that shows it on the next
day. -/
theorem stamp_read_back_leapDay :
    (isOnCalendar leapDayEnd = true ∧ isOnCalendar 0 = true ∧
        isOnCalendar (leapDayEnd + halfHourAhead.millis) = true) ∧
      timeMillis (.str "1968-02-29T23:59:59.999Z") = .ok (some leapDayEnd) ∧
      timeMillis (.str "1968-03-01T05:29:59.999+05:30") = .ok (some leapDayEnd) ∧
      ofRecord (recordAt leapDayEnd) ≠ ofRecord (recordAt 0) := by
  have h : isOnCalendar leapDayEnd = true := by decide
  have hOther : isOnCalendar 0 = true := by decide
  have hShown : isOnCalendar (leapDayEnd + halfHourAhead.millis) = true := by decide
  have hStamp : stampText leapDayEnd = "1968-02-29T23:59:59.999Z" := by decide
  have hZoned : zonedText leapDayEnd halfHourAhead = "1968-03-01T05:29:59.999+05:30" := by decide
  obtain ⟨-, hRead, hReadZoned, hTags⟩ := stamp_read_back h hOther
  have hReadShown := hReadZoned halfHourAhead hShown
  have hSame := (hTags (recordAt leapDayEnd) (recordAt 0) rfl rfl).2
  rw [hStamp] at hRead
  rw [hZoned] at hReadShown
  exact ⟨⟨h, hOther, hShown⟩, hRead, hReadShown, mt hSame.1 (by decide)⟩

end EntityTag

end ODataService
