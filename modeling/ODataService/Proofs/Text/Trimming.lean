import ODataService.Text.Blank

/-!
# Where texts start and end

Trimming leaves a text as it is when neither its first nor its last character
is blank, and these are all texts but the empty one that it leaves as they are.
-/

namespace ODataService.Text

/-- The first character is there and is not blank. -/
def StartsSolid (cs : List Char) : Prop := ∃ c ds, cs = c :: ds ∧ isBlank c = false

/-- The last character is there and is not blank. -/
def EndsSolid (cs : List Char) : Prop := ∃ ds c, cs = ds ++ [c] ∧ isBlank c = false

/-- A solid start stays one, whatever follows. -/
theorem StartsSolid.append {cs : List Char} (h : StartsSolid cs) (ds : List Char) :
    StartsSolid (cs ++ ds) := by
  obtain ⟨c, cs, rfl, hc⟩ := h
  exact ⟨c, cs ++ ds, rfl, hc⟩

/-- A solid end stays one, whatever stands in front. -/
theorem EndsSolid.append {ds : List Char} (h : EndsSolid ds) (cs : List Char) :
    EndsSolid (cs ++ ds) := by
  obtain ⟨ds, c, rfl, hc⟩ := h
  exact ⟨cs ++ ds, c, by rw [List.append_assoc], hc⟩

theorem EndsSolid.cons {ds : List Char} (h : EndsSolid ds) (c : Char) : EndsSolid (c :: ds) :=
  h.append [c]

/-- A text without blanks ends solidly, if it is not empty. -/
theorem endsSolid_of_forall {cs : List Char} (hne : cs ≠ [])
    (h : ∀ c ∈ cs, isBlank c = false) : EndsSolid cs :=
  ⟨cs.dropLast, cs.getLast hne, (List.dropLast_concat_getLast hne).symm,
    h _ (List.getLast_mem hne)⟩

/-- Characters that start and end without blanks are left as they are. -/
theorem trim_eq {cs : List Char} (hs : StartsSolid cs) (he : EndsSolid cs) : trim cs = cs := by
  obtain ⟨c, ds, hstart, hc⟩ := hs
  obtain ⟨es, d, hend, hd⟩ := he
  -- neither side has a blank to drop
  have hleft : trimLeft cs = cs := by
    rw [hstart]
    simp [trimLeft, hc]
  have hright : trimRight cs = cs := by
    rw [hend]
    simp [trimRight, hd]
  rw [trim, hleft, hright]

/-- Blanks behind a text are trimmed. -/
theorem trimRight_append_blanks {cs : List Char} (he : EndsSolid cs) {blanks : List Char}
    (hb : blanks.all isBlank = true) : trimRight (cs ++ blanks) = cs := by
  obtain ⟨ds, c, rfl, hc⟩ := he
  have hblanks : ∀ b ∈ blanks.reverse, isBlank b = true := by simpa using hb
  rw [trimRight, List.reverse_append, List.dropWhile_append_of_pos hblanks]
  simp [hc]

/-- Trimming only leaves characters out. -/
theorem trim_sublist (cs : List Char) : (trim cs).Sublist cs := by
  have hRight : (trimRight (trimLeft cs)).Sublist (trimLeft cs) := by
    rw [trimRight, ← List.reverse_sublist, List.reverse_reverse]
    exact List.dropWhile_sublist isBlank
  exact hRight.trans (List.dropWhile_sublist isBlank)

/-- Trimming on the right never makes a text longer. -/
theorem length_trimRight_le (cs : List Char) : (trimRight cs).length ≤ cs.length := by
  have h := (List.dropWhile_sublist (p := isBlank) (l := cs.reverse)).length_le
  simpa [trimRight] using h

/-- A stripped text is no longer than the text. -/
theorem length_strip_le (s : String) : (strip s).length ≤ s.length := by
  have hleft : (trimLeft s.toList).length ≤ s.toList.length :=
    (List.dropWhile_sublist isBlank).length_le
  have hright := length_trimRight_le (trimLeft s.toList)
  rw [← String.length_toList, ← String.length_toList, strip, String.toList_ofList]
  exact Nat.le_trans hright hleft

/-- A text that trimming leaves as it is starts solidly. -/
theorem startsSolid_of_trim {cs : List Char} (h : trim cs = cs) (hne : cs ≠ []) :
    StartsSolid cs := by
  obtain ⟨c, ds, rfl⟩ := List.exists_cons_of_ne_nil hne
  refine ⟨c, ds, rfl, Bool.eq_false_iff.2 fun hc => ?_⟩
  -- a blank in front would be dropped, and the text would get shorter
  have hleft : (trimLeft (c :: ds)).length ≤ ds.length := by
    rw [trimLeft, List.dropWhile_cons_of_pos hc]
    exact (List.dropWhile_sublist isBlank).length_le
  have hright := length_trimRight_le (trimLeft (c :: ds))
  rw [← trim, h, List.length_cons] at hright
  omega

/-- A text that trimming leaves as it is ends solidly. -/
theorem endsSolid_of_trim {cs : List Char} (h : trim cs = cs) (hne : cs ≠ []) :
    EndsSolid cs := by
  obtain ⟨c, ds, hstart, hc⟩ := startsSolid_of_trim h hne
  have hleft : trimLeft cs = cs := by
    rw [hstart, trimLeft, List.dropWhile_cons_of_neg (by simp [hc])]
  refine ⟨cs.dropLast, cs.getLast hne, (List.dropLast_concat_getLast hne).symm,
    Bool.eq_false_iff.2 fun hlast => ?_⟩
  -- a blank at the end would be dropped, and the text would get shorter
  have hright : trimRight cs = trimRight cs.dropLast :=
    calc trimRight cs = trimRight (cs.dropLast ++ [cs.getLast hne]) := by
          rw [List.dropLast_concat_getLast]
      _ = trimRight cs.dropLast := by simp [trimRight, hlast]
  have hlength := length_trimRight_le cs.dropLast
  rw [← hright, ← hleft, ← trim, h, hleft, List.length_dropLast] at hlength
  have := List.length_pos_iff.2 hne
  omega

/-- A text with solid ends is its own stripped form. -/
theorem strip_eq {s : String} (hs : StartsSolid s.toList) (he : EndsSolid s.toList) :
    strip s = s := by
  rw [strip, trim_eq hs he, String.ofList_toList]

end ODataService.Text
