import Mathlib.Data.List.Infix
import ODataService.Proofs.Text.Splitting

/-!
# CRLF and LF

A text in which each CR is directly followed by LF (`Text.crBeforeLf`) may be written with LF in the
place of every CRLF (`Text.lfBreaks`). All that happens is that its CRs are gone
(`Text.lfBreaks_eq`). So what is read from the text up to a character that is no line break is the
same, its lines are the same, and its pieces between markers are the same but for the CRs in them.

The lemmas on reading a text from its start have two cases for each character: a CR, whose LF is the
next character of both texts, and any other character, which both texts start with.
-/

namespace ODataService.Text

/-- Whether each CR of a text is directly followed by LF. -/
def crBeforeLf : List Char → Bool
  | [] => true
  | c :: cs => (c != '\r' || cs.head? == some '\n') && crBeforeLf cs

/-- The text with LF in the place of every CRLF. -/
def lfBreaks : List Char → List Char
  | [] => []
  | '\r' :: '\n' :: cs => '\n' :: lfBreaks cs
  | c :: cs => c :: lfBreaks cs

/-- The text without its CRs. -/
def withoutCr (cs : List Char) : List Char := cs.filter (· != '\r')

/-! ## Breaks -/

variable {c : Char} {cs ds : List Char}

/-- Behind its first character a text has its line ends as before. -/
theorem crBeforeLf_tail (h : crBeforeLf (c :: cs) = true) : crBeforeLf cs = true := by
  rw [crBeforeLf, Bool.and_eq_true] at h
  exact h.2

/-- A CR at the start has its LF behind it. -/
theorem exists_lf (h : crBeforeLf ('\r' :: cs) = true) : ∃ ds, cs = '\n' :: ds := by
  -- a CR at the end of the text has no LF behind it
  cases cs with
  | nil => simp [crBeforeLf] at h
  | cons c cs =>
    rw [crBeforeLf, Bool.and_eq_true] at h
    obtain rfl : c = '\n' := by simpa using h.1
    exact ⟨cs, rfl⟩

/-- A character that is no CR may stand in front. -/
theorem crBeforeLf_cons (hc : c ≠ '\r') (h : crBeforeLf cs = true) :
    crBeforeLf (c :: cs) = true := by
  rw [crBeforeLf, h, bne_iff_ne.2 hc]
  rfl

/-- A CR may stand in front of an LF. -/
theorem crBeforeLf_crlf (h : crBeforeLf ('\n' :: cs) = true) :
    crBeforeLf ('\r' :: '\n' :: cs) = true := by
  rw [crBeforeLf, h]
  rfl

/-- The end of a text has its line ends as the text. -/
theorem crBeforeLf_of_suffix (hs : ds <:+ cs) (h : crBeforeLf cs = true) :
    crBeforeLf ds = true := by
  -- an end of the text is the text, or an end of what follows its first character
  induction cs with
  | nil =>
    obtain rfl := List.suffix_nil.1 hs
    rfl
  | cons c cs ih =>
    rcases List.suffix_cons_iff.1 hs with rfl | hs
    · exact h
    · exact ih hs (crBeforeLf_tail h)

theorem withoutCr_cr (cs : List Char) : withoutCr ('\r' :: cs) = withoutCr cs := rfl

/-- Any other character stays. -/
theorem withoutCr_cons (hc : c ≠ '\r') (cs : List Char) :
    withoutCr (c :: cs) = c :: withoutCr cs := by
  simp [withoutCr, hc]

theorem withoutCr_append (cs ds : List Char) :
    withoutCr (cs ++ ds) = withoutCr cs ++ withoutCr ds := List.filter_append cs ds

/-- A text without CRs stays. -/
theorem withoutCr_eq_self (h : '\r' ∉ cs) : withoutCr cs = cs := by
  rw [withoutCr, List.filter_eq_self]
  rintro c hc
  rw [bne_iff_ne]
  rintro rfl
  exact h hc

/-- Turning CRLF into LF leaves out the CRs, where each of them has its LF. -/
theorem lfBreaks_eq (h : crBeforeLf cs = true) : lfBreaks cs = withoutCr cs := by
  fun_induction lfBreaks cs with
  | case1 => rfl
  | case2 cs ih =>
    rw [withoutCr_cr, withoutCr_cons (by decide), ih (crBeforeLf_tail (crBeforeLf_tail h))]
  | case3 c cs hbreak ih =>
    -- a CR would stand before an LF
    have hc : c ≠ '\r' := by
      rintro rfl
      obtain ⟨ds, rfl⟩ := exists_lf h
      exact hbreak ds rfl rfl
    rw [withoutCr_cons hc, ih (crBeforeLf_tail h)]

/-! ## Reading from the start -/

/-- A run of characters that are no line ends is the same without the CRs. -/
theorem takeWhile_withoutCr {p : Char → Bool} (hr : p '\r' = false) (hn : p '\n' = false)
    (h : crBeforeLf cs = true) : (withoutCr cs).takeWhile p = cs.takeWhile p := by
  induction cs with
  | nil => rfl
  | cons c cs ih =>
    -- the run ends at the CR, and without it at its LF
    by_cases hc : c = '\r'
    · obtain rfl := hc
      obtain ⟨ds, rfl⟩ := exists_lf h
      rw [withoutCr_cr, withoutCr_cons (by decide), List.takeWhile_cons_of_neg (by simp [hn]),
        List.takeWhile_cons_of_neg (by simp [hr])]
    · rw [withoutCr_cons hc, List.takeWhile_cons, List.takeWhile_cons, ih (crBeforeLf_tail h)]

/-- White space in front is trimmed with its CRs or without them. -/
theorem trimLeft_withoutCr (cs : List Char) : trimLeft (withoutCr cs) = withoutCr (trimLeft cs) := by
  unfold trimLeft
  induction cs with
  | nil => rfl
  | cons c cs ih =>
    -- a CR is a blank, so it is trimmed with the others
    by_cases hc : c = '\r'
    · obtain rfl := hc
      rw [withoutCr_cr, ih, List.dropWhile_cons_of_pos (by decide)]
    · rw [withoutCr_cons hc]
      by_cases hblank : isBlank c = true
      · rw [List.dropWhile_cons_of_pos hblank, List.dropWhile_cons_of_pos hblank, ih]
      · rw [List.dropWhile_cons_of_neg hblank, List.dropWhile_cons_of_neg hblank,
          withoutCr_cons hc]

/-- A text is blank with its CRs or without them. -/
theorem all_isBlank_withoutCr (cs : List Char) :
    (withoutCr cs).all isBlank = cs.all isBlank := by
  rw [withoutCr, List.all_filter, Bool.eq_iff_iff, List.all_eq_true, List.all_eq_true]
  refine forall₂_congr fun c _ => ?_
  by_cases hc : c = '\r'
  · obtain rfl := hc
    decide
  · rw [bne_iff_ne.2 hc]
    rfl

/-- The lines are the same without the CRs. -/
theorem lines_withoutCr (h : crBeforeLf cs = true) : lines (withoutCr cs) = lines cs := by
  have hlf (ds : List Char) : lines ('\n' :: ds) = [] :: lines ds := by
    rw [lines, if_pos rfl]
    simp
  fun_induction lines cs with
  | case1 => rfl
  | case2 cs ih =>
    rw [withoutCr_cr, withoutCr_cons (by decide), hlf, ih (crBeforeLf_tail (crBeforeLf_tail h))]
  -- an LF of its own
  | case3 cs hbreak ih => rw [withoutCr_cons (by decide), hlf, ih (crBeforeLf_tail h)]
  | case4 c cs hbreak hn ih =>
    have hc : c ≠ '\r' := by
      rintro rfl
      obtain ⟨ds, rfl⟩ := exists_lf h
      exact hbreak ds rfl rfl
    rw [withoutCr_cons hc, lines, if_neg hn, ih (crBeforeLf_tail h)]
    exact fun _ hr _ => hc hr

/-! ## Markers -/

section markers

variable {marker : List Char}

/-- A marker of one line stands at the start of both texts or of none. -/
theorem isPrefixOf_withoutCr (hr : '\r' ∉ marker) (hn : '\n' ∉ marker)
    (h : crBeforeLf cs = true) : marker.isPrefixOf (withoutCr cs) = marker.isPrefixOf cs := by
  induction marker generalizing cs with
  | nil => rfl
  | cons m ms ih =>
    rw [List.mem_cons, not_or] at hr hn
    cases cs with
    | nil => rfl
    | cons c cs =>
      -- neither the CR nor its LF is a character of the marker
      by_cases hc : c = '\r'
      · obtain rfl := hc
        obtain ⟨ds, rfl⟩ := exists_lf h
        rw [withoutCr_cr, withoutCr_cons (by decide), List.isPrefixOf, List.isPrefixOf,
          beq_eq_false_iff_ne.2 (Ne.symm hn.1), beq_eq_false_iff_ne.2 (Ne.symm hr.1),
          Bool.false_and, Bool.false_and]
      · rw [withoutCr_cons hc, List.isPrefixOf, List.isPrefixOf,
          ih hr.2 hn.2 (crBeforeLf_tail h)]

/-- A marker does not start with a character that it has not. -/
theorem not_isPrefixOf_cons (hm : marker ≠ []) (hc : c ∉ marker) (cs : List Char) :
    marker.isPrefixOf (c :: cs) = false := by
  obtain ⟨m, ms, rfl⟩ := List.exists_cons_of_ne_nil hm
  rw [List.mem_cons, not_or] at hc
  rw [List.isPrefixOf, beq_eq_false_iff_ne.2 (Ne.symm hc.1), Bool.false_and]

/-- A marker within a line occurs without the CRs as before. -/
theorem occursIn_withoutCr (hm : marker ≠ []) (hr : '\r' ∉ marker) (hn : '\n' ∉ marker)
    (h : crBeforeLf cs = true) : occursIn marker (withoutCr cs) = occursIn marker cs := by
  induction cs with
  | nil => rfl
  | cons c cs ih =>
    by_cases hc : c = '\r'
    · obtain rfl := hc
      rw [withoutCr_cr, ih (crBeforeLf_tail h), occursIn, not_isPrefixOf_cons hm hr,
        Bool.false_or]
    -- at another character the marker begins with the CRs or without them
    · have hprefix := isPrefixOf_withoutCr hr hn h
      rw [withoutCr_cons hc] at hprefix ⊢
      rw [occursIn, occursIn, hprefix, ih (crBeforeLf_tail h)]

/-- Induction along the pieces of a text: a marker is passed at once, any other character by
itself. -/
@[elab_as_elim]
theorem split_induction {motive : List Char → Prop} (marker : List Char) (hm : marker ≠ [])
    (nil : motive []) (marked : ∀ rest, motive rest → motive (marker ++ rest))
    (cons : ∀ c cs, marker.isPrefixOf (c :: cs) = false → motive cs → motive (c :: cs)) :
    ∀ cs, motive cs
  | [] => nil
  | c :: cs =>
    if h : marker.isPrefixOf (c :: cs) = true then by
      obtain ⟨rest, hrest⟩ := List.isPrefixOf_iff_prefix.1 h
      rw [← hrest]
      exact marked rest (split_induction marker hm nil marked cons rest)
    else cons c cs (Bool.eq_false_iff.2 h) (split_induction marker hm nil marked cons cs)
termination_by cs => cs.length
decreasing_by
  · have hlength : marker.length + rest.length = (c :: cs).length := by
      rw [← hrest, List.length_append]
    have := List.length_pos_iff.2 hm
    omega
  · simp

/-- A marker in front of a text leaves an empty piece. -/
theorem splitOnMarker_marked (hm : marker ≠ []) (rest : List Char) :
    splitOnMarker marker (marker ++ rest) = [] :: splitOnMarker marker rest :=
  @splitOnMarker_append marker [] rest hm rfl

/-- A character in front of which no marker stands belongs to the piece. -/
theorem splitOnMarker_cons (h : marker.isPrefixOf (c :: cs) = false) :
    splitOnMarker marker (c :: cs) = consHead c (splitOnMarker marker cs) := by
  rw [splitOnMarker, splitOnMarkerFrom, if_neg (by simp [h])]
  rfl

/-- The pieces of a text without its CRs are its pieces without theirs. -/
theorem splitOnMarker_withoutCr (hm : marker ≠ []) (hr : '\r' ∉ marker) (hn : '\n' ∉ marker)
    (h : crBeforeLf cs = true) :
    splitOnMarker marker (withoutCr cs) = (splitOnMarker marker cs).map withoutCr := by
  -- by induction on how the text is split: at its end, at a marker, or at a character
  induction cs using split_induction marker hm with
  | nil => rfl
  | marked rest ih =>
    rw [withoutCr_append, withoutCr_eq_self hr, splitOnMarker_marked hm, splitOnMarker_marked hm,
      ih (crBeforeLf_of_suffix (List.suffix_append _ _) h)]
    rfl
  | cons c cs hnot ih =>
    have ih := ih (crBeforeLf_tail h)
    obtain ⟨p, ps, hps⟩ := List.exists_cons_of_ne_nil (splitOnMarkerFrom_ne_nil marker 0 cs)
    rw [splitOnMarker_cons hnot]
    rw [splitOnMarker, splitOnMarker, hps] at ih
    by_cases hc : c = '\r'
    · obtain rfl := hc
      rw [withoutCr_cr, splitOnMarker, ih, splitOnMarker, hps]
      rfl
    · have hprefix := isPrefixOf_withoutCr hr hn h
      rw [withoutCr_cons hc, hnot] at hprefix
      rw [withoutCr_cons hc, splitOnMarker_cons hprefix, splitOnMarker, ih, splitOnMarker, hps,
        consHead, List.map_cons, List.map_cons, withoutCr_cons hc]
      rfl

/-- No marker stands between a CR and its LF. -/
theorem crBeforeLf_of_mem_splitOnMarker (hm : marker ≠ []) (hn : '\n' ∉ marker)
    (h : crBeforeLf cs = true) : ∀ piece ∈ splitOnMarker marker cs, crBeforeLf piece = true := by
  induction cs using split_induction marker hm with
  | nil => simp [splitOnMarker, splitOnMarkerFrom, crBeforeLf]
  | marked rest ih =>
    rw [splitOnMarker_marked hm, List.forall_mem_cons]
    exact ⟨rfl, ih (crBeforeLf_of_suffix (List.suffix_append _ _) h)⟩
  | cons c cs hnot ih =>
    have ih := ih (crBeforeLf_tail h)
    obtain ⟨p, ps, hps⟩ := List.exists_cons_of_ne_nil (splitOnMarkerFrom_ne_nil marker 0 cs)
    rw [splitOnMarker_cons hnot]
    rw [splitOnMarker, hps] at ih ⊢
    rw [List.forall_mem_cons] at ih
    rw [consHead, List.forall_mem_cons]
    refine ⟨?_, ih.2⟩
    by_cases hc : c = '\r'
    · -- the LF behind the CR starts no marker, so the piece goes on with it
      obtain rfl := hc
      obtain ⟨ds, rfl⟩ := exists_lf h
      have hlf := splitOnMarker_cons (not_isPrefixOf_cons hm hn ds)
      obtain ⟨q, qs, hqs⟩ := List.exists_cons_of_ne_nil (splitOnMarkerFrom_ne_nil marker 0 ds)
      rw [splitOnMarker, hps, splitOnMarker, hqs] at hlf
      obtain ⟨rfl, -⟩ := List.cons.inj hlf
      exact crBeforeLf_crlf ih.1
    · exact crBeforeLf_cons hc ih.1

end markers

end ODataService.Text
