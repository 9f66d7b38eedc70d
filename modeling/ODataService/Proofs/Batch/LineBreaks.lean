import ODataService.Proofs.Batch.Payload
import ODataService.Proofs.Text.LineBreaks

/-!
# Line breaks of batches

A batch may be written with LF in the place of every CRLF, and it is read in the same way
(`Batch.parse_unixBreaks`): the same parts, or the same refusal. This is so for all bodies whose CRs
are each directly followed by LF, whether they make sense or not, and for the bodies of changesets
inside of them.

The two texts differ in their CRs only, so each step is shown not to see them: the words that
announce a changeset and its boundary, the sections, and the lines of a section. The body of a
request is put together from its lines, with CRLF between them in either case.
-/

namespace ODataService.Batch

open Text

/-- The text with LF in the place of every CRLF. -/
def unixBreaks (body : String) : String := String.ofList (lfBreaks body.toList)

/-! ## Announcements -/

/-- A word stands in front with the CRs or without them. -/
theorem behindWord?_withoutCr {cs : List Char} (word : List Char)
    (hr : word.any (isLetter · '\r') = false) (hn : word.any (isLetter · '\n') = false)
    (h : crBeforeLf cs = true) :
    behindWord? word (withoutCr cs) = (behindWord? word cs).map withoutCr := by
  induction word generalizing cs with
  | nil => rw [behindWord?, behindWord?, Option.map_some]
  | cons w ws ih =>
    rw [List.any_cons, Bool.or_eq_false_iff] at hr hn
    cases cs with
    | nil => rfl
    | cons c cs =>
      by_cases hc : c = '\r'
      · -- neither the CR nor its LF is a letter of the word
        obtain rfl := hc
        obtain ⟨ds, rfl⟩ := exists_lf h
        rw [withoutCr_cr, withoutCr_cons (by decide), behindWord?, behindWord?, hr.1, hn.1]
        rfl
      · rw [withoutCr_cons hc, behindWord?, behindWord?, ih hr.2 hn.2 (crBeforeLf_tail h)]
        split
        · rfl
        · rfl

/-- What follows a word has its LFs behind its CRs, too. -/
theorem crBeforeLf_behindWord? {word cs rest : List Char} (hrest : behindWord? word cs = some rest)
    (h : crBeforeLf cs = true) : crBeforeLf rest = true :=
  crBeforeLf_of_suffix (isSuffix_of_behindWord? hrest) h

/-- A header announces parts with its CRs or without them. -/
theorem announcesHere_withoutCr {cs : List Char} (h : crBeforeLf cs = true) :
    announcesHere (withoutCr cs) = announcesHere cs := by
  rw [announcesHere, announcesHere, behindWord?_withoutCr _ (by decide) (by decide) h]
  cases htype : behindWord? "content-type:".toList cs with
  | none => rfl
  -- blanks are skipped in front of the type, line breaks among them
  | some type =>
    have hblank : crBeforeLf (trimLeft type) = true :=
      crBeforeLf_of_suffix (List.dropWhile_suffix isBlank) (crBeforeLf_behindWord? htype h)
    simp only [Option.map_some, trimLeft_withoutCr,
      behindWord?_withoutCr "multipart/mixed".toList (by decide) (by decide) hblank,
      Option.isSome_map]

/-- A section announces parts with its CRs or without them. -/
theorem announcesMultipart_withoutCr {cs : List Char} (h : crBeforeLf cs = true) :
    announcesMultipart (withoutCr cs) = announcesMultipart cs := by
  induction cs with
  | nil => rfl
  | cons c cs ih =>
    have ih := ih (crBeforeLf_tail h)
    -- no header starts with a CR
    by_cases hc : c = '\r'
    · obtain rfl := hc
      have hhere : announcesHere ('\r' :: cs) = false := rfl
      rw [withoutCr_cr, ih, announcesMultipart, hhere, Bool.false_or]
    · have hhere := announcesHere_withoutCr h
      rw [withoutCr_cons hc] at hhere ⊢
      rw [announcesMultipart, announcesMultipart, hhere, ih]

/-! ## Boundaries -/

/-- An opening quote is passed with the CRs or without them. -/
theorem behindQuote_withoutCr {cs : List Char} (h : crBeforeLf cs = true) :
    behindQuote (withoutCr cs) = withoutCr (behindQuote cs) := by
  cases cs with
  | nil => rfl
  | cons c cs =>
    -- a CR is no quote, and neither is its LF
    by_cases hc : c = '\r'
    · obtain rfl := hc
      obtain ⟨ds, rfl⟩ := exists_lf h
      rw [withoutCr_cr, withoutCr_cons (by decide)]
      rfl
    · rw [withoutCr_cons hc, behindQuote, behindQuote]
      split
      · rfl
      · rw [withoutCr_cons hc]

/-- What stands behind the quote is the end of the text. -/
theorem behindQuote_isSuffix (cs : List Char) : behindQuote cs <:+ cs := by
  cases cs with
  | nil => exact List.suffix_refl []
  | cons c cs =>
    rw [behindQuote]
    split
    · exact List.suffix_cons c cs
    · exact List.suffix_refl _

/-- A boundary is read with the CRs or without them. -/
theorem boundaryHere?_withoutCr {cs : List Char} (h : crBeforeLf cs = true) :
    boundaryHere? (withoutCr cs) = boundaryHere? cs := by
  rw [boundaryHere?, boundaryHere?, behindWord?_withoutCr _ (by decide) (by decide) h]
  cases hvalue : behindWord? "boundary=".toList cs with
  | none => rfl
  -- the boundary ends in front of a line break, whatever its kind
  | some value =>
    have hvalue := crBeforeLf_behindWord? hvalue h
    have hquote := crBeforeLf_of_suffix (behindQuote_isSuffix value) hvalue
    simp only [Option.map_some, behindQuote_withoutCr hvalue,
      takeWhile_withoutCr (p := isBoundaryChar) (by decide) (by decide) hquote]

/-- The boundary of a section is read with its CRs or without them. -/
theorem boundary?_withoutCr {cs : List Char} (h : crBeforeLf cs = true) :
    boundary? (withoutCr cs) = boundary? cs := by
  induction cs with
  | nil => rfl
  | cons c cs ih =>
    have ih := ih (crBeforeLf_tail h)
    -- no parameter starts with a CR
    by_cases hc : c = '\r'
    · obtain rfl := hc
      have hhere : boundaryHere? ('\r' :: cs) = none := rfl
      rw [withoutCr_cr, ih, boundary?, hhere, Option.none_or]
    · have hhere := boundaryHere?_withoutCr h
      rw [withoutCr_cons hc] at hhere ⊢
      rw [boundary?, boundary?, hhere, ih]

/-- A boundary that is read is made of its characters. -/
theorem isBoundaryChar_of_mem_boundaryHere? {cs boundary : List Char}
    (h : boundaryHere? cs = some boundary) : ∀ c ∈ boundary, isBoundaryChar c = true := by
  unfold boundaryHere? at h
  split at h
  · simp at h
  · split at h
    · simp at h
    · rw [← Option.some.inj h]
      exact fun c hc => List.mem_takeWhile_imp hc

/-- The boundary of a section is made of its characters. -/
theorem isBoundaryChar_of_mem_boundary? {cs boundary : List Char}
    (h : boundary? cs = some boundary) : ∀ c ∈ boundary, isBoundaryChar c = true := by
  induction cs with
  | nil => simp [boundary?] at h
  | cons c cs ih =>
    rw [boundary?, Option.or_eq_some_iff] at h
    -- the boundary is announced here or further behind
    rcases h with hhere | ⟨-, hlater⟩
    · exact isBoundaryChar_of_mem_boundaryHere? hhere
    · exact ih hlater

/-- The boundary of a changeset has no line breaks in it. -/
theorem ownBoundary?_one_line {boundary piece own : List Char}
    (h : ownBoundary? boundary piece = some own) : '\r' ∉ own ∧ '\n' ∉ own := by
  rw [ownBoundary?, Option.filter_eq_some_iff] at h
  have hchars := isBoundaryChar_of_mem_boundary? h.1
  exact ⟨fun hr => absurd (hchars _ hr) (by decide), fun hn => absurd (hchars _ hn) (by decide)⟩

/-! ## Sections -/

/-- A section is the same operation without its CRs. -/
theorem operationOf_withoutCr {piece : List Char} (h : crBeforeLf piece = true) :
    operationOf (withoutCr piece) = operationOf piece := by
  rw [operationOf, operationOf, lines_withoutCr h]

/-- A section is skipped with its CRs or without them. -/
theorem isSkipped_withoutCr {piece : List Char} (h : crBeforeLf piece = true) :
    isSkipped (withoutCr piece) = isSkipped piece := by
  rw [isSkipped, isSkipped, all_isBlank_withoutCr, isPrefixOf_withoutCr (by decide) (by decide) h]

section delimiter

variable {boundary body : List Char} (hr : '\r' ∉ boundary) (hn : '\n' ∉ boundary)
  (h : crBeforeLf body = true)

include hn h in
/-- In the sections of a body every CR has its LF. -/
theorem crBeforeLf_of_mem_sections : ∀ piece ∈ sections boundary body, crBeforeLf piece = true := by
  intro piece hpiece
  exact crBeforeLf_of_mem_splitOnMarker (delimiter_ne_nil boundary)
    (delimiter_one_line (by decide) hn) h piece
    (List.mem_of_mem_tail (List.mem_filter.1 hpiece).1)

include hr hn h in
/-- The sections of a body lose their CRs with it. -/
theorem sections_withoutCr :
    sections boundary (withoutCr body) = (sections boundary body).map withoutCr := by
  have hline := delimiter_one_line (c := '\n') (by decide) hn
  have hm := delimiter_ne_nil boundary
  rw [sections, sections, splitOnMarker_withoutCr hm (delimiter_one_line (by decide) hr) hline h,
    ← List.map_tail, List.filter_map]
  -- the same sections are skipped
  refine congrArg (List.map withoutCr) (List.filter_congr fun piece hpiece => ?_)
  have hpiece := crBeforeLf_of_mem_splitOnMarker hm hline h piece (List.mem_of_mem_tail hpiece)
  rw [Function.comp_apply, isSkipped_withoutCr hpiece]

end delimiter

/-! ## Batches -/

/-- The part of a section without its CRs, if the bodies of changesets that are shorter than some
length are read without theirs. -/
theorem partOf_withoutCr {boundary piece : List Char} (h : crBeforeLf piece = true)
    (hinner : ∀ own, '\r' ∉ own → '\n' ∉ own → parts own (withoutCr piece) = parts own piece) :
    partOf boundary (withoutCr piece) = partOf boundary piece := by
  rw [partOf, partOf, announcesMultipart_withoutCr h, operationOf_withoutCr h, ownBoundary?,
    ownBoundary?, boundary?_withoutCr h]
  -- a section with a boundary of its own is read as a body again
  cases hown : ownBoundary? boundary piece with
  | none =>
    rw [ownBoundary?] at hown
    rw [hown]
  | some own =>
    obtain ⟨hr, hn⟩ := ownBoundary?_one_line hown
    rw [ownBoundary?] at hown
    rw [hown]
    simp only [hinner own hr hn]

/-- The parts of a body do not depend on its CRs. The induction is on the length of the body, since
the body of a changeset is a section of it. -/
theorem parts_withoutCr {boundary body : List Char} (hr : '\r' ∉ boundary) (hn : '\n' ∉ boundary)
    (h : crBeforeLf body = true) : parts boundary (withoutCr body) = parts boundary body := by
  -- by induction on the length, since a section is shorter than the body
  induction hlength : body.length using Nat.strong_induction_on generalizing boundary body with
  | _ n ih =>
    have hsame : ∀ piece ∈ sections boundary body,
        (partOf boundary ∘ withoutCr) piece = partOf boundary piece := by
      intro piece hpiece
      have hclosed := crBeforeLf_of_mem_sections hn h piece hpiece
      refine partOf_withoutCr hclosed fun own hr hn => ?_
      exact ih piece.length (hlength ▸ length_lt_of_mem_sections hpiece) hr hn hclosed rfl
    rw [parts_eq, parts_eq, occursIn_withoutCr (delimiter_ne_nil boundary)
      (delimiter_one_line (by decide) hr) (delimiter_one_line (by decide) hn) h,
      sections_withoutCr hr hn h, List.mapM_map, mapM_congr hsame]

/-- A batch is read in the same way, to the same parts or the same refusal, with LF in the place of
every CRLF. -/
theorem parse_unixBreaks {boundary body : String} (hr : '\r' ∉ boundary.toList)
    (hn : '\n' ∉ boundary.toList) (h : crBeforeLf body.toList = true) :
    parse boundary (unixBreaks body) = parse boundary body := by
  rw [parse, parse, unixBreaks, String.toList_ofList, lfBreaks_eq h, parts_withoutCr hr hn h]

/-- The parts of a batch: a request whose payload has two lines, and a changeset. -/
def mixedParts : List Written :=
  [.request ⟨"POST", "A", [("If-Match", "1")], "1\r\n2"⟩,
    .changeset "c" [⟨"PUT", "B", [], "3"⟩, ⟨"DELETE", "C", [], ""⟩]]

theorem parse_unixBreaks_mixed :
    ('\r' ∉ "b".toList ∧ '\n' ∉ "b".toList ∧
        crBeforeLf (write "b" mixedParts "\r\n").toList = true) ∧
      unixBreaks (write "b" mixedParts "\r\n") ≠ write "b" mixedParts "\r\n" ∧
      parse "b" (unixBreaks (write "b" mixedParts "\r\n")) =
        parse "b" (write "b" mixedParts "\r\n") := by
  have htext : (write "b" mixedParts "\r\n").toList =
      delimited (delimiter "b".toList) (mixedParts.map Written.text) ++ "\r\n".toList :=
    String.toList_ofList
  have hcr : crBeforeLf (write "b" mixedParts "\r\n").toList = true := by
    rw [htext]
    decide +kernel
  have hdiffers : lfBreaks (write "b" mixedParts "\r\n").toList ≠
      (write "b" mixedParts "\r\n").toList := by
    rw [htext]
    decide +kernel
  refine ⟨⟨by decide, by decide, hcr⟩, fun h => ?_, parse_unixBreaks (by decide) (by decide) hcr⟩
  have hlists := congrArg String.toList h
  rw [unixBreaks, String.toList_ofList] at hlists
  exact hdiffers hlists

end ODataService.Batch
