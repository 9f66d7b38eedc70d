import ODataService.Proofs.Batch.RoundTrip

/-!
# Replacing the payload of a request

A request in a batch is a head, which ends with an empty line, and a payload behind it. Method, URL
and headers come from the head alone. But whether the section is a request at all is decided by its
whole text: it is a changeset if it announces a multipart body anywhere.

So the payload of a request may be replaced by any text without a delimiter that does not name the
type `multipart/mixed`, and nothing but the body of this request is read otherwise. A payload that
announces a multipart body takes the request away (`Batch.payload_replaced`): in its place there is
an error or a changeset, or the whole batch is refused.
-/

namespace ODataService.Batch

open Text

/-! ## Delimiters -/

/-- A marker is written in one line as its boundary is. -/
theorem delimiter_one_line {boundary : List Char} {c : Char} (hc : c ≠ '-') (h : c ∉ boundary) :
    c ∉ delimiter boundary := by
  simp [delimiter, hc, h]

/-- No delimiter reaches from the lines of a head into the payload. -/
theorem beginsIn_linesText {marker : List Char} (hm : marker ≠ []) (hline : '\n' ∉ marker)
    (lines : List (List Char)) (x y : List Char) :
    beginsIn marker (linesText lines) x = beginsIn marker (linesText lines) y := by
  -- the lines end with a line break, and the marker has none
  rcases List.eq_nil_or_concat lines with rfl | ⟨lines, l, rfl⟩
  · rfl
  · have htext : linesText (lines.concat l) = (linesText lines ++ (l ++ ['\r'])) ++ ['\n'] := by
      simp [linesText, lineEnd]
    have hbreak (z : List Char) : beginsIn marker ['\n'] z = false := by
      obtain ⟨m, ms, rfl⟩ := List.exists_cons_of_ne_nil hm
      have hne : (m == '\n') = false := by
        rw [beq_eq_false_iff_ne]
        rintro rfl
        exact hline (.head _)
      simp [beginsIn, List.isPrefixOf, hne]
    -- so what begins in the lines ends in front of the last break
    have hstop (z : List Char) : beginsIn marker (linesText (lines.concat l)) z =
        beginsIn marker (linesText lines ++ (l ++ ['\r'])) [] := by
      rw [htext, beginsIn_append, hbreak, Bool.or_false, List.singleton_append,
        beginsIn_stop hline]
    rw [hstop x, hstop y]

/-- A text in the place of another one leaves the delimiters where they are, if none begins in it
either. -/
theorem apart_replace {marker front t t' behind : List Char} {before after : List (List Char)}
    (h : apart marker front (before ++ t :: after) behind = true)
    (ht : ∀ rest, beginsIn marker (lineEnd ++ t) (marker ++ rest) = false →
      beginsIn marker (lineEnd ++ t') (marker ++ rest) = false) :
    apart marker front (before ++ t' :: after) behind = true := by
  -- in a text in front of the next marker no other begins, whatever is behind that marker
  have hcongr {front : List Char} {ts ts' : List (List Char)}
      (hf : beginsIn marker front (delimited marker ts ++ behind) = false) :
      beginsIn marker front (delimited marker ts' ++ behind) = false := by
    obtain ⟨x, hx⟩ := exists_delimited marker ts behind
    obtain ⟨y, hy⟩ := exists_delimited marker ts' behind
    rw [hx] at hf
    rw [hy, beginsIn_marker_congr marker front y x, hf]
  have hfront {ts : List (List Char)} (hts : apart marker (lineEnd ++ t) ts behind = true) :
      apart marker (lineEnd ++ t') ts behind = true := by
    cases ts with
    | nil =>
      rw [apart, Bool.not_eq_true'] at hts ⊢
      obtain ⟨x, hx⟩ := exists_delimited marker [] behind
      rw [hx] at hts ⊢
      exact ht x hts
    | cons u us =>
      rw [apart, Bool.and_eq_true, Bool.not_eq_true'] at hts ⊢
      refine ⟨?_, hts.2⟩
      obtain ⟨x, hx⟩ := exists_delimited marker (u :: us) behind
      rw [hx] at hts ⊢
      exact ht x hts.1
  -- the induction goes to the text that is replaced, with the text in front of it as `front`
  induction before generalizing front with
  | nil =>
    rw [List.nil_append, apart, Bool.and_eq_true, Bool.not_eq_true'] at h ⊢
    exact ⟨hcongr h.1, hfront h.2⟩
  | cons u us ih =>
    rw [List.cons_append, apart, Bool.and_eq_true, Bool.not_eq_true'] at h ⊢
    exact ⟨hcongr h.1, ih h.2⟩

/-- A payload without a delimiter in it adds none. -/
theorem beginsIn_payload {boundary : List Char} (hr : '\r' ∉ boundary) (hn : '\n' ∉ boundary)
    (h : Head) {payload payload' : List Char}
    (hp : occursIn (delimiter boundary) payload' = false) (rest : List Char)
    (hb : beginsIn (delimiter boundary) (lineEnd ++ h.text payload) rest = false) :
    beginsIn (delimiter boundary) (lineEnd ++ h.text payload') rest = false := by
  have hm := delimiter_ne_nil boundary
  have htext (p : List Char) :
      lineEnd ++ h.text p = linesText ([] :: h.lines) ++ (p ++ lineEnd) := by
    simp [Head.text, linesText]
  have hpayload (x : List Char) :
      beginsIn (delimiter boundary) payload' (lineEnd ++ x) = false := by
    rw [lineEnd, List.cons_append, beginsIn_stop (delimiter_one_line (by decide) hr),
      beginsIn_nil hm, hp]
  have hend (x : List Char) : beginsIn (delimiter boundary) lineEnd x = false :=
    beginsIn_of_notMem boundary (by decide) x
  -- of what is said about the old payload only the part about the head is used
  rw [htext, beginsIn_append, Bool.or_eq_false_iff] at hb
  rw [htext, beginsIn_append, beginsIn_append, hpayload, hend, Bool.or_false, Bool.or_false,
    beginsIn_linesText hm (delimiter_one_line (by decide) hn) _ _ _]
  exact hb.1

/-! ## Announcements -/

/-- Whether a text names the type of multipart bodies, in any case. -/
def namesMultipart : List Char → Bool
  | [] => false
  | c :: cs => (behindWord? "multipart/mixed".toList (c :: cs)).isSome || namesMultipart cs

/-- What follows a word ends the text. -/
theorem isSuffix_of_behindWord? {word text rest : List Char}
    (h : behindWord? word text = some rest) : rest <:+ text := by
  -- each letter of the word takes a character of the text
  induction word generalizing text with
  | nil =>
    obtain rfl : text = rest := by simpa [behindWord?] using h
    exact List.suffix_refl text
  | cons w ws ih =>
    cases text with
    | nil => simp [behindWord?] at h
    | cons c cs =>
      rw [behindWord?] at h
      split at h
      · exact (ih h).trans (List.suffix_cons c cs)
      · simp at h

/-- A word is read in front of a character that is in no word, or not at all. -/
theorem behindWord?_stop {word : List Char} {b : Char}
    (hword : word.any (isLetter · b) = false) {front behind rest : List Char}
    (h : behindWord? word (front ++ b :: behind) = some rest) :
    ∃ more, behindWord? word front = some more ∧ rest = more ++ b :: behind := by
  -- letter by letter: the word ends before the character that is none of its letters
  induction word generalizing front with
  | nil =>
    obtain rfl : front ++ b :: behind = rest := by simpa [behindWord?] using h
    exact ⟨front, rfl, rfl⟩
  | cons w ws ih =>
    rw [List.any_cons, Bool.or_eq_false_iff] at hword
    cases front with
    | nil => simp [behindWord?, hword.1] at h
    | cons c cs =>
      rw [List.cons_append, behindWord?] at h
      split at h
      · next hc =>
        obtain ⟨more, hmore, hrest⟩ := ih hword.2 h
        exact ⟨more, by rw [behindWord?, if_pos hc, hmore], hrest⟩
      · simp at h

/-- Blanks in front of a text that has others are the same with more behind it. -/
theorem trimLeft_append {cs : List Char} (h : trimLeft cs ≠ []) (rest : List Char) :
    trimLeft (cs ++ rest) = trimLeft cs ++ rest := by
  have hsome : (cs.dropWhile isBlank).isEmpty = false := by
    rw [List.isEmpty_eq_false_iff]
    exact h
  rw [trimLeft, List.dropWhile_append, hsome]
  rfl

/-- A text names the type when some end of it starts with it. -/
theorem namesMultipart_of_suffix {text behind : List Char} (hsuffix : behind <:+ text)
    (h : (behindWord? "multipart/mixed".toList behind).isSome = true) :
    namesMultipart text = true := by
  induction text with
  | nil =>
    obtain rfl := List.suffix_nil.1 hsuffix
    simp [behindWord?] at h
  | cons c cs ih =>
    rw [namesMultipart, Bool.or_eq_true]
    rcases List.suffix_cons_iff.1 hsuffix with rfl | hsuffix
    · exact .inl h
    · exact .inr (ih hsuffix)

/-- What announces a multipart body says its type behind that. -/
theorem announcesHere_eq_true {cs : List Char} (h : announcesHere cs = true) :
    ∃ type, behindWord? "content-type:".toList cs = some type ∧
      (behindWord? "multipart/mixed".toList (trimLeft type)).isSome = true := by
  unfold announcesHere at h
  split at h
  · simp at h
  · next type htype => exact ⟨type, htype, h⟩

/-- A text announces a changeset when the type stands behind the name of the header. -/
theorem announcesHere_of_behindWord? {cs type : List Char}
    (htype : behindWord? "content-type:".toList cs = some type)
    (h : (behindWord? "multipart/mixed".toList (trimLeft type)).isSome = true) :
    announcesHere cs = true := by
  rw [announcesHere, htype]
  exact h

/-- An announcement stays one with more behind it. -/
theorem announcesMultipart_append {cs : List Char} (h : announcesMultipart cs = true)
    (rest : List Char) : announcesMultipart (cs ++ rest) = true := by
  induction cs with
  | nil => simp [announcesMultipart] at h
  | cons c cs ih =>
    rw [announcesMultipart, Bool.or_eq_true] at h
    rw [List.cons_append, announcesMultipart, Bool.or_eq_true]
    refine h.imp (fun hhere => ?_) ih
    obtain ⟨type, htype, hkind⟩ := announcesHere_eq_true hhere
    obtain ⟨behind, hbehind⟩ := Option.isSome_iff_exists.1 hkind
    -- the type is named behind the blanks, so they end in front of what is appended
    have hne : trimLeft type ≠ [] := by
      intro hnil
      rw [hnil] at hkind
      simp [behindWord?] at hkind
    refine announcesHere_of_behindWord? (behindWord?_append htype rest) ?_
    rw [trimLeft_append hne, behindWord?_append hbehind]
    rfl

/-- A text that announces a changeset names its type. -/
theorem namesMultipart_of_announces {cs : List Char} (h : announcesMultipart cs = true) :
    namesMultipart cs = true := by
  induction cs with
  | nil => simp [announcesMultipart] at h
  | cons c cs ih =>
    rw [announcesMultipart, Bool.or_eq_true] at h
    rcases h with hhere | hlater
    · obtain ⟨type, htype, hkind⟩ := announcesHere_eq_true hhere
      have hsuffix : trimLeft type <:+ c :: cs :=
        (List.dropWhile_suffix isBlank).trans (isSuffix_of_behindWord? htype)
      exact namesMultipart_of_suffix hsuffix hkind
    · rw [namesMultipart, ih hlater, Bool.or_true]

/-- What is announced over a line break is announced in front of it, or its type is named behind
it. -/
theorem announcesMultipart_line {front behind : List Char}
    (h : announcesMultipart (front ++ '\n' :: behind) = true) :
    announcesMultipart front = true ∨ namesMultipart behind = true := by
  -- both words are read within a line, and only the blanks between them may go on to the next
  have hcontent : "content-type:".toList.any (isLetter · '\n') = false := by decide
  have hmixed : "multipart/mixed".toList.any (isLetter · '\n') = false := by decide
  have hhere (front : List Char) (h : announcesHere (front ++ '\n' :: behind) = true) :
      announcesHere front = true ∨ namesMultipart behind = true := by
    obtain ⟨type, htype, hkind⟩ := announcesHere_eq_true h
    obtain ⟨more, hmore, rfl⟩ := behindWord?_stop hcontent htype
    by_cases hblank : trimLeft more = []
    · -- only blanks are left of the line, and the type is looked for behind it
      right
      have htrim : trimLeft (more ++ '\n' :: behind) = trimLeft behind := by
        have hmore : ∀ c ∈ more, isBlank c = true := List.dropWhile_eq_nil_iff.1 hblank
        rw [trimLeft, List.dropWhile_append_of_pos hmore, List.dropWhile_cons_of_pos (by decide)]
        rfl
      rw [htrim] at hkind
      exact namesMultipart_of_suffix (List.dropWhile_suffix isBlank) hkind
    · left
      obtain ⟨rest, hrest⟩ := Option.isSome_iff_exists.1 hkind
      rw [trimLeft_append hblank] at hrest
      obtain ⟨rest', hrest', -⟩ := behindWord?_stop hmixed hrest
      refine announcesHere_of_behindWord? hmore ?_
      rw [hrest']
      rfl
  -- by the place where the announcement starts: in the first line or behind it
  induction front with
  | nil =>
    right
    rw [List.nil_append, announcesMultipart, Bool.or_eq_true] at h
    rcases h with h | h
    · exact (hhere [] h).resolve_left (by decide)
    · exact namesMultipart_of_announces h
  | cons c cs ih =>
    rw [List.cons_append, announcesMultipart, Bool.or_eq_true] at h
    rw [announcesMultipart, Bool.or_eq_true, or_assoc]
    rcases h with h | h
    · exact (hhere (c :: cs) h).imp_right .inr
    · exact .inr (ih h)

/-- A line break at the end of a text does not name the type. -/
theorem namesMultipart_lineEnd {cs : List Char} (h : namesMultipart (cs ++ lineEnd) = true) :
    namesMultipart cs = true := by
  have hmixed : "multipart/mixed".toList.any (isLetter · '\r') = false := by decide
  induction cs with
  | nil => exact absurd h (by decide)
  | cons c cs ih =>
    rw [List.cons_append, namesMultipart, Bool.or_eq_true] at h
    rw [namesMultipart, Bool.or_eq_true]
    refine h.imp (fun hhere => ?_) ih
    obtain ⟨rest, hrest⟩ : ∃ rest, behindWord? "multipart/mixed".toList
        ((c :: cs) ++ '\r' :: ['\n']) = some rest := Option.isSome_iff_exists.1 hhere
    obtain ⟨more, hmore, -⟩ := behindWord?_stop hmixed hrest
    rw [hmore]
    rfl

/-- A payload that does not name the type of multipart bodies announces none, behind a head that
announces none. -/
theorem announcesMultipart_payload {h : Head} {payload payload' : List Char}
    (hplain : announcesMultipart (h.text payload) = false)
    (hnames : namesMultipart payload' = false) : announcesMultipart (h.text payload') = false := by
  -- the payload starts behind the line break of the empty line
  have hlines : ∃ front, linesText h.lines = front ++ ['\n'] := by
    refine ⟨linesText (h.mime ++ [] :: h.line :: h.headers) ++ ['\r'], ?_⟩
    simp [Head.lines, linesText, lineEnd]
  obtain ⟨front, hfront⟩ := hlines
  have htext (p : List Char) : h.text p = front ++ '\n' :: (p ++ lineEnd) := by
    rw [Head.text, hfront, List.append_assoc]
    rfl
  rw [htext] at hplain ⊢
  rw [Bool.eq_false_iff] at hplain hnames ⊢
  intro hannounces
  rcases announcesMultipart_line hannounces with hhead | hbehind
  · exact hplain (announcesMultipart_append hhead _)
  · exact hnames (namesMultipart_lineEnd hbehind)

/-! ## Bodies around a request -/

/-- A text between two delimiter lines and the part that is read from it. -/
structure Piece where
  text : List Char
  part : Part

/-- In a body with this boundary the part is read from the text. -/
def Piece.IsRead (boundary : List Char) (s : Piece) : Prop :=
  partOf boundary (lineEnd ++ s.text) = .ok s.part ∧ s.text.all isBlank = false

/-- Requests and changesets that can be read again are pieces of the bodies they are written to. -/
theorem isRead_written {boundary : List Char} {p : Written} (h : p.IsReadable) {rest : List Char}
    (hapart : beginsIn (delimiter boundary) (lineEnd ++ p.text) rest = false) :
    Piece.IsRead boundary ⟨p.text, p.part⟩ := by
  refine ⟨?_, isBlank_text p⟩
  cases p with
  | request r => exact partOf_request boundary h
  | changeset own rs => exact partOf_changeset h (boundary_ne_of_beginsIn hapart)

/-- The texts between the delimiters of a body, with one of them given by itself. -/
def textsAround (before after : List Piece) (text : List Char) : List (List Char) :=
  before.map Piece.text ++ text :: after.map Piece.text

/-- The parts of a body, with one of them given by itself. -/
def partsAround (before after : List Piece) (part : Part) : List Part :=
  before.map Piece.part ++ part :: after.map Piece.part

/-- The body with these texts between its delimiters. -/
def bodyOf (boundary : String) (texts : List (List Char)) (behind : String) : String :=
  String.ofList (delimited (delimiter boundary.toList) texts ++ behind.toList)

/-- A body is read piece by piece, so what is made of one of them depends on its text alone. -/
theorem parse_around {boundary behind : String} {before after : List Piece} {text : List Char}
    (hothers : ∀ s ∈ before ++ after, s.IsRead boundary.toList) (htext : text.all isBlank = false)
    (hapart : apart (delimiter boundary.toList) [] (textsAround before after text)
      behind.toList = true) (hbehind : behind.toList.all isBlank = true) :
    parse boundary (bodyOf boundary (textsAround before after text) behind) =
      ((partOf boundary.toList (lineEnd ++ text)).map (partsAround before after)).mapError
        Fault.rejection := by
  have htexts : ∀ t ∈ textsAround before after text, t.all isBlank = false := by
    intro t ht
    rcases List.mem_append.1 ht with ht | ht
    · obtain ⟨s, hs, rfl⟩ := List.mem_map.1 ht
      exact (hothers s (List.mem_append_left _ hs)).2
    rcases List.mem_cons.1 ht with rfl | ht
    · exact htext
    · obtain ⟨s, hs, rfl⟩ := List.mem_map.1 ht
      exact (hothers s (List.mem_append_right _ hs)).2
  have hmarker : occursIn (delimiter boundary.toList)
      (delimited (delimiter boundary.toList) (textsAround before after text) ++ behind.toList) =
        true := by
    obtain ⟨rest, hrest⟩ := exists_delimited (delimiter boundary.toList)
      (textsAround before after text) behind.toList
    rw [hrest]
    exact occursIn_append _ [] _
  -- the sections are those of the texts, none of them being blank
  have hsections := sections_delimited hapart hbehind htexts
  rw [List.nil_append] at hsections
  have hread {ps : List Piece} (h : ∀ s ∈ ps, s.IsRead boundary.toList) :
      ((ps.map Piece.text).map (lineEnd ++ ·)).mapM (partOf boundary.toList) =
        .ok (ps.map Piece.part) := by
    rw [List.map_map]
    exact mapM_map_ok fun s hs => (h s hs).1
  -- the sections in front of the given one and behind it are read, so it decides
  have hbefore := hread fun s hs => hothers s (List.mem_append_left after hs)
  have hafter := hread fun s hs => hothers s (List.mem_append_right before hs)
  rw [parse, bodyOf, String.toList_ofList, parts_eq, if_pos hmarker, hsections, textsAround,
    List.map_append, List.map_cons, List.mapM_append, List.mapM_cons, hbefore, hafter]
  cases partOf boundary.toList (lineEnd ++ text) with
  | error f => rfl
  | ok part => rfl

/-- A text that announces nothing is read as its request. -/
theorem partOf_text {boundary : List Char} {h : Head} {method url : String} {payload : List Char}
    (hread : h.IsReadable method url) (hplain : announcesMultipart (h.text payload) = false) :
    partOf boundary (lineEnd ++ h.text payload) =
      .ok (.single (.request (h.request method url payload))) := by
  rw [partOf, announcesMultipart_lineEnd, hplain, hread.operationOf_text]
  rfl

/-- What a payload can do to its part. Let a body be made of texts between delimiters: some that
parts are read from, and between them a request, which is a head that can be read and a payload.
The request is read with the method, the URL and the headers of its head. In the place of the
payload let there be any other text without a delimiter. As long as the section does not announce a
multipart body anywhere, the same request is read with another body, and all other parts are the
same. A payload that does not name the type of such bodies is never enough to announce one. But
where the section announces one, be it by nothing but the payload, no request is read from it any
more: the batch as a whole is refused, or there is an error or a changeset in the place of the
request. -/
theorem payload_replaced {boundary : String} (hr : '\r' ∉ boundary.toList)
    (hn : '\n' ∉ boundary.toList) {before after : List Piece}
    (hothers : ∀ s ∈ before ++ after, s.IsRead boundary.toList) {head : Head} {method url : String}
    (hread : head.IsReadable method url) {payload other behind : String}
    (hplain : announcesMultipart (head.text payload.toList) = false)
    (hapart : apart (delimiter boundary.toList) []
      (textsAround before after (head.text payload.toList)) behind.toList = true)
    (hbehind : behind.toList.all isBlank = true)
    (hother : occursIn (delimiter boundary.toList) other.toList = false) :
    parse boundary (bodyOf boundary (textsAround before after (head.text payload.toList)) behind) =
        .ok (partsAround before after
          (.single (.request (head.request method url payload.toList)))) ∧
      (announcesMultipart (head.text other.toList) = false →
        parse boundary
            (bodyOf boundary (textsAround before after (head.text other.toList)) behind) =
          .ok (partsAround before after
            (.single (.request (head.request method url other.toList))))) ∧
      (namesMultipart other.toList = false →
        announcesMultipart (head.text other.toList) = false) ∧
      (announcesMultipart (head.text other.toList) = true → ∀ ps,
        parse boundary
            (bodyOf boundary (textsAround before after (head.text other.toList)) behind) =
          .ok ps → ∃ part, ps = partsAround before after part ∧
            (part = .single (.unreadable .noOwnBoundary) ∨ ∃ os, part = .changeset os)) := by
  -- the other payload is kept apart from the markers as the first one was
  have hreplaced : apart (delimiter boundary.toList) []
      (textsAround before after (head.text other.toList)) behind.toList = true :=
    apart_replace hapart fun rest => beginsIn_payload hr hn head hother _
  have hparse {p : List Char}
      (hp : apart (delimiter boundary.toList) [] (textsAround before after (head.text p))
        behind.toList = true) :=
    parse_around hothers (hread.isBlank_text p) hp hbehind
  refine ⟨?_, ?_, announcesMultipart_payload hplain, ?_⟩
  · rw [hparse hapart, partOf_text hread hplain]
    rfl
  · intro hkept
    rw [hparse hreplaced, partOf_text hread hkept]
    rfl
  -- the section is taken for a changeset: it has no boundary of its own, or parts are read in it
  · intro hannounces ps hps
    rw [hparse hreplaced, mapError_eq_ok, map_eq_ok] at hps
    obtain ⟨part, hpart, rfl⟩ := hps
    rw [← announcesMultipart_lineEnd] at hannounces
    refine ⟨part, rfl, (partOf_announced hannounces hpart).imp_right ?_⟩
    rintro ⟨-, -, os, -, -, -, hos⟩
    exact ⟨os, hos⟩

/-! ### One request and another one behind it -/

/-- The head of a request that adds a record. -/
def additionHead : Head := requestHead ⟨"POST", "A", [("Accept", "*/*")], ""⟩

def readingRequest : Written := .request ⟨"GET", "A", [], ""⟩

/-- The body of a batch with both requests. -/
def additionBody (payload : String) : String :=
  bodyOf "b" (textsAround [] [⟨readingRequest.text, readingRequest.part⟩]
    (additionHead.text payload.toList)) "\r\n"

/-- The request that reads is read. -/
theorem isRead_readingRequest :
    Piece.IsRead "b".toList ⟨readingRequest.text, readingRequest.part⟩ := by
  have hreadable : readingRequest.IsReadable := by decide +kernel
  have hapart : beginsIn (delimiter "b".toList) (lineEnd ++ readingRequest.text) [] = false := by
    decide +kernel
  exact isRead_written hreadable hapart

/-- A payload that has nothing to do with content types is read as the body of its request. A
payload that looks like a header of a multipart body takes the request away. -/
theorem payload_replaced_header :
    parse "b" (additionBody "\x7b\x7d") =
        .ok [.single (.request ⟨"POST", "A", [("accept", "*/*")], "\x7b\x7d"⟩),
          .single (.request ⟨"GET", "A", [], ""⟩)] ∧
      ∃ part, parse "b" (additionBody "content-type: multipart/mixed") =
          .ok [part, .single (.request ⟨"GET", "A", [], ""⟩)] ∧
        (part = .single (.unreadable .noOwnBoundary) ∨ ∃ os, part = .changeset os) := by
  have hothers : ∀ s ∈ [] ++ [(⟨readingRequest.text, readingRequest.part⟩ : Piece)],
      s.IsRead "b".toList := by
    intro s hs
    obtain rfl := List.mem_singleton.1 hs
    exact isRead_readingRequest
  have hread : additionHead.IsReadable "POST" "A" := isReadable_requestHead (by decide +kernel)
  have hplain : announcesMultipart (additionHead.text "".toList) = false := by decide +kernel
  have hapart : apart (delimiter "b".toList) [] (textsAround []
      [⟨readingRequest.text, readingRequest.part⟩] (additionHead.text "".toList))
      "\r\n".toList = true := by decide +kernel
  -- a body of no members is kept, one that looks like the header is not
  constructor
  · obtain ⟨-, hkept, hnames, -⟩ := payload_replaced (by decide) (by decide) hothers hread hplain
      hapart (by decide) (by decide : occursIn (delimiter "b".toList) "\x7b\x7d".toList = false)
    have hparts : partsAround [] [⟨readingRequest.text, readingRequest.part⟩]
        (.single (.request (additionHead.request "POST" "A" "\x7b\x7d".toList))) =
          [.single (.request ⟨"POST", "A", [("accept", "*/*")], "\x7b\x7d"⟩),
            .single (.request ⟨"GET", "A", [], ""⟩)] := by decide +kernel
    rw [← hparts]
    exact hkept (hnames (by decide))
  · obtain ⟨-, -, -, hlost⟩ := payload_replaced (by decide) (by decide) hothers hread hplain
      hapart (by decide) (by decide +kernel :
        occursIn (delimiter "b".toList) "content-type: multipart/mixed".toList = false)
    have hannounces : announcesMultipart
        (lineEnd ++ additionHead.text "content-type: multipart/mixed".toList) = true := by
      decide +kernel
    have hown : ownBoundary? "b".toList
        (lineEnd ++ additionHead.text "content-type: multipart/mixed".toList) = none := by
      decide +kernel
    have hparsed : parse "b" (additionBody "content-type: multipart/mixed") =
        .ok (partsAround [] [⟨readingRequest.text, readingRequest.part⟩]
          (.single (.unreadable .noOwnBoundary))) := by
      rw [additionBody, parse_around hothers (hread.isBlank_text _) (by decide +kernel)
        (by decide), partOf, if_pos hannounces, hown]
      rfl
    rw [announcesMultipart_lineEnd] at hannounces
    obtain ⟨part, hps, hpart⟩ := hlost hannounces _ hparsed
    refine ⟨part, ?_, hpart⟩
    rw [hparsed, hps]
    rfl

end ODataService.Batch
