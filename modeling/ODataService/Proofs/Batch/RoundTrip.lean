import Mathlib.Data.List.TakeDrop
import Mathlib.Data.List.TakeWhile
import ODataService.Proofs.Assoc
import ODataService.Proofs.Batch.Writing
import ODataService.Proofs.Bind

/-!
# Reading what was written

`Batch.parse` reads the body that `Batch.write` gives for readable parts as these parts, with the
names of headers in lower case. The proof goes from the inside to the outside: a request line, the
headers, a request, the sections between delimiters, a changeset, the batch.

Main result: `Batch.parse_written`.
-/

namespace ODataService.Batch

open Text

/-! ## Request lines -/

/-- No method begins with another one. -/
theorem eq_of_isPrefixOf_method {method method' : String} (h : method ∈ partMethods)
    (h' : method' ∈ partMethods) {rest : List Char}
    (hp : method'.toList.isPrefixOf (method.toList ++ ' ' :: rest) = true) : method' = method := by
  have hmethods : ∀ m ∈ partMethods, ∀ m' ∈ partMethods,
      m'.toList.isPrefixOf m.toList = true → m' = m := by decide
  -- of two prefixes of one line one is a prefix of the other
  rcases List.prefix_or_prefix_of_prefix (List.isPrefixOf_iff_prefix.1 hp)
    (List.prefix_append _ _) with hle | hle
  · exact hmethods method h method' h' (List.isPrefixOf_iff_prefix.2 hle)
  · exact (hmethods method' h' method h (List.isPrefixOf_iff_prefix.2 hle)).symm

/-- The last word behind a blank. -/
theorem cutLastWord_append {front word : List Char} (h : word.any isBlank = false) :
    cutLastWord (front ++ ' ' :: word) = (trimRight (front ++ [' ']), word) := by
  have hword : ∀ c ∈ word.reverse, (!isBlank c) = true := by simpa using h
  have hblank : (!isBlank ' ') = false := by decide
  have hspan : (front ++ ' ' :: word).reverse = word.reverse ++ ' ' :: front.reverse := by simp
  -- from behind, the word is what comes up to the first blank
  rw [cutLastWord, hspan, List.span_eq_takeWhile_dropWhile, List.takeWhile_append_of_pos hword,
    List.dropWhile_append_of_pos hword, List.takeWhile_cons_of_neg (by simp [hblank]),
    List.dropWhile_cons_of_neg (by simp [hblank])]
  simp

/-- The URL is what stands in front of the version. -/
theorem urlPart_version {url : List Char} (hs : StartsSolid url) (he : EndsSolid url) :
    urlPart (url ++ " HTTP/1.1".toList) = url := by
  have hversion : " HTTP/1.1".toList = ' ' :: "HTTP/1.1".toList := by decide
  have hne : url.isEmpty = false := by
    obtain ⟨c, cs, rfl, -⟩ := hs
    rfl
  -- the last word is the version, and what is left is not empty
  rw [urlPart, hversion, cutLastWord_append (by decide), trimRight_append_blanks he (by decide)]
  simp only [hne]
  rfl

/-- Every method starts with a letter. -/
theorem startsSolid_of_mem_partMethods {method : String} (h : method ∈ partMethods) :
    StartsSolid method.toList := by
  simp only [partMethods, List.mem_cons, List.not_mem_nil, or_false] at h
  rcases h with rfl | rfl | rfl | rfl | rfl <;> exact ⟨_, _, rfl, by decide⟩

/-- A request line is read as its method and its URL. -/
theorem requestLine?_requestLineText {r : PartRequest} (h : r.IsReadable) :
    requestLine? (requestLineText r) = some (r.method, r.url) := by
  have hne : r.url.toList ≠ [] := fun h0 => h.url_ne (String.toList_eq_nil_iff.1 h0)
  have hs := startsSolid_of_trim h.url_trimmed hne
  have he := endsSolid_of_trim h.url_trimmed hne
  have htrim : trim (requestLineText r) = requestLineText r := by
    refine trim_eq ((startsSolid_of_mem_partMethods h.method).append _) ?_
    have hversion : EndsSolid " HTTP/1.1".toList := ⟨" HTTP/1.".toList, '1', by decide, by decide⟩
    exact ((hversion.append _).cons ' ').append _
  have hurl : urlAfter? (requestLineText r) r.method = some (r.method, r.url) := by
    have hprefix : r.method.toList.isPrefixOf (requestLineText r) = true :=
      List.isPrefixOf_iff_prefix.2 (List.prefix_append _ _)
    have hblank : isBlank ' ' = true := by decide
    have hleft : trimLeft (r.url.toList ++ " HTTP/1.1".toList) =
        r.url.toList ++ " HTTP/1.1".toList := by
      obtain ⟨c, cs, hc, hsolid⟩ := hs.append " HTTP/1.1".toList
      rw [hc, trimLeft, List.dropWhile_cons_of_neg (by simp [hsolid])]
    rw [urlAfter?, if_pos hprefix, requestLineText, List.drop_left]
    simp only [hblank, if_true, hleft, urlPart_version hs he, String.ofList_toList]
  rw [requestLine?, htrim]
  -- the methods are tried in turn, and only this one stands in front of the line
  cases hfound : partMethods.findSome? (urlAfter? (requestLineText r)) with
  | none =>
    rw [List.findSome?_eq_none_iff] at hfound
    simp [hfound _ h.method] at hurl
  | some found =>
    obtain ⟨m, hm, hfirst⟩ := List.exists_of_findSome?_eq_some hfound
    have hmethod : m = r.method := by
      unfold urlAfter? at hfirst
      split at hfirst
      · next hp => exact eq_of_isPrefixOf_method h.method hm hp
      · simp at hfirst
    rw [← hfirst, hmethod, hurl]

/-- A blank line is no request line. -/
theorem requestLine?_of_blank {line : List Char} (h : isBlankLine line = true) :
    requestLine? line = none := by
  have htrim : trim line = [] := by
    rw [trim, trimLeft, List.dropWhile_eq_nil_iff.2 (List.all_eq_true.1 h)]
    rfl
  rw [requestLine?, htrim]
  decide

/-! ## Headers -/

/-- A header with a new name is added at the end. -/
theorem addHeader_headerText {headers : Assoc String} {h : String × String}
    (hh : IsReadableHeader h) (hnew : Text.lower h.1 ∉ Assoc.keys headers) :
    addHeader headers (headerText h) = headers ++ [(Text.lower h.1, h.2)] := by
  have hvalue : trim (' ' :: h.2.toList) = h.2.toList := hh.value_trimmed
  rw [addHeader, headerText, cut_append hh.name_colon]
  simp only [hh.name_trimmed, hvalue, String.ofList_toList]
  exact Assoc.set_eq_append hnew _

/-- Headers with different names are all added, in their order. -/
theorem foldl_addHeader {hs : List (String × String)} (hh : ∀ h ∈ hs, IsReadableHeader h)
    (headers : Assoc String)
    (hnew : (Assoc.keys headers ++ hs.map fun h => Text.lower h.1).Nodup) :
    (hs.map headerText).foldl addHeader headers =
      headers ++ hs.map fun h => (Text.lower h.1, h.2) := by
  induction hs generalizing headers with
  | nil => simp
  | cons h hs ih =>
    -- the name is none of those that were added before it
    have hkey : Text.lower h.1 ∉ Assoc.keys headers := fun hmem =>
      (List.nodup_append.1 hnew).2.2 _ hmem _ List.mem_cons_self rfl
    rw [List.map_cons, List.foldl_cons, addHeader_headerText (hh h List.mem_cons_self) hkey,
      ih (fun h' hh' => hh h' (List.mem_cons_of_mem h hh'))]
    · simp
    · simpa [Assoc.keys] using hnew

/-! ## Lines of a request -/

/-- Lines that are written with their ends are cut at them. -/
theorem lines_linesText {ls : List (List Char)} (h : ∀ l ∈ ls, '\n' ∉ l) (rest : List Char) :
    lines (linesText ls ++ rest) = ls ++ lines rest := by
  induction ls with
  | nil => rfl
  | cons l ls ih =>
    have hline : linesText (l :: ls) ++ rest = l ++ '\r' :: '\n' :: (linesText ls ++ rest) := by
      simp [linesText, lineEnd]
    rw [hline, lines_append (h l List.mem_cons_self),
      ih (fun l' hl' => h l' (List.mem_cons_of_mem l hl'))]
    rfl

/-- A request line is one line. -/
theorem newline_notMem_requestLineText {r : PartRequest} (h : r.IsReadable) :
    '\n' ∉ requestLineText r := by
  have hmethods : ∀ m ∈ partMethods, '\n' ∉ m.toList := by decide
  simp only [requestLineText, List.mem_append, List.mem_cons, not_or]
  exact ⟨hmethods _ h.method, by decide, h.url_line, by decide⟩

/-- A header is one line. -/
theorem newline_notMem_headerText {h : String × String} (hh : IsReadableHeader h) :
    '\n' ∉ headerText h := by
  simp only [headerText, List.mem_append, List.mem_cons, not_or]
  exact ⟨hh.name_line, by decide, by decide, hh.value_line⟩

/-- No header is a blank line, for it starts with its name. -/
theorem isBlankLine_headerText {h : String × String} (hh : IsReadableHeader h) :
    isBlankLine (headerText h) = false := by
  have hne : h.1.toList ≠ [] := fun h0 => hh.name_ne (String.toList_eq_nil_iff.1 h0)
  obtain ⟨c, cs, hc, hsolid⟩ := startsSolid_of_trim hh.name_trimmed hne
  simp [isBlankLine, headerText, hc, hsolid]

/-- The head of lines ends at the first empty line. -/
theorem splitHead_append {head : List (List Char)} (h : ∀ l ∈ head, isBlankLine l = false)
    (body : List (List Char)) : splitHead (head ++ [] :: body) = (head, body) := by
  -- no line of the head is blank, so the first blank one is behind it
  induction head with
  | nil => rfl
  | cons l head ih =>
    rw [List.cons_append, splitHead, h l List.mem_cons_self,
      ih fun l' hl' => h l' (List.mem_cons_of_mem l hl')]
    rfl

/-- The white space around a body is trimmed, and the lines of the body keep their ends. -/
theorem trim_body {r : PartRequest} (h : r.IsReadable) :
    trim (joinLines (lines (r.body.toList ++ lineEnd))) = r.body.toList := by
  have hjoin : joinLines (lines (r.body.toList ++ lineEnd)) = r.body.toList ++ lineEnd :=
    intercalate_lines (breaksWithCrlf_append h.body_breaks (by decide))
  rw [hjoin]
  -- an empty body leaves nothing but white space
  by_cases hne : r.body.toList = []
  · rw [hne]
    decide
  · have hs := startsSolid_of_trim h.body_trimmed hne
    have he := endsSolid_of_trim h.body_trimmed hne
    obtain ⟨c, cs, hc, hsolid⟩ := hs.append lineEnd
    have hleft : trimLeft (r.body.toList ++ lineEnd) = r.body.toList ++ lineEnd := by
      rw [hc, trimLeft, List.dropWhile_cons_of_neg (by simp [hsolid])]
    rw [trim, hleft, trimRight_append_blanks he (by decide)]

/-- Lines in front of the request line are left out. -/
theorem operationOfLines_append {ls : List (List Char)} (h : ∀ l ∈ ls, requestLine? l = none)
    (rest : List (List Char)) : operationOfLines (ls ++ rest) = operationOfLines rest := by
  induction ls with
  | nil => rfl
  | cons l ls ih =>
    rw [List.cons_append, operationOfLines, h l List.mem_cons_self]
    exact ih fun l' hl' => h l' (List.mem_cons_of_mem l hl')

/-- The first request line gives the request. -/
theorem operationOfLines_first {front : List (List Char)}
    (hfront : ∀ l ∈ front, requestLine? l = none) {line : List Char} {method url : String}
    (hline : requestLine? line = some (method, url)) (behind : List (List Char)) :
    operationOfLines (front ++ line :: behind) = .request (requestOf method url behind) := by
  rw [operationOfLines_append hfront, operationOfLines, hline]

/-! ## Requests -/

/-- What stands in front of the payload of a request, line by line. -/
structure Head where
  /-- The lines in front of the empty line that the request line follows. -/
  mime : List (List Char)
  line : List Char
  headers : List (List Char)

namespace Head

/-- All lines of a head. The last one is empty. -/
def lines (h : Head) : List (List Char) := h.mime ++ [] :: h.line :: (h.headers ++ [[]])

/-- The text of a request between two delimiter lines. -/
def text (h : Head) (payload : List Char) : List Char := linesText h.lines ++ (payload ++ lineEnd)

/-- The head of a request with this method and URL. -/
@[mk_iff]
structure IsReadable (h : Head) (method url : String) : Prop where
  one_line : ∀ l ∈ h.lines, '\n' ∉ l
  mime : ∀ l ∈ h.mime, requestLine? l = none
  line : requestLine? h.line = some (method, url)
  headers : ∀ l ∈ h.headers, isBlankLine l = false

instance (h : Head) (method url : String) : Decidable (h.IsReadable method url) :=
  decidable_of_iff _ (isReadable_iff h method url).symm

/-- The request with this payload. Nothing of it but the body depends on the payload. -/
def request (h : Head) (method url : String) (payload : List Char) : PartRequest where
  method := method
  url := url
  headers := h.headers.foldl addHeader []
  body := String.ofList (trim (joinLines (Text.lines (payload ++ lineEnd))))

variable {h : Head} {method url : String}

/-- A request is read from its head and its payload. -/
theorem IsReadable.operationOf_text (hread : h.IsReadable method url) (payload : List Char) :
    operationOf (lineEnd ++ h.text payload) = .request (h.request method url payload) := by
  have htext : lineEnd ++ h.text payload = linesText ([] :: h.lines) ++ (payload ++ lineEnd) := by
    simp [text, linesText]
  have hlines : ∀ l ∈ [] :: h.lines, '\n' ∉ l := by
    rw [List.forall_mem_cons]
    exact ⟨List.not_mem_nil, hread.one_line⟩
  -- the lines that are tried before the request line are those of the head and two empty ones
  have hfront : ∀ l ∈ [] :: (h.mime ++ [[]]), requestLine? l = none := by
    have hempty : requestLine? [] = none := by decide
    intro l hl
    rcases List.mem_cons.1 hl with rfl | hl
    · exact hempty
    rcases List.mem_append.1 hl with hl | hl
    · exact hread.mime l hl
    · obtain rfl := List.mem_singleton.1 hl
      exact hempty
  have hsplit : ([] :: h.lines) ++ Text.lines (payload ++ lineEnd) =
      ([] :: (h.mime ++ [[]])) ++ h.line ::
        (h.headers ++ [] :: Text.lines (payload ++ lineEnd)) := by
    simp [lines]
  rw [operationOf, htext, lines_linesText hlines, hsplit, operationOfLines_first hfront hread.line]
  simp only [requestOf, splitHead_append hread.headers]
  rfl

/-- A request is not blank: its request line is not. -/
theorem IsReadable.isBlank_text (hread : h.IsReadable method url) (payload : List Char) :
    (h.text payload).all isBlank = false := by
  cases hblank : (h.text payload).all isBlank with
  | false => rfl
  | true =>
    -- the request line would be blank, and such a line is none
    have hline : isBlankLine h.line = true := by
      rw [isBlankLine, List.all_eq_true]
      intro c hc
      refine List.all_eq_true.1 hblank c ?_
      simp [text, lines, linesText, hc]
    have hnone := requestLine?_of_blank hline
    simp [hread.line] at hnone

end Head

/-- The head of a request. -/
def requestHead (r : PartRequest) : Head where
  mime := ["Content-Type: application/http".toList, "Content-Transfer-Encoding: binary".toList]
  line := requestLineText r
  headers := r.headers.map headerText

/-- The text of a request is its head and its body. -/
theorem requestText_eq (r : PartRequest) :
    requestText r = (requestHead r).text r.body.toList := by
  simp [requestText, Head.text, Head.lines, requestHead, mimeLines]

/-- The head of a readable request is readable. -/
theorem isReadable_requestHead {r : PartRequest} (h : r.IsReadable) :
    (requestHead r).IsReadable r.method r.url where
  one_line := by
    have hmime : ∀ l ∈ mimeLines, '\n' ∉ l := by decide
    have hlines : (requestHead r).lines =
        mimeLines ++ requestLineText r :: (r.headers.map headerText ++ [[]]) := rfl
    intro l hl
    simp only [hlines, List.mem_cons, List.mem_append, List.mem_map, List.not_mem_nil,
      or_false] at hl
    rcases hl with hl | rfl | ⟨hd, hhd, rfl⟩ | rfl
    · exact hmime l hl
    · exact newline_notMem_requestLineText h
    · exact newline_notMem_headerText (h.headers hd hhd)
    · exact List.not_mem_nil
  mime := by
    have hmime : ∀ l ∈ mimeLines, requestLine? l = none := by decide
    exact fun l hl => hmime l (List.mem_append_left [[]] hl)
  line := requestLine?_requestLineText h
  headers := by
    rw [requestHead, List.forall_mem_map]
    exact fun hd hhd => isBlankLine_headerText (h.headers hd hhd)

/-- A request is read behind its delimiter. -/
theorem operationOf_requestText {r : PartRequest} (h : r.IsReadable) :
    operationOf (lineEnd ++ requestText r) = .request r.lowered := by
  -- the headers are read into an empty map, so only their names must differ
  have hheaders : (r.headers.map headerText).foldl addHeader [] =
      r.headers.map fun h => (Text.lower h.1, h.2) :=
    foldl_addHeader h.headers [] (by simpa [Assoc.keys] using h.distinct)
  rw [requestText_eq, (isReadable_requestHead h).operationOf_text, Head.request, requestHead,
    hheaders, trim_body h, String.ofList_toList]
  rfl

/-! ## Sections -/

theorem delimiter_ne_nil (boundary : List Char) : delimiter boundary ≠ [] := by simp [delimiter]

/-- The delimited texts start with a marker. -/
theorem exists_delimited (marker : List Char) (texts : List (List Char)) (behind : List Char) :
    ∃ rest, delimited marker texts ++ behind = marker ++ rest := by
  cases texts with
  | nil => exact ⟨['-', '-'] ++ behind, by simp [delimited]⟩
  | cons t ts => exact ⟨lineEnd ++ (t ++ (delimited marker ts ++ behind)), by simp [delimited]⟩

/-- Where no hyphen stands no delimiter begins. -/
theorem beginsIn_of_notMem (boundary : List Char) {text : List Char} (h : '-' ∉ text)
    (rest : List Char) : beginsIn (delimiter boundary) text rest = false := by
  induction text with
  | nil => rfl
  | cons c cs ih =>
    simp only [List.mem_cons, not_or] at h
    have hc : ('-' == c) = false := beq_eq_false_iff_ne.2 h.1
    rw [beginsIn, ih h.2]
    simp [delimiter, List.isPrefixOf, hc]

/-- White space holds no hyphen. -/
theorem dash_notMem_blanks {blanks : List Char} (h : blanks.all isBlank = true) :
    '-' ∉ blanks := fun hmem => by
  have hdash : isBlank '-' = false := by decide
  have hblank := List.all_eq_true.1 h _ hmem
  simp [hdash] at hblank

/-- What stands behind the last marker is left out. -/
theorem isSkipped_behind (boundary : List Char) {behind : List Char}
    (h : behind.all isBlank = true) :
    ∀ s ∈ splitOnMarker (delimiter boundary) ('-' :: '-' :: behind), isSkipped s = true := by
  by_cases hp : (delimiter boundary).isPrefixOf ('-' :: '-' :: behind) = true
  · -- the blanks start with the boundary, so that the hyphens make one more marker
    obtain ⟨rest, hrest⟩ := List.isPrefixOf_iff_prefix.1 hp
    obtain rfl : boundary ++ rest = behind := by simpa [delimiter] using hrest
    rw [List.all_append, Bool.and_eq_true] at h
    have hsplit : splitOnMarker (delimiter boundary) ('-' :: '-' :: (boundary ++ rest)) =
        [[], rest] := by
      have hfirst := @splitOnMarker_append _ [] rest (delimiter_ne_nil boundary) rfl
      rw [splitOnMarker_eq_singleton
        (beginsIn_of_notMem boundary (dash_notMem_blanks h.2) [])] at hfirst
      exact hfirst
    rw [hsplit]
    intro s hs
    simp only [List.mem_cons, List.not_mem_nil, or_false] at hs
    rcases hs with rfl | rfl
    · rfl
    · rw [isSkipped, h.2, Bool.true_or]
  · have hdash := dash_notMem_blanks h
    have hnone : beginsIn (delimiter boundary) ('-' :: '-' :: behind) [] = false := by
      have hsecond : (delimiter boundary).isPrefixOf ('-' :: behind) = false := by
        cases behind with
        | nil => rfl
        | cons b bs =>
          have hb : ('-' == b) = false :=
            beq_eq_false_iff_ne.2 fun heq => hdash (heq ▸ List.mem_cons_self)
          simp [delimiter, List.isPrefixOf, hb]
      simp only [beginsIn, List.append_nil, Bool.eq_false_iff.2 hp, hsecond,
        beginsIn_of_notMem boundary hdash, Bool.or_self]
    rw [splitOnMarker_eq_singleton hnone]
    simp [isSkipped]

/-- The sections of delimited texts are these texts. -/
theorem splitOnMarker_delimited {boundary front behind : List Char} {texts : List (List Char)}
    (h : apart (delimiter boundary) front texts behind = true) :
    splitOnMarker (delimiter boundary) (front ++ (delimited (delimiter boundary) texts ++ behind)) =
      front :: (texts.map (lineEnd ++ ·) ++
        splitOnMarker (delimiter boundary) ('-' :: '-' :: behind)) := by
  -- every text is cut off at the delimiter behind it
  induction texts generalizing front with
  | nil =>
    simp only [apart, Bool.not_eq_true'] at h
    have htext : delimited (delimiter boundary) [] ++ behind =
        delimiter boundary ++ ('-' :: '-' :: behind) := by
      simp [delimited]
    rw [htext] at h ⊢
    rw [splitOnMarker_append (delimiter_ne_nil boundary) h]
    rfl
  | cons t ts ih =>
    simp only [apart, Bool.and_eq_true, Bool.not_eq_true'] at h
    have htext : delimited (delimiter boundary) (t :: ts) ++ behind =
        delimiter boundary ++
          ((lineEnd ++ t) ++ (delimited (delimiter boundary) ts ++ behind)) := by
      simp [delimited]
    rw [htext] at h ⊢
    rw [splitOnMarker_append (delimiter_ne_nil boundary) h.1, ih h.2]
    rfl

/-- The sections of a body are the texts that were written between its delimiters. -/
theorem sections_delimited {boundary front behind : List Char} {texts : List (List Char)}
    (h : apart (delimiter boundary) front texts behind = true)
    (hbehind : behind.all isBlank = true) (htexts : ∀ t ∈ texts, t.all isBlank = false) :
    sections boundary (front ++ (delimited (delimiter boundary) texts ++ behind)) =
      texts.map (lineEnd ++ ·) := by
  -- the texts are kept, since none of them is blank
  have hkept : (texts.map (lineEnd ++ ·)).filter (!isSkipped ·) = texts.map (lineEnd ++ ·) := by
    rw [List.filter_eq_self]
    intro s hs
    obtain ⟨t, ht, rfl⟩ := List.mem_map.1 hs
    have hdashes : ['-', '-'].isPrefixOf (lineEnd ++ t) = false := rfl
    simp only [isSkipped, List.all_append, htexts t ht, hdashes, Bool.and_false, Bool.or_self,
      Bool.not_false]
  -- of the closing delimiter nothing is kept
  have hleft : (splitOnMarker (delimiter boundary) ('-' :: '-' :: behind)).filter
      (!isSkipped ·) = [] := by
    rw [List.filter_eq_nil_iff]
    intro s hs
    simp [isSkipped_behind boundary hbehind s hs]
  rw [sections, splitOnMarker_delimited h, List.tail_cons, List.filter_append, hkept, hleft,
    List.append_nil]

/-! ## Parts -/

/-- The part in a section of a body with the given boundary. -/
def partOf (boundary section' : List Char) : Except Fault Part :=
  if announcesMultipart section' then
    match ownBoundary? boundary section' with
    | none => .ok (.single (.unreadable .noOwnBoundary))
    | some own => do
      let inner ← parts own section'
      let operations ← operationsOf inner
      return .changeset operations
  else .ok (.single (operationOf section'))

/-- The parts of a body are those of its sections, if it has the delimiter at all. -/
theorem parts_eq (boundary body : List Char) :
    parts boundary body =
      if occursIn (delimiter boundary) body then (sections boundary body).mapM (partOf boundary)
      else .error (.missingBoundary (String.ofList boundary)) := by
  rw [parts]
  split
  · rw [List.mapM_subtype (g := partOf boundary) fun _ _ => rfl, List.unattach_attach]
  · rfl

/-- What announces a changeset is one, or it is refused for want of a boundary. -/
theorem partOf_announced {boundary piece : List Char} {part : Part}
    (h : announcesMultipart piece = true) (hpart : partOf boundary piece = .ok part) :
    part = .single (.unreadable .noOwnBoundary) ∨
      ∃ own ps os, ownBoundary? boundary piece = some own ∧ parts own piece = .ok ps ∧
        operationsOf ps = .ok os ∧ part = .changeset os := by
  rw [partOf, if_pos h] at hpart
  split at hpart
  · exact .inl (Except.ok.inj hpart).symm
  -- its own sections are read, and all of them must be requests
  · next own hown =>
    obtain ⟨ps, hps, hrest⟩ := bind_eq_ok.1 hpart
    obtain ⟨os, hos, hok⟩ := bind_eq_ok.1 hrest
    exact .inr ⟨own, ps, os, hown, hps, hos, (Except.ok.inj hok).symm⟩

/-- A marker occurs where it stands. -/
theorem occursIn_append (marker front rest : List Char) :
    occursIn marker (front ++ (marker ++ rest)) = true := by
  induction front with
  | nil =>
    cases marker with
    | nil => cases rest <;> simp [occursIn]
    | cons m ms => simp [occursIn]
  | cons c cs ih => simp [occursIn, ih]

/-- The parts of a body are those in the texts between its delimiters. -/
theorem parts_delimited {α : Type} {boundary front behind : List Char} {as : List α}
    {text : α → List Char} {part : α → Part}
    (h : apart (delimiter boundary) front (as.map text) behind = true)
    (hbehind : behind.all isBlank = true) (htexts : ∀ a ∈ as, (text a).all isBlank = false)
    (hparts : ∀ a ∈ as, partOf boundary (lineEnd ++ text a) = .ok (part a)) :
    parts boundary (front ++ (delimited (delimiter boundary) (as.map text) ++ behind)) =
      .ok (as.map part) := by
  -- even without texts the closing delimiter occurs
  have hmarker : occursIn (delimiter boundary)
      (front ++ (delimited (delimiter boundary) (as.map text) ++ behind)) = true := by
    obtain ⟨rest, hrest⟩ := exists_delimited (delimiter boundary) (as.map text) behind
    rw [hrest]
    exact occursIn_append _ _ _
  rw [parts_eq, if_pos hmarker, sections_delimited h hbehind (by simpa using htexts), List.map_map]
  exact mapM_map_ok hparts

/-! ## Changesets -/

/-- A word in front of a text stays in front when the text goes on. -/
theorem behindWord?_append {word text rest : List Char} (h : behindWord? word text = some rest)
    (behind : List Char) : behindWord? word (text ++ behind) = some (rest ++ behind) := by
  -- the word is compared letter by letter
  induction word generalizing text with
  | nil =>
    obtain rfl : text = rest := by simpa [behindWord?] using h
    rfl
  | cons w ws ih =>
    cases text with
    | nil => simp [behindWord?] at h
    | cons c cs =>
      rw [behindWord?] at h
      rw [List.cons_append, behindWord?]
      split at h
      · next hc => rw [if_pos hc, ih h]
      · simp at h

/-- A boundary is found behind a text without its first letter. -/
theorem boundary?_append {front : List Char} (h : front.any (isLetter 'b') = false)
    (cs : List Char) : boundary? (front ++ cs) = boundary? cs := by
  have hword : "boundary=".toList = 'b' :: "oundary=".toList := by decide
  induction front with
  | nil => rfl
  | cons c front ih =>
    rw [List.any_cons, Bool.or_eq_false_iff] at h
    -- a character that is no `b` starts no such parameter
    have hhere : boundaryHere? (c :: (front ++ cs)) = none := by
      rw [boundaryHere?, hword, behindWord?, h.1]
      rfl
    rw [List.cons_append, boundary?, hhere, ih h.2]
    rfl

/-- A boundary ends where its line does. -/
theorem boundaryHere?_line {boundary : List Char} (hne : boundary ≠ [])
    (h : ∀ c ∈ boundary, isBoundaryChar c = true) (rest : List Char) :
    boundaryHere? ("boundary=".toList ++ (boundary ++ '\r' :: rest)) = some boundary := by
  have hword : behindWord? "boundary=".toList ("boundary=".toList ++ (boundary ++ '\r' :: rest)) =
      some (boundary ++ '\r' :: rest) :=
    behindWord?_append (by decide : behindWord? "boundary=".toList "boundary=".toList = some []) _
  have hquote : behindQuote (boundary ++ '\r' :: rest) = boundary ++ '\r' :: rest := by
    obtain ⟨c, cs, rfl⟩ := List.exists_cons_of_ne_nil hne
    have hc := h c List.mem_cons_self
    simp only [isBoundaryChar, Bool.and_eq_true, Bool.not_eq_true'] at hc
    rw [List.cons_append, behindQuote, hc.1.1.1]
    rfl
  -- the end of the line is no character of a boundary
  have hend : isBoundaryChar '\r' = false := by decide
  have htake : (boundary ++ '\r' :: rest).takeWhile isBoundaryChar = boundary := by
    rw [List.takeWhile_append_of_pos h, List.takeWhile_cons_of_neg (by simp [hend]),
      List.append_nil]
  rw [boundaryHere?, hword]
  simp only [hquote, htake]

/-- The end of a line in front announces nothing. -/
theorem announcesMultipart_lineEnd (text : List Char) :
    announcesMultipart (lineEnd ++ text) = announcesMultipart text := by
  have hword : "content-type:".toList = 'c' :: "ontent-type:".toList := by decide
  have hhere {c : Char} (hc : isLetter 'c' c = false) (cs : List Char) :
      announcesHere (c :: cs) = false := by
    rw [announcesHere, hword, behindWord?, hc]
    rfl
  rw [lineEnd, List.cons_append, List.cons_append, List.nil_append, announcesMultipart,
    announcesMultipart, hhere (by decide), hhere (by decide), Bool.false_or, Bool.false_or]

/-- The head of a changeset in front of its boundary, and behind. -/
theorem changesetHead_eq (boundary : String) (rest : List Char) :
    changesetHead boundary ++ rest =
      "Content-Type: multipart/mixed; ".toList ++
        ("boundary=".toList ++ (boundary.toList ++ '\r' :: '\n' :: (lineEnd ++ rest))) := by
  have hhead : "Content-Type: multipart/mixed; boundary=".toList =
      "Content-Type: multipart/mixed; ".toList ++ "boundary=".toList := by decide
  rw [changesetHead, hhead]
  simp [linesText, lineEnd]

/-- The head of a changeset announces parts. -/
theorem announcesMultipart_changesetHead (boundary : String) (rest : List Char) :
    announcesMultipart (changesetHead boundary ++ rest) = true := by
  rw [changesetHead_eq]
  generalize "boundary=".toList ++ (boundary.toList ++ '\r' :: '\n' :: (lineEnd ++ rest)) = behind
  have htype : behindWord? "content-type:".toList
      ("Content-Type: multipart/mixed; ".toList ++ behind) =
        some (" multipart/mixed; ".toList ++ behind) :=
    behindWord?_append (by decide) behind
  -- one blank stands between the name and the type
  have htrim : trimLeft (" multipart/mixed; ".toList ++ behind) =
      "multipart/mixed; ".toList ++ behind := by
    have hblank : " multipart/mixed; ".toList = ' ' :: "multipart/mixed; ".toList := by decide
    have hsolid : "multipart/mixed; ".toList = 'm' :: "ultipart/mixed; ".toList := by decide
    rw [hblank, hsolid, List.cons_append, List.cons_append, trimLeft,
      List.dropWhile_cons_of_pos (by decide), List.dropWhile_cons_of_neg (by decide)]
  have hkind : behindWord? "multipart/mixed".toList ("multipart/mixed; ".toList ++ behind) =
      some ("; ".toList ++ behind) :=
    behindWord?_append (by decide) behind
  have hhere : announcesHere ("Content-Type: multipart/mixed; ".toList ++ behind) = true := by
    rw [announcesHere, htype]
    simp only [htrim, hkind, Option.isSome_some]
  have hfirst : "Content-Type: multipart/mixed; ".toList =
      'C' :: "ontent-Type: multipart/mixed; ".toList := by decide
  rw [hfirst, List.cons_append] at hhere ⊢
  rw [announcesMultipart, hhere, Bool.true_or]

/-- The boundary of a changeset is read from its head. -/
theorem boundary?_changesetHead {boundary : String} (hne : boundary ≠ "")
    (h : boundary.toList.all isBoundaryChar = true) (rest : List Char) :
    boundary? (lineEnd ++ (changesetHead boundary ++ rest)) = some boundary.toList := by
  -- no letter in front of the parameter could start it
  have hletters :
      (lineEnd ++ "Content-Type: multipart/mixed; ".toList).any (isLetter 'b') = false := by
    decide
  have hchars : boundary.toList ≠ [] := fun h0 => hne (String.toList_eq_nil_iff.1 h0)
  have hhere := boundaryHere?_line hchars (List.all_eq_true.1 h) ('\n' :: (lineEnd ++ rest))
  have hword : "boundary=".toList = 'b' :: "oundary=".toList := by decide
  rw [changesetHead_eq, ← List.append_assoc, boundary?_append hletters]
  rw [hword, List.cons_append] at hhere ⊢
  rw [boundary?, hhere]
  rfl

/-- A written request is read as that request. -/
theorem partOf_request (boundary : List Char) {r : PartRequest} (h : r.IsReadable) :
    partOf boundary (lineEnd ++ requestText r) = .ok (.single (.request r.lowered)) := by
  rw [partOf, announcesMultipart_lineEnd, h.single, operationOf_requestText h]
  rfl

/-- Requests are operations, in their order. -/
theorem operationsOf_singles (os : List Operation) :
    operationsOf (os.map .single) = .ok os := by
  induction os with
  | nil => rfl
  | cons o os ih => rw [List.map_cons, operationsOf, ih]; rfl

/-- The parts of a changeset are its operations. -/
theorem operationsOf_eq_ok {ps : List Part} {os : List Operation} (h : operationsOf ps = .ok os) :
    ps = os.map .single := by
  induction ps generalizing os with
  | nil =>
    obtain rfl : [] = os := Except.ok.inj h
    rfl
  | cons p ps ih =>
    -- a changeset inside of a changeset is refused
    cases p with
    | changeset inner => simp [operationsOf] at h
    | single o =>
      rw [operationsOf] at h
      obtain ⟨os', hos', hos⟩ := bind_eq_ok.1 h
      obtain rfl := Except.ok.inj hos
      rw [ih hos', List.map_cons]

/-- A written request is not blank. -/
theorem isBlank_requestText (r : PartRequest) : (requestText r).all isBlank = false := by
  have hmime : (linesText mimeLines).all isBlank = false := by decide
  have htext : requestText r = linesText mimeLines ++
      (linesText (requestLineText r :: r.headers.map headerText ++ [[]]) ++
        (r.body.toList ++ lineEnd)) := by
    simp [requestText, linesText]
  rw [htext, List.all_append, hmime, Bool.false_and]

/-- No written part is blank. -/
theorem isBlank_text (p : Written) : p.text.all isBlank = false := by
  cases p with
  | request r => exact isBlank_requestText r
  | changeset boundary rs =>
    have hhead : "Content-Type: multipart/mixed; ".toList.all isBlank = false := by decide
    rw [Written.text, changesetHead_eq, List.all_append, hhead, Bool.false_and]

/-- In texts that are apart no delimiter begins. -/
theorem beginsIn_of_apart {marker front behind : List Char} {texts : List (List Char)}
    (h : apart marker front texts behind = true) {t : List Char} (ht : t ∈ texts) :
    ∃ rest, beginsIn marker (lineEnd ++ t) rest = false := by
  induction texts generalizing front with
  | nil => simp at ht
  | cons t' ts ih =>
    simp only [apart, Bool.and_eq_true] at h
    -- what follows the text is the next one, or the closing delimiter
    rcases List.mem_cons.1 ht with rfl | ht
    · cases ts with
      | nil => exact ⟨_, by simpa only [apart, Bool.not_eq_true'] using h.2⟩
      | cons t'' ts =>
        simp only [apart, Bool.and_eq_true, Bool.not_eq_true'] at h
        exact ⟨_, h.2.1⟩
    · exact ih h.2 ht

/-- A marker begins where it stands. -/
theorem beginsIn_marker {marker : List Char} (hm : marker ≠ []) (front text rest : List Char) :
    beginsIn marker (front ++ (marker ++ text)) rest = true := by
  obtain ⟨m, ms, rfl⟩ := List.exists_cons_of_ne_nil hm
  simp [beginsIn_append, beginsIn]

/-- The markers of a changeset begin in its text, and so its boundary is not the one around it. -/
theorem boundary_ne_of_beginsIn {outer rest : List Char} {boundary : String} {rs : List PartRequest}
    (h : beginsIn (delimiter outer) (lineEnd ++ (Written.changeset boundary rs).text) rest =
      false) : boundary.toList ≠ outer := by
  rintro rfl
  obtain ⟨text, htext⟩ := exists_delimited (delimiter boundary.toList) (rs.map requestText) lineEnd
  rw [Written.text, changesetRequests, htext, ← List.append_assoc,
    beginsIn_marker (delimiter_ne_nil _)] at h
  simp at h

/-- A written changeset is read as its requests. -/
theorem partOf_changeset {outer : List Char} {boundary : String} {rs : List PartRequest}
    (h : IsReadableChangeset boundary rs) (hne : boundary.toList ≠ outer) :
    partOf outer (lineEnd ++ (Written.changeset boundary rs).text) =
      .ok (.changeset (rs.map fun r => .request r.lowered)) := by
  have hown : ownBoundary? outer (lineEnd ++ (Written.changeset boundary rs).text) =
      some boundary.toList := by
    rw [ownBoundary?, Written.text, boundary?_changesetHead h.boundary_ne h.boundary_chars]
    simp [hne]
  -- the changeset is a body of its own, between its own delimiters
  have hbody : parts boundary.toList (lineEnd ++ (Written.changeset boundary rs).text) =
      .ok ((rs.map fun r => .request r.lowered).map .single) := by
    rw [Written.text, changesetRequests, ← List.append_assoc, List.map_map]
    exact parts_delimited h.separated (by decide) (fun r _ => isBlank_requestText r)
      fun r hr => partOf_request boundary.toList (h.requests r hr)
  have hhead : announcesMultipart (lineEnd ++ (Written.changeset boundary rs).text) = true := by
    rw [announcesMultipart_lineEnd, Written.text, announcesMultipart_changesetHead]
  simp only [partOf, hhead, hown, hbody, if_true, ok_bind, operationsOf_singles]
  rfl

/-- A batch that is written from readable parts is read as these parts. -/
theorem parse_written {boundary behind : String} {ps : List Written}
    (h : IsReadable boundary ps behind) :
    parse boundary (write boundary ps behind) = .ok (ps.map Written.part) := by
  -- the delimiter does not begin in a changeset, so its own boundary is another one
  have hparts (p : Written) (hp : p ∈ ps) :
      partOf boundary.toList (lineEnd ++ p.text) = .ok p.part := by
    have hreadable := h.readable p hp
    cases p with
    | request r => exact partOf_request boundary.toList hreadable
    | changeset own rs =>
      obtain ⟨rest, hrest⟩ := beginsIn_of_apart h.separated (List.mem_map_of_mem hp)
      exact partOf_changeset hreadable (boundary_ne_of_beginsIn hrest)
  have hall := parts_delimited h.separated h.behind (fun p _ => isBlank_text p) hparts
  rw [parse, write, String.toList_ofList]
  rw [List.nil_append] at hall
  rw [hall]
  rfl

/-- A request, and a changeset whose requests have headers and bodies of their own. -/
theorem parse_written_changeset :
    parse "b" (write "b" [.request ⟨"GET", "A?x=a b", [("Accept", "t")], ""⟩,
        .changeset "c" [⟨"PUT", "A('1')", [("If-Match", "*"), ("X", "")], "\x7b\r\n\x7d"⟩,
          ⟨"DELETE", "A('1')", [], ""⟩]] "\r\n") =
      .ok [.single (.request ⟨"GET", "A?x=a b", [("accept", "t")], ""⟩),
        .changeset [.request ⟨"PUT", "A('1')", [("if-match", "*"), ("x", "")], "\x7b\r\n\x7d"⟩,
          .request ⟨"DELETE", "A('1')", [], ""⟩]] := by
  rw [parse_written (by decide +kernel)]
  decide +kernel

end ODataService.Batch
