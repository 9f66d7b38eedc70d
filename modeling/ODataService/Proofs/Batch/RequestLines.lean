import ODataService.Batch.Execution
import ODataService.Proofs.Batch.RoundTrip

/-!
# The request line of a section

A section of a batch is meant to begin with header lines, which a blank line ends. The first line
behind them that is not blank is the place of the request line. But the request line is looked for
among all lines of the section, from the first one to the last one:

* A request line in its place gives method and URL, whatever is behind it, as long as the headers
  hold none.
* A section without any request line is refused, and nothing is dispatched for it.
* If there is something else in the place of the request line, the first request line behind it is
  taken, although it stands in what is meant as data.

`Batch.parse_readFrom` says so for all operations of a batch, those of changesets included.
-/

namespace ODataService.Batch

open Text

/-! ## The lines of a section -/

/-- The lines in front of the blank line that ends the headers of a section. The first of them is
the rest of the line of the delimiter, which may be blank itself. -/
def headerLines (piece : List Char) : List (List Char) :=
  (lines piece).take 1 ++ (splitHead (lines piece).tail).1

/-- The lines behind the headers of a section, from the first one on that is not blank. -/
def requestLines (piece : List Char) : List (List Char) :=
  (splitHead (lines piece).tail).2.dropWhile isBlankLine

/-- Only a blank line is left out between the head of lines and what is behind it. -/
theorem splitHead_eq (ls : List (List Char)) :
    ∃ blanks, (∀ l ∈ blanks, isBlankLine l = true) ∧
      ls = (splitHead ls).1 ++ (blanks ++ (splitHead ls).2) := by
  induction ls with
  | nil => exact ⟨[], by simp, rfl⟩
  | cons l ls ih =>
    rw [splitHead]
    -- the head ends at the first blank line, which belongs to neither side
    split
    · next hblank =>
      refine ⟨[l], ?_, rfl⟩
      intro l' hl'
      rwa [List.mem_singleton.1 hl']
    · obtain ⟨blanks, hblanks, hls⟩ := ih
      exact ⟨blanks, hblanks, congrArg (l :: ·) hls⟩

/-- Only blank lines stand between the headers of a section and its request. -/
theorem lines_eq (piece : List Char) :
    ∃ blanks, (∀ l ∈ blanks, isBlankLine l = true) ∧
      lines piece = headerLines piece ++ (blanks ++ requestLines piece) := by
  obtain ⟨blanks, hblanks, hls⟩ := splitHead_eq (lines piece).tail
  -- the blank line that ends the headers, and those in front of the request
  refine ⟨blanks ++ (splitHead (lines piece).tail).2.takeWhile isBlankLine, ?_, ?_⟩
  · intro l hl
    rcases List.mem_append.1 hl with hl | hl
    · exact hblanks l hl
    · exact List.mem_takeWhile_imp hl
  · rw [headerLines, requestLines, List.append_assoc, List.append_assoc blanks,
      List.takeWhile_append_dropWhile, ← hls, ← List.drop_one, List.take_append_drop]

/-- If the headers hold no request line, the lines behind them decide. -/
theorem operationOf_requestLines {piece : List Char}
    (h : ∀ l ∈ headerLines piece, requestLine? l = none) :
    operationOf piece = operationOfLines (requestLines piece) := by
  obtain ⟨blanks, hblanks, hls⟩ := lines_eq piece
  have hnone : ∀ l ∈ blanks, requestLine? l = none := fun l hl =>
    requestLine?_of_blank (hblanks l hl)
  rw [operationOf, hls, operationOfLines_append h, operationOfLines_append hnone]

/-- Lines without a request line are no operation. -/
theorem operationOfLines_eq_unreadable {ls : List (List Char)}
    (h : ∀ l ∈ ls, requestLine? l = none) : operationOfLines ls = .unreadable .noRequestLine := by
  have hls := operationOfLines_append h []
  rwa [List.append_nil] at hls

/-! ## Operations -/

/-- Nothing is dispatched for an operation that is refused: the answer blames the client, and it is
the same for all dispatchers and all states, none of which is changed. -/
def Operation.IsRefused (o : Operation) : Prop :=
  ∃ response : Http.Response, response.status = 400 ∧
    ∀ (ω : Type) (dispatch : Dispatcher ω) (base : String) (w : ω),
      (answer dispatch base o).exec w = (.ok response, w)

theorem isRefused_unreadable (cause : Unreadable) : (Operation.unreadable cause).IsRefused :=
  ⟨.ofError (refusal cause.message), rfl, fun _ _ _ _ => rfl⟩

/-- A section that announces no changeset and has no request line among its headers. -/
@[mk_iff]
structure IsPlain (piece : List Char) : Prop where
  single : announcesMultipart piece = false
  headers : ∀ l ∈ headerLines piece, requestLine? l = none

instance (piece : List Char) : Decidable (IsPlain piece) :=
  decidable_of_iff _ (isPlain_iff piece).symm

/-- What the lines of a section make of its operation. -/
structure ReadFrom (piece : List Char) (o : Operation) : Prop where
  /-- A request line in its place gives the request, whatever is behind it. -/
  in_place : IsPlain piece → ∀ {line behind method url}, requestLines piece = line :: behind →
    requestLine? line = some (method, url) → o = .request (requestOf method url behind)
  /-- Without a request line in its place and behind it there is no request. -/
  refused : IsPlain piece → (∀ l ∈ requestLines piece, requestLine? l = none) →
    o = .unreadable .noRequestLine ∧ o.IsRefused
  /-- A request line behind something else gives the request, if it is the first one. -/
  behind : IsPlain piece → ∀ {other between line behind method url},
    requestLines piece = other :: (between ++ line :: behind) → requestLine? other = none →
    (∀ l ∈ between, requestLine? l = none) → requestLine? line = some (method, url) →
    o = .request (requestOf method url behind)
  /-- The first of all request lines gives the request, be it among the headers. -/
  first : announcesMultipart piece = false → ∀ {front line behind method url},
    lines piece = front ++ line :: behind → (∀ l ∈ front, requestLine? l = none) →
    requestLine? line = some (method, url) → o = .request (requestOf method url behind)
  /-- A section that announces a changeset is refused if it gives no boundary for it. -/
  announced : announcesMultipart piece = true → o = .unreadable .noOwnBoundary ∧ o.IsRefused

/-- The operation of a section that is no changeset is read from its lines. -/
theorem readFrom_operationOf {piece : List Char} (h : announcesMultipart piece = false) :
    ReadFrom piece (operationOf piece) where
  in_place hplain _ _ _ _ hlines hline := by
    rw [operationOf_requestLines hplain.headers, hlines, operationOfLines, hline]
  refused hplain hnone := by
    rw [operationOf_requestLines hplain.headers, operationOfLines_eq_unreadable hnone]
    exact ⟨rfl, isRefused_unreadable _⟩
  behind hplain {other between _ behind _ _} hlines hother hbetween hline := by
    -- the line in the place of the request line is one of those that are tried in vain
    have hfront : ∀ l ∈ other :: between, requestLine? l = none := by
      rw [List.forall_mem_cons]
      exact ⟨hother, hbetween⟩
    rw [operationOf_requestLines hplain.headers, hlines, ← List.cons_append]
    exact operationOfLines_first hfront hline behind
  first _ {_ _ behind _ _} hlines hfront hline := by
    rw [operationOf, hlines]
    exact operationOfLines_first hfront hline behind
  announced hannounced := by
    rw [h] at hannounced
    exact absurd hannounced Bool.false_ne_true

/-- What announces a changeset is read as no request at all. -/
theorem readFrom_announced {piece : List Char} (h : announcesMultipart piece = true) :
    ReadFrom piece (.unreadable .noOwnBoundary) := by
  -- the section is no plain one, so only the last case applies
  have hsingle : announcesMultipart piece ≠ false := by
    rw [h]
    simp
  exact {
    in_place := fun hplain => absurd hplain.single hsingle
    refused := fun hplain => absurd hplain.single hsingle
    behind := fun hplain => absurd hplain.single hsingle
    first := fun hplain => absurd hplain hsingle
    announced := fun _ => ⟨rfl, isRefused_unreadable _⟩ }

/-! ## Batches -/

/-- What a section makes of its part: an operation is read from its lines, and the operations of a
changeset are read from the lines of the sections in it. -/
inductive PartReadFrom (boundary piece : List Char) : Part → Prop where
  | single {o : Operation} (h : ReadFrom piece o) : PartReadFrom boundary piece (.single o)
  | changeset {own : List Char} {os : List Operation} (hannounces : announcesMultipart piece = true)
      (hown : ownBoundary? boundary piece = some own)
      (h : List.Forall₂ ReadFrom (sections own piece) os) :
      PartReadFrom boundary piece (.changeset os)

/-- A plain section is read as one operation. -/
theorem PartReadFrom.exists_single {boundary piece : List Char} {p : Part}
    (h : PartReadFrom boundary piece p) (hplain : IsPlain piece) :
    ∃ o, p = .single o ∧ ReadFrom piece o := by
  cases h with
  | single h => exact ⟨_, rfl, h⟩
  | changeset hannounces => simp [hplain.single] at hannounces

/-- The parts of a body are made of its sections, one by one. -/
theorem forall₂_of_parts {boundary body : List Char} {ps : List Part}
    (h : parts boundary body = .ok ps) :
    List.Forall₂ (fun piece p => partOf boundary piece = .ok p) (sections boundary body) ps := by
  rw [parts_eq] at h
  split at h
  · exact mapM_eq_ok.1 h
  · simp at h

/-- A section that is read as one operation is read from its lines. -/
theorem readFrom_of_single {boundary piece : List Char} {o : Operation}
    (h : partOf boundary piece = .ok (.single o)) : ReadFrom piece o := by
  -- it announces no changeset, or one without a boundary
  cases hannounces : announcesMultipart piece with
  | false =>
    rw [partOf, hannounces] at h
    obtain rfl : operationOf piece = o := Part.single.inj (Except.ok.inj h)
    exact readFrom_operationOf hannounces
  | true =>
    rcases partOf_announced hannounces h with hp | ⟨_, _, _, -, -, -, hp⟩
    · obtain rfl := Part.single.inj hp
      exact readFrom_announced hannounces
    · simp at hp

/-- A section is read from its lines, or as a changeset part by part. -/
theorem partReadFrom_of_partOf {boundary piece : List Char} {p : Part}
    (h : partOf boundary piece = .ok p) : PartReadFrom boundary piece p := by
  cases p with
  | single o => exact .single (readFrom_of_single h)
  | changeset os =>
    have hannounces : announcesMultipart piece = true := by
      cases hannounces : announcesMultipart piece with
      | true => rfl
      | false =>
        rw [partOf, hannounces] at h
        exact absurd (Except.ok.inj h) (by simp)
    rcases partOf_announced hannounces h with hp | ⟨own, ps, os', hown, hps, hos, hp⟩
    · simp at hp
    · -- a changeset has no changesets in it, so all of its parts are operations
      obtain rfl := Part.changeset.inj hp
      obtain rfl := operationsOf_eq_ok hos
      have hinner := forall₂_of_parts hps
      rw [List.forall₂_map_right_iff] at hinner
      exact .changeset hannounces hown (hinner.imp fun _ _ => readFrom_of_single)

/-- Which line gives the request of an operation. A body is read if its boundary occurs in it and no
section announces a changeset. Whenever a body is read, each operation of it is read from the lines
of its section, in the body itself or in a changeset: a request line in its place gives the method
and the URL, a section without a request line is answered with 400 and dispatches nothing. But where
the line in that place is no request line, any line behind it that is one gives the request, so that
an operation which stands in the data of another one is dispatched. -/
theorem parse_readFrom (boundary body : String) :
    (occursIn (delimiter boundary.toList) body.toList = true →
      (∀ piece ∈ sections boundary.toList body.toList, announcesMultipart piece = false) →
      ∃ ps, parse boundary body = .ok ps) ∧
    ∀ ps, parse boundary body = .ok ps →
      List.Forall₂ (PartReadFrom boundary.toList) (sections boundary.toList body.toList) ps := by
  constructor
  -- without changesets every section is read
  · intro hmarker hsingle
    have hparts : ∀ piece ∈ sections boundary.toList body.toList,
        partOf boundary.toList piece = .ok (.single (operationOf piece)) := by
      intro piece hpiece
      rw [partOf, hsingle piece hpiece]
      rfl
    refine ⟨(sections boundary.toList body.toList).map fun piece => .single (operationOf piece), ?_⟩
    rw [parse, parts_eq, if_pos hmarker, mapM_ok hparts]
    rfl
  · intro ps hps
    rw [parse, mapError_eq_ok] at hps
    exact (forall₂_of_parts hps).imp fun _ _ => partReadFrom_of_partOf

/-! ### Data behind a request line and behind other lines -/

/-- The lines of a request with another one in its data. -/
def readingLines : List (List Char) :=
  ["A: 1".toList, [], [], "GET A HTTP/1.1".toList, [], "PUT B HTTP/1.1".toList]

/-- The lines of a section without a request. -/
def fetchingLines : List (List Char) := ["A: 1".toList, [], "FETCH A HTTP/1.1".toList, []]

/-- The lines of a section without a request, but with one in its data. -/
def deletingLines : List (List Char) := fetchingLines ++ ["DELETE A('1') HTTP/1.1".toList]

/-- A batch of these sections. -/
def fetchingBody : String :=
  String.ofList (delimited (delimiter "b".toList)
    ([readingLines, fetchingLines, deletingLines].map linesText))

/-- The data of the first section does not matter, nothing is dispatched for the second one, and
what is in the data of the third one is. -/
theorem parse_readFrom_fetch :
    ∃ o, o.IsRefused ∧ parse "b" fetchingBody =
      .ok [.single (.request ⟨"GET", "A", [], "PUT B HTTP/1.1"⟩), .single o,
        .single (.request ⟨"DELETE", "A('1')", [], ""⟩)] := by
  have hbody : fetchingBody.toList = delimited (delimiter "b".toList)
      ([readingLines, fetchingLines, deletingLines].map linesText) := String.toList_ofList
  have hmarker : occursIn (delimiter "b".toList) fetchingBody.toList = true := by
    rw [hbody]
    decide +kernel
  have hsections : sections "b".toList fetchingBody.toList =
      [lineEnd ++ linesText readingLines, lineEnd ++ linesText fetchingLines,
        lineEnd ++ linesText deletingLines] := by
    rw [hbody]
    decide +kernel
  have hreading : IsPlain (lineEnd ++ linesText readingLines) := by decide +kernel
  have hfetching : IsPlain (lineEnd ++ linesText fetchingLines) := by decide +kernel
  have hdeleting : IsPlain (lineEnd ++ linesText deletingLines) := by decide +kernel
  obtain ⟨hread, hparts⟩ := parse_readFrom "b" fetchingBody
  obtain ⟨ps, hps⟩ := hread hmarker (by
    rw [hsections]
    simp [hreading.single, hfetching.single, hdeleting.single])
  have hall := hparts ps hps
  rw [hsections] at hall
  -- three sections, so three parts, each read as an operation
  obtain ⟨p, ps₁, hp, hbehind, rfl⟩ := List.forall₂_cons_left_iff.1 hall
  obtain ⟨q, ps₂, hq, hlast, rfl⟩ := List.forall₂_cons_left_iff.1 hbehind
  obtain ⟨r, ps₃, hr, hnone, rfl⟩ := List.forall₂_cons_left_iff.1 hlast
  obtain rfl := List.forall₂_nil_left_iff.1 hnone
  obtain ⟨first, rfl, hfirst⟩ := hp.exists_single hreading
  obtain ⟨second, rfl, hsecond⟩ := hq.exists_single hfetching
  obtain ⟨third, rfl, hthird⟩ := hr.exists_single hdeleting
  -- the first has its request line in place, the third one behind
  have hget : first = .request ⟨"GET", "A", [], "PUT B HTTP/1.1"⟩ := by
    have hlines : requestLines (lineEnd ++ linesText readingLines) =
        "GET A HTTP/1.1".toList :: [[], "PUT B HTTP/1.1".toList, []] := by decide +kernel
    have hline : requestLine? "GET A HTTP/1.1".toList = some ("GET", "A") := by decide +kernel
    rw [hfirst.in_place hreading hlines hline]
    decide +kernel
  have hdelete : third = .request ⟨"DELETE", "A('1')", [], ""⟩ := by
    have hlines : requestLines (lineEnd ++ linesText deletingLines) =
        "FETCH A HTTP/1.1".toList :: ([[]] ++ "DELETE A('1') HTTP/1.1".toList :: [[]]) := by
      decide +kernel
    have hline : requestLine? "DELETE A('1') HTTP/1.1".toList = some ("DELETE", "A('1')") := by
      decide +kernel
    rw [hthird.behind hdeleting hlines (by decide +kernel) (by decide +kernel) hline]
    decide +kernel
  refine ⟨second, (hsecond.refused hfetching (by decide +kernel)).2, ?_⟩
  rw [hps, hget, hdelete]

end ODataService.Batch
