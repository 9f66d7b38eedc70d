import ODataService.Action
import ODataService.Batch.Envelope
import ODataService.Proofs.Batch.Payload

/-!
# Reading the answer to a batch

The answer to a batch is cut at its delimiters again. This gives an empty piece, one piece for each
response, in order, and the two hyphens that close the answer; and each response is what is left of
its piece without the head of the part and the line break behind (`Batch.pieces_render`). A response
may hold anything but a delimiter: empty lines, hyphens and the start of a delimiter do no harm, since
a delimiter has no line break in it and one stands on either side of the response.
-/

namespace ODataService.Batch

open Text

/-- A response as it stands behind the line of its delimiter. -/
def responseText (response : String) : List Char :=
  partHead.toList ++ (response.toList ++ lineEnd)

/-- The response in a piece between two delimiters: the rest of the delimiter's line and the head of
a part are left out in front of it, and the line break behind it. -/
def responseIn? (piece : List Char) : Option String :=
  ((piece.dropPrefix? (lineEnd ++ partHead.toList)).bind (·.dropSuffix? lineEnd)).map String.ofList

/-- A response is found in the text that is written around it. -/
theorem responseIn?_responseText (response : String) :
    responseIn? (lineEnd ++ responseText response) = some response := by
  -- the head in front of it, and the line break behind
  have hhead : (lineEnd ++ responseText response).dropPrefix? (lineEnd ++ partHead.toList) =
      some (response.toList ++ lineEnd) := by
    rw [responseText, ← List.append_assoc]
    exact List.dropPrefix?_append_of_beq _ (beq_self_eq_true _)
  have hend : (response.toList ++ lineEnd).dropSuffix? lineEnd = some response.toList :=
    List.dropSuffix?_eq_some_iff.2 ⟨lineEnd, rfl, beq_self_eq_true _⟩
  rw [responseIn?, hhead, Option.bind_some, hend, Option.map_some, String.ofList_toList]

/-- A part is the marker and the text of its response. -/
theorem toList_renderPart (boundary response : String) :
    (renderPart boundary response).toList =
      delimiter boundary.toList ++ (lineEnd ++ responseText response) := by
  have hdashes : "--".toList = ['-', '-'] := by decide
  have hend : "\r\n".toList = lineEnd := by decide
  simp [renderPart, responseText, delimiter, toString, hdashes, hend]

/-- The answer consists of the responses between its delimiters. -/
theorem toList_render (boundary : String) (responses : List String) :
    (render boundary responses).toList =
      delimited (delimiter boundary.toList) (responses.map responseText) := by
  have hdashes : "--".toList = ['-', '-'] := by decide
  -- part by part, and the closing marker behind them
  have hparts : (responses.map (renderPart boundary)).flatMap String.toList =
      (responses.map responseText).flatMap
        fun t => delimiter boundary.toList ++ (lineEnd ++ t) := by
    rw [List.flatMap_map, List.flatMap_map]
    exact congrArg (List.flatMap · responses) (funext (toList_renderPart boundary))
  have hclose : (s!"--{boundary}--").toList = delimiter boundary.toList ++ ['-', '-'] := by
    simp [delimiter, toString, hdashes]
  rw [render, String.toList_append, String.toList_join, hparts, hclose, delimited]

section delimiter

variable {boundary : List Char} (hr : '\r' ∉ boundary)

/-- No delimiter begins in the head of a part. -/
theorem beginsIn_partHead (boundary rest : List Char) :
    beginsIn (delimiter boundary) partHead.toList rest = false := by
  -- the head ends with a line break, and no two hyphens stand side by side in front of it
  have hhead : partHead.toList = partHead.toList.dropLast ++ ['\n'] := by decide
  have hdashes : beginsIn ['-', '-'] partHead.toList rest = false := by
    rw [hhead, beginsIn_append, List.singleton_append, beginsIn_stop (by decide),
      Bool.or_eq_false_iff]
    exact ⟨by decide, rfl⟩
  exact beginsIn_extend boundary hdashes

include hr in
/-- No delimiter begins in a response with a line break behind it, unless it occurs there. -/
theorem beginsIn_responseText {response : String}
    (h : ¬ delimiter boundary <:+: response.toList) (rest : List Char) :
    beginsIn (delimiter boundary) (lineEnd ++ responseText response) rest = false := by
  -- in the response no marker begins: it would lie in it, as it goes on over no line break
  have hresponse (rest : List Char) :
      beginsIn (delimiter boundary) response.toList (lineEnd ++ rest) = false := by
    rw [lineEnd, List.cons_append, beginsIn_stop (delimiter_one_line (by decide) hr),
      beginsIn_nil (delimiter_ne_nil boundary), Bool.eq_false_iff]
    exact fun hoccurs => h (occursIn_iff.1 hoccurs)
  have hend (rest : List Char) : beginsIn (delimiter boundary) lineEnd rest = false :=
    beginsIn_of_notMem boundary (by decide) rest
  rw [responseText, beginsIn_append, beginsIn_append, beginsIn_append, hend, hend,
    beginsIn_partHead, hresponse]
  rfl

include hr in
/-- The parts of a batch response are kept apart by the marker. -/
theorem apart_responses {responses : List String}
    (h : ∀ r ∈ responses, ¬ delimiter boundary <:+: r.toList) {front : List Char}
    (hfront : ∀ rest, beginsIn (delimiter boundary) front rest = false) :
    apart (delimiter boundary) front (responses.map responseText) [] = true := by
  induction responses generalizing front with
  | nil => rw [List.map_nil, apart, hfront, Bool.not_false]
  | cons r rs ih =>
    rw [List.forall_mem_cons] at h
    rw [List.map_cons, apart, hfront, ih h.2 (beginsIn_responseText hr h.1)]
    rfl

/-- The hyphens behind the last delimiter start no other one. -/
theorem splitOnMarker_dashes (hne : boundary ≠ []) :
    splitOnMarker (delimiter boundary) ['-', '-'] = [['-', '-']] := by
  obtain ⟨b, bs, rfl⟩ := List.exists_cons_of_ne_nil hne
  rfl

end delimiter

/-- The answer to a batch is cut at its delimiters into an empty piece, a piece for each response, in
order, and the two hyphens at the end. The response is read from its piece again, whatever there is
in it, as long as this is no delimiter. -/
theorem pieces_render {id : String} (hid : '\r' ∉ id.toList) {responses : List String}
    (h : ∀ r ∈ responses, ¬ delimiter (responseBoundary id).toList <:+: r.toList) :
    ∃ pieces,
      splitOnMarker (delimiter (responseBoundary id).toList)
        (render (responseBoundary id) responses).toList = [] :: (pieces ++ [['-', '-']]) ∧
      pieces.map responseIn? = responses.map some := by
  have hboundary : (responseBoundary id).toList = "batchresponse_".toList ++ id.toList := by
    simp [responseBoundary, toString]
  -- the boundary is written in one line
  have hr : '\r' ∉ (responseBoundary id).toList := by
    rw [hboundary, List.mem_append, not_or]
    exact ⟨by decide, hid⟩
  have hne : (responseBoundary id).toList ≠ [] := by
    rw [hboundary]
    exact List.append_ne_nil_of_left_ne_nil (by decide) _
  have hfront (rest : List Char) :
      beginsIn (delimiter (responseBoundary id).toList) [] rest = false := rfl
  have hsplit := splitOnMarker_delimited (apart_responses hr h hfront)
  refine ⟨(responses.map responseText).map (lineEnd ++ ·), ?_, ?_⟩
  -- nothing stands in front of the first marker, and two dashes behind the last
  · rw [toList_render]
    rw [List.nil_append, List.append_nil, splitOnMarker_dashes hne] at hsplit
    exact hsplit
  · rw [List.map_map, List.map_map]
    exact List.map_congr_left fun r _ => responseIn?_responseText r

/-- Responses with empty lines, hyphens and the start of a delimiter. -/
def dashedResponses : List String :=
  ["HTTP/1.1 200 OK\r\n\r\n--\r\n", "--batchresponse_", "", "\r\n\r\n"]

/-- Responses with dashes in them are told apart. -/
theorem pieces_render_dashed :
    ('\r' ∉ (World.idText 1).toList ∧ ∀ r ∈ dashedResponses,
        ¬ delimiter (responseBoundary (World.idText 1)).toList <:+: r.toList) ∧
      ∃ pieces,
        splitOnMarker (delimiter (responseBoundary (World.idText 1)).toList)
          (render (responseBoundary (World.idText 1)) dashedResponses).toList =
            [] :: (pieces ++ [['-', '-']]) ∧
        pieces.map responseIn? = dashedResponses.map some := by
  have hid : '\r' ∉ (World.idText 1).toList := by decide +kernel
  have hresponses : ∀ r ∈ dashedResponses,
      ¬ delimiter (responseBoundary (World.idText 1)).toList <:+: r.toList := by decide +kernel
  exact ⟨⟨hid, hresponses⟩, pieces_render hid hresponses⟩

end ODataService.Batch
