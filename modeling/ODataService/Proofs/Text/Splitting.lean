import ODataService.Proofs.Text.Trimming
import ODataService.Text.Split

/-!
# Texts that are put together and split again

Lines, and pieces between markers, come back when nothing inside of them looks like what they are
split at. For a marker this means that none begins in a piece (`Text.beginsIn`), seen with what
stands behind it. A list that is joined with commas has the entries of its parts
(`Text.commaList_joinWith`).
-/

namespace ODataService.Text

/-! ## Pieces in front of a character -/

/-- What stands in front of the first separator is never split. -/
theorem cut_append_of_not_mem {sep : Char} {front : List Char} (h : sep ∉ front)
    (rest : List Char) :
    cut sep (front ++ rest) = (front ++ (cut sep rest).1, (cut sep rest).2) := by
  induction front with
  | nil => rfl
  | cons c front ih =>
    simp only [List.mem_cons, not_or] at h
    rw [List.cons_append, cut, if_neg (Ne.symm h.1), ih h.2, List.cons_append]

/-- A text is cut at the first separator. -/
theorem cut_append {sep : Char} {cs : List Char} (h : sep ∉ cs) (rest : List Char) :
    cut sep (cs ++ sep :: rest) = (cs, some rest) := by
  rw [cut_append_of_not_mem h, cut, if_pos rfl, List.append_nil]

theorem cut_of_not_mem {sep : Char} {cs : List Char} (h : sep ∉ cs) : cut sep cs = (cs, none) := by
  simpa [cut] using cut_append_of_not_mem h []

/-- A text is cut at the first separator. -/
theorem cut_eq_some {sep : Char} {cs front behind : List Char}
    (h : cut sep cs = (front, some behind)) : cs = front ++ sep :: behind ∧ sep ∉ front := by
  -- the separator is in front, or it is cut from what is behind the first character
  induction cs generalizing front with
  | nil => simp [cut] at h
  | cons c cs ih =>
    rw [cut] at h
    split at h
    · next hc =>
      obtain ⟨rfl, hbehind⟩ := Prod.mk.inj h
      rw [hc, Option.some.inj hbehind]
      exact ⟨rfl, List.not_mem_nil⟩
    · next hc =>
      obtain ⟨rfl, hbehind⟩ := Prod.mk.inj h
      obtain ⟨hcs, hfront⟩ := ih (Prod.ext rfl hbehind)
      refine ⟨congrArg (c :: ·) hcs, ?_⟩
      rintro hmem
      rcases List.mem_cons.mp hmem with hsep | hmem
      · exact hc hsep.symm
      · exact hfront hmem

/-- A run of characters ends where a character does not belong to it. -/
theorem dropWhile_append_rest {p : Char → Bool} {cs rest : List Char} (hcs : ∀ c ∈ cs, p c = true)
    (hrest : ∀ c ∈ rest.head?, p c = false) : (cs ++ rest).dropWhile p = rest := by
  rw [List.dropWhile_append_of_pos hcs]
  cases rest with
  | nil => rfl
  | cons c rest => rw [List.dropWhile_cons_of_neg (by simp [hrest c rfl])]

/-- The characters of a kind are taken up to the first one of another kind. -/
theorem takeWhile_append_rest {p : Char → Bool} {cs rest : List Char} (hcs : ∀ c ∈ cs, p c = true)
    (hrest : ∀ c ∈ rest.head?, p c = false) : (cs ++ rest).takeWhile p = cs := by
  rw [List.takeWhile_append_of_pos hcs]
  cases rest with
  | nil => simp
  | cons c rest => rw [List.takeWhile_cons_of_neg (by simp [hrest c rfl]), List.append_nil]

/-! ## Pieces between separators -/

/-- There is at least one piece. -/
theorem splitOn_ne_nil (sep : Char) (cs : List Char) : splitOn sep cs ≠ [] := by
  unfold splitOn
  split
  · simp
  · split
    · simp
    · unfold consHead
      split <;> simp

/-- Characters in front of a text belong to its first piece, if none of them separates. -/
theorem splitOn_append_of_not_mem {sep : Char} {front cs piece : List Char}
    {pieces : List (List Char)} (h : sep ∉ front) (hcs : splitOn sep cs = piece :: pieces) :
    splitOn sep (front ++ cs) = (front ++ piece) :: pieces := by
  induction front with
  | nil => exact hcs
  | cons c front ih =>
    rw [List.mem_cons, not_or] at h
    rw [List.cons_append, splitOn, if_neg (Ne.symm h.1), ih h.2]
    rfl

/-- A text without the separator is one piece. -/
theorem splitOn_of_not_mem {sep : Char} {cs : List Char} (h : sep ∉ cs) :
    splitOn sep cs = [cs] := by
  simpa using splitOn_append_of_not_mem h (show splitOn sep [] = [[]] from rfl)

/-- What stands in front of a separator is split on its own. -/
theorem splitOn_append (sep : Char) (cs ds : List Char) :
    splitOn sep (cs ++ sep :: ds) = splitOn sep cs ++ splitOn sep ds := by
  induction cs with
  | nil =>
    show (if sep = sep then [] :: splitOn sep ds else _) = [] :: splitOn sep ds
    rw [if_pos rfl]
  | cons c cs ih =>
    rw [List.cons_append, splitOn, splitOn, ih]
    split
    · rfl
    · obtain ⟨p, ps, hps⟩ := List.exists_cons_of_ne_nil (splitOn_ne_nil sep cs)
      rw [hps]
      rfl

/-- No separator is left in a piece. -/
theorem not_mem_of_mem_splitOn {sep : Char} {cs piece : List Char}
    (h : piece ∈ splitOn sep cs) : sep ∉ piece := by
  induction cs generalizing piece with
  | nil =>
    rw [List.mem_singleton.mp h]
    exact List.not_mem_nil
  | cons c cs ih =>
    rw [splitOn] at h
    split at h
    · rcases List.mem_cons.mp h with rfl | h
      · exact List.not_mem_nil
      · exact ih h
    · next hc =>
      obtain ⟨p, ps, hps⟩ := List.exists_cons_of_ne_nil (splitOn_ne_nil sep cs)
      rw [hps] at h ih
      rcases List.mem_cons.mp h with rfl | h
      · rw [List.mem_cons, not_or]
        exact ⟨Ne.symm hc, ih (.head _)⟩
      · exact ih (.tail _ h)

/-! ## Lists with commas -/

/-- A comma between two texts separates their entries. -/
theorem commaList_append_comma (a b : String) :
    commaList (a ++ "," ++ b) = commaList a ++ commaList b := by
  have hSplit : (a ++ "," ++ b).toList = a.toList ++ ',' :: b.toList := by
    rw [String.toList_append, String.toList_append, List.append_assoc]
    rfl
  simp only [commaList, hSplit, splitOn_append, List.map_append, List.filter_append]

/-- Blanks in front of a list belong to its first entry, which is trimmed. -/
theorem commaList_blanks_append {blanks : String} (h : isBlankText blanks = true) (s : String) :
    commaList (blanks ++ s) = commaList s := by
  suffices hMap : ∀ bs : List Char, bs.all isBlank = true →
      (splitOn ',' (bs ++ s.toList)).map trim = (splitOn ',' s.toList).map trim by
    rw [commaList, commaList, String.toList_append, hMap _ h]
  intro bs hbs
  induction bs with
  | nil => rfl
  | cons b bs ih =>
    rw [List.all_cons, Bool.and_eq_true] at hbs
    -- the comma itself is not blank
    have hb : b ≠ ',' := by
      rintro rfl
      exact absurd hbs.1 (by decide)
    obtain ⟨p, ps, hps⟩ := List.exists_cons_of_ne_nil (splitOn_ne_nil ',' (bs ++ s.toList))
    have hTrim : trim (b :: p) = trim p := by
      rw [trim, trim, trimLeft, List.dropWhile_cons_of_pos hbs.1, trimLeft]
    rw [List.cons_append, splitOn, if_neg hb, ← ih hbs.2, hps]
    show trim (b :: p) :: ps.map trim = trim p :: ps.map trim
    rw [hTrim]

/-- A joined list has the entries of its parts. -/
theorem commaList_joinWith {blanks : String} (h : isBlankText blanks = true)
    (parts : List String) :
    commaList (joinWith ("," ++ blanks) parts) = parts.flatMap commaList := by
  unfold joinWith
  induction parts with
  | nil => rfl
  | cons part parts ih =>
    cases parts with
    | nil => rw [String.intercalate_singleton, List.flatMap_singleton]
    | cons next parts =>
      rw [String.intercalate_cons_cons, String.append_assoc, String.append_assoc,
        ← String.append_assoc, commaList_append_comma, commaList_blanks_append h, ih]
      rfl

/-- The characters of the parts are in the text. -/
theorem mem_joinWith {sep part : String} {parts : List String} (h : part ∈ parts) {c : Char}
    (hc : c ∈ part.toList) : c ∈ (joinWith sep parts).toList := by
  unfold joinWith
  induction parts with
  | nil => exact absurd h List.not_mem_nil
  | cons first parts ih =>
    cases parts with
    | nil =>
      rw [String.intercalate_singleton, ← List.mem_singleton.mp h]
      exact hc
    | cons next parts =>
      rw [String.intercalate_cons_cons, String.toList_append, String.toList_append]
      rcases List.mem_cons.mp h with rfl | h
      · exact List.mem_append_left _ (List.mem_append_left _ hc)
      · exact List.mem_append_right _ (ih h)

/-- No entry of a list holds a comma. -/
theorem not_comma_of_mem_commaList {s entry : String} (h : entry ∈ commaList s) :
    ',' ∉ entry.toList := by
  simp only [commaList, List.mem_map, List.mem_filter] at h
  obtain ⟨cs, ⟨⟨piece, hPiece, rfl⟩, -⟩, rfl⟩ := h
  rw [String.toList_ofList]
  exact fun hComma => not_mem_of_mem_splitOn hPiece ((trim_sublist piece).subset hComma)

/-- A text without commas that starts and ends without blanks is listed as it stands. -/
theorem commaList_single {s : String} (hs : StartsSolid s.toList) (he : EndsSolid s.toList)
    (hComma : ',' ∉ s.toList) : commaList s = [s] := by
  have hTrim := trim_eq hs he
  obtain ⟨c, ds, hStart, -⟩ := hs
  have hEmpty : s.toList.isEmpty = false := by
    rw [hStart]
    rfl
  -- one piece, and it is trimmed already
  rw [commaList, splitOn_of_not_mem hComma]
  simp [hTrim, hEmpty]

/-! ## Ends that are dropped -/

/-- What is left is the front of the text. -/
theorem dropTrailing_isPrefix (c : Char) (s : String) : (dropTrailing c s).toList <+: s.toList := by
  rw [dropTrailing, String.toList_ofList, ← List.reverse_suffix, List.reverse_reverse]
  exact List.dropWhile_suffix _

/-- A text that ends otherwise stays. -/
theorem dropTrailing_eq {c d : Char} {s : String} {cs : List Char} (hs : s.toList = cs ++ [d])
    (hd : d ≠ c) : dropTrailing c s = s := by
  have hreverse : s.toList.reverse = d :: cs.reverse := by rw [hs, List.reverse_concat]
  rw [dropTrailing, hreverse, List.dropWhile_cons_of_neg (by simpa using hd), ← hreverse,
    List.reverse_reverse, String.ofList_toList]

/-! ## Lines -/

/-- There is at least one line. -/
theorem lines_ne_nil (cs : List Char) : lines cs ≠ [] := by
  unfold lines
  split
  · simp
  · simp
  · split
    · simp
    · unfold consHead
      split <;> simp

/-- A line that ends with CRLF. -/
theorem lines_append {line : List Char} (h : '\n' ∉ line) (rest : List Char) :
    lines (line ++ '\r' :: '\n' :: rest) = line :: lines rest := by
  induction line with
  | nil => rw [List.nil_append, lines]
  | cons c cs ih =>
    simp only [List.mem_cons, not_or] at h
    -- the first break is the one behind the line
    have hbreak : ∀ rest', c = '\r' → cs ++ '\r' :: '\n' :: rest = '\n' :: rest' → False := by
      rintro rest' - heq
      cases cs with
      | nil => simp at heq
      | cons d ds => simp_all
    rw [List.cons_append, lines, if_neg (Ne.symm h.1), ih h.2]
    · rfl
    · exact hbreak

/-- Whether all line breaks of a text are CRLF. -/
def breaksWithCrlf : List Char → Bool
  | [] => true
  | '\r' :: '\n' :: cs => breaksWithCrlf cs
  | c :: cs => c != '\n' && breaksWithCrlf cs

/-- A character that is no line feed breaks no line. -/
theorem breaksWithCrlf_cons {c : Char} (hc : c ≠ '\n') {cs : List Char}
    (h : breaksWithCrlf cs = true) : breaksWithCrlf (c :: cs) = true := by
  unfold breaksWithCrlf
  split
  · rfl
  · next heq =>
    -- a text that starts with LF breaks a line without CR
    obtain ⟨-, rfl⟩ := List.cons_eq_cons.1 heq
    simp [breaksWithCrlf] at h
  · next heq =>
    obtain ⟨rfl, rfl⟩ := List.cons_eq_cons.1 heq
    simp [hc, h]

/-- Texts whose lines end with both characters do so in a row. -/
theorem breaksWithCrlf_append {cs ds : List Char} (hcs : breaksWithCrlf cs = true)
    (hds : breaksWithCrlf ds = true) : breaksWithCrlf (cs ++ ds) = true := by
  fun_induction breaksWithCrlf cs with
  | case1 => exact hds
  | case2 cs ih => exact ih hcs
  | case3 c cs hbreak ih =>
    simp only [Bool.and_eq_true, bne_iff_ne] at hcs
    exact breaksWithCrlf_cons hcs.1 (ih hcs.2)

/-- Joining the lines of a text gives the text back. -/
theorem intercalate_lines {cs : List Char} (h : breaksWithCrlf cs = true) :
    ['\r', '\n'].intercalate (lines cs) = cs := by
  fun_induction breaksWithCrlf cs with
  | case1 => rfl
  | case2 cs ih =>
    obtain ⟨l, ls, hls⟩ := List.exists_cons_of_ne_nil (lines_ne_nil cs)
    rw [lines, hls, List.intercalate_cons_cons, ← hls, ih h]
    rfl
  | case3 c cs hbreak ih =>
    simp only [Bool.and_eq_true, bne_iff_ne] at h
    obtain ⟨l, ls, hls⟩ := List.exists_cons_of_ne_nil (lines_ne_nil cs)
    have hjoin : ['\r', '\n'].intercalate (consHead c (lines cs)) =
        c :: ['\r', '\n'].intercalate (lines cs) := by
      rw [hls]
      cases ls with
      | nil => simp [consHead]
      | cons l' ls => simp [consHead, List.intercalate_cons_cons]
    rw [lines, if_neg h.1, hjoin, ih h.2]
    exact hbreak

/-! ## Markers -/

/-- Whether the marker begins in a text with the given rest behind it. -/
def beginsIn (marker : List Char) : (text rest : List Char) → Bool
  | [], _ => false
  | c :: cs, rest => marker.isPrefixOf (c :: cs ++ rest) || beginsIn marker cs rest

/-- A marker begins in the first part or in the second one. -/
theorem beginsIn_append {marker cs ds rest : List Char} :
    beginsIn marker (cs ++ ds) rest =
      (beginsIn marker cs (ds ++ rest) || beginsIn marker ds rest) := by
  induction cs with
  | nil => simp [beginsIn]
  | cons c cs ih => simp [beginsIn, ih, Bool.or_assoc]

/-- The characters of a marker are passed over. -/
theorem splitOnMarkerFrom_skip (marker front rest : List Char) :
    splitOnMarkerFrom marker front.length (front ++ rest) = splitOnMarkerFrom marker 0 rest := by
  induction front with
  | nil => rfl
  | cons c cs ih => rw [List.cons_append, List.length_cons, splitOnMarkerFrom, ih]

/-- A piece ends at the marker behind it if none begins in it. -/
theorem splitOnMarker_append {marker piece rest : List Char} (hm : marker ≠ [])
    (h : beginsIn marker piece (marker ++ rest) = false) :
    splitOnMarker marker (piece ++ (marker ++ rest)) = piece :: splitOnMarker marker rest := by
  unfold splitOnMarker
  -- no marker begins in the piece, so its characters are passed one by one
  induction piece with
  | nil =>
    obtain ⟨m, ms, rfl⟩ := List.exists_cons_of_ne_nil hm
    have hprefix : (m :: ms).isPrefixOf (m :: (ms ++ rest)) = true := by simp
    rw [List.nil_append, List.cons_append, splitOnMarkerFrom, if_pos hprefix, List.length_cons,
      Nat.add_sub_cancel, splitOnMarkerFrom_skip]
  | cons c cs ih =>
    rw [beginsIn, Bool.or_eq_false_iff, List.cons_append] at h
    rw [List.cons_append, splitOnMarkerFrom, if_neg (Bool.eq_false_iff.1 h.1), ih h.2]
    rfl

/-- A text in which no marker begins is one piece. -/
theorem splitOnMarker_eq_singleton {marker text : List Char}
    (h : beginsIn marker text [] = false) : splitOnMarker marker text = [text] := by
  unfold splitOnMarker
  induction text with
  | nil => simp [splitOnMarkerFrom]
  | cons c cs ih =>
    rw [beginsIn, Bool.or_eq_false_iff, List.append_nil] at h
    rw [splitOnMarkerFrom, if_neg (Bool.eq_false_iff.1 h.1), ih h.2]
    rfl

/-- A longer marker begins at no other places. -/
theorem beginsIn_extend {marker text rest : List Char} (more : List Char)
    (h : beginsIn marker text rest = false) : beginsIn (marker ++ more) text rest = false := by
  induction text with
  | nil => rfl
  | cons c cs ih =>
    rw [beginsIn, Bool.or_eq_false_iff] at h ⊢
    refine ⟨?_, ih h.2⟩
    rw [Bool.eq_false_iff, Ne, List.isPrefixOf_iff_prefix] at h ⊢
    exact fun hbegins => h.1 ((List.prefix_append marker more).trans hbegins)

/-- A text without a character starts what stands in front of this character, if it starts the
whole. -/
theorem prefix_append_cons_iff {c : Char} {marker front rest : List Char} (hc : c ∉ marker) :
    marker <+: front ++ c :: rest ↔ marker <+: front := by
  constructor
  · intro h
    -- the marker either ends within the front or reaches the character
    rcases List.prefix_or_prefix_of_prefix h (List.prefix_append front (c :: rest)) with hle | hle
    · exact hle
    · obtain ⟨more, rfl⟩ := hle
      rw [List.prefix_append_right_inj] at h
      cases more with
      | nil => simp
      | cons d ds =>
        -- what goes on behind the front goes on with the character
        obtain rfl : d = c := (List.cons_prefix_cons.1 h).1
        exact absurd (by simp) hc
  · exact fun h => h.trans (List.prefix_append _ _)

/-- A character that is not in the marker keeps it from reaching further. -/
theorem beginsIn_stop {c : Char} {marker text : List Char} (hc : c ∉ marker) (rest : List Char) :
    beginsIn marker text (c :: rest) = beginsIn marker text [] := by
  induction text with
  | nil => rfl
  | cons d ds ih =>
    rw [beginsIn, beginsIn, ih, List.append_nil, Bool.eq_iff_iff, Bool.or_eq_true, Bool.or_eq_true,
      List.isPrefixOf_iff_prefix, List.isPrefixOf_iff_prefix, prefix_append_cons_iff hc]

/-- Where nothing stands behind a text, a marker begins in it if it occurs. -/
theorem beginsIn_nil {marker : List Char} (hm : marker ≠ []) (text : List Char) :
    beginsIn marker text [] = occursIn marker text := by
  induction text with
  | nil =>
    have hempty : marker.isEmpty = false := by simpa using hm
    rw [beginsIn, occursIn, hempty]
  | cons c cs ih => rw [beginsIn, occursIn, ih, List.append_nil]

/-- A marker occurs when it is part of the text. -/
theorem occursIn_iff {marker text : List Char} :
    occursIn marker text = true ↔ marker <:+: text := by
  induction text with
  | nil => rw [occursIn, List.isEmpty_iff, List.infix_nil]
  | cons c cs ih =>
    rw [occursIn, Bool.or_eq_true, ih, List.isPrefixOf_iff_prefix, List.infix_cons_iff]

/-- What stands behind the next marker does not matter. -/
theorem beginsIn_marker_congr (marker text x y : List Char) :
    beginsIn marker text (marker ++ x) = beginsIn marker text (marker ++ y) := by
  induction text with
  | nil => rfl
  | cons c cs ih =>
    -- the marker that comes behind is long enough to decide
    have hprefix (z : List Char) : marker <+: c :: cs ++ (marker ++ z) ↔
        marker <+: c :: cs ++ marker := by
      rw [← List.append_assoc]
      refine ⟨fun h => ?_, fun h => h.trans (List.prefix_append _ _)⟩
      have hlength : marker.length ≤ (c :: cs ++ marker).length := by
        rw [List.length_append]
        omega
      exact List.prefix_of_prefix_length_le h (List.prefix_append _ _) hlength
    rw [beginsIn, beginsIn, ih, Bool.eq_iff_iff, Bool.or_eq_true, Bool.or_eq_true,
      List.isPrefixOf_iff_prefix, List.isPrefixOf_iff_prefix, hprefix x, hprefix y]

/-- There is at least one piece. -/
theorem splitOnMarkerFrom_ne_nil (marker : List Char) (skip : Nat) (cs : List Char) :
    splitOnMarkerFrom marker skip cs ≠ [] := by
  induction cs generalizing skip with
  | nil => cases skip <;> simp [splitOnMarkerFrom]
  | cons c cs ih =>
    cases skip with
    | succ skip => exact ih skip
    | zero =>
      rw [splitOnMarkerFrom]
      split
      · simp
      · unfold consHead
        split <;> simp

/-- A text starts with its first piece. -/
theorem splitOnMarkerFrom_head_prefix {marker cs piece : List Char} {pieces : List (List Char)}
    (h : splitOnMarkerFrom marker 0 cs = piece :: pieces) : piece <+: cs := by
  induction cs generalizing piece pieces with
  | nil =>
    obtain rfl : [] = piece := (List.cons.inj h).1
    exact List.nil_prefix
  | cons c cs ih =>
    rw [splitOnMarkerFrom] at h
    -- a marker in front leaves an empty piece
    split at h
    · obtain rfl : [] = piece := (List.cons.inj h).1
      exact List.nil_prefix
    · obtain ⟨p, ps, hpieces⟩ := List.exists_cons_of_ne_nil (splitOnMarkerFrom_ne_nil marker 0 cs)
      rw [hpieces] at h
      obtain rfl : c :: p = piece := (List.cons.inj h).1
      exact List.cons_prefix_cons.2 ⟨rfl, ih hpieces⟩

/-- No marker is left in a piece. -/
theorem not_infix_of_mem_splitOnMarkerFrom {marker cs piece : List Char} {skip : Nat}
    (hm : marker ≠ []) (h : piece ∈ splitOnMarkerFrom marker skip cs) : ¬ marker <:+: piece := by
  induction cs generalizing skip piece with
  | nil =>
    have hnil : piece = [] := by cases skip <;> simpa [splitOnMarkerFrom] using h
    rw [hnil, List.infix_nil]
    exact hm
  | cons c cs ih =>
    -- while a marker is passed over no piece begins
    cases skip with
    | succ skip => exact ih (by simpa only [splitOnMarkerFrom] using h)
    | zero =>
      rw [splitOnMarkerFrom] at h
      split at h
      · rcases List.mem_cons.1 h with rfl | h
        · rw [List.infix_nil]
          exact hm
        · exact ih h
      · next hbegin =>
        obtain ⟨p, ps, hpieces⟩ := List.exists_cons_of_ne_nil (splitOnMarkerFrom_ne_nil marker 0 cs)
        have hpiece : ∀ q ∈ p :: ps, ¬ marker <:+: q := fun q hq => ih (hpieces ▸ hq)
        rw [List.isPrefixOf_iff_prefix] at hbegin
        rw [hpieces] at h
        rcases List.mem_cons.1 h with rfl | h
        · -- a marker in front of the piece would be one in front of the text
          rw [List.infix_cons_iff]
          rintro (hbegins | hinside)
          · exact hbegin (hbegins.trans
              (List.cons_prefix_cons.2 ⟨rfl, splitOnMarkerFrom_head_prefix hpieces⟩))
          · exact hpiece p (.head _) hinside
        · exact hpiece piece (.tail _ h)

/-- No marker is left in the pieces of a text. -/
theorem not_infix_of_mem_splitOnMarker {marker cs piece : List Char} (hm : marker ≠ [])
    (h : piece ∈ splitOnMarker marker cs) : ¬ marker <:+: piece :=
  not_infix_of_mem_splitOnMarkerFrom hm h

/-! ### The first marker -/

/-- What stands in front of the first marker and what stands behind it. -/
def cutAt? (marker : List Char) : List Char → Option (List Char × List Char)
  | [] => none
  | c :: cs =>
    if marker.isPrefixOf (c :: cs) then some ([], (c :: cs).drop marker.length)
    else (cutAt? marker cs).map fun p => (c :: p.1, p.2)

/-- A text is cut at the marker behind it if none begins in it. -/
theorem cutAt?_append {marker piece rest : List Char} (hm : marker ≠ [])
    (h : beginsIn marker piece (marker ++ rest) = false) :
    cutAt? marker (piece ++ (marker ++ rest)) = some (piece, rest) := by
  induction piece with
  | nil =>
    obtain ⟨m, ms, rfl⟩ := List.exists_cons_of_ne_nil hm
    rw [List.nil_append, List.cons_append, cutAt?, ← List.cons_append,
      if_pos (List.isPrefixOf_iff_prefix.2 (List.prefix_append _ _)), List.drop_left]
  | cons c cs ih =>
    rw [beginsIn, Bool.or_eq_false_iff, List.cons_append] at h
    rw [List.cons_append, cutAt?, if_neg (Bool.eq_false_iff.1 h.1), ih h.2]
    rfl

end ODataService.Text
