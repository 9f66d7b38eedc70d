import ODataService.Http.Message
import ODataService.Proofs.Text.Character
import ODataService.Proofs.Text.Splitting

/-!
# Responses read from their texts

Who receives the text of a response cuts it at the first empty line and splits what stands in front
into lines: the status line and one line for each header. `Http.read?` does so. It gives back the
status, the headers and the body that the text was rendered from exactly if no header value breaks
a line (`Http.read?_render_iff`). The body may hold anything.

Rendering itself checks nothing, so this is a property of what headers are made of. Those of the
service are the subject of `ODataService.Proofs.Service.Headers`.
-/

namespace ODataService

namespace Text

variable {c : Char} {marker front behind cs : List Char}

/-- A marker does not begin where its first character is not. -/
theorem infix_append_left_iff (h : c ∉ front) :
    c :: marker <:+: front ++ cs ↔ c :: marker <:+: cs := by
  -- the marker cannot start at a character that is not its first one
  induction front with
  | nil => rfl
  | cons d ds ih =>
    rw [List.mem_cons, not_or] at h
    have hprefix : ¬ c :: marker <+: d :: (ds ++ cs) := fun hp =>
      h.1 (List.cons_prefix_cons.1 hp).1
    rw [List.cons_append, List.infix_cons_iff, or_iff_right hprefix, ih h.2]

/-- A marker does not end where its last character is not. -/
theorem infix_append_right_iff (h : c ∉ behind) :
    marker ++ [c] <:+: cs ++ behind ↔ marker ++ [c] <:+: cs := by
  -- read backwards, the last character is the first
  have hbehind : c ∉ behind.reverse := mt List.mem_reverse.1 h
  rw [← List.reverse_infix, List.reverse_concat, List.reverse_append,
    infix_append_left_iff hbehind, ← List.reverse_concat, List.reverse_infix]

end Text

namespace Http

open Text (beginsIn)

/-- What ends a line of a message. -/
def crlf : List Char := ['\r', '\n']

/-- There is neither half of a line break in the text. -/
def OneLine (s : String) : Prop := '\r' ∉ s.toList ∧ '\n' ∉ s.toList

instance (s : String) : Decidable (OneLine s) := inferInstanceAs (Decidable (_ ∧ _))

/-- A name that ends where the colon of its header line stands. -/
def IsFieldName (s : String) : Prop := OneLine s ∧ ':' ∉ s.toList

instance (s : String) : Decidable (IsFieldName s) := inferInstanceAs (Decidable (_ ∧ _))

theorem OneLine.not_crlf {s : String} (h : OneLine s) : ¬ crlf <:+: s.toList :=
  fun hcut => h.1 (hcut.subset (.head _))

/-- Two texts of one line are of one line together. -/
theorem OneLine.append {s t : String} (hs : OneLine s) (ht : OneLine t) : OneLine (s ++ t) := by
  rw [OneLine, String.toList_append, List.mem_append, List.mem_append, not_or, not_or]
  exact ⟨⟨hs.1, ht.1⟩, hs.2, ht.2⟩

/-! ## Reading -/

/-- The name and the value in a header line. -/
def readHeader? (line : List Char) : Option (String × String) :=
  match Text.cut ':' line with
  | (name, some (' ' :: value)) => some (String.ofList name, String.ofList value)
  | _ => none

/-- What every status line starts with. -/
def version : List Char := "HTTP/1.1 ".toList

/-- The number in a status line. -/
def readStatus? (line : List Char) : Option Nat :=
  if version.isPrefixOf line then
    some (Text.decimalValue ((line.drop version.length).takeWhile Char.isDigit))
  else none

/-- The status and the headers in the lines in front of the empty one. -/
def readHead? : List (List Char) → Option (Nat × Assoc String)
  | [] => none
  | line :: lines => do
    let status ← readStatus? line
    let headers ← lines.mapM readHeader?
    return (status, headers)

/-- The status, the headers and the body in the text of a response. -/
def read? (text : String) : Option (Nat × Assoc String × String) := do
  let (head, body) ← Text.cutAt? (crlf ++ crlf) text.toList
  let (status, headers) ← readHead? (Text.splitOnMarker crlf head)
  return (status, headers, String.ofList body)

/-! ## Header lines -/

/-- A header is written as its name, a colon, a blank and its value. -/
theorem toList_headerLine (h : String × String) :
    (Response.headerLine h).toList = h.1.toList ++ ':' :: ' ' :: h.2.toList := by
  show (h.1 ++ ": " ++ h.2).toList = _
  rw [String.toList_append, String.toList_append]
  simp

/-- A written header is read back. -/
theorem readHeader?_headerLine {h : String × String} (hname : ':' ∉ h.1.toList) :
    readHeader? (Response.headerLine h).toList = some h := by
  rw [readHeader?, toList_headerLine, Text.cut_append hname]
  simp only [String.ofList_toList]

/-- Only the line of a header is read as this header. -/
theorem eq_headerLine {line : List Char} {h : String × String} (hread : readHeader? line = some h) :
    line = (Response.headerLine h).toList := by
  unfold readHeader? at hread
  split at hread
  · next name value hcut =>
    obtain rfl := Option.some.inj hread
    rw [toList_headerLine, (Text.cut_eq_some hcut).1, String.toList_ofList, String.toList_ofList]
  · simp at hread

/-- Written headers are read back. -/
theorem mapM_readHeader? {headers : Assoc String} (hnames : ∀ h ∈ headers, ':' ∉ h.1.toList) :
    (headers.map fun h => (Response.headerLine h).toList).mapM readHeader? = some headers := by
  induction headers with
  | nil => rfl
  | cons h headers ih =>
    rw [List.map_cons, List.mapM_cons, readHeader?_headerLine (hnames h (.head _)),
      ih fun e he => hnames e (.tail _ he)]
    rfl

/-- Lines that are read as headers are those headers written. -/
theorem eq_map_headerLine {lines : List (List Char)} {headers : Assoc String}
    (hread : lines.mapM readHeader? = some headers) :
    lines = headers.map fun h => (Response.headerLine h).toList := by
  induction lines generalizing headers with
  | nil =>
    obtain rfl : [] = headers := Option.some.inj hread
    rfl
  | cons line lines ih =>
    rw [List.mapM_cons] at hread
    obtain ⟨h, hline, hread⟩ := Option.bind_eq_some_iff.1 hread
    obtain ⟨hs, hlines, hread⟩ := Option.bind_eq_some_iff.1 hread
    obtain rfl : h :: hs = headers := Option.some.inj hread
    rw [List.map_cons, ← eq_headerLine hline, ← ih hlines]

/-- A header line breaks where its value does. -/
theorem crlf_infix_headerLine_iff {h : String × String} (hname : OneLine h.1) :
    crlf <:+: (Response.headerLine h).toList ↔ crlf <:+: h.2.toList := by
  have hfront : '\r' ∉ h.1.toList ++ [':', ' '] := by simpa using hname.1
  have hline : (Response.headerLine h).toList = (h.1.toList ++ [':', ' ']) ++ h.2.toList := by
    rw [toList_headerLine]
    simp
  rw [hline]
  exact Text.infix_append_left_iff hfront

/-! ## The status line -/

/-- A reason is missing, or it is of one line and ends with no white space. -/
theorem reason_eq (status : Nat) :
    reason status = "" ∨ (OneLine (reason status) ∧ Text.EndsSolid (reason status).toList) := by
  -- the table of reasons is small
  have htable : ∀ e ∈ reasons, OneLine e.2 ∧ e.2.toList.getLast?.any (!Text.isBlank ·) = true := by
    decide +kernel
  cases hlookup : reasons.lookup status with
  | none =>
    left
    rw [reason, hlookup]
    rfl
  | some text =>
    right
    have hreason : reason status = text := by
      rw [reason, hlookup]
      rfl
    obtain ⟨l₁, l₂, htext, -⟩ := List.lookup_eq_some_iff.1 hlookup
    obtain ⟨hline, hlast⟩ := htable (status, text) (htext ▸ by simp)
    rw [hreason]
    refine ⟨hline, ?_⟩
    rw [Option.any_eq_true] at hlast
    obtain ⟨c, hc, hsolid⟩ := hlast
    obtain ⟨front, hfront⟩ := List.getLast?_eq_some_iff.1 hc
    exact ⟨front, c, hfront, by simpa using hsolid⟩

/-- A status line says the version and the status, and then there is no further digit. -/
theorem toList_statusLine (r : Response) :
    ∃ behind, r.statusLine.toList = version ++ (Nat.toDigits 10 r.status ++ behind) ∧
      (∀ c ∈ behind.head?, c.isDigit = false) ∧ '\r' ∉ behind := by
  have hline : (s!"HTTP/1.1 {r.status} {r.reason}").toList =
      version ++ (Nat.toDigits 10 r.status ++ ' ' :: r.reason.toList) := by
    show ("HTTP/1.1 " ++ Nat.repr r.status ++ " " ++ r.reason).toList = _
    simp only [String.toList_append, Nat.toList_repr, List.append_assoc]
    rfl
  -- the line is trimmed at its end, where the number or the reason stands
  have hdigits : Text.EndsSolid (Nat.toDigits 10 r.status) :=
    Text.endsSolid_of_forall (Nat.toDigits_ne_nil) fun c hc =>
      Text.isBlank_of_isDigit (Text.isDigit_of_mem_toDigits hc)
  rw [Response.statusLine, hline, String.toList_ofList]
  rcases reason_eq r.status with hnone | ⟨hreason, hsolid⟩
  · -- without a reason the blank behind the number goes, too
    refine ⟨[], ?_, by simp, by simp⟩
    rw [Response.reason, hnone, List.append_nil]
    have hblank : [' '].all Text.isBlank = true := by decide
    have htrim := Text.trimRight_append_blanks (hdigits.append version) hblank
    rwa [List.append_assoc] at htrim
  · refine ⟨' ' :: r.reason.toList, ?_, by simp, ?_⟩
    · have hends :
          Text.EndsSolid (version ++ (Nat.toDigits 10 r.status ++ ' ' :: r.reason.toList)) :=
        ((hsolid.cons ' ').append _).append _
      have htrim := Text.trimRight_append_blanks hends List.all_nil
      rwa [List.append_nil] at htrim
    · rw [List.mem_cons, not_or]
      exact ⟨by decide, hreason.1⟩

/-- The status is read back. -/
theorem readStatus?_statusLine (r : Response) :
    readStatus? r.statusLine.toList = some r.status := by
  obtain ⟨behind, hline, hbehind, -⟩ := toList_statusLine r
  have hdigits : ∀ c ∈ Nat.toDigits 10 r.status, c.isDigit = true :=
    fun c hc => Text.isDigit_of_mem_toDigits hc
  rw [readStatus?, hline, if_pos (List.isPrefixOf_iff_prefix.2 (List.prefix_append _ _)),
    List.drop_left, Text.takeWhile_append_rest hdigits hbehind, Text.decimalValue_toDigits]

/-- A status line is of one line. -/
theorem not_crlf_statusLine (r : Response) : ¬ crlf <:+: r.statusLine.toList := by
  obtain ⟨behind, hline, -, hbehind⟩ := toList_statusLine r
  intro hcut
  have hmem : '\r' ∈ version ++ (Nat.toDigits 10 r.status ++ behind) :=
    hline ▸ hcut.subset (.head _)
  rw [List.mem_append, List.mem_append] at hmem
  rcases hmem with hversion | hdigit | hmem
  · exact absurd hversion (by decide)
  · exact absurd (Text.isDigit_of_mem_toDigits hdigit) (by decide)
  · exact hbehind hmem

/-! ## Lines that are joined -/

/-- Where lines are joined, no further line break comes about. -/
theorem beginsIn_crlf {line rest : List Char} (h : ¬ crlf <:+: line)
    (hrest : rest.head? ≠ some '\n') : beginsIn crlf line rest = false := by
  -- no break stands within the line, so only its end could start one
  induction line with
  | nil => rfl
  | cons c cs ih =>
    rw [List.infix_cons_iff, not_or] at h
    rw [beginsIn, ih h.2, Bool.or_false, Bool.eq_false_iff, Ne, List.isPrefixOf_iff_prefix, crlf,
      List.cons_append, List.cons_prefix_cons]
    rintro ⟨rfl, behind, hbehind⟩
    cases cs with
    | nil =>
      -- the line ends with the first half of a line break, and the second does not follow
      rw [List.nil_append] at hbehind
      exact hrest (hbehind ▸ rfl)
    | cons d ds =>
      obtain rfl : '\n' = d := (List.cons.inj hbehind).1
      exact h.1 (List.prefix_append crlf ds)

/-- Lines that are joined are split again. -/
theorem splitOnMarker_intercalate {line : List Char} {lines : List (List Char)}
    (h : ∀ l ∈ line :: lines, ¬ crlf <:+: l) :
    Text.splitOnMarker crlf (crlf.intercalate (line :: lines)) = line :: lines := by
  induction lines generalizing line with
  | nil =>
    rw [List.intercalate_singleton]
    exact Text.splitOnMarker_eq_singleton (beginsIn_crlf (h line (.head _)) (by simp))
  | cons l ls ih =>
    have hline : beginsIn crlf line (crlf ++ crlf.intercalate (l :: ls)) = false :=
      beginsIn_crlf (h line (.head _)) (by simp [crlf])
    rw [List.intercalate_cons_cons, List.append_assoc,
      Text.splitOnMarker_append (by decide) hline, ih fun x hx => h x (.tail _ hx)]

/-- What follows a line that is joined with others and then ended is a line break. -/
theorem exists_intercalate (line : List Char) (lines : List (List Char)) (rest : List Char) :
    ∃ behind, crlf.intercalate (line :: lines) ++ (crlf ++ rest) = line ++ (crlf ++ behind) := by
  cases lines with
  | nil => exact ⟨rest, by rw [List.intercalate_singleton]⟩
  | cons l ls =>
    exact ⟨crlf.intercalate (l :: ls) ++ (crlf ++ rest), by
      rw [List.intercalate_cons_cons]
      simp only [List.append_assoc]⟩

/-- There is no empty line among lines that are not empty. -/
theorem beginsIn_emptyLine {line : List Char} {lines : List (List Char)} (rest : List Char)
    (h : ∀ l ∈ line :: lines, ¬ crlf <:+: l) (hne : ∀ l ∈ lines, l ≠ []) :
    beginsIn (crlf ++ crlf) (crlf.intercalate (line :: lines)) (crlf ++ rest) = false := by
  have hbreak (more : List Char) : (crlf ++ more).head? ≠ some '\n' := by simp [crlf]
  induction lines generalizing line with
  | nil =>
    rw [List.intercalate_singleton]
    exact Text.beginsIn_extend crlf (beginsIn_crlf (h line (.head _)) (hbreak rest))
  | cons l ls ih =>
    rw [List.intercalate_cons_cons, List.append_assoc, Text.beginsIn_append,
      Text.beginsIn_append, Bool.or_eq_false_iff, Bool.or_eq_false_iff, List.append_assoc]
    refine ⟨?_, ?_, ih (fun x hx => h x (.tail _ hx)) fun x hx => hne x (.tail _ hx)⟩
    · exact Text.beginsIn_extend crlf (beginsIn_crlf (h line (.head _)) (hbreak _))
    · -- the next line is not empty and does not start with a line break
      obtain ⟨behind, hbehind⟩ := exists_intercalate l ls rest
      have hnext := beginsIn_crlf (h l (.tail _ (.head _))) (hbreak behind)
      obtain ⟨c, cs, rfl⟩ := List.exists_cons_of_ne_nil (hne l (.head _))
      rw [beginsIn, Bool.or_eq_false_iff] at hnext
      rw [hbehind]
      simpa [beginsIn, crlf, List.isPrefixOf] using hnext.1

/-! ## Responses -/

/-- The lines in front of the empty one. -/
def Response.headLines (r : Response) : List (List Char) :=
  r.statusLine.toList :: r.headers.map fun h => (headerLine h).toList

/-- A response is its head, an empty line and its body. -/
theorem toList_render (r : Response) :
    r.render.toList = crlf.intercalate r.headLines ++ (crlf ++ crlf ++ r.body.toList) := by
  rw [Response.render, String.toList_append, String.toList_append, String.toList_intercalate,
    List.map_cons, List.map_map, List.append_assoc]
  rfl

/-- The head of a response is read back. -/
theorem readHead?_headLines {r : Response} (hnames : ∀ h ∈ r.headers, IsFieldName h.1) :
    readHead? r.headLines = some (r.status, r.headers) := by
  rw [Response.headLines, readHead?, readStatus?_statusLine,
    mapM_readHeader? fun h hh => (hnames h hh).2]
  rfl

/-- No header that is read breaks a line. -/
theorem not_crlf_of_read? {text body : String} {status : Nat} {headers : Assoc String}
    (hread : read? text = some (status, headers, body)) :
    ∀ h ∈ headers, ¬ crlf <:+: (Response.headerLine h).toList := by
  obtain ⟨⟨head, _⟩, -, hread⟩ := Option.bind_eq_some_iff.1 hread
  obtain ⟨⟨_, found⟩, hhead, hread⟩ := Option.bind_eq_some_iff.1 hread
  obtain rfl : found = headers := by
    obtain ⟨-, hpair⟩ := Prod.mk.inj (Option.some.inj hread)
    exact (Prod.mk.inj hpair).1
  cases hlines : Text.splitOnMarker crlf head with
  | nil => simp [hlines, readHead?] at hhead
  | cons line lines =>
    rw [hlines, readHead?] at hhead
    obtain ⟨number, -, hhead⟩ := Option.bind_eq_some_iff.1 hhead
    obtain ⟨headers, hheaders, hhead⟩ := Option.bind_eq_some_iff.1 hhead
    obtain rfl : headers = found := (Prod.mk.inj (Option.some.inj hhead)).2
    -- the header lines are pieces between line breaks
    intro h hmem
    have hpiece : (Response.headerLine h).toList ∈ Text.splitOnMarker crlf head := by
      rw [hlines, eq_map_headerLine hheaders]
      exact .tail _ (List.mem_map.2 ⟨h, hmem, rfl⟩)
    exact Text.not_infix_of_mem_splitOnMarker (by decide) hpiece

/-- A response is read from its text as it was rendered exactly if no header value breaks a line. -/
theorem read?_render_iff {r : Response} (hnames : ∀ h ∈ r.headers, IsFieldName h.1) :
    read? r.render = some (r.status, r.headers, r.body) ↔
      ∀ h ∈ r.headers, ¬ crlf <:+: h.2.toList := by
  have hvalue : ∀ h ∈ r.headers,
      (crlf <:+: (Response.headerLine h).toList ↔ crlf <:+: h.2.toList) :=
    fun h hh => crlf_infix_headerLine_iff (hnames h hh).1
  constructor
  · intro hread h hh
    rw [← hvalue h hh]
    exact not_crlf_of_read? hread h hh
  · intro h
    have hheaders : ∀ l ∈ r.headers.map fun h => (Response.headerLine h).toList,
        ¬ crlf <:+: l ∧ l ≠ [] := by
      rw [List.forall_mem_map]
      intro e he
      refine ⟨mt (hvalue e he).1 (h e he), ?_⟩
      rw [toList_headerLine]
      simp
    have hlines : ∀ l ∈ r.headLines, ¬ crlf <:+: l := by
      rw [Response.headLines, List.forall_mem_cons]
      exact ⟨not_crlf_statusLine r, fun l hl => (hheaders l hl).1⟩
    have hempty : beginsIn (crlf ++ crlf) (crlf.intercalate r.headLines)
        (crlf ++ crlf ++ r.body.toList) = false := by
      rw [List.append_assoc]
      exact beginsIn_emptyLine _ hlines fun l hl => (hheaders l hl).2
    -- the first empty line is the one behind the head
    have hcut : Text.cutAt? (crlf ++ crlf) r.render.toList =
        some (crlf.intercalate r.headLines, r.body.toList) := by
      rw [toList_render]
      exact Text.cutAt?_append (by decide) hempty
    have hsplit : Text.splitOnMarker crlf (crlf.intercalate r.headLines) = r.headLines :=
      splitOnMarker_intercalate hlines
    simp only [read?, hcut, hsplit, readHead?_headLines hnames, Option.bind_eq_bind,
      Option.bind_some, Option.pure_def, String.ofList_toList]

end Http

end ODataService
