import ODataService.Proofs.Schema.XmlReader
import ODataService.Proofs.Text.Character
import ODataService.Proofs.Text.Splitting

/-!
# XML documents are read as they were written

A document is read as the element that it was written from, if the names in it are names and the
values consist of characters that a document may refer to (`Xml.read?_document`). Whatever else is
in a value, it does not end the value: no quote and no angle bracket of its own is left in the text
that stands for it (`not_mem_escape`).

A text is said to *read* as tags if these are what it adds to the tags behind it (`Reads`), so the
texts of elements can be put together, and the white space between them is nothing.
-/

namespace ODataService.Xml

variable {s name : String} {cs ds : List Char} {c : Char}

/-! ## Values -/

/-- The value in which references start the pieces behind the first one. -/
theorem unescape?_eq {piece : List Char} {pieces : List (List Char)}
    (h : Text.splitOn '&' cs = piece :: pieces) :
    unescape? cs = (plain? piece).bind fun front =>
      (pieces.mapM referencePiece?).map fun behind => front ++ behind.flatten := by
  simp only [unescape?, h]
  cases plain? piece <;> cases pieces.mapM referencePiece? <;> rfl

/-- What is read as plain characters is those characters. -/
theorem plain?_eq_some (h : plain? cs = some ds) : cs.all isPlain = true ∧ ds = cs := by
  rw [plain?] at h
  split at h
  · next hall => exact ⟨hall, (Option.some.inj h).symm⟩
  · simp at h

/-- An unescaped text is what stands in front of the first ampersand, and the pieces behind. -/
theorem unescape?_eq_some {piece : List Char} {pieces : List (List Char)}
    (hsplit : Text.splitOn '&' cs = piece :: pieces) (h : unescape? cs = some ds) :
    plain? piece = some piece ∧
      ∃ behind, pieces.mapM referencePiece? = some behind ∧ ds = piece ++ behind.flatten := by
  rw [unescape?_eq hsplit, Option.bind_eq_some_iff] at h
  obtain ⟨front, hfront, h⟩ := h
  obtain ⟨behind, hbehind, rfl⟩ := Option.map_eq_some_iff.1 h
  obtain ⟨-, rfl⟩ := plain?_eq_some hfront
  exact ⟨hfront, behind, hbehind, rfl⟩

/-- A character that stands for itself. -/
theorem unescape?_plain (hc : isPlain c = true) (hamp : c ≠ '&') (h : unescape? cs = some ds) :
    unescape? (c :: cs) = some (c :: ds) := by
  obtain ⟨p, ps, hps⟩ := List.exists_cons_of_ne_nil (Text.splitOn_ne_nil '&' cs)
  obtain ⟨hp, behind, hbehind, rfl⟩ := unescape?_eq_some hps h
  -- the character joins the piece in front of the first reference
  have hsplit : Text.splitOn '&' ([c] ++ cs) = ([c] ++ p) :: ps :=
    Text.splitOn_append_of_not_mem (by simpa using hamp.symm) hps
  have hplain : plain? ([c] ++ p) = some ([c] ++ p) := by
    simp [plain?, hc, (plain?_eq_some hp).1]
  rw [← List.singleton_append, unescape?_eq hsplit, hplain, hbehind]
  rfl

/-- A character for which a reference stands. -/
theorem unescape?_reference {reference : List Char} (hamp : '&' ∉ reference)
    (hend : ';' ∉ reference) (hc : reference? reference = some c) (h : unescape? cs = some ds) :
    unescape? ('&' :: (reference ++ ';' :: cs)) = some (c :: ds) := by
  obtain ⟨p, ps, hps⟩ := List.exists_cons_of_ne_nil (Text.splitOn_ne_nil '&' cs)
  obtain ⟨hp, behind, hbehind, rfl⟩ := unescape?_eq_some hps h
  -- this piece now stands behind the reference, and a new one is in front, which is empty
  have hsplit : Text.splitOn '&' ('&' :: ((reference ++ [';']) ++ cs)) =
      [] :: ((reference ++ [';']) ++ p) :: ps := by
    have hfront : '&' ∉ reference ++ [';'] := by simp [hamp]
    rw [Text.splitOn, if_pos rfl, Text.splitOn_append_of_not_mem hfront hps]
  have hpiece : referencePiece? (reference ++ ';' :: p) = some (c :: p) := by
    rw [referencePiece?, Text.cut_append hend]
    simp [hc, hp]
  rw [List.append_assoc, List.append_assoc, List.singleton_append, List.singleton_append] at hsplit
  rw [unescape?_eq hsplit, List.mapM_cons, hpiece, hbehind]
  rfl

/-- The texts that stand for characters, other than the characters themselves, and what they are. -/
theorem escapeChar_cases (c : Char) :
    (escapeChar c = String.ofList [c] ∧ c ∉ ['&', '<', '>', '"', '\r', '\n', '\t']) ∨
      ∃ reference, (escapeChar c).toList = '&' :: (reference ++ [';']) ∧
        reference? reference = some c ∧ ∀ d ∈ ['&', ';', '"', '<', '>'], d ∉ reference := by
  unfold escapeChar
  -- seven characters are escaped, each by a reference of its own
  split
  case h_1 => exact .inr ⟨"amp".toList, by decide, by decide, by simp⟩
  case h_2 => exact .inr ⟨"lt".toList, by decide, by decide, by simp⟩
  case h_3 => exact .inr ⟨"gt".toList, by decide, by decide, by simp⟩
  case h_4 => exact .inr ⟨"quot".toList, by decide, by decide, by simp⟩
  case h_5 => exact .inr ⟨"#13".toList, by decide, by decide, by simp⟩
  case h_6 => exact .inr ⟨"#10".toList, by decide, by decide, by simp⟩
  case h_7 => exact .inr ⟨"#09".toList, by decide, by decide, by simp⟩
  case h_8 => exact .inl ⟨rfl, by simp_all⟩

/-- Legal characters that have no escape stand for themselves. -/
theorem isPlain_of_isLegal (h : isLegal c = true)
    (hc : c ∉ ['&', '<', '>', '"', '\r', '\n', '\t']) : isPlain c = true := by
  simp only [List.mem_cons, List.not_mem_nil, or_false, not_or] at hc
  have hbreaks : c.toNat ≠ 0x09 ∧ c.toNat ≠ 0x0A ∧ c.toNat ≠ 0x0D := by
    refine ⟨fun h => ?_, fun h => ?_, fun h => ?_⟩
    · exact hc.2.2.2.2.2.2 (Char.toNat_inj.1 h)
    · exact hc.2.2.2.2.2.1 (Char.toNat_inj.1 h)
    · exact hc.2.2.2.2.1 (Char.toNat_inj.1 h)
  -- below the blank only line ends and tabs are legal, and they are excluded
  have hlow : 0x20 ≤ c.toNat := by
    simp only [isLegal, Bool.or_eq_true, Bool.and_eq_true, beq_iff_eq, decide_eq_true_eq] at h
    omega
  simp [isPlain, h, hlow, hc.2.1]

/-- A text is escaped character by character. -/
theorem toList_escape (s : String) :
    (escape s).toList = s.toList.flatMap fun c => (escapeChar c).toList := by
  rw [escape, String.toList_join, List.flatMap_map]

/-- No character that would end a value, or start a tag, is left in it. -/
theorem not_mem_escape (s : String) : ∀ d ∈ ['"', '<', '>'], d ∉ (escape s).toList := by
  intro d hd hmem
  rw [toList_escape, List.mem_flatMap] at hmem
  obtain ⟨c, -, hmem⟩ := hmem
  -- a character that stays is none of the three, and a reference holds none of them
  rcases escapeChar_cases c with ⟨hself, hc⟩ | ⟨reference, htext, -, hreference⟩
  · rw [hself, String.toList_ofList, List.mem_singleton] at hmem
    subst hmem
    simp only [List.mem_cons, List.not_mem_nil, or_false] at hd hc
    tauto
  · have hd' : d ∉ reference := by
      refine hreference d ?_
      simp only [List.mem_cons, List.not_mem_nil, or_false] at hd ⊢
      tauto
    rw [htext] at hmem
    simp only [List.mem_cons, List.mem_append, List.not_mem_nil, or_false] at hd hmem
    rcases hmem with rfl | hmem | rfl
    · simp at hd
    · exact hd' hmem
    · simp at hd

/-- A value is read as it was written. -/
theorem unescape?_escape {s : String} (hlegal : isLegalText s = true) :
    unescape? (escape s).toList = some s.toList := by
  rw [isLegalText] at hlegal
  rw [toList_escape]
  generalize s.toList = cs at *
  induction cs with
  | nil => rfl
  | cons c cs ih =>
    rw [List.all_cons, Bool.and_eq_true] at hlegal
    have hcs := ih hlegal.2
    rw [List.flatMap_cons]
    -- a character is written as itself or as a reference
    rcases escapeChar_cases c with ⟨hself, hc⟩ | ⟨reference, htext, hc, hreference⟩
    · rw [hself, String.toList_ofList, List.singleton_append]
      exact unescape?_plain (isPlain_of_isLegal hlegal.1 hc) (by rintro rfl; simp at hc) hcs
    · rw [htext, List.cons_append, List.append_assoc, List.singleton_append]
      exact unescape?_reference (hreference '&' (by simp)) (hreference ';' (by simp)) hc hcs

/-! ## Attributes -/

/-- A text that is a name. -/
def IsName (s : String) : Prop := readName? s.toList = some s

instance (s : String) : Decidable (IsName s) := inferInstanceAs (Decidable (_ = _))

/-- A name is a character that starts one, and characters that may follow. -/
theorem IsName.exists_cons (h : IsName name) :
    ∃ c cs, name.toList = c :: cs ∧ isNameStart c = true ∧ cs.all isNameChar = true := by
  unfold IsName readName? at h
  split at h
  · next c cs hcs =>
    split at h
    · next hname => exact ⟨c, cs, hcs, by simpa using hname⟩
    · simp at h
  · simp at h

/-- All characters of a name are characters of names, the first one too. -/
theorem IsName.isNameChar (h : IsName name) : ∀ d ∈ name.toList, isNameChar d = true := by
  obtain ⟨c, cs, hcs, hc, hall⟩ := h.exists_cons
  rw [hcs, List.forall_mem_cons]
  exact ⟨by simp [Xml.isNameChar, hc], List.all_eq_true.1 hall⟩

theorem IsName.not_mem (h : IsName name) (hc : Xml.isNameChar c = false) : c ∉ name.toList :=
  fun hmem => Bool.false_ne_true (hc.symm.trans (h.isNameChar c hmem))

/-- An attribute that can be read: a text whose characters a document may refer to. -/
inductive ReadableAttribute : String × XmlValue → Prop
  | text {name s : String} (hname : IsName name) (hlegal : isLegalText s = true) :
      ReadableAttribute (name, .text s)

/-- The texts of attributes, one behind the other. -/
def attributesText (attributes : List (String × XmlValue)) : List Char :=
  attributes.flatMap fun a => (writeAttribute a).toList

/-- The attributes are written one after the other. -/
theorem toList_join_writeAttribute (attributes : List (String × XmlValue)) :
    (String.join (attributes.map writeAttribute)).toList = attributesText attributes := by
  rw [String.toList_join, List.flatMap_map, attributesText]

/-- An attribute is written as a blank, its name, an equals sign and its value in quotes. -/
theorem toList_writeAttribute (name s : String) :
    (writeAttribute (name, .text s)).toList =
      (' ' :: name.toList ++ ['=']) ++ '"' :: ((escape s).toList ++ '"' :: []) := by
  simp [writeAttribute, writeValue, String.toList_append, toString]

/-- No angle bracket is left in the text of attributes. -/
theorem not_mem_attributesText {attributes : List (String × XmlValue)}
    (hattributes : ∀ a ∈ attributes, ReadableAttribute a) : '<' ∉ attributesText attributes := by
  intro hmem
  rw [attributesText, List.mem_flatMap] at hmem
  obtain ⟨a, ha, hmem⟩ := hmem
  obtain @⟨name, s, hname, -⟩ := hattributes a ha
  have hname : '<' ∉ name.toList := hname.not_mem (by decide)
  -- the value is escaped
  have hvalue : '<' ∉ (escape s).toList := not_mem_escape s '<' (by simp)
  rw [toList_writeAttribute] at hmem
  simp [hname, hvalue] at hmem

/-- The label in front of a value is read as the name. -/
theorem readLabel?_name (h : IsName name) :
    readLabel? (' ' :: name.toList ++ ['=']) = some name := by
  have hequals : '=' ∉ ' ' :: name.toList := by simp [h.not_mem (c := '=') (by decide)]
  obtain ⟨c, cs, hcs, hc, -⟩ := h.exists_cons
  have hspace : isSpace c = false := by
    by_contra hspace
    simp only [isSpace, Bool.not_eq_false, Bool.or_eq_true, beq_iff_eq] at hspace
    rcases hspace with ((rfl | rfl) | rfl) | rfl <;> exact absurd hc (by decide)
  -- only the blank in front of the name is white space
  have hdrop : name.toList.dropWhile isSpace = name.toList := by
    rw [hcs, List.dropWhile_cons_of_neg (by simp [hspace])]
  rw [readLabel?, Text.cut_append hequals]
  show (if isSpace ' ' then readName? (name.toList.dropWhile isSpace) else none) = some name
  rw [hdrop]
  exact h

/-- Attributes are read up to the end of their tag. -/
theorem readAttributes?_attributesText {attributes : List (String × XmlValue)} {last : List Char}
    {isEmpty : Bool} (hattributes : ∀ a ∈ attributes, ReadableAttribute a) (hquote : '"' ∉ last)
    (hlast : readEnd? last = some isEmpty) :
    readAttributes? (Text.splitOn '"' (attributesText attributes ++ last)) =
      some (attributes, isEmpty) := by
  -- behind the last value stands the end of the tag, without quotes
  induction attributes with
  | nil =>
    rw [attributesText, List.flatMap_nil, List.nil_append, Text.splitOn_of_not_mem hquote,
      readAttributes?, hlast]
    rfl
  | cons a attributes ih =>
    rw [List.forall_mem_cons] at hattributes
    obtain ⟨@⟨name, s, hname, hlegal⟩, hattributes⟩ := hattributes
    have hlabel : '"' ∉ ' ' :: name.toList ++ ['='] := by
      simp [hname.not_mem (c := '"') (by decide)]
    have hvalue : '"' ∉ (escape s).toList := not_mem_escape s '"' (by simp)
    -- the first two quotes are those around the value
    have hcons : attributesText ((name, .text s) :: attributes) ++ last =
        (' ' :: name.toList ++ ['=']) ++
          '"' :: ((escape s).toList ++ '"' :: (attributesText attributes ++ last)) := by
      rw [attributesText, List.flatMap_cons, toList_writeAttribute]
      simp [attributesText]
    rw [hcons, Text.splitOn_append, Text.splitOn_append, Text.splitOn_of_not_mem hlabel,
      Text.splitOn_of_not_mem hvalue, List.singleton_append, List.singleton_append, readAttributes?,
      readLabel?_name hname, unescape?_escape hlegal, ih hattributes]
    simp

/-! ## Tags -/

/-- The start of an element, or an element without children, as its end says. -/
theorem readTag?_start {attributes : List (String × XmlValue)} {last : List Char} {isEmpty : Bool}
    (hname : IsName name) (hattributes : ∀ a ∈ attributes, ReadableAttribute a)
    (hnodup : (attributes.map Prod.fst).Nodup) (hquote : '"' ∉ last)
    (hhead : ∀ c ∈ last.head?, isNameChar c = false) (hlast : readEnd? last = some isEmpty) :
    readTag? (name.toList ++ (attributesText attributes ++ last)) =
      some (if isEmpty then .empty name attributes else .opening name attributes) := by
  -- the name ends at the blank of an attribute, or at the end of the tag
  have hrest : ∀ c ∈ (attributesText attributes ++ last).head?, isNameChar c = false := by
    cases attributes with
    | nil => exact hhead
    | cons a attributes =>
      cases hattributes a List.mem_cons_self
      rw [attributesText, List.flatMap_cons, toList_writeAttribute]
      simp +decide
  have hchars := hname.isNameChar
  unfold readTag?
  split
  · next heq =>
    -- no name starts with a slash
    obtain ⟨c, cs, hcs, hc, -⟩ := hname.exists_cons
    rw [hcs] at heq
    obtain rfl : c = '/' := (List.cons.inj heq).1
    exact absurd hc (by decide)
  · rw [Text.takeWhile_append_rest hchars hrest, Text.dropWhile_append_rest hchars hrest, hname,
      readAttributes?_attributesText hattributes hquote hlast]
    simp [hnodup]

/-- A closing tag is read, with white space behind it. -/
theorem readTag?_closing (hname : IsName name) {space : List Char}
    (hspace : space.all isSpace = true) :
    readTag? ('/' :: name.toList ++ '>' :: space) = some (.closing name) := by
  have hend : '>' ∉ name.toList := hname.not_mem (by decide)
  rw [List.cons_append, readTag?, Text.cut_append hend]
  show (if space.all isSpace then (readName? name.toList).map Tag.closing else none) = _
  rw [if_pos hspace, hname]
  rfl

/-- A text that reads as tags, whatever stands behind it. -/
def Reads (text : List Char) (ts : List Tag) : Prop :=
  ∀ rest us, readTags? rest = some us → readTags? (text ++ rest) = some (ts ++ us)

/-- Texts that read as tags do so in a row. -/
theorem Reads.append {ts us : List Tag} (hcs : Reads cs ts) (hds : Reads ds us) :
    Reads (cs ++ ds) (ts ++ us) := by
  intro rest vs hrest
  rw [List.append_assoc, List.append_assoc]
  exact hcs _ _ (hds _ _ hrest)

/-- Tags are read between the angle brackets, with white space in front of the first. -/
theorem readTags?_eq_some {piece : List Char} {pieces : List (List Char)} {ts : List Tag}
    (hsplit : Text.splitOn '<' cs = piece :: pieces) (h : readTags? cs = some ts) :
    piece.all isSpace = true ∧ pieces.mapM readTag? = some ts := by
  rw [readTags?, hsplit] at h
  simpa using h

/-- White space between tags is nothing. -/
theorem reads_space {space : List Char} (hspace : space.all isSpace = true) : Reads space [] := by
  intro rest us hrest
  obtain ⟨p, ps, hps⟩ := List.exists_cons_of_ne_nil (Text.splitOn_ne_nil '<' rest)
  obtain ⟨hp, hus⟩ := readTags?_eq_some hps hrest
  have hfront : '<' ∉ space := fun hmem => absurd (List.all_eq_true.1 hspace _ hmem) (by decide)
  -- the white space is in front of the first bracket, where nothing is read
  rw [readTags?, Text.splitOn_append_of_not_mem hfront hps]
  simp [hspace, hp, hus]

/-- The text of one tag, which is read with the white space behind it. -/
theorem reads_tag {t : Tag} (hbody : '<' ∉ cs)
    (h : ∀ space : List Char, space.all isSpace = true → readTag? (cs ++ space) = some t) :
    Reads ('<' :: cs) [t] := by
  intro rest us hrest
  obtain ⟨p, ps, hps⟩ := List.exists_cons_of_ne_nil (Text.splitOn_ne_nil '<' rest)
  obtain ⟨hp, hus⟩ := readTags?_eq_some hps hrest
  -- the white space in front of the next tag is read with this one
  have hsplit : Text.splitOn '<' ([] ++ '<' :: (cs ++ rest)) = [] :: (cs ++ p) :: ps := by
    rw [Text.splitOn_append, Text.splitOn_append_of_not_mem hbody hps]
    rfl
  rw [List.nil_append] at hsplit
  rw [List.cons_append, readTags?, hsplit]
  simp [h p hp, hus]

/-! ## Elements -/

/-- An element that can be read: it and its attributes have names, no name twice, and the values
consist of characters that a document may refer to. -/
inductive Readable : Xml → Prop
  | element {name : String} {attributes : List (String × XmlValue)} {children : List Xml}
      (hname : IsName name) (hattributes : ∀ a ∈ attributes, ReadableAttribute a)
      (hnodup : (attributes.map Prod.fst).Nodup) (hchildren : ∀ x ∈ children, Readable x) :
      Readable (.element name attributes children)

mutual

/-- The tags of an element. -/
def tags : Xml → List Tag
  | .element name attributes [] => [.empty name attributes]
  | .element name attributes (child :: rest) =>
    .opening name attributes :: (tagsAll (child :: rest) ++ [.closing name])

def tagsAll : List Xml → List Tag
  | [] => []
  | x :: xs => tags x ++ tagsAll xs

end

/-- The start of a line is no tag. -/
theorem reads_lineStart (depth : Nat) : Reads (lineStart depth).toList [] := by
  apply reads_space
  simp [lineStart, isSpace]

/-- The start of an element, or an element without children. -/
theorem reads_start {attributes : List (String × XmlValue)} (last : List Char) (isEmpty : Bool)
    (hname : IsName name) (hattributes : ∀ a ∈ attributes, ReadableAttribute a)
    (hnodup : (attributes.map Prod.fst).Nodup)
    (hlast : (last, isEmpty) ∈ [([' ', '/', '>'], true), (['>'], false)]) :
    Reads ('<' :: (name.toList ++ (attributesText attributes ++ last)))
      [if isEmpty then .empty name attributes else .opening name attributes] := by
  have hbody : '<' ∉ name.toList ++ (attributesText attributes ++ last) := by
    have hlast : '<' ∉ last := by
      simp only [List.mem_cons, List.not_mem_nil, or_false, Prod.mk.injEq] at hlast
      rcases hlast with ⟨rfl, -⟩ | ⟨rfl, -⟩ <;> decide
    simp [hname.not_mem (c := '<') (by decide), not_mem_attributesText hattributes, hlast]
  apply reads_tag hbody
  -- white space behind the tag belongs to its piece
  intro space hspace
  have hquote : '"' ∉ space := fun hmem => absurd (List.all_eq_true.1 hspace _ hmem) (by decide)
  simp only [List.mem_cons, List.not_mem_nil, or_false, Prod.mk.injEq] at hlast
  rw [List.append_assoc, List.append_assoc]
  rcases hlast with ⟨rfl, rfl⟩ | ⟨rfl, rfl⟩
  · exact readTag?_start hname hattributes hnodup (by simp [hquote]) (by simp +decide)
      (by simp [readEnd?, isSpace, hspace])
  · exact readTag?_start hname hattributes hnodup (by simp [hquote]) (by simp +decide)
      (by simp [readEnd?, isSpace, hspace])

/-- A closing tag reads as itself. -/
theorem reads_closing (hname : IsName name) :
    Reads ('<' :: ('/' :: name.toList ++ ['>'])) [.closing name] := by
  apply reads_tag (by simp [hname.not_mem (c := '<') (by decide)])
  intro space hspace
  rw [List.append_assoc]
  exact readTag?_closing hname hspace

/-- An element without content is one tag. -/
theorem toList_write_nil (depth : Nat) (name : String) (attributes : List (String × XmlValue)) :
    (write depth (.element name attributes [])).toList =
      '<' :: (name.toList ++ (attributesText attributes ++ [' ', '/', '>'])) := by
  simp [write, ← toList_join_writeAttribute]

/-- An element with content is two tags around its lines. -/
theorem toList_write_cons (depth : Nat) (name : String) (attributes : List (String × XmlValue))
    (child : Xml) (rest : List Xml) :
    (write depth (.element name attributes (child :: rest))).toList =
      '<' :: (name.toList ++ (attributesText attributes ++ ['>'])) ++
        ((writeAll (depth + 1) (child :: rest)).toList ++
          ((lineStart depth).toList ++ '<' :: ('/' :: name.toList ++ ['>']))) := by
  simp [write, ← toList_join_writeAttribute]

mutual

theorem reads_write {x : Xml} (h : Readable x) (depth : Nat) :
    Reads (write depth x).toList (tags x) := by
  match x, h with
  | .element name attributes [], .element hname hattributes hnodup _ =>
    rw [toList_write_nil]
    exact reads_start _ true hname hattributes hnodup (by simp)
  | .element name attributes (child :: rest), .element hname hattributes hnodup hchildren =>
    have hstart := reads_start ['>'] false hname hattributes hnodup (by simp)
    have hinside := reads_writeAll hchildren (depth + 1)
    have hend := (reads_lineStart depth).append (reads_closing hname)
    rw [toList_write_cons]
    exact hstart.append (hinside.append hend)

theorem reads_writeAll {xs : List Xml} (h : ∀ x ∈ xs, Readable x) (depth : Nat) :
    Reads (writeAll depth xs).toList (tagsAll xs) := by
  match xs with
  | [] => exact reads_space rfl
  | x :: xs =>
    rw [List.forall_mem_cons] at h
    have hx := (reads_lineStart depth).append (reads_write h.1 depth)
    rw [writeAll, String.toList_append, String.toList_append]
    exact hx.append (reads_writeAll h.2 depth)

end

mutual

/-- The tags of an element are put together to this element. -/
theorem assemble?_tags (x : Xml) (stack : List Unfinished) (xs : List Xml) (ts : List Tag) :
    assemble? stack xs (tags x ++ ts) = assemble? stack (xs ++ [x]) ts := by
  match x with
  | .element name attributes [] => rw [tags, List.singleton_append, assemble?]
  | .element name attributes (child :: rest) =>
    -- the element waits on the stack until its children are put together
    rw [tags, List.cons_append, List.append_assoc, assemble?, assemble?_tagsAll (child :: rest),
      List.singleton_append, assemble?, if_pos rfl, List.nil_append]

theorem assemble?_tagsAll (ys : List Xml) (stack : List Unfinished) (xs : List Xml)
    (ts : List Tag) : assemble? stack xs (tagsAll ys ++ ts) = assemble? stack (xs ++ ys) ts := by
  match ys with
  | [] => rw [tagsAll, List.nil_append, List.append_nil]
  | y :: ys =>
    rw [tagsAll, List.append_assoc, assemble?_tags y, assemble?_tagsAll ys, List.append_assoc,
      List.singleton_append]

end

theorem document_eq (x : Xml) : document x = declaration ++ "\n" ++ write 0 x := by
  have hline : "<?xml version=\"1.0\" encoding=\"UTF-8\"?>\n" = declaration ++ "\n" := by decide
  exact congrArg (· ++ write 0 x) hline

/-- A document is read as the element that it was written from. -/
theorem read?_document {x : Xml} (h : Readable x) : read? (document x) = some x := by
  have htags : readTags? ('\n' :: (write 0 x).toList) = some (tags x) := by
    have hspace : Reads ['\n'] [] := reads_space (by decide)
    simpa using hspace.append (reads_write h 0) [] [] rfl
  have hroot : assemble? [] [] (tags x) = some [x] := by
    simpa [assemble?] using assemble?_tags x [] [] []
  have hdrop : (document x).toList.dropPrefix? declaration.toList =
      some ('\n' :: (write 0 x).toList) := by
    rw [List.dropPrefix?_eq_some_iff]
    exact ⟨declaration.toList, by simp [document_eq], by simp⟩
  rw [read?, hdrop]
  simp [htags, hroot]

-- other writers lay out their documents differently
example : read? (declaration ++ "<r><a x=\"&#60;&apos;\"/>\t</r>") =
    some (.element "r" [] [.element "a" [("x", .text "<'")] []]) := by rfl

end ODataService.Xml
