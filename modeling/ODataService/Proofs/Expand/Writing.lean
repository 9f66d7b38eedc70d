import ODataService.Expand.Entry
import ODataService.Proofs.Assoc
import ODataService.Proofs.Expand.Splitting
import ODataService.Proofs.Text.Splitting

/-!
# Writing an `$expand` text

Entries as a client writes them: a property, and its options in parentheses if there are any. What
is written is read back as it was (`parse_write_entries`) where each property is a plain name, each
option a supported one and each value a text that stands alone between semicolons
(`Entry.Readable`).

The values may contain commas, semicolons, quotes and parentheses. Between two options the scan is
at the top level of the options again, and so one parenthesis deep in the whole text, where no comma
and no semicolon counts (`Entry.standsAlone_text`).
-/

namespace ODataService.Expand

open Nesting

/-- The text of an option. -/
def optionText (o : String × String) : String := o.1 ++ "=" ++ o.2

/-- The text of an entry. -/
def Entry.text (e : Entry) : String :=
  if e.options = [] then e.property
  else e.property ++ "(" ++ Text.joinWith ";" (e.options.map optionText) ++ ")"

/-- The `$expand` text with the given entries. -/
def write (es : List Entry) : String := Text.joinWith "," (es.map Entry.text)

/-- The name of a property as it may stand in an `$expand` text. -/
structure IsProperty (name : String) : Prop where
  nonempty : name ≠ ""
  trimmed : Text.strip name = name
  plain : ∀ c ∈ name.toList, c ∉ [',', ';', '(', ')', '\'']

instance (name : String) : Decidable (IsProperty name) :=
  decidable_of_iff (name ≠ "" ∧ Text.strip name = name ∧
      name.toList.all (· ∉ [',', ';', '(', ')', '\'']) = true) (by
    simp only [List.all_eq_true, decide_eq_true_eq]
    exact ⟨fun ⟨hne, htrimmed, hplain⟩ => ⟨hne, htrimmed, hplain⟩,
      fun h => ⟨h.nonempty, h.trimmed, h.plain⟩⟩)

/-- A supported option with a trimmed value. -/
def IsOption (o : String × String) : Prop := o.1 ∈ supportedOptions ∧ Text.strip o.2 = o.2

instance (o : String × String) : Decidable (IsOption o) := inferInstanceAs (Decidable (_ ∧ _))

/-- An entry that is read back as it is written. -/
structure Entry.Readable (e : Entry) : Prop where
  property : IsProperty e.property
  keys : (Assoc.keys e.options).Nodup
  options : ∀ o ∈ e.options, IsOption o
  values : ∀ o ∈ e.options, StandsAlone ';' o.2.toList

/-! ## Where texts start and end -/

/-- A trimmed text has trimmed characters. -/
theorem trim_toList {s : String} (h : Text.strip s = s) : Text.trim s.toList = s.toList := by
  have hlist := congrArg String.toList h
  rwa [Text.strip, String.toList_ofList] at hlist

theorem toList_ne_nil {s : String} (h : s ≠ "") : s.toList ≠ [] := fun hnil =>
  h (String.toList_eq_nil_iff.1 hnil)

variable {name : String}

theorem IsProperty.startsSolid (h : IsProperty name) : Text.StartsSolid name.toList :=
  Text.startsSolid_of_trim (trim_toList h.trimmed) (toList_ne_nil h.nonempty)

theorem IsProperty.endsSolid (h : IsProperty name) : Text.EndsSolid name.toList :=
  Text.endsSolid_of_trim (trim_toList h.trimmed) (toList_ne_nil h.nonempty)

/-- A comma and a semicolon are the separators of an `$expand` text. -/
def separators : List Char := [',', ';']

/-- The two separators separate. -/
theorem isSeparator_of_mem {sep : Char} (h : sep ∈ separators) : IsSeparator sep := by
  simp only [separators, List.mem_cons, List.not_mem_nil, or_false] at h
  rcases h with rfl | rfl <;> decide

/-- No separator splits a property. -/
theorem IsProperty.standsAlone (h : IsProperty name) {sep : Char} (hsep : sep ∈ separators) :
    StandsAlone sep name.toList := by
  refine standsAlone_inert fun c hc => ?_
  have hplain := h.plain c hc
  simp only [separators, List.mem_cons, List.not_mem_nil, or_false] at hsep
  simp only [IsInert, List.mem_cons, List.not_mem_nil, or_false, not_or] at hplain ⊢
  obtain ⟨hcomma, hsemicolon, hopen, hclose, hquote⟩ := hplain
  refine ⟨hquote, hopen, hclose, ?_⟩
  -- both separators are among the characters that a property has not
  rcases hsep with rfl | rfl
  · exact hcomma
  · exact hsemicolon

/-! ## Options -/

/-- What the names of the options have in common. -/
theorem supportedOptions_plain : ∀ key ∈ supportedOptions, Text.strip key = key ∧ key ≠ "" ∧
    ∀ c ∈ key.toList, IsInert ';' c ∧ c ≠ '=' := by
  have h : ∀ key ∈ supportedOptions, Text.strip key = key ∧ key ≠ "" ∧
      key.toList.all (fun c => IsInert ';' c ∧ c ≠ '=') = true := by
    decide +kernel
  simpa only [List.all_eq_true, decide_eq_true_eq] using h

variable {o : String × String}

/-- An option is written as its name, an equals sign and its value. -/
theorem toList_optionText (o : String × String) :
    (optionText o).toList = o.1.toList ++ '=' :: o.2.toList := by
  rw [optionText, String.toList_append, String.toList_append, List.append_assoc]
  rfl

/-- An option is read back as it is written. -/
theorem parseOption_optionText (h : IsOption o) (property : String) :
    parseOption property (optionText o) = .ok o := by
  obtain ⟨hsupported, hvalue⟩ := h
  obtain ⟨hkey, -, hchars⟩ := supportedOptions_plain o.1 hsupported
  -- no name of an option has an equals sign
  have hcut : Text.cut '=' (optionText o).toList = (o.1.toList, some o.2.toList) := by
    rw [toList_optionText]
    exact Text.cut_append (fun hmem => (hchars '=' hmem).2 rfl) _
  rw [parseOption, hcut]
  simp only [String.ofList_toList]
  rw [hkey, hvalue, if_pos (List.contains_iff_mem.2 hsupported)]

/-- No white space stands around an option. -/
theorem strip_optionText (h : IsOption o) : Text.strip (optionText o) = optionText o := by
  obtain ⟨hsupported, hvalue⟩ := h
  obtain ⟨hkey, hne, -⟩ := supportedOptions_plain o.1 hsupported
  refine Text.strip_eq ?_ ?_ <;> rw [toList_optionText]
  · exact (Text.startsSolid_of_trim (trim_toList hkey) (toList_ne_nil hne)).append _
  · refine Text.EndsSolid.append ?_ _
    by_cases hempty : o.2 = ""
    · -- an option without a value ends with its equals sign
      rw [hempty]
      exact ⟨[], '=', rfl, by decide⟩
    · exact (Text.endsSolid_of_trim (trim_toList hvalue) (toList_ne_nil hempty)).cons '='

/-- The text of an option is not empty. -/
theorem optionText_ne_empty (o : String × String) : optionText o ≠ "" := by
  intro h
  have hlist := toList_optionText o
  rw [h] at hlist
  simp at hlist

/-- The name of an option and the equals sign behind it open and close nothing. -/
theorem standsAlone_front (h : o.1 ∈ supportedOptions) :
    StandsAlone ';' (o.1.toList ++ ['=']) := by
  have hkey : StandsAlone ';' o.1.toList :=
    standsAlone_inert fun c hc => ((supportedOptions_plain o.1 h).2.2 c hc).1
  exact hkey.append (by decide)

/-- The text of an option stands alone if its value does. -/
theorem standsAlone_optionText_iff (h : o.1 ∈ supportedOptions) :
    StandsAlone ';' (optionText o).toList ↔ StandsAlone ';' o.2.toList := by
  rw [toList_optionText, List.append_cons, StandsAlone, cross?_append, standsAlone_front h]
  rfl

/-! ## Parts of what is written -/

/-- Texts that stand alone, that are trimmed and that are not empty are the parts of the text in
which they are joined. -/
theorem nonBlankParts_joinWith {sep : Char} {separator : String} (hsep : IsSeparator sep)
    (hseparator : separator.toList = [sep]) {parts : List String}
    (halone : ∀ p ∈ parts, StandsAlone sep p.toList)
    (htrimmed : ∀ p ∈ parts, Text.strip p = p ∧ p ≠ "") :
    nonBlankParts (Text.joinWith separator parts) sep = .ok parts := by
  by_cases hnil : parts = []
  · -- nothing is joined to an empty text, whose only part is blank
    have hsplit : splitTopLevel "" sep = .ok [""] := rfl
    rw [hnil, nonBlankParts]
    show Except.map _ (splitTopLevel "" sep) = _
    rw [hsplit]
    rfl
  · have hsplit : splitTopLevel (Text.joinWith separator parts) sep = .ok parts := by
      refine (splitTopLevel_eq_ok hsep).2 ⟨hnil, ?_, halone⟩
      rw [Text.joinWith, String.toList_intercalate, hseparator]
    have hstrip : parts.map Text.strip = parts :=
      (List.map_congr_left fun p hp => (htrimmed p hp).1).trans (List.map_id parts)
    have hfilter : parts.filter (· != "") = parts :=
      List.filter_eq_self.2 fun p hp => bne_iff_ne.2 (htrimmed p hp).2
    rw [nonBlankParts, hsplit]
    show Except.ok ((parts.map Text.strip).filter (· != "")) = _
    rw [hstrip, hfilter]

/-! ## Entries -/

namespace Entry

variable {e : Entry}

/-- An entry is written as its property and its options in parentheses. -/
theorem toList_text (h : e.options ≠ []) :
    e.text.toList = e.property.toList ++
      '(' :: ((Text.joinWith ";" (e.options.map optionText)).toList ++ [')']) := by
  simp only [text, if_neg h, String.toList_append, List.append_assoc]
  rfl

/-- A written entry is one part between commas, and also between semicolons. -/
theorem standsAlone_text (h : e.Readable) {sep : Char} (hsep : sep ∈ separators) :
    StandsAlone sep e.text.toList := by
  by_cases hnil : e.options = []
  · rw [text, if_pos hnil]
    exact h.property.standsAlone hsep
  · have hopen : sep ≠ '(' := by
      rintro rfl
      exact absurd hsep (by decide)
    -- within the parentheses a semicolon separates nothing
    have hsemicolon : cross? sep (deeper {}) [';'] = some (deeper {}) := by
      rw [cross?, if_neg fun h => deeper_ne _ h.2]
      rfl
    have hbody : cross? sep (deeper {}) (Text.joinWith ";" (e.options.map optionText)).toList =
        some (deeper {}) := by
      rw [Text.joinWith, String.toList_intercalate]
      refine cross?_intercalate hsemicolon fun p hp => ?_
      rw [List.map_map] at hp
      obtain ⟨o, ho, rfl⟩ := List.mem_map.1 hp
      exact cross?_deeper sep ((standsAlone_optionText_iff (h.options o ho).1).2 (h.values o ho))
    rw [toList_text hnil]
    exact (h.property.standsAlone hsep).append (standsAlone_parens hopen hbody)

/-- An entry starts with no white space. -/
theorem startsSolid_text (h : IsProperty e.property) : Text.StartsSolid e.text.toList := by
  by_cases hnil : e.options = []
  · rw [text, if_pos hnil]
    exact h.startsSolid
  · rw [toList_text hnil]
    exact h.startsSolid.append _

/-- An entry ends with no white space: with its property or a parenthesis. -/
theorem endsSolid_text (h : IsProperty e.property) : Text.EndsSolid e.text.toList := by
  by_cases hnil : e.options = []
  · rw [text, if_pos hnil]
    exact h.endsSolid
  · have hclose : Text.EndsSolid [')'] := ⟨[], ')', rfl, by decide⟩
    rw [toList_text hnil]
    exact ((hclose.append _).cons '(').append _

theorem strip_text (h : IsProperty e.property) : Text.strip e.text = e.text :=
  Text.strip_eq (startsSolid_text h) (endsSolid_text h)

/-- The text of an entry is not empty. -/
theorem text_ne_empty (h : IsProperty e.property) : e.text ≠ "" := by
  obtain ⟨c, cs, hcs, -⟩ := startsSolid_text h
  intro hempty
  rw [hempty] at hcs
  simp at hcs

/-- Options are read back as they are written. -/
theorem parseOptions_text (h : e.Readable) :
    parseOptions (Text.joinWith ";" (e.options.map optionText)) e.property = .ok e.options := by
  -- the options stand alone, so that the text is split between them
  have hparts : nonBlankParts (Text.joinWith ";" (e.options.map optionText)) ';' =
      .ok (e.options.map optionText) := by
    refine nonBlankParts_joinWith (isSeparator_of_mem (by decide)) rfl ?_ ?_
    · intro p hp
      obtain ⟨o, ho, rfl⟩ := List.mem_map.1 hp
      exact (standsAlone_optionText_iff (h.options o ho).1).2 (h.values o ho)
    · intro p hp
      obtain ⟨o, ho, rfl⟩ := List.mem_map.1 hp
      exact ⟨strip_optionText (h.options o ho), optionText_ne_empty o⟩
  have hread : (e.options.map optionText).mapM (parseOption e.property) =
      .ok (e.options.map id) :=
    mapM_map_ok fun o ho => parseOption_optionText (h.options o ho) e.property
  rw [parseOptions, hparts, ok_bind, hread, ok_bind, List.map_id, Assoc.ofPairs_eq_self h.keys]
  rfl

/-- What is read of a written entry is its property, and what is read of its options. -/
theorem parseEntry_text_eq (h : IsProperty e.property) (hnil : e.options ≠ []) :
    parseEntry e.text =
      (parseOptions (Text.joinWith ";" (e.options.map optionText)) e.property).map
        (Entry.mk e.property) := by
  have hparen : '(' ∉ e.property.toList := fun hmem => h.plain '(' hmem (by decide)
  have hlast : ((Text.joinWith ";" (e.options.map optionText)).toList ++ [')']).getLast? =
      some ')' := List.getLast?_concat
  rw [parseEntry, toList_text hnil, Text.cut_append hparen]
  simp only [parseWithOptions]
  -- what stands before the last parenthesis are the options
  rw [if_pos hlast, List.dropLast_concat, String.ofList_toList, String.ofList_toList, h.trimmed]
  cases parseOptions (Text.joinWith ";" (e.options.map optionText)) e.property with
  | error fault => rfl
  | ok options =>
    rw [ok_bind, if_neg h.nonempty]
    rfl

/-- An entry is read back as it is written. -/
theorem parseEntry_text (h : e.Readable) : parseEntry e.text = .ok e := by
  by_cases hnil : e.options = []
  · have hparen : '(' ∉ e.property.toList := fun hmem => h.property.plain '(' hmem (by decide)
    rw [parseEntry, text, if_pos hnil, Text.cut_of_not_mem hparen, ← hnil]
  · rw [parseEntry_text_eq h.property hnil, parseOptions_text h]
    rfl

end Entry

/-- Entries are read back as they are written. -/
theorem parse_write_entries {es : List Entry} (h : ∀ e ∈ es, e.Readable) :
    parse (write es) = .ok es := by
  have hparts : nonBlankParts (write es) ',' = .ok (es.map Entry.text) := by
    refine nonBlankParts_joinWith (isSeparator_of_mem (by decide)) rfl ?_ ?_
    · intro p hp
      obtain ⟨e, he, rfl⟩ := List.mem_map.1 hp
      exact Entry.standsAlone_text (h e he) (by decide)
    · intro p hp
      obtain ⟨e, he, rfl⟩ := List.mem_map.1 hp
      exact ⟨Entry.strip_text (h e he).property, Entry.text_ne_empty (h e he).property⟩
  have hread : (es.map Entry.text).mapM parseEntry = .ok (es.map id) :=
    mapM_map_ok fun e he => Entry.parseEntry_text (h e he)
  rw [parse, mapError_eq_ok, parseEntries, hparts, ok_bind, hread, List.map_id]

/-! ## Lengths

What is read is no longer than the text that it is read from. An entry that is as long as the whole
text is read from all of it. -/

section lengths

variable {sep : Char} {text property part : String} {parts : List String}

/-- A part that is not blank is a piece of the text without the white space around it. -/
theorem exists_piece_of_mem_nonBlankParts (h : nonBlankParts text sep = .ok parts)
    (hp : part ∈ parts) :
    ∃ pieces piece, splitTopLevel text sep = .ok pieces ∧ piece ∈ pieces ∧
      part = Text.strip piece := by
  obtain ⟨pieces, hpieces, rfl⟩ := map_eq_ok.1 h
  obtain ⟨piece, hpiece, rfl⟩ := List.mem_map.1 (List.mem_of_mem_filter hp)
  exact ⟨pieces, piece, hpieces, hpiece, rfl⟩

/-- A part that is not trimmed from all of the text is shorter than the text. -/
theorem splitTopLevel_or_length_lt (hsep : sep ∈ separators)
    (h : nonBlankParts text sep = .ok parts) (hp : part ∈ parts) :
    splitTopLevel text sep = .ok [text] ∧ part = Text.strip text ∨ part.length < text.length := by
  obtain ⟨pieces, piece, hpieces, hpiece, rfl⟩ := exists_piece_of_mem_nonBlankParts h hp
  obtain ⟨-, htext, -⟩ := (splitTopLevel_eq_ok (isSeparator_of_mem hsep)).1 hpieces
  have hmem : piece.toList ∈ pieces.map String.toList := List.mem_map_of_mem hpiece
  -- either there is one piece only, or a separator is missing in each of them
  rcases @eq_singleton_or_length_lt sep _ _ hmem with hall | hlt
  · left
    rw [hall, List.intercalate_singleton] at htext
    obtain rfl : text = piece := String.toList_inj.1 htext
    have hone : pieces = [text] := by
      obtain ⟨q, rfl⟩ := List.length_eq_one_iff.1 (by simpa using congrArg List.length hall)
      exact congrArg ([·]) (List.mem_singleton.1 hpiece).symm
    exact ⟨hone ▸ hpieces, rfl⟩
  · right
    have hstrip := Text.length_strip_le piece
    rw [← htext, String.length_toList, String.length_toList] at hlt
    omega

/-- No part is longer than the text. -/
theorem length_le_of_mem_nonBlankParts (hsep : sep ∈ separators)
    (h : nonBlankParts text sep = .ok parts) (hp : part ∈ parts) : part.length ≤ text.length := by
  rcases splitTopLevel_or_length_lt hsep h hp with ⟨-, rfl⟩ | hlt
  · exact Text.length_strip_le text
  · omega

/-- An option is one character longer than its name and its value. -/
theorem length_optionText (o : String × String) :
    (optionText o).length = o.1.length + 1 + o.2.length := by
  rw [optionText, String.length_append, String.length_append]
  rfl

/-- An entry with one option. -/
theorem text_single (property : String) (o : String × String) :
    Entry.text ⟨property, [o]⟩ = property ++ "(" ++ optionText o ++ ")" :=
  rfl

/-- The parentheses add two characters. -/
theorem length_text_single (property : String) (o : String × String) :
    (Entry.text ⟨property, [o]⟩).length = property.length + (optionText o).length + 2 := by
  rw [text_single, String.length_append, String.length_append, String.length_append]
  show property.length + 1 + (optionText o).length + 1 = _
  omega

/-- An option was read from a text that is at least as long as its own. -/
theorem length_optionText_le_part (h : parseOption property part = .ok o) :
    (optionText o).length ≤ part.length := by
  unfold parseOption at h
  -- the name and the value are cut from the part and trimmed
  split at h
  next name value hcut =>
    obtain ⟨hpart, -⟩ := Text.cut_eq_some hcut
    dsimp only at h
    split at h
    next =>
      obtain rfl := Except.ok.inj h
      have hname := Text.length_strip_le (String.ofList name)
      have hvalue := Text.length_strip_le (String.ofList value)
      rw [String.length_ofList] at hname hvalue
      rw [length_optionText, ← String.length_toList (s := part), hpart, List.length_append,
        List.length_cons]
      dsimp only
      omega
    next => exact absurd h (by simp)
  next => exact absurd h (by simp)

/-- An option that is read stands in a part of the text. -/
theorem exists_part_of_parseOptions {raw : String} {options : Assoc String}
    (h : parseOptions raw property = .ok options) (ho : o ∈ options) :
    ∃ parts part, nonBlankParts raw ';' = .ok parts ∧ part ∈ parts ∧
      (optionText o).length ≤ part.length := by
  obtain ⟨parts, hparts, h⟩ := bind_eq_ok.1 h
  obtain ⟨pairs, hpairs, h⟩ := bind_eq_ok.1 h
  obtain rfl := Except.ok.inj h
  obtain ⟨part, hpart, hread⟩ := exists_of_mapM_eq_ok hpairs (Assoc.mem_of_mem_ofPairs ho)
  exact ⟨parts, part, hparts, hpart, length_optionText_le_part hread⟩

/-- An entry with an option was read from a text that is at least as long as the entry with this
option alone. -/
theorem length_text_le_part {e : Entry} (h : parseEntry part = .ok e) (ho : o ∈ e.options) :
    (Entry.text ⟨e.property, [o]⟩).length ≤ part.length := by
  unfold parseEntry at h
  split at h
  next =>
    obtain rfl := Except.ok.inj h
    exact absurd ho List.not_mem_nil
  next before behind hcut =>
    obtain ⟨hpart, -⟩ := Text.cut_eq_some hcut
    unfold parseWithOptions at h
    split at h
    next hlast =>
      obtain ⟨options, hoptions, h⟩ := bind_eq_ok.1 h
      split at h
      next => exact absurd h (by simp [throw, throwThe, MonadExceptOf.throw])
      next =>
        obtain rfl := Except.ok.inj h
        obtain ⟨parts, p, hparts, hp, hlength⟩ := exists_part_of_parseOptions hoptions ho
        -- the options stand between the parentheses
        have hbehind := length_le_of_mem_nonBlankParts (by decide) hparts hp
        have hbefore := Text.length_strip_le (String.ofList before)
        have hclose := List.length_pos_of_mem (List.mem_of_getLast? hlast)
        rw [String.length_ofList, List.length_dropLast] at hbehind
        rw [String.length_ofList] at hbefore
        rw [length_text_single, ← String.length_toList (s := part), hpart, List.length_append,
          List.length_cons]
        dsimp only
        omega
    next => exact absurd h (by simp)

/-- An option comes back in the only entry of a text exactly if its value stands alone between
semicolons. -/
theorem parse_text_single_iff (hproperty : IsProperty property) (ho : IsOption o) :
    parse (Entry.text ⟨property, [o]⟩) = .ok [⟨property, [o]⟩] ↔ StandsAlone ';' o.2.toList := by
  constructor
  · intro h
    obtain ⟨parts, hparts, hread⟩ := bind_eq_ok.1 (mapError_eq_ok.1 h)
    obtain ⟨part, hpart, hentry⟩ := exists_of_mapM_eq_ok hread List.mem_cons_self
    -- the entry is as long as the text, so all of the text is one part
    have hlength := length_text_le_part hentry List.mem_cons_self
    rcases splitTopLevel_or_length_lt (by decide) hparts hpart with ⟨-, rfl⟩ | hlt
    · rw [Entry.strip_text hproperty, Entry.parseEntry_text_eq hproperty (by simp)] at hentry
      obtain ⟨options, hoptions, hsame⟩ := map_eq_ok.1 hentry
      obtain rfl : options = [o] := (Entry.mk.inj hsame).2
      obtain ⟨parts, part, hparts, hpart, hlength⟩ :=
        exists_part_of_parseOptions hoptions List.mem_cons_self
      -- likewise the option is as long as all of the text between the parentheses
      rcases splitTopLevel_or_length_lt (by decide) hparts hpart with ⟨hall, -⟩ | hlt
      · exact (standsAlone_optionText_iff ho.1).1 ((splitTopLevel_singleton_iff (by decide)).1 hall)
      · exact absurd hlength (Nat.not_le.2 hlt)
    · exact absurd hlength (Nat.not_le.2 hlt)
  · intro h
    have hreadable : Entry.Readable ⟨property, [o]⟩ :=
      ⟨hproperty, by simp [Assoc.keys], by simpa using ho, by simpa using h⟩
    exact @parse_write_entries [⟨property, [o]⟩] (by simpa using hreadable)

end lengths

end ODataService.Expand
