import ODataService.Proofs.Filter.Lexemes

/-!
# Tokens and the text they stand for

Nothing of a text is lost when it is cut into tokens but the blanks between them.

* `Spans`: how tokens lie in a text. In front of each stand blanks only, and its text is what stands
  there; the last one marks the end of the text. The tokens of every text lie in it like that
  (`spans_tokensFrom`).
* `Reads.again`: what was read at the front of a text is read again in front of every rest that
  starts with a blank or with punctuation. So the text of a token is read as this token wherever it
  stands (`Yields`), and the texts of tokens with blanks between them are read as these tokens
  (`Yields.intercalate`).

Main result: `tokenize_lossless`.
-/

namespace ODataService.Filter

variable {position : Nat} {c : Char} {cs ds : List Char} {l : Lexeme} {ts : List Token}

/-! ## Reading again -/

/-- What is read does not depend on where it stands. -/
theorem readToken_of_reads (h : Reads c cs l) (position : Nat) :
    readToken position c cs = .ok l := by
  -- the reader asks for punctuation and quotes first, and neither numbers nor names start so
  cases h with
  | leftParen => rfl
  | rightParen => rfl
  | comma => rfl
  | quoted h => simp [readToken, h]
  | number h =>
    have hc : c ≠ '(' ∧ c ≠ ')' ∧ c ≠ ',' ∧ c ≠ '\'' := by
      refine ⟨?_, ?_, ?_, ?_⟩ <;>
        (rintro rfl
         cases h)
    simp [readToken, hc, h]
  | name h =>
    have hc : c ≠ '(' ∧ c ≠ ')' ∧ c ≠ ',' ∧ c ≠ '\'' := by
      refine ⟨?_, ?_, ?_, ?_⟩ <;>
        (rintro rfl
         exact absurd h (by decide))
    simp [readToken, hc, readNumber?_of_isNameStart h, h]

/-- The sign of a number is found again in front of anything but another one. -/
theorem exists_splitMinus (cs : List Char) :
    ∃ sign, cs = sign ++ (splitMinus cs).2 ∧
      ∀ ds : List Char, ds.head? ≠ some '-' → splitMinus (sign ++ ds) = ((splitMinus cs).1, ds) := by
  unfold splitMinus
  split
  · exact ⟨['-'], rfl, fun _ _ => rfl⟩
  -- without a sign the digits must not start with one
  · refine ⟨[], rfl, fun ds hds => ?_⟩
    split
    · next heq => exact absurd (congrArg List.head? heq) hds
    · rfl

/-- The digits behind a point are found again in front of whatever ends them. -/
theorem exists_fractionPart (cs : List Char) :
    ∃ point, cs = point ++ (fractionPart cs).2 ∧ (∀ c ∈ point.head?, Text.isDecimal c = false) ∧
      ∀ rest, Ends rest → fractionPart (point ++ rest) = ((fractionPart cs).1, rest) := by
  unfold fractionPart
  split
  · next ds =>
    split
    · exact ⟨[], rfl, by simp, fun rest hrest => fractionPart_of_ends hrest⟩
    -- a point with digits behind it
    · next hdigits =>
      refine ⟨'.' :: ds.takeWhile Text.isDecimal, ?_, ?_, fun rest hrest => ?_⟩
      · rw [List.cons_append, List.takeWhile_append_dropWhile]
      · intro c hc
        obtain rfl : '.' = c := Option.some.inj hc
        decide
      · have hall : ∀ c ∈ ds.takeWhile Text.isDecimal, Text.isDecimal c = true :=
          List.all_eq_true.1 List.all_takeWhile
        have hstop := hrest.not_head isDecimal_of_isBreak
        simp only [List.cons_append, Text.takeWhile_append_rest hall hstop,
          Text.dropWhile_append_rest hall hstop, if_neg hdigits]
  · exact ⟨[], rfl, by simp, fun rest hrest => fractionPart_of_ends hrest⟩

/-- A number is read again in front of whatever ends it. -/
theorem exists_number {p : NumberParts} (h : readNumber? cs = some p) :
    ∃ number, cs = number ++ p.rest ∧
      ∀ rest, Ends rest → readNumber? (number ++ rest) = some { p with rest } := by
  obtain ⟨tail, hminus, hne, hwhole, -, hfraction, -⟩ := readNumber?_eq_some_iff.1 h
  obtain ⟨sign, hsign, hsigned⟩ := exists_splitMinus cs
  obtain ⟨point, hpoint, hstop, hpointed⟩ := exists_fractionPart tail
  rw [hminus] at hsign hsigned
  rw [hfraction] at hpoint hpointed
  -- the digits in front of the point are no sign
  have hdigit : ∀ rest : List Char, (p.whole ++ rest).head? ≠ some '-' := by
    obtain ⟨d, ds, hd⟩ := List.exists_cons_of_ne_nil hne
    rw [hd] at hwhole ⊢
    intro rest hhead
    obtain rfl : d = '-' := Option.some.inj hhead
    exact absurd (hwhole '-' List.mem_cons_self) (by decide)
  -- the sign, the digits and the fraction are read again in front of any other end
  refine ⟨sign ++ (p.whole ++ point), ?_, fun rest hrest => ?_⟩
  · rw [List.append_assoc, List.append_assoc, ← hpoint, ← hsign]
  · have htail : ∀ c ∈ (point ++ rest).head?, Text.isDecimal c = false := by
      cases point with
      | nil => exact hrest.not_head isDecimal_of_isBreak
      | cons d ds => exact hstop
    rw [List.append_assoc, List.append_assoc]
    exact readNumber?_eq_some_iff.2 ⟨point ++ rest, hsigned _ (hdigit _), hne, hwhole, htail,
      hpointed rest hrest, startsName_of_ends hrest⟩

/-- What is read is read again in front of every rest that goes on with none of it. -/
theorem Reads.again (h : Reads c cs l) :
    ∃ lexeme, cs = lexeme ++ l.rest ∧
      ∀ rest, Ends rest → Reads c (lexeme ++ rest) { l with rest } := by
  cases h with
  | leftParen => exact ⟨[], rfl, fun _ _ => .leftParen⟩
  | rightParen => exact ⟨[], rfl, fun _ _ => .rightParen⟩
  | comma => exact ⟨[], rfl, fun _ _ => .comma⟩
  | quoted h =>
    obtain ⟨body, rfl, hagain⟩ := exists_body_of_readQuoted? h
    refine ⟨body ++ ['\''], by simp, fun rest hrest => .quoted ?_⟩
    rw [List.append_assoc]
    refine hagain rest fun hquote => ?_
    exact absurd (hrest _ hquote) (by decide)
  | number h =>
    obtain ⟨number, hnumber, hagain⟩ := exists_number h
    cases number with
    | nil =>
      -- nothing would have been read
      have hlt := readNumber?_rest_lt h
      rw [← List.nil_append (c :: cs), hnumber] at hlt
      simp at hlt
    | cons d number =>
      obtain ⟨rfl, rfl⟩ := List.cons.inj hnumber
      exact ⟨number, rfl, fun rest hrest => .number (hagain rest hrest)⟩
  -- a name goes on as far as its characters do, and a break is none of them
  | name h =>
    refine ⟨cs.takeWhile isNamePart, List.takeWhile_append_dropWhile.symm, fun rest hrest => ?_⟩
    have hall : ∀ d ∈ cs.takeWhile isNamePart, isNamePart d = true :=
      List.all_eq_true.1 List.all_takeWhile
    have hname := @Reads.name c (cs.takeWhile isNamePart ++ rest) h
    rwa [Text.dropWhile_append_rest hall (hrest.not_head isNamePart_of_isBreak)] at hname

/-! ## Texts of tokens -/

/-- A token without its position. -/
def Token.content (t : Token) : TokenKind × String × Scalar := (t.kind, t.text, t.value)

/-- Wherever the text stands in front of a break, it is read as tokens with these contents. -/
def Yields (cs : List Char) (contents : List (TokenKind × String × Scalar)) : Prop :=
  ∀ position, ∃ ts, Lexes position cs ts ∧ ts.map Token.content = contents

section yields

variable {contents contents' : List (TokenKind × String × Scalar)}

theorem Yields.nil : Yields [] [] := fun position => ⟨[], .nil position, rfl⟩

/-- Texts have their tokens one after the other, if the second one starts with a break. -/
theorem Yields.append (h : Yields cs contents) (h' : Yields ds contents') (he : Ends ds) :
    Yields (cs ++ ds) (contents ++ contents') := by
  intro position
  obtain ⟨ts, hts, rfl⟩ := h position
  obtain ⟨us, hus, rfl⟩ := h' (position + cs.length)
  exact ⟨ts ++ us, hts.append hus he, List.map_append⟩

/-- A blank in front adds no token. -/
theorem Yields.blank (h : Yields cs contents) : Yields (' ' :: cs) contents := by
  intro position
  obtain ⟨ts, hts, rfl⟩ := h (position + 1)
  exact ⟨ts, hts.blank, rfl⟩

/-- Texts with blanks between them are read as each of them is. -/
theorem Yields.intercalate {α : Type} {xs : List α} {text : α → List Char}
    {content : α → List (TokenKind × String × Scalar)}
    (h : ∀ x ∈ xs, Yields (text x) (content x)) :
    Yields ([' '].intercalate (xs.map text)) (xs.flatMap content) := by
  -- a blank stands between two texts, which ends the token in front
  induction xs with
  | nil => exact .nil
  | cons x xs ih =>
    have hx := h x List.mem_cons_self
    have hxs := ih fun y hy => h y (List.mem_cons_of_mem x hy)
    cases xs with
    | nil => simpa using hx
    | cons y ys =>
      rw [List.map_cons, List.map_cons, List.intercalate_cons_cons, ← List.map_cons,
        List.append_assoc, List.flatMap_cons]
      exact hx.append hxs.blank (ends_cons _ (by decide))

/-- What yields contents is a text with tokens that have them. -/
theorem Yields.tokenize {text : String} (h : Yields text.toList contents) :
    ∃ ts, tokenize text = .ok ts ∧ ts.map Token.content = contents ++ [(.finish, "", .null)] := by
  obtain ⟨ts, hts, rfl⟩ := h 0
  have hlex := hts [] ends_nil
  rw [List.append_nil, tokensFrom_nil] at hlex
  exact ⟨_, hlex, List.map_append⟩

end yields

/-- The text of a token is read as this token again. -/
theorem Reads.yields {lexeme : List Char} (hb : Text.isBlank c = false)
    (hagain : ∀ rest, Ends rest → Reads c (lexeme ++ rest) { l with rest }) :
    Yields (c :: lexeme) [(l.kind, String.ofList (c :: lexeme), l.value)] := fun position =>
  ⟨_, .token hb fun rest hrest => readToken_of_reads (hagain rest hrest) position, rfl⟩

/-! ## Tokens in their text -/

/-- A token ends in front of another one. -/
def Token.Before (t u : Token) : Prop :=
  t.position < u.position ∧ t.position + t.text.length ≤ u.position

/-- A place of the text belongs to a token. -/
def Token.Covers (t : Token) (place : Nat) : Prop :=
  t.position ≤ place ∧ place < t.position + t.text.length

/-- How tokens lie in a text that starts at `position`. In front of each are blanks and nothing else,
its text stands at its place and yields it, and the last one marks the end. -/
inductive Spans : Nat → List Char → List Token → Prop where
  | finish {position : Nat} {gap : List Char} (hgap : ∀ c ∈ gap, Text.isBlank c = true) :
      Spans position gap [⟨.finish, "", position + gap.length, .null⟩]
  | token {position : Nat} {gap rest : List Char} {t : Token} {ts : List Token}
      (hgap : ∀ c ∈ gap, Text.isBlank c = true) (hposition : t.position = position + gap.length)
      (hkind : t.kind ≠ .finish) (hne : t.text ≠ "") (hyields : Yields t.text.toList [t.content])
      (hrest : Spans (t.position + t.text.length) rest ts) :
      Spans position (gap ++ (t.text.toList ++ rest)) (t :: ts)

/-- A blank in front widens the gap before the first token. -/
theorem Spans.blank (hb : Text.isBlank c = true) (h : Spans (position + 1) cs ts) :
    Spans position (c :: cs) ts := by
  have hcons : ∀ {gap : List Char}, (∀ d ∈ gap, Text.isBlank d = true) →
      ∀ d ∈ c :: gap, Text.isBlank d = true := fun hgap d hd =>
    (List.mem_cons.1 hd).elim (fun hd => hd ▸ hb) (hgap d)
  cases h with
  | @finish _ gap hgap =>
    rw [show position + 1 + cs.length = position + (c :: cs).length by
      rw [List.length_cons]; omega]
    exact .finish (hcons hgap)
  | @token _ gap rest t ts hgap hposition hkind hne hyields hrest =>
    rw [← List.cons_append]
    refine .token (hcons hgap) ?_ hkind hne hyields hrest
    rw [hposition, List.length_cons]
    omega

/-- A lexeme at the front of a text is a token without a gap. -/
theorem Spans.lexeme {lexeme rest : List Char} (hb : Text.isBlank c = false)
    (hkind : l.kind ≠ .finish)
    (hagain : ∀ rest, Ends rest → Reads c (lexeme ++ rest) { l with rest })
    (hrest : Spans (position + (c :: lexeme).length) rest ts) :
    Spans position (c :: (lexeme ++ rest))
      (⟨l.kind, String.ofList (c :: lexeme), position, l.value⟩ :: ts) := by
  -- the span is stated for a text, the lexeme is a list of characters
  obtain ⟨text, htext⟩ : ∃ text, text = String.ofList (c :: lexeme) := ⟨_, rfl⟩
  have hchars : c :: lexeme = text.toList := by rw [htext, String.toList_ofList]
  have hyields := Reads.yields hb hagain
  have hne : text ≠ "" := by
    rintro rfl
    simp at hchars
  rw [← List.cons_append, ← htext, hchars]
  rw [← htext, hchars] at hyields
  rw [hchars, String.length_toList] at hrest
  exact @Spans.token position [] rest ⟨l.kind, text, position, l.value⟩ ts (by simp) rfl hkind hne
    hyields hrest

/-- The tokens of a text lie in it. -/
theorem spans_tokensFrom (h : tokensFrom position cs = .ok ts) : Spans position cs ts := by
  fun_induction tokensFrom position cs generalizing ts with
  | case1 position => exact Except.ok.inj h ▸ .finish (by simp)
  | case2 position c cs hb ih => exact (ih h).blank hb
  | case3 position c cs hb fault hr => simp at h
  | case4 => simp at h
  | case5 position c cs hb l hr length hlt tokens ht =>
    next ih =>
    obtain rfl := Except.ok.inj h
    obtain ⟨lexeme, rfl, hagain⟩ := (reads_of_readToken hr).again
    -- what is read of the text is the text of the token
    have hlength : length = (c :: lexeme).length := by
      have : length = (lexeme ++ l.rest).length + 1 - l.rest.length := rfl
      rw [List.length_append] at this
      rw [List.length_cons]
      omega
    have htext : (c :: (lexeme ++ l.rest)).take length = c :: lexeme := by
      rw [hlength, ← List.cons_append, List.take_left]
    have hrest := ih ht
    rw [hlength] at hrest
    rw [htext]
    exact .lexeme (Bool.eq_false_iff.2 hb) (readToken_kind_ne_finish hr) hagain hrest

/-- No token starts before the place where reading starts. -/
theorem Spans.le_position (h : Spans position cs ts) : ∀ t ∈ ts, position ≤ t.position := by
  induction h with
  | finish => simp
  | token _ hposition _ _ _ _ ih =>
    rintro u hu
    rcases List.mem_cons.1 hu with rfl | hu
    · omega
    · have := ih u hu
      omega

/-- Each token ends in front of those behind it. -/
theorem Spans.pairwise (h : Spans position cs ts) : ts.Pairwise Token.Before := by
  induction h with
  | finish => exact List.pairwise_singleton _ _
  | @token position gap rest t ts _ _ _ hne _ hrest ih =>
    -- the tokens behind start where this one ends, or later, and it is not empty
    refine List.pairwise_cons.2 ⟨fun u hu => ?_, ih⟩
    have hle := hrest.le_position u hu
    have hpos : t.text.length ≠ 0 := by simpa using hne
    exact ⟨by omega, hle⟩

/-- The text of a token stands at its place. -/
theorem Spans.exists_split (h : Spans position cs ts) : ∀ t ∈ ts,
    ∃ before behind, cs = before ++ (t.text.toList ++ behind) ∧
      t.position = position + before.length := by
  induction h with
  | @finish position gap _ =>
    intro t ht
    obtain rfl := List.mem_singleton.1 ht
    exact ⟨gap, [], by simp, rfl⟩
  | @token position gap rest t ts _ hposition _ _ _ _ ih =>
    intro u hu
    rcases List.mem_cons.1 hu with rfl | hu
    · exact ⟨gap, rest, rfl, hposition⟩
    -- a later token stands in the rest, behind the gap and this token
    · obtain ⟨before, behind, rfl, hu⟩ := ih u hu
      refine ⟨gap ++ (t.text.toList ++ before), behind, by simp, ?_⟩
      rw [hu, List.length_append, List.length_append, String.length_toList]
      omega

/-- What belongs to no token is blank. -/
theorem Spans.isBlank (h : Spans position cs ts) {i : Nat} (hc : cs[i]? = some c)
    (hfree : ∀ t ∈ ts, ¬ t.Covers (position + i)) : Text.isBlank c = true := by
  induction h generalizing i with
  | finish hgap => exact hgap c (List.mem_of_getElem? hc)
  | @token position gap rest t ts hgap hposition _ _ _ _ ih =>
    -- the place is in the gap, or behind the token
    rcases Nat.lt_or_ge i gap.length with hi | hi
    · rw [List.getElem?_append_left hi] at hc
      exact hgap c (List.mem_of_getElem? hc)
    · have hnot := hfree t List.mem_cons_self
      rw [Token.Covers, hposition, not_and, Nat.not_lt] at hnot
      have hbehind := hnot (by omega)
      rw [List.getElem?_append_right hi, List.getElem?_append_right (by
        rw [String.length_toList]; omega), String.length_toList] at hc
      refine ih hc fun u hu => ?_
      have hu := hfree u (List.mem_cons_of_mem t hu)
      rwa [show t.position + t.text.length + (i - gap.length - t.text.length) = position + i by
        omega]

/-- The last token marks the end, and the others have a text. -/
theorem Spans.exists_body (h : Spans position cs ts) :
    ∃ body, ts = body ++ [⟨.finish, "", position + cs.length, .null⟩] ∧
      ∀ t ∈ body, t.kind ≠ .finish ∧ t.text ≠ "" ∧ Yields t.text.toList [t.content] := by
  induction h with
  | finish => exact ⟨[], rfl, by simp⟩
  | @token position gap rest t ts _ hposition hkind hne hyields _ ih =>
    obtain ⟨body, rfl, hbody⟩ := ih
    -- the lengths add up to that of the text, where the end stands
    refine ⟨t :: body, ?_, fun u hu => ?_⟩
    · rw [List.cons_append, List.length_append, List.length_append, String.length_toList,
        hposition, show position + (gap.length + (t.text.length + rest.length)) =
          position + gap.length + t.text.length + rest.length by omega]
    · rcases List.mem_cons.1 hu with rfl | hu
      · exact ⟨hkind, hne, hyields⟩
      · exact hbody u hu

/-- The texts of tokens with one blank between them. -/
def respaced (ts : List Token) : String := Text.joinWith " " (ts.map Token.text)

/-- Tokens with one blank between them are the same tokens; the one that marks the end may be left
out, since it has no text. -/
theorem Spans.tokenize_respaced (h : Spans position cs ts) {us : List Token}
    (hus : us = ts ∨ us = ts.dropLast) :
    ∃ vs, tokenize (respaced us) = .ok vs ∧ vs.map Token.content = ts.map Token.content := by
  obtain ⟨body, rfl, hbody⟩ := h.exists_body
  -- the contents that each text is read as; the end of a text is none
  have hyields : ∀ t ∈ us, Yields t.text.toList
      (if t.kind = .finish then [] else [t.content]) := by
    intro t ht
    have hcases : t ∈ body ∨ t = ⟨.finish, "", position + cs.length, .null⟩ := by
      rcases hus with rfl | rfl
      · simpa using ht
      · exact .inl (by simpa using ht)
    rcases hcases with hmem | rfl
    · rw [if_neg (hbody t hmem).1]
      exact (hbody t hmem).2.2
    · exact .nil
  have hcontents : us.flatMap (fun t => if t.kind = .finish then [] else [t.content]) =
      body.map Token.content := by
    have hmap : body.flatMap (fun t => if t.kind = .finish then [] else [t.content]) =
        body.map Token.content := by
      rw [List.flatMap_congr fun t ht => if_neg (hbody t ht).1, List.map_eq_flatMap]
    rcases hus with rfl | rfl
    · rw [List.flatMap_append, hmap]
      simp
    · rw [List.dropLast_concat, hmap]
  have hjoined : (respaced us).toList = [' '].intercalate (us.map fun t => t.text.toList) := by
    rw [respaced, Text.joinWith, String.toList_intercalate, List.map_map]
    rfl
  obtain ⟨vs, hvs, hvsContent⟩ := (hjoined ▸ Yields.intercalate hyields).tokenize
  refine ⟨vs, hvs, ?_⟩
  rw [hvsContent, hcontents, List.map_append]
  rfl

/-- Nothing of a text is lost when it is cut into tokens but the blanks between them. Each token ends
in front of the next one; its text is what stands at its position; what belongs to no token is
blank; the last token, and no other, marks the end and stands there; and the texts of the tokens
with one blank between them, with the empty text of the end or without it, are tokens of the same
kinds, texts and values. -/
theorem tokenize_lossless {text : String} (h : tokenize text = .ok ts) :
    ts.Pairwise Token.Before ∧
    (∀ t ∈ ts, (text.toList.drop t.position).take t.text.length = t.text.toList) ∧
    (∀ i c, text.toList[i]? = some c → (∀ t ∈ ts, ¬ t.Covers i) → Text.isBlank c = true) ∧
    (∃ body, ts = body ++ [⟨.finish, "", text.length, .null⟩] ∧
      ∀ t ∈ body, t.kind ≠ .finish ∧ t.text ≠ "") ∧
    ∀ us, us = ts ∨ us = ts.dropLast → ∃ vs, tokenize (respaced us) = .ok vs ∧
      vs.map Token.content = ts.map Token.content := by
  have hspans : Spans 0 text.toList ts := spans_tokensFrom h
  refine ⟨hspans.pairwise, fun t ht => ?_, fun i c hc hfree => ?_, ?_, fun us hus => ?_⟩
  -- the text of a token is cut out at its position
  · obtain ⟨before, behind, htext, hposition⟩ := hspans.exists_split t ht
    rw [htext, hposition, Nat.zero_add, List.drop_left, ← String.length_toList, List.take_left]
  -- what no token covers is a gap
  · refine hspans.isBlank hc fun t ht => ?_
    rw [Nat.zero_add]
    exact hfree t ht
  · obtain ⟨body, hbody, hall⟩ := hspans.exists_body
    rw [Nat.zero_add, String.length_toList] at hbody
    exact ⟨body, hbody, fun t ht => ⟨(hall t ht).1, (hall t ht).2.1⟩⟩
  · exact hspans.tokenize_respaced hus

/-- Tokens that touch each other: a name and a string, two numbers, and digits of two scripts. -/
theorem tokenize_lossless_touching :
    ∃ ts, tokenize "a'b''\\'c'1٣-2.5 (" = .ok ts ∧
      ts.map (fun t => (t.text, t.position)) =
        [("a", 0), ("'b''\\'c'", 1), ("1٣", 9), ("-2.5", 11), ("(", 16), ("", 17)] ∧
      ts.Pairwise Token.Before ∧
      ∃ vs, tokenize "a 'b''\\'c' 1٣ -2.5 ( " = .ok vs ∧
        vs.map Token.content = ts.map Token.content := by
  have hread : (tokenize "a'b''\\'c'1٣-2.5 (").toOption.map (·.map fun t => (t.text, t.position)) =
      some [("a", 0), ("'b''\\'c'", 1), ("1٣", 9), ("-2.5", 11), ("(", 16), ("", 17)] := by
    decide +kernel
  cases h : tokenize "a'b''\\'c'1٣-2.5 (" with
  | error fault => simp [h, Except.toOption] at hread
  -- the texts and positions are computed, the rest follows for these tokens
  | ok ts =>
    have hplaces : ts.map (fun t => (t.text, t.position)) = _ := Option.some.inj (h ▸ hread)
    obtain ⟨hpairwise, -, -, -, hagain⟩ := tokenize_lossless h
    have htexts := congrArg (List.map Prod.fst) hplaces
    rw [List.map_map] at htexts
    have hjoined := hagain ts (.inl rfl)
    rw [respaced, show ts.map Token.text = _ from htexts] at hjoined
    exact ⟨ts, rfl, hplaces, hpairwise, hjoined⟩

end ODataService.Filter
