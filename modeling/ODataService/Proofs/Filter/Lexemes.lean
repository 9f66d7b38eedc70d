import ODataService.Proofs.Bind
import ODataService.Proofs.Filter.Lexing

/-!
# Lexemes

Everything that the reader of tokens can read at the front of a text (`Reads`), and where the tokens
of a text come from: each but the last is a lexeme that was read somewhere (`exists_reads_of_mem`).

A lexeme is one parenthesis or comma, a string between quotes (`exists_body_of_readQuoted?`), or a
run of characters of which words and numbers consist (`WordUpTo`). Proofs about the tokens of
arbitrary texts go through these cases, so that none of them opens the reader again.
-/

namespace ODataService.Filter

variable {position : Nat} {c : Char} {cs ds : List Char} {l : Lexeme}

/-- What is read at the front of a text: by its first character, the rest of it, and the lexeme. -/
inductive Reads : Char → List Char → Lexeme → Prop where
  | leftParen {cs : List Char} : Reads '(' cs ⟨.leftParen, .null, cs⟩
  | rightParen {cs : List Char} : Reads ')' cs ⟨.rightParen, .null, cs⟩
  | comma {cs : List Char} : Reads ',' cs ⟨.comma, .null, cs⟩
  | quoted {cs v rest : List Char} (h : readQuoted? cs = some (v, rest)) :
      Reads '\'' cs ⟨.string, .str (String.ofList v), rest⟩
  | number {c : Char} {cs : List Char} {p : NumberParts} (h : readNumber? (c :: cs) = some p) :
      Reads c cs ⟨.number, p.value, p.rest⟩
  | name {c : Char} {cs : List Char} (h : isNameStart c = true) :
      Reads c cs ⟨.name, .null, cs.dropWhile isNamePart⟩

/-- What the reader takes is a lexeme that starts with the character in front. -/
theorem reads_of_readToken (h : readToken position c cs = .ok l) : Reads c cs l := by
  -- the branches of the reader are the constructors, in the same order
  simp only [readToken] at h
  split at h
  next hc => obtain rfl := Except.ok.inj h; exact hc ▸ .leftParen
  split at h
  next hc => obtain rfl := Except.ok.inj h; exact hc ▸ .rightParen
  split at h
  next hc => obtain rfl := Except.ok.inj h; exact hc ▸ .comma
  split at h
  next hc =>
    split at h
    next hq => obtain rfl := Except.ok.inj h; exact hc ▸ .quoted hq
    · simp at h
  split at h
  next hn => obtain rfl := Except.ok.inj h; exact .number hn
  split at h
  next hc => obtain rfl := Except.ok.inj h; exact .name hc
  · simp at h

/-! ## Tokens -/

/-- The first token of a text is a lexeme, and the others are the tokens of what is left. -/
theorem exists_readToken_of_tokensFrom {ts : List Token} (hb : Text.isBlank c = false)
    (h : tokensFrom position (c :: cs) = .ok ts) :
    ∃ l us, readToken position c cs = .ok l ∧
      tokensFrom (position + (cs.length + 1 - l.rest.length)) l.rest = .ok us ∧
      ts = l.token position (c :: cs) :: us := by
  cases hr : readToken position c cs with
  | error fault =>
    rw [tokensFrom.eq_def] at h
    simp only [hb, Bool.false_eq_true, if_false] at h
    -- the definition names the equation of the lexeme, so `hr` cannot be rewritten in it
    split at h
    · simp at h
    next l' h' => simp [hr] at h'
  | ok l =>
    rw [tokensFrom_token hb hr] at h
    obtain ⟨us, hus, rfl⟩ := map_eq_ok.1 h
    exact ⟨l, us, rfl, hus, rfl⟩

/-- A text whose only token marks its end is blank. -/
theorem isBlank_of_tokensFrom_singleton {t : Token} (h : tokensFrom position cs = .ok [t]) :
    ∀ c ∈ cs, Text.isBlank c = true := by
  -- the mark of the end is the only token, so every character is passed over
  induction cs generalizing position with
  | nil => simp
  | cons c cs ih =>
    by_cases hb : Text.isBlank c = true
    · rw [tokensFrom_blank hb] at h
      intro d hd
      rcases List.mem_cons.1 hd with rfl | hd
      · exact hb
      · exact ih h d hd
    · -- a lexeme would be a token in front of the last one
      obtain ⟨l, us, -, hus, heq⟩ :=
        exists_readToken_of_tokensFrom (Bool.eq_false_iff.2 hb) h
      obtain ⟨body, rfl, -⟩ := tokensFrom_eq_ok hus
      have hlength := congrArg List.length heq
      rw [List.length_cons, List.length_cons, List.length_append, List.length_singleton] at hlength
      simp only [List.length_nil] at hlength
      omega

/-- Every token but the mark of the end is a lexeme of the text. -/
theorem exists_reads_of_mem {ts : List Token} (h : tokensFrom position cs = .ok ts) {t : Token}
    (ht : t ∈ ts) (hkind : t.kind ≠ .finish) :
    ∃ c ds l, Reads c ds l ∧ t.kind = l.kind ∧ t.value = l.value := by
  -- each round passes over a blank or takes one lexeme
  fun_induction tokensFrom position cs generalizing ts with
  | case1 position =>
    obtain rfl := Except.ok.inj h
    obtain rfl := List.mem_singleton.1 ht
    exact absurd rfl hkind
  | case2 position c cs hb ih => exact ih h ht
  | case3 position c cs hb fault hr => simp at h
  | case4 => simp at h
  | case5 position c cs hb l hr length hlt tokens htokens =>
    next ih =>
    obtain rfl := Except.ok.inj h
    rcases List.mem_cons.1 ht with rfl | ht
    -- the token is the lexeme that was just taken
    · exact ⟨c, cs, l, reads_of_readToken hr, rfl, rfl⟩
    · exact ih htokens ht

/-! ## Strings -/

/-- A backslash and a quote behind it: inside of a string they are one quote of its value. -/
def escapedQuote : List Char := ['\\', '\'']

/-- A character stands in front of a value that was read. -/
theorem map_cons_eq_some {x : Option (List Char × List Char)} {v rest : List Char} :
    x.map (fun (w, r) => (c :: w, r)) = some (v, rest) ↔ ∃ w, x = some (w, rest) ∧ v = c :: w := by
  rw [Option.map_eq_some_iff]
  constructor
  · rintro ⟨⟨w, r⟩, rfl, he⟩
    obtain ⟨rfl, rfl⟩ := Prod.mk.inj he
    exact ⟨w, rfl, rfl⟩
  · rintro ⟨w, rfl, rfl⟩
    exact ⟨(w, rest), rfl, rfl⟩

/-- A string is read from its body and the quote behind it. It is read from them again in front of
every rest that does not start with another quote. -/
theorem exists_body_of_readQuoted? {v rest : List Char} (h : readQuoted? cs = some (v, rest)) :
    ∃ body, cs = body ++ '\'' :: rest ∧ ∀ rest' : List Char, rest'.head? ≠ some '\'' →
      readQuoted? (body ++ '\'' :: rest') = some (v, rest') := by
  -- the reader looks one character ahead, so only a quote in front of the new rest could change
  -- what it reads
  fun_induction readQuoted? cs generalizing v with
  | case1 => simp at h
  | case2 cs ih =>
    obtain ⟨w, hw, rfl⟩ := map_cons_eq_some.1 h
    obtain ⟨body, rfl, hagain⟩ := ih hw
    refine ⟨'\\' :: '\'' :: body, rfl, fun rest' hrest' => ?_⟩
    rw [List.cons_append, List.cons_append, readQuoted?, hagain rest' hrest', Option.map_some]
  | case3 cs ih =>
    obtain ⟨w, hw, rfl⟩ := map_cons_eq_some.1 h
    obtain ⟨body, rfl, hagain⟩ := ih hw
    refine ⟨'\'' :: '\'' :: body, rfl, fun rest' hrest' => ?_⟩
    rw [List.cons_append, List.cons_append, readQuoted?, hagain rest' hrest', Option.map_some]
  | case4 cs _ =>
    obtain ⟨rfl, rfl⟩ := Prod.mk.inj (Option.some.inj h)
    refine ⟨[], rfl, fun rest' hrest' => ?_⟩
    rw [List.nil_append, readQuoted?]
    -- two quotes would have been one of the string
    rintro ds rfl
    exact hrest' rfl
  | case5 c cs hescaped _ hquote ih =>
    obtain ⟨w, hw, rfl⟩ := map_cons_eq_some.1 h
    obtain ⟨body, rfl, hagain⟩ := ih hw
    refine ⟨c :: body, rfl, fun rest' hrest' => ?_⟩
    -- whether a quote follows the character is seen in the body and the quote behind it
    have hnext : c = '\\' → (body ++ '\'' :: rest').head? ≠ some '\'' := by
      intro hc hhead
      refine hescaped (body ++ '\'' :: rest).tail hc ?_
      cases body with
      | nil => rfl
      | cons d body =>
        obtain rfl : d = '\'' := Option.some.inj hhead
        rfl
    rw [List.cons_append, readQuoted?_cons hquote hnext, hagain rest' hrest', Option.map_some]

/-! ## Words and numbers -/

/-- The characters of which names and numbers consist. -/
def isWordPart (c : Char) : Bool := isNamePart c || Text.isDecimal c || c == '-'

theorem isWordPart_of_isNamePart (h : isNamePart c = true) : isWordPart c = true := by
  simp [isWordPart, h]

theorem isWordPart_of_isDecimal (h : Text.isDecimal c = true) : isWordPart c = true := by
  simp [isWordPart, h]

/-- In front of `ds` the text has characters of names and numbers only. -/
def WordUpTo (ds cs : List Char) : Prop :=
  ∃ word, cs = word ++ ds ∧ ∀ c ∈ word, isWordPart c = true

theorem WordUpTo.refl : WordUpTo cs cs := ⟨[], rfl, by simp⟩

/-- Two words in a row are one. -/
theorem WordUpTo.trans {es : List Char} (h : WordUpTo cs ds) (h' : WordUpTo ds es) :
    WordUpTo cs es := by
  obtain ⟨word, rfl, hword⟩ := h
  obtain ⟨word', rfl, hword'⟩ := h'
  refine ⟨word' ++ word, (List.append_assoc ..).symm, ?_⟩
  intro c hc
  rcases List.mem_append.1 hc with hc | hc
  · exact hword' c hc
  · exact hword c hc

theorem WordUpTo.cons (hc : isWordPart c = true) (h : WordUpTo ds cs) : WordUpTo ds (c :: cs) :=
  h.trans ⟨[c], rfl, by simpa using hc⟩

/-- What is dropped while characters of words come is a word. -/
theorem WordUpTo.dropWhile {p : Char → Bool} (hp : ∀ {c}, p c = true → isWordPart c = true)
    (cs : List Char) : WordUpTo (cs.dropWhile p) cs :=
  ⟨cs.takeWhile p, List.takeWhile_append_dropWhile.symm, fun c hc =>
    hp (List.all_eq_true.1 List.all_takeWhile c hc)⟩

/-- The sign that is split off is a word. -/
theorem wordUpTo_splitMinus (cs : List Char) : WordUpTo (splitMinus cs).2 cs := by
  unfold splitMinus
  split
  · exact .cons (by decide) .refl
  · exact .refl

/-- The fraction that is split off is a word. -/
theorem wordUpTo_fractionPart (cs : List Char) : WordUpTo (fractionPart cs).2 cs := by
  unfold fractionPart
  split
  -- a point without digits behind it is not taken
  · split
    · exact .refl
    · exact .cons (by decide) (.dropWhile isWordPart_of_isDecimal _)
  · exact .refl

/-- A number is a word. -/
theorem wordUpTo_readNumber {p : NumberParts} (h : readNumber? cs = some p) :
    WordUpTo p.rest cs := by
  simp only [readNumber?] at h
  split at h
  · simp at h
  · obtain rfl := Option.some.inj h
    -- a sign, the digits in front of a point, and the point with the digits behind it
    exact (wordUpTo_fractionPart _).trans
      ((WordUpTo.dropWhile isWordPart_of_isDecimal _).trans (wordUpTo_splitMinus cs))

/-- A name is a word. -/
theorem wordUpTo_name (h : isNameStart c = true) (cs : List Char) :
    WordUpTo (cs.dropWhile isNamePart) (c :: cs) :=
  .cons (isWordPart_of_isNamePart (isNamePart_of_isNameStart h))
    (.dropWhile isWordPart_of_isNamePart cs)

end ODataService.Filter
