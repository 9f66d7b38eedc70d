import ODataService.Proofs.Bind
import ODataService.Proofs.Filter.Grammar
import ODataService.Proofs.Filter.Tokens

/-!
# The reader of filters and the grammar

`Filter.ofTokens` reads a token list by readers that call each other. This module proves that they
read what the grammar of `ODataService.Proofs.Filter.Grammar` derives, and nothing else.

* A reader takes a derivation off the front of the tokens whatever follows (`Conjunction.read` and
  its siblings), by induction on the derivation.
* What a reader takes is a derivation (`readersSound`), by induction on its fuel, with one lemma for
  each reader.

Main result: `ofTokens_iff_derivation`, on the token lists of texts.
-/

namespace ODataService.Filter

/-! ## Single tokens -/

/-- A reader stands at a word when the first token is that word. -/
theorem atWord_cons {word : String} {t : Token} {ts : List Token} :
    atWord word (t :: ts) = true ↔ t.IsWord word := by
  simp [atWord, front, Token.IsWord]

/-- The operator of a name is the one that has it. -/
theorem Comparator.ofName?_eq_some_iff {name : String} {c : Comparator} :
    Comparator.ofName? name = some c ↔ name = c.name := by
  -- the name is looked up among all operators, and each of them finds itself
  constructor
  · intro h
    have hc := List.find?_some h
    simp only [beq_iff_eq] at hc
    exact hc.symm
  · rintro rfl
    cases c <;> rfl

/-- The text function of a name is the one that has it. -/
theorem TextFunction.ofName?_eq_some_iff {name : String} {fn : TextFunction} :
    TextFunction.ofName? name = some fn ↔ name = fn.name := by
  -- as for the operators
  constructor
  · intro h
    have hfn := List.find?_some h
    simp only [beq_iff_eq] at hfn
    exact hfn.symm
  · rintro rfl
    cases fn <;> rfl

/-- A token is read as a literal when the grammar says that it is that literal. -/
theorem literal?_eq_some_iff {t : Token} {v : Scalar} : t.literal? = some v ↔ Literal t v := by
  constructor
  · intro h
    unfold Token.literal? at h
    split at h
    · next hk => exact Option.some.inj h ▸ .quoted hk
    · next hk => exact Option.some.inj h ▸ .number hk
    · next hk =>
      -- a name is a literal only where it is one of three words
      unfold literalWord? at h
      split at h
      · next hw => exact Option.some.inj h ▸ .yes ⟨hk, hw⟩
      · next hw => exact Option.some.inj h ▸ .no ⟨hk, hw⟩
      · next hw => exact Option.some.inj h ▸ .null ⟨hk, hw⟩
      · simp at h
    · simp at h
  · intro h
    cases h with
    | quoted h => simp [Token.literal?, h]
    | number h => simp [Token.literal?, h]
    | yes h => simp [Token.literal?, literalWord?, h.1, h.2]
    | no h => simp [Token.literal?, literalWord?, h.1, h.2]
    | null h => simp [Token.literal?, literalWord?, h.1, h.2]

/-- A token is read as an operator when it is a name that names the operator. -/
theorem comparator?_eq_some_iff {t : Token} {c : Comparator} :
    t.comparator? = some c ↔ t.IsNamed c.name := by
  unfold Token.comparator? Token.IsNamed
  split
  · next h => simp [h, Comparator.ofName?_eq_some_iff]
  · next h => simp [h]

/-- A token of the kind that is expected is taken. -/
theorem expect_cons {kind : TokenKind} {what : String} {t : Token} {ts : List Token}
    (h : t.kind = kind) : expect kind what (t :: ts) = .ok (t, ts) := by
  simp [expect, front, h]

/-- A token that is read stands in front, unless it marks the end of the text. -/
theorem expect_eq_ok {kind : TokenKind} {what : String} {ts rest : List Token} {t : Token}
    (hk : kind ≠ .finish) (h : expect kind what ts = .ok (t, rest)) :
    ts = t :: rest ∧ t.kind = kind := by
  simp only [expect] at h
  split at h
  · next hf =>
    obtain ⟨rfl, rfl⟩ := Prod.mk.inj (Except.ok.inj h)
    -- without tokens the reader sees the mark of the end, which was not asked for
    cases ts with
    | nil => exact absurd hf.symm hk
    | cons t ts => exact ⟨rfl, hf⟩
  · simp at h

/-- A name is read as a property. -/
theorem readProperty_cons {t : Token} (ts : List Token) (h : t.kind = .name) :
    readProperty (t :: ts) = .ok (t.text, ts) := by
  rw [readProperty, expect_cons h]
  rfl

/-- A string is read as a text. -/
theorem readText_cons {t : Token} (ts : List Token) (h : t.kind = .string) :
    readText (t :: ts) = .ok (t.textValue, ts) := by
  rw [readText, expect_cons h]
  rfl

/-! ## Derivations are read

A reader takes a derivation off the front of the tokens, whatever stands behind it, as long as that
is no word that would go on with it. The fuel need not be more than four for each token and a few for
the levels of the grammar above it. -/

/-- The operands of a conjunction end where no `and` stands. -/
theorem readMoreConjuncts_stop {n : Nat} {ts : List Token} (h : atWord "and" ts = false) :
    readMoreConjuncts (n + 1) ts = .ok ([], ts) := by
  simp [readMoreConjuncts, h]

/-- The operands of a disjunction end where no `or` stands. -/
theorem readMoreDisjuncts_stop {n : Nat} {ts : List Token} (h : atWord "or" ts = false) :
    readMoreDisjuncts (n + 1) ts = .ok ([], ts) := by
  simp [readMoreDisjuncts, h]

/-- A conjunction is read when its first operand and the further ones are. -/
theorem readConjunction_of {n : Nat} {ts us rest : List Token} {f : Filter} {fs : List Filter}
    (h : readDisjunction n ts = .ok (f, us)) (hs : readMoreConjuncts n us = .ok (fs, rest)) :
    readConjunction (n + 1) ts = .ok (connect .and f fs, rest) := by
  simp only [readConjunction, h, ok_bind, hs]
  rfl

/-- Further operands of a conjunction are read behind an `and`. -/
theorem readMoreConjuncts_of {n : Nat} {t : Token} {ts us rest : List Token} {f : Filter}
    {fs : List Filter} (ht : t.IsWord "and") (h : readDisjunction n ts = .ok (f, us))
    (hs : readMoreConjuncts n us = .ok (fs, rest)) :
    readMoreConjuncts (n + 1) (t :: ts) = .ok (f :: fs, rest) := by
  simp only [readMoreConjuncts, atWord_cons.mpr ht, if_true, List.tail_cons, h, ok_bind, hs]
  rfl

/-- A disjunction is read when its first operand and the further ones are. -/
theorem readDisjunction_of {n : Nat} {ts us rest : List Token} {f : Filter} {fs : List Filter}
    (h : readUnary n ts = .ok (f, us)) (hs : readMoreDisjuncts n us = .ok (fs, rest)) :
    readDisjunction (n + 1) ts = .ok (connect .or f fs, rest) := by
  simp only [readDisjunction, h, ok_bind, hs]
  rfl

/-- Further operands of a disjunction are read behind an `or`. -/
theorem readMoreDisjuncts_of {n : Nat} {t : Token} {ts us rest : List Token} {f : Filter}
    {fs : List Filter} (ht : t.IsWord "or") (h : readUnary n ts = .ok (f, us))
    (hs : readMoreDisjuncts n us = .ok (fs, rest)) :
    readMoreDisjuncts (n + 1) (t :: ts) = .ok (f :: fs, rest) := by
  simp only [readMoreDisjuncts, atWord_cons.mpr ht, if_true, List.tail_cons, h, ok_bind, hs]
  rfl

/-- Behind the first operand of a conjunction stands `and` or what follows the whole. -/
theorem MoreConjuncts.atWord_or {us rest : List Token} {fs : List Filter}
    (h : MoreConjuncts us fs) (ho : atWord "or" rest = false) :
    atWord "or" (us ++ rest) = false := by
  cases h with
  | nil => exact ho
  | cons ht _ _ => simp [atWord, front, ht.1, ht.2]

/-- A call is read off the front of the tokens. -/
theorem readPrimary_call {n : Nat} {ts : List Token} {f : Filter} (h : Call ts f)
    (rest : List Token) : readPrimary (n + 1) (ts ++ rest) = .ok (f, rest) := by
  cases h with
  | @fieldFirst name left field comma argument right fn hn hs hl hf hc ha hr =>
    have hfn : TextFunction.ofName? (Text.lower name.text) = some fn :=
      TextFunction.ofName?_eq_some_iff.mpr hn.2
    -- the parenthesis behind the name makes it a call
    simp only [readPrimary, List.cons_append, List.nil_append, front, hn.1, List.tail_cons, hl,
      if_true, readCall, hfn]
    -- the function that takes its text first has a rule of its own
    cases fn with
    | substringof => exact absurd rfl hs
    | _ =>
      simp only [expect_cons hl, ok_bind, readProperty_cons _ hf, expect_cons hc,
        readText_cons _ ha, expect_cons hr]
      rfl
  | @textFirst name left argument comma field right hn hl ha hc hf hr =>
    have hfn : TextFunction.ofName? (Text.lower name.text) = some .substringof :=
      TextFunction.ofName?_eq_some_iff.mpr hn.2
    simp only [readPrimary, List.cons_append, List.nil_append, front, hn.1, List.tail_cons, hl,
      if_true, readCall, hfn, expect_cons hl, ok_bind, readProperty_cons _ hf, expect_cons hc,
      readText_cons _ ha, expect_cons hr]
    rfl

/-- A comparison is read off the front of the tokens. -/
theorem readPrimary_comparison {n : Nat} {ts : List Token} {f : Filter} (h : Comparison ts f)
    (rest : List Token) : readPrimary (n + 1) (ts ++ rest) = .ok (f, rest) := by
  cases h with
  | @mk field op value c v hf ho hv =>
    -- the operator is a name, so what follows the property is no parenthesis
    simp only [readPrimary, List.cons_append, List.nil_append, front, hf, List.tail_cons, ho.1,
      reduceCtorEq, if_false, readComparison, comparator?_eq_some_iff.mpr ho, readLiteral,
      literal?_eq_some_iff.mpr hv, ok_bind]
    rfl

mutual

/-- A derivation of a filter is read as that filter. -/
theorem Conjunction.read {ts : List Token} {f : Filter} (h : Conjunction ts f) {fuel : Nat}
    (rest : List Token) (hn : 4 * ts.length + 4 ≤ fuel) (ha : atWord "and" rest = false)
    (ho : atWord "or" rest = false) : readConjunction fuel (ts ++ rest) = .ok (f, rest) := by
  -- one unit for this reader and one for the reader of further operands, which stops
  obtain ⟨n, rfl⟩ : ∃ n, fuel = n + 2 := ⟨fuel - 2, by omega⟩
  -- behind the first operand stand the further ones, so what is left for it starts with no `or`
  match h with
  | .single h =>
    exact readConjunction_of (h.read rest (by omega) ho) (readMoreConjuncts_stop ha)
  | @Conjunction.several ts us f g gs h hs =>
    rw [List.length_append] at hn
    rw [List.append_assoc]
    exact readConjunction_of (h.read (us ++ rest) (by omega) (hs.atWord_or ho))
      (hs.read rest (by omega) ha ho)

/-- Further operands of a conjunction are read as those filters. -/
theorem MoreConjuncts.read {ts : List Token} {fs : List Filter} (h : MoreConjuncts ts fs)
    {fuel : Nat} (rest : List Token) (hn : 4 * ts.length + 1 ≤ fuel)
    (ha : atWord "and" rest = false) (ho : atWord "or" rest = false) :
    readMoreConjuncts fuel (ts ++ rest) = .ok (fs, rest) := by
  -- these readers spend four units on each level, and each operand has a word in front of it
  obtain ⟨n, rfl⟩ : ∃ n, fuel = n + 1 := ⟨fuel - 1, by omega⟩
  match h with
  | .nil => exact readMoreConjuncts_stop ha
  | @MoreConjuncts.cons t ts us f fs ht h hs =>
    rw [List.length_cons, List.length_append] at hn
    rw [List.cons_append, List.append_assoc]
    exact readMoreConjuncts_of ht (h.read (us ++ rest) (by omega) (hs.atWord_or ho))
      (hs.read rest (by omega) ha ho)

/-- A derivation of a disjunction is read as that filter. -/
theorem Disjunction.read {ts : List Token} {f : Filter} (h : Disjunction ts f) {fuel : Nat}
    (rest : List Token) (hn : 4 * ts.length + 3 ≤ fuel) (ho : atWord "or" rest = false) :
    readDisjunction fuel (ts ++ rest) = .ok (f, rest) := by
  obtain ⟨n, rfl⟩ : ∃ n, fuel = n + 2 := ⟨fuel - 2, by omega⟩
  match h with
  | .single h =>
    exact readDisjunction_of (h.read rest (by omega)) (readMoreDisjuncts_stop ho)
  | @Disjunction.several ts us f g gs h hs =>
    rw [List.length_append] at hn
    rw [List.append_assoc]
    exact readDisjunction_of (h.read (us ++ rest) (by omega)) (hs.read rest (by omega) ho)

/-- Further operands of a disjunction are read as those filters. -/
theorem MoreDisjuncts.read {ts : List Token} {fs : List Filter} (h : MoreDisjuncts ts fs)
    {fuel : Nat} (rest : List Token) (hn : 4 * ts.length + 1 ≤ fuel)
    (ho : atWord "or" rest = false) : readMoreDisjuncts fuel (ts ++ rest) = .ok (fs, rest) := by
  obtain ⟨n, rfl⟩ : ∃ n, fuel = n + 1 := ⟨fuel - 1, by omega⟩
  match h with
  | .nil => exact readMoreDisjuncts_stop ho
  | @MoreDisjuncts.cons t ts us f fs ht h hs =>
    rw [List.length_cons, List.length_append] at hn
    rw [List.cons_append, List.append_assoc]
    exact readMoreDisjuncts_of ht (h.read (us ++ rest) (by omega)) (hs.read rest (by omega) ho)

/-- A derivation of an operand is read as that filter. -/
theorem Unary.read {ts : List Token} {f : Filter} (h : Unary ts f) {fuel : Nat}
    (rest : List Token) (hn : 4 * ts.length + 2 ≤ fuel) :
    readUnary fuel (ts ++ rest) = .ok (f, rest) := by
  obtain ⟨n, rfl⟩ : ∃ n, fuel = n + 1 := ⟨fuel - 1, by omega⟩
  match h with
  | @Unary.negation t ts f ht h =>
    rw [List.length_cons] at hn
    simp only [List.cons_append, readUnary, atWord_cons.mpr ht, if_true, List.tail_cons,
      h.read rest (show 4 * ts.length + 2 ≤ n by omega), ok_bind]
    rfl
  | @Unary.plain t ts f ht h =>
    -- the first token is not the word `not`, so the reader goes on to the primary
    rw [List.cons_append, readUnary, if_neg (mt atWord_cons.mp ht)]
    exact h.read rest (by omega)

/-- A derivation of a primary is read as that filter. -/
theorem Primary.read {ts : List Token} {f : Filter} (h : Primary ts f) {fuel : Nat}
    (rest : List Token) (hn : 4 * ts.length + 1 ≤ fuel) :
    readPrimary fuel (ts ++ rest) = .ok (f, rest) := by
  obtain ⟨n, rfl⟩ : ∃ n, fuel = n + 1 := ⟨fuel - 1, by omega⟩
  match h with
  | @Primary.grouped left right ts f hl h hr =>
    rw [List.length_cons, List.length_append, List.length_singleton] at hn
    -- what follows the conjunction is the closing parenthesis, which is no word
    have ha : ∀ word, atWord word (right :: rest) = false := by simp [atWord, front, hr]
    have hread := h.read (right :: rest) (show 4 * ts.length + 4 ≤ n by omega) (ha _) (ha _)
    simp only [List.cons_append, List.append_assoc, List.nil_append, readPrimary, front, hl,
      List.tail_cons, hread, ok_bind, expect_cons hr]
    rfl
  | .call h => exact readPrimary_call h rest
  | .comparison h => exact readPrimary_comparison h rest

end

/-! ## What is read is derived -/

/-- What is read as a property is a name. -/
theorem readProperty_eq_ok {ts rest : List Token} {s : String}
    (h : readProperty ts = .ok (s, rest)) : ∃ t, ts = t :: rest ∧ t.kind = .name ∧ t.text = s := by
  simp only [readProperty, bind_eq_ok, Prod.exists] at h
  obtain ⟨t, us, ht, h⟩ := h
  obtain ⟨rfl, rfl⟩ := Prod.mk.inj (Except.ok.inj h)
  obtain ⟨rfl, hk⟩ := expect_eq_ok (by simp) ht
  exact ⟨t, rfl, hk, rfl⟩

/-- What is read as a text is a string. -/
theorem readText_eq_ok {ts rest : List Token} {s : String} (h : readText ts = .ok (s, rest)) :
    ∃ t, ts = t :: rest ∧ t.kind = .string ∧ t.textValue = s := by
  simp only [readText, bind_eq_ok, Prod.exists] at h
  obtain ⟨t, us, ht, h⟩ := h
  obtain ⟨rfl, rfl⟩ := Prod.mk.inj (Except.ok.inj h)
  obtain ⟨rfl, hk⟩ := expect_eq_ok (by simp) ht
  exact ⟨t, rfl, hk, rfl⟩

/-- What is read behind the name of a function makes up a call with it. -/
theorem readCall_eq_ok {name : Token} {ts rest : List Token} {f : Filter}
    (hk : name.kind = .name) (h : readCall name ts = .ok (f, rest)) :
    ∃ us, ts = us ++ rest ∧ Call (name :: us) f := by
  unfold readCall at h
  split at h
  · simp at h
  · next hfn =>
    -- the text comes first
    have hn : name.IsNamed TextFunction.substringof.name :=
      ⟨hk, TextFunction.ofName?_eq_some_iff.mp hfn⟩
    simp only [bind_eq_ok, Prod.exists] at h
    obtain ⟨left, ts₁, h₁, _, ts₂, h₂, comma, ts₃, h₃, _, ts₄, h₄, right, ts₅, h₅, h⟩ := h
    obtain ⟨rfl, rfl⟩ := Prod.mk.inj (Except.ok.inj h)
    obtain ⟨rfl, hl⟩ := expect_eq_ok (by simp) h₁
    obtain ⟨argument, rfl, ha, rfl⟩ := readText_eq_ok h₂
    obtain ⟨rfl, hc⟩ := expect_eq_ok (by simp) h₃
    obtain ⟨field, rfl, hf, rfl⟩ := readProperty_eq_ok h₄
    obtain ⟨rfl, hr⟩ := expect_eq_ok (by simp) h₅
    exact ⟨[left, argument, comma, field, right], rfl, .textFirst hn hl ha hc hf hr⟩
  · next fn hs hfn =>
    -- the property comes first
    have hn : name.IsNamed fn.name := ⟨hk, TextFunction.ofName?_eq_some_iff.mp hfn⟩
    simp only [bind_eq_ok, Prod.exists] at h
    obtain ⟨left, ts₁, h₁, _, ts₂, h₂, comma, ts₃, h₃, _, ts₄, h₄, right, ts₅, h₅, h⟩ := h
    obtain ⟨rfl, rfl⟩ := Prod.mk.inj (Except.ok.inj h)
    obtain ⟨rfl, hl⟩ := expect_eq_ok (by simp) h₁
    obtain ⟨field, rfl, hf, rfl⟩ := readProperty_eq_ok h₂
    obtain ⟨rfl, hc⟩ := expect_eq_ok (by simp) h₃
    obtain ⟨argument, rfl, ha, rfl⟩ := readText_eq_ok h₄
    obtain ⟨rfl, hr⟩ := expect_eq_ok (by simp) h₅
    exact ⟨[left, field, comma, argument, right], rfl, .fieldFirst hn hs hl hf hc ha hr⟩

/-- What is read behind a property makes up a comparison with it. -/
theorem readComparison_eq_ok {field : Token} {ts rest : List Token} {f : Filter}
    (hk : field.kind = .name) (h : readComparison field.text ts = .ok (f, rest)) :
    ∃ us, ts = us ++ rest ∧ Comparison (field :: us) f := by
  cases ts with
  -- where the tokens end the readers see the mark of the end, which is no operator
  | nil => simp [readComparison, front, Token.comparator?] at h
  | cons op ts =>
    simp only [readComparison, front, List.tail_cons] at h
    split at h
    · simp at h
    · next c hc =>
      simp only [bind_eq_ok, Prod.exists] at h
      obtain ⟨v, ts₁, hv, h⟩ := h
      obtain ⟨rfl, rfl⟩ := Prod.mk.inj (Except.ok.inj h)
      cases ts with
      -- and no value
      | nil => simp [readLiteral, front, Token.literal?] at hv
      | cons value ts =>
        simp only [readLiteral, front, List.tail_cons] at hv
        split at hv
        · next hl =>
          obtain ⟨rfl, rfl⟩ := Prod.mk.inj (Except.ok.inj hv)
          exact ⟨[op, value], rfl,
            .mk hk (comparator?_eq_some_iff.mp hc) (literal?_eq_some_iff.mp hl)⟩
        · simp at hv

/-- A first operand and the others behind it are a conjunction. -/
theorem Conjunction.ofOperands {ts us : List Token} {f : Filter} {fs : List Filter}
    (h : Disjunction ts f) (hs : MoreConjuncts us fs) :
    Conjunction (ts ++ us) (connect .and f fs) := by
  cases hs with
  | nil =>
    rw [List.append_nil]
    exact .single h
  | cons ht h' hs => exact .several h (.cons ht h' hs)

/-- A first operand and the others behind it are a disjunction. -/
theorem Disjunction.ofOperands {ts us : List Token} {f : Filter} {fs : List Filter}
    (h : Unary ts f) (hs : MoreDisjuncts us fs) : Disjunction (ts ++ us) (connect .or f fs) := by
  cases hs with
  | nil =>
    rw [List.append_nil]
    exact .single h
  | cons ht h' hs => exact .several h (.cons ht h' hs)

/-- A word in front of the tokens is the first of them. -/
theorem cons_of_atWord {word : String} {ts : List Token} (h : atWord word ts = true) :
    ∃ t us, ts = t :: us ∧ t.IsWord word := by
  cases ts with
  | nil => simp [atWord, front] at h
  | cons t us => exact ⟨t, us, rfl, atWord_cons.mp h⟩

/-- What the readers take with a given fuel is derived, and what they leave is the rest. -/
structure ReadersSound (n : Nat) : Prop where
  conjunction : ∀ {ts rest f}, readConjunction n ts = .ok (f, rest) →
    ∃ us, ts = us ++ rest ∧ Conjunction us f
  moreConjuncts : ∀ {ts rest fs}, readMoreConjuncts n ts = .ok (fs, rest) →
    ∃ us, ts = us ++ rest ∧ MoreConjuncts us fs
  disjunction : ∀ {ts rest f}, readDisjunction n ts = .ok (f, rest) →
    ∃ us, ts = us ++ rest ∧ Disjunction us f
  moreDisjuncts : ∀ {ts rest fs}, readMoreDisjuncts n ts = .ok (fs, rest) →
    ∃ us, ts = us ++ rest ∧ MoreDisjuncts us fs
  unary : ∀ {ts rest f}, readUnary n ts = .ok (f, rest) → ∃ us, ts = us ++ rest ∧ Unary us f
  primary : ∀ {ts rest f}, readPrimary n ts = .ok (f, rest) →
    ∃ us, ts = us ++ rest ∧ Primary us f

/-- Without fuel nothing is read. -/
theorem readersSound_zero : ReadersSound 0 := by
  constructor <;> intro ts rest f h <;>
    simp [readConjunction, readMoreConjuncts, readDisjunction, readMoreDisjuncts, readUnary,
      readPrimary, unexpected] at h

section step

variable {n : Nat} (ih : ReadersSound n)

include ih

/-- What is read as a conjunction is derived as one. -/
theorem readConjunction_sound {ts rest : List Token} {f : Filter}
    (h : readConjunction (n + 1) ts = .ok (f, rest)) : ∃ us, ts = us ++ rest ∧ Conjunction us f := by
  simp only [readConjunction, bind_eq_ok, Prod.exists] at h
  obtain ⟨g, ts₁, h₁, gs, ts₂, h₂, h⟩ := h
  obtain ⟨rfl, rfl⟩ := Prod.mk.inj (Except.ok.inj h)
  -- what the readers of the operands take is derived, with one unit of fuel less
  obtain ⟨us, rfl, hg⟩ := ih.disjunction h₁
  obtain ⟨vs, rfl, hgs⟩ := ih.moreConjuncts h₂
  exact ⟨us ++ vs, by rw [List.append_assoc], .ofOperands hg hgs⟩

/-- What is read as further operands of a conjunction is derived as such. -/
theorem readMoreConjuncts_sound {ts rest : List Token} {fs : List Filter}
    (h : readMoreConjuncts (n + 1) ts = .ok (fs, rest)) :
    ∃ us, ts = us ++ rest ∧ MoreConjuncts us fs := by
  rw [readMoreConjuncts] at h
  split at h
  · next hw =>
    obtain ⟨t, ts, rfl, ht⟩ := cons_of_atWord hw
    simp only [List.tail_cons, bind_eq_ok, Prod.exists] at h
    obtain ⟨g, ts₁, h₁, gs, ts₂, h₂, h⟩ := h
    obtain ⟨rfl, rfl⟩ := Prod.mk.inj (Except.ok.inj h)
    obtain ⟨us, rfl, hg⟩ := ih.disjunction h₁
    obtain ⟨vs, rfl, hgs⟩ := ih.moreConjuncts h₂
    exact ⟨t :: (us ++ vs), by rw [List.cons_append, List.append_assoc], .cons ht hg hgs⟩
  -- no `and` stands here, and nothing was taken
  · obtain ⟨rfl, rfl⟩ := Prod.mk.inj (Except.ok.inj h)
    exact ⟨[], rfl, .nil⟩

/-- What is read as a disjunction is derived as one. -/
theorem readDisjunction_sound {ts rest : List Token} {f : Filter}
    (h : readDisjunction (n + 1) ts = .ok (f, rest)) : ∃ us, ts = us ++ rest ∧ Disjunction us f := by
  simp only [readDisjunction, bind_eq_ok, Prod.exists] at h
  obtain ⟨g, ts₁, h₁, gs, ts₂, h₂, h⟩ := h
  obtain ⟨rfl, rfl⟩ := Prod.mk.inj (Except.ok.inj h)
  obtain ⟨us, rfl, hg⟩ := ih.unary h₁
  obtain ⟨vs, rfl, hgs⟩ := ih.moreDisjuncts h₂
  exact ⟨us ++ vs, by rw [List.append_assoc], .ofOperands hg hgs⟩

/-- What is read as further operands of a disjunction is derived as such. -/
theorem readMoreDisjuncts_sound {ts rest : List Token} {fs : List Filter}
    (h : readMoreDisjuncts (n + 1) ts = .ok (fs, rest)) :
    ∃ us, ts = us ++ rest ∧ MoreDisjuncts us fs := by
  rw [readMoreDisjuncts] at h
  split at h
  · next hw =>
    obtain ⟨t, ts, rfl, ht⟩ := cons_of_atWord hw
    simp only [List.tail_cons, bind_eq_ok, Prod.exists] at h
    obtain ⟨g, ts₁, h₁, gs, ts₂, h₂, h⟩ := h
    obtain ⟨rfl, rfl⟩ := Prod.mk.inj (Except.ok.inj h)
    obtain ⟨us, rfl, hg⟩ := ih.unary h₁
    obtain ⟨vs, rfl, hgs⟩ := ih.moreDisjuncts h₂
    exact ⟨t :: (us ++ vs), by rw [List.cons_append, List.append_assoc], .cons ht hg hgs⟩
  -- no `or` stands here, and nothing was taken
  · obtain ⟨rfl, rfl⟩ := Prod.mk.inj (Except.ok.inj h)
    exact ⟨[], rfl, .nil⟩

/-- What is read as a primary is derived as one. -/
theorem readPrimary_sound {ts rest : List Token} {f : Filter}
    (h : readPrimary (n + 1) ts = .ok (f, rest)) : ∃ us, ts = us ++ rest ∧ Primary us f := by
  cases ts with
  | nil => simp [readPrimary, front, unexpected] at h
  | cons t ts =>
    rw [readPrimary] at h
    split at h
    · next hl =>
      simp only [List.tail_cons, bind_eq_ok, Prod.exists] at h
      obtain ⟨g, ts₁, h₁, right, ts₂, h₂, h⟩ := h
      obtain ⟨rfl, rfl⟩ := Prod.mk.inj (Except.ok.inj h)
      obtain ⟨us, rfl, hg⟩ := ih.conjunction h₁
      obtain ⟨rfl, hr⟩ := expect_eq_ok (by simp) h₂
      -- parentheses leave no node, so the filter is that of the conjunction
      exact ⟨t :: (us ++ [right]), by simp, .grouped hl hg hr⟩
    · next hk =>
      -- a parenthesis behind the name tells a call from a comparison
      split at h
      · obtain ⟨us, hus, hc⟩ := readCall_eq_ok hk h
        exact ⟨t :: us, congrArg (t :: ·) hus, .call hc⟩
      · obtain ⟨us, hus, hc⟩ := readComparison_eq_ok hk h
        exact ⟨t :: us, congrArg (t :: ·) hus, .comparison hc⟩
    · simp [unexpected] at h

/-- What is read as an operand is derived as one. -/
theorem readUnary_sound {ts rest : List Token} {f : Filter}
    (h : readUnary (n + 1) ts = .ok (f, rest)) : ∃ us, ts = us ++ rest ∧ Unary us f := by
  rw [readUnary] at h
  split at h
  · next hw =>
    obtain ⟨t, ts, rfl, ht⟩ := cons_of_atWord hw
    simp only [List.tail_cons, bind_eq_ok, Prod.exists] at h
    obtain ⟨g, ts₁, h₁, h⟩ := h
    obtain ⟨rfl, rfl⟩ := Prod.mk.inj (Except.ok.inj h)
    obtain ⟨us, rfl, hg⟩ := ih.unary h₁
    exact ⟨t :: us, rfl, .negation ht hg⟩
  · next hw =>
    obtain ⟨us, rfl, hf⟩ := ih.primary h
    -- the first token is not the word, so this is no negation
    obtain ⟨t, us, rfl⟩ := List.exists_cons_of_ne_nil hf.ne_nil
    exact ⟨t :: us, rfl, .plain (mt atWord_cons.mpr hw) hf⟩

end step

/-- The readers take derivations only. -/
theorem readersSound (n : Nat) : ReadersSound n := by
  induction n with
  -- every reader calls the others with one unit of fuel less
  | zero => exact readersSound_zero
  | succ n ih =>
    exact ⟨readConjunction_sound ih, readMoreConjuncts_sound ih, readDisjunction_sound ih,
      readMoreDisjuncts_sound ih, readUnary_sound ih, readPrimary_sound ih⟩

/-! ## Whole token lists -/

/-- The mark of the end is no word. -/
theorem atWord_finish {word : String} {t : Token} (h : t.kind = .finish) :
    atWord word [t] = false := by
  simp [atWord, front, h]

/-- A token list is read as a filter exactly when what stands in front of its end mark is a text of
the filter. -/
theorem ofTokens_eq_ok_iff {body : List Token} {mark : Token} {f : Filter}
    (hb : ∀ t ∈ body, t.kind ≠ .finish) (hm : mark.kind = .finish) :
    ofTokens (body ++ [mark]) = .ok f ↔ Conjunction body f := by
  constructor
  · intro h
    simp only [ofTokens, bind_eq_ok, Prod.exists] at h
    obtain ⟨g, rest, hread, h⟩ := h
    obtain ⟨us, hus, hg⟩ := (readersSound _).conjunction hread
    split at h
    · next hrest =>
      obtain rfl := Except.ok.inj h
      -- the reader stopped in front of an end mark, and there is one only
      have : us = body := by
        rcases List.append_eq_append_iff.mp hus with ⟨vs, rfl, hvs⟩ | ⟨vs, rfl, hvs⟩
        · cases vs with
          | nil => rw [List.append_nil]
          | cons v vs =>
            have hv : v.kind ≠ .finish := by
              refine hg.kind_ne_finish v ?_
              simp
            have hv' : v = mark := (List.cons.inj hvs).1.symm
            exact absurd (hv' ▸ hm) hv
        · cases vs with
          | nil => rw [List.append_nil]
          | cons v vs =>
            rw [hvs] at hrest
            exact absurd hrest (hb v (by simp))
      exact this ▸ hg
    · simp [unexpected] at h
  · intro h
    -- the fuel is four units for each token, as a derivation needs, and the mark is no word
    have hread := h.read [mark] (show 4 * body.length + 4 ≤ fuelFor (body ++ [mark]) by
      simp [fuelFor]; omega) (atWord_finish hm) (atWord_finish hm)
    simp only [ofTokens, hread, ok_bind, front, hm, if_true]
    rfl

/-- A text of a filter does not go on behind another one. -/
theorem Conjunction.not_append {ts rest : List Token} {f : Filter} (h : Conjunction ts f)
    (hr : rest ≠ []) : ¬ Conjunction (ts ++ rest) f := by
  intro hwhole
  obtain ⟨t, us, rfl⟩ := List.exists_cons_of_ne_nil hr
  by_cases hk : t.kind = .name
  · -- the rest holds another word
    have hcount := hwhole.wordCount_eq
    rw [wordCount_append, h.wordCount_eq, wordCount_cons_name hk] at hcount
    omega
  · -- the rest does not go on, so the same reader would stop in two places
    have hw : ∀ word, atWord word (t :: us) = false := by simp [atWord, front, hk]
    have hlen : 4 * ts.length + 4 ≤ 4 * (ts ++ t :: us).length + 4 := by
      rw [List.length_append]
      omega
    -- the part is read up to the rest, and the whole is read to its end
    have hpart := h.read (t :: us) hlen (hw _) (hw _)
    have hall := hwhole.read [] (Nat.le_refl _) rfl rfl
    rw [List.append_nil, hpart] at hall
    simp at hall

/-- **The reader is the grammar.** Of the tokens of a text the last one marks the end. The list is
read as a filter exactly when the tokens in front of the mark are a text of that filter; every other
list is refused as an invalid `$filter`. No part of the tokens that is a text of a filter makes the
whole list read as that filter. -/
theorem ofTokens_iff_derivation {text : String} {ts : List Token} (h : tokenize text = .ok ts) :
    ∃ body, ts = body ++ [⟨.finish, "", text.length, .null⟩] ∧
      (∀ f, ofTokens ts = .ok f ↔ Conjunction body f) ∧
      ((¬ ∃ f, Conjunction body f) →
        ∃ r, (ofTokens ts).mapError (Fault.rejection text) = .error r ∧
          r.code = .invalidFilter ∧ r.target = some "$filter") ∧
      ∀ part rest f, body = part ++ rest → rest ≠ [] → Conjunction part f →
        ofTokens ts ≠ .ok f := by
  -- the tokens in front of the mark are the only list that can be derived
  obtain ⟨body, hts, hk⟩ := tokensFrom_eq_ok h
  rw [Nat.zero_add, String.length_toList] at hts
  have hiff : ∀ f, ofTokens ts = .ok f ↔ Conjunction body f := by
    intro f
    rw [hts]
    exact ofTokens_eq_ok_iff hk rfl
  refine ⟨body, hts, hiff, ?_, ?_⟩
  · intro hnone
    cases hread : ofTokens ts with
    | ok f => exact absurd ⟨f, (hiff f).mp hread⟩ hnone
    | error fault => exact ⟨fault.rejection text, rfl, rfl, rfl⟩
  -- a filter of a part would be one of the whole, too
  · rintro part rest f rfl hrest hpart hread
    exact hpart.not_append hrest ((hiff f).mp hread)

/-- `or` binds closer than `and`, also without parentheses. -/
theorem derivation_or_inside_and :
    ∃ ts, tokenize "a eq 1 or NOT eq 2 and not (b EQ 'x')" = .ok ts ∧
      Conjunction ts.dropLast
        (.logical .and [.logical .or [.compare "a" .eq (.int 1), .compare "NOT" .eq (.int 2)],
          .not (.compare "b" .eq (.str "x"))]) := by
  have hread : (tokenize "a eq 1 or NOT eq 2 and not (b EQ 'x')").toOption = some
      [⟨.name, "a", 0, .null⟩, ⟨.name, "eq", 2, .null⟩, ⟨.number, "1", 5, .int 1⟩,
        ⟨.name, "or", 7, .null⟩, ⟨.name, "NOT", 10, .null⟩, ⟨.name, "eq", 14, .null⟩,
        ⟨.number, "2", 17, .int 2⟩, ⟨.name, "and", 19, .null⟩, ⟨.name, "not", 23, .null⟩,
        ⟨.leftParen, "(", 27, .null⟩, ⟨.name, "b", 28, .null⟩, ⟨.name, "EQ", 30, .null⟩,
        ⟨.string, "'x'", 33, .str "x"⟩, ⟨.rightParen, ")", 36, .null⟩,
        ⟨.finish, "", 37, .null⟩] := by
    decide +kernel
  cases h : tokenize "a eq 1 or NOT eq 2 and not (b EQ 'x')" with
  | error fault => simp [h, Except.toOption] at hread
  | ok ts =>
    obtain rfl : ts = _ := Option.some.inj (h ▸ hread)
    obtain ⟨body, hts, hiff, -, -⟩ := ofTokens_iff_derivation h
    refine ⟨_, rfl, ?_⟩
    rw [hts, List.dropLast_concat]
    exact (hiff _).mp (by rfl)

end ODataService.Filter
