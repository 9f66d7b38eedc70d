import ODataService.Filter.Parser

/-!
# The grammar of filters

Which token lists are filters, and what they mean, said without a reader: `Conjunction ts f` holds
when the tokens `ts` are a filter text for `f`. The rules are those of the notation, with `and`
outermost and `or` inside it; a single operand stays as it is, and parentheses leave no node.

The words `and`, `or` and `not` are written exactly so (`Token.IsWord`); comparison operators,
functions and the literals that are words may be written in any case (`Token.IsNamed`). An operand
that starts with `not` is a negation and nothing else. A name with a parenthesis behind it is the
name of a call, since what follows the property of a comparison is a name as well.

The derivations are about tokens in front of the end of the text, so no rule mentions the token
that marks it (`Conjunction.kind_ne_finish`), and a derivation never depends on what follows.
-/

namespace ODataService.Filter

/-- The token is a word, written exactly so. -/
def Token.IsWord (word : String) (t : Token) : Prop := t.kind = .name ∧ t.text = word

/-- The token is a word in any case. -/
def Token.IsNamed (word : String) (t : Token) : Prop := t.kind = .name ∧ Text.lower t.text = word

/-- `Literal t v`: the token is a literal with the value `v`. -/
inductive Literal : Token → Scalar → Prop where
  | quoted {t : Token} (h : t.kind = .string) : Literal t t.value
  | number {t : Token} (h : t.kind = .number) : Literal t t.value
  | yes {t : Token} (h : t.IsNamed "true") : Literal t (.bool true)
  | no {t : Token} (h : t.IsNamed "false") : Literal t (.bool false)
  | null {t : Token} (h : t.IsNamed "null") : Literal t .null

/-- `Comparison ts f`: a property, a comparison operator and a literal. -/
inductive Comparison : List Token → Filter → Prop where
  | mk {field op value : Token} {c : Comparator} {v : Scalar} (hf : field.kind = .name)
      (ho : op.IsNamed c.name) (hv : Literal value v) :
      Comparison [field, op, value] (.compare field.text c v)

/-- `Call ts f`: the name of a function and its arguments in parentheses. The property comes first,
except in a call of `substringof`. -/
inductive Call : List Token → Filter → Prop where
  | fieldFirst {name left field comma argument right : Token} {fn : TextFunction}
      (hn : name.IsNamed fn.name) (hs : fn ≠ .substringof) (hl : left.kind = .leftParen)
      (hf : field.kind = .name) (hc : comma.kind = .comma) (ha : argument.kind = .string)
      (hr : right.kind = .rightParen) :
      Call [name, left, field, comma, argument, right] (.text fn field.text argument.textValue)
  | textFirst {name left argument comma field right : Token}
      (hn : name.IsNamed TextFunction.substringof.name) (hl : left.kind = .leftParen)
      (ha : argument.kind = .string) (hc : comma.kind = .comma) (hf : field.kind = .name)
      (hr : right.kind = .rightParen) :
      Call [name, left, argument, comma, field, right]
        (.text .substringof field.text argument.textValue)

mutual

/-- `Conjunction ts f`: operands with `and` between them. -/
inductive Conjunction : List Token → Filter → Prop where
  | single {ts f} (h : Disjunction ts f) : Conjunction ts f
  | several {ts us f g gs} (h : Disjunction ts f) (hs : MoreConjuncts us (g :: gs)) :
      Conjunction (ts ++ us) (.logical .and (f :: g :: gs))

/-- `MoreConjuncts ts fs`: the operands of a conjunction behind its first. -/
inductive MoreConjuncts : List Token → List Filter → Prop where
  | nil : MoreConjuncts [] []
  | cons {t ts us f fs} (ht : t.IsWord "and") (h : Disjunction ts f) (hs : MoreConjuncts us fs) :
      MoreConjuncts (t :: (ts ++ us)) (f :: fs)

/-- `Disjunction ts f`: operands with `or` between them. -/
inductive Disjunction : List Token → Filter → Prop where
  | single {ts f} (h : Unary ts f) : Disjunction ts f
  | several {ts us f g gs} (h : Unary ts f) (hs : MoreDisjuncts us (g :: gs)) :
      Disjunction (ts ++ us) (.logical .or (f :: g :: gs))

/-- `MoreDisjuncts ts fs`: the operands of a disjunction behind its first. -/
inductive MoreDisjuncts : List Token → List Filter → Prop where
  | nil : MoreDisjuncts [] []
  | cons {t ts us f fs} (ht : t.IsWord "or") (h : Unary ts f) (hs : MoreDisjuncts us fs) :
      MoreDisjuncts (t :: (ts ++ us)) (f :: fs)

/-- `Unary ts f`: an operand with the negations in front of it. -/
inductive Unary : List Token → Filter → Prop where
  | negation {t ts f} (ht : t.IsWord "not") (h : Unary ts f) : Unary (t :: ts) (.not f)
  | plain {t ts f} (ht : ¬ t.IsWord "not") (h : Primary (t :: ts) f) : Unary (t :: ts) f

/-- `Primary ts f`: a filter in parentheses, a call or a comparison. -/
inductive Primary : List Token → Filter → Prop where
  | grouped {left right ts f} (hl : left.kind = .leftParen) (h : Conjunction ts f)
      (hr : right.kind = .rightParen) : Primary (left :: (ts ++ [right])) f
  | call {ts f} (h : Call ts f) : Primary ts f
  | comparison {ts f} (h : Comparison ts f) : Primary ts f

end

/-! ## Tokens of derivations -/

theorem Token.IsWord.kind_eq {word : String} {t : Token} (h : t.IsWord word) : t.kind = .name := h.1

/-- A literal is a name, a string or a number. -/
theorem Literal.kind_mem {t : Token} {v : Scalar} (h : Literal t v) :
    t.kind = .name ∨ t.kind = .string ∨ t.kind = .number := by
  -- the words of a literal are names
  cases h with
  | quoted h => exact .inr (.inl h)
  | number h => exact .inr (.inr h)
  | yes h => exact .inl h.1
  | no h => exact .inl h.1
  | null h => exact .inl h.1

/-- No token of a call marks the end of the text. -/
theorem Call.kind_ne_finish {ts : List Token} {f : Filter} (h : Call ts f) :
    ∀ t ∈ ts, t.kind ≠ .finish := by
  cases h with
  | fieldFirst hn _ hl hf hc ha hr => simp [hn.1, hl, hf, hc, ha, hr]
  | textFirst hn hl ha hc hf hr => simp [hn.1, hl, hf, hc, ha, hr]

/-- No token of a comparison marks the end of the text. -/
theorem Comparison.kind_ne_finish {ts : List Token} {f : Filter} (h : Comparison ts f) :
    ∀ t ∈ ts, t.kind ≠ .finish := by
  cases h with
  | mk hf ho hv => rcases hv.kind_mem with hk | hk | hk <;> simp [hf, ho.1, hk]

mutual

/-- No token of a filter text marks its end. -/
theorem Conjunction.kind_ne_finish {ts : List Token} {f : Filter} (h : Conjunction ts f) :
    ∀ t ∈ ts, t.kind ≠ .finish := by
  -- with the derivation: no rule of the grammar uses the end
  match h with
  | .single h => exact h.kind_ne_finish
  | .several h hs =>
    intro t ht
    rcases List.mem_append.mp ht with ht | ht
    · exact h.kind_ne_finish t ht
    · exact hs.kind_ne_finish t ht

/-- No token of further operands is the mark of the end. -/
theorem MoreConjuncts.kind_ne_finish {ts : List Token} {fs : List Filter}
    (h : MoreConjuncts ts fs) : ∀ t ∈ ts, t.kind ≠ .finish := by
  match h with
  | .nil => simp
  | .cons hw h hs =>
    intro t ht
    -- the token is the connective, or one of what it connects
    rcases List.mem_cons.mp ht with rfl | ht
    · simp [hw.kind_eq]
    rcases List.mem_append.mp ht with ht | ht
    · exact h.kind_ne_finish t ht
    · exact hs.kind_ne_finish t ht

/-- No token of a disjunction is the mark of the end. -/
theorem Disjunction.kind_ne_finish {ts : List Token} {f : Filter} (h : Disjunction ts f) :
    ∀ t ∈ ts, t.kind ≠ .finish := by
  match h with
  | .single h => exact h.kind_ne_finish
  | .several h hs =>
    intro t ht
    rcases List.mem_append.mp ht with ht | ht
    · exact h.kind_ne_finish t ht
    · exact hs.kind_ne_finish t ht

/-- No token of further operands is the mark of the end. -/
theorem MoreDisjuncts.kind_ne_finish {ts : List Token} {fs : List Filter}
    (h : MoreDisjuncts ts fs) : ∀ t ∈ ts, t.kind ≠ .finish := by
  match h with
  | .nil => simp
  | .cons hw h hs =>
    intro t ht
    rcases List.mem_cons.mp ht with rfl | ht
    · simp [hw.kind_eq]
    rcases List.mem_append.mp ht with ht | ht
    · exact h.kind_ne_finish t ht
    · exact hs.kind_ne_finish t ht

/-- No token of an operand is the mark of the end. -/
theorem Unary.kind_ne_finish {ts : List Token} {f : Filter} (h : Unary ts f) :
    ∀ t ∈ ts, t.kind ≠ .finish := by
  -- the word in front is a name
  match h with
  | .negation hw h =>
    intro t ht
    rcases List.mem_cons.mp ht with rfl | ht
    · simp [hw.kind_eq]
    · exact h.kind_ne_finish t ht
  | .plain _ h => exact h.kind_ne_finish

/-- No token of a primary is the mark of the end. -/
theorem Primary.kind_ne_finish {ts : List Token} {f : Filter} (h : Primary ts f) :
    ∀ t ∈ ts, t.kind ≠ .finish := by
  match h with
  | .grouped hl h hr =>
    intro t ht
    rcases List.mem_cons.mp ht with rfl | ht
    · simp [hl]
    -- between the parentheses stands a filter text
    rcases List.mem_append.mp ht with ht | ht
    · exact h.kind_ne_finish t ht
    · rw [List.mem_singleton.mp ht, hr]
      simp
  | .call h => exact h.kind_ne_finish
  | .comparison h => exact h.kind_ne_finish

end

/-- A primary has tokens. -/
theorem Primary.ne_nil {ts : List Token} {f : Filter} (h : Primary ts f) : ts ≠ [] := by
  cases h with
  | grouped => simp
  | call h => cases h <;> simp
  | comparison h => cases h; simp

/-! ## Counting words

A filter determines how many words and values its texts have, whatever parentheses they have. So no
text of a filter goes on behind another one with a word. -/

/-- Whether a token is a word or a value, and no punctuation. -/
def Token.isWordOrValue (t : Token) : Bool :=
  t.kind == .name || t.kind == .string || t.kind == .number

/-- How many of the tokens are words or values. -/
def wordCount (ts : List Token) : Nat := ts.countP Token.isWordOrValue

mutual

/-- How many words and values a text of the filter has. -/
def words : Filter → Nat
  | .compare .. => 3
  | .logical _ [] => 0
  | .logical _ (f :: fs) => words f + furtherWords fs
  | .not f => 1 + words f
  | .text .. => 3
  | .oneOf .. => 0

/-- How many words and values stand behind the first operand of a connective. -/
def furtherWords : List Filter → Nat
  | [] => 0
  | f :: fs => 1 + words f + furtherWords fs

end

theorem wordCount_append (ts us : List Token) :
    wordCount (ts ++ us) = wordCount ts + wordCount us := List.countP_append

/-- A name is a word. -/
theorem wordCount_cons_name {t : Token} (h : t.kind = .name) (ts : List Token) :
    wordCount (t :: ts) = 1 + wordCount ts := by
  rw [wordCount, List.countP_cons_of_pos (by simp [Token.isWordOrValue, h]), Nat.add_comm]
  rfl

/-- The words of a call are the name of its function, its property and its text. -/
theorem Call.wordCount_eq {ts : List Token} {f : Filter} (h : Call ts f) :
    wordCount ts = words f := by
  cases h with
  | fieldFirst hn _ hl hf hc ha hr =>
    simp [wordCount, words, Token.isWordOrValue, hn.1, hl, hf, hc, ha, hr]
  | textFirst hn hl ha hc hf hr =>
    simp [wordCount, words, Token.isWordOrValue, hn.1, hl, hf, hc, ha, hr]

/-- The words of a comparison are its property, its operator and its value. -/
theorem Comparison.wordCount_eq {ts : List Token} {f : Filter} (h : Comparison ts f) :
    wordCount ts = words f := by
  cases h with
  | mk hf ho hv =>
    rcases hv.kind_mem with hk | hk | hk <;>
      simp [wordCount, words, Token.isWordOrValue, hf, ho.1, hk]

mutual

/-- A text of a filter has as many words and values as the filter says. -/
theorem Conjunction.wordCount_eq {ts : List Token} {f : Filter} (h : Conjunction ts f) :
    wordCount ts = words f := by
  match h with
  | .single h => exact h.wordCount_eq
  -- the words between the operands are counted with the operands behind them
  | .several h hs => rw [wordCount_append, h.wordCount_eq, hs.wordCount_eq, words]

/-- Further operands have their words and one for each `and`. -/
theorem MoreConjuncts.wordCount_eq {ts : List Token} {fs : List Filter}
    (h : MoreConjuncts ts fs) : wordCount ts = furtherWords fs := by
  match h with
  | .nil => rfl
  | .cons hw h hs =>
    rw [wordCount_cons_name hw.kind_eq, wordCount_append, h.wordCount_eq, hs.wordCount_eq,
      furtherWords, Nat.add_assoc]

/-- A disjunction has the words of its filter. -/
theorem Disjunction.wordCount_eq {ts : List Token} {f : Filter} (h : Disjunction ts f) :
    wordCount ts = words f := by
  match h with
  | .single h => exact h.wordCount_eq
  | .several h hs => rw [wordCount_append, h.wordCount_eq, hs.wordCount_eq, words]

/-- Further operands have their words and one for each `or`. -/
theorem MoreDisjuncts.wordCount_eq {ts : List Token} {fs : List Filter}
    (h : MoreDisjuncts ts fs) : wordCount ts = furtherWords fs := by
  match h with
  | .nil => rfl
  | .cons hw h hs =>
    rw [wordCount_cons_name hw.kind_eq, wordCount_append, h.wordCount_eq, hs.wordCount_eq,
      furtherWords, Nat.add_assoc]

/-- An operand has the words of its filter. -/
theorem Unary.wordCount_eq {ts : List Token} {f : Filter} (h : Unary ts f) :
    wordCount ts = words f := by
  match h with
  | .negation hw h => rw [wordCount_cons_name hw.kind_eq, h.wordCount_eq, words]
  | .plain _ h => exact h.wordCount_eq

/-- A primary has the words of its filter. -/
theorem Primary.wordCount_eq {ts : List Token} {f : Filter} (h : Primary ts f) :
    wordCount ts = words f := by
  match h with
  | @Primary.grouped left right _ _ hl h hr =>
    -- parentheses do not count, so there may be any number of them
    have hleft : left.isWordOrValue = false := by simp [Token.isWordOrValue, hl]
    have hright : right.isWordOrValue = false := by simp [Token.isWordOrValue, hr]
    rw [← h.wordCount_eq]
    simp [wordCount, hleft, hright]
  | .call h => exact h.wordCount_eq
  | .comparison h => exact h.wordCount_eq

end

end ODataService.Filter
