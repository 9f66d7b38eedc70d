import ODataService.Filter.Parser
import ODataService.Proofs.Filter.Balance
import ODataService.Proofs.Filter.Lexemes
import ODataService.Proofs.Filter.Parsing

/-!
# Parentheses outside of strings

A filter text is scanned twice, and each scan has its own way to tell strings from the rest. For the
check of balance every quote opens or closes a string unless a backslash stands in front of it. The
reader of tokens takes two quotes in a row, or a backslash and a quote, for one quote of the string
that it is in. On a text that has tokens they agree:

* `scan_eq`: the check looks at the parentheses outside of strings only (`Quoting.parens`), one
  after the other (`nest`).
* `passes_tokens`: where the tokens of a text are read, these parentheses are the tokens that are
  parentheses, and no string is open at the end. What relates the two scans within a string is that
  a backslash in front is never followed by the quote that is read next (`passes_quoted`).
* `Conjunction.nest_parens`: the parentheses of a filter nest.

Main result: `checkBalance_of_tokens`.
-/

namespace ODataService.Filter

/-- A parenthesis in a text. -/
structure Paren where
  position : Nat
  opens : Bool
deriving DecidableEq, Repr

/-- The parenthesis that a character is, if it is one. -/
def paren? (position : Nat) (c : Char) : Option Paren :=
  if c = '(' then some ⟨position, true⟩ else if c = ')' then some ⟨position, false⟩ else none

/-- Takes parentheses in one after the other. The positions of the open ones are kept, innermost
first. -/
def nest : List Nat → List Paren → Except Fault (List Nat)
  | opened, [] => .ok opened
  | opened, ⟨position, true⟩ :: ps => nest (position :: opened) ps
  | [], ⟨position, false⟩ :: _ => .error (.unmatchedClosing position)
  | _ :: opened, ⟨_, false⟩ :: ps => nest opened ps

/-- Parentheses in a row are taken one part after the other. -/
theorem nest_append (opened : List Nat) (ps qs : List Paren) :
    nest opened (ps ++ qs) = nest opened ps >>= fun opened => nest opened qs := by
  fun_induction nest opened ps with
  | case1 opened => rfl
  | case2 opened position ps ih => exact ih
  | case3 position ps => rfl
  | case4 q opened position ps ih => exact ih

/-! ## The check of balance -/

/-- What a scan knows of strings: the quote that opened the one it is in, and whether a backslash
stands in front. -/
structure Quoting where
  quote : Option Nat := none
  afterBackslash : Bool := false

namespace Quoting

def step (s : Quoting) (position : Nat) (c : Char) : Quoting where
  quote :=
    if c = '\'' && !s.afterBackslash then if s.quote.isSome then none else some position
    else s.quote
  afterBackslash := c == '\\'

/-- The state behind a text that starts at `position`. -/
def after (s : Quoting) (position : Nat) : List Char → Quoting
  | [] => s
  | c :: cs => (s.step position c).after (position + 1) cs

/-- The parenthesis that a character is outside of strings. -/
def outer? (s : Quoting) (position : Nat) (c : Char) : Option Paren :=
  if s.quote.isSome then none else paren? position c

/-- The parentheses outside of strings in a text that starts at `position`. -/
def parens (s : Quoting) (position : Nat) : List Char → List Paren
  | [] => []
  | c :: cs => (s.outer? position c).toList ++ (s.step position c).parens (position + 1) cs

/-- The state of a scan for balance. -/
def balance (s : Quoting) (opened : List Nat) : Balance := ⟨opened, s.quote, s.afterBackslash⟩

/-- One step of the check is one step of the quoting, and one parenthesis more or none. -/
theorem step_eq (s : Quoting) (opened : List Nat) (position : Nat) (c : Char) :
    (s.balance opened).step position c =
      (nest opened (s.outer? position c).toList).map (s.step position c).balance := by
  by_cases hquote : (c = '\'' && !s.afterBackslash) = true
  · -- a quote is no parenthesis, on either side of it
    have hnone : s.outer? position c = none := by
      simp only [Bool.and_eq_true, decide_eq_true_eq] at hquote
      simp [outer?, paren?, hquote.1]
    simp only [Balance.step, step, balance, hquote, hnone, nest, Balance.inQuotes, Except.map,
      Option.toList_none, if_true]
    rfl
  -- inside of a string nothing is counted; outside of it the parenthesis decides
  · by_cases hin : s.quote.isSome = true
    · simp [Balance.step, step, balance, hquote, outer?, hin, nest, Balance.inQuotes, Except.map]
    · by_cases hopen : c = '('
      · simp [Balance.step, step, balance, outer?, hin, paren?, hopen, nest,
          Balance.inQuotes, Except.map]
      · by_cases hclose : c = ')'
        · cases opened <;> simp [Balance.step, step, balance, outer?, hin, paren?, hclose, nest,
            Balance.inQuotes, Except.map]
        · simp [Balance.step, step, balance, hquote, outer?, hin, paren?, hopen, hclose, nest,
            Balance.inQuotes, Except.map]

/-- A parenthesis stands where it was seen. -/
theorem position_of_outer? {s : Quoting} {position : Nat} {c : Char} {p : Paren}
    (h : s.outer? position c = some p) : p.position = position := by
  unfold outer? paren? at h
  split at h
  · simp at h
  split at h
  · exact (Option.some.inj h) ▸ rfl
  split at h
  · exact (Option.some.inj h) ▸ rfl
  · simp at h

/-- A scan for balance takes in the parentheses outside of strings, and nothing else. -/
theorem scan_eq (s : Quoting) (opened : List Nat) (position : Nat) (cs : List Char) :
    (s.balance opened).scan position cs =
      (nest opened (s.parens position cs)).map (s.after position cs).balance := by
  -- both sides fault at the same character, or go on with the same parentheses
  induction cs generalizing s opened position with
  | nil => rfl
  | cons c cs ih =>
    rw [Balance.scan, step_eq, parens, nest_append, after]
    cases nest opened (s.outer? position c).toList with
    | error fault => rfl
    | ok opened => exact ih _ opened _

/-- Outside of strings the end of the text is fine when nothing is open. -/
theorem finish_eq_ok {opened : List Nat} :
    (({} : Quoting).balance opened).finish = .ok () ↔ opened = [] := by
  rw [← List.getLast?_eq_none_iff]
  simp only [Balance.finish, balance]
  cases opened.getLast? <;> simp

/-- The parentheses of a text stand in it. -/
theorem le_position_of_mem_parens {s : Quoting} {position : Nat} {cs : List Char} {p : Paren}
    (h : p ∈ s.parens position cs) : position ≤ p.position := by
  induction cs generalizing s position with
  | nil => simp [parens] at h
  | cons c cs ih =>
    rcases List.mem_append.mp h with h | h
    · exact Nat.le_of_eq (position_of_outer? (Option.mem_toList.mp h)).symm
    · exact Nat.le_of_succ_le (ih h)

/-- The front of a text has the parentheses that stand there. -/
theorem parens_take (s : Quoting) (position n : Nat) (cs : List Char) :
    s.parens position (cs.take n) =
      (s.parens position cs).filter (·.position < position + n) := by
  -- one character of the text is one position of the bound
  induction cs generalizing s position n with
  | nil => simp [parens]
  | cons c cs ih =>
    cases n with
    | zero =>
      -- no parenthesis stands in front of the text
      refine (List.filter_eq_nil_iff.mpr fun p hp => ?_).symm
      simpa using le_position_of_mem_parens hp
    | succ n =>
      -- the first character is in front of the bound, so its parenthesis stays
      have hhead : (s.outer? position c).toList.filter (·.position < position + (n + 1)) =
          (s.outer? position c).toList := by
        refine List.filter_eq_self.mpr fun p hp => ?_
        simp [position_of_outer? (Option.mem_toList.mp hp)]
      rw [List.take_succ_cons, parens, parens, ih, List.filter_append, hhead, Nat.add_assoc,
        Nat.add_comm 1 n]

end Quoting

/-! ## Texts that are passed

What the scan for balance makes of the pieces that the reader of tokens reads. -/

/-- The text at `position` leads from one state to another and has the parentheses `ps` outside of
strings. -/
structure Passes (s : Quoting) (position : Nat) (cs : List Char) (ps : List Paren) (s' : Quoting) :
    Prop where
  after : s.after position cs = s'
  parens : s.parens position cs = ps

variable {s s' s'' : Quoting} {position : Nat} {c : Char} {cs ds : List Char} {ps qs : List Paren}

theorem Passes.nil : Passes s position [] [] s := ⟨rfl, rfl⟩

/-- A text passes as its first character and the rest of it do. -/
theorem Passes.cons (h : Passes (s.step position c) (position + 1) cs ps s') :
    Passes s position (c :: cs) ((s.outer? position c).toList ++ ps) s' :=
  ⟨h.after, congrArg ((s.outer? position c).toList ++ ·) h.parens⟩

/-- Two texts pass one after the other. -/
theorem Passes.append (h : Passes s position cs ps s')
    (h' : Passes s' (position + cs.length) ds qs s'') :
    Passes s position (cs ++ ds) (ps ++ qs) s'' := by
  -- the second text starts where the first one ends, which moves with each character
  induction cs generalizing s position ps with
  | nil =>
    obtain ⟨rfl, rfl⟩ := h
    exact h'
  | cons c cs ih =>
    obtain ⟨rfl, rfl⟩ := h
    have hrest : Passes (s.step position c) (position + 1) (cs ++ ds)
        ((s.step position c).parens (position + 1) cs ++ qs) s'' := by
      refine ih ⟨rfl, rfl⟩ ?_
      rwa [show position + 1 + cs.length = position + (c :: cs).length by
        rw [List.length_cons]; omega]
    rw [Quoting.parens, List.append_assoc]
    exact hrest.cons

/-- A plain character is no parenthesis. -/
theorem outer?_of_isPlain (h : Balance.isPlain c = true) : s.outer? position c = none := by
  simp only [Balance.isPlain, Bool.and_eq_true, bne_iff_ne] at h
  simp [Quoting.outer?, paren?, h.1.2, h.2]

/-- A plain character opens no string. -/
theorem step_of_isPlain (h : Balance.isPlain c = true) :
    ({} : Quoting).step position c = {} := by
  simp only [Balance.isPlain, Bool.and_eq_true, bne_iff_ne] at h
  simp [Quoting.step, h.1.1.1, h.1.1.2]

/-- Outside of strings plain characters change nothing. -/
theorem passes_plain (h : ∀ c ∈ cs, Balance.isPlain c = true) : Passes {} position cs [] {} := by
  induction cs generalizing position with
  | nil => exact .nil
  | cons c cs ih =>
    have hc := h c List.mem_cons_self
    have hrest := @ih (position + 1) fun d hd => h d (List.mem_cons_of_mem c hd)
    -- the quoting behind the character is the one in front of it
    rw [← step_of_isPlain hc] at hrest
    have hcons := hrest.cons
    rwa [outer?_of_isPlain hc, step_of_isPlain hc] at hcons

/-- Inside of a string no parenthesis counts. -/
theorem Passes.inside {q : Nat} (hs : s.quote = some q) {t : Quoting} (ht : s.step position c = t)
    (h : Passes t (position + 1) cs [] s') : Passes s position (c :: cs) [] s' := by
  rw [← ht] at h
  have hcons := h.cons
  rwa [Quoting.outer?, hs] at hcons

/-- A string that is read, from behind its opening quote to its closing quote, has no parentheses
outside of strings and is closed for both scans. -/
theorem passes_quoted {v rest : List Char} (h : readQuoted? cs = some (v, rest)) {q : Nat}
    (hs : s.quote = some q) (hb : s.afterBackslash = true → cs.head? ≠ some '\'') :
    ∃ body, cs = body ++ rest ∧ Passes s position body [] {} := by
  fun_induction readQuoted? cs generalizing s q v position with
  | case1 => simp at h
  | case2 cs ih =>
    -- a quote behind a backslash neither closes nor opens
    obtain ⟨w, hw, rfl⟩ := map_cons_eq_some.1 h
    have hback : s.step position '\\' = ⟨some q, true⟩ := by simp [Quoting.step, hs]
    have hquote : (⟨some q, true⟩ : Quoting).step (position + 1) '\'' = ⟨some q, false⟩ := rfl
    obtain ⟨body, rfl, hbody⟩ := @ih ⟨some q, false⟩ (position + 2) w hw q rfl (by simp)
    exact ⟨'\\' :: '\'' :: body, rfl, (hbody.inside rfl hquote).inside hs hback⟩
  | case3 cs ih =>
    -- the first of two quotes closes the string for the check, and the second one opens it again
    obtain ⟨w, hw, rfl⟩ := map_cons_eq_some.1 h
    have hfront : s.afterBackslash = false := by simpa using hb
    have hclose : s.step position '\'' = {} := by simp [Quoting.step, hs, hfront]
    have hopen : ({} : Quoting).step (position + 1) '\'' = ⟨some (position + 1), false⟩ := rfl
    obtain ⟨body, rfl, hbody⟩ :=
      @ih ⟨some (position + 1), false⟩ (position + 2) w hw _ rfl (by simp)
    rw [← hopen] at hbody
    exact ⟨'\'' :: '\'' :: body, rfl, hbody.cons.inside hs hclose⟩
  | case4 cs hne =>
    obtain ⟨-, rfl⟩ := Prod.mk.inj (Option.some.inj h)
    have hfront : s.afterBackslash = false := by simpa using hb
    have hclose : s.step position '\'' = {} := by simp [Quoting.step, hs, hfront]
    exact ⟨['\''], rfl, Passes.nil.inside hs hclose⟩
  | case5 c cs hescaped hdoubled hquote ih =>
    obtain ⟨w, hw, rfl⟩ := map_cons_eq_some.1 h
    have hstep : s.step position c = ⟨some q, c == '\\'⟩ := by
      simpa [Quoting.step, hs] using fun hc : c = '\'' => absurd hc hquote
    -- behind a backslash stands no quote, else the two would be one quote of the string
    have hnext : (c == '\\') = true → cs.head? ≠ some '\'' := by
      intro hc hhead
      obtain ⟨ds, rfl⟩ := List.head?_eq_some_iff.1 hhead
      exact hescaped ds (by simpa using hc) rfl
    obtain ⟨body, rfl, hbody⟩ := @ih ⟨some q, c == '\\'⟩ (position + 1) w hw q rfl hnext
    exact ⟨c :: body, rfl, hbody.inside hs hstep⟩

/-! ## Tokens -/

/-- The parenthesis that a token is, if it is one. -/
def TokenKind.paren? (position : Nat) : TokenKind → Option Paren
  | .leftParen => some ⟨position, true⟩
  | .rightParen => some ⟨position, false⟩
  | _ => none

/-- The parentheses among tokens. -/
def tokenParens (ts : List Token) : List Paren := ts.filterMap fun t => t.kind.paren? t.position

/-- The first token gives its parenthesis, if it is one, and then come those of the others. -/
theorem tokenParens_cons (t : Token) (ts : List Token) :
    tokenParens (t :: ts) = (t.kind.paren? t.position).toList ++ tokenParens ts := by
  rw [tokenParens, List.filterMap_cons]
  cases t.kind.paren? t.position <;> rfl

/-- A class of characters without quotes, backslashes and parentheses is plain. -/
theorem isPlain_of {p : Char → Bool} (hp : ['\'', '\\', '(', ')'].all (! p ·) = true)
    (h : p c = true) : Balance.isPlain c = true := by
  have hne : ∀ d ∈ ['\'', '\\', '(', ')'], c ≠ d := by
    rintro d hd rfl
    simpa [h] using List.all_eq_true.mp hp c hd
  simpa [Balance.isPlain, and_assoc] using hne

/-- Outside of strings a word changes nothing. -/
theorem passes_word {rest : List Char} (h : WordUpTo rest cs) :
    ∃ lexeme, cs = lexeme ++ rest ∧ Passes {} position lexeme [] {} := by
  obtain ⟨word, rfl, hword⟩ := h
  exact ⟨word, rfl, passes_plain fun c hc => isPlain_of (by decide) (hword c hc)⟩

/-- The text of a token has a parenthesis outside of strings if the token is one, and leads from
outside of strings to outside of strings. -/
theorem passes_token {l : Lexeme} (h : Reads c cs l) :
    ∃ lexeme, c :: cs = lexeme ++ l.rest ∧
      Passes {} position lexeme (l.kind.paren? position).toList {} := by
  cases h with
  | leftParen => exact ⟨['('], rfl, rfl, rfl⟩
  | rightParen => exact ⟨[')'], rfl, rfl, rfl⟩
  | comma => exact ⟨[','], rfl, passes_plain (List.forall_mem_singleton.2 rfl)⟩
  | @quoted _ v rest hq =>
    -- the first quote opens the string for both scans, and no backslash stands behind it yet
    have hopen : ({} : Quoting).step position '\'' = ⟨some position, false⟩ := rfl
    obtain ⟨body, rfl, hbody⟩ : ∃ body, cs = body ++ rest ∧
        Passes ⟨some position, false⟩ (position + 1) body [] {} :=
      passes_quoted hq rfl (by simp)
    rw [← hopen] at hbody
    exact ⟨'\'' :: body, rfl, hbody.cons⟩
  -- numbers and names are words, and no word has a parenthesis
  | number hn => exact passes_word (wordUpTo_readNumber hn)
  | name hc => exact passes_word (wordUpTo_name hc cs)

/-- The parentheses of a text outside of strings are the tokens that are parentheses, and no string
is open at its end. -/
theorem passes_tokens {ts : List Token} (h : tokensFrom position cs = .ok ts) :
    Passes {} position cs (tokenParens ts) {} := by
  fun_induction tokensFrom position cs generalizing ts with
  | case1 position => exact Except.ok.inj h ▸ .nil
  | case2 position c cs hb ih =>
    -- a blank is no token, and it is plain
    have hplain : ∀ d ∈ [c], Balance.isPlain d = true := by
      simpa using @isPlain_of c Text.isBlank (by decide) hb
    exact (passes_plain hplain).append (ih h)
  | case3 position c cs hb fault hr => simp at h
  | case4 => simp at h
  | case5 position c cs hb l hr length hlt tokens ht =>
    next ih =>
    obtain ⟨lexeme, heq, hlexeme⟩ := @passes_token position c cs l (reads_of_readToken hr)
    -- what is read of the text is the text of the token
    have hlength : length = lexeme.length := by
      have hsum := congrArg List.length heq
      rw [List.length_cons, List.length_append] at hsum
      have : length = cs.length + 1 - l.rest.length := rfl
      omega
    obtain rfl := Except.ok.inj h
    rw [heq, tokenParens_cons]
    exact hlexeme.append (hlength ▸ ih ht)

/-! ## Derivations -/

/-- The two parentheses of a call close each other. -/
theorem Call.nest_parens {ts : List Token} {f : Filter} (h : Call ts f) (opened : List Nat) :
    nest opened (tokenParens ts) = .ok opened := by
  cases h with
  | fieldFirst hn _ hl hf hc ha hr =>
    simp [tokenParens, hn.1, hl, hf, hc, ha, hr, TokenKind.paren?, nest]
  | textFirst hn hl ha hc hf hr =>
    simp [tokenParens, hn.1, hl, hf, hc, ha, hr, TokenKind.paren?, nest]

/-- A comparison has no parentheses. -/
theorem Comparison.nest_parens {ts : List Token} {f : Filter} (h : Comparison ts f)
    (opened : List Nat) : nest opened (tokenParens ts) = .ok opened := by
  cases h with
  | mk hf ho hv =>
    rcases hv.kind_mem with hk | hk | hk <;>
      simp [tokenParens, hf, ho.1, hk, TokenKind.paren?, nest]

/-- Tokens that nest in a row nest together. -/
theorem nest_tokenParens_append {opened : List Nat} {ts us : List Token}
    (ht : nest opened (tokenParens ts) = .ok opened)
    (hu : nest opened (tokenParens us) = .ok opened) :
    nest opened (tokenParens (ts ++ us)) = .ok opened := by
  rw [tokenParens, List.filterMap_append, nest_append]
  exact (congrArg (· >>= _) ht).trans hu

/-- A name is no parenthesis. -/
theorem tokenParens_cons_name {t : Token} (h : t.kind = .name) (ts : List Token) :
    tokenParens (t :: ts) = tokenParens ts :=
  List.filterMap_cons_none (by rw [h]; rfl)

mutual

/-- The parentheses of a filter nest. -/
theorem Conjunction.nest_parens {ts : List Token} {f : Filter} (h : Conjunction ts f)
    (opened : List Nat) : nest opened (tokenParens ts) = .ok opened := by
  match h with
  | .single h => exact h.nest_parens opened
  | .several h hs => exact nest_tokenParens_append (h.nest_parens opened) (hs.nest_parens opened)

/-- The parentheses of further operands nest, behind `and` as in a conjunction. -/
theorem MoreConjuncts.nest_parens {ts : List Token} {fs : List Filter} (h : MoreConjuncts ts fs)
    (opened : List Nat) : nest opened (tokenParens ts) = .ok opened := by
  match h with
  | .nil => rfl
  | .cons hw h hs =>
    rw [tokenParens_cons_name hw.kind_eq]
    exact nest_tokenParens_append (h.nest_parens opened) (hs.nest_parens opened)

/-- The parentheses of a disjunction nest. -/
theorem Disjunction.nest_parens {ts : List Token} {f : Filter} (h : Disjunction ts f)
    (opened : List Nat) : nest opened (tokenParens ts) = .ok opened := by
  match h with
  | .single h => exact h.nest_parens opened
  | .several h hs => exact nest_tokenParens_append (h.nest_parens opened) (hs.nest_parens opened)

/-- The parentheses of further operands nest, behind `or` as in a disjunction. -/
theorem MoreDisjuncts.nest_parens {ts : List Token} {fs : List Filter} (h : MoreDisjuncts ts fs)
    (opened : List Nat) : nest opened (tokenParens ts) = .ok opened := by
  match h with
  | .nil => rfl
  | .cons hw h hs =>
    rw [tokenParens_cons_name hw.kind_eq]
    exact nest_tokenParens_append (h.nest_parens opened) (hs.nest_parens opened)

/-- The parentheses of an operand nest. -/
theorem Unary.nest_parens {ts : List Token} {f : Filter} (h : Unary ts f) (opened : List Nat) :
    nest opened (tokenParens ts) = .ok opened := by
  match h with
  | .negation hw h =>
    rw [tokenParens_cons_name hw.kind_eq]
    exact h.nest_parens opened
  | .plain _ h => exact h.nest_parens opened

/-- The parentheses of a primary nest, and those around a group close each other. -/
theorem Primary.nest_parens {ts : List Token} {f : Filter} (h : Primary ts f)
    (opened : List Nat) : nest opened (tokenParens ts) = .ok opened := by
  match h with
  | @Primary.grouped left right ts _ hl h hr =>
    -- what is between the parentheses leaves the one that is open in front of it
    have hparens : tokenParens (left :: (ts ++ [right])) =
        ⟨left.position, true⟩ :: (tokenParens ts ++ [⟨right.position, false⟩]) := by
      simp [tokenParens, hl, hr, TokenKind.paren?]
    rw [hparens, nest, nest_append, h.nest_parens (left.position :: opened)]
    rfl
  | .call h => exact h.nest_parens opened
  | .comparison h => exact h.nest_parens opened

end

/-- The parentheses of a text that is read as a filter nest. -/
theorem nest_tokens {text : String} {ts : List Token} {f : Filter} (h : tokenize text = .ok ts)
    (hf : ofTokens ts = .ok f) : nest [] (tokenParens ts) = .ok [] := by
  -- the mark of the end is no parenthesis, and the tokens in front of it are a filter
  obtain ⟨body, rfl, hbody⟩ := tokensFrom_eq_ok h
  have hnest := ((ofTokens_eq_ok_iff hbody rfl).mp hf).nest_parens []
  exact nest_tokenParens_append hnest rfl

/-! ## The two scans -/

/-- On a text with tokens the check of balance counts the tokens that are parentheses: at every
point of the text, the parentheses that it has open are those that the tokens up to there leave
open, and it takes the text just when the parentheses among all the tokens nest. So it takes every
filter that the parser takes. -/
theorem checkBalance_of_tokens {text : String} {ts : List Token} (h : tokenize text = .ok ts) :
    (∀ n, (Balance.scan {} 0 (text.toList.take n)).map Balance.opened =
        nest [] ((tokenParens ts).filter (·.position < n))) ∧
      (checkBalance text = .ok () ↔ nest [] (tokenParens ts) = .ok []) ∧
      ∀ f, ofTokens ts = .ok f → checkBalance text = .ok () := by
  obtain ⟨hafter, hparens⟩ := passes_tokens h
  -- no string is open at the end, so only the parentheses decide
  have hbalance : checkBalance text = .ok () ↔ nest [] (tokenParens ts) = .ok [] := by
    have hscan := Quoting.scan_eq {} [] 0 text.toList
    rw [hafter, hparens] at hscan
    rw [checkBalance, show ({} : Balance) = ({} : Quoting).balance [] from rfl, hscan]
    cases nest [] (tokenParens ts) with
    | error fault => simp [Except.map, bind, Except.bind]
    | ok opened =>
      rw [Except.ok.injEq, ← Quoting.finish_eq_ok]
      rfl
  -- a part of the text is scanned alike, up to its end
  refine ⟨fun n => ?_, hbalance, fun f hf => hbalance.mpr (nest_tokens h hf)⟩
  have hscan := Quoting.scan_eq {} [] 0 (text.toList.take n)
  rw [Quoting.parens_take, hparens, Nat.zero_add] at hscan
  rw [show ({} : Balance) = ({} : Quoting).balance [] from rfl, hscan]
  cases nest [] ((tokenParens ts).filter (·.position < n)) <;> rfl

/-- Both ways to write a quote inside a string, and a parenthesis behind each of them. -/
theorem checkBalance_of_tokens_quotes :
    ∃ ts f, tokenize "(a eq 'x''(y') and contains(b,'\\'(')" = .ok ts ∧ ofTokens ts = .ok f ∧
      tokenParens ts = [⟨0, true⟩, ⟨13, false⟩, ⟨27, true⟩, ⟨35, false⟩] ∧
      checkBalance "(a eq 'x''(y') and contains(b,'\\'(')" = .ok () := by
  have hread : (tokenize "(a eq 'x''(y') and contains(b,'\\'(')").toOption = some
      [⟨.leftParen, "(", 0, .null⟩, ⟨.name, "a", 1, .null⟩, ⟨.name, "eq", 3, .null⟩,
        ⟨.string, "'x''(y'", 6, .str "x'(y"⟩, ⟨.rightParen, ")", 13, .null⟩,
        ⟨.name, "and", 15, .null⟩, ⟨.name, "contains", 19, .null⟩, ⟨.leftParen, "(", 27, .null⟩,
        ⟨.name, "b", 28, .null⟩, ⟨.comma, ",", 29, .null⟩,
        ⟨.string, "'\\'('", 30, .str "'("⟩, ⟨.rightParen, ")", 35, .null⟩,
        ⟨.finish, "", 36, .null⟩] := by
    decide +kernel
  cases h : tokenize "(a eq 'x''(y') and contains(b,'\\'(')" with
  | error fault => simp [h, Except.toOption] at hread
  | ok ts =>
    obtain rfl : ts = _ := Option.some.inj (h ▸ hread)
    exact ⟨_, _, rfl, rfl, rfl, (checkBalance_of_tokens h).2.2 _ rfl⟩

end ODataService.Filter
