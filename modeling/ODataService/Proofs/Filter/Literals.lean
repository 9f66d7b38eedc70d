import ODataService.Proofs.Filter.Lexemes

/-!
# What string literals can say

A client has two ways to put a text into quotes: it can double the quotes inside (`doubled`) or put
a backslash in front of them (`escaped`). Inside of a string both are read as a quote, and a
backslash stands for itself unless a quote follows it. So the two ways reach different texts:

* with doubled quotes, those in which no backslash stands in front of a quote or at the end
  (`readQuoted?_doubled_iff`);
* with backslashes, those in which none stands at the end (`readQuoted?_escaped_iff`);
* no literal at all reaches the others (`getLast?_readQuoted?`): a backslash at the end of a value
  would have to stand in front of the closing quote, and would be read as part of a quote.

Main result: `literal_reach`.
-/

namespace ODataService.Filter

variable {c : Char} {cs rest v : List Char}

/-- The characters of a string with every quote written twice. -/
def doubled : List Char → List Char
  | [] => []
  | '\'' :: cs => '\'' :: '\'' :: doubled cs
  | c :: cs => c :: doubled cs

/-- Characters between quotes, as a text. -/
def inQuotes (cs : List Char) : String := String.ofList ('\'' :: (cs ++ ['\'']))

/-- The text is a string with the value `s`, and nothing else. -/
def IsLiteralOf (text s : String) : Prop :=
  ∃ t e, tokenize text = .ok [t, e] ∧ t.kind = .string ∧ t.value = .str s ∧ e.kind = .finish

/-! ## Values -/

/-- An empty string is read where a quote stands. -/
theorem exists_cons_of_readQuoted?_nil (h : readQuoted? cs = some ([], rest)) :
    ∃ ds, cs = '\'' :: ds := by
  -- every other case puts a character in front of the value
  unfold readQuoted? at h
  split at h
  · simp at h
  · simp at h
  · simp at h
  · exact ⟨_, rfl⟩
  · simp at h

/-- A character in front leaves the end of a value as it is. -/
theorem getLast?_cons_ne (hv : v.getLast? ≠ some '\\') (hc : v = [] → c ≠ '\\') :
    (c :: v).getLast? ≠ some '\\' := by
  cases v with
  | nil => simpa using hc rfl
  | cons d v => rwa [List.getLast?_cons_cons]

/-- Whatever is read as a string, its value does not end with a backslash. -/
theorem getLast?_readQuoted? (h : readQuoted? cs = some (v, rest)) : v.getLast? ≠ some '\\' := by
  fun_induction readQuoted? cs generalizing v with
  | case1 => simp at h
  | case2 cs ih =>
    obtain ⟨w, hw, rfl⟩ := map_cons_eq_some.1 h
    exact getLast?_cons_ne (ih hw) fun _ => by decide
  | case3 cs ih =>
    obtain ⟨w, hw, rfl⟩ := map_cons_eq_some.1 h
    exact getLast?_cons_ne (ih hw) fun _ => by decide
  -- the closing quote ends the value
  | case4 cs _ =>
    obtain ⟨rfl, -⟩ := Prod.mk.inj (Option.some.inj h)
    simp
  | case5 c cs hescaped hdoubled hquote ih =>
    obtain ⟨w, hw, rfl⟩ := map_cons_eq_some.1 h
    refine getLast?_cons_ne (ih hw) ?_
    rintro rfl rfl
    -- an empty value is read at a quote, and the backslash would belong to that quote
    obtain ⟨ds, rfl⟩ := exists_cons_of_readQuoted?_nil hw
    exact hescaped ds rfl rfl

/-! ## Reading what was written -/

/-- A text with backslashes in front of its quotes is read back unless it ends with a backslash. -/
theorem readQuoted?_escaped_iff :
    readQuoted? (escaped cs ++ ['\'']) = some (cs, []) ↔ cs.getLast? ≠ some '\\' :=
  ⟨getLast?_readQuoted?, fun h => readQuoted?_escaped h (by simp)⟩

/-- A character that is no quote stays as it is. -/
theorem doubled_cons_of_ne (h : c ≠ '\'') (cs : List Char) :
    doubled (c :: cs) = c :: doubled cs := by
  rw [doubled]
  exact h

/-- A quote comes first, the closing one included, where nothing is written or a quote is. -/
theorem head?_doubled_append :
    (doubled cs ++ ['\'']).head? = some '\'' ↔ cs = [] ∨ cs.head? = some '\'' := by
  cases cs with
  | nil => simp [doubled]
  | cons c cs =>
    -- a quote is doubled, another character stays in front
    by_cases hc : c = '\''
    · simp [hc, doubled]
    · simp [hc, doubled_cons_of_ne hc]

/-- A backslash stands neither at the end nor in front of a quote. -/
def KeepsBackslashes (cs : List Char) : Prop :=
  cs.getLast? ≠ some '\\' ∧ ¬ escapedQuote <:+: cs

/-- A backslash in front is kept when it is neither the last character nor stands before a quote. -/
theorem keepsBackslashes_cons :
    KeepsBackslashes (c :: cs) ↔
      (c = '\\' → cs ≠ [] ∧ cs.head? ≠ some '\'') ∧ KeepsBackslashes cs := by
  unfold KeepsBackslashes escapedQuote
  cases cs with
  | nil => simp [List.infix_cons_iff]
  | cons d cs =>
    -- a pair starts at the first character or behind it
    rw [List.getLast?_cons_cons, List.infix_cons_iff, List.cons_prefix_cons, List.cons_prefix_cons]
    simp only [List.nil_prefix, and_true, not_or, not_and, ne_eq, reduceCtorEq, not_false_eq_true,
      true_and, List.head?_cons, Option.some.injEq]
    constructor
    · rintro ⟨hlast, hfront, hbehind⟩
      exact ⟨fun hc hd => hfront hc.symm hd.symm, hlast, hbehind⟩
    · rintro ⟨hfront, hlast, hbehind⟩
      exact ⟨hlast, fun hc hd => hfront hc.symm hd.symm, hbehind⟩

/-- A text with its quotes doubled is read back just when its backslashes stand in front of other
characters than quotes. -/
theorem readQuoted?_doubled_iff :
    readQuoted? (doubled cs ++ ['\'']) = some (cs, []) ↔ KeepsBackslashes cs := by
  induction cs with
  | nil => simp [doubled, readQuoted?, KeepsBackslashes, escapedQuote]
  | cons c cs ih =>
    rw [keepsBackslashes_cons, ← ih]
    by_cases hc : c = '\''
    · -- two quotes are one quote of the value
      subst hc
      simp [doubled, readQuoted?]
    · rw [doubled_cons_of_ne hc, List.cons_append]
      by_cases hesc : c = '\\' → cs ≠ [] ∧ cs.head? ≠ some '\''
      · have hnext : c = '\\' → (doubled cs ++ ['\'']).head? ≠ some '\'' := by
          intro hback
          rw [Ne, head?_doubled_append, not_or]
          exact hesc hback
        rw [readQuoted?_cons hc hnext, and_iff_right hesc]
        simp
      · -- the backslash and the quote behind it are read as a quote
        obtain ⟨rfl, hhead⟩ := Classical.not_imp.1 hesc
        rw [← not_or, not_not, ← head?_doubled_append] at hhead
        obtain ⟨ds, hds⟩ := List.head?_eq_some_iff.1 hhead
        refine iff_of_false ?_ fun h => hesc h.1
        rw [hds]
        simp [readQuoted?]

/-! ## Literals -/

/-- Behind a quote a string is read. -/
theorem readToken_quote (position : Nat) (cs : List Char) :
    readToken position '\'' cs =
      match readQuoted? cs with
      | some (v, rest) => .ok ⟨.string, .str (String.ofList v), rest⟩
      | none => .error (.unclosedQuote position) := rfl

/-- What stands in quotes is a literal of a text if this text, and nothing behind it, is read
between the quotes. -/
theorem isLiteralOf_inQuotes {s : String} :
    IsLiteralOf (inQuotes cs) s ↔ readQuoted? (cs ++ ['\'']) = some (s.toList, []) := by
  unfold IsLiteralOf inQuotes tokenize
  rw [String.toList_ofList]
  constructor
  -- the one token is read at the opening quote, so it is a string
  · rintro ⟨t, e, htokens, -, hvalue, -⟩
    obtain ⟨l, us, hread, hus, heq⟩ := exists_readToken_of_tokensFrom (by decide) htokens
    obtain ⟨rfl, rfl⟩ : t = _ ∧ [e] = us := List.cons.inj heq
    rw [readToken_quote] at hread
    cases hq : readQuoted? (cs ++ ['\'']) with
    | none => simp [hq] at hread
    | some p =>
      obtain ⟨v, rest⟩ := p
      simp only [hq] at hread
      obtain rfl := Except.ok.inj hread
      have hv : String.ofList v = s := by simpa [Lexeme.token] using hvalue
      -- the rest would end with the closing quote, and it is blank
      obtain rfl : rest = [] := by
        obtain ⟨body, hbody, -⟩ := exists_body_of_readQuoted? hq
        rcases List.eq_nil_or_concat rest with rfl | ⟨front, d, rfl⟩
        · rfl
        · have hend : cs ++ ['\''] = (body ++ '\'' :: front) ++ [d] := by simpa using hbody
          obtain rfl : '\'' = d := List.singleton_inj.1 (List.append_inj' hend rfl).2
          exact absurd (isBlank_of_tokensFrom_singleton hus '\'' (by simp)) (by decide)
      rw [← hv, String.toList_ofList]
  -- the string is read to the end of the text, and nothing follows
  · intro hq
    have hread : readToken 0 '\'' (cs ++ ['\'']) = .ok ⟨.string, .str s, []⟩ := by
      rw [readToken_quote, hq]
      simp
    rw [tokensFrom_token (by decide) hread, tokensFrom_nil]
    exact ⟨_, _, rfl, rfl, rfl, rfl⟩

/-- How far string literals reach. A text with its quotes doubled and in quotes is a literal of this
text just when no backslash stands at its end or in front of a quote; with backslashes in front of
its quotes it is one just when none stands at its end; and no string in any text has a value with a
backslash at its end. -/
theorem literal_reach (s : String) :
    (IsLiteralOf (inQuotes (doubled s.toList)) s ↔
      s.toList.getLast? ≠ some '\\' ∧ ¬ escapedQuote <:+: s.toList) ∧
    (IsLiteralOf (inQuotes (escaped s.toList)) s ↔ s.toList.getLast? ≠ some '\\') ∧
    ¬ ∃ text ts t v, tokenize text = .ok ts ∧ t ∈ ts ∧ t.kind = .string ∧ t.value = .str v ∧
      v.toList.getLast? = some '\\' := by
  refine ⟨?_, ?_, ?_⟩
  · rw [isLiteralOf_inQuotes, readQuoted?_doubled_iff]
    rfl
  -- with backslashes only the last one is lost
  · rw [isLiteralOf_inQuotes, readQuoted?_escaped_iff]
  · rintro ⟨text, ts, t, v, htokens, ht, hkind, hvalue, hlast⟩
    obtain ⟨c, ds, l, hread, hl, hv⟩ := exists_reads_of_mem htokens ht (by simp [hkind])
    -- only a quote starts a string
    cases hread with
    | quoted h =>
      obtain rfl : String.ofList _ = v := by simpa [hvalue] using hv.symm
      rw [String.toList_ofList] at hlast
      exact getLast?_readQuoted? h hlast
    | _ => simp [hkind] at hl

/-- Between a backslash and a quote the two ways differ. -/
example : readQuoted? (doubled ['\\', '\''] ++ ['\'']) = none ∧
    readQuoted? (escaped ['\\', '\''] ++ ['\'']) = some (['\\', '\''], []) := by decide

end ODataService.Filter
