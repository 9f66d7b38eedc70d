import ODataService.Expand.Resolution
import ODataService.Proofs.Expand.Writing
import ODataService.Proofs.Filter.Lexemes
import ODataService.Proofs.Filter.Parentheses

/-!
# Filters in an `$expand` text

A filter that is read on its own is to mean the same as the `$filter` of an entry. The text of the
entry is split first, by a scan that takes every quote for the beginning or the end of a string,
while the reader of filters takes a backslash and a quote for one quote of a string.

* A filter text without such a pair is scanned as it is read: strings are strings for both, the
  parentheses outside of them are those that the filter nests, and no semicolon stands outside of
  them at all (`crosses_tokens`). So it stands alone (`standsAlone_of_parseTrimmed`).
* With such a pair the scan loses track of the strings, and the filter comes back only if it stands
  alone by chance.

Main result: `nested_filter`.
-/

namespace ODataService.Expand

open ODataService.Filter Nesting

variable {position : Nat} {c : Char} {cs rest : List Char}

/-- The text has no escaped quote in it, which a scan would take for the end of a string. -/
def Unescaped (cs : List Char) : Prop := ¬ escapedQuote <:+: cs

instance (cs : List Char) : Decidable (Unescaped cs) := inferInstanceAs (Decidable (¬ _))

theorem Unescaped.suffix (h : Unescaped cs) (hrest : rest <:+ cs) : Unescaped rest :=
  fun hin => h (hin.trans hrest.isInfix)

/-- The text in front of `rest` leads the scan from one nesting to another. -/
def Crosses (s : Nesting) (cs rest : List Char) (s' : Nesting) : Prop :=
  ∃ front, cs = front ++ rest ∧ cross? ';' s front = some s'

/-- A character the scan takes can be put in front, unless it is a separator that counts. -/
theorem Crosses.cons {s t s' : Nesting} (hs : s ≠ {} ∨ c ≠ ';') (ht : s.step? c = some t)
    (h : Crosses t cs rest s') : Crosses s (c :: cs) rest s' := by
  obtain ⟨front, rfl, hfront⟩ := h
  refine ⟨c :: front, rfl, ?_⟩
  rw [cross?, if_neg (by tauto), ht]
  exact hfront

/-- Texts can be crossed one after the other. -/
theorem Crosses.trans {s t s' : Nesting} {rest' : List Char} (h : Crosses s cs rest t)
    (h' : Crosses t rest rest' s') : Crosses s cs rest' s' := by
  obtain ⟨front, rfl, hfront⟩ := h
  obtain ⟨front', rfl, hfront'⟩ := h'
  refine ⟨front ++ front', (List.append_assoc ..).symm, ?_⟩
  rw [cross?_append, hfront]
  exact hfront'

/-- What is left behind a crossed text is an end of it. -/
theorem Crosses.isSuffix {s s' : Nesting} (h : Crosses s cs rest s') : rest <:+ cs := by
  obtain ⟨front, rfl, -⟩ := h
  exact List.suffix_append front rest

/-- Characters the scan does not look at are crossed. -/
theorem crosses_of_isInert {s : Nesting} (front rest : List Char)
    (h : ∀ c ∈ front, IsInert ';' c) : Crosses s (front ++ rest) rest s :=
  ⟨front, rfl, cross?_inert h s⟩

/-- A class of characters without the four the scan looks at is inert. -/
theorem isInert_of {p : Char → Bool} (hp : ['\'', '(', ')', ';'].all (! p ·) = true)
    (h : p c = true) : IsInert ';' c := by
  intro hmem
  simpa [h] using List.all_eq_true.mp hp c hmem

/-- A word of a filter is crossed, as no character of it is looked at. -/
theorem crosses_of_wordUpTo {s : Nesting} (h : WordUpTo rest cs) : Crosses s cs rest s := by
  obtain ⟨word, rfl, hword⟩ := h
  exact crosses_of_isInert word rest fun c hc => isInert_of (by decide) (hword c hc)

/-! ## Strings -/

/-- A string without an escaped quote is crossed to its end: two quotes in a row close it and open
it again. -/
theorem crosses_quoted {v : List Char} (h : readQuoted? cs = some (v, rest))
    (hescape : Unescaped cs) (depth : Nat) :
    Crosses ⟨depth, true⟩ cs rest ⟨depth, false⟩ := by
  have hinside : (⟨depth, true⟩ : Nesting) ≠ {} := by simp
  fun_induction readQuoted? cs generalizing v with
  | case1 => simp at h
  | case2 cs => exact absurd ⟨[], cs, rfl⟩ hescape
  -- a doubled quote closes the string and opens it again
  | case3 cs ih =>
    obtain ⟨w, hw, rfl⟩ := map_cons_eq_some.1 h
    have hbehind := hescape.suffix (List.suffix_append ['\'', '\''] cs)
    exact ((ih hw hbehind).cons (.inr (by decide)) rfl).cons (.inl hinside) rfl
  -- the closing quote
  | case4 cs _ =>
    obtain ⟨-, rfl⟩ := Prod.mk.inj (Option.some.inj h)
    exact (crosses_of_isInert [] cs (by simp)).cons (.inl hinside) rfl
  | case5 c cs _ _ hquote ih =>
    obtain ⟨w, hw, rfl⟩ := map_cons_eq_some.1 h
    have hbehind := hescape.suffix (List.suffix_cons c cs)
    have hstep : (⟨depth, true⟩ : Nesting).step? c = some ⟨depth, true⟩ := by
      simpa [step?] using fun hc => absurd hc hquote
    exact (ih hw hbehind).cons (.inl hinside) hstep

/-! ## Tokens -/

/-- The scan at the top level of strings, inside the parentheses that are open. -/
def outside (opened : List Nat) : Nesting := ⟨opened.length, false⟩

/-- A lexeme is crossed as its token nests. -/
theorem crosses_reads {l : Lexeme} (h : Reads c cs l) (hescape : Unescaped (c :: cs))
    {opened opened' : List Nat} {ps : List Paren}
    (hnest : nest opened ((l.kind.paren? position).toList ++ ps) = .ok opened') :
    ∃ next, Crosses (outside opened) (c :: cs) l.rest (outside next) ∧
      nest next ps = .ok opened' := by
  -- the parentheses move the nesting, a string is left as it was entered, the rest is inert
  cases h with
  | leftParen =>
    exact ⟨position :: opened, (crosses_of_isInert [] cs (by simp)).cons (.inr (by decide)) rfl,
      hnest⟩
  | rightParen =>
    cases opened with
    | nil => exact absurd hnest (by simp [TokenKind.paren?, nest])
    | cons p opened =>
      exact ⟨opened, (crosses_of_isInert [] cs (by simp)).cons (.inr (by decide)) rfl, hnest⟩
  | comma =>
    have hinert : ∀ d ∈ [','], IsInert ';' d := List.forall_mem_singleton.2 (by decide)
    exact ⟨opened, crosses_of_isInert [','] cs hinert, hnest⟩
  | quoted hq =>
    have hbehind := hescape.suffix (List.suffix_cons '\'' cs)
    exact ⟨opened, (crosses_quoted hq hbehind opened.length).cons (.inr (by decide)) rfl, hnest⟩
  | number hn => exact ⟨opened, crosses_of_wordUpTo (wordUpTo_readNumber hn), hnest⟩
  | name hc => exact ⟨opened, crosses_of_wordUpTo (wordUpTo_name hc cs), hnest⟩

/-- A text is crossed as its tokens nest. -/
theorem crosses_tokens {ts : List Token} (h : tokensFrom position cs = .ok ts)
    (hescape : Unescaped cs) {opened opened' : List Nat}
    (hnest : nest opened (tokenParens ts) = .ok opened') :
    Crosses (outside opened) cs [] (outside opened') := by
  fun_induction tokensFrom position cs generalizing ts opened with
  | case1 position =>
    obtain rfl := Except.ok.inj h
    obtain rfl := Except.ok.inj hnest
    exact crosses_of_isInert [] [] (by simp)
  -- a blank is inert
  | case2 position c cs hb ih =>
    have hbehind := hescape.suffix (List.suffix_cons c cs)
    have hblank : ∀ d ∈ [c], IsInert ';' d := by
      simpa using @isInert_of c Text.isBlank (by decide) hb
    exact (crosses_of_isInert [c] cs hblank).trans (ih h hbehind hnest)
  | case3 position c cs hb fault hr => simp at h
  | case4 => simp at h
  | case5 position c cs hb l hr length hlt tokens htokens =>
    next ih =>
    obtain rfl := Except.ok.inj h
    rw [tokenParens_cons] at hnest
    -- the parentheses of the tokens are nested, so this one is crossed and the others behind it
    obtain ⟨between, hlexeme, hrest⟩ := crosses_reads (reads_of_readToken hr) hescape hnest
    exact hlexeme.trans (ih htokens (hescape.suffix hlexeme.isSuffix) hrest)

/-- A filter without an escaped quote stands alone. -/
theorem standsAlone_of_parseTrimmed {text : String} {f : Filter} (h : parseTrimmed text = .ok f)
    (hescape : Unescaped text.toList) : StandsAlone ';' text.toList := by
  obtain ⟨-, -, h⟩ := bind_eq_ok.1 h
  obtain ⟨ts, hts, hf⟩ := bind_eq_ok.1 h
  -- what is parsed has nested parentheses, and leaves none of them open
  obtain ⟨front, hfront, hcross⟩ := crosses_tokens hts hescape (nest_tokens hts hf)
  rw [List.append_nil] at hfront
  rw [hfront]
  exact hcross

/-! ## Nested filters -/

/-- A filter without blanks around it is parsed as it stands. -/
theorem parseTrimmed_of_parse {text : String} {f : Filter} (htrimmed : Text.strip text = text)
    (h : Filter.parse text = .ok (some f)) : parseTrimmed text = .ok f := by
  simp only [Filter.parse, htrimmed] at h
  split at h
  · simp at h
  · split at h
    next g hg => rwa [Option.some.inj (Except.ok.inj h)] at hg
    · simp at h

/-- The query for related records under a filter that was read. -/
theorem relatedQuery_filter {text : String} {f : Filter} (h : Filter.parse text = .ok (some f))
    (keys : List Scalar) (keep : List String) :
    relatedQuery keys [("$filter", text)] keep =
      .ok { filter := Filter.all [some (.oneOf Query.idField keys), some f] } := by
  -- the filter is the only option, and it is a supported one
  have hoptions : SystemOptions.parse [("$filter", text)] = .ok { filter := some text } := by
    have hknown : SystemOptions.unknownOptions [("$filter", text)] = [] :=
      show ["$filter"].filter _ = [] by decide
    simp [SystemOptions.parse, SystemOptions.problems, SystemOptions.pageSizeProblems,
      SystemOptions.selectProblems, SystemOptions.countProblems, hknown, Assoc.get?,
      SystemOptions.pageSize?]
  have hnonempty : text ≠ "" := by
    rintro rfl
    -- a blank text is no filter
    have hblank : Filter.parse "" = .ok none := rfl
    simp [hblank] at h
  -- so the query has this filter, and nothing else
  have hquery : Query.ofParams true [("$filter", text)] = .ok { filter := some f } := by
    have hfilter : Query.nonEmpty? (some text) = some text := by
      simp [Query.nonEmpty?, hnonempty]
    have hread : Query.readOption none Filter.parse (some text) = .ok (some f) := h
    rw [Query.ofParams, hoptions, ok_bind, Query.ofOptions, hfilter, hread, ok_bind]
    rfl
  rw [relatedQuery, hquery]
  rfl

/-- A text that is read as a filter and that has no escaped quote in it is the `$filter` of the
entry in which it is put in parentheses. With such quotes this is so exactly if the scan for
semicolons leaves the text whole. As the `$filter` of an entry it selects what it selects on its
own. -/
theorem nested_filter {property text : String} {f : Filter} (hproperty : IsProperty property)
    (htrimmed : Text.strip text = text) (hread : Filter.parse text = .ok (some f)) :
    (Unescaped text.toList →
      parse (property ++ "($filter=" ++ text ++ ")") = .ok [⟨property, [("$filter", text)]⟩]) ∧
    (parse (property ++ "($filter=" ++ text ++ ")") = .ok [⟨property, [("$filter", text)]⟩] ↔
      splitTopLevel text ';' = .ok [text]) ∧
    ∀ keys keep, relatedQuery keys [("$filter", text)] keep =
      .ok { filter := Filter.all [some (.oneOf Query.idField keys), some f] } := by
  -- the text is that of one entry with one option
  have hentry : property ++ "($filter=" ++ text ++ ")" =
      Entry.text ⟨property, [("$filter", text)]⟩ := by
    have hfront : "($filter=" = "(" ++ "$filter" ++ "=" := rfl
    rw [text_single, optionText, hfront]
    simp only [String.append_assoc]
  have hsupported : "$filter" ∈ supportedOptions := by decide
  have hiff := parse_text_single_iff hproperty (o := ("$filter", text)) ⟨hsupported, htrimmed⟩
  rw [hentry, splitTopLevel_singleton_iff (by decide)]
  refine ⟨fun hescape => hiff.2 ?_, hiff, relatedQuery_filter hread⟩
  exact standsAlone_of_parseTrimmed (parseTrimmed_of_parse htrimmed hread) hescape

/-- A filter that was read and is there. -/
theorem eq_ok_some_of_join {x : Except Rejection (Option Filter)} {f : Filter}
    (h : x.toOption.join = some f) : x = .ok (some f) := by
  rcases x with r | _ | g
  · simp [Except.toOption] at h
  · simp [Except.toOption] at h
  · exact congrArg (Except.ok ∘ some) (Option.some.inj h)

/-- The two ways to write a quote inside a string. With two quotes the filter comes back as it is;
with a backslash the scan takes the closing parenthesis for a character of a string. -/
theorem nested_filter_quotes :
    (∃ f, Filter.parse "name eq 'it''s;(' and n lt 5" = .ok (some f) ∧
      parse "p($filter=name eq 'it''s;(' and n lt 5)" =
        .ok [⟨"p", [("$filter", "name eq 'it''s;(' and n lt 5")]⟩]) ∧
    ∃ f, Filter.parse "name eq 'it\\'s'" = .ok (some f) ∧
      parse "p($filter=name eq 'it\\'s')" =
        .error (Fault.unclosedOpening "p($filter=name eq 'it\\'s')").rejection := by
  -- both texts are filters
  have hdoubled : ((Filter.parse "name eq 'it''s;(' and n lt 5").toOption.join).isSome = true := by
    decide +kernel
  have hescaped : ((Filter.parse "name eq 'it\\'s'").toOption.join).isSome = true := by
    decide +kernel
  obtain ⟨f, hf⟩ := Option.isSome_iff_exists.1 hdoubled
  obtain ⟨g, hg⟩ := Option.isSome_iff_exists.1 hescaped
  have hproperty : IsProperty "p" := by decide +kernel
  obtain ⟨hentry, -⟩ := nested_filter hproperty (by decide +kernel) (eq_ok_some_of_join hf)
  exact ⟨⟨f, eq_ok_some_of_join hf, hentry (by decide +kernel)⟩, g, eq_ok_some_of_join hg,
    by decide +kernel⟩

/-- A string may even be cut in two, and what is behind the cut becomes another option. -/
example : parse "p($filter=name eq '\\';$top=1\\'')" =
    .ok [⟨"p", [("$filter", "name eq '\\'"), ("$top", "1\\''")]⟩] := by
  decide +kernel

end ODataService.Expand
