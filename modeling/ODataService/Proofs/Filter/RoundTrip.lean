import ODataService.Proofs.Filter.Balance
import ODataService.Proofs.Filter.Parsing
import ODataService.Proofs.Text.Trimming

/-!
# Reading written filters

A filter that has a text form is read back from it (`parse_write`). Nothing of the text is trimmed,
its parentheses and quotes balance, and its tokens derive the filter in the grammar, whatever its
properties are called and whatever its strings hold.
-/

namespace ODataService.Filter

open Text (StartsSolid EndsSolid endsSolid_of_forall strip_eq)

/-! ## Ends of texts -/

/-- A property name starts with no white space. -/
theorem startsSolid_name {field : String} (h : isPropertyName field = true) :
    StartsSolid field.toList := by
  obtain ⟨c, cs, heq, hc, -⟩ := isPropertyName_spec h
  exact ⟨c, cs, heq, isBlank_of_isNamePart (isNamePart_of_isNameStart hc)⟩

/-- A number ends with a digit. -/
theorem endsSolid_int (n : Int) : EndsSolid (toString n).toList := by
  have hdigits : ∀ m : Nat, EndsSolid (Nat.toDigits 10 m) := fun m =>
    endsSolid_of_forall Nat.toDigits_ne_nil fun c hc =>
      Text.isBlank_of_isDigit (Text.isDigit_of_mem_toDigits hc)
  cases n with
  | ofNat m => exact Text.intText_ofNat m ▸ hdigits m
  | negSucc m => exact Text.intText_negSucc m ▸ (hdigits (m + 1)).cons '-'

/-- A literal ends with no white space. -/
theorem endsSolid_literal {v : Scalar} (h : isWritableLiteral v = true) :
    EndsSolid (literalText v) := by
  cases v with
  | null => exact ⟨"nul".toList, 'l', rfl, by decide⟩
  | bool b =>
    cases b with
    | false => exact ⟨"fals".toList, 'e', rfl, by decide⟩
    | true => exact ⟨"tru".toList, 'e', rfl, by decide⟩
  | int n => exact endsSolid_int n
  | real x => simp [isWritableLiteral] at h
  | str s => exact ⟨'\'' :: escaped s.toList, '\'', rfl, by decide⟩

/-- A call starts with its name. -/
theorem startsSolid_call (fn : TextFunction) (field argument : String) :
    StartsSolid (callText fn field argument) := by
  cases fn <;> exact ⟨_, _, rfl, by decide⟩

/-- A call ends with its parenthesis. -/
theorem endsSolid_call (fn : TextFunction) (field argument : String) :
    EndsSolid (callText fn field argument) := by
  -- both forms of a call end with the parenthesis
  have hright : EndsSolid [')'] := ⟨[], ')', rfl, by decide⟩
  unfold callText
  split
  · exact ((((hright.append _).cons ',').append _).cons '(').append _
  · exact ((((hright.append _).cons ',').append _).cons '(').append _

/-- An operand starts with no white space. -/
theorem startsSolid_operand {f : Filter} (h : isWritable f = true) :
    StartsSolid (operandText f) := by
  cases f with
  | compare field op value =>
    simp only [isWritable, Bool.and_eq_true] at h
    exact (startsSolid_name h.1.1).append _
  | logical op operands => exact ⟨'(', _, rfl, by decide⟩
  | not operand => exact ⟨'n', _, rfl, by decide⟩
  | text fn field argument => exact startsSolid_call fn field argument
  | oneOf => simp [isWritable] at h

mutual

/-- An operand ends with no white space. -/
theorem endsSolid_operand (f : Filter) (h : isWritable f = true) : EndsSolid (operandText f) := by
  match f with
  | .compare field op value =>
    simp only [isWritable, Bool.and_eq_true] at h
    exact ((((endsSolid_literal h.2).cons ' ').append _).cons ' ').append _
  | .logical op operands => exact ⟨'(' :: operandsText op operands, ')', rfl, by decide⟩
  | .not operand => exact ((endsSolid_operand operand h).cons ' ').append _
  | .text fn field argument => exact endsSolid_call fn field argument
  | .oneOf .. => simp [isWritable] at h

/-- A text goes on solid to its end behind further operands. -/
theorem endsSolid_further {cs : List Char} (hcs : EndsSolid cs) (op : Connective)
    (fs : List Filter) (h : areWritable fs = true) : EndsSolid (cs ++ furtherText op fs) := by
  match fs with
  | [] => exact (List.append_nil cs).symm ▸ hcs
  | f :: fs =>
    simp only [areWritable, Bool.and_eq_true] at h
    -- the induction runs over the operands, with the text in front growing
    have hend : EndsSolid (operandText f ++ furtherText op fs) :=
      endsSolid_further (endsSolid_operand f h.1) op fs h.2
    exact (((hend.cons ' ').append _).cons ' ').append _

end

/-- The text of a filter starts and ends without blanks. -/
theorem solid_write {f : Filter} (h : isWritable f = true) :
    StartsSolid (write f).toList ∧ EndsSolid (write f).toList := by
  unfold write
  split
  · next op operands =>
    simp only [isWritable, Bool.and_eq_true, decide_eq_true_eq] at h
    obtain ⟨f, fs, rfl⟩ := List.exists_cons_of_length_pos (by omega : 0 < operands.length)
    simp only [areWritable, Bool.and_eq_true] at h
    rw [String.toList_ofList]
    exact ⟨(startsSolid_operand h.2.1).append _,
      endsSolid_further (endsSolid_operand f h.2.1) op fs h.2.2⟩
  · rw [String.toList_ofList]
    exact ⟨startsSolid_operand h, endsSolid_operand _ h⟩

/-! ## Tokens of texts -/

theorem isPropertyName_comparator (c : Comparator) : isPropertyName c.name = true := by
  cases c <;> decide

theorem isPropertyName_textFunction (fn : TextFunction) : isPropertyName fn.name = true := by
  cases fn <;> decide

theorem isPropertyName_connective (op : Connective) : isPropertyName op.name = true := by
  cases op <;> decide

theorem ends_blank (cs : List Char) : Ends (' ' :: cs) := ends_cons cs (by decide)

/-- A comparison is written as the tokens of a comparison. -/
theorem lexes_comparison {field : String} {value : Scalar} (hf : isPropertyName field = true)
    (hv : isWritableLiteral value = true) (op : Comparator) (position : Nat) :
    ∃ t ts, Lexes position (operandText (.compare field op value)) (t :: ts) ∧ t.text = field ∧
      Comparison (t :: ts) (.compare field op value) := by
  have hop := isPropertyName_comparator op
  obtain ⟨t, hlex, hlit⟩ :=
    lexes_literal hv (position + field.toList.length + 1 + op.name.toList.length + 1)
  -- a blank ends the property, and another one ends the operator
  have hbehind := ((Lexes.name hop _).append hlex.blank (ends_blank _)).blank
  have hall := (Lexes.name hf position).append hbehind (ends_blank _)
  exact ⟨⟨.name, field, position, .null⟩, _, hall, rfl, .mk rfl ⟨rfl, lower_comparator op⟩ hlit⟩

/-- A call is written as the tokens of a call. -/
theorem lexes_call {field argument : String} (hf : isPropertyName field = true)
    (ha : isQuotable argument = true) (fn : TextFunction) (position : Nat) :
    ∃ t ts, Lexes position (callText fn field argument) (t :: ts) ∧ t.text = fn.name ∧
      Call (t :: ts) (.text fn field argument) := by
  have hname := Lexes.name (isPropertyName_textFunction fn) position
  have hparen : ∀ cs, Ends ('(' :: cs) := fun cs => ends_cons cs (by decide)
  have hcomma : ∀ cs, Ends (',' :: cs) := fun cs => ends_cons cs (by decide)
  have hright : Ends [')'] := ends_cons [] (by decide)
  -- one function takes its text first, the others their property
  by_cases hs : fn = .substringof
  · subst hs
    have hargs := ((Lexes.quoted ha (position + 11 + 1)).append
      ((Lexes.name hf _).append (Lexes.nil _).rightParen hright).comma (hcomma _)).leftParen
    have hall := hname.append hargs (hparen _)
    exact ⟨_, _, hall, rfl, .textFirst ⟨rfl, lower_textFunction _⟩ rfl rfl rfl rfl rfl⟩
  · have hargs := ((Lexes.name hf (position + fn.name.toList.length + 1)).append
      ((Lexes.quoted ha _).append (Lexes.nil _).rightParen hright).comma (hcomma _)).leftParen
    have hall := hname.append hargs (hparen _)
    have htext : callText fn field argument =
        fn.name.toList ++ '(' :: (field.toList ++ ',' :: (quotedText argument ++ [')'])) := by
      cases fn with
      | substringof => exact absurd rfl hs
      | _ => rfl
    rw [htext]
    exact ⟨_, _, hall, rfl, .fieldFirst ⟨rfl, lower_textFunction fn⟩ hs rfl rfl rfl rfl rfl⟩

/-- The operands of a connective behind its first. -/
def MoreOperands : Connective → List Token → List Filter → Prop
  | .and => MoreConjuncts
  | .or => MoreDisjuncts

/-- There need be no further operands. -/
theorem MoreOperands.nil (op : Connective) : MoreOperands op [] [] := by
  cases op with
  | and => exact MoreConjuncts.nil
  | or => exact MoreDisjuncts.nil

/-- One more operand stands behind the word of the connective. -/
theorem MoreOperands.cons {op : Connective} {t : Token} {ts us : List Token} {f : Filter}
    {fs : List Filter} (ht : t.IsWord op.name) (h : Unary ts f) (hs : MoreOperands op us fs) :
    MoreOperands op (t :: (ts ++ us)) (f :: fs) := by
  cases op with
  | and => exact MoreConjuncts.cons ht (.single h) hs
  | or => exact MoreDisjuncts.cons ht h hs

/-- Two operands or more are a conjunction or a disjunction by themselves. -/
theorem MoreOperands.conjunction {op : Connective} {ts us : List Token} {f g : Filter}
    {gs : List Filter} (h : Unary ts f) (hs : MoreOperands op us (g :: gs)) :
    Conjunction (ts ++ us) (.logical op (f :: g :: gs)) := by
  cases op with
  | and => exact .several (.single h) hs
  | or => exact .single (.several h hs)

mutual

/-- The text of an operand lexes to tokens that derive it. -/
theorem lexes_operand (f : Filter) (h : isWritable f = true) (position : Nat) :
    ∃ ts, Lexes position (operandText f) ts ∧ Unary ts f := by
  match f with
  | .compare field op value =>
    simp only [isWritable, Bool.and_eq_true, bne_iff_ne] at h
    -- the property is not called `not`, so the comparison is no negation
    obtain ⟨t, ts, hlex, htext, hcomp⟩ := lexes_comparison h.1.1 h.2 op position
    exact ⟨_, hlex, .plain (fun hnot => h.1.2 (htext ▸ hnot.2)) (.comparison hcomp)⟩
  | .logical op operands =>
    simp only [isWritable, Bool.and_eq_true, decide_eq_true_eq] at h
    -- a connective that is an operand stands in parentheses
    obtain ⟨ts, hlex, hconj⟩ := lexes_operands op operands h.1 h.2 (position + 1)
    have hright : Ends [')'] := ends_cons [] (by decide)
    exact ⟨_, (hlex.append (Lexes.nil _).rightParen hright).leftParen,
      .plain (fun hnot => by simp [Token.IsWord] at hnot) (.grouped rfl hconj rfl)⟩
  | .not operand =>
    obtain ⟨ts, hlex, hun⟩ := lexes_operand operand h (position + "not".toList.length + 1)
    exact ⟨_, (Lexes.name (by decide) position).append hlex.blank (ends_blank _),
      .negation ⟨rfl, rfl⟩ hun⟩
  | .text fn field argument =>
    simp only [isWritable, Bool.and_eq_true] at h
    obtain ⟨t, ts, hlex, htext, hcall⟩ := lexes_call h.1 h.2 fn position
    have hnot : t.text ≠ "not" := by
      rw [htext]
      cases fn <;> decide
    exact ⟨_, hlex, .plain (fun h => hnot h.2) (.call hcall)⟩
  | .oneOf .. => simp [isWritable] at h

/-- The operands of a connective are written as the tokens of a conjunction. -/
theorem lexes_operands (op : Connective) (fs : List Filter) (hlen : 2 ≤ fs.length)
    (h : areWritable fs = true) (position : Nat) :
    ∃ ts, Lexes position (operandsText op fs) ts ∧ Conjunction ts (.logical op fs) := by
  match fs with
  | f :: g :: gs =>
    rw [areWritable, Bool.and_eq_true] at h
    obtain ⟨ts, hlex, hun⟩ := lexes_operand f h.1 position
    obtain ⟨us, hlexs, hmore⟩ :=
      lexes_further op (g :: gs) h.2 (position + (operandText f).length)
    exact ⟨_, hlex.append hlexs (ends_blank _), hmore.conjunction hun⟩

/-- Further operands are written as such, each behind its word. -/
theorem lexes_further (op : Connective) (fs : List Filter) (h : areWritable fs = true)
    (position : Nat) :
    ∃ ts, Lexes position (furtherText op fs) ts ∧ MoreOperands op ts fs := by
  match fs with
  | [] => exact ⟨[], Lexes.nil position, .nil op⟩
  | f :: fs =>
    rw [areWritable, Bool.and_eq_true] at h
    obtain ⟨ts, hlex, hun⟩ := lexes_operand f h.1 (position + 1 + op.name.toList.length + 1)
    obtain ⟨us, hlexs, hmore⟩ := lexes_further op fs h.2
      (position + 1 + op.name.toList.length + 1 + (operandText f).length)
    -- further operands start with a blank, so they end the one in front
    have hends : Ends (furtherText op fs) := by
      cases fs with
      | nil => exact ends_nil
      | cons g gs => exact ends_blank _
    have hword := Lexes.name (isPropertyName_connective op) (position + 1)
    have hall := (hword.append (hlex.append hlexs hends).blank (ends_blank _)).blank
    have hder : MoreOperands op (⟨.name, op.name, position + 1, .null⟩ :: (ts ++ us)) (f :: fs) :=
      .cons ⟨rfl, rfl⟩ hun hmore
    exact ⟨_, hall, hder⟩

end

/-! ## Whole texts -/

/-- The tokens of a filter's text derive the filter. -/
theorem lexes_write {f : Filter} (h : isWritable f = true) :
    ∃ ts, Lexes 0 (write f).toList ts ∧ Conjunction ts f := by
  unfold write
  split
  · next op operands =>
    simp only [isWritable, Bool.and_eq_true, decide_eq_true_eq] at h
    rw [String.toList_ofList]
    exact lexes_operands op operands h.1 h.2 0
  · rw [String.toList_ofList]
    obtain ⟨ts, hlex, hun⟩ := lexes_operand _ h 0
    exact ⟨ts, hlex, .single (.single hun)⟩

/-- **Reading what was written.** The text of a filter is read as that filter: nothing is trimmed,
parentheses and quotes balance, and its tokens are read as the filter. -/
theorem parse_write {f : Filter} (h : isWritable f = true) : parse (write f) = .ok (some f) := by
  obtain ⟨ts, hlex, hconj⟩ := lexes_write h
  have htokens : tokenize (write f) =
      .ok (ts ++ [⟨.finish, "", (write f).toList.length, .null⟩]) := by
    -- nothing but the mark stands behind the text
    have hfrom := hlex [] ends_nil
    rw [List.append_nil, Nat.zero_add, tokensFrom_nil] at hfrom
    exact hfrom
  have hread : ofTokens (ts ++ [⟨.finish, "", (write f).toList.length, .null⟩]) = .ok f :=
    (ofTokens_eq_ok_iff hconj.kind_ne_finish rfl).mpr hconj
  have htrimmed : parseTrimmed (write f) = .ok f := by
    rw [parseTrimmed, checkBalance_write h, ok_bind, htokens, ok_bind, hread]
  obtain ⟨hstart, hend⟩ := solid_write h
  -- an empty text is no filter, but this one starts with a character
  have hne : write f ≠ "" := by
    intro hempty
    obtain ⟨c, cs, heq, -⟩ := hstart
    simp [hempty] at heq
  simp only [parse, strip_eq hstart hend, hne, if_false, htrimmed]

/-- Properties may be called like words, and strings may hold whatever a filter is made of. -/
theorem parse_write_words :
    parse "(and eq -3 or substringof('it\\'s (a,b) or \\\\' not',contains)) and not eq ne null" =
      .ok (some (.logical .and
        [.logical .or [.compare "and" .eq (.int (-3)),
            .text .substringof "contains" "it's (a,b) or \\' not"],
          .not (.compare "eq" .ne .null)])) := by
  have htext : write (.logical .and
      [.logical .or [.compare "and" .eq (.int (-3)),
          .text .substringof "contains" "it's (a,b) or \\' not"],
        .not (.compare "eq" .ne .null)]) =
      "(and eq -3 or substringof('it\\'s (a,b) or \\\\' not',contains)) and not eq ne null" := by
    rfl
  rw [← htext]
  exact parse_write (by decide +kernel)

/-! ## Texts without quotes -/

/-- A text without quotes is not escaped. -/
theorem escaped_eq {cs : List Char} (h : '\'' ∉ cs) : escaped cs = cs := by
  induction cs with
  | nil => rfl
  | cons c cs ih =>
    rw [List.mem_cons, not_or] at h
    rw [escaped_cons_of_ne (Ne.symm h.1), ih h.2]

/-- The text of an equation with a string that needs no escape. -/
theorem write_equality {field s : String} (hquote : '\'' ∉ s.toList) :
    write (.compare field .eq (.str s)) = s!"{field} eq '{s}'" := by
  refine String.toList_inj.mp ?_
  show (String.ofList (operandText (.compare field .eq (.str s)))).toList =
    (field ++ " eq '" ++ s ++ "'").toList
  rw [String.toList_ofList, String.toList_append, String.toList_append, String.toList_append]
  simp [operandText, literalText, quotedText, escaped_eq hquote, Comparator.name]

/-- A text without quotes that a property is compared with is what stands between the quotes. -/
theorem parse_equality {field s : String} (hfield : isPropertyName field = true)
    (hnot : field ≠ "not") (hquote : '\'' ∉ s.toList) (hs : isQuotable s = true) :
    parse s!"{field} eq '{s}'" = .ok (some (.compare field .eq (.str s))) := by
  have hwritable : isWritable (.compare field .eq (.str s)) = true := by
    simp [isWritable, isWritableLiteral, hfield, hnot, hs]
  obtain ⟨ts, hlex, hconj⟩ := lexes_write hwritable
  obtain ⟨hstart, hend⟩ := solid_write hwritable
  have hbalance := checkBalance_write hwritable
  rw [write_equality hquote] at hlex hstart hend hbalance
  have hfrom := hlex [] ends_nil
  rw [List.append_nil, Nat.zero_add, tokensFrom_nil] at hfrom
  -- the text is balanced, and its tokens are those of the equation
  have htokens : parseTrimmed s!"{field} eq '{s}'" =
      ofTokens (ts ++ [⟨.finish, "", (s!"{field} eq '{s}'").toList.length, .null⟩]) := by
    rw [parseTrimmed, hbalance, ok_bind, tokenize, hfrom]
    rfl
  have hread : ofTokens (ts ++ [⟨.finish, "", (s!"{field} eq '{s}'").toList.length, .null⟩]) =
      .ok (.compare field .eq (.str s)) :=
    (ofTokens_eq_ok_iff hconj.kind_ne_finish rfl).mpr hconj
  have hne : s!"{field} eq '{s}'" ≠ "" := by
    obtain ⟨c, cs, heq, -⟩ := hstart
    rintro hempty
    simp [hempty] at heq
  rw [parse, strip_eq hstart hend, if_neg hne, htokens, hread]

end ODataService.Filter
