import ODataService.Filter.Balance
import ODataService.Proofs.Bind
import ODataService.Proofs.Filter.Lexing

/-!
# Balance of written filters

The scan for balance runs over the text of a filter without fault (`checkBalance_write`): every
piece of the text leaves the scan as it found it, outside of strings.
-/

namespace ODataService.Filter

namespace Balance

/-- A text is scanned one part after the other. -/
theorem scan_append (b : Balance) (position : Nat) (cs ds : List Char) :
    b.scan position (cs ++ ds) =
      b.scan position cs >>= fun b => b.scan (position + cs.length) ds := by
  induction cs generalizing b position with
  | nil => rfl
  | cons c cs ih =>
    simp only [List.cons_append, scan, List.length_cons]
    cases b.step position c with
    | error _ => rfl
    | ok b' =>
      simp only [ok_bind]
      rw [ih b' (position + 1), show position + 1 + cs.length = position + (cs.length + 1) by omega]

/-- The scan is outside of strings, and no backslash stands in front. -/
def Outside (b : Balance) : Prop := b.quote = none ∧ b.afterBackslash = false

/-- The text leaves a scan that is outside of strings as it is. -/
def Neutral (cs : List Char) : Prop := ∀ b position, Outside b → b.scan position cs = .ok b

theorem Neutral.nil : Neutral [] := fun _ _ _ => rfl

/-- Two neutral texts are neutral in a row. -/
theorem Neutral.append {cs ds : List Char} (hc : Neutral cs) (hd : Neutral ds) :
    Neutral (cs ++ ds) := by
  intro b position hb
  rw [scan_append, hc b position hb, ok_bind, hd b _ hb]

/-- Characters that the scan passes over outside of strings. -/
def isPlain (c : Char) : Bool := c != '\'' && c != '\\' && c != '(' && c != ')'

/-- Outside of strings a plain character changes nothing. -/
theorem step_plain {b : Balance} {c : Char} (hb : Outside b) (hc : isPlain c = true)
    (position : Nat) : b.step position c = .ok b := by
  simp only [isPlain, Bool.and_eq_true, bne_iff_ne] at hc
  obtain ⟨⟨⟨hquote, hback⟩, hopen⟩, hclose⟩ := hc
  have hin : b.inQuotes = false := by simp [inQuotes, hb.1]
  -- no backslash is pending before or behind the character
  have hkeep : { b with afterBackslash := c == '\\' } = b := by
    rw [beq_eq_false_iff_ne.mpr hback, ← hb.2]
  simp [step, hquote, hopen, hclose, hin, hkeep]

/-- A plain character in front of a neutral text is neutral. -/
theorem Neutral.cons {c : Char} {cs : List Char} (hc : isPlain c = true) (h : Neutral cs) :
    Neutral (c :: cs) := by
  intro b position hb
  rw [scan, step_plain hb hc, ok_bind, h b _ hb]

/-- Plain characters are neutral. -/
theorem Neutral.of_forall {cs : List Char} (h : ∀ c ∈ cs, isPlain c = true) : Neutral cs := by
  induction cs with
  | nil => exact .nil
  | cons c cs ih =>
    exact .cons (h c (List.mem_cons_self ..)) (ih fun d hd => h d (List.mem_cons_of_mem _ hd))

theorem Neutral.of_all {cs : List Char} (h : cs.all isPlain = true) : Neutral cs :=
  .of_forall (List.all_eq_true.mp h)

/-- A text in parentheses opens one and closes it. -/
theorem Neutral.parens {cs : List Char} (h : Neutral cs) : Neutral ('(' :: (cs ++ [')'])) := by
  rintro ⟨opened, quote, back⟩ position ⟨rfl, rfl⟩
  -- the parenthesis that is opened is the one that is closed, since the text between is neutral
  have hopen : ({ opened } : Balance).step position '(' = .ok { opened := position :: opened } :=
    rfl
  have hclose : ∀ p, ({ opened := position :: opened } : Balance).step p ')' = .ok { opened } :=
    fun _ => rfl
  rw [scan, hopen, ok_bind, scan_append, h _ _ ⟨rfl, rfl⟩, ok_bind, scan, hclose]
  rfl

/-! ## Strings -/

/-- Inside of a string only the backslash is remembered, unless the string ends. -/
theorem step_inside {b : Balance} {q : Nat} (hq : b.quote = some q) {c : Char}
    (hc : c = '\'' → b.afterBackslash = true) (position : Nat) :
    b.step position c = .ok { b with afterBackslash := c == '\\' } := by
  have hin : b.inQuotes = true := by simp [inQuotes, hq]
  by_cases hquote : c = '\''
  · simp [step, hquote, hc hquote, hin]
  · simp [step, hquote, hin]

/-- Inside a string an escaped text is passed over. A backslash stands in front afterwards only when
the text ends with one. -/
theorem scan_escaped {b : Balance} {q : Nat} (hq : b.quote = some q) (cs : List Char)
    (position : Nat) :
    ∃ a, b.scan position (escaped cs) = .ok { b with afterBackslash := a } ∧
      (a = true → b.afterBackslash = true ∧ cs = [] ∨ cs.getLast? = some '\\') := by
  -- by induction on the text; a backslash at its end is the only one that is left over
  induction cs generalizing b position with
  | nil => exact ⟨b.afterBackslash, rfl, fun h => .inl ⟨h, rfl⟩⟩
  | cons c cs ih =>
    by_cases hc : c = '\''
    · -- a quote of the text is two characters, and the second one follows the first
      subst hc
      have hback := step_inside hq (c := '\\') (by simp) position
      have hquote := step_inside (b := { b with afterBackslash := true }) hq (c := '\'')
        (fun _ => rfl) (position + 1)
      obtain ⟨a, ha, hlast⟩ := ih (b := { b with afterBackslash := false }) hq (position + 1 + 1)
      refine ⟨a, ?_, fun h => ?_⟩
      · rw [escaped, scan, hback, ok_bind, scan]
        simp only [beq_self_eq_true, hquote, ok_bind]
        exact ha
      · rcases hlast h with ⟨hfalse, -⟩ | hlast
        · simp at hfalse
        · exact .inr (by simp [List.getLast?_cons, hlast])
    · -- any other character is passed over, and only a backslash is remembered
      have hstep := step_inside hq (c := c) (fun h => absurd h hc) position
      obtain ⟨a, ha, hlast⟩ := ih (b := { b with afterBackslash := c == '\\' }) hq (position + 1)
      refine ⟨a, ?_, fun h => ?_⟩
      · rw [escaped_cons_of_ne hc, scan, hstep, ok_bind]
        exact ha
      · rcases hlast h with ⟨hback, rfl⟩ | hlast
        · exact .inr (by simpa using hback)
        · exact .inr (by simp [List.getLast?_cons, hlast])

/-- A string in quotes is passed over. -/
theorem Neutral.quoted {s : String} (h : isQuotable s = true) : Neutral (quotedText s) := by
  rintro ⟨opened, quote, back⟩ position ⟨rfl, rfl⟩
  have hopen : ({ opened } : Balance).step position '\'' =
      .ok { opened, quote := some position } := rfl
  obtain ⟨a, ha, hlast⟩ := scan_escaped (b := { opened, quote := some position }) rfl s.toList
    (position + 1)
  -- the text does not end with a backslash, so the closing quote is not escaped
  obtain rfl : a = false := by
    rw [Bool.eq_false_iff]
    intro htrue
    rcases hlast htrue with ⟨hback, -⟩ | hlast
    · simp at hback
    · simp [isQuotable, hlast] at h
  have hclose : ∀ p, ({ opened, quote := some position } : Balance).step p '\'' =
      .ok { opened } := fun _ => rfl
  rw [quotedText, scan, hopen, ok_bind, scan_append, ha, ok_bind, scan, hclose]
  rfl

end Balance

/-! ## Filters -/

open Balance

/-- Characters of names are plain. -/
theorem isPlain_of_isNamePart {c : Char} (h : isNamePart c = true) : isPlain c = true := by
  have hne : ∀ d, isNamePart d = false → c ≠ d := by
    rintro d hd rfl
    simp [hd] at h
  simp only [isPlain, Bool.and_eq_true, bne_iff_ne]
  exact ⟨⟨⟨hne _ (by decide), hne _ (by decide)⟩, hne _ (by decide)⟩, hne _ (by decide)⟩

/-- A name is neutral. -/
theorem neutral_name {field : String} (h : isPropertyName field = true) :
    Neutral field.toList :=
  .of_forall fun c hc => isPlain_of_isNamePart (forall_isNamePart h c hc)

theorem isPlain_of_isDigit {c : Char} (h : c.isDigit = true) : isPlain c = true :=
  isPlain_of_isNamePart (by simp [isNamePart, Char.isAlphanum, h])

/-- A number is neutral. -/
theorem neutral_int (n : Int) : Neutral (toString n).toList := by
  have hdigits : ∀ m : Nat, Neutral (Nat.toDigits 10 m) := fun m =>
    .of_forall fun c hc => isPlain_of_isDigit (Text.isDigit_of_mem_toDigits hc)
  cases n with
  | ofNat m => exact Text.intText_ofNat m ▸ hdigits m
  | negSucc m => exact Text.intText_negSucc m ▸ .cons (by decide) (hdigits (m + 1))

/-- A literal is neutral. -/
theorem neutral_literal {v : Scalar} (h : isWritableLiteral v = true) :
    Neutral (literalText v) := by
  cases v with
  | null => exact .of_all (by decide)
  | bool b => cases b <;> exact .of_all (by decide)
  | int n => exact neutral_int n
  | real x => simp [isWritableLiteral] at h
  | str s => exact .quoted h

theorem neutral_comparator (c : Comparator) : Neutral c.name.toList :=
  .of_all (by cases c <;> decide)

theorem neutral_textFunction (fn : TextFunction) : Neutral fn.name.toList :=
  .of_all (by cases fn <;> decide)

theorem neutral_connective (op : Connective) : Neutral op.name.toList :=
  .of_all (by cases op <;> decide)

/-- A call is neutral: its parentheses close. -/
theorem neutral_call {fn : TextFunction} {field argument : String}
    (hf : isPropertyName field = true) (ha : isQuotable argument = true) :
    Neutral (callText fn field argument) := by
  have hcomma : ∀ {cs}, Neutral cs → Neutral (',' :: cs) := .cons (by decide)
  -- either order of the arguments is neutral between the parentheses
  have hfield : Neutral ('(' :: ((field.toList ++ ',' :: quotedText argument) ++ [')'])) :=
    ((neutral_name hf).append (hcomma (.quoted ha))).parens
  have htext : Neutral ('(' :: ((quotedText argument ++ ',' :: field.toList) ++ [')'])) :=
    ((Neutral.quoted ha).append (hcomma (neutral_name hf))).parens
  simp only [List.append_assoc, List.cons_append] at hfield htext
  unfold callText
  split
  · exact (neutral_textFunction _).append htext
  · exact (neutral_textFunction _).append hfield

mutual

/-- The text of an operand is passed over. -/
theorem neutral_operand (f : Filter) (h : isWritable f = true) : Neutral (operandText f) := by
  have hblank : ∀ {cs}, Neutral cs → Neutral (' ' :: cs) := .cons (by decide)
  match f with
  | .compare field op value =>
    simp only [isWritable, Bool.and_eq_true] at h
    exact (neutral_name h.1.1).append
      (hblank ((neutral_comparator op).append (hblank (neutral_literal h.2))))
  | .logical op operands =>
    simp only [isWritable, Bool.and_eq_true] at h
    exact (neutral_operands op operands h.2).parens
  | .not operand =>
    exact (Neutral.of_all (by decide)).append (hblank (neutral_operand operand h))
  | .text fn field argument =>
    simp only [isWritable, Bool.and_eq_true] at h
    exact neutral_call h.1 h.2
  | .oneOf .. => exact .nil

/-- The operands of a connective are neutral. -/
theorem neutral_operands (op : Connective) (fs : List Filter) (h : areWritable fs = true) :
    Neutral (operandsText op fs) := by
  match fs with
  | [] => exact .nil
  | f :: fs =>
    simp only [areWritable, Bool.and_eq_true] at h
    exact (neutral_operand f h.1).append (neutral_further op fs h.2)

/-- Further operands are neutral. -/
theorem neutral_further (op : Connective) (fs : List Filter) (h : areWritable fs = true) :
    Neutral (furtherText op fs) := by
  have hblank : ∀ {cs}, Neutral cs → Neutral (' ' :: cs) := .cons (by decide)
  match fs with
  | [] => exact .nil
  | f :: fs =>
    simp only [areWritable, Bool.and_eq_true] at h
    exact hblank ((neutral_connective op).append
      (hblank ((neutral_operand f h.1).append (neutral_further op fs h.2))))

end

/-- The text of a filter balances. -/
theorem checkBalance_write {f : Filter} (h : isWritable f = true) :
    checkBalance (write f) = .ok () := by
  have hneutral : Neutral (write f).toList := by
    unfold write
    split
    · next op operands =>
      simp only [isWritable, Bool.and_eq_true] at h
      rw [String.toList_ofList]
      exact neutral_operands op operands h.2
    · rw [String.toList_ofList]
      exact neutral_operand _ h
  rw [checkBalance, hneutral _ _ ⟨rfl, rfl⟩, ok_bind]
  rfl

end ODataService.Filter
