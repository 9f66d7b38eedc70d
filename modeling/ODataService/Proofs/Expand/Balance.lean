import Mathlib.Data.List.Induction
import ODataService.Proofs.Expand.Splitting

/-!
# Texts that balance

When a text is split and into how many parts, said by counting. The parentheses of a text are
counted outside of its strings, in front of every position (`opened`, `closed`), and these numbers
are what the scan of the text keeps track of, as long as no parenthesis is closed that was not opened
(`Nesting.reach?_eq_some_iff`). So a text is refused exactly if it is `Unbalanced`. Otherwise there
is one part more than there are separators at the top level, and no part can be split any further
(`splitTopLevel_exact`).
-/

namespace ODataService.Expand

variable {sep c : Char} {cs : List Char}

/-! ## Counting -/

/-- The characters outside of strings. Every quote opens or closes one. -/
def unquoted : (quoted : Bool) → List Char → List Char
  | _, [] => []
  | quoted, c :: cs =>
    if c = '\'' then unquoted (!quoted) cs
    else if quoted then unquoted quoted cs
    else c :: unquoted quoted cs

/-- Whether a string is open behind a text. -/
def endsQuoted (cs : List Char) : Bool := cs.count '\'' % 2 == 1

/-- How many parentheses are opened outside of strings. -/
def opened (cs : List Char) : Nat := (unquoted false cs).count '('

/-- How many parentheses are closed outside of strings. -/
def closed (cs : List Char) : Nat := (unquoted false cs).count ')'

/-- A quote in front turns the quoting at the end around, any other character leaves it. -/
theorem endsQuoted_cons (c : Char) (cs : List Char) :
    endsQuoted (c :: cs) = if c = '\'' then !endsQuoted cs else endsQuoted cs := by
  unfold endsQuoted
  rw [List.count_cons]
  -- the number of quotes grows by one, or stays
  by_cases hc : c = '\''
  · rw [if_pos hc, if_pos (beq_iff_eq.2 hc), Bool.eq_iff_iff]
    simp only [beq_iff_eq, Bool.not_eq_true', beq_eq_false_iff_ne]
    omega
  · rw [if_neg hc, if_neg (by simpa using hc), Nat.add_zero]

/-- The unquoted part of a text put together: the second part is read as the first one leaves it. -/
theorem unquoted_append (quoted : Bool) (cs ds : List Char) :
    unquoted quoted (cs ++ ds) = unquoted quoted cs ++ unquoted (quoted ^^ endsQuoted cs) ds := by
  -- the quoting in front is kept general, as each quote turns it
  induction cs generalizing quoted with
  | nil => simp [unquoted, endsQuoted]
  | cons c cs ih =>
    rw [List.cons_append, unquoted, unquoted, endsQuoted_cons]
    split
    · rw [ih]
      cases quoted <;> simp
    · split
      · exact ih quoted
      · rw [ih]
        rfl

/-- A quote at the end turns the quoting around, any other character leaves it. -/
theorem endsQuoted_concat (cs : List Char) (c : Char) :
    endsQuoted (cs ++ [c]) = if c = '\'' then !endsQuoted cs else endsQuoted cs := by
  rw [← endsQuoted_cons]
  simp [endsQuoted, List.count_cons]

/-- The last character of a text, where it stands outside of strings. -/
theorem unquoted_concat (cs : List Char) (c : Char) :
    unquoted false (cs ++ [c]) =
      unquoted false cs ++ if c = '\'' ∨ endsQuoted cs = true then [] else [c] := by
  rw [unquoted_append, Bool.false_xor]
  congr 1
  cases endsQuoted cs <;> simp [unquoted]

/-- A character at the end counts when it stands outside the strings. -/
theorem count_unquoted_concat {p : Char} (hp : p ≠ '\'') (cs : List Char) (c : Char) :
    (unquoted false (cs ++ [c])).count p =
      (unquoted false cs).count p + if c = p ∧ endsQuoted cs = false then 1 else 0 := by
  rw [unquoted_concat, List.count_append]
  congr 1
  by_cases hc : c = p
  · subst hc
    cases endsQuoted cs <;> simp [hp]
  · cases endsQuoted cs <;> simp [hc]
    split <;> simp [hc]

namespace Nesting

/-- The nesting behind a text, whatever separates in it. -/
def reach? (s : Nesting) (cs : List Char) : Option Nesting := cs.foldlM step? s

/-- The nesting that the counts of a text tell. -/
def counted (cs : List Char) : Nesting := ⟨opened cs - closed cs, endsQuoted cs⟩

theorem reach?_cons (s : Nesting) (c : Char) (cs : List Char) :
    s.reach? (c :: cs) = (s.step? c).bind fun s => s.reach? cs := List.foldlM_cons

/-- The scan takes the last character from where the others lead to. -/
theorem reach?_concat (s : Nesting) (cs : List Char) (c : Char) :
    s.reach? (cs ++ [c]) = (s.reach? cs).bind fun s => s.step? c := by
  rw [reach?, List.foldlM_append]
  simp [reach?]

/-- One more character changes the nesting as it changes the counts, unless it closes a parenthesis
that was not opened. -/
theorem step?_counted (h : closed cs ≤ opened cs) (c : Char) :
    (counted cs).step? c =
      if closed (cs ++ [c]) ≤ opened (cs ++ [c]) then some (counted (cs ++ [c])) else none := by
  -- the counts of the longer text, by whether the character stands in a string
  have hopened := count_unquoted_concat (p := '(') (by decide) cs c
  have hclosed := count_unquoted_concat (p := ')') (by decide) cs c
  simp only [counted, step?, opened, closed, endsQuoted_concat] at *
  rw [hopened, hclosed]
  -- a case for each kind of character, in the order the scan tries them
  by_cases hquote : c = '\''
  · simp [hquote, h]
  by_cases hin : endsQuoted cs = true
  · simp [hquote, hin, h]
  by_cases hopen : c = '('
  · simp [hopen, hin]
    omega
  by_cases hclose : c = ')'
  · simp [hclose, hin]
    split <;> split <;> simp <;> omega
  · simp [hquote, hin, hopen, hclose, h]

/-- The scan reaches the end of a text if no part in front closes more parentheses than it opens,
and then it knows how many are open. -/
theorem reach?_eq_some_iff {t : Nesting} :
    reach? {} cs = some t ↔
      (∀ front, front <+: cs → closed front ≤ opened front) ∧ t = counted cs := by
  -- on the last character: the conditions are about what stands in front
  induction cs using List.reverseRecOn generalizing t with
  | nil =>
    have hnone : ∀ front : List Char, front <+: [] → closed front ≤ opened front := by
      intro front hfront
      rw [List.prefix_nil.1 hfront]
      exact Nat.le_refl _
    exact ⟨fun h => ⟨hnone, (Option.some.inj h).symm⟩, fun h => congrArg some h.2.symm⟩
  | append_singleton cs c ih =>
    rw [reach?_concat, Option.bind_eq_some_iff]
    constructor
    -- the scan of all but the last character is where the counts say, and the last one was taken
    · rintro ⟨s, hs, ht⟩
      obtain ⟨hfronts, rfl⟩ := ih.1 hs
      rw [step?_counted (hfronts cs (List.prefix_refl cs))] at ht
      split at ht
      next hle =>
        refine ⟨fun front hfront => ?_, (Option.some.inj ht).symm⟩
        rcases List.prefix_concat_iff.1 hfront with rfl | hfront
        · exact hle
        · exact hfronts front hfront
      next => simp at ht
    -- what holds of every front holds of those of the shorter text
    · rintro ⟨hfronts, rfl⟩
      have hshorter : ∀ front, front <+: cs → closed front ≤ opened front :=
        fun front hfront => hfronts front (hfront.trans (List.prefix_append cs [c]))
      refine ⟨counted cs, ih.2 ⟨hshorter, rfl⟩, ?_⟩
      rw [step?_counted (hshorter cs (List.prefix_refl cs)),
        if_pos (hfronts _ (List.prefix_refl (cs ++ [c])))]

/-- A separator at the top level leaves the scan there. -/
theorem step?_separator (hsep : IsSeparator sep) : step? {} sep = some {} := by
  simp only [IsSeparator, List.mem_cons, List.not_mem_nil, or_false, not_or] at hsep
  simp [step?, hsep]

end Nesting

open Nesting

/-- More parentheses are closed than were opened in front of some position, or the numbers of both
differ, or a string is left open. -/
def Unbalanced (cs : List Char) : Prop :=
  (∃ front, front <+: cs ∧ opened front < closed front) ∨ opened cs ≠ closed cs ∨
    cs.count '\'' % 2 = 1

/-- How many separators stand outside of parentheses and strings. -/
def separatorCount (sep : Char) (cs : List Char) : Nat :=
  (List.range cs.length).countP fun i =>
    cs[i]? = some sep ∧ opened (cs.take i) = closed (cs.take i) ∧ (cs.take i).count '\'' % 2 = 0

/-- The counts are those of the top level when they agree and no string is open. -/
theorem counted_eq_empty (h : closed cs ≤ opened cs) :
    counted cs = {} ↔ opened cs = closed cs ∧ cs.count '\'' % 2 = 0 := by
  rw [counted, Nesting.mk.injEq, endsQuoted, beq_eq_false_iff_ne]
  omega

/-- The scan ends at the top level exactly in texts that balance. -/
theorem reach?_eq_empty_iff : reach? {} cs = some {} ↔ ¬ Unbalanced cs := by
  rw [reach?_eq_some_iff, Unbalanced, not_or, not_or, not_not]
  constructor
  -- the scan ends at the top level, so each of the three faults is excluded
  · rintro ⟨hfronts, hend⟩
    obtain ⟨hcounts, hquotes⟩ := (counted_eq_empty (hfronts cs (List.prefix_refl cs))).1 hend.symm
    refine ⟨?_, hcounts, by omega⟩
    rintro ⟨front, hfront, hlt⟩
    exact Nat.not_lt.2 (hfronts front hfront) hlt
  -- without any of them the scan runs through and ends there
  · rintro ⟨hfronts, hcounts, hquotes⟩
    refine ⟨fun front hfront => Nat.not_lt.1 fun hlt => hfronts ⟨front, hfront, hlt⟩, ?_⟩
    exact ((counted_eq_empty (Nat.le_of_eq hcounts.symm)).2 ⟨hcounts, by omega⟩).symm

/-! ## Splitting -/

variable {whole : String} {position : Nat} {s : Nesting} {parts : List (List Char)}

/-- A text is split if the scan ends at the top level. -/
theorem exists_splitFrom_iff (hsep : IsSeparator sep) :
    (∃ parts, splitFrom whole sep position s.depth s.quoted cs = .ok parts) ↔
      s.reach? cs = some {} := by
  -- at the end the depth and the quoting decide; a character is split off as the scan takes it
  induction cs generalizing s position with
  | nil =>
    obtain ⟨depth, quoted⟩ := s
    rw [splitFrom_nil]
    show _ ↔ some _ = _
    by_cases hdepth : depth = 0 <;> by_cases hquoted : quoted = true <;> simp [hdepth, hquoted]
  | cons c cs ih =>
    rw [splitFrom_cons hsep, reach?_cons]
    split
    next hcount =>
      obtain ⟨rfl, rfl⟩ := hcount
      rw [step?_separator hsep, Option.bind_some, ← ih, exists_map_eq_ok]
    next =>
      split
      next hstep => simp [hstep]
      next t hstep =>
        rw [hstep, Option.bind_some, ← ih, exists_map_eq_ok]

/-- What is left of a text when its first character is read is split as well, into as many parts,
or one less if the character separates. -/
theorem exists_splitFrom_of_cons (hsep : IsSeparator sep)
    (h : splitFrom whole sep position s.depth s.quoted (c :: cs) = .ok parts) :
    ∃ t rest, s.step? c = some t ∧
      splitFrom whole sep (position + 1) t.depth t.quoted cs = .ok rest ∧
      parts.length = rest.length + if c = sep ∧ s = {} then 1 else 0 := by
  rw [splitFrom_cons hsep] at h
  split at h
  -- a separator that counts adds a part, any other character goes to the first one
  next hcount =>
    obtain ⟨rest, hrest, rfl⟩ := map_eq_ok.1 h
    obtain ⟨rfl, rfl⟩ := hcount
    exact ⟨{}, rest, step?_separator hsep, hrest, by simp⟩
  next hcount =>
    split at h
    · simp at h
    next t ht =>
      obtain ⟨rest, hrest, rfl⟩ := map_eq_ok.1 h
      obtain ⟨p, ps, rfl, -⟩ := exists_of_splitFrom hsep hrest
      exact ⟨t, p :: ps, ht, hrest, by rw [if_neg hcount]; rfl⟩

/-- There is one part more than there are separators at the top level. -/
theorem length_of_splitFrom (hsep : IsSeparator sep)
    (h : splitFrom whole sep position s.depth s.quoted cs = .ok parts) :
    parts.length =
      (List.range cs.length).countP
        (fun i => cs[i]? = some sep ∧ s.reach? (cs.take i) = some {}) + 1 := by
  induction cs generalizing s position parts with
  | nil =>
    obtain ⟨p, ps, rfl, htext, -⟩ := exists_of_splitFrom hsep h
    cases ps with
    | nil => rfl
    | cons q ps => simp [List.intercalate_cons_cons] at htext
  | cons c cs ih =>
    obtain ⟨t, rest, ht, hrest, hlength⟩ := exists_splitFrom_of_cons hsep h
    -- behind the first character the scan goes on from where it leads to
    have hbehind : ∀ i,
        ((c :: cs)[i + 1]? = some sep ∧ s.reach? ((c :: cs).take (i + 1)) = some {}) ↔
          cs[i]? = some sep ∧ t.reach? (cs.take i) = some {} := by
      intro i
      rw [List.getElem?_cons_succ, List.take_succ_cons, reach?_cons, ht, Option.bind_some]
    -- the first character counts if it is a separator at the top level
    have hfirst : ((c :: cs)[0]? = some sep ∧ s.reach? ((c :: cs).take 0) = some {}) ↔
        c = sep ∧ s = {} := by
      simp [reach?]
    rw [hlength, ih hrest, List.length_cons, List.range_succ_eq_map, List.countP_cons,
      List.countP_map]
    simp only [Function.comp_def, hbehind, hfirst, decide_eq_true_eq]
    omega

/-- In a balanced text the separators outside are those the scan meets at the top level. -/
theorem separatorCount_eq (h : ¬ Unbalanced cs) :
    separatorCount sep cs = (List.range cs.length).countP
      fun i => cs[i]? = some sep ∧ reach? {} (cs.take i) = some {} := by
  have hfronts := (reach?_eq_some_iff.1 (reach?_eq_empty_iff.2 h)).1
  unfold separatorCount
  refine List.countP_congr fun i _ => ?_
  -- at every place the scan stands where the counts say
  have hcounted : reach? {} (cs.take i) = some (counted (cs.take i)) :=
    reach?_eq_some_iff.2
      ⟨fun front hfront => hfronts front (hfront.trans (List.take_prefix i cs)), rfl⟩
  rw [decide_eq_true_iff, decide_eq_true_iff, hcounted, Option.some.injEq,
    counted_eq_empty (hfronts _ (List.take_prefix i cs))]

/-- A text is refused exactly if it is unbalanced. Otherwise its parts are those between the
separators outside of parentheses and strings: joined they give the text back, there is one more
than there are such separators, and none can be split any further. -/
theorem splitTopLevel_exact (hsep : IsSeparator sep) (text : String) :
    match splitTopLevel text sep with
    | .error fault => Unbalanced text.toList ∧ fault.rejection.code = .invalidExpand
    | .ok parts =>
      ¬ Unbalanced text.toList ∧ Text.joinWith (String.singleton sep) parts = text ∧
        parts.length = separatorCount sep text.toList + 1 ∧
        ∀ part ∈ parts, splitTopLevel part sep = .ok [part] := by
  have hiff := (@exists_splitFrom_iff sep text.toList text 0 {} hsep).trans reach?_eq_empty_iff
  split
  -- a text that is refused cannot be balanced: it would be split
  next fault h =>
    refine ⟨Classical.not_not.1 fun hbalanced => ?_, rfl⟩
    obtain ⟨parts, hparts⟩ := hiff.2 hbalanced
    simp [splitTopLevel, hparts, Except.map] at h
  -- the parts give the text back, and each is left whole
  next parts h =>
    obtain ⟨-, htext, halone⟩ := (splitTopLevel_eq_ok hsep).1 h
    obtain ⟨pieces, hpieces, rfl⟩ := map_eq_ok.1 h
    have hbalanced := hiff.1 ⟨pieces, hpieces⟩
    refine ⟨hbalanced, ?_, ?_, ?_⟩
    · rw [← String.toList_inj, Text.joinWith, String.toList_intercalate, String.toList_singleton,
        htext]
    · rw [List.length_map, separatorCount_eq hbalanced]
      exact length_of_splitFrom (s := {}) hsep hpieces
    · exact fun part hpart => (splitTopLevel_singleton_iff hsep).2 (halone part hpart)

/-- Commas in parentheses and in strings, and parentheses in strings. -/
def nestedText : String := "a($select=x,y;$filter=n eq ',('),b,')'"

def nestedParts : List String := ["a($select=x,y;$filter=n eq ',(')", "b", "')'"]

/-- A text with separators in parentheses and strings is split at the one outside. -/
theorem splitTopLevel_exact_nested :
    IsSeparator ',' ∧ splitTopLevel nestedText ',' = .ok nestedParts ∧
      ¬ Unbalanced nestedText.toList ∧ Text.joinWith "," nestedParts = nestedText ∧
      nestedParts.length = separatorCount ',' nestedText.toList + 1 ∧
      ∀ part ∈ nestedParts, splitTopLevel part ',' = .ok [part] := by
  have hsplit : splitTopLevel nestedText ',' = .ok nestedParts := by decide
  have hexact := @splitTopLevel_exact ',' (by decide) nestedText
  rw [hsplit] at hexact
  exact ⟨by decide, hsplit, hexact⟩

end ODataService.Expand
