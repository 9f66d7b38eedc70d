import Mathlib.Algebra.Group.Nat.Even
import Mathlib.Data.Nat.Count
import Mathlib.Data.Set.Card
import Mathlib.Order.Bounds.Basic
import ODataService.Proofs.Filter.Parentheses

/-!
# What the check of balance finds

The check of balance scans a text once, with a stack of the parentheses that are open and the quote
that is. What it reports is said here without the scan, by places of the text.

A quote toggles unless a backslash stands in front of it (`Toggles`), and a place is quoted when an
odd number of toggling quotes stand in front of it (`Quoted`). Parentheses open and close where they
are not quoted (`Opens`, `Closes`). Two of them match when the parentheses between them are balanced
(`Matches`). `Diagnosis` lists what may be wrong, the first cause that applies before the others.

The scan knows two things of the text in front of it: the state of its quotes (`Seen`), and which
parentheses no other one matches so far, innermost first (`Stacked`).

Main result: `checkBalance_eq_iff`.
-/

namespace ODataService.Filter

variable {cs : List Char} {c : Char} {i j n : Nat} {s : Quoting} {opened : List Nat}

/-- The quote at `i` opens or closes a string: no backslash stands in front of it. -/
def Toggles (cs : List Char) (i : Nat) : Prop :=
  cs[i]? = some '\'' ∧ (i = 0 ∨ cs[i - 1]? ≠ some '\\')

instance (cs : List Char) : DecidablePred (Toggles cs) := fun _ => inferInstanceAs (Decidable (_ ∧ _))

/-- An odd number of toggling quotes stand in front of `i`. -/
def Quoted (cs : List Char) (i : Nat) : Prop := Odd (Nat.count (Toggles cs) i)

instance (cs : List Char) : DecidablePred (Quoted cs) := fun _ => inferInstanceAs (Decidable (Odd _))

/-- A parenthesis outside of strings opens at `i`. -/
def Opens (cs : List Char) (i : Nat) : Prop := cs[i]? = some '(' ∧ ¬ Quoted cs i

instance (cs : List Char) : DecidablePred (Opens cs) := fun _ => inferInstanceAs (Decidable (_ ∧ _))

/-- A parenthesis outside of strings closes at `i`. -/
def Closes (cs : List Char) (i : Nat) : Prop := cs[i]? = some ')' ∧ ¬ Quoted cs i

instance (cs : List Char) : DecidablePred (Closes cs) := fun _ => inferInstanceAs (Decidable (_ ∧ _))

/-- With the parenthesis that closes at `i`, more have closed than opened. -/
def Exceeds (cs : List Char) (i : Nat) : Prop :=
  Closes cs i ∧ Nat.count (Opens cs) (i + 1) < Nat.count (Closes cs) (i + 1)

/-- How many more parentheses open than close in front of `n`. -/
def depth (cs : List Char) (n : Nat) : Int := Nat.count (Opens cs) n - Nat.count (Closes cs) n

/-- The parenthesis at `j` closes the one at `i`: between the two as many open as close, and at no
place between them more have closed than opened. -/
structure Matches (cs : List Char) (i j : Nat) : Prop where
  opens : Opens cs i
  closes : Closes cs j
  lt : i < j
  balanced : depth cs j = depth cs (i + 1)
  nested : ∀ k, i < k → k ≤ j → depth cs (i + 1) ≤ depth cs k

/-- A parenthesis opens at `i`, and none closes it. -/
def Unmatched (cs : List Char) (i : Nat) : Prop := Opens cs i ∧ ∀ j, ¬ Matches cs i j

/-- What is wrong with the parentheses and quotes of a text: the first parenthesis that closes none;
or else the number of those that nothing closes, and the first of them; or else the last quote, if
it opens a string; or else nothing. -/
inductive Diagnosis (cs : List Char) : Except Fault Unit → Prop where
  | unmatchedClosing {i : Nat} (hi : IsLeast {i | Exceeds cs i} i) :
      Diagnosis cs (.error (.unmatchedClosing i))
  | unclosedOpening {i : Nat} (hclosing : ∀ i, ¬ Exceeds cs i)
      (hi : IsLeast {i | Unmatched cs i} i) :
      Diagnosis cs (.error (.unclosedOpening {i | Unmatched cs i}.ncard i))
  | unclosedQuote {i : Nat} (hclosing : ∀ i, ¬ Exceeds cs i) (hopening : ∀ i, ¬ Unmatched cs i)
      (hodd : Odd (Nat.count (Toggles cs) cs.length)) (hi : IsGreatest {i | Toggles cs i} i) :
      Diagnosis cs (.error (.unclosedQuote i))
  | balanced (hclosing : ∀ i, ¬ Exceeds cs i) (hopening : ∀ i, ¬ Unmatched cs i)
      (heven : ¬ Odd (Nat.count (Toggles cs) cs.length)) :
      Diagnosis cs (.ok ())

/-- There is one diagnosis of a text. -/
theorem Diagnosis.unique {r r' : Except Fault Unit} (h : Diagnosis cs r) (h' : Diagnosis cs r') :
    r = r' := by
  -- each case excludes those in front of it, and its position is determined
  cases h with
  | unmatchedClosing hi =>
    cases h' with
    | unmatchedClosing hi' => rw [hi.unique hi']
    | unclosedOpening hclosing | unclosedQuote hclosing | balanced hclosing =>
      exact absurd hi.1 (hclosing _)
  | unclosedOpening hclosing hi =>
    cases h' with
    | unmatchedClosing hi' => exact absurd hi'.1 (hclosing _)
    | unclosedOpening _ hi' => rw [hi.unique hi']
    | unclosedQuote _ hopening | balanced _ hopening => exact absurd hi.1 (hopening _)
  | unclosedQuote hclosing hopening hodd hi =>
    cases h' with
    | unmatchedClosing hi' => exact absurd hi'.1 (hclosing _)
    | unclosedOpening _ hi' => exact absurd hi'.1 (hopening _)
    | unclosedQuote _ _ _ hi' => rw [hi.unique hi']
    | balanced _ _ heven => exact absurd hodd heven
  | balanced hclosing hopening heven =>
    cases h' with
    | unmatchedClosing hi' => exact absurd hi'.1 (hclosing _)
    | unclosedOpening _ hi' => exact absurd hi'.1 (hopening _)
    | unclosedQuote _ _ hodd => exact absurd hodd heven
    | balanced => rfl

/-! ## Quotes -/

/-- What a scan knows of the quotes in front of `n`. -/
structure Seen (cs : List Char) (n : Nat) (s : Quoting) : Prop where
  backslash : s.afterBackslash = true ↔ n ≠ 0 ∧ cs[n - 1]? = some '\\'
  quoted : s.quote.isSome = true ↔ Quoted cs n
  quote : ∀ i, s.quote = some i → IsGreatest {i | Toggles cs i ∧ i < n} i

/-- In front of the text nothing has been seen. -/
theorem Seen.start : Seen cs 0 {} where
  backslash := by simp
  quoted := by simp [Quoted]
  quote := by simp

/-- A quote toggles when no backslash stands in front of it. -/
theorem Seen.toggles_iff (h : Seen cs n s) (hc : cs[n]? = some c) :
    (c = '\'' && !s.afterBackslash) = true ↔ Toggles cs n := by
  have hback : s.afterBackslash = false ↔ n = 0 ∨ cs[n - 1]? ≠ some '\\' := by
    rw [Bool.eq_false_iff, Ne, h.backslash, not_and_or, not_not]
  simp [Toggles, hc, hback]

/-- Behind a character one is inside of a string as before, unless it toggles. -/
theorem quoted_succ_iff : Quoted cs (n + 1) ↔ (Quoted cs n ↔ ¬ Toggles cs n) := by
  unfold Quoted
  rw [Nat.count_succ]
  split
  · next h => rw [Nat.odd_add_one]; tauto
  · next h => rw [Nat.add_zero]; tauto

/-- What has been seen goes on with each character. -/
theorem Seen.step (h : Seen cs n s) (hc : cs[n]? = some c) : Seen cs (n + 1) (s.step n c) where
  backslash := by simp [Quoting.step, hc]
  quoted := by
    rw [quoted_succ_iff, ← h.toggles_iff hc, ← h.quoted]
    unfold Quoting.step
    by_cases htoggles : (c = '\'' && !s.afterBackslash) = true
    · cases s.quote <;> simp [htoggles]
    · simp [htoggles]
  quote := by
    intro i hi
    -- the places in front of the next one are `n` and those in front of it
    unfold Quoting.step at hi
    by_cases htoggles : (c = '\'' && !s.afterBackslash) = true
    · rw [if_pos htoggles] at hi
      split at hi
      · simp at hi
      · obtain rfl := Option.some.inj hi
        exact ⟨⟨(h.toggles_iff hc).1 htoggles, by omega⟩, fun j hj => Nat.le_of_lt_succ hj.2⟩
    · rw [if_neg htoggles] at hi
      rw [h.toggles_iff hc] at htoggles
      obtain ⟨⟨hmem, hlt⟩, hmax⟩ := h.quote i hi
      refine ⟨⟨hmem, by omega⟩, fun j hj => hmax ⟨hj.1, ?_⟩⟩
      have hne : j ≠ n := by
        rintro rfl
        exact htoggles hj.1
      have := hj.2
      omega

/-- The scan sees the parentheses outside of strings. -/
theorem Seen.outer? (h : Seen cs n s) (hc : cs[n]? = some c) : s.outer? n c =
    if Opens cs n then some ⟨n, true⟩ else if Closes cs n then some ⟨n, false⟩ else none := by
  unfold Quoting.outer? paren? Opens Closes
  by_cases hquoted : Quoted cs n
  · simp [h.quoted.2 hquoted, hquoted]
  · simp [mt h.quoted.1 hquoted, hquoted, hc]

/-! ## Parentheses -/

/-- No place opens and closes. -/
theorem not_closes_of_opens (h : Opens cs i) : ¬ Closes cs i := by
  rintro ⟨hc, -⟩
  rw [h.1] at hc
  simp at hc

theorem depth_zero : depth cs 0 = 0 := by simp [depth]

/-- An opening parenthesis leads one level down. -/
theorem depth_succ_of_opens (h : Opens cs n) : depth cs (n + 1) = depth cs n + 1 := by
  simp only [depth, Nat.count_succ, if_pos h, if_neg (not_closes_of_opens h)]
  omega

/-- A closing parenthesis leads one level up. -/
theorem depth_succ_of_closes (h : Closes cs n) : depth cs (n + 1) = depth cs n - 1 := by
  have hopens : ¬ Opens cs n := fun hopens => not_closes_of_opens hopens h
  simp only [depth, Nat.count_succ, if_neg hopens, if_pos h]
  omega

/-- Other characters do not change the depth. -/
theorem depth_succ_of_neither (hopens : ¬ Opens cs n) (hcloses : ¬ Closes cs n) :
    depth cs (n + 1) = depth cs n := by
  simp only [depth, Nat.count_succ, if_neg hopens, if_neg hcloses, Nat.add_zero]

/-- A place exceeds when the depth behind it is negative. -/
theorem exceeds_iff : Exceeds cs i ↔ Closes cs i ∧ depth cs (i + 1) < 0 := by
  unfold Exceeds depth
  exact and_congr_right fun _ => by omega

/-- A parenthesis opens at `i`, and none in front of `n` closes it. -/
structure StaysOpen (cs : List Char) (n i : Nat) : Prop where
  opens : Opens cs i
  lt : i < n
  above : ∀ k, i < k → k ≤ n → depth cs (i + 1) ≤ depth cs k

/-- Behind a character those stay open that are not closed by it, and itself when it opens. -/
theorem staysOpen_succ_iff : StaysOpen cs (n + 1) i ↔
    (StaysOpen cs n i ∧ depth cs (i + 1) ≤ depth cs (n + 1)) ∨ (Opens cs n ∧ i = n) := by
  constructor
  · intro h
    -- either it was open already, or it is the new one
    rcases Nat.lt_succ_iff_lt_or_eq.1 h.lt with hlt | rfl
    · exact .inl ⟨⟨h.opens, hlt, fun k hk hle => h.above k hk (by omega)⟩,
        h.above (n + 1) (by omega) le_rfl⟩
    · exact .inr ⟨h.opens, rfl⟩
  · rintro (⟨h, hle⟩ | ⟨h, rfl⟩)
    · refine ⟨h.opens, by have := h.lt; omega, fun k hk hkn => ?_⟩
      rcases Nat.le_succ_iff.1 hkn with hkn | rfl
      · exact h.above k hk hkn
      · exact hle
    · refine ⟨h, by omega, fun k hk hkn => ?_⟩
      obtain rfl : k = i + 1 := by omega
      exact le_rfl

/-- What a scan knows of the parentheses in front of `n`: none of them exceeds, and the stack has
those that stay open. The one with `k` others above it on the stack has `k` of them behind it. -/
structure Stacked (cs : List Char) (n : Nat) (opened : List Nat) : Prop where
  least : ∀ i < n, ¬ Exceeds cs i
  depth_eq : depth cs n = opened.length
  getElem?_iff : ∀ k i : Nat, opened[k]? = some i ↔
    StaysOpen cs n i ∧ depth cs n = depth cs (i + 1) + k

/-- In front of the text the stack is empty. -/
theorem Stacked.start : Stacked cs 0 [] where
  least := by simp
  depth_eq := depth_zero
  getElem?_iff := by
    intro k i
    refine iff_of_false (by simp) ?_
    rintro ⟨h, -⟩
    exact absurd h.lt (by omega)

/-- An opening parenthesis is pushed. -/
theorem Stacked.open (h : Stacked cs n opened) (hopens : Opens cs n) :
    Stacked cs (n + 1) (n :: opened) where
  least := by
    intro i hi hexceeds
    rcases Nat.lt_succ_iff_lt_or_eq.1 hi with hi | rfl
    · exact h.least i hi hexceeds
    · exact not_closes_of_opens hopens hexceeds.1
  depth_eq := by
    rw [depth_succ_of_opens hopens, h.depth_eq, List.length_cons]
    omega
  getElem?_iff := by
    intro k i
    rw [staysOpen_succ_iff, depth_succ_of_opens hopens]
    -- the top of the stack is the new place, and the others are one further down
    cases k with
    | zero =>
      rw [List.getElem?_cons_zero, Option.some.injEq]
      constructor
      · rintro rfl
        exact ⟨.inr ⟨hopens, rfl⟩, by rw [depth_succ_of_opens hopens]; omega⟩
      · rintro ⟨⟨hstays, -⟩ | ⟨-, rfl⟩, hdepth⟩
        · -- the new parenthesis is behind the others
          have := hstays.above n hstays.lt le_rfl
          omega
        · rfl
    | succ k =>
      rw [List.getElem?_cons_succ, h.getElem?_iff]
      constructor
      · rintro ⟨hstays, hdepth⟩
        exact ⟨.inl ⟨hstays, by omega⟩, by omega⟩
      · rintro ⟨⟨hstays, -⟩ | ⟨-, rfl⟩, hdepth⟩
        · exact ⟨hstays, by omega⟩
        · rw [depth_succ_of_opens hopens] at hdepth
          omega

/-- A closing parenthesis takes the top of the stack. -/
theorem Stacked.close (h : Stacked cs n (j :: opened)) (hcloses : Closes cs n) :
    Stacked cs (n + 1) opened where
  least := by
    intro i hi
    rcases Nat.lt_succ_iff_lt_or_eq.1 hi with hi | rfl
    · exact h.least i hi
    · have hdepth := h.depth_eq
      rw [List.length_cons] at hdepth
      rw [exceeds_iff, depth_succ_of_closes hcloses]
      omega
  depth_eq := by
    rw [depth_succ_of_closes hcloses, h.depth_eq, List.length_cons]
    omega
  getElem?_iff := by
    intro k i
    rw [← List.getElem?_cons_succ, h.getElem?_iff, staysOpen_succ_iff,
      depth_succ_of_closes hcloses]
    constructor
    · rintro ⟨hstays, hdepth⟩
      exact ⟨.inl ⟨hstays, by omega⟩, by omega⟩
    · rintro ⟨⟨hstays, -⟩ | ⟨hopens, -⟩, hdepth⟩
      · exact ⟨hstays, by omega⟩
      · exact absurd hcloses (not_closes_of_opens hopens)

/-- Other characters leave the stack. -/
theorem Stacked.skip (h : Stacked cs n opened) (hopens : ¬ Opens cs n) (hcloses : ¬ Closes cs n) :
    Stacked cs (n + 1) opened where
  least := by
    intro i hi hexceeds
    rcases Nat.lt_succ_iff_lt_or_eq.1 hi with hi | rfl
    · exact h.least i hi hexceeds
    · exact hcloses hexceeds.1
  depth_eq := by rw [depth_succ_of_neither hopens hcloses, h.depth_eq]
  getElem?_iff := by
    intro k i
    rw [h.getElem?_iff, staysOpen_succ_iff, depth_succ_of_neither hopens hcloses]
    constructor
    · rintro ⟨hstays, hdepth⟩
      exact ⟨.inl ⟨hstays, hstays.above n hstays.lt le_rfl⟩, hdepth⟩
    · rintro ⟨⟨hstays, -⟩ | ⟨hopens', -⟩, hdepth⟩
      · exact ⟨hstays, hdepth⟩
      · exact absurd hopens' hopens

/-- A closing parenthesis over an empty stack is the first one too many. -/
theorem Stacked.exceeds (h : Stacked cs n []) (hcloses : Closes cs n) :
    IsLeast {i | Exceeds cs i} n := by
  constructor
  · show Exceeds cs n
    rw [exceeds_iff, depth_succ_of_closes hcloses, h.depth_eq]
    exact ⟨hcloses, by simp⟩
  · intro i hi
    by_contra hlt
    exact h.least i (by omega) hi

/-! ## The scan -/

/-- From what it knows of the text in front of `n`, a scan of the rest finds the first parenthesis
that exceeds, or knows as much of the whole text. -/
theorem scan_spec {rest : List Char} (hseen : Seen cs n s) (hstacked : Stacked cs n opened)
    (hrest : cs.drop n = rest) (hn : n ≤ cs.length) :
    (∃ i, (s.balance opened).scan n rest = .error (.unmatchedClosing i) ∧
        IsLeast {i | Exceeds cs i} i) ∨
      ∃ s' opened', (s.balance opened).scan n rest = .ok (s'.balance opened') ∧
        Seen cs cs.length s' ∧ Stacked cs cs.length opened' := by
  -- by induction on what is left of the text, with the scan at place `n`
  induction rest generalizing n s opened with
  | nil =>
    obtain rfl : n = cs.length := Nat.le_antisymm hn (List.drop_eq_nil_iff.1 hrest)
    exact .inr ⟨s, opened, rfl, hseen, hstacked⟩
  | cons c rest ih =>
    have hc : cs[n]? = some c := by
      rw [← Nat.add_zero n, ← List.getElem?_drop, hrest, List.getElem?_cons_zero]
    have hlt : n < cs.length := (List.getElem?_eq_some_iff.1 hc).1
    -- one character further
    have hrest' : cs.drop (n + 1) = rest := by
      rw [← List.drop_drop, hrest, List.drop_succ_cons, List.drop_zero]
    have hseen' := hseen.step hc
    rw [Balance.scan, Quoting.step_eq, hseen.outer? hc]
    by_cases hopens : Opens cs n
    · rw [if_pos hopens]
      exact ih hseen' (hstacked.open hopens) hrest' hlt
    rw [if_neg hopens]
    by_cases hcloses : Closes cs n
    · rw [if_pos hcloses]
      cases opened with
      | nil => exact .inl ⟨n, rfl, hstacked.exceeds hcloses⟩
      | cons j opened => exact ih hseen' (hstacked.close hcloses) hrest' hlt
    · rw [if_neg hcloses]
      exact ih hseen' (hstacked.skip hopens hcloses) hrest' hlt

/-! ## The end of the text -/

theorem lt_length_of_opens (h : Opens cs i) : i < cs.length := (List.getElem?_eq_some_iff.1 h.1).1

/-- While nothing closes a parenthesis, it stays open. -/
theorem staysOpen_of_unmatched (h : Unmatched cs i) (hn : i < n) : StaysOpen cs n i := by
  -- by induction on the place up to which it stays open
  induction n, hn using Nat.le_induction with
  | base => exact staysOpen_succ_iff.2 (.inr ⟨h.1, rfl⟩)
  | succ n hn ih =>
    refine staysOpen_succ_iff.2 (.inl ⟨ih, ?_⟩)
    have habove := ih.above n hn le_rfl
    by_cases hcloses : Closes cs n
    · -- if it were as deep in front of `n`, the two would match
      have hne : depth cs n ≠ depth cs (i + 1) := fun heq =>
        h.2 n ⟨h.1, hcloses, hn, heq, ih.above⟩
      rw [depth_succ_of_closes hcloses]
      omega
    · by_cases hopens : Opens cs n
      · rw [depth_succ_of_opens hopens]
        omega
      · rw [depth_succ_of_neither hopens hcloses]
        exact habove

/-- What nothing closes is open at the end of the text. -/
theorem unmatched_iff : Unmatched cs i ↔ StaysOpen cs cs.length i := by
  refine ⟨fun h => staysOpen_of_unmatched h (lt_length_of_opens h.1), fun h => ⟨h.opens, ?_⟩⟩
  -- the parenthesis that matches would have closed it
  intro j hmatch
  have hj : j < cs.length := (List.getElem?_eq_some_iff.1 hmatch.closes.1).1
  have habove := h.above (j + 1) (by have := hmatch.lt; omega) hj
  rw [depth_succ_of_closes hmatch.closes, hmatch.balanced] at habove
  omega

/-- The stack at the end holds the places that are not matched. -/
theorem Stacked.mem_iff (h : Stacked cs cs.length opened) : i ∈ opened ↔ Unmatched cs i := by
  rw [unmatched_iff, List.mem_iff_getElem?]
  constructor
  · rintro ⟨k, hk⟩
    exact ((h.getElem?_iff k i).1 hk).1
  · intro hstays
    have habove := hstays.above cs.length hstays.lt le_rfl
    exact ⟨(depth cs cs.length - depth cs (i + 1)).toNat,
      (h.getElem?_iff _ i).2 ⟨hstays, by omega⟩⟩

/-- The stack goes from the last parenthesis to the first. -/
theorem Stacked.pairwise (h : Stacked cs n opened) : opened.Pairwise (· > ·) := by
  rw [List.pairwise_iff_getElem]
  intro k l hk hl hkl
  obtain ⟨hstays, hdepth⟩ := (h.getElem?_iff k opened[k]).1 (List.getElem?_eq_getElem hk)
  obtain ⟨hstays', hdepth'⟩ := (h.getElem?_iff l opened[l]).1 (List.getElem?_eq_getElem hl)
  by_contra hle
  rcases Nat.lt_or_eq_of_le (Nat.le_of_not_lt hle) with hlt | heq
  · -- what opens behind a parenthesis that stays open is deeper
    have habove := hstays.above opened[l] hlt (Nat.le_of_lt hstays'.lt)
    rw [depth_succ_of_opens hstays'.opens] at hdepth'
    omega
  · rw [heq] at hdepth
    omega

/-- The stack at the end is as high as there are places that are not matched. -/
theorem Stacked.length_eq (h : Stacked cs cs.length opened) :
    opened.length = {i | Unmatched cs i}.ncard := by
  have hset : {i | Unmatched cs i} = ↑opened.toFinset := by
    ext i
    simp [h.mem_iff]
  have hnodup : opened.Nodup := h.pairwise.imp fun hgt => Nat.ne_of_gt hgt
  rw [hset, Set.ncard_coe_finset, List.toFinset_card_of_nodup hnodup]

/-- The bottom of the stack is the first place that is not matched. -/
theorem Stacked.isLeast (h : Stacked cs cs.length opened) (hi : opened.getLast? = some i) :
    IsLeast {i | Unmatched cs i} i := by
  obtain ⟨front, rfl⟩ := List.getLast?_eq_some_iff.1 hi
  refine ⟨h.mem_iff.1 (by simp), fun j hj => ?_⟩
  rcases List.mem_append.1 (h.mem_iff.2 hj) with hj | hj
  · exact Nat.le_of_lt ((List.pairwise_append.1 h.pairwise).2.2 j hj i (by simp))
  · rw [List.mem_singleton.1 hj]

/-! ## The check of balance -/

/-- The check gives a diagnosis. -/
theorem diagnosis_checkBalance (text : String) : Diagnosis text.toList (checkBalance text) := by
  rw [checkBalance, show ({} : Balance) = ({} : Quoting).balance [] from rfl]
  rcases scan_spec Seen.start Stacked.start (List.drop_zero (l := text.toList)) (Nat.zero_le _) with
    ⟨i, hscan, hleast⟩ | ⟨s, opened, hscan, hseen, hstacked⟩
  · rw [hscan]
    exact .unmatchedClosing hleast
  rw [hscan, ok_bind]
  have hclosing : ∀ i, ¬ Exceeds text.toList i := fun i hi =>
    hstacked.least i (List.getElem?_eq_some_iff.1 hi.1.1).1 hi
  -- parentheses are reported before quotes
  cases hlast : opened.getLast? with
  | some i =>
    have hdiagnosis := Diagnosis.unclosedOpening hclosing (hstacked.isLeast hlast)
    rw [← hstacked.length_eq] at hdiagnosis
    simpa [Balance.finish, Quoting.balance, hlast] using hdiagnosis
  | none =>
    obtain rfl := List.getLast?_eq_none_iff.1 hlast
    have hopening : ∀ i, ¬ Unmatched text.toList i := fun i hi => by
      simpa using hstacked.mem_iff.2 hi
    cases hquote : s.quote with
    | some i =>
      have hodd := hseen.quoted.1 (by rw [hquote]; rfl)
      obtain ⟨⟨hmem, -⟩, hmax⟩ := hseen.quote i hquote
      have hgreatest : IsGreatest {i | Toggles text.toList i} i :=
        ⟨hmem, fun j hj => hmax ⟨hj, (List.getElem?_eq_some_iff.1 hj.1).1⟩⟩
      simpa [Balance.finish, Quoting.balance, hquote] using
        Diagnosis.unclosedQuote hclosing hopening hodd hgreatest
    | none =>
      have heven := mt hseen.quoted.2 (by simp [hquote])
      simpa [Balance.finish, Quoting.balance, hquote] using
        Diagnosis.balanced hclosing hopening heven

/-- The check of balance finds what is wrong with a text, and nothing else. -/
theorem checkBalance_eq_iff {text : String} {r : Except Fault Unit} :
    checkBalance text = r ↔ Diagnosis text.toList r :=
  ⟨fun h => h ▸ diagnosis_checkBalance text, fun h => (diagnosis_checkBalance text).unique h⟩

/-- A parenthesis in a string is none, and the first of the two that stay open is reported. -/
example : checkBalance "((a) eq '(' or (b" = .error (.unclosedOpening 2 0) := by decide

end ODataService.Filter
