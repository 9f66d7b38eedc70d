import ODataService.Expand.Splitting
import ODataService.Proofs.Bind

/-!
# Parts at the top level

What `Expand.splitTopLevel` splits a text into. A scan over a text keeps track of the parentheses
that are open and of whether a string is (`Nesting`). A text stands alone if the scan runs over it
from the top level to the top level and no separator counts on the way (`StandsAlone`). The parts of
a text are the texts that stand alone and that give the text back when the separator is put between
them (`splitTopLevel_eq_ok`): this says when there are parts at all, and that there is one way only
to split.

How a scan runs over texts that are put together follows from how it runs over the pieces
(`cross?_append`), also one parenthesis further down, where no separator counts
(`cross?_deeper`).
-/

namespace ODataService.Expand

variable {sep c : Char} {cs ds rest : List Char}

/-- Where a scan stands: how many parentheses are open, and whether a string is. -/
structure Nesting where
  depth : Nat := 0
  quoted : Bool := false
deriving DecidableEq

namespace Nesting

/-- The nesting behind a character. A closing parenthesis needs one that is open. -/
def step? (s : Nesting) (c : Char) : Option Nesting :=
  if c = '\'' then some { s with quoted := !s.quoted }
  else if s.quoted then some s
  else if c = '(' then some { s with depth := s.depth + 1 }
  else if c = ')' then if s.depth = 0 then none else some { s with depth := s.depth - 1 }
  else some s

/-- The nesting behind a text in which no separator counts. -/
def cross? (sep : Char) : Nesting → List Char → Option Nesting
  | s, [] => some s
  | s, c :: cs => if c = sep ∧ s = {} then none else (s.step? c).bind fun s => cross? sep s cs

/-- The same nesting inside one more parenthesis. -/
def deeper (s : Nesting) : Nesting := { s with depth := s.depth + 1 }

variable {s s' : Nesting}

/-- The scan crosses a text by crossing its first part, then its second. -/
theorem cross?_append (sep : Char) (s : Nesting) (cs ds : List Char) :
    cross? sep s (cs ++ ds) = (cross? sep s cs).bind fun s => cross? sep s ds := by
  induction cs generalizing s with
  | nil => rfl
  | cons c cs ih =>
    rw [List.cons_append, cross?, cross?]
    split
    · rfl
    · cases s.step? c with
      | none => rfl
      | some s => exact ih s

/-- One parenthesis deeper is not the top level. -/
theorem deeper_ne (s : Nesting) : s.deeper ≠ {} := by
  intro h
  have hdepth : s.depth + 1 = 0 := congrArg depth h
  omega

/-- A character that is taken is taken one parenthesis deeper, too. -/
theorem step?_deeper (h : s.step? c = some s') : s.deeper.step? c = some s'.deeper := by
  obtain ⟨depth, quoted⟩ := s
  -- the four kinds of character, in the order the scan tries them
  simp only [step?] at h
  split at h
  next hc => obtain rfl := Option.some.inj h; simp [step?, deeper, hc]
  next hc =>
    split at h
    next hq => obtain rfl := Option.some.inj h; simp [step?, deeper, hc, hq]
    next hq =>
      split at h
      next hopen => obtain rfl := Option.some.inj h; simp [step?, deeper, hq, hopen]
      next hopen =>
        split at h
        next hclose =>
          split at h
          · simp at h
          next hdepth =>
            -- one of the inner parentheses is closed
            obtain rfl := Option.some.inj h
            have hsub : depth - 1 + 1 = depth := by omega
            simp [step?, deeper, hq, hclose, hsub]
        next hclose => obtain rfl := Option.some.inj h; simp [step?, deeper, hc, hq, hopen, hclose]

/-- Inside of a parenthesis a text is crossed as outside, whatever the separator is. -/
theorem cross?_deeper (sep' : Char) (h : cross? sep s cs = some s') :
    cross? sep' s.deeper cs = some s'.deeper := by
  -- inside a parenthesis no separator counts, so every character is just taken
  induction cs generalizing s with
  | nil =>
    obtain rfl := Option.some.inj h
    rfl
  | cons c cs ih =>
    rw [cross?] at h
    split at h
    · simp at h
    · obtain ⟨t, ht, hcs⟩ := Option.bind_eq_some_iff.1 h
      rw [cross?, if_neg fun hsep => deeper_ne s hsep.2, step?_deeper ht]
      exact ih hcs

/-- A character that is no separator and that leaves the nesting as it is. -/
def IsInert (sep c : Char) : Prop := c ∉ ['\'', '(', ')', sep]

instance (sep c : Char) : Decidable (IsInert sep c) := inferInstanceAs (Decidable (c ∉ _))

/-- Characters the scan does not look at are crossed from anywhere. -/
theorem cross?_inert (h : ∀ c ∈ cs, IsInert sep c) (s : Nesting) : cross? sep s cs = some s := by
  induction cs with
  | nil => rfl
  | cons c cs ih =>
    have hc := h c List.mem_cons_self
    simp only [IsInert, List.mem_cons, List.not_mem_nil, or_false, not_or] at hc
    obtain ⟨hquote, hopen, hclose, hsep⟩ := hc
    have hstep : s.step? c = some s := by simp [step?, hquote, hopen, hclose]
    rw [cross?, if_neg fun h => hsep h.1, hstep]
    exact ih fun d hd => h d (List.mem_cons_of_mem c hd)

/-- Texts that leave the nesting as it is do so with such a character between them. -/
theorem cross?_intercalate {d : Char} {s : Nesting} {pieces : List (List Char)}
    (hd : cross? sep s [d] = some s) (h : ∀ p ∈ pieces, cross? sep s p = some s) :
    cross? sep s ([d].intercalate pieces) = some s := by
  -- each piece leaves the scan where it was, and so does what stands between
  induction pieces with
  | nil => rfl
  | cons p ps ih =>
    have hp := h p List.mem_cons_self
    have hps := ih fun q hq => h q (List.mem_cons_of_mem p hq)
    cases ps with
    | nil => rwa [List.intercalate_singleton]
    | cons q ps =>
      rw [List.intercalate_cons_cons, cross?_append, cross?_append, hp, Option.bind_some, hd,
        Option.bind_some, hps]

end Nesting

open Nesting

/-- The scan runs over the text from the top level to the top level, and no separator counts. -/
def StandsAlone (sep : Char) (cs : List Char) : Prop := cross? sep {} cs = some {}

instance (sep : Char) (cs : List Char) : Decidable (StandsAlone sep cs) :=
  inferInstanceAs (Decidable (_ = some _))

theorem standsAlone_inert (h : ∀ c ∈ cs, IsInert sep c) : StandsAlone sep cs := cross?_inert h {}

/-- Texts that stand alone stand alone together. -/
theorem StandsAlone.append (hc : StandsAlone sep cs) (hd : StandsAlone sep ds) :
    StandsAlone sep (cs ++ ds) := by
  rw [StandsAlone, cross?_append, hc]
  exact hd

/-- In parentheses a text stands alone if the scan comes back to the same level inside of them. -/
theorem standsAlone_parens (hsep : sep ≠ '(') (h : cross? sep (deeper {}) cs = some (deeper {})) :
    StandsAlone sep ('(' :: (cs ++ [')'])) := by
  have hopen : step? {} '(' = some (deeper {}) := rfl
  have hclose : step? (deeper {}) ')' = some {} := rfl
  rw [StandsAlone, cross?, if_neg fun h => hsep h.1.symm, hopen, Option.bind_some, cross?_append, h,
    Option.bind_some, cross?, if_neg fun h => deeper_ne _ h.2, hclose]
  rfl

/-! ## Splitting -/

/-- A character that can separate: it opens and closes nothing. -/
def IsSeparator (sep : Char) : Prop := sep ∉ ['\'', '(', ')']

instance (sep : Char) : Decidable (IsSeparator sep) := inferInstanceAs (Decidable (sep ∉ _))

variable {whole : String} {position : Nat} {s s' : Nesting}

/-- What splitting does with one character. -/
theorem splitFrom_cons (hsep : IsSeparator sep) (s : Nesting) (c : Char) (cs : List Char) :
    splitFrom whole sep position s.depth s.quoted (c :: cs) =
      if c = sep ∧ s = {} then (splitFrom whole sep (position + 1) 0 false cs).map ([] :: ·)
      else
        match s.step? c with
        | none => .error (.unmatchedClosing position)
        | some s =>
          (splitFrom whole sep (position + 1) s.depth s.quoted cs).map (Text.consHead c) := by
  obtain ⟨depth, quoted⟩ := s
  simp only [IsSeparator, List.mem_cons, List.not_mem_nil, or_false, not_or] at hsep
  obtain ⟨hquote, hopen, hclose⟩ := hsep
  rw [splitFrom]
  by_cases hc : c = sep
  · -- a separator is none of the other characters, and it counts at the top level only
    subst hc
    cases quoted <;> cases depth <;> simp [hquote, hopen, hclose, step?]
  · simp only [hc, false_and, if_false, step?]
    split
    · rfl
    split
    · next hq => simp [hq]
    split
    · rfl
    split
    · split <;> rfl
    · simp

/-- Puts characters in front of the first part. -/
def prefixFirst (cs : List Char) (parts : List (List Char)) : List (List Char) :=
  cs.foldr Text.consHead parts

/-- The characters of a text go in front of the first part. -/
theorem prefixFirst_cons (cs p : List Char) (ps : List (List Char)) :
    prefixFirst cs (p :: ps) = (cs ++ p) :: ps := by
  induction cs with
  | nil => rfl
  | cons c cs ih =>
    show Text.consHead c (prefixFirst cs (p :: ps)) = _
    rw [ih]
    rfl

/-- A text in which no separator counts belongs to the first part. -/
theorem splitFrom_append (hsep : IsSeparator sep) (h : cross? sep s cs = some s')
    (rest : List Char) :
    splitFrom whole sep position s.depth s.quoted (cs ++ rest) =
      (splitFrom whole sep (position + cs.length) s'.depth s'.quoted rest).map
        (prefixFirst cs) := by
  -- each character is put to the first part, as no separator counts on the way
  induction cs generalizing s position with
  | nil =>
    obtain rfl := Option.some.inj h
    show _ = Except.map id _
    rw [Except.map_id]
    rfl
  | cons c cs ih =>
    rw [cross?] at h
    split at h
    · simp at h
    next hcount =>
      obtain ⟨t, ht, hcs⟩ := Option.bind_eq_some_iff.1 h
      rw [List.cons_append, splitFrom_cons hsep, if_neg hcount, ht]
      show (splitFrom whole sep (position + 1) t.depth t.quoted (cs ++ rest)).map _ = _
      rw [ih hcs, List.length_cons, show position + 1 + cs.length = position + (cs.length + 1) by
        omega]
      cases splitFrom whole sep (position + (cs.length + 1)) s'.depth s'.quoted rest <;> rfl

/-- At the end of the text the depth and the quoting decide. -/
theorem splitFrom_nil (s : Nesting) :
    splitFrom whole sep position s.depth s.quoted [] =
      if s.depth ≠ 0 then .error (.unclosedOpening whole)
      else if s.quoted then .error (.unclosedQuote whole)
      else .ok [[]] :=
  rfl

/-- Texts that stand alone, the first one from where the scan stands, are the parts of the text in
which separators are put between them. -/
theorem splitFrom_intercalate (hsep : IsSeparator sep) {p : List Char} {ps : List (List Char)}
    (hp : cross? sep s p = some {}) (hps : ∀ q ∈ ps, StandsAlone sep q) :
    splitFrom whole sep position s.depth s.quoted ([sep].intercalate (p :: ps)) =
      .ok (p :: ps) := by
  -- on the parts that follow: the first one is crossed, then a separator ends it
  induction ps generalizing s p position with
  | nil =>
    have hend := @splitFrom_append sep p whole position s {} hsep hp []
    rw [List.append_nil, splitFrom_nil] at hend
    rw [List.intercalate_singleton, hend]
    show Except.ok (prefixFirst p [[]]) = _
    rw [prefixFirst_cons, List.append_nil]
  | cons q ps ih =>
    have hrest := @ih (position + p.length + 1) {} q (hps q List.mem_cons_self)
      fun r hr => hps r (List.mem_cons_of_mem q hr)
    rw [List.intercalate_cons_cons, List.append_assoc, splitFrom_append hsep hp,
      List.singleton_append, splitFrom_cons hsep, if_pos ⟨rfl, rfl⟩]
    -- behind the separator the scan starts again at the top level
    rw [hrest]
    show Except.ok (prefixFirst p ([] :: q :: ps)) = _
    rw [prefixFirst_cons, List.append_nil]

/-- Only texts that stand alone, the first one from where the scan stands, are parts, and there is
at least one. -/
theorem exists_of_splitFrom (hsep : IsSeparator sep) {parts : List (List Char)}
    (h : splitFrom whole sep position s.depth s.quoted cs = .ok parts) :
    ∃ p ps, parts = p :: ps ∧ cs = [sep].intercalate (p :: ps) ∧ cross? sep s p = some {} ∧
      ∀ q ∈ ps, StandsAlone sep q := by
  induction cs generalizing s position parts with
  | nil =>
    obtain ⟨depth, quoted⟩ := s
    rw [splitFrom_nil] at h
    split at h
    · simp at h
    next hdepth =>
      split at h
      · simp at h
      next hquoted =>
        obtain rfl := Except.ok.inj h
        obtain rfl : depth = 0 := Classical.not_not.1 hdepth
        obtain rfl : quoted = false := Bool.eq_false_iff.2 hquoted
        exact ⟨[], [], rfl, rfl, rfl, by simp⟩
  | cons c cs ih =>
    rw [splitFrom_cons hsep] at h
    split at h
    next hcount =>
      -- a separator that counts ends an empty text, and a part starts behind it
      obtain ⟨rfl, rfl⟩ := hcount
      obtain ⟨parts, hparts, rfl⟩ := map_eq_ok.1 h
      obtain ⟨p, ps, rfl, rfl, hp, hps⟩ := ih (s := {}) hparts
      refine ⟨[], p :: ps, rfl, ?_, rfl, List.forall_mem_cons.2 ⟨hp, hps⟩⟩
      rw [List.intercalate_cons_cons]
      rfl
    next hcount =>
      split at h
      · simp at h
      next t ht =>
        obtain ⟨parts, hparts, rfl⟩ := map_eq_ok.1 h
        obtain ⟨p, ps, rfl, rfl, hp, hps⟩ := ih hparts
        refine ⟨c :: p, ps, rfl, ?_, ?_, hps⟩
        -- another character extends the first part
        · cases ps with
          | nil => rw [List.intercalate_singleton, List.intercalate_singleton]
          | cons q ps => rw [List.intercalate_cons_cons, List.intercalate_cons_cons]; rfl
        · rw [cross?, if_neg hcount, ht]
          exact hp

/-- The parts of a text are the texts that stand alone and that give it back with separators between
them. -/
theorem splitTopLevel_eq_ok (hsep : IsSeparator sep) {text : String} {parts : List String} :
    splitTopLevel text sep = .ok parts ↔
      parts ≠ [] ∧ text.toList = [sep].intercalate (parts.map String.toList) ∧
        ∀ p ∈ parts, StandsAlone sep p.toList := by
  rw [splitTopLevel, map_eq_ok]
  constructor
  -- the parts found are those the text is joined from, and each was crossed
  · rintro ⟨pieces, hpieces, rfl⟩
    obtain ⟨p, ps, rfl, htext, hp, hps⟩ := exists_of_splitFrom (s := {}) hsep hpieces
    have hback : (p :: ps).map (String.toList ∘ String.ofList) = p :: ps :=
      List.map_id'' (fun cs => String.toList_ofList) _
    refine ⟨by simp, by rw [List.map_map, hback, htext], ?_⟩
    intro q hq
    obtain ⟨r, hr, rfl⟩ := List.mem_map.1 hq
    rw [String.toList_ofList]
    rcases List.mem_cons.1 hr with rfl | hr
    · exact hp
    · exact hps r hr
  -- a text joined from parts that stand alone is split into these
  · rintro ⟨hne, htext, hparts⟩
    obtain ⟨p, ps, rfl⟩ := List.exists_cons_of_ne_nil hne
    have hps : ∀ q ∈ ps.map String.toList, StandsAlone sep q := by
      intro q hq
      obtain ⟨r, hr, rfl⟩ := List.mem_map.1 hq
      exact hparts r (List.mem_cons_of_mem p hr)
    have hsplit := @splitFrom_intercalate sep text 0 {} hsep _ _
      (hparts p List.mem_cons_self) hps
    refine ⟨(p :: ps).map String.toList, htext ▸ hsplit, ?_⟩
    rw [List.map_map]
    exact List.map_id'' (fun s => String.ofList_toList) _

/-- A text is its own only part if it stands alone. -/
theorem splitTopLevel_singleton_iff (hsep : IsSeparator sep) {text : String} :
    splitTopLevel text sep = .ok [text] ↔ StandsAlone sep text.toList := by
  rw [splitTopLevel_eq_ok hsep, List.map_singleton, List.intercalate_singleton]
  simp

/-- A piece is shorter than the text in which it is joined with others. -/
theorem eq_singleton_or_length_lt {piece : List Char} {pieces : List (List Char)}
    (h : piece ∈ pieces) :
    pieces = [piece] ∨ piece.length < ([sep].intercalate pieces).length := by
  induction pieces with
  | nil => exact absurd h List.not_mem_nil
  | cons p ps ih =>
    cases ps with
    | nil =>
      obtain rfl := List.mem_singleton.1 h
      exact .inl rfl
    | cons q ps =>
      -- with two pieces at least there is a separator, too
      right
      rw [List.intercalate_cons_cons, List.length_append, List.length_append, List.length_singleton]
      rcases List.mem_cons.1 h with rfl | h
      · omega
      · rcases ih h with hps | hlt
        · rw [hps, List.intercalate_singleton]
          omega
        · omega

end ODataService.Expand
