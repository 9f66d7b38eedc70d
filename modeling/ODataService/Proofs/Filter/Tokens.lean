import ODataService.Filter.Token

/-!
# Token lists of texts

What `Filter.tokensFrom` makes of the front of a text (`tokensFrom_blank`, `tokensFrom_token`), and
the shape of the whole list: the token that marks the end stands at the end of the text and nowhere
else (`tokensFrom_eq_ok`).
-/

namespace ODataService.Filter

/-- The token that a lexeme at the front of a text makes. -/
def Lexeme.token (l : Lexeme) (position : Nat) (cs : List Char) : Token :=
  ⟨l.kind, String.ofList (cs.take (cs.length - l.rest.length)), position, l.value⟩

/-- The end of the text is marked by a token. -/
theorem tokensFrom_nil {position : Nat} :
    tokensFrom position [] = .ok [⟨.finish, "", position, .null⟩] := by
  rw [tokensFrom.eq_def]

/-- A blank is passed over. -/
theorem tokensFrom_blank {position : Nat} {c : Char} {cs : List Char}
    (h : Text.isBlank c = true) :
    tokensFrom position (c :: cs) = tokensFrom (position + 1) cs := by
  rw [tokensFrom.eq_def]
  simp only [h, if_true]

/-- A lexeme is put in front of the tokens behind it. -/
theorem tokensFrom_token {position : Nat} {c : Char} {cs : List Char} {l : Lexeme}
    (hb : Text.isBlank c = false) (h : readToken position c cs = .ok l) :
    tokensFrom position (c :: cs) =
      (tokensFrom (position + (cs.length + 1 - l.rest.length)) l.rest).map
        (l.token position (c :: cs) :: ·) := by
  rw [tokensFrom.eq_def]
  simp only [hb, Bool.false_eq_true, if_false]
  -- the definition names the equation of the lexeme, so `h` cannot be rewritten in it
  split
  · next h' => simp [h] at h'
  · next l' h' =>
    obtain rfl : l = l' := Except.ok.inj (h.symm.trans h')
    split <;> next ht => rw [ht]; rfl

/-- No lexeme is the mark of the end. -/
theorem readToken_kind_ne_finish {position : Nat} {c : Char} {cs : List Char} {l : Lexeme}
    (h : readToken position c cs = .ok l) : l.kind ≠ .finish := by
  simp only [readToken] at h
  split at h
  · exact Except.ok.inj h ▸ by simp
  split at h
  · exact Except.ok.inj h ▸ by simp
  split at h
  · exact Except.ok.inj h ▸ by simp
  split at h
  · split at h
    · exact Except.ok.inj h ▸ by simp
    · simp at h
  split at h
  · exact Except.ok.inj h ▸ by simp
  · split at h
    · exact Except.ok.inj h ▸ by simp
    · simp at h

/-- The last token of a text marks its end, and no other one does. -/
theorem tokensFrom_eq_ok {position : Nat} {cs : List Char} {ts : List Token}
    (h : tokensFrom position cs = .ok ts) :
    ∃ body, ts = body ++ [⟨.finish, "", position + cs.length, .null⟩] ∧
      ∀ t ∈ body, t.kind ≠ .finish := by
  -- the mark comes last, and its position is what was passed over so far
  fun_induction tokensFrom position cs generalizing ts with
  | case1 position => exact ⟨[], (Except.ok.inj h).symm, by simp⟩
  | case2 position c cs hb ih =>
    obtain ⟨body, rfl, hk⟩ := ih h
    exact ⟨body, by simp [Nat.add_comm, Nat.add_left_comm], hk⟩
  | case3 position c cs hb fault hr => simp at h
  | case4 => simp at h
  | case5 position c cs hb l hr length hlt tokens ht =>
    next ih =>
    obtain ⟨body, rfl, hk⟩ := ih ht
    have hend : position + length + l.rest.length = position + (c :: cs).length := by
      have : length = cs.length + 1 - l.rest.length := rfl
      rw [List.length_cons]
      omega
    obtain rfl := Except.ok.inj h
    rw [hend]
    refine ⟨⟨l.kind, _, position, l.value⟩ :: body, rfl, ?_⟩
    intro t hmem
    rcases List.mem_cons.mp hmem with rfl | hmem
    · exact readToken_kind_ne_finish hr
    · exact hk t hmem

end ODataService.Filter
