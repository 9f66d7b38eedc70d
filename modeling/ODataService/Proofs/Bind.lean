import Mathlib.Data.List.Forall2

/-!
# Steps that may fail

How a chain of steps in `Except` succeeds: each step does. Likewise for a step on each element of a
list.
-/

namespace ODataService

variable {ε ε' α β γ : Type}

/-- A step after a success goes on with its result. -/
theorem ok_bind (a : α) (f : α → Except ε β) : (Except.ok a >>= f) = f a := rfl

/-- Two steps succeed when the first succeeds and the second succeeds with its result. -/
theorem bind_eq_ok {x : Except ε α} {f : α → Except ε β} {b : β} :
    (x >>= f) = .ok b ↔ ∃ a, x = .ok a ∧ f a = .ok b := by
  cases x with
  | error e => simp [bind, Except.bind]
  | ok a => simp [ok_bind]

/-- What is made of a result succeeds when the step does. -/
theorem map_eq_ok {x : Except ε α} {f : α → β} {b : β} :
    x.map f = .ok b ↔ ∃ a, x = .ok a ∧ f a = b := by
  cases x with
  | error e => simp [Except.map]
  | ok a => simp [Except.map]

/-- Making something of the result does not change whether a step succeeds. -/
theorem exists_map_eq_ok {x : Except ε α} {f : α → β} :
    (∃ b, x.map f = .ok b) ↔ ∃ a, x = .ok a := by
  cases x with
  | error e => simp [Except.map]
  | ok a => simp [Except.map]

/-- Putting a failure differently does not change what a step succeeds with. -/
theorem mapError_eq_ok {x : Except ε α} {f : ε → ε'} {a : α} :
    x.mapError f = .ok a ↔ x = .ok a := by
  cases x with
  | error e => simp [Except.mapError]
  | ok a => simp [Except.mapError]

/-- Steps succeed on all elements of a list when each of them does. -/
theorem mapM_eq_ok {as : List α} {bs : List β} {g : α → Except ε β} :
    as.mapM g = .ok bs ↔ List.Forall₂ (fun a b => g a = .ok b) as bs := by
  induction as generalizing bs with
  | nil =>
    rw [List.mapM_nil, List.forall₂_nil_left_iff]
    exact ⟨fun h => (Except.ok.inj h).symm, fun h => congrArg Except.ok h.symm⟩
  | cons a as ih =>
    rw [List.mapM_cons, bind_eq_ok, List.forall₂_cons_left_iff]
    simp only [bind_eq_ok, ih]
    -- the result of the first element, and the results of the others behind it
    constructor
    · rintro ⟨b, hb, bs', hbs, h⟩
      exact ⟨b, bs', hb, hbs, (Except.ok.inj h).symm⟩
    · rintro ⟨b, bs', hb, hbs, rfl⟩
      exact ⟨b, hb, bs', hbs, rfl⟩

/-- Steps that succeed on all elements of a list give the list of their results. -/
theorem mapM_ok {as : List α} {g : α → Except ε β} {k : α → β} (h : ∀ a ∈ as, g a = .ok (k a)) :
    as.mapM g = .ok (as.map k) :=
  mapM_eq_ok.2 (List.forall₂_map_right_iff.2 (List.forall₂_same.2 h))

/-- Likewise where the elements are made from others first. -/
theorem mapM_map_ok {as : List α} {f : α → γ} {g : γ → Except ε β} {k : α → β}
    (h : ∀ a ∈ as, g (f a) = .ok (k a)) : (as.map f).mapM g = .ok (as.map k) := by
  rw [mapM_eq_ok, List.forall₂_map_left_iff, ← mapM_eq_ok]
  exact mapM_ok h

/-- Steps that give back their elements give back the list. -/
theorem mapM_same {as : List α} {g : α → Except ε α} (h : ∀ a ∈ as, g a = .ok a) :
    as.mapM g = .ok as :=
  mapM_eq_ok.2 (List.forall₂_same.2 h)

/-- Each result is that of some element. -/
theorem exists_of_mapM_eq_ok {as : List α} {bs : List β} {g : α → Except ε β}
    (h : as.mapM g = .ok bs) {b : β} (hb : b ∈ bs) : ∃ a ∈ as, g a = .ok b := by
  rw [mapM_eq_ok] at h
  -- results and elements go along in pairs
  induction h with
  | nil => simp at hb
  | cons ha _ ih =>
    rcases List.mem_cons.1 hb with rfl | hb
    · exact ⟨_, List.mem_cons_self, ha⟩
    · obtain ⟨a, hmem, hga⟩ := ih hb
      exact ⟨a, List.mem_cons_of_mem _ hmem, hga⟩

/-- Steps that succeed can be taken from behind as well. -/
theorem mapM_reverse {as : List α} {bs : List β} {g : α → Except ε β} (h : as.mapM g = .ok bs) :
    as.reverse.mapM g = .ok bs.reverse := by
  rw [mapM_eq_ok] at *
  exact List.forall₂_reverse_iff.2 h

/-- Steps on a list and further steps on the results can be taken element by element. -/
theorem mapM_bind_ok {as : List α} {bs : List β} {cs : List γ} {f : α → Except ε β}
    {g : β → Except ε γ} (hf : as.mapM f = .ok bs) (hg : bs.mapM g = .ok cs) :
    as.mapM (fun a => f a >>= g) = .ok cs := by
  rw [mapM_eq_ok] at *
  induction hf generalizing cs with
  | nil =>
    rw [List.forall₂_nil_left_iff] at hg
    rw [hg]
    exact .nil
  | cons ha _ ih =>
    -- the second step takes the first result, and the others theirs
    obtain ⟨c, cs', hc, hcs, rfl⟩ := List.forall₂_cons_left_iff.1 hg
    exact .cons (bind_eq_ok.2 ⟨_, ha, hc⟩) (ih hcs)

/-- Only what a step does on the elements of the list matters. -/
theorem mapM_congr {f g : α → Except ε β} {as : List α} (h : ∀ a ∈ as, f a = g a) :
    as.mapM f = as.mapM g := by
  induction as with
  | nil => rfl
  | cons a as ih =>
    rw [List.forall_mem_cons] at h
    rw [List.mapM_cons, List.mapM_cons, h.1, ih h.2]

/-- Likewise for steps that hand a result from one to the next. -/
theorem foldlM_congr {f g : β → α → Except ε β} {as : List α} (h : ∀ b, ∀ a ∈ as, f b a = g b a)
    (b : β) : as.foldlM f b = as.foldlM g b := by
  induction as generalizing b with
  | nil => rfl
  | cons a as ih =>
    rw [List.foldlM_cons, List.foldlM_cons, h b a List.mem_cons_self]
    exact bind_congr fun b' => ih (fun c a' ha' => h c a' (List.mem_cons_of_mem a ha')) b'

end ODataService
