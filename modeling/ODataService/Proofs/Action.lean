import ODataService.Action

/-!
# Running actions

How `Action.exec` runs the pieces of an action, and what an action keeps. A `Discipline` is a
property that goes through all ways in which actions are put together, so that a fact about whole
requests needs a proof for the operations of the record store only. Three kinds are used:

* `Along R`: the relation `R`, which is reflexive and transitive (`Progress`), holds between the
  state before the action and the state after it, whether the action succeeds or fails.
* `Blind S`: from states that the relation `S` does not tell apart the action gives the same result,
  and it ends in states that `S` does not tell apart either.
* `Apart`: the action has nothing to do with the state.
-/

namespace ODataService.Action

variable {ω α β : Type}

/-! ## Running -/

theorem exec_get (w : ω) : (get : Action ω ω).exec w = (.ok w, w) := rfl

theorem exec_lift (m : StateM ω α) (w : ω) :
    exec (m : Action ω α) w = (Except.ok (m.run w).1, (m.run w).2) := rfl

/-- The second action runs on the state that the first one leaves, unless the first one fails. -/
theorem exec_bind (a : Action ω α) (f : α → Action ω β) (w : ω) :
    (a >>= f).exec w =
      match a.exec w with
      | (.ok x, w') => (f x).exec w'
      | (.error e, w') => (.error e, w') := by
  simp only [exec, ExceptT.run_bind, StateT.run_bind]
  -- the pair is taken apart by a match of the library's, which is not that of the statement
  change (match StateT.run (ExceptT.run a) w with | (x, s) => _) = _
  rcases StateT.run (ExceptT.run a) w with ⟨x | x, w'⟩ <;> rfl

/-- Behind a step that succeeds, the rest runs on its result. -/
theorem exec_bind_ok {a : Action ω α} {f : α → Action ω β} {w w' : ω} {x : α}
    (h : a.exec w = (.ok x, w')) : (a >>= f).exec w = (f x).exec w' := by
  rw [exec_bind, h]

/-- A step that fails decides the outcome; what it did to the state stays done. -/
theorem exec_bind_error {a : Action ω α} {f : α → Action ω β} {w w' : ω} {e : Failure}
    (h : a.exec w = (.error e, w')) : (a >>= f).exec w = (.error e, w') := by
  rw [exec_bind, h]

/-- Two steps succeed only if both do. -/
theorem exec_bind_eq_ok {a : Action ω α} {f : α → Action ω β} {w w'' : ω} {y : β}
    (h : (a >>= f).exec w = (.ok y, w'')) :
    ∃ x w', a.exec w = (.ok x, w') ∧ (f x).exec w' = (.ok y, w'') := by
  rcases ha : a.exec w with ⟨x | x, w'⟩
  · rw [exec_bind_error ha] at h
    simp at h
  · exact ⟨x, w', rfl, by rw [← exec_bind_ok ha, h]⟩

/-- What is made of the result of an action has no effect of its own. -/
theorem exec_bind_pure (a : Action ω α) (f : α → β) (w : ω) :
    (a >>= fun x => pure (f x)).exec w = ((a.exec w).1.map f, (a.exec w).2) := by
  rw [exec_bind]
  rcases a.exec w with ⟨x | x, w'⟩ <;> rfl

/-- A reading that is accepted hands on what was read. -/
theorem exec_ofRejection_ok {x : Except Rejection α} {a : α} (h : x = .ok a) (w : ω) :
    (ofRejection x : Action ω α).exec w = (.ok a, w) := by
  rw [h]
  rfl

/-- A reading that is refused leaves the state as it is. -/
theorem exec_ofRejection_error {x : Except Rejection α} {r : Rejection} (h : x = .error r)
    (w : ω) : (ofRejection x : Action ω α).exec w = (.error (.rejected r), w) := by
  rw [h]
  rfl

/-- A known result is handed on. -/
theorem exec_ofResult_ok {x : Except Failure α} {a : α} (h : x = .ok a) (w : ω) :
    (ofResult x : Action ω α).exec w = (.ok a, w) := by
  rw [h]
  rfl

/-- A known failure leaves the state as it is. -/
theorem exec_ofResult_error {x : Except Failure α} {f : Failure} (h : x = .error f) (w : ω) :
    (ofResult x : Action ω α).exec w = (.error f, w) := by
  rw [h]
  rfl

/-- A result of what cannot fail is that of its run. -/
theorem exec_lift_eq_ok {m : StateM ω α} {w w' : ω} {a : α}
    (h : exec (m : Action ω α) w = (.ok a, w')) : m.run w = (a, w') := by
  rw [exec_lift] at h
  exact Prod.ext (Except.ok.inj (Prod.mk.inj h).1) (Prod.mk.inj h).2

/-- What a reading hands on was read, and the state is as before. -/
theorem exec_ofRejection_eq_ok {x : Except Rejection α} {a : α} {w w' : ω}
    (h : (ofRejection x).exec w = (.ok a, w')) : x = .ok a ∧ w = w' := by
  cases x with
  | error r => exact absurd (Prod.mk.inj h).1 (by simp)
  | ok b =>
    obtain ⟨hb, hw⟩ := Prod.mk.inj h
    exact ⟨congrArg Except.ok (Except.ok.inj hb), hw⟩

/-! ## What actions keep -/

/-- A property of what runs on a state, whatever the kind of its result. -/
abbrev Property (ω : Type) := (α : Type) → StateM ω α → Prop

/-- A property that goes through all ways in which actions are put together. -/
class Discipline (P : Property ω) : Prop where
  pure : ∀ {α : Type} (a : α), P α (Pure.pure a)
  bind : ∀ {α β : Type} {m : StateM ω α} {f : α → StateM ω β}, P α m → (∀ x, P β (f x)) →
    P β (m >>= f)

/-- What cannot fail has the property. -/
def StateKeeps (P : Property ω) (m : StateM ω α) : Prop := P α m

/-- The action has the property, whether it succeeds or fails. -/
def Keeps (P : Property ω) (a : Action ω α) : Prop := P (Except Failure α) a.run

variable {P : Property ω}

theorem StateKeeps.run {a : Action ω α} (ha : Keeps P a) : StateKeeps P a.run := ha

variable [hP : Discipline P]

/-! What follows says of each way to put actions together that it keeps the property. -/

theorem StateKeeps.pure (a : α) : StateKeeps P (Pure.pure a : StateM ω α) := hP.pure a

/-- Two steps keep it if the first does, and the second does for every result of the first. -/
theorem StateKeeps.bind {m : StateM ω α} {f : α → StateM ω β} (hm : StateKeeps P m)
    (hf : ∀ x, StateKeeps P (f x)) : StateKeeps P (m >>= f) :=
  hP.bind hm hf

/-- A step that is taken for each of a list's members. -/
theorem StateKeeps.mapM {f : β → StateM ω α} (hf : ∀ b, StateKeeps P (f b)) (bs : List β) :
    StateKeeps P (bs.mapM f) := by
  induction bs with
  | nil =>
    rw [List.mapM_nil]
    exact .pure _
  | cons b bs ih =>
    rw [List.mapM_cons]
    exact .bind (hf b) fun _ => .bind ih fun _ => .pure _

theorem Keeps.lift {m : StateM ω α} (hm : StateKeeps P m) : Keeps P (m : Action ω α) :=
  hP.bind hm fun _ => hP.pure _

theorem Keeps.pure (a : α) : Keeps P (Pure.pure a : Action ω α) := hP.pure _

theorem Keeps.fail (f : Failure) : Keeps P (Action.fail f : Action ω α) := hP.pure _

/-- Two steps keep it if both do. The second one is not reached when the first one fails. -/
theorem Keeps.bind {a : Action ω α} {f : α → Action ω β} (ha : Keeps P a)
    (hf : ∀ x, Keeps P (f x)) : Keeps P (a >>= f) := by
  rw [Keeps, ExceptT.run_bind]
  refine hP.bind ha fun x => ?_
  cases x with
  | ok x => exact hf x
  | error e => exact hP.pure _

/-- What is made of a result has no effect on the state. -/
theorem Keeps.map {a : Action ω α} (ha : Keeps P a) (f : α → β) : Keeps P (f <$> a) := by
  rw [map_eq_pure_bind]
  exact .bind ha fun x => .pure (f x)

/-- Reading a text of the request touches no state. -/
theorem Keeps.ofRejection (x : Except Rejection α) :
    Keeps P (Action.ofRejection x : Action ω α) := by
  cases x with
  | ok a => exact .pure a
  | error r => exact .fail (.rejected r)

/-- A result that is known already touches no state. -/
theorem Keeps.ofResult (x : Except Failure α) : Keeps P (Action.ofResult x : Action ω α) := by
  cases x with
  | ok a => exact .pure a
  | error f => exact .fail f

/-- A step that is taken for each of a list's members, up to the first that fails. -/
theorem Keeps.forM {f : β → Action ω PUnit} (hf : ∀ b, Keeps P (f b)) (bs : List β) :
    Keeps P (bs.forM f) := by
  induction bs with
  | nil => exact .pure _
  | cons b bs ih => exact .bind (hf b) fun _ => ih

/-! ## Disciplines -/

/-- A relation between a state and the states that follow it. -/
class Progress (R : ω → ω → Prop) : Prop where
  refl : ∀ w, R w w
  trans : ∀ {u v w}, R u v → R v w → R u w

/-- The relation holds between the states before and after. -/
def Along (R : ω → ω → Prop) : Property ω := fun _ m => ∀ w, R w (m.run w).2

/-- For a whole action: the relation holds between its first and its last state. -/
theorem Keeps.along {R : ω → ω → Prop} {a : Action ω α} (h : Keeps (Along R) a) (w : ω) :
    R w (a.exec w).2 :=
  h w

instance {R : ω → ω → Prop} [hR : Progress R] : Discipline (Along R) where
  pure _ := hR.refl
  bind hm hf w := hR.trans (hm w) (hf _ _)

/-- States that the relation does not tell apart lead to the same result and to states that it does
not tell apart. -/
def Blind (S : ω → ω → Prop) : Property ω := fun _ m =>
  ∀ w w', S w w' → (m.run w).1 = (m.run w').1 ∧ S (m.run w).2 (m.run w').2

/-- For a whole action: from states not told apart come one result and states not told apart. -/
theorem Keeps.blind {S : ω → ω → Prop} {a : Action ω α} (h : Keeps (Blind S) a) {w w' : ω}
    (hw : S w w') : (a.exec w).1 = (a.exec w').1 ∧ S (a.exec w).2 (a.exec w').2 :=
  h w w' hw

instance {S : ω → ω → Prop} : Discipline (Blind S) where
  pure _ _ _ h := ⟨rfl, h⟩
  bind {_ _ m f} hm hf w w' h := by
    obtain ⟨hresult, hstate⟩ := hm w w' h
    -- both runs go on with one and the same second step, since their first results agree
    have hnext := hf (m.run w).1 _ _ hstate
    change ((f (m.run w).1).run (m.run w).2).1 = ((f (m.run w').1).run (m.run w').2).1 ∧
      S ((f (m.run w).1).run (m.run w).2).2 ((f (m.run w').1).run (m.run w').2).2
    rw [← hresult]
    exact hnext

/-- What neither looks at the state nor changes it. -/
def Apart : Property ω := fun _ m => ∃ a, ∀ w, m.run w = (a, w)

theorem Keeps.apart {a : Action ω α} (h : Keeps Apart a) : ∃ x, ∀ w, a.exec w = (x, w) := h

instance : Discipline (Apart : Property ω) where
  pure a := ⟨a, fun _ => rfl⟩
  bind {_ _ m f} hm hf := by
    obtain ⟨a, ha⟩ := hm
    obtain ⟨b, hb⟩ := hf a
    refine ⟨b, fun w => ?_⟩
    rw [StateT.run_bind, ha w]
    exact hb w

end ODataService.Action
