import ODataService.Service.Collection
import ODataService.Service.Entity
import ODataService.Service.Path

/-!
# What is wrong with a request

The texts of a request are read one by one: the query options, what they hold in turn, the key and
the body. Whatever is wrong with a text, its reader refuses it as a bad request (status 400). The
only other refusal on the way is that of a condition which is not met (status 412).

The codes differ from reader to reader, and a reader may call others. So what is said here of each
reader is the status of its refusals, and this goes through all ways in which readers are put
together (`RefusesWith`).

A body that is nested too deeply is no refusal: the reader of records gives up on it with a failure
of its own (`Failure.nesting`), which is the second case of `Content.readRecord_error`.
-/

namespace ODataService

variable {ε α β : Type} {status : Nat}

/-- Whatever is refused is refused with the given status. -/
def RefusesWith (status : Nat) (x : Except Rejection α) : Prop :=
  ∀ r, x = .error r → r.code.status = status

namespace RefusesWith

/-- A result refuses nothing. -/
theorem ok (a : α) : RefusesWith status (.ok a) := by
  intro r hr
  simp at hr

/-- A rejection refuses with the status of its code. -/
theorem error {r : Rejection} (h : r.code.status = status) :
    RefusesWith status (.error r : Except Rejection α) := by
  intro r' hr
  rw [← Except.error.inj hr, h]

/-- Two checks in a row refuse with the status that both of them have. -/
theorem bind {x : Except Rejection α} {f : α → Except Rejection β} (hx : RefusesWith status x)
    (hf : ∀ a, RefusesWith status (f a)) : RefusesWith status (x >>= f) := by
  cases x with
  | error r => exact .error (hx r rfl)
  | ok a => exact hf a

/-- What is done with a result refuses nothing. -/
theorem map {x : Except Rejection α} (hx : RefusesWith status x) (f : α → β) :
    RefusesWith status (x.map f) := by
  cases x with
  | error r => exact .error (hx r rfl)
  | ok a => exact .ok (f a)

/-- What is made of a fault decides about the status. -/
theorem mapError {f : ε → Rejection} (hf : ∀ e, (f e).code.status = status) (x : Except ε α) :
    RefusesWith status (x.mapError f) := by
  cases x with
  | error e => exact .error (hf e)
  | ok a => exact .ok a

/-- A check of every item refuses with the status of the check. -/
theorem mapM {f : α → Except Rejection β} (hf : ∀ a, RefusesWith status (f a)) (as : List α) :
    RefusesWith status (as.mapM f) := by
  induction as with
  | nil => exact .ok []
  | cons a as ih =>
    rw [List.mapM_cons]
    exact .bind (hf a) fun b => .bind ih fun bs => .ok (b :: bs)

end RefusesWith

/-! ## Query options -/

/-- The options of a query are refused with 400. -/
theorem SystemOptions.parse_refuses (params : Assoc String) : RefusesWith 400 (parse params) := by
  unfold parse
  split
  · next first others _ =>
    refine .error ?_
    -- the code depends on the first problem, the status does not
    unfold rejection
    dsimp only
    split <;> split <;> rfl
  · exact .ok _

/-- A filter is refused with 400. -/
theorem Filter.parse_refuses (raw : String) : RefusesWith 400 (parse raw) := by
  unfold parse
  dsimp only
  -- a blank text is no filter, and every fault is the same kind of rejection
  split
  · exact .ok none
  · split
    · exact .ok _
    · exact .error rfl

namespace Query

/-- A sort key is refused with 400. -/
theorem parseSortKey_refuses (entry : String) : RefusesWith 400 (parseSortKey entry) := by
  unfold parseSortKey
  -- a property alone, one with a direction, and anything else
  split
  · exact .ok _
  · split
    · exact .ok _
    · exact .error rfl
  · exact .error rfl

theorem parseOrderBy_refuses (raw : String) : RefusesWith 400 (parseOrderBy raw) :=
  .mapM parseSortKey_refuses _

/-- A selection is refused with 400. -/
theorem parseSelect_refuses (raw : String) : RefusesWith 400 (parseSelect raw) := by
  unfold parseSelect
  split
  · exact .error rfl
  · exact .ok _

/-- An option that is missing refuses nothing. -/
theorem readOption_refuses {missing : α} {read : String → Except Rejection α}
    (h : ∀ raw, RefusesWith status (read raw)) (raw : Option String) :
    RefusesWith status (readOption missing read raw) := by
  cases raw with
  | none => exact .ok missing
  | some raw => exact h raw

/-- A query is refused with 400 for any of its options. -/
theorem ofOptions_refuses (searchEnabled : Bool) (o : SystemOptions) :
    RefusesWith 400 (ofOptions searchEnabled o) :=
  .bind (readOption_refuses Filter.parse_refuses _) fun _ =>
    .bind (readOption_refuses parseOrderBy_refuses _) fun _ =>
    .bind (readOption_refuses parseSelect_refuses _) fun _ => .ok _

/-- The parameters of a query are refused with 400. -/
theorem ofParams_refuses (searchEnabled : Bool) (params : Assoc String) :
    RefusesWith 400 (ofParams searchEnabled params) :=
  .bind (SystemOptions.parse_refuses params) fun o => ofOptions_refuses searchEnabled o

end Query

namespace Expand

theorem parse_refuses (raw : String) : RefusesWith 400 (parse raw) :=
  .mapError (f := Fault.rejection) (fun _ => rfl) (parseEntries raw)

/-- The nested options of an expansion are refused with 400. -/
theorem relatedQuery_refuses (keys : List Scalar) (options : Assoc String) (keep : List String) :
    RefusesWith 400 (relatedQuery keys options keep) :=
  .bind (Query.ofParams_refuses true options) fun _ => .ok _

/-- The nested expansions are refused with 400. -/
theorem nestedProperties_refuses (levels : Nat) (nested : Option String) :
    RefusesWith 400 (nestedProperties levels nested) := by
  unfold nestedProperties
  split
  · exact .map (parse_refuses _) _
  · exact .ok []

end Expand

/-! ## Keys, bodies and conditions -/

/-- A key is refused with 400. -/
theorem EntityKey.parse_refuses (raw : String) : RefusesWith 400 (parse raw) := by
  unfold parse
  split
  · exact .error rfl
  · exact .ok _

/-- A body that is not read is refused as a bad request, unless it is nested on more levels than the
stack has room for. -/
theorem Content.readRecord_error {body : String} {f : Failure} (h : readRecord body = .error f) :
    (∃ r, f = .rejected r ∧ r.code.status = 400) ∨ ∃ c, f = .nesting c := by
  -- a blank body is an empty record; text that is no JSON, JSON too deep, and JSON that is no
  -- object
  unfold readRecord at h
  split at h
  · exact absurd h (by simp)
  · split at h
    · exact .inl ⟨_, (Except.error.inj h).symm, rfl⟩
    · exact .inr ⟨_, (Except.error.inj h).symm⟩
    · exact absurd h (by simp)
    · exact .inl ⟨notAnObject, (Except.error.inj h).symm, rfl⟩

/-- A tag that does not match is refused with 412. -/
theorem EntityTag.require_refuses (tag : String) (ifMatch : Option String) :
    RefusesWith 412 (require tag ifMatch) := by
  unfold require
  split
  · exact .ok ()
  · exact .error rfl

end ODataService
