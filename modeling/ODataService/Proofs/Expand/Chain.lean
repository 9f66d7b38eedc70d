import ODataService.Proofs.Expand.PerRecord

/-!
# Resolving as a chain of actions

`Expand.resolve` keeps a failure in its outcome until the end, because a resolution that stops early
still has rows. Whoever asks for the rows only sees the failure. Seen so, resolving is a chain of
actions that stops at the first one that fails: entries come one after the other (`resolve_succ`),
and what is nested in an entry is resolved in the rows that were found for it (`related_eq`). Facts
about single actions go through these equations.
-/

namespace ODataService

/-- Actions that do the same in every state are the same. -/
theorem Action.ext_exec {ω α : Type} {a b : Action ω α} (h : ∀ w, a.exec w = b.exec w) : a = b :=
  funext h

namespace Expand

open ODataService.Action

variable {ω : Type} {source : Source ω} {levels : Nat} {deeper : Resolver ω} {type : ObjectType}

/-- The rows that a resolution comes to, or its failure. -/
def finish (m : StateM ω Outcome) : Action ω (List Json) := do
  let o ← (m : StateM ω Outcome)
  o.rowsOrFail

/-- An outcome is finished by giving its rows, or by failing with its failure. -/
theorem exec_finish (m : StateM ω Outcome) (w : ω) :
    (finish m).exec w = (m.run w).1.rowsOrFail.exec (m.run w).2 := by
  rw [finish, exec_bind, exec_lift]

/-- Entries are resolved one after the other. -/
theorem finish_resolveEntries (es : List Entry) (vs : List Json) :
    finish (resolveEntries source levels deeper type es vs) =
      es.foldlM (resolveEntry source levels deeper type) vs := by
  refine ext_exec fun w => ?_
  -- after a failure neither side goes on: one keeps it in the outcome, the other ends with it
  induction es generalizing vs w with
  | nil => rfl
  | cons e es ih =>
    rw [List.foldlM_cons, exec_bind, exec_finish, run_resolveEntries_cons]
    rcases (resolveEntry source levels deeper type vs e).exec w with ⟨f | vs', w'⟩
    · rfl
    · have hrest := ih vs' w'
      rw [exec_finish] at hrest
      exact hrest

/-- What is read of a text is resolved entry by entry, if there is anything to resolve it in. -/
theorem resolve_succ (entitySet : Json) (vs : List Json) (text : String) :
    resolve source (levels + 1) entitySet vs text =
      if vs.isEmpty then pure vs
      else
        match readEntries source.registry entitySet text with
        | .error f => Action.fail f
        | .ok none => pure vs
        | .ok (some (es, type)) =>
          es.foldlM (resolveEntry source levels (outcome source levels) type) vs := by
  show finish (outcome source (levels + 1) entitySet vs text) = _
  rw [outcome_succ]
  -- without rows, without entries, and with some: the same three cases on both sides
  split
  · rfl
  · rcases readEntries source.registry entitySet text with f | _ | ⟨es, type⟩
    · rfl
    · rfl
    · exact finish_resolveEntries es vs

/-- Resolves what is nested in an entry in the rows that were found for it. -/
def resolveNested (source : Source ω) (levels : Nat) (target : Json) (e : Entry)
    (found : List Json) : Action ω (List Json) :=
  match e.nested? with
  | none => pure found
  | some text => resolve source levels target found text

/-- Related records are looked up, and then what is nested in them is resolved. -/
theorem related_eq (target : Json) (keys : List Scalar) (e : Entry) :
    related source levels (outcome source levels) target keys e = (do
      let keep ← Action.ofRejection (nestedProperties levels e.nested?)
      let q ← Action.ofRejection (relatedQuery keys e.options keep)
      let found ← source.find target q
      let done ← resolveNested source levels target e found
      requireRecords done) := by
  unfold related resolveNested
  cases e.nested? with
  | none => simp only [pure_bind]
  | some text => simp only [resolve, bind_assoc]

end Expand

end ODataService
