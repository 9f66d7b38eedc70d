import ODataService.Proofs.Service.Routes

/-!
# Worlds that differ in their logs

The service writes to the log and never looks at it. So from two worlds that are alike but for their
logs (`World.Alike`) a request gets the same response, and it leads to worlds that are alike again.
A request that reads leads to a world that is like the one in front of it.

Main results:

* `Service.handle_blind`: requests do not see the log.
* `Service.handle_reads`: requests that read change nothing but the log.
-/

namespace ODataService

open ODataService.Action

variable {σ : Type}

/-- Two worlds differ in their logs at most. -/
structure World.Alike (w w' : World σ) : Prop where
  store : w'.store = w.store
  issued : w'.issued = w.issued

theorem World.Alike.refl (w : World σ) : w.Alike w := ⟨rfl, rfl⟩

theorem World.Alike.symm {w w' : World σ} (h : w.Alike w') : w'.Alike w :=
  ⟨h.store.symm, h.issued.symm⟩

theorem World.Alike.trans {u v w : World σ} (h : u.Alike v) (h' : v.Alike w) : u.Alike w :=
  ⟨h'.store.trans h.store, h'.issued.trans h.issued⟩

instance : Progress (World.Alike (σ := σ)) where
  refl := World.Alike.refl
  trans := World.Alike.trans

instance : Reporting (Along (World.Alike (σ := σ))) where
  look _ w := .refl w
  report _ _ _ _ := ⟨rfl, rfl⟩

instance : Unobserving (Blind (World.Alike (σ := σ))) where
  look f _ _ h := ⟨congrArg f h.store.symm, h⟩
  report _ _ _ _ _ h := ⟨rfl, h.store, h.issued⟩
  issue _ _ h := ⟨congrArg (fun n => World.idText (n + 1)) h.issued.symm, h.store,
    congrArg (· + 1) h.issued⟩

/-- An action does not see the log if it does the same whatever stands there. -/
theorem blind_of_logs {α : Type} {a : Action (World σ) α}
    (h : ∀ store issued log log',
      (a.exec ⟨store, issued, log⟩).1 = (a.exec ⟨store, issued, log'⟩).1 ∧
        (a.exec ⟨store, issued, log⟩).2.Alike (a.exec ⟨store, issued, log'⟩).2) :
    Keeps (Blind World.Alike) a := by
  rintro ⟨store, issued, log⟩ ⟨_, _, log'⟩ ⟨hstore, hissued⟩
  obtain rfl : _ = store := hstore
  obtain rfl : _ = issued := hissued
  exact h _ _ log log'

/-! ## The store in memory -/

namespace Store

/-- The required fields are those of the declared type. -/
theorem blind_checkRequired (name : String) (data : Record) :
    Keeps (Blind World.Alike) (checkRequired name data) := by
  -- both worlds have the same types, so the same properties are missing
  refine blind_of_logs fun s issued log log' => ?_
  rw [checkRequired, exec_bind_ok (exec_get _), exec_bind_ok (exec_get _)]
  dsimp only
  split
  · exact ⟨rfl, rfl, rfl⟩
  · exact ⟨rfl, rfl, rfl⟩

/-- Identifiers are handed out by their number. -/
theorem blind_chooseId (data : Record) : Keeps (Blind World.Alike) (chooseId data) := by
  unfold chooseId
  split
  · exact .pure _
  · exact keeps_newId

/-- Adding a record needs the store and the number of identifiers. -/
theorem blind_insert (name : String) (data : Record) :
    Keeps (Blind World.Alike) (insert name data) := by
  refine .bind (keeps_tableOf name) fun t => .bind (blind_checkRequired name data) fun _ =>
    .bind (blind_chooseId data) fun id => ?_
  split
  · exact .fail _
  -- from here on the store alone decides, and it is the same in both worlds
  · refine blind_of_logs fun s issued log log' => ?_
    rw [exec_bind_ok (exec_get _), exec_bind_ok (exec_get _)]
    dsimp only
    split
    · exact ⟨rfl, rfl, rfl⟩
    · exact ⟨rfl, rfl, rfl⟩

/-- Changing a record needs the store. -/
theorem blind_update (name id : String) (data : Record) :
    Keeps (Blind World.Alike) (update name id data) := by
  refine .bind (keeps_tableOf name) fun t => ?_
  split
  · exact .pure _
  -- the stamp is taken from the clock, which is the same in both
  · refine blind_of_logs fun s issued log log' => ?_
    rw [exec_bind_ok (exec_get _), exec_bind_ok (exec_get _)]
    dsimp only
    split
    · exact ⟨rfl, rfl, rfl⟩
    · exact ⟨rfl, rfl, rfl⟩

/-- Removing a record needs the store. -/
theorem blind_delete (name id : String) : Keeps (Blind World.Alike) (delete name id) := by
  refine .bind (keeps_tableOf name) fun t => ?_
  split
  · exact blind_of_logs fun s issued log log' => ⟨rfl, rfl, rfl⟩
  · exact .pure _

/-- No operation of the store sees the log. -/
theorem engine_blind : engine.AllKeep (Blind World.Alike) where
  toReadsKeep := engine_readsKeep _
  create name data := .bind (blind_insert name data) fun _ => .pure _
  update name id data := .bind (blind_update name id data) fun _ => .pure _
  delete := blind_delete

end Store

/-! ## Requests -/

namespace Service

variable {q : Http.Request}

/-- Requests do not see the log. -/
theorem handle_blind (settings : Settings) (q : Http.Request) :
    StateKeeps (Blind World.Alike) ((inMemory settings).handle q) :=
  handle_keeps (inMemory settings) Store.engine_blind q

/-- A request that reads and is no batch changes nothing but the log. -/
theorem handle_reads (settings : Settings) (hq : q.resource ≠ .batch)
    (hm : q.method = "GET" ∨ q.method = "OPTIONS") :
    StateKeeps (Along World.Alike) ((inMemory settings).handle q) :=
  keeps_answering (inMemory settings) (route_reads_keep settings _ hq hm)

end Service

end ODataService
