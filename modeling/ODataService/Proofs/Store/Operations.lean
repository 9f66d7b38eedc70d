import ODataService.Proofs.Assoc
import ODataService.Proofs.Json.Display
import ODataService.Proofs.Service.Keeps
import ODataService.Store.Operations

/-!
# What the operations of the store do

One equation for each way in which an operation of the store in memory can go, in terms of the
record that is found (`Store.record?`). A way in which nothing is written leaves the world as it is,
up to the clock and the number of identifiers handed out.
-/

namespace ODataService.Store

open ODataService.Action

/-- The records of an entity set; an entity set that is not declared has none. -/
def rows (s : Store) (name : String) : Table := (Assoc.get? s.tables name).getD []

/-- The record of an entity set with an identifier. -/
def record? (s : Store) (name id : String) : Option Record := Assoc.get? (s.rows name) id

/-- Whether an entity set is declared. -/
def declares (s : Store) (name : String) : Bool := Assoc.has s.types name

/-- Two stores hold the same: declarations, tables and the last stamp. The clock does not count. -/
structure SameData (s s' : Store) : Prop where
  types : s'.types = s.types
  tables : s'.tables = s.tables
  lastStamp : s'.lastStamp = s.lastStamp

theorem SameData.refl (s : Store) : SameData s s := ⟨rfl, rfl, rfl⟩

theorem SameData.trans {s t u : Store} (h : SameData s t) (h' : SameData t u) : SameData s u :=
  ⟨h'.types.trans h.types, h'.tables.trans h.tables, h'.lastStamp.trans h.lastStamp⟩

theorem SameData.of_eq {s s' : Store} (h : s' = s) : SameData s s' := h ▸ .refl s

/-- In stores that hold the same, the same records are found. -/
theorem SameData.record?_eq {s s' : Store} (h : SameData s s') (name id : String) :
    s'.record? name id = s.record? name id := by
  rw [record?, rows, h.tables, record?, rows]

/-- Reading the clock changes no data. -/
theorem sameData_clockRead (s : Store) : SameData s s.clockRead := by
  unfold clockRead
  split
  · exact ⟨rfl, rfl, rfl⟩
  · exact .refl s

/-- A declared entity set has a table. -/
theorem table_eq_ok {s : Store} {name : String} (h : s.declares name = true) :
    s.table name = .ok (s.rows name) := by
  rw [declares] at h
  rw [table, h]
  rfl

/-- An entity set that is not declared is unknown. -/
theorem table_eq_error {s : Store} {name : String} (h : s.declares name = false) :
    s.table name = .error (.unknownType name) := by
  rw [declares] at h
  rw [table, h]
  rfl

variable {w : World Store} {name id : String} {data : Record}

/-- The table of a declared entity set is handed out. -/
theorem exec_tableOf (h : w.store.declares name = true) :
    (tableOf name).exec w = (.ok (w.store.rows name), w) := by
  rw [tableOf, exec_bind_ok (exec_get w), table_eq_ok h]
  rfl

/-- Asking for the table of an undeclared entity set fails. -/
theorem exec_tableOf_undeclared (h : w.store.declares name = false) :
    (tableOf name).exec w = (.error (.unknownType name), w) := by
  rw [tableOf, exec_bind_ok (exec_get w), table_eq_error h]
  rfl

/-- A result that is known already touches no state. -/
theorem keeps_result {α : Type} {P : Property (World Store)} [Discipline P]
    (x : Except Failure α) : Keeps P (result x) := by
  cases x with
  | ok a => exact .pure a
  | error f => exact .fail f

/-- Asking for a table is a look at the store. -/
theorem keeps_tableOf {P : Property (World Store)} [Reporting P] (name : String) :
    Keeps P (tableOf name) := by
  have hresult := Keeps.bind (keeps_look (P := P) fun s => s.table name) keeps_result
  exact hresult

/-! ## Reading -/

/-- A record of a declared entity set is looked up by its identifier. -/
theorem exec_fetch (h : w.store.declares name = true) :
    (fetch name id).exec w = (.ok (w.store.record? name id), w) := by
  rw [fetch, exec_bind_ok (exec_tableOf h)]
  rfl

/-- Operations that read do nothing else. -/
theorem engine_readsKeep (P : Property (World Store)) [Reporting P] : engine.ReadsKeep P where
  find _ _ := .bind (keeps_result _) fun _ => .bind (.bind (keeps_tableOf _) fun _ => .pure _)
    fun _ => .pure _
  get _ _ := .bind (.bind (keeps_tableOf _) fun _ => .pure _) fun _ => .pure _
  count _ _ := .bind (.bind (keeps_tableOf _) fun _ => .pure _) fun _ => .pure _

/-! ## Adding -/

/-- An identifier that a client gives is not empty, since an empty one asks for none. -/
theorem givenId?_ne_empty (h : givenId? data = some id) : id ≠ "" := by
  unfold givenId? at h
  split at h
  · simp at h
  · simp at h
  -- an identifier that is given is a value other than the empty text
  · next hempty =>
    rw [← Option.some.inj h]
    exact Json.display_ne_empty hempty

/-- The identifier of a new record is never empty. -/
theorem exec_chooseId (data : Record) (w : World Store) :
    ∃ id w', (chooseId data).exec w = (.ok id, w') ∧ w'.store = w.store ∧ id ≠ "" := by
  unfold chooseId
  split
  · next id hgiven => exact ⟨id, w, rfl, rfl, givenId?_ne_empty hgiven⟩
  -- a generated identifier has a fixed length
  · refine ⟨_, _, rfl, rfl, ?_⟩
    rw [World.idText, Ne, String.ofList_eq_empty_iff]
    exact List.append_ne_nil_of_right_ne_nil _ (by simp)

/-- The required fields are there, or the check fails and leaves the world as it is. -/
theorem exec_checkRequired (name : String) (data : Record) (w : World Store) :
    (checkRequired name data).exec w = (.ok (), w) ∨
      ∃ f, (checkRequired name data).exec w = (.error f, w) := by
  rw [checkRequired, exec_bind_ok (exec_get w)]
  split
  · exact .inr ⟨_, rfl⟩
  · exact .inl rfl

/-- An insertion that succeeds has taken a stamp and a free identifier that is not empty. -/
structure Inserted (s : Store) (name : String) (data : Record) (id : String) (s' : Store) :
    Prop where
  declared : s.declares name = true
  free : Assoc.has (s.rows name) id = false
  named : id ≠ ""
  stamped : s.stampFault? = none
  store_eq : s' = (s.add name (s.rows name) data id).2

/-- The stamp of an insertion is the last one afterwards. -/
theorem Inserted.lastStamp {s s' : Store} (h : Inserted s name data id s') :
    s'.lastStamp = some s.nextStamp := by
  rw [h.store_eq]
  rfl

/-- An insertion adds a record, or it fails and leaves everything as it is. -/
theorem exec_insert (name : String) (data : Record) (w : World Store) :
    (∃ id w', (insert name data).exec w = (.ok (newRecord data id w.store.stamp), w') ∧
        Inserted w.store name data id w'.store) ∨
      ∃ f w', (insert name data).exec w = (.error f, w') ∧ SameData w.store w'.store := by
  cases hd : w.store.declares name with
  | false =>
    rw [insert, exec_bind_error (exec_tableOf_undeclared hd)]
    exact .inr ⟨_, w, rfl, .refl _⟩
  | true =>
    rw [insert, exec_bind_ok (exec_tableOf hd)]
    rcases exec_checkRequired name data w with hreq | ⟨f, hreq⟩
    · rw [exec_bind_ok hreq]
      -- an identifier that is made up counts as handed out, and that is no data
      obtain ⟨id, w₁, hid, hw, hnamed⟩ := exec_chooseId data w
      rw [exec_bind_ok hid]
      split
      · exact .inr ⟨_, w₁, rfl, .of_eq hw⟩
      -- the identifier is free, so only the clock may still be in the way
      · next hfree =>
        rw [Bool.not_eq_true] at hfree
        rw [exec_bind_ok (exec_get w₁), hw]
        split
        · next hstamp => exact .inl ⟨id, _, rfl, hd, hfree, hnamed, hstamp, rfl⟩
        · exact .inr ⟨_, _, rfl, sameData_clockRead _⟩
    · rw [exec_bind_error hreq]
      exact .inr ⟨f, w, rfl, .refl _⟩

/-! ## Changing -/

/-- Changing a record of an undeclared entity set fails. -/
theorem exec_update_undeclared (h : w.store.declares name = false) :
    (update name id data).exec w = (.error (.unknownType name), w) := by
  rw [update, exec_bind_error (exec_tableOf_undeclared h)]

/-- Changing a record that is not there changes nothing. -/
theorem exec_update_missing (h : w.store.declares name = true)
    (hr : w.store.record? name id = none) : (update name id data).exec w = (.ok none, w) := by
  rw [record?] at hr
  rw [update, exec_bind_ok (exec_tableOf h), hr]
  rfl

/-- A record that is there is changed and gets the next stamp. -/
theorem exec_update_stamped {old : Record} (h : w.store.declares name = true)
    (hr : w.store.record? name id = some old) (hs : w.store.stampFault? = none) :
    (update name id data).exec w =
      (.ok (some (changedRecord old data w.store.stamp)),
        { w with store := (w.store.change name (w.store.rows name) id old data).2 }) := by
  rw [record?] at hr
  rw [update, exec_bind_ok (exec_tableOf h), hr]
  simp only [exec_bind_ok (exec_get w), hs]
  rfl

/-- Where no stamp is left, the properties are changed and then the update fails. -/
theorem exec_update_unstamped {old : Record} {fault : Time.RangeFault}
    (h : w.store.declares name = true) (hr : w.store.record? name id = some old)
    (hs : w.store.stampFault? = some fault) :
    (update name id data).exec w =
      (.error (.noStamp fault),
        { w with store := w.store.changeUnstamped name (w.store.rows name) id old data }) := by
  rw [record?] at hr
  rw [update, exec_bind_ok (exec_tableOf h), hr]
  simp only [exec_bind_ok (exec_get w), hs]
  rfl

/-! ## Removing -/

/-- Removing a record of an undeclared entity set fails. -/
theorem exec_delete_undeclared (h : w.store.declares name = false) :
    (delete name id).exec w = (.error (.unknownType name), w) := by
  rw [delete, exec_bind_error (exec_tableOf_undeclared h)]

/-- Removing a record that is not there removes nothing. -/
theorem exec_delete_missing (h : w.store.declares name = true)
    (hr : w.store.record? name id = none) : (delete name id).exec w = (.ok false, w) := by
  rw [record?] at hr
  rw [delete, exec_bind_ok (exec_tableOf h), Assoc.has, hr]
  rfl

/-- A record that is there is taken out of its table. -/
theorem exec_delete {old : Record} (h : w.store.declares name = true)
    (hr : w.store.record? name id = some old) :
    (delete name id).exec w =
      (.ok true,
        { w with store := w.store.setTable name (Assoc.erase (w.store.rows name) id) }) := by
  rw [record?] at hr
  rw [delete, exec_bind_ok (exec_tableOf h), Assoc.has, hr]
  rfl

/-! ## Declaring -/

/-- An object type was declared; its entity set has a table afterwards. -/
structure Declared (s s' : Store) (t : ObjectType) : Prop where
  types : s'.types = Assoc.set s.types t.name t
  tables : (Assoc.has s.tables t.name = true ∧ s'.tables = s.tables) ∨
    Assoc.Appends s.tables s'.tables t.name []
  lastStamp : s'.lastStamp = s.lastStamp

/-- A declaration needs a name, and nothing else can go wrong with it. -/
theorem exec_declare (t : ObjectType) (w : World Store) :
    (∃ w', (declare t).exec w = (.ok (), w') ∧ Declared w.store w'.store t) ∨
      ∃ f, (declare t).exec w = (.error f, w) := by
  rw [declare, exec_bind_ok (exec_get w), register]
  split
  · exact .inr ⟨_, rfl⟩
  · refine .inl ⟨_, rfl, rfl, ?_, rfl⟩
    -- a table that is there stays, another one is added empty
    cases hhas : Assoc.has w.store.tables t.name with
    | true => exact .inl ⟨rfl, rfl⟩
    | false => exact .inr (Assoc.appends_set hhas [])

end ODataService.Store
