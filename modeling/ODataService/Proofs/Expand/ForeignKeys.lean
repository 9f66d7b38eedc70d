import ODataService.Proofs.Expand.PerRecord
import ODataService.Proofs.Service.Records
import ODataService.Proofs.Store.Calls

/-!
# Keys that are followed

The store in memory keeps every record under a text, also if it was added under a number, and
reading a record takes the text of the value that it is asked for (`Store.Call.get`). Expanding a
relationship looks for the value itself among the identifiers. So it follows a key that is a text to
the record that reading the key finds, and it follows no other key (`find?_rows`).

Main result: `resolve_follows_texts`.
-/

namespace ODataService.Expand

open ODataService.Action

/-! ## Keys of stored records -/

section

variable {s : Store} {target : String}

/-- A record is stored under its identifier, which is a text. -/
theorem identity?_of_stored (hs : s.Sound) {id : String} {r : Record}
    (hr : s.record? target id = some r) : identity? r = some (.text id) := by
  obtain ⟨created, updated, hkept⟩ := hs.kept target id r hr
  have hmember : Json.member r Query.idField = .str id := by
    rw [Json.member, Query.idField, hkept.ident]
    rfl
  rw [identity?, hmember]
  rfl

/-- Only a text is a key known as a text. -/
theorem identity_eq_text_iff {k : Scalar} {id : String} : k.identity = .text id ↔ k = .str id := by
  rw [← Scalar.sameKey_str_right_iff, Scalar.sameKey_iff]
  rfl

/-- The record that a value leads to if texts are followed by `found`, and other values are not. -/
def textOnly (found : Json → Option Record) : Json → Option Record
  | .str id => found (.str id)
  | _ => none

/-- The record with the record that its key leads to in the place of the key, if that is a text. -/
def followText (property : String) (found : Json → Option Record) (r : Record) : Record :=
  putRow property r (textOnly found (Json.member r property))

/-- The record that reading a value finds. -/
def readRecord? (s : Store) (target : String) (v : Json) : Option Record :=
  s.record? target v.display

/-- A value is what its key is written as. -/
theorem toJson_of_key? {v : Json} {k : Scalar} (h : key? v = some k) : k.toJson = v := by
  obtain ⟨hscalar, -⟩ := Option.filter_eq_some_iff.1 h
  cases v <;> cases hscalar <;> rfl

/-- What is no key is not followed. -/
theorem textOnly_of_key? {found : Json → Option Record} {v : Json} (h : key? v = none) :
    textOnly found v = none := by
  cases v with
  | str id => simp [key?, Json.scalar?] at h
  | _ => rfl

/-- Among all records of a type a key finds the record that is read, if the key is a text, and none
otherwise. -/
theorem find?_rows (hs : s.Sound) (k : Scalar) :
    (s.rows target).values.reverse.find? (hasKey k) =
      textOnly (readRecord? s target) k.toJson := by
  -- every row is stored under its identifier, which is a text
  have hstored : ∀ r ∈ (s.rows target).values, ∃ id, s.record? target id = some r ∧
      identity? r = some (.text id) := by
    intro r hr
    obtain ⟨e, he, rfl⟩ := List.mem_map.mp hr
    have hget : s.record? target e.1 = some e.2 := Assoc.get?_of_mem (hs.rows_nodup target) he
    exact ⟨e.1, hget, identity?_of_stored hs hget⟩
  -- what has the key is stored under it
  have hkey : ∀ r ∈ (s.rows target).values, hasKey k r = true →
      ∃ id, k = .str id ∧ s.record? target id = some r := by
    intro r hr hk
    obtain ⟨id, hget, hid⟩ := hstored r hr
    rw [hasKey_iff, hid, Option.some.injEq, eq_comm, identity_eq_text_iff] at hk
    exact ⟨id, hk, hget⟩
  cases hread : textOnly (readRecord? s target) k.toJson with
  -- nothing is found, so no row has the key: it would be stored under it
  | none =>
    refine List.find?_eq_none.mpr fun r hr hk => ?_
    obtain ⟨id, rfl, hget⟩ := hkey r (List.mem_reverse.mp hr) hk
    exact absurd (hget.symm.trans hread) (by simp)
  -- the key is a text, and only one row is stored under it
  | some r =>
    obtain ⟨id, rfl⟩ : ∃ id, k = .str id := by
      cases k with
      | str id => exact ⟨id, rfl⟩
      | _ => simp [Scalar.toJson, textOnly] at hread
    have hget : s.record? target id = some r := hread
    have hfilter : (s.rows target).values.filter (hasKey (.str id)) = [r] := by
      refine Assoc.filter_values_eq (hs.rows_nodup target) hget fun l u hl => ?_
      rw [hasKey_iff, identity?_of_stored hs hl]
      simp [Scalar.identity]
    rw [← List.head?_filter, List.filter_reverse, hfilter]
    rfl

end

/-! ## Expanding -/

section

variable {w : World Store} {target property : String} {levels : Nat}
  {deeper : Resolver (World Store)}

/-- An entry without options finds all records that have one of the keys. -/
theorem exec_related_plain (hd : w.store.declares target = true) (keys : List Scalar) :
    (related ⟨w.store.registry, Store.engine.find⟩ levels deeper (.str target) keys
      ⟨property, []⟩).exec w =
        (.ok (relatedRows {} keys none (w.store.rows target).values), w) := by
  have hkeep : nestedProperties levels (Entry.nested? ⟨property, []⟩) = .ok [] := by
    cases levels <;> rfl
  have hquery : relatedQuery keys [] [] =
      .ok { filter := Filter.all [some (.oneOf Query.idField keys), none] } := rfl
  -- the query without options only narrows to the keys
  have hrun := @run_relatedQuery {} ⟨rfl, rfl, rfl⟩ keys none (w.store.rows target).values (by simp)
  -- the store answers it with the rows that have one of the keys
  have hfind : (Store.engine.find (.str target)
      { filter := Filter.all [some (.oneOf Query.idField keys), none] }).exec w =
        (.ok ((relatedRows {} keys none (w.store.rows target).values).map .obj), w) := by
    have htable : (Store.find target
        { filter := Filter.all [some (.oneOf Query.idField keys), none] }).exec w =
          (.ok (relatedRows {} keys none (w.store.rows target).values), w) := by
      rw [Store.find, exec_bind_ok (Store.exec_tableOf hd), ← hrun]
      rfl
    exact exec_bind_ok htable
  rw [related, hkeep, exec_bind_ok (exec_ofRejection_ok rfl w),
    exec_bind_ok (exec_ofRejection_ok hquery w), exec_bind_ok hfind]
  exact exec_requireRecords _ w

/-- Among the records that are found for keys, a key that was asked for finds what it finds among
all. -/
theorem recordOf?_relatedRows (hs : w.store.Sound) {keys : List Scalar} {k : Scalar}
    (hk : knows keys k = true) :
    recordOf? (relatedRows {} keys none (w.store.rows target).values) k =
      textOnly (readRecord? w.store target) k.toJson := by
  -- of rows with the same key the last one counts, on both sides
  have hlast : ∀ rows, recordOf? rows k = rows.reverse.find? (hasKey k) := fun _ => rfl
  have hlook : lookUp? {} k (w.store.rows target).values =
      (w.store.rows target).values.reverse.find? (hasKey k) := by
    simp [lookUp?, Query.order, Filter.admits]
  rw [hlast, find?_relatedRows hk, hlook, find?_rows hs]
  exact Option.map_id_apply

/-- Embedding follows the keys that are texts. -/
theorem embed_relatedRows (hs : w.store.Sound) {rows : List Record} {r : Record} (hr : r ∈ rows) :
    embed property (relatedRows {} (keysOf property rows) none (w.store.rows target).values) r =
      followText property (readRecord? w.store target) r := by
  rw [followText, embed]
  -- a value that is no key stays, a key is replaced by the record it leads to
  cases hk : key? (Json.member r property) with
  | none => rw [textOnly_of_key? hk, putRow]
  | some k =>
    dsimp only
    rw [recordOf?_relatedRows hs (knows_keysOf hr hk), toJson_of_key? hk]
    cases textOnly (readRecord? w.store target) (Json.member r property) <;> rfl

/-- Resolving a relationship without options follows the keys that are texts. -/
theorem exec_resolveRelationship_plain (hs : w.store.Sound) (hd : w.store.declares target = true)
    {f : Field} (href : f.reference = .str target) (rows : List Record) :
    (resolveRelationship ⟨w.store.registry, Store.engine.find⟩ levels deeper f (rows.map .obj)
      ⟨property, []⟩).exec w =
        (.ok (rows.map fun r => .obj (followText property (readRecord? w.store target) r)), w) := by
  rw [resolveRelationship, exec_bind_ok (exec_requireRecords rows w)]
  split
  · next hkeys =>
    -- no record holds a key, so there is none to follow
    have hsame : rows.map Json.obj =
        rows.map fun r => .obj (followText property (readRecord? w.store target) r) := by
      refine List.map_congr_left fun r hr => ?_
      rw [followText, textOnly_of_key? (key?_of_keysOf_eq_nil hkeys hr), putRow]
    rw [← hsame]
    rfl
  -- some keys are held, and the related rows are asked for once
  · have hembed : (rows.map fun r => Json.obj (embed property
        (relatedRows {} (keysOf property rows) none (w.store.rows target).values) r)) =
          rows.map fun r => .obj (followText property (readRecord? w.store target) r) :=
      List.map_congr_left fun r hr => congrArg Json.obj (embed_relatedRows hs hr)
    rw [href, exec_bind_ok (exec_related_plain hd _), ← hembed]
    rfl

variable {set text : String} {type : ObjectType} {f : Field}

/-- A property alone in the text is read as one entry without options. -/
theorem readEntries_plain {s : Store} (htype : Assoc.get? s.types set = some type)
    (hparse : parse text = .ok [⟨property, []⟩]) :
    readEntries s.registry (.str set) text = .ok (some ([⟨property, []⟩], type)) := by
  have hresolve : s.registry.resolve? (.str set) = .ok (some type) := by
    rw [← htype]
    exact congrArg Except.ok (Store.registry_find? s set)
  have hempty : text ≠ "" := by
    rintro rfl
    have hnothing : parse "" = .ok [] := by decide
    exact absurd (hnothing.symm.trans hparse) (by simp)
  rw [readEntries, if_neg hempty, hparse, hresolve]
  rfl

/-- In every state that the store in memory comes to, expanding a relationship without options puts
the record that reading a key finds in the place of the key, if the key is a text. Other keys stay
as they are, also those that reading finds a record for. -/
theorem resolve_follows_texts (hw : Store.Reachable w)
    (htype : Assoc.get? w.store.types set = some type)
    (hf : Assoc.get? type.fields property = some f) (hrel : f.isRelationship = true)
    (href : f.reference = .str target) (hd : w.store.declares target = true)
    (hparse : parse text = .ok [⟨property, []⟩]) :
    ∃ found : Json → Option Record,
      (∀ v, (Store.Call.get (.str target) v).perform.exec w = (.ok (.record (found v)), w)) ∧
      ∀ levels (rows : List Record),
        (resolve ⟨w.store.registry, Store.engine.find⟩ (levels + 1) (.str set) (rows.map .obj)
          text).exec w = (.ok (rows.map fun r => .obj (followText property found r)), w) := by
  refine ⟨readRecord? w.store target, fun v => exec_bind_ok (Store.exec_fetch hd),
    fun levels rows => ?_⟩
  -- the one entry is a relationship, and it is followed
  have hentry : (resolveEntry ⟨w.store.registry, Store.engine.find⟩ levels
      (outcome ⟨w.store.registry, Store.engine.find⟩ levels) type (rows.map .obj)
      ⟨property, []⟩).exec w =
        (.ok (rows.map fun r => .obj (followText property (readRecord? w.store target) r)), w) := by
    simp only [resolveEntry, hf, hrel, if_true]
    exact exec_resolveRelationship_plain hw.sound hd href rows
  -- without rows nothing happens, which is the same
  have houtcome : (outcome ⟨w.store.registry, Store.engine.find⟩ (levels + 1) (.str set)
      (rows.map .obj) text).run w =
        ({ rows := rows.map fun r => .obj (followText property (readRecord? w.store target) r) },
          w) := by
    rw [outcome_succ]
    split
    · next hrows =>
      obtain rfl : rows = [] := by simpa using hrows
      rfl
    · rw [readEntries_plain htype hparse]
      dsimp only
      rw [run_resolveEntries_cons, hentry]
      rfl
  rw [resolve, exec_bind, exec_lift, houtcome]
  rfl

end

/-! ## A key that is a number -/

/-- Accounts refer to their owners, of whom there is one. The owner was added under the number 1. -/
def oneOwner : World Store :=
  let owners : World Store := ((Store.declare { name := "Owners" }).exec { store := {} }).2
  let accounts := ((Store.declare { name := "Accounts", fields :=
    [("owner", { type := "lookup", reference := .str "Owners" })] }).exec owners).2
  ((Store.insert "Owners" [(.str "_id", .int 1)]).exec accounts).2

/-- An account with a key of its owner. -/
def account (owner : Json) : Record := [(.str "owner", owner)]

/-- The owner is found under the number and under its text, but only the text is followed. -/
theorem resolve_follows_texts_number :
    ∃ r : Record,
      (Store.Call.get (.str "Owners") (.int 1)).perform.exec oneOwner =
        (.ok (.record (some r)), oneOwner) ∧
      (Store.Call.get (.str "Owners") (.str "1")).perform.exec oneOwner =
        (.ok (.record (some r)), oneOwner) ∧
      (resolve ⟨oneOwner.store.registry, Store.engine.find⟩ 3 (.str "Accounts")
        [.obj (account (.str "1")), .obj (account (.int 1)), .obj (account (.str "2"))]
        "owner").exec oneOwner =
          (.ok [.obj (account (.obj r)), .obj (account (.int 1)), .obj (account (.str "2"))],
            oneOwner) := by
  have hreachable : Store.Reachable oneOwner := .insert (.declare (.declare .start _) _) _ _
  obtain ⟨found, hget, hresolve⟩ := @resolve_follows_texts oneOwner "Owners" "owner" "Accounts"
    "owner" _ _ hreachable rfl rfl (by decide) rfl (by decide) (by decide +kernel)
  let r := Store.newRecord [] "1" (.str "2023-11-14T22:13:20.000Z")
  -- the lookup by the number finds the record, as the number is written as its identifier
  have hnumber : (Store.Call.get (.str "Owners") (.int 1)).perform.exec oneOwner =
      (.ok (.record (some r)), oneOwner) := rfl
  have htext : found (.str "1") = some r := by
    have hread : (Store.Call.get (.str "Owners") (.str "1")).perform.exec oneOwner =
        (.ok (.record (some r)), oneOwner) := rfl
    rw [hget] at hread
    simpa using hread
  have hother : found (.str "2") = none := by
    have hread : (Store.Call.get (.str "Owners") (.str "2")).perform.exec oneOwner =
        (.ok (.record none), oneOwner) := rfl
    rw [hget] at hread
    simpa using hread
  refine ⟨r, hnumber, htext ▸ hget (.str "1"), ?_⟩
  -- the text key is followed, the number stays, and so does the text nothing is stored under
  refine (hresolve 2 [account (.str "1"), account (.int 1), account (.str "2")]).trans ?_
  have hfirst : followText "owner" found (account (.str "1")) = account (.obj r) :=
    congrArg (putRow "owner" (account (.str "1"))) htext
  have hlast : followText "owner" found (account (.str "2")) = account (.str "2") :=
    congrArg (putRow "owner" (account (.str "2"))) hother
  rw [List.map_cons, List.map_cons, List.map_cons, hfirst, hlast]
  rfl

end ODataService.Expand
