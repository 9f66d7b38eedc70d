import ODataService.Proofs.Store.Records

/-!
# Steps of a store

What holds of a store in memory at all times (`Sound`): every entity set has one table, every record
one place in it, and every record carries its identifier and stamps that were taken.

From a sound store an operation takes one step. A `Step` says all that it can do to the tables and
names the write that it is, if it is one; what a step preserves holds along any sequence of them
(`Evolves`).
-/

namespace ODataService.Store

open ODataService.Action

/-- Every entity set has one table, every record one place in it, and every record is as the store
keeps it. -/
structure Sound (s : Store) : Prop where
  tables_nodup : (Assoc.keys s.tables).Nodup
  rows_nodup : ∀ name, (Assoc.keys (s.rows name)).Nodup
  has_table : ∀ name, s.declares name = true → Assoc.has s.tables name = true
  kept : ∀ name id r, s.record? name id = some r →
    ∃ created updated, Kept s.lastStamp id r created updated

/-- Nothing but one table is different, and it keeps its place. -/
structure Touches (s s' : Store) (name : String) : Prop where
  types : s'.types = s.types
  tables : Assoc.Replaces s.tables s'.tables name (s.rows name) (s'.rows name)

/-- A record was added behind the others of its entity set, under an identifier that was free. -/
structure Added (s s' : Store) (name id : String) (r : Record) : Prop extends
    Touches s s' name where
  rows : Assoc.Appends (s.rows name) (s'.rows name) id r

/-- A record was replaced. -/
structure Changed (s s' : Store) (name id : String) (old new : Record) : Prop extends
    Touches s s' name where
  rows : Assoc.Replaces (s.rows name) (s'.rows name) id old new

/-- A record was removed. -/
structure Removed (s s' : Store) (name id : String) (old : Record) : Prop extends
    Touches s s' name where
  rows : Assoc.Removes (s.rows name) (s'.rows name) id old

section transitions

variable {s s' : Store} {name id : String} {t : Table} {r old new data : Record}

/-- The table that is stored is the one that is found. -/
theorem rows_of_set (h : s'.tables = Assoc.set s.tables name t) : s'.rows name = t := by
  rw [Store.rows, h, Assoc.get?_set_self]
  rfl

/-- The tables of other entity sets are untouched. -/
theorem Touches.rows_of_ne (h : Touches s s' name) {other : String} (hne : other ≠ name) :
    s'.rows other = s.rows other := by
  rw [Store.rows, h.tables.get?_of_ne hne]
  rfl

/-- The declarations are untouched. -/
theorem Touches.declares_eq (h : Touches s s' name) (other : String) :
    s'.declares other = s.declares other := by
  rw [declares, h.types]
  rfl

/-- A declared entity set has its table stored. -/
theorem Sound.get?_tables (hs : Sound s) (h : s.declares name = true) :
    Assoc.get? s.tables name = some (s.rows name) := by
  obtain ⟨t, ht⟩ := Option.isSome_iff_exists.mp (hs.has_table name h)
  rw [Store.rows, ht]
  rfl

/-- Storing a table for a declared entity set replaces the one it had. -/
theorem Sound.touches (hs : Sound s) (h : s.declares name = true) (htypes : s'.types = s.types)
    (htables : s'.tables = Assoc.set s.tables name t) : Touches s s' name where
  types := htypes
  tables := by
    rw [rows_of_set htables, htables]
    exact Assoc.replaces_set hs.tables_nodup (hs.get?_tables h) t

/-- What an insertion that succeeds does to the tables. -/
theorem Sound.added (hs : Sound s) (h : Inserted s name data id s') :
    Added s s' name id (newRecord data id s.stamp) := by
  have htables : s'.tables =
      Assoc.set s.tables name (Assoc.set (s.rows name) id (newRecord data id s.stamp)) := by
    rw [h.store_eq]
    rfl
  have htypes : s'.types = s.types := by
    rw [h.store_eq]
    rfl
  exact ⟨hs.touches h.declared htypes htables, rows_of_set htables ▸ Assoc.appends_set h.free _⟩

/-- What storing another record in the place of a present one does to the tables. -/
theorem Sound.changed (hs : Sound s) (hd : s.declares name = true)
    (hr : s.record? name id = some old) (htypes : s'.types = s.types)
    (htables : s'.tables = Assoc.set s.tables name (Assoc.set (s.rows name) id new)) :
    Changed s s' name id old new :=
  ⟨hs.touches hd htypes htables,
    rows_of_set htables ▸ Assoc.replaces_set (hs.rows_nodup name) hr new⟩

/-- What an update does that takes a stamp. -/
theorem Sound.changedStamped (hs : Sound s) (hd : s.declares name = true)
    (hr : s.record? name id = some old) (h : s' = (s.change name (s.rows name) id old data).2) :
    Changed s s' name id old (changedRecord old data s.stamp) ∧
      s'.lastStamp = some s.nextStamp := by
  subst h
  exact ⟨hs.changed hd hr rfl rfl, rfl⟩

/-- What an update does that finds no stamp. -/
theorem Sound.changedUnstamped (hs : Sound s) (hd : s.declares name = true)
    (hr : s.record? name id = some old) (data : Record) :
    Changed s (s.changeUnstamped name (s.rows name) id old data) name id old
        (mergedRecord old data) ∧
      (s.changeUnstamped name (s.rows name) id old data).lastStamp = s.lastStamp := by
  have hread := sameData_clockRead s
  have htables : (s.changeUnstamped name (s.rows name) id old data).tables =
      Assoc.set s.clockRead.tables name (Assoc.set (s.rows name) id (mergedRecord old data)) := rfl
  exact ⟨hs.changed hd hr hread.types (hread.tables ▸ htables), hread.lastStamp⟩

/-- What a removal does to the tables. -/
theorem Sound.removed (hs : Sound s) (hd : s.declares name = true)
    (hr : s.record? name id = some old)
    (h : s' = s.setTable name (Assoc.erase (s.rows name) id)) :
    Removed s s' name id old ∧ s'.lastStamp = s.lastStamp := by
  have htables : s'.tables = Assoc.set s.tables name (Assoc.erase (s.rows name) id) := by
    rw [h]
    rfl
  have htypes : s'.types = s.types := by
    rw [h]
    rfl
  have hlast : s'.lastStamp = s.lastStamp := by
    rw [h]
    rfl
  exact ⟨⟨hs.touches hd htypes htables,
    rows_of_set htables ▸ Assoc.removes_erase (hs.rows_nodup name) hr⟩, hlast⟩

/-! ### Records before and after -/

/-- Records of other entity sets stay as they are. -/
theorem Touches.record?_of_ne (h : Touches s s' name) {other : String} (hne : other ≠ name)
    (id : String) : s'.record? other id = s.record? other id := by
  rw [record?, h.rows_of_ne hne]
  rfl

/-- A change of one entry of a table leaves all other records. -/
theorem Touches.record?_of_entry (h : Touches s s' name)
    (hrows : ∀ {key}, key ≠ id → Assoc.get? (s'.rows name) key = Assoc.get? (s.rows name) key)
    {other key : String} (hne : ¬ (other = name ∧ key = id)) :
    s'.record? other key = s.record? other key := by
  -- in the same table the key is another one, and in other tables nothing changes
  by_cases hname : other = name
  · subst hname
    exact hrows fun hkey => hne ⟨rfl, hkey⟩
  · exact h.record?_of_ne hname key

/-- All other records stay as they are when one is added. -/
theorem Added.record?_of_ne (h : Added s s' name id r) {other key : String}
    (hne : ¬ (other = name ∧ key = id)) : s'.record? other key = s.record? other key :=
  h.toTouches.record?_of_entry h.rows.get?_of_ne hne

/-- All other records stay as they are when one is changed. -/
theorem Changed.record?_of_ne (h : Changed s s' name id old new) {other key : String}
    (hne : ¬ (other = name ∧ key = id)) : s'.record? other key = s.record? other key :=
  h.toTouches.record?_of_entry h.rows.get?_of_ne hne

/-- All other records stay as they are when one is removed. -/
theorem Removed.record?_of_ne (h : Removed s s' name id old) {other key : String}
    (hne : ¬ (other = name ∧ key = id)) : s'.record? other key = s.record? other key :=
  h.toTouches.record?_of_entry h.rows.get?_of_ne hne

/-! ### Soundness -/

/-- A store stays sound when one table is replaced by one without double keys, and all records are
as the store keeps them. -/
theorem Sound.of_touches (hs : Sound s) (h : Touches s s' name)
    (ht : (Assoc.keys (s'.rows name)).Nodup)
    (hkept : ∀ other key r, s'.record? other key = some r →
      ∃ created updated, Kept s'.lastStamp key r created updated) : Sound s' where
  tables_nodup := h.tables.keys_eq ▸ hs.tables_nodup
  rows_nodup other := by
    by_cases hne : other = name
    · exact hne ▸ ht
    · exact h.rows_of_ne hne ▸ hs.rows_nodup other
  has_table other hd := by
    rw [h.declares_eq] at hd
    have hhas := hs.has_table other hd
    rw [Assoc.has_eq_true_iff] at hhas ⊢
    exact h.tables.keys_eq ▸ hhas
  kept := hkept

/-- Soundness is a matter of the data. -/
theorem Sound.of_sameData (hs : Sound s) (h : SameData s s') : Sound s' where
  tables_nodup := h.tables ▸ hs.tables_nodup
  rows_nodup name := by
    rw [Store.rows, h.tables]
    exact hs.rows_nodup name
  has_table name hd := by
    rw [declares, h.types] at hd
    exact h.tables ▸ hs.has_table name hd
  kept name id r hr := by
    rw [h.record?_eq] at hr
    exact h.lastStamp ▸ hs.kept name id r hr

/-- A store stays sound when a record is added. -/
theorem Sound.of_added (hs : Sound s) (h : Added s s' name id (newRecord data id s.stamp))
    (hstamp : s.stampFault? = none) (hlast : s'.lastStamp = some s.nextStamp) : Sound s' := by
  refine hs.of_touches h.toTouches (h.rows.nodup (hs.rows_nodup name)) fun other key r hr => ?_
  rw [hlast]
  by_cases heq : other = name ∧ key = id
  · obtain ⟨rfl, rfl⟩ := heq
    -- the new record carries the new stamp
    obtain rfl : newRecord data key s.stamp = r := Option.some.inj (h.rows.get?_self.symm.trans hr)
    exact ⟨_, _, kept_newRecord hstamp data key⟩
  · rw [h.record?_of_ne heq] at hr
    obtain ⟨created, updated, hk⟩ := hs.kept other key r hr
    -- all others carry earlier ones
    exact ⟨created, updated, hk.later hstamp⟩

/-- A store stays sound when a record is replaced by one as the store keeps it, while the others
stay so. -/
theorem Sound.of_changed (hs : Sound s) (h : Changed s s' name id old new)
    (hlater : ∀ key r created updated, Kept s.lastStamp key r created updated →
      Kept s'.lastStamp key r created updated)
    (hnew : ∀ created updated, Kept s.lastStamp id old created updated →
      ∃ updated, Kept s'.lastStamp id new created updated) : Sound s' := by
  have hnodup : (Assoc.keys (s'.rows name)).Nodup := h.rows.keys_eq ▸ hs.rows_nodup name
  refine hs.of_touches h.toTouches hnodup fun other key r hr => ?_
  by_cases heq : other = name ∧ key = id
  -- the record itself was kept in its old version, so it is in the new one
  · obtain ⟨rfl, rfl⟩ := heq
    obtain rfl : new = r := Option.some.inj (h.rows.get?_self.symm.trans hr)
    obtain ⟨created, updated, hk⟩ := hs.kept other key old h.rows.get?_old
    exact ⟨created, hnew created updated hk⟩
  · rw [h.record?_of_ne heq] at hr
    obtain ⟨created, updated, hk⟩ := hs.kept other key r hr
    exact ⟨created, updated, hlater key r created updated hk⟩

/-- A store stays sound when a record is removed. -/
theorem Sound.of_removed (hs : Sound s) (h : Removed s s' name id old)
    (hlast : s'.lastStamp = s.lastStamp) : Sound s' := by
  refine hs.of_touches h.toTouches (h.rows.nodup (hs.rows_nodup name)) fun other key r hr => ?_
  rw [hlast]
  by_cases heq : other = name ∧ key = id
  · obtain ⟨rfl, rfl⟩ := heq
    -- the record is gone, so there is nothing to show for it
    have hgone : s'.record? other key = none := h.rows.get?_self
    simp [hgone] at hr
  · rw [h.record?_of_ne heq] at hr
    exact hs.kept other key r hr

end transitions

/-! ### Declarations -/

/-- The empty store is sound. -/
theorem sound_empty : Sound {} where
  tables_nodup := List.nodup_nil
  rows_nodup _ := List.nodup_nil
  has_table _ h := by simp [declares, Assoc.has, Assoc.get?] at h
  kept _ _ _ h := by simp [record?, Store.rows, Assoc.get?] at h

/-- A declaration declares one entity set. -/
theorem Declared.declares {s s' : Store} {t : ObjectType} (h : Declared s s' t) {other : String}
    (hd : s'.declares other = true) : other = t.name ∨ s.declares other = true := by
  by_cases hne : other = t.name
  · exact .inl hne
  · rw [Store.declares, Assoc.has, h.types, Assoc.get?_set_of_ne _ _ hne] at hd
    exact .inr hd

/-- No entity set gets other records by a declaration. -/
theorem Declared.rows_eq {s s' : Store} {t : ObjectType} (h : Declared s s' t) (other : String) :
    s'.rows other = s.rows other := by
  rw [Store.rows, Store.rows]
  rcases h.tables with ⟨-, heq⟩ | hnew
  · rw [heq]
  -- a table that is new is empty, and before there was none
  · by_cases hne : other = t.name
    · rw [hne, hnew.get?_self, hnew.get?_old]
      rfl
    · rw [hnew.get?_of_ne hne]

/-- A declaration adds a table without records, if the entity set has none yet. -/
theorem Sound.of_declared {s s' : Store} {t : ObjectType} (hs : Sound s) (h : Declared s s' t) :
    Sound s' where
  tables_nodup := by
    rcases h.tables with ⟨-, heq⟩ | hnew
    · exact heq ▸ hs.tables_nodup
    · exact hnew.nodup hs.tables_nodup
  rows_nodup other := h.rows_eq other ▸ hs.rows_nodup other
  has_table other hd := by
    rw [Assoc.has, Option.isSome_iff_ne_none]
    by_cases hne : other = t.name
    · subst hne
      rcases h.tables with ⟨hhas, heq⟩ | hnew
      · rwa [heq, ← Option.isSome_iff_ne_none]
      · rw [hnew.get?_self]
        exact Option.some_ne_none _
    · -- other entity sets keep the tables they had
      have hold := hs.get?_tables ((h.declares hd).resolve_left hne)
      rcases h.tables with ⟨-, heq⟩ | hnew
      · rw [heq, hold]
        exact Option.some_ne_none _
      · rw [hnew.get?_of_ne hne, hold]
        exact Option.some_ne_none _
  kept other key r hr := by
    rw [record?, h.rows_eq] at hr
    exact h.lastStamp ▸ hs.kept other key r hr

/-! ## Writes -/

/-- The stamp that a write took: the reading of the clock in microseconds, the instant in
milliseconds and the text that stands for it in the record. -/
structure Stamping where
  reading : Int
  instant : Int
  text : String

/-- A write to a record of an entity set. -/
inductive Write where
  | inserted (set key : String) (data : Record) (stamping : Stamping)
  /-- A change of properties. One that finds no stamp fails, but the properties are changed. -/
  | changed (set key : String) (data : Record) (stamping : Option Stamping)
  | removed (set key : String)

/-- The stamp that a write took, if it took one. -/
def Write.stamping? : Write → Option Stamping
  | inserted _ _ _ stamping => some stamping
  | changed _ _ _ stamping => stamping
  | removed _ _ => none

/-- The stamp that the next write takes. -/
def taking (s : Store) : Stamping := ⟨s.clock.now, s.nextStamp, Time.stampText s.nextStamp⟩

/-- A step of a store, with the write that it is, if it is one. -/
inductive Step (s : Store) : List Write → Store → Prop where
  | same {s' : Store} (h : SameData s s') : Step s [] s'
  | declared {s' : Store} {t : ObjectType} (h : Declared s s' t) : Step s [] s'
  | inserted {s' : Store} {name id : String} {data : Record}
      (h : Added s s' name id (newRecord data id s.stamp)) (hstamp : s.stampFault? = none)
      (hlast : s'.lastStamp = some s.nextStamp) : Step s [.inserted name id data s.taking] s'
  | changed {s' : Store} {name id : String} {old data : Record}
      (h : Changed s s' name id old (changedRecord old data s.stamp))
      (hstamp : s.stampFault? = none) (hlast : s'.lastStamp = some s.nextStamp) :
      Step s [.changed name id data (some s.taking)] s'
  | merged {s' : Store} {name id : String} {old data : Record}
      (h : Changed s s' name id old (mergedRecord old data)) (hlast : s'.lastStamp = s.lastStamp) :
      Step s [.changed name id data none] s'
  | removed {s' : Store} {name id : String} {old : Record} (h : Removed s s' name id old)
      (hlast : s'.lastStamp = s.lastStamp) : Step s [.removed name id] s'

/-- A step takes the next stamp, which is the last one then, or none. -/
theorem Step.stamped {s s' : Store} {ws : List Write} (h : Step s ws s') :
    (ws.filterMap Write.stamping? = [] ∧ s'.lastStamp = s.lastStamp) ∨
      (ws.filterMap Write.stamping? = [s.taking] ∧ s.stampFault? = none ∧
        s'.lastStamp = some s.nextStamp) := by
  cases h with
  | same h => exact .inl ⟨rfl, h.lastStamp⟩
  | declared h => exact .inl ⟨rfl, h.lastStamp⟩
  | inserted _ hstamp hlast => exact .inr ⟨rfl, hstamp, hlast⟩
  | changed _ hstamp hlast => exact .inr ⟨rfl, hstamp, hlast⟩
  | merged _ hlast => exact .inl ⟨rfl, hlast⟩
  | removed _ hlast => exact .inl ⟨rfl, hlast⟩

/-- The store takes steps one after the other, which are the given writes. -/
inductive Evolves (s : Store) : List Write → Store → Prop where
  | refl : Evolves s [] s
  | step {ws ws' : List Write} {s' s'' : Store} (h : Evolves s ws s') (hstep : Step s' ws' s'') :
      Evolves s (ws ++ ws') s''

/-- Steps behind steps are steps. -/
theorem Evolves.trans {s s' s'' : Store} {ws ws' : List Write} (h : Evolves s ws s')
    (h' : Evolves s' ws' s'') : Evolves s (ws ++ ws') s'' := by
  -- by induction on the steps that come last
  induction h' with
  | refl =>
    rw [List.append_nil]
    exact h
  | step _ hstep ih =>
    rw [← List.append_assoc]
    exact ih.step hstep

theorem Step.evolves {s s' : Store} {ws : List Write} (h : Step s ws s') : Evolves s ws s' :=
  Evolves.refl.step h

/-- A step of a sound store leads to a sound store. -/
theorem Sound.of_step {s s' : Store} {ws : List Write} (hs : Sound s) (h : Step s ws s') :
    Sound s' := by
  -- one case for each kind of step
  cases h with
  | same h => exact hs.of_sameData h
  | declared h => exact hs.of_declared h
  | inserted h hstamp hlast => exact hs.of_added h hstamp hlast
  | changed h hstamp hlast =>
    refine hs.of_changed h (fun _ _ _ _ hk => hlast ▸ hk.later hstamp) ?_
    exact fun created updated hk => ⟨_, hlast ▸ hk.changed hstamp _⟩
  | merged h hlast =>
    refine hs.of_changed h (fun _ _ _ _ hk => hlast ▸ hk) ?_
    exact fun created updated hk => ⟨updated, hlast ▸ hk.merged _⟩
  | removed h hlast => exact hs.of_removed h hlast

/-- Where no record is, a step puts one only by an insertion. -/
theorem Step.record?_eq_none {s s' : Store} {ws : List Write} {name id : String} (h : Step s ws s')
    (hnone : s.record? name id = none)
    (hws : ∀ data stamping, .inserted name id data stamping ∉ ws) : s'.record? name id = none := by
  -- what is changed or removed was there before
  have hother {other key : String} {old : Record} (hold : s.record? other key = some old) :
      ¬ (name = other ∧ id = key) := by
    rintro ⟨rfl, rfl⟩
    simp [hnone] at hold
  cases h with
  | same h => rw [h.record?_eq, hnone]
  | declared h => rw [record?, h.rows_eq, ← record?, hnone]
  | @inserted _ other key data h =>
    rw [h.record?_of_ne, hnone]
    rintro ⟨rfl, rfl⟩
    exact hws data s.taking (.head _)
  | changed h => rw [h.record?_of_ne (hother h.rows.get?_old), hnone]
  | merged h => rw [h.record?_of_ne (hother h.rows.get?_old), hnone]
  | removed h => rw [h.record?_of_ne (hother h.rows.get?_old), hnone]

/-- So does any sequence of steps. -/
theorem Evolves.sound {s s' : Store} {ws : List Write} (h : Evolves s ws s') (hs : Sound s) :
    Sound s' := by
  induction h with
  | refl => exact hs
  | step _ hstep ih => exact ih.of_step hstep

/-! ## Operations -/

section operations

variable {w : World Store} (hs : Sound w.store)

/-- A declaration is a step that writes no record. -/
theorem step_declare (w : World Store) (t : ObjectType) :
    Step w.store [] ((Store.declare t).exec w).2.store := by
  rcases exec_declare t w with ⟨w', h, hdeclared⟩ | ⟨f, h⟩
  · rw [h]
    exact .declared hdeclared
  · rw [h]
    exact .same (.refl _)

include hs

/-- An insertion that succeeds is a write, and one that fails is none. -/
theorem Sound.step_insert (name : String) (data : Record) :
    (∃ id w', (Store.insert name data).exec w = (.ok (newRecord data id w.store.stamp), w') ∧
        Step w.store [.inserted name id data w.store.taking] w'.store) ∨
      ∃ f w', (Store.insert name data).exec w = (.error f, w') ∧ Step w.store [] w'.store := by
  rcases exec_insert name data w with ⟨id, w', h, hins⟩ | ⟨f, w', h, hsame⟩
  · exact .inl ⟨id, w', h, .inserted (hs.added hins) hins.stamped hins.lastStamp⟩
  · exact .inr ⟨f, w', h, .same hsame⟩

/-- An update is a write if there is a record, and changes nothing if there is none. -/
theorem Sound.step_update (name id : String) (data : Record) :
    (∃ old w', w.store.record? name id = some old ∧
        (Store.update name id data).exec w =
          (.ok (some (changedRecord old data w.store.stamp)), w') ∧
        Step w.store [.changed name id data (some w.store.taking)] w'.store) ∨
      (∃ fault w', (Store.update name id data).exec w = (.error (.noStamp fault), w') ∧
        Step w.store [.changed name id data none] w'.store) ∨
      (Store.update name id data).exec w = (.ok none, w) ∨
      (Store.update name id data).exec w = (.error (.unknownType name), w) := by
  cases hd : w.store.declares name with
  | false => exact .inr (.inr (.inr (exec_update_undeclared hd)))
  | true =>
    cases hr : w.store.record? name id with
    | none => exact .inr (.inr (.inl (exec_update_missing hd hr)))
    | some old =>
      -- a record is there, and the clock decides whether it gets a stamp
      cases hstamp : w.store.stampFault? with
      | none =>
        have hwritten : Changed w.store _ name id old (changedRecord old data w.store.stamp) ∧ _ :=
          hs.changedStamped hd hr rfl
        obtain ⟨hchanged, hlast⟩ := hwritten
        exact .inl ⟨old, _, rfl, exec_update_stamped hd hr hstamp, .changed hchanged hstamp hlast⟩
      | some fault =>
        obtain ⟨hchanged, hlast⟩ := hs.changedUnstamped hd hr data
        exact .inr (.inl ⟨fault, _, exec_update_unstamped hd hr hstamp, .merged hchanged hlast⟩)

/-- A removal is a write if there is a record, and changes nothing if there is none. -/
theorem Sound.step_delete (name id : String) :
    (∃ w', (Store.delete name id).exec w = (.ok true, w') ∧
        Step w.store [.removed name id] w'.store) ∨
      (Store.delete name id).exec w = (.ok false, w) ∨
      (Store.delete name id).exec w = (.error (.unknownType name), w) := by
  cases hd : w.store.declares name with
  | false => exact .inr (.inr (exec_delete_undeclared hd))
  | true =>
    cases hr : w.store.record? name id with
    | none => exact .inr (.inl (exec_delete_missing hd hr))
    | some old =>
      obtain ⟨hremoved, hlast⟩ := hs.removed hd hr rfl
      exact .inl ⟨_, exec_delete hd hr, .removed hremoved hlast⟩

end operations

end ODataService.Store
