import ODataService.Proofs.Store.Steps

/-!
# The history of a store

A store in memory is what its writes make of it (`Evolves.rows_eq`). The records of an entity set
are the insertions that no removal of the same record follows, in the order of insertion (`lives`),
and a record is what was inserted, overridden in order by all that it was changed to since
(`Life.record`).
-/

namespace ODataService.Store

/-- A change of properties, with the stamp that it took. -/
structure Change where
  data : Record
  stamping : Option Stamping

/-- A record from its insertion on, with all changes since. -/
structure Life where
  data : Record
  birth : Stamping
  changes : List Change

namespace Write

def removes (set key : String) : Write → Bool
  | removed s k => s = set && k = key
  | _ => false

/-- The change of a record that a write is. -/
def change? (set key : String) : Write → Option Change
  | changed s k data stamping => if s = set ∧ k = key then some ⟨data, stamping⟩ else none
  | _ => none

/-- A write does nothing to a record that is there. -/
def Leaves (u : Write) (set key : String) : Prop :=
  u.removes set key = false ∧ u.change? set key = none

variable {set key : String} {data : Record} {stamping : Stamping} {stamping? : Option Stamping}

theorem leaves_inserted (s k : String) : (inserted s k data stamping).Leaves set key := ⟨rfl, rfl⟩

theorem leaves_changed {s k : String} (h : ¬ (s = set ∧ k = key)) :
    (changed s k data stamping?).Leaves set key := ⟨rfl, if_neg h⟩

/-- A removal of another record leaves this one. -/
theorem leaves_removed {s k : String} (h : ¬ (s = set ∧ k = key)) :
    (removed s k).Leaves set key := by
  refine ⟨?_, rfl⟩
  rw [removes, Bool.eq_false_iff, Ne, Bool.and_eq_true, decide_eq_true_eq, decide_eq_true_eq]
  exact h

end Write

/-- A record with the properties of others, in order, but for those that the store fills in. -/
def overridden (r : Record) (datas : List Record) : Record :=
  datas.foldl (fun r data => Keyed.merge r (ownFields data)) r

namespace Life

/-- The stamp of the last write to a record. -/
def written (l : Life) : Stamping := (l.changes.filterMap (·.stamping)).getLast?.getD l.birth

/-- What the store fills in: the identifier, and the stamps of the insertion and of the last
write. -/
def filledIn (key : String) (birth written : Stamping) : Record :=
  [("_id", .str key), ("id", .str key), ("created_at", .str birth.text),
    ("updated_at", .str written.text)]

/-- What a record is: the properties with which it was inserted, overridden in order by those that
it was changed to, and what the store fills in. -/
def record (key : String) (l : Life) : Record :=
  overridden (ownFields l.data ++ filledIn key l.birth l.written) (l.changes.map (·.data))

/-- A record after one more change. -/
def changed (l : Life) (c : Change) : Life := { l with changes := l.changes ++ [c] }

/-- What becomes of a record by further writes; it ends when one of them removes it. -/
def after (set key : String) (l : Life) (later : List Write) : Option Life :=
  if later.any (·.removes set key) then none
  else some { l with changes := l.changes ++ later.filterMap (·.change? set key) }

end Life

/-- What becomes of an entry of an entity set by further writes. -/
def Life.entryAfter (set : String) (later : List Write) (e : String × Life) :
    Option (String × Life) :=
  (e.2.after set e.1 later).map (e.1, ·)

/-- The records of an entity set at the end of a history: the insertions that no removal follows,
in order. -/
def lives (set : String) : List Write → Assoc Life
  | [] => []
  | .inserted s key data stamping :: later =>
    if s = set then
      match Life.after set key ⟨data, stamping, []⟩ later with
      | some l => (key, l) :: lives set later
      | none => lives set later
    else lives set later
  | _ :: later => lives set later

/-- The entry of a record in its table. -/
def Life.entry (e : String × Life) : String × Record := (e.1, e.2.record e.1)

/-- The table that a history makes. -/
def recorded (set : String) (ws : List Write) : Table := (lives set ws).map Life.entry

/-- An insertion of a record is followed by no removal of it, and by the changes of `l`. -/
def Alive (set key : String) (ws : List Write) (l : Life) : Prop :=
  ∃ before data stamping later, ws = before ++ .inserted set key data stamping :: later ∧
    (∀ u ∈ later, u.removes set key = false) ∧
    l = ⟨data, stamping, later.filterMap (·.change? set key)⟩

/-! ## Records and what becomes of them -/

section lives

variable {set key : String} {l : Life} {ws us : List Write}

/-- What becomes of a record by writes and further writes comes about one after the other. -/
theorem Life.after_append (l : Life) (ws us : List Write) :
    l.after set key (ws ++ us) = (l.after set key ws).bind (·.after set key us) := by
  unfold after
  rw [List.any_append, List.filterMap_append]
  -- a record that is removed by the first writes stays removed
  cases ws.any (·.removes set key) with
  | true => simp
  | false => simp [List.append_assoc]

/-- A write that leaves the record leaves its life as it is. -/
theorem Life.after_of_leaves {u : Write} (h : u.Leaves set key) (l : Life) :
    l.after set key [u] = some l := by
  obtain ⟨hremoves, hchange⟩ := h
  simp [after, hremoves, hchange]

/-- A record lives on if no write removes it, and it has changed by those that change it. -/
theorem Life.after_eq_some_iff {l' : Life} :
    Life.after set key l us = some l' ↔ (∀ u ∈ us, u.removes set key = false) ∧
      l' = { l with changes := l.changes ++ us.filterMap (·.change? set key) } := by
  unfold after
  split
  · next hany =>
    obtain ⟨u, hu, hremoves⟩ := List.any_eq_true.mp hany
    refine ⟨fun h => by simp at h, fun h => ?_⟩
    rw [h.1 u hu] at hremoves
    contradiction
  · next hany =>
    have hnone : ∀ u ∈ us, u.removes set key = false := by simpa using hany
    rw [Option.some.injEq, eq_comm (b := l')]
    exact ⟨fun h => ⟨hnone, h⟩, fun h => h.2⟩

/-- Further writes go through the records one by one, and add their own. -/
theorem lives_append (set : String) (ws us : List Write) :
    lives set (ws ++ us) =
      (lives set ws).filterMap (Life.entryAfter set us) ++ lives set us := by
  induction ws with
  | nil => rfl
  | cons w ws ih =>
    -- only an insertion puts a record there, and the writes behind it go on with it
    rw [List.cons_append]
    cases w with
    | inserted s key data stamping =>
      rw [lives, lives]
      split
      · rw [Life.after_append]
        cases Life.after set key ⟨data, stamping, []⟩ ws with
        | none => exact ih
        | some l =>
          rw [Option.bind_some, List.filterMap_cons, Life.entryAfter]
          cases l.after set key us with
          | none => exact ih
          | some l' => exact congrArg (List.cons (key, l')) ih
      · exact ih
    | changed s key data stamping => exact ih
    | removed s key => exact ih

/-- A record lives by the first write or by one behind it. -/
theorem alive_cons_iff {w : Write} :
    Alive set key (w :: ws) l ↔
      (∃ data stamping, w = .inserted set key data stamping ∧
        Life.after set key ⟨data, stamping, []⟩ ws = some l) ∨ Alive set key ws l := by
  constructor
  · rintro ⟨before, data, stamping, later, hws, hlater, hl⟩
    cases before with
    | nil =>
      obtain ⟨rfl, rfl⟩ := List.cons.inj hws
      exact .inl ⟨data, stamping, rfl, Life.after_eq_some_iff.mpr ⟨hlater, hl⟩⟩
    | cons u before =>
      obtain ⟨-, rfl⟩ := List.cons.inj hws
      exact .inr ⟨before, data, stamping, later, rfl, hlater, hl⟩
  · rintro (⟨data, stamping, rfl, hafter⟩ | ⟨before, data, stamping, later, rfl, hlater, hl⟩)
    · obtain ⟨hlater, hl⟩ := Life.after_eq_some_iff.mp hafter
      exact ⟨[], data, stamping, ws, rfl, hlater, hl⟩
    · exact ⟨w :: before, data, stamping, later, rfl, hlater, hl⟩

/-- Behind an insertion the records are those that were there, and the new one if it lives. -/
theorem mem_lives_inserted_iff {s k : String} {data : Record} {stamping : Stamping} :
    (key, l) ∈ lives set (.inserted s k data stamping :: ws) ↔
      (s = set ∧ k = key ∧ Life.after set key ⟨data, stamping, []⟩ ws = some l) ∨
        (key, l) ∈ lives set ws := by
  rw [lives]
  split
  · next hs =>
    -- the new record is removed again, or it is the first in the list
    cases hafter : Life.after set k ⟨data, stamping, []⟩ ws with
    | none =>
      refine ⟨.inr, fun h => h.resolve_left ?_⟩
      rintro ⟨-, rfl, h⟩
      rw [hafter] at h
      contradiction
    | some l' =>
      rw [List.mem_cons, Prod.mk.injEq]
      refine or_congr_left ⟨?_, ?_⟩
      · rintro ⟨rfl, rfl⟩
        exact ⟨hs, rfl, hafter⟩
      · rintro ⟨-, rfl, h⟩
        rw [hafter] at h
        exact ⟨rfl, (Option.some.inj h).symm⟩
  · next hs => exact ⟨.inr, fun h => h.resolve_left fun h => hs h.1⟩

/-- The records of an entity set are those that live. -/
theorem mem_lives_iff : (key, l) ∈ lives set ws ↔ Alive set key ws l := by
  induction ws with
  | nil =>
    refine ⟨fun h => absurd h List.not_mem_nil, ?_⟩
    rintro ⟨before, data, stamping, later, hws, -, -⟩
    exact absurd hws.symm (by simp)
  | cons w ws ih =>
    -- a write that inserts nothing makes no record live
    rw [alive_cons_iff, ← ih]
    cases w with
    | inserted s k data stamping =>
      rw [mem_lives_inserted_iff]
      refine or_congr_left ⟨?_, ?_⟩
      · rintro ⟨rfl, rfl, hafter⟩
        exact ⟨data, stamping, rfl, hafter⟩
      · rintro ⟨data', stamping', heq, hafter⟩
        obtain ⟨rfl, rfl, rfl, rfl⟩ := Write.inserted.inj heq
        exact ⟨rfl, rfl, hafter⟩
    | changed s k data stamping => exact ⟨.inr, fun h => h.resolve_left (by simp)⟩
    | removed s k => exact ⟨.inr, fun h => h.resolve_left (by simp)⟩

end lives

/-! ## Records -/

namespace Life

variable {key : String} {l : Life} {data : Record} {stamping : Stamping}

/-- The time of the last write may be filled in before the properties are overridden or after. -/
theorem set_overridden {r : Record} (hr : Keyed.get? r "updated_at" ≠ none) (datas : List Record)
    (v : Json) :
    Keyed.set (overridden r datas) "updated_at" v =
      overridden (Keyed.set r "updated_at" v) datas := by
  induction datas generalizing r with
  | nil => rfl
  | cons data datas ih =>
    have hown : Keyed.get? (ownFields data) "updated_at" = none := get?_ownFields (by decide) data
    have hmerged : Keyed.get? (Keyed.merge r (ownFields data)) "updated_at" ≠ none := by
      rwa [Keyed.get?_merge_of_none hown]
    rw [overridden, overridden, List.foldl_cons, List.foldl_cons, ← Keyed.set_merge_comm hown hr]
    exact ih hmerged

/-- A change of properties is the last one in the order of overriding. -/
theorem mergedRecord_record (key : String) (l : Life) (data : Record) :
    mergedRecord (l.record key) data =
      overridden (ownFields l.data ++ filledIn key l.birth l.written)
        (l.changes.map (·.data) ++ [data]) := by
  rw [record, overridden, overridden, List.foldl_append]
  rfl

/-- A change without a stamp changes the properties only. -/
theorem record_merged (key : String) (l : Life) (data : Record) :
    (l.changed ⟨data, none⟩).record key = mergedRecord (l.record key) data := by
  have hwritten : (l.changed ⟨data, none⟩).written = l.written := by simp [written, changed]
  rw [mergedRecord_record, record, hwritten, changed, List.map_append]
  rfl

/-- A change with a stamp changes the properties and the time of the last write. -/
theorem record_changed (key : String) (l : Life) (data : Record) (s : Store) :
    (l.changed ⟨data, some s.taking⟩).record key = changedRecord (l.record key) data s.stamp := by
  have hwritten : (l.changed ⟨data, some s.taking⟩).written = s.taking := by
    simp [written, changed]
  have hown := get?_ownFields (k := "updated_at") (by decide) l.data
  have hpresent : Keyed.get? (ownFields l.data ++ filledIn key l.birth l.written) "updated_at" ≠
      none := by
    rw [Keyed.get?_append_of_none hown]
    exact Option.some_ne_none _
  -- filled in first, the new time stands where the old one stood
  rw [changedRecord, mergedRecord_record, set_overridden hpresent, Keyed.set_append_of_none hown,
    record, hwritten, changed, List.map_append]
  rfl

end Life

/-! ## Tables -/

section tables

variable {s s' : Store} {ws us : List Write} {set key : String} {u : Write}

/-- A write to another record leaves an entry where it is. -/
theorem filterMap_entryAfter {m : Assoc Life} (h : ∀ key ∈ Assoc.keys m, u.Leaves set key) :
    m.filterMap (Life.entryAfter set [u]) = m := by
  have hsome : ∀ e ∈ m, Life.entryAfter set [u] e = some e := by
    intro e he
    have hleaves := h e.1 (List.mem_map_of_mem he)
    rw [Life.entryAfter, Life.after_of_leaves hleaves]
    rfl
  rw [List.filterMap_congr hsome, List.filterMap_some]

/-- A write that leaves all records adds those that it inserts. -/
theorem lives_append_of_leaves (h : ∀ key, u.Leaves set key) (ws : List Write) :
    lives set (ws ++ [u]) = lives set ws ++ lives set [u] := by
  rw [lives_append, filterMap_entryAfter fun key _ => h key]

/-- An insertion puts a record behind all others. -/
theorem recorded_inserted (set key : String) (data : Record) (s : Store) (ws : List Write) :
    recorded set (ws ++ [.inserted set key data s.taking]) =
      recorded set ws ++ [(key, newRecord data key s.stamp)] := by
  have hnew : lives set [.inserted set key data s.taking] = [(key, ⟨data, s.taking, []⟩)] := by
    rw [lives, if_pos rfl]
    rfl
  rw [recorded, lives_append_of_leaves fun k => Write.leaves_inserted set key, hnew,
    List.map_append]
  rfl

/-- What is written to one entity set changes no other one. -/
theorem recorded_of_leaves (h : ∀ key, u.Leaves set key) (hnone : lives set [u] = [])
    (ws : List Write) : recorded set (ws ++ [u]) = recorded set ws := by
  rw [recorded, lives_append_of_leaves h, hnone, List.append_nil, recorded]

/-- The keys of the table are those of the records that live. -/
theorem keys_map_entry (m : Assoc Life) : Assoc.keys (m.map Life.entry) = Assoc.keys m := by
  rw [Assoc.keys, List.map_map]
  rfl

/-- An entry of the table that a history makes is one of a record that lives. -/
theorem exists_lives_of_recorded {before behind : Table} {r : Record}
    (h : recorded set ws = before ++ (key, r) :: behind) :
    ∃ front l rear, lives set ws = front ++ (key, l) :: rear ∧ r = l.record key ∧
      before = front.map Life.entry ∧ behind = rear.map Life.entry := by
  obtain ⟨front, rest, hlives, hfront, hrest⟩ := List.map_eq_append_iff.mp h
  obtain ⟨⟨k, l⟩, rear, rfl, hentry, hrear⟩ := List.map_eq_cons_iff.mp hrest
  obtain ⟨rfl, rfl⟩ := Prod.mk.inj hentry
  exact ⟨front, l, rear, hlives, rfl, hfront.symm, hrear.symm⟩

/-- A write to one record changes its entry, or takes it out, and leaves all others. -/
theorem recorded_of_entry {before behind : Table} {r : Record}
    (h : recorded set ws = before ++ (key, r) :: behind) (hbefore : key ∉ Assoc.keys before)
    (hbehind : key ∉ Assoc.keys behind) (hleaves : ∀ k, k ≠ key → u.Leaves set k)
    (hnone : lives set [u] = []) :
    ∃ l : Life, r = l.record key ∧ recorded set (ws ++ [u]) =
      before ++ ((l.after set key [u]).map fun l => (key, l.record key)).toList ++ behind := by
  obtain ⟨front, l, rear, hlives, rfl, rfl, rfl⟩ := exists_lives_of_recorded h
  rw [keys_map_entry] at hbefore hbehind
  -- no other entry of the table has the key, so the write leaves all of them
  have hfront : front.filterMap (Life.entryAfter set [u]) = front :=
    filterMap_entryAfter fun k hk => hleaves k fun heq => hbefore (heq ▸ hk)
  have hrear : rear.filterMap (Life.entryAfter set [u]) = rear :=
    filterMap_entryAfter fun k hk => hleaves k fun heq => hbehind (heq ▸ hk)
  refine ⟨l, rfl, ?_⟩
  rw [recorded, lives_append, hlives, hnone, List.append_nil, List.filterMap_append,
    List.filterMap_cons, hfront, hrear, Life.entryAfter]
  cases l.after set key [u] with
  | none => simp
  | some l' => simp [Life.entry]

/-- Adding a record makes of the tables what the insertion makes of them. -/
theorem rows_eq_of_inserted {name : String} {data : Record}
    (h : Added s s' name key (newRecord data key s.stamp))
    (hrows : ∀ set, s.rows set = recorded set ws) (set : String) :
    s'.rows set = recorded set (ws ++ [.inserted name key data s.taking]) := by
  -- the table itself gets one more record, and the others are left
  by_cases hset : set = name
  · subst hset
    obtain ⟨-, hnew⟩ := h.rows
    rw [hnew, hrows, recorded_inserted]
  · have hnone : lives set [.inserted name key data s.taking] = [] := by
      rw [lives, if_neg (Ne.symm hset)]
      rfl
    rw [h.rows_of_ne hset, hrows,
      recorded_of_leaves (fun k => Write.leaves_inserted name key) hnone]

/-- Replacing a record makes of the tables what the change makes of them. -/
theorem rows_eq_of_changed {name : String} {old new data : Record} {stamping : Option Stamping}
    (h : Changed s s' name key old new) (hrows : ∀ set, s.rows set = recorded set ws)
    (hrecord : ∀ l : Life, l.record key = old → (l.changed ⟨data, stamping⟩).record key = new)
    (set : String) : s'.rows set = recorded set (ws ++ [.changed name key data stamping]) := by
  by_cases hset : set = name
  · subst hset
    obtain ⟨before, behind, hold, hnew, hbefore, hbehind⟩ := h.rows
    rw [hrows] at hold
    have hleaves : ∀ k, k ≠ key → (Write.changed set key data stamping).Leaves set k :=
      fun k hk => Write.leaves_changed fun heq => hk heq.2.symm
    obtain ⟨l, hl, hrecorded⟩ := recorded_of_entry hold hbefore hbehind hleaves rfl
    -- the record lives on with one more change
    have hafter : l.after set key [.changed set key data stamping] =
        some (l.changed ⟨data, stamping⟩) := by
      simp [Life.after, Write.removes, Write.change?, Life.changed]
    rw [hrecorded, hafter, hnew, Option.map_some, hrecord l hl.symm]
    simp
  · have hleaves : ∀ k, (Write.changed name key data stamping).Leaves set k :=
      fun k => Write.leaves_changed fun heq => hset heq.1.symm
    rw [h.rows_of_ne hset, hrows, recorded_of_leaves hleaves rfl]

/-- Taking a record out makes of the tables what the removal makes of them. -/
theorem rows_eq_of_removed {name : String} {old : Record} (h : Removed s s' name key old)
    (hrows : ∀ set, s.rows set = recorded set ws) (set : String) :
    s'.rows set = recorded set (ws ++ [.removed name key]) := by
  by_cases hset : set = name
  · subst hset
    obtain ⟨before, behind, hold, hnew, hbefore, hbehind⟩ := h.rows
    rw [hrows] at hold
    have hleaves : ∀ k, k ≠ key → (Write.removed set key).Leaves set k :=
      fun k hk => Write.leaves_removed fun heq => hk heq.2.symm
    obtain ⟨l, -, hrecorded⟩ := recorded_of_entry hold hbefore hbehind hleaves rfl
    -- the record does not live on
    have hafter : l.after set key [.removed set key] = none := by
      simp [Life.after, Write.removes]
    rw [hrecorded, hafter, hnew]
    simp
  · have hleaves : ∀ k, (Write.removed name key).Leaves set k :=
      fun k => Write.leaves_removed fun heq => hset heq.1.symm
    rw [h.rows_of_ne hset, hrows, recorded_of_leaves hleaves rfl]

/-- A step makes of a table what its write makes of it. -/
theorem Step.rows_eq (h : Step s us s') (hrows : ∀ set, s.rows set = recorded set ws)
    (set : String) : s'.rows set = recorded set (ws ++ us) := by
  cases h with
  | same h =>
    rw [List.append_nil, Store.rows, h.tables]
    exact hrows set
  | declared h => rw [List.append_nil, h.rows_eq, hrows]
  | inserted h _ _ => exact rows_eq_of_inserted h hrows set
  | changed h _ _ =>
    refine rows_eq_of_changed h hrows (fun l hl => ?_) set
    rw [Life.record_changed, hl]
  | merged h _ =>
    refine rows_eq_of_changed h hrows (fun l hl => ?_) set
    rw [Life.record_merged, hl]
  | removed h _ => exact rows_eq_of_removed h hrows set

/-- The tables of a store are what its history makes. -/
theorem Evolves.rows_eq (h : Evolves {} ws s) (set : String) : s.rows set = recorded set ws := by
  induction h generalizing set with
  | refl => rfl
  | step _ hstep ih => exact hstep.rows_eq ih set

/-- A record that lives is found as its life tells. -/
theorem Evolves.record?_of_alive {l : Life} (h : Evolves {} ws s) (halive : Alive set key ws l) :
    s.record? set key = some (l.record key) := by
  have hnodup := (h.sound sound_empty).rows_nodup set
  have hmem : (key, l.record key) ∈ s.rows set := by
    rw [h.rows_eq]
    exact List.mem_map_of_mem (f := Life.entry) (mem_lives_iff.mpr halive)
  exact Assoc.get?_of_mem hnodup hmem

/-- Where no record lives, none is found. -/
theorem Evolves.record?_of_not_alive (h : Evolves {} ws s) (hdead : ∀ l, ¬ Alive set key ws l) :
    s.record? set key = none := by
  rw [record?, Assoc.get?_eq_none_iff, h.rows_eq, recorded, keys_map_entry]
  intro hkey
  obtain ⟨⟨k, l⟩, hmem, rfl⟩ := List.mem_map.mp hkey
  exact hdead l (mem_lives_iff.mp hmem)

end tables

/-! ## Other records -/

/-- Whether a write is one to a record. -/
def Write.Concerns (set key : String) : Write → Prop
  | inserted s k _ _ => s = set ∧ k = key
  | changed s k _ _ => s = set ∧ k = key
  | removed s k => s = set ∧ k = key

/-- A step that writes nothing to a record leaves it as it is. -/
theorem Step.record?_eq {s s' : Store} {us : List Write} {set key : String} (h : Step s us s')
    (hother : ∀ u ∈ us, ¬ u.Concerns set key) : s'.record? set key = s.record? set key := by
  have hne : ∀ {name id : String}, ¬ (name = set ∧ id = key) → ¬ (set = name ∧ key = id) :=
    fun hne heq => hne ⟨heq.1.symm, heq.2.symm⟩
  cases h with
  | same h => exact h.record?_eq set key
  | declared h => rw [record?, h.rows_eq, record?]
  | inserted h _ _ => exact h.record?_of_ne (hne (hother _ List.mem_cons_self))
  | changed h _ _ => exact h.record?_of_ne (hne (hother _ List.mem_cons_self))
  | merged h _ => exact h.record?_of_ne (hne (hother _ List.mem_cons_self))
  | removed h _ => exact h.record?_of_ne (hne (hother _ List.mem_cons_self))

/-- A record is changed by writes to it only. -/
theorem Evolves.record?_eq {s s' : Store} {us : List Write} {set key : String}
    (h : Evolves s us s') (hother : ∀ u ∈ us, ¬ u.Concerns set key) :
    s'.record? set key = s.record? set key := by
  induction h with
  | refl => rfl
  | step _ hstep ih =>
    rw [hstep.record?_eq fun u hu => hother u (List.mem_append_right _ hu)]
    exact ih fun u hu => hother u (List.mem_append_left _ hu)

end ODataService.Store
