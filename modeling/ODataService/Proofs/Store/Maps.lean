import ODataService.Proofs.Store.Calls

/-!
# Records without double keys

The members of a record are a list of entries, and a list may hold a key twice. What is stored does
not, if no object that a call brings does (`Store.maps_play`): the store puts records together by
storing one entry after the other.
-/

namespace ODataService

/-- No key occurs twice, if the value is an object. -/
def Json.IsMap : Json → Prop
  | .obj r => Keyed.Distinct r
  | _ => True

/-- The record that the members of a value make is a map. -/
theorem Json.IsMap.asData {v : Json} (h : v.IsMap) {r : Record} (hr : v.asData = .ok r) :
    Keyed.Distinct r := by
  unfold Json.asData at hr
  split at hr
  · next members =>
    obtain rfl : members = r := Except.ok.inj hr
    exact h
  · -- pairs are stored one after the other
    obtain ⟨pairs, -, rfl⟩ := map_eq_ok.mp hr
    exact Keyed.distinct_nil.merge pairs

namespace Store

variable {s s' : Store} {old data : Record}

/-! ## Records that are written -/

/-- What the store fills in has distinct names. -/
theorem distinct_systemMembers (id : String) (stamp : Json) :
    Keyed.Distinct (systemMembers id stamp) := by
  simp [Keyed.Distinct, systemMembers, Scalar.sameKey, Scalar.identity]

/-- A new record has distinct keys if the data have. -/
theorem distinct_newRecord (h : Keyed.Distinct data) (id : String) (stamp : Json) :
    Keyed.Distinct (newRecord data id stamp) := by
  refine List.pairwise_append.mpr ⟨h.filter _, distinct_systemMembers id stamp, ?_⟩
  intro e he f hf
  -- what the store fills in is none of the properties that the record has of its own
  have hfield : ∃ k ∈ systemFields, f.1 = .str k := by
    simp only [systemMembers, List.mem_cons, List.not_mem_nil, or_false] at hf
    rcases hf with rfl | rfl | rfl | rfl <;> exact ⟨_, by decide, rfl⟩
  obtain ⟨k, hk, hkey⟩ := hfield
  rw [hkey]
  exact Keyed.get?_eq_none_iff.mp (get?_ownFields hk data) e.1 (List.mem_map_of_mem he)

/-- A change keeps keys distinct, whatever the data are. -/
theorem distinct_changedRecord (h : Keyed.Distinct old) (data : Record) (stamp : Json) :
    Keyed.Distinct (changedRecord old data stamp) :=
  (h.merge (ownFields data)).set "updated_at" stamp

/-! ## Stores -/

/-- The stored records are maps. -/
def Maps (s : Store) : Prop :=
  ∀ name id r, s.record? name id = some r → Keyed.Distinct r

/-- A record that is inserted is a map. -/
def Write.GivesMap : Write → Prop
  | inserted _ _ data _ => Keyed.Distinct data
  | _ => True

/-- One record is different, if any. -/
theorem Maps.of_entry {set key : String} (hmaps : Maps s)
    (hother : ∀ name id, ¬ (name = set ∧ id = key) → s'.record? name id = s.record? name id)
    (hentry : ∀ r, s'.record? set key = some r → Keyed.Distinct r) : Maps s' := by
  intro name id r hr
  by_cases heq : name = set ∧ id = key
  · obtain ⟨rfl, rfl⟩ := heq
    exact hentry r hr
  · rw [hother name id heq] at hr
    exact hmaps name id r hr

/-- A step of a store of maps leads to a store of maps, if what it inserts is one. -/
theorem Maps.of_step {ws : List Write} (hmaps : Maps s) (hstep : Step s ws s')
    (hws : ∀ u ∈ ws, u.GivesMap) : Maps s' := by
  -- one case for each kind of step; only one that writes has a record to look at
  cases hstep with
  | same h =>
    intro name id r hr
    rw [h.record?_eq] at hr
    exact hmaps name id r hr
  | declared h =>
    intro name id r hr
    rw [record?, h.rows_eq] at hr
    exact hmaps name id r hr
  | inserted h =>
    refine hmaps.of_entry (fun _ _ hne => h.record?_of_ne hne) ?_
    intro r hr
    rw [← Option.some.inj (h.rows.get?_self.symm.trans hr)]
    exact distinct_newRecord (hws _ List.mem_cons_self) _ s.stamp
  | changed h =>
    refine hmaps.of_entry (fun _ _ hne => h.record?_of_ne hne) ?_
    intro r hr
    rw [← Option.some.inj (h.rows.get?_self.symm.trans hr)]
    exact distinct_changedRecord (hmaps _ _ _ h.rows.get?_old) _ s.stamp
  | merged h =>
    refine hmaps.of_entry (fun _ _ hne => h.record?_of_ne hne) ?_
    intro r hr
    rw [← Option.some.inj (h.rows.get?_self.symm.trans hr)]
    exact (hmaps _ _ _ h.rows.get?_old).merge (ownFields _)
  | removed h =>
    refine hmaps.of_entry (fun _ _ hne => h.record?_of_ne hne) ?_
    intro r hr
    -- the record is gone
    exact absurd (h.rows.get?_self.symm.trans hr) (by simp)

/-- So does any sequence of steps. -/
theorem Maps.evolves {ws : List Write} (hmaps : Maps s) (h : Evolves s ws s')
    (hws : ∀ u ∈ ws, u.GivesMap) : Maps s' := by
  induction h with
  | refl => exact hmaps
  | step _ hstep ih =>
    obtain ⟨hfirst, hlast⟩ := List.forall_mem_append.mp hws
    exact (ih hfirst).of_step hstep hlast

/-! ## Runs -/

/-- The values that a call inserts are maps, if they are objects. -/
def Call.GivesMaps : Call → Prop
  | seed _ rows _ => ∀ items, rows.asItems = .ok items → ∀ v ∈ items, v.IsMap
  | create _ data _ => data.IsMap
  | _ => True

/-- What is inserted from a map is a map. -/
theorem givesMap_insertion {name data : Json} (h : data.IsMap) (clock : Clock) (r : Record)
    (w : World Store) : (insertion name data clock r w).GivesMap := by
  show Keyed.Distinct (data.asData.toOption.getD [])
  cases hdata : data.asData with
  | ok members => exact h.asData hdata
  | error fault => exact Keyed.distinct_nil

/-- A seeding from maps inserts maps. -/
theorem givesMap_seedWrites {name : Json} {items : List Json} (h : ∀ v ∈ items, v.IsMap)
    (clocks : Nat → Clock) (w : World Store) :
    ∀ u ∈ seedWrites name items clocks w, u.GivesMap := by
  induction items generalizing clocks w with
  | nil => simp [seedWrites]
  | cons v vs ih =>
    obtain ⟨hfirst, hrest⟩ := List.forall_mem_cons.mp h
    rw [seedWrites]
    split
    · next r w' _ =>
      rw [List.forall_mem_cons]
      exact ⟨givesMap_insertion hfirst (clocks 0) r w', ih hrest _ w'⟩
    · simp

/-- Calls that bring maps write maps. -/
theorem Call.GivesMaps.writes {c : Call} (h : c.GivesMaps) (w : World Store) :
    ∀ u ∈ c.writes w, u.GivesMap := by
  cases c with
  | seed name rows clocks =>
    rw [Call.writes]
    split
    · next items hitems => exact givesMap_seedWrites (h items hitems) clocks w
    · simp
  | create name data clock =>
    rw [Call.writes]
    split
    · next r w' _ => simpa using givesMap_insertion h clock r w'
    · simp
  | update name id data clock =>
    rw [Call.writes]
    split <;> simp [changeOf, Write.GivesMap]
  | delete name id =>
    rw [Call.writes]
    split <;> simp [Write.GivesMap]
  | register t => simp [Call.writes]
  | find name q => simp [Call.writes]
  | get name id => simp [Call.writes]
  | count name q => simp [Call.writes]

/-- So do runs of such calls. -/
theorem givesMap_history {calls : List Call} (h : ∀ c ∈ calls, c.GivesMaps) (w : World Store) :
    ∀ u ∈ history w calls, u.GivesMap := by
  induction calls generalizing w with
  | nil => simp [history]
  | cons c cs ih =>
    obtain ⟨hfirst, hrest⟩ := List.forall_mem_cons.mp h
    rw [history, List.forall_mem_append]
    exact ⟨hfirst.writes w, ih hrest _⟩

/-- After any run of calls that bring maps the stored records are maps. -/
theorem maps_play {calls : List Call} (h : ∀ c ∈ calls, c.GivesMaps) :
    Maps (play blank calls).store := by
  have hempty : Maps {} := by
    intro name id r hr
    simp [record?, Store.rows, Assoc.get?] at hr
  exact hempty.evolves (evolves_run calls) (givesMap_history h blank)

end Store

end ODataService
