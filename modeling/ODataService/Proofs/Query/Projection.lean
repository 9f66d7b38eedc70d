import ODataService.Proofs.Keyed
import ODataService.Query.Answer

/-!
# Projections

A projection and a change of a property that it passes can be made in either order, and a change of
a property that it drops makes no difference to it. There is no third kind (`passes_or_drops`).
-/

namespace ODataService

namespace Query

/-- A projection keeps a property. -/
def Keeps (fields : Option (List String)) (p : String) : Prop :=
  ∀ fs, fields = some fs → p ∈ fs ∨ p ∈ keyFields

theorem keeps_idField (fields : Option (List String)) : Keeps fields idField :=
  fun _ _ => .inr List.mem_cons_self

/-- A field that is added is kept. -/
theorem keeps_includeFields (fields : Option (List String)) {extra : List String} {p : String}
    (h : p ∈ extra) : Keeps (includeFields fields extra) p := by
  intro fs hfs
  obtain ⟨gs, -, rfl⟩ := Option.map_eq_some_iff.1 hfs
  refine .inl (List.mem_append.2 ?_)
  -- it was there before, or it is added behind
  by_cases hp : p ∈ gs
  · exact .inl hp
  · exact .inr (List.mem_filter.2 ⟨h, by simpa using hp⟩)

/-- Adding no fields changes nothing. -/
theorem includeFields_nil (fields : Option (List String)) : includeFields fields [] = fields := by
  cases fields with
  | none => rfl
  | some fs => exact congrArg some (List.append_nil fs)

/-- A projection is the filter of its properties, or it does nothing. -/
theorem project_eq (fields : Option (List String)) :
    (∀ r, project fields r = r) ∨
      ∃ keep : Scalar × Json → Bool, (∀ p, Keeps fields p → ∀ v, keep (.str p, v) = true) ∧
        ∀ r, project fields r = r.filter keep := by
  match fields with
  | none => exact .inl fun _ => rfl
  | some [] => exact .inl fun _ => rfl
  | some (f :: fs) =>
    refine .inr ⟨fun kv => kv.1.isAmong (f :: fs) || kv.1.isAmong keyFields, fun p hp v => ?_,
      fun _ => rfl⟩
    simpa [Scalar.isAmong, Bool.or_eq_true] using hp _ rfl

variable {fields : Option (List String)} {p : String}

/-- A property that is kept has its value after projecting. -/
theorem member_project (h : Keeps fields p) (r : Record) :
    Json.member (project fields r) p = Json.member r p := by
  rcases project_eq fields with hid | ⟨keep, hkeep, hfilter⟩
  · rw [hid]
  · rw [hfilter, Json.member, Keyed.get?_filter (hkeep p h), Json.member]

/-- A property that is kept may be set before projecting or after. -/
theorem project_set (h : Keeps fields p) (r : Record) (v : Json) :
    project fields (Keyed.set r p v) = Keyed.set (project fields r) p v := by
  rcases project_eq fields with hid | ⟨keep, hkeep, hfilter⟩
  · rw [hid, hid]
  · rw [hfilter, hfilter, Keyed.filter_set (hkeep p h)]

/-- A projection leaves a property as it is. -/
structure Passes (fields : Option (List String)) (p : String) : Prop where
  member : ∀ r, Json.member (project fields r) p = Json.member r p
  set : ∀ r v, project fields (Keyed.set r p v) = Keyed.set (project fields r) p v

/-- A projection leaves nothing of a property. -/
structure Drops (fields : Option (List String)) (p : String) : Prop where
  member : ∀ r, Json.member (project fields r) p = .null
  set : ∀ r v, project fields (Keyed.set r p v) = project fields r

/-- A property is passed on by a projection or dropped by it. -/
theorem passes_or_drops (fields : Option (List String)) (p : String) :
    Passes fields p ∨ Drops fields p := by
  match fields with
  | none => exact .inl ⟨fun _ => rfl, fun _ _ => rfl⟩
  | some [] => exact .inl ⟨fun _ => rfl, fun _ _ => rfl⟩
  | some (f :: fs) =>
    -- fields are selected: the property is one of them or a key, or it is left out
    by_cases hp : p ∈ f :: fs ∨ p ∈ keyFields
    · have hkeeps : Keeps (some (f :: fs)) p := by
        intro gs hgs
        exact Option.some.inj hgs ▸ hp
      exact .inl ⟨member_project hkeeps, project_set hkeeps⟩
    · have hdrop : ∀ v : Json, (Scalar.isAmong (.str p) (f :: fs) ||
          Scalar.isAmong (.str p) keyFields) = false := by
        intro _
        simpa [Scalar.isAmong, not_or, and_assoc] using hp
      refine .inr ⟨fun r => ?_, fun r v => Keyed.filter_set_of_dropped hdrop r v⟩
      have hnone : Keyed.get? (project (some (f :: fs)) r) p = none :=
        Keyed.get?_filter_of_dropped hdrop r
      rw [Json.member, hnone]
      rfl

/-- Projecting keeps the names of a map distinct. -/
theorem distinct_project {r : Record} (h : Keyed.Distinct r) (fields : Option (List String)) :
    Keyed.Distinct (project fields r) := by
  rcases project_eq fields with hid | ⟨keep, -, hfilter⟩
  · rw [hid]
    exact h
  · rw [hfilter]
    exact h.filter keep

/-- A property that is not there is not there after projecting. -/
theorem get?_project_of_none {r : Record} (h : Keyed.get? r p = none)
    (fields : Option (List String)) : Keyed.get? (project fields r) p = none := by
  rcases project_eq fields with hid | ⟨keep, -, hfilter⟩
  · rw [hid, h]
  · rw [hfilter]
    refine Keyed.get?_eq_none fun e he => ?_
    -- what is left was there before
    have hkey : e.1 ∈ Keyed.keys r := List.mem_map_of_mem (List.mem_filter.mp he).1
    exact Keyed.get?_eq_none_iff.mp h e.1 hkey

end Query

end ODataService
