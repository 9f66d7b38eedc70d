import Mathlib.Data.List.Nodup
import ODataService.Assoc

/-!
# Changes of maps in insertion order

What storing and erasing do to the entries of an `Assoc` as a list. Three relations between a map
and the map after a change say it exactly: an entry was put behind the others (`Appends`), the value
of one entry was replaced (`Replaces`), or one entry was taken out (`Removes`). All other entries
stay as they are and where they are.
-/

namespace ODataService.Assoc

variable {α : Type}

/-- `n` is `m` with a value under a new key behind all others. -/
def Appends (m n : Assoc α) (k : String) (v : α) : Prop := k ∉ keys m ∧ n = m ++ [(k, v)]

/-- `n` is `m` with the value `w` in the place of `v` under the key `k`, and `k` is the key of no
other entry. -/
def Replaces (m n : Assoc α) (k : String) (v w : α) : Prop :=
  ∃ before behind, m = before ++ (k, v) :: behind ∧ n = before ++ (k, w) :: behind ∧
    k ∉ keys before ∧ k ∉ keys behind

/-- `n` is `m` without the entry of the key `k`, which was the only one. -/
def Removes (m n : Assoc α) (k : String) (v : α) : Prop :=
  ∃ before behind, m = before ++ (k, v) :: behind ∧ n = before ++ behind ∧
    k ∉ keys before ∧ k ∉ keys behind

theorem keys_cons (k : String) (v : α) (m : Assoc α) : keys ((k, v) :: m) = k :: keys m := rfl

theorem keys_append (m n : Assoc α) : keys (m ++ n) = keys m ++ keys n := List.map_append

/-! ## Looking up -/

/-- Nothing is found exactly under the keys that no entry has. -/
theorem get?_eq_none_iff {m : Assoc α} {k : String} : get? m k = none ↔ k ∉ keys m := by
  induction m with
  | nil => simp [get?, keys]
  | cons e m ih =>
    obtain ⟨l, v⟩ := e
    rw [keys_cons, List.mem_cons, get?]
    split
    · next h => simp [h]
    · next h => simp [ih, Ne.symm h]

theorem has_eq_true_iff {m : Assoc α} {k : String} : has m k = true ↔ k ∈ keys m := by
  rw [has, Option.isSome_iff_ne_none, Ne, get?_eq_none_iff, not_not]

theorem has_eq_false_iff {m : Assoc α} {k : String} : has m k = false ↔ k ∉ keys m := by
  rw [← has_eq_true_iff, Bool.not_eq_true]

/-- What is found stands in the map. -/
theorem mem_of_get? {m : Assoc α} {k : String} {v : α} (h : get? m k = some v) : (k, v) ∈ m := by
  induction m with
  | nil => simp [get?] at h
  | cons e m ih =>
    obtain ⟨l, w⟩ := e
    rw [get?] at h
    split at h
    · next hl =>
      obtain rfl := Option.some.inj h
      exact hl ▸ List.mem_cons_self
    · exact List.mem_cons_of_mem _ (ih h)

/-- Entries of other keys in front do not hide what stands behind. -/
theorem get?_append_of_not_mem {m : Assoc α} {k : String} (h : k ∉ keys m) (n : Assoc α) :
    get? (m ++ n) k = get? n k := by
  induction m with
  | nil => rfl
  | cons e m ih =>
    obtain ⟨l, v⟩ := e
    rw [keys_cons, List.mem_cons, not_or] at h
    rw [List.cons_append, get?, if_neg (Ne.symm h.1), ih h.2]

/-- Entries of other keys do not matter. -/
theorem get?_append_congr {m n n' : Assoc α} {k : String} (h : get? n k = get? n' k) :
    get? (m ++ n) k = get? (m ++ n') k := by
  induction m with
  | nil => exact h
  | cons e m ih => rw [List.cons_append, List.cons_append, get?, get?, ih]

theorem get?_cons_self (k : String) (v : α) (m : Assoc α) : get? ((k, v) :: m) k = some v := by
  rw [get?, if_pos rfl]

/-- The first entry is passed over when another key is asked for. -/
theorem get?_cons_of_ne {k l : String} (h : k ≠ l) (v : α) (m : Assoc α) :
    get? ((k, v) :: m) l = get? m l := by
  rw [get?, if_neg h]

/-- Leaving out the entries of some keys leaves out these keys. -/
theorem keys_filter (p : String → Bool) (m : Assoc α) :
    keys (m.filter fun e => p e.1) = (keys m).filter p :=
  (List.filter_map).symm

/-- Where the entries of some keys are left out, those of the others are still found. -/
theorem get?_filter (p : String → Bool) (m : Assoc α) (k : String) :
    get? (m.filter fun e => p e.1) k = if p k = true then get? m k else none := by
  induction m with
  | nil => simp [get?]
  | cons e m ih =>
    obtain ⟨l, v⟩ := e
    rw [List.filter_cons, get?]
    by_cases hl : l = k
    · subst hl
      split
      · rw [get?_cons_self, if_pos rfl]
      · next hdropped => rw [ih, if_neg hdropped]
    · rw [if_neg hl, ← ih]
      split
      · rw [get?_cons_of_ne hl]
      · rfl

/-! ## Storing and erasing -/

/-- A new key is stored behind all others. -/
theorem set_eq_append {m : Assoc α} {k : String} (h : k ∉ keys m) (v : α) :
    set m k v = m ++ [(k, v)] := by
  induction m with
  | nil => rfl
  | cons e m ih =>
    obtain ⟨l, w⟩ := e
    rw [keys_cons, List.mem_cons, not_or] at h
    rw [set, if_neg (Ne.symm h.1), ih h.2, List.cons_append]

/-- A key that is there gets its new value in its old place. -/
theorem set_append_cons {before : Assoc α} {k : String} (h : k ∉ keys before) (v w : α)
    (behind : Assoc α) :
    set (before ++ (k, v) :: behind) k w = before ++ (k, w) :: behind := by
  induction before with
  | nil => rw [List.nil_append, set, if_pos rfl, List.nil_append]
  | cons e m ih =>
    obtain ⟨l, u⟩ := e
    rw [keys_cons, List.mem_cons, not_or] at h
    rw [List.cons_append, set, if_neg (Ne.symm h.1), ih h.2, List.cons_append]

/-- Erasing takes out the entry of the key and leaves those around it. -/
theorem erase_append_cons {before : Assoc α} {k : String} (h : k ∉ keys before) (v : α)
    (behind : Assoc α) : erase (before ++ (k, v) :: behind) k = before ++ behind := by
  induction before with
  | nil => rw [List.nil_append, erase, if_pos rfl, List.nil_append]
  | cons e m ih =>
    obtain ⟨l, u⟩ := e
    rw [keys_cons, List.mem_cons, not_or] at h
    rw [List.cons_append, erase, if_neg (Ne.symm h.1), ih h.2, List.cons_append]

/-- Storing brings in no entry but the one that is stored. -/
theorem mem_of_mem_set {m : Assoc α} {k : String} {v : α} {e : String × α} (h : e ∈ set m k v) :
    e ∈ m ∨ e = (k, v) := by
  induction m with
  | nil => exact .inr (List.mem_singleton.1 h)
  | cons d m ih =>
    rw [set] at h
    split at h
    · rcases List.mem_cons.1 h with rfl | h
      · next hk => exact .inr (Prod.ext hk rfl)
      · exact .inl (List.mem_cons_of_mem d h)
    · rcases List.mem_cons.1 h with rfl | h
      · exact .inl List.mem_cons_self
      · exact (ih h).imp_left (List.mem_cons_of_mem d)

/-! ### Pairs that are stored one after the other -/

/-- Storing under other keys does not change what is found. -/
theorem get?_merge_of_notMem {m n : Assoc α} {k : String} (h : k ∉ keys n) :
    get? (merge m n) k = get? m k := by
  induction n generalizing m with
  | nil => rfl
  | cons e n ih =>
    obtain ⟨l, v⟩ := e
    rw [keys_cons, List.mem_cons, not_or] at h
    -- the entry that is stored first has another key, so it does not matter either
    have hbehind := @ih (set m l v) h.2
    rw [get?_set_of_ne m v h.1] at hbehind
    exact hbehind

/-- A key that no pair has is not there. -/
theorem get?_ofPairs_of_notMem {pairs : Assoc α} {k : String} (h : k ∉ keys pairs) :
    get? (ofPairs pairs) k = none :=
  get?_merge_of_notMem h

/-- Storing one map over another brings in no entries but those of the two. -/
theorem mem_of_mem_merge {m n : Assoc α} {e : String × α} (h : e ∈ merge m n) :
    e ∈ m ∨ e ∈ n := by
  induction n generalizing m with
  | nil => exact .inl h
  | cons d n ih =>
    rcases @ih (set m d.1 d.2) h with h | h
    · rcases mem_of_mem_set h with h | rfl
      · exact .inl h
      · exact .inr List.mem_cons_self
    · exact .inr (List.mem_cons_of_mem d h)

/-- The entries of a map made from pairs are among the pairs. -/
theorem mem_of_mem_ofPairs {pairs : Assoc α} {e : String × α} (h : e ∈ ofPairs pairs) :
    e ∈ pairs :=
  (mem_of_mem_merge h).resolve_left List.not_mem_nil

/-- Without a name that occurs twice, storing pairs one after the other keeps all of them. -/
theorem ofPairs_eq_self {m : Assoc α} (h : (keys m).Nodup) : ofPairs m = m := by
  -- by induction on the pairs, with any others stored in front of them
  have happend : ∀ n : Assoc α, (keys (n ++ m)).Nodup → merge n m = n ++ m := by
    clear h
    induction m with
    | nil => intro n _; exact (List.append_nil n).symm
    | cons e m ih =>
      obtain ⟨k, v⟩ := e
      intro n hn
      have hk : k ∉ keys n := by
        intro hk
        rw [keys_append, keys_cons, List.nodup_append] at hn
        exact hn.2.2 k hk k List.mem_cons_self rfl
      -- the key is new, so its pair comes to stand behind those in front
      have hset : set n k v = n ++ [(k, v)] := set_eq_append hk v
      show merge (set n k v) m = n ++ (k, v) :: m
      rw [hset, ih _ (by simpa using hn)]
      simp
  exact happend [] h

/-! ### Entries under keys that occur once -/

/-- An entry that is found stands in one place when no key occurs twice. -/
theorem exists_split {m : Assoc α} {k : String} {v : α} (hm : (keys m).Nodup)
    (h : get? m k = some v) :
    ∃ before behind, m = before ++ (k, v) :: behind ∧ k ∉ keys before ∧ k ∉ keys behind := by
  -- the key occurs once, so it is neither before the entry nor behind it
  obtain ⟨before, behind, rfl⟩ := List.append_of_mem (mem_of_get? h)
  rw [keys_append, keys_cons, List.nodup_append] at hm
  obtain ⟨-, hbehind, hdisjoint⟩ := hm
  refine ⟨before, behind, rfl, fun hk => ?_, (List.nodup_cons.mp hbehind).1⟩
  exact hdisjoint k hk k List.mem_cons_self rfl

/-- Where no key occurs twice, each entry is found under its key. -/
theorem get?_of_mem {m : Assoc α} {k : String} {v : α} (hm : (keys m).Nodup) (h : (k, v) ∈ m) :
    get? m k = some v := by
  obtain ⟨before, behind, rfl⟩ := List.append_of_mem h
  rw [keys_append, keys_cons, List.nodup_append] at hm
  -- an entry of the same key in front would be the second one
  have hbefore : k ∉ keys before := fun hk => hm.2.2 k hk k List.mem_cons_self rfl
  rw [get?_append_of_not_mem hbefore, get?_cons_self]

theorem values_append (m n : Assoc α) : values (m ++ n) = values m ++ values n := List.map_append

/-- A test that only the value of one key passes finds this value. -/
theorem filter_values_eq {m : Assoc α} {k : String} {v : α} {p : α → Bool}
    (hm : (keys m).Nodup) (h : get? m k = some v)
    (hp : ∀ l u, get? m l = some u → (p u = true ↔ l = k)) : m.values.filter p = [v] := by
  have hget : ∀ e ∈ m, get? m e.1 = some e.2 := fun e he => get?_of_mem hm he
  obtain ⟨before, behind, rfl, hbefore, hbehind⟩ := exists_split hm h
  -- around the entry there are only values of other keys, and none of them passes
  have hnone : ∀ n : Assoc α, (∀ e ∈ n, e ∈ before ++ (k, v) :: behind) → k ∉ keys n →
      n.values.filter p = [] := by
    intro n hn hk
    refine List.filter_eq_nil_iff.mpr ?_
    intro u hu hpu
    obtain ⟨e, he, rfl⟩ := List.mem_map.mp hu
    have hkey : e.1 = k := (hp e.1 e.2 (hget e (hn e he))).mp hpu
    exact hk (hkey ▸ List.mem_map_of_mem he)
  have hself : p v = true := (hp k v h).mpr rfl
  have hcons : values ((k, v) :: behind) = v :: values behind := rfl
  rw [values_append, hcons, List.filter_append, List.filter_cons_of_pos hself,
    hnone before (fun e he => List.mem_append_left _ he) hbefore,
    hnone behind (fun e he => List.mem_append_right _ (List.mem_cons_of_mem _ he)) hbehind,
    List.nil_append]

/-- Storing under a new key appends. -/
theorem appends_set {m : Assoc α} {k : String} (h : has m k = false) (v : α) :
    Appends m (set m k v) k v := by
  rw [has_eq_false_iff] at h
  exact ⟨h, set_eq_append h v⟩

/-- Storing under a key that occurs once replaces its value. -/
theorem replaces_set {m : Assoc α} {k : String} {v : α} (hm : (keys m).Nodup)
    (h : get? m k = some v) (w : α) : Replaces m (set m k w) k v w := by
  obtain ⟨before, behind, rfl, hbefore, hbehind⟩ := exists_split hm h
  exact ⟨before, behind, rfl, set_append_cons hbefore v w behind, hbefore, hbehind⟩

/-- Erasing a key that occurs once removes its entry. -/
theorem removes_erase {m : Assoc α} {k : String} {v : α} (hm : (keys m).Nodup)
    (h : get? m k = some v) : Removes m (erase m k) k v := by
  obtain ⟨before, behind, rfl, hbefore, hbehind⟩ := exists_split hm h
  exact ⟨before, behind, rfl, erase_append_cons hbefore v behind, hbefore, hbehind⟩

/-! ## What changes show -/

section changes

variable {m n : Assoc α} {k : String} {v w : α}

/-- The new entry is found. -/
theorem Appends.get?_self (h : Appends m n k v) : get? n k = some v := by
  obtain ⟨hk, rfl⟩ := h
  rw [get?_append_of_not_mem hk, get?_cons_self]

theorem Appends.get?_old (h : Appends m n k v) : get? m k = none := get?_eq_none_iff.mpr h.1

/-- Under all other keys the same is found as before. -/
theorem Appends.get?_of_ne (h : Appends m n k v) {l : String} (hl : l ≠ k) :
    get? n l = get? m l := by
  obtain ⟨-, rfl⟩ := h
  -- the new entry is the last one and has another key
  have hend : get? [(k, v)] l = get? [] l := get?_cons_of_ne (Ne.symm hl) v []
  rw [get?_append_congr hend, List.append_nil]

/-- Keys stay distinct, since the new one was free. -/
theorem Appends.nodup (h : Appends m n k v) (hm : (keys m).Nodup) : (keys n).Nodup := by
  obtain ⟨hk, rfl⟩ := h
  rw [keys_append, List.nodup_append]
  refine ⟨hm, List.nodup_singleton k, ?_⟩
  rintro a ha b hb rfl
  obtain rfl : a = k := List.mem_singleton.mp hb
  exact hk ha

/-- The new value is found. -/
theorem Replaces.get?_self (h : Replaces m n k v w) : get? n k = some w := by
  obtain ⟨before, behind, -, rfl, hbefore, -⟩ := h
  rw [get?_append_of_not_mem hbefore, get?_cons_self]

/-- Before, the old value was found. -/
theorem Replaces.get?_old (h : Replaces m n k v w) : get? m k = some v := by
  obtain ⟨before, behind, rfl, -, hbefore, -⟩ := h
  rw [get?_append_of_not_mem hbefore, get?_cons_self]

/-- Under all other keys the same is found as before. -/
theorem Replaces.get?_of_ne (h : Replaces m n k v w) {l : String} (hl : l ≠ k) :
    get? n l = get? m l := by
  obtain ⟨before, behind, rfl, rfl, -, -⟩ := h
  refine get?_append_congr ?_
  rw [get?_cons_of_ne (Ne.symm hl), get?_cons_of_ne (Ne.symm hl)]

/-- The keys and their order stay as they are. -/
theorem Replaces.keys_eq (h : Replaces m n k v w) : keys n = keys m := by
  obtain ⟨before, behind, rfl, rfl, -, -⟩ := h
  rw [keys_append, keys_append, keys_cons, keys_cons]

/-- The map is unchanged only if the value is. -/
theorem Replaces.eq_iff (h : Replaces m n k v w) : n = m ↔ w = v := by
  obtain ⟨before, behind, rfl, rfl, -, -⟩ := h
  simp

/-- Nothing is found under the key any more, since it occurred once. -/
theorem Removes.get?_self (h : Removes m n k v) : get? n k = none := by
  obtain ⟨before, behind, -, rfl, hbefore, hbehind⟩ := h
  rw [get?_append_of_not_mem hbefore, get?_eq_none_iff.mpr hbehind]

/-- Before, the removed value was found. -/
theorem Removes.get?_old (h : Removes m n k v) : get? m k = some v := by
  obtain ⟨before, behind, rfl, -, hbefore, -⟩ := h
  rw [get?_append_of_not_mem hbefore, get?_cons_self]

/-- Under all other keys the same is found as before. -/
theorem Removes.get?_of_ne (h : Removes m n k v) {l : String} (hl : l ≠ k) :
    get? n l = get? m l := by
  obtain ⟨before, behind, rfl, rfl, -, -⟩ := h
  exact get?_append_congr (get?_cons_of_ne (Ne.symm hl) v behind).symm

/-- Keys stay distinct when one goes. -/
theorem Removes.nodup (h : Removes m n k v) (hm : (keys m).Nodup) : (keys n).Nodup := by
  obtain ⟨before, behind, rfl, rfl, -, -⟩ := h
  rw [keys_append, keys_cons] at hm
  rw [keys_append]
  exact hm.sublist (.append_left (List.sublist_cons_self _ _) _)

end changes

end ODataService.Assoc
