import Mathlib.Logic.Basic
import ODataService.Json.Keyed

/-!
# Changes of maps with scalar keys

Storing under a key that is there keeps its place, so it can be done before or after anything that
is stored under other keys (`set_merge_comm`). In what comes about by storing no key occurs twice
(`Distinct`).
-/

namespace ODataService.Keyed

variable {α : Type} {m n : Keyed α} {k l : Scalar}

/-! ## Looking up -/

/-- Nothing is found where all keys are others. -/
theorem get?_eq_none (h : ∀ e ∈ m, e.1.sameKey k = false) :
    get? m k = none := by
  induction m with
  | nil => rfl
  | cons e m ih =>
    obtain ⟨l, v⟩ := e
    have hl : l.sameKey k = false := h (l, v) List.mem_cons_self
    rw [get?, hl]
    exact ih fun e he => h e (List.mem_cons_of_mem _ he)

/-- Nothing is found exactly where all keys are others. -/
theorem get?_eq_none_iff : get? m k = none ↔ ∀ l ∈ keys m, l.sameKey k = false := by
  induction m with
  | nil => simp [get?, keys]
  | cons e m ih =>
    obtain ⟨j, v⟩ := e
    have hkeys : keys ((j, v) :: m) = j :: keys m := rfl
    rw [get?, hkeys, List.forall_mem_cons]
    split
    · next hj => simp [hj]
    · next hj => simp [hj, ih]

/-- Keys that are the same find the same. -/
theorem get?_congr (h : k.sameKey l = true) (m : Keyed α) : get? m k = get? m l := by
  rw [Scalar.sameKey_iff] at h
  induction m with
  | nil => rfl
  | cons e m ih =>
    obtain ⟨j, v⟩ := e
    rw [get?, get?, ih, Scalar.sameKey, Scalar.sameKey, h]

/-- The map in front is asked first. -/
theorem get?_append (m n : Keyed α) (k : Scalar) :
    get? (m ++ n) k = (get? m k).or (get? n k) := by
  induction m with
  | nil => rfl
  | cons e m ih =>
    rw [List.cons_append, get?, get?]
    split
    · rfl
    · exact ih

/-- A key that is missing in front is looked up behind. -/
theorem get?_append_of_none (h : get? m k = none) (n : Keyed α) :
    get? (m ++ n) k = get? n k := by
  rw [get?_append, h, Option.none_or]

/-- Storing under other keys does not change what is found. -/
theorem get?_merge_of_none (h : get? n k = none) (m : Keyed α) :
    get? (merge m n) k = get? m k := by
  induction n generalizing m with
  | nil => rfl
  | cons e n ih =>
    obtain ⟨l, v⟩ := e
    rw [get?] at h
    split at h
    · simp at h
    · next hl =>
      rw [Bool.not_eq_true] at hl
      -- the entry that comes first has another key, and so have all others
      have hfold := ih h (set m l v)
      rw [get?_set_of_not_sameKey m v hl] at hfold
      exact hfold

/-! ## Filtering -/

section filter

variable {keep : Scalar × α → Bool} {p : String}

/-- A filter that keeps a name keeps what is found under it. -/
theorem get?_filter (h : ∀ v, keep (.str p, v) = true) (m : Keyed α) :
    get? (m.filter keep) (.str p) = get? m (.str p) := by
  induction m with
  | nil => rfl
  | cons kv m ih =>
    obtain ⟨k, v⟩ := kv
    by_cases hk : k.sameKey (.str p) = true
    · obtain rfl := Scalar.sameKey_str_right_iff.1 hk
      rw [List.filter_cons_of_pos (h v), get?, get?, if_pos hk, if_pos hk]
    · by_cases hkeep : keep (k, v) = true
      · rw [List.filter_cons_of_pos hkeep, get?, get?, if_neg hk, if_neg hk, ih]
      · rw [List.filter_cons_of_neg hkeep, get?, if_neg hk, ih]

/-- A name that is kept may be stored before filtering or after it. -/
theorem filter_set (h : ∀ v, keep (.str p, v) = true) (m : Keyed α) (v : α) :
    (set m (.str p) v).filter keep = set (m.filter keep) (.str p) v := by
  induction m with
  | nil => simp [set, h]
  | cons kv m ih =>
    obtain ⟨k, w⟩ := kv
    by_cases hk : k.sameKey (.str p) = true
    · obtain rfl := Scalar.sameKey_str_right_iff.1 hk
      rw [set, if_pos hk, List.filter_cons_of_pos (h v), List.filter_cons_of_pos (h w), set,
        if_pos hk]
    · rw [set, if_neg hk]
      -- an entry of another name goes or stays, whatever is stored
      by_cases hkeep : keep (k, w) = true
      · rw [List.filter_cons_of_pos hkeep, List.filter_cons_of_pos hkeep, set, if_neg hk, ih]
      · rw [List.filter_cons_of_neg hkeep, List.filter_cons_of_neg hkeep, ih]

/-- What is filtered out may be stored or not. -/
theorem filter_set_of_dropped (h : ∀ v, keep (.str p, v) = false) (m : Keyed α) (v : α) :
    (set m (.str p) v).filter keep = m.filter keep := by
  induction m with
  | nil => simp [set, h]
  | cons kv m ih =>
    obtain ⟨k, w⟩ := kv
    by_cases hk : k.sameKey (.str p) = true
    · obtain rfl := Scalar.sameKey_str_right_iff.1 hk
      rw [set, if_pos hk, List.filter_cons_of_neg (by simp [h]),
        List.filter_cons_of_neg (by simp [h])]
    · rw [set, if_neg hk]
      by_cases hkeep : keep (k, w) = true
      · rw [List.filter_cons_of_pos hkeep, List.filter_cons_of_pos hkeep, ih]
      · rw [List.filter_cons_of_neg hkeep, List.filter_cons_of_neg hkeep, ih]

/-- A name that is filtered out is not found any more. -/
theorem get?_filter_of_dropped (h : ∀ v, keep (.str p, v) = false) (m : Keyed α) :
    get? (m.filter keep) (.str p) = none := by
  refine get?_eq_none fun e he => ?_
  obtain ⟨k, v⟩ := e
  have hkeep := (List.mem_filter.mp he).2
  rw [Bool.eq_false_iff]
  intro hk
  obtain rfl := Scalar.sameKey_str_right_iff.1 hk
  rw [h v] at hkeep
  exact absurd hkeep (by simp)

end filter

/-! ## Storing -/

/-- Keys that are the same differ from the same keys. -/
theorem sameKey_false_of_sameKey {j : Scalar} (hj : j.sameKey k = true)
    (h : k.sameKey l = false) : j.sameKey l = false := by
  simp only [Scalar.sameKey, decide_eq_true_eq, decide_eq_false_iff_not] at *
  rwa [hj]

/-- A key that is not there is stored behind all others. -/
theorem set_eq_append (h : get? m k = none) (v : α) : set m k v = m ++ [(k, v)] := by
  induction m with
  | nil => rfl
  | cons e m ih =>
    obtain ⟨j, u⟩ := e
    rw [get?] at h
    split at h
    · simp at h
    · next hj => rw [set, if_neg hj, ih h, List.cons_append]

/-- A key that is missing in front is stored behind. -/
theorem set_append_of_none (h : get? m k = none) (n : Keyed α) (v : α) :
    set (m ++ n) k v = m ++ set n k v := by
  induction m with
  | nil => rfl
  | cons e m ih =>
    obtain ⟨j, u⟩ := e
    rw [get?] at h
    split at h
    · simp at h
    · next hj => rw [List.cons_append, set, if_neg hj, ih h, List.cons_append]

/-- A key that is there keeps its place. -/
theorem keys_set (h : get? m k ≠ none) (v : α) : keys (set m k v) = keys m := by
  induction m with
  | nil => exact absurd rfl h
  | cons e m ih =>
    obtain ⟨j, u⟩ := e
    rw [get?] at h
    rw [set]
    split at h
    · next hj =>
      rw [if_pos hj]
      rfl
    · next hj =>
      rw [if_neg hj]
      exact congrArg (j :: ·) (ih h)

/-- A key that is there may be stored before another one or after it. -/
theorem set_set_comm (hkey : l.sameKey k = false) (h : get? m k ≠ none) (x v : α) :
    set (set m l x) k v = set (set m k v) l x := by
  induction m with
  | nil => exact absurd rfl h
  | cons e m ih =>
    obtain ⟨j, u⟩ := e
    by_cases hjl : j.sameKey l = true
    · have hjk : ¬ j.sameKey k = true := by
        rw [Bool.not_eq_true]
        exact sameKey_false_of_sameKey hjl hkey
      rw [set, if_pos hjl, set, if_neg hjk, set, if_neg hjk, set, if_pos hjl]
    · by_cases hjk : j.sameKey k = true
      · rw [set, if_neg hjl, set, if_pos hjk, set, if_pos hjk, set, if_neg hjl]
      · -- the place of the key is further behind
        rw [get?, if_neg hjk] at h
        rw [set, if_neg hjl, set, if_neg hjk, set, if_neg hjk, set, if_neg hjl, ih h]

/-- A key that is there may be stored before or after what has other keys. -/
theorem set_merge_comm (hn : get? n k = none) (hm : get? m k ≠ none) (v : α) :
    set (merge m n) k v = merge (set m k v) n := by
  induction n generalizing m with
  | nil => rfl
  | cons e n ih =>
    obtain ⟨l, x⟩ := e
    rw [get?] at hn
    split at hn
    · simp at hn
    · next hl =>
      rw [Bool.not_eq_true] at hl
      have hset : get? (set m l x) k ≠ none := by rwa [get?_set_of_not_sameKey m x hl]
      have hrest := ih hn hset
      rw [set_set_comm hl hm] at hrest
      exact hrest

/-! ## Storing one after the other -/

/-- What is stored last under a key is found. -/
theorem get?_merge (m n : Keyed α) (k : Scalar) :
    get? (merge m n) k = ((n.findRev? (·.1.sameKey k)).map Prod.snd).or (get? m k) := by
  induction n generalizing m with
  | nil => rfl
  | cons e n ih =>
    obtain ⟨l, v⟩ := e
    have hrest := ih (set m l v)
    rw [List.findRev?]
    cases hlast : n.findRev? (·.1.sameKey k) with
    | some e => rwa [hlast] at hrest
    | none =>
      -- nothing behind the entry has the key, so it is found if the key is its own
      rw [hlast, Option.map_none, Option.none_or] at hrest
      rw [merge, List.foldl_cons]
      refine hrest.trans ?_
      cases hl : l.sameKey k with
      | true => rw [get?_set_of_sameKey m v hl]; rfl
      | false => rw [get?_set_of_not_sameKey m v hl]; rfl

/-- After storing, a key is missing if it was missing and is another one. -/
theorem isNone_get?_set (m : Keyed α) (k l : Scalar) (v : α) :
    (get? (set m k v) l).isNone = (decide (l.sameKey k = false) && (get? m l).isNone) := by
  rw [Scalar.sameKey_comm l k]
  cases hkey : k.sameKey l with
  | true => rw [get?_set_of_sameKey m v hkey]; rfl
  | false => rw [get?_set_of_not_sameKey m v hkey]; rfl

/-- New keys are listed behind the old ones, in the order in which they come first. -/
theorem keys_merge (m n : Keyed α) :
    keys (merge m n) =
      keys m ++ ((keys n).filter fun k => (get? m k).isNone).eraseDupsBy Scalar.sameKey := by
  induction n generalizing m with
  | nil => rw [merge, List.foldl_nil, keys, keys, List.map_nil, List.filter_nil]; simp
  | cons e n ih =>
    obtain ⟨k, v⟩ := e
    have hmerge : merge m ((k, v) :: n) = merge (set m k v) n := rfl
    have hkeys : keys ((k, v) :: n) = k :: keys n := rfl
    have hfree : ((keys n).filter fun l => (get? (set m k v) l).isNone) =
        ((keys n).filter fun l => (get? m l).isNone).filter fun l => l.sameKey k = false := by
      rw [List.filter_filter]
      exact List.filter_congr fun l _ => isNone_get?_set m k l v
    -- the first key is there already, or it becomes the first of the new ones
    rw [hmerge, ih, hkeys, hfree]
    cases hk : get? m k with
    | some u =>
      -- the key is there, and it is none of those that are not
      have hsame : (((keys n).filter fun l => (get? m l).isNone).filter
          fun l => l.sameKey k = false) = (keys n).filter fun l => (get? m l).isNone := by
        rw [List.filter_eq_self]
        intro l hl
        rw [decide_eq_true_eq, Bool.eq_false_iff]
        intro hlk
        rw [List.mem_filter, get?_congr hlk, hk] at hl
        simp at hl
      rw [keys_set (by simp [hk]), hsame, List.filter_cons_of_neg (by simp [hk])]
    | none =>
      have hset : keys (set m k v) = keys m ++ [k] := by
        rw [set_eq_append hk, keys, List.map_append]
        rfl
      rw [hset, List.filter_cons_of_pos (by simp [hk]), List.eraseDupsBy_cons, List.append_assoc]
      rfl

/-- Of pairs with one key, the last is found. -/
theorem get?_ofPairs (n : Keyed α) (k : Scalar) :
    get? (ofPairs n) k = (n.findRev? (·.1.sameKey k)).map Prod.snd := by
  rw [ofPairs, get?_merge, get?, Option.or_none]

/-- The keys of a map made from pairs are those of the pairs, each in its first place. -/
theorem keys_ofPairs (n : Keyed α) :
    keys (ofPairs n) = (keys n).eraseDupsBy Scalar.sameKey := by
  have hall : ((keys n).filter fun k => (get? ([] : Keyed α) k).isNone) = keys n :=
    List.filter_eq_self.2 fun _ _ => rfl
  rw [ofPairs, keys_merge, hall]
  rfl

/-! ## Distinct keys -/

/-- No key occurs twice. -/
def Distinct (m : Keyed α) : Prop := m.Pairwise fun e f => e.1.sameKey f.1 = false

theorem distinct_nil : Distinct ([] : Keyed α) := List.Pairwise.nil

/-- Keys are distinct if the first is none of the others and those are distinct. -/
theorem distinct_cons {v : α} :
    Distinct ((k, v) :: m) ↔ (∀ e ∈ m, k.sameKey e.1 = false) ∧ Distinct m :=
  List.pairwise_cons

/-- Whether a key occurs twice is a matter of the keys. -/
theorem Distinct.of_keys_eq (hm : Distinct m) (h : keys n = keys m) : Distinct n := by
  have hkeys : (keys m).Pairwise fun j k => j.sameKey k = false := List.pairwise_map.mpr hm
  rw [← h] at hkeys
  exact List.pairwise_map.mp hkeys

/-- A key that is none of the old ones and not the stored one stays so. -/
theorem sameKey_false_of_mem_set {j : Scalar} {v : α} (hm : ∀ e ∈ m, j.sameKey e.1 = false)
    (hk : j.sameKey k = false) : ∀ e ∈ set m k v, j.sameKey e.1 = false := by
  induction m with
  | nil =>
    intro e he
    obtain rfl := List.mem_singleton.mp he
    exact hk
  | cons f m ih =>
    obtain ⟨l, u⟩ := f
    have hl : j.sameKey l = false := hm (l, u) List.mem_cons_self
    have hrest : ∀ e ∈ m, j.sameKey e.1 = false := fun e he => hm e (List.mem_cons_of_mem _ he)
    intro e he
    rw [set] at he
    split at he
    · rcases List.mem_cons.mp he with rfl | he
      · exact hl
      · exact hrest e he
    · rcases List.mem_cons.mp he with rfl | he
      · exact hl
      · exact ih hrest e he

/-- Storing keeps keys distinct. -/
theorem Distinct.set (h : Distinct m) (k : Scalar) (v : α) : Distinct (set m k v) := by
  induction m with
  | nil => exact distinct_cons.mpr ⟨fun e he => absurd he List.not_mem_nil, distinct_nil⟩
  | cons e m ih =>
    obtain ⟨j, u⟩ := e
    obtain ⟨hj, hm⟩ := distinct_cons.mp h
    rw [Keyed.set]
    split
    · exact distinct_cons.mpr ⟨hj, hm⟩
    · next hjk =>
      rw [Bool.not_eq_true] at hjk
      exact distinct_cons.mpr ⟨sameKey_false_of_mem_set hj hjk, ih hm⟩

/-- Storing any number of pairs keeps keys distinct. -/
theorem Distinct.merge (h : Distinct m) (n : Keyed α) : Distinct (merge m n) := by
  induction n generalizing m with
  | nil => exact h
  | cons e n ih => exact ih (h.set e.1 e.2)

theorem Distinct.filter (h : Distinct m) (keep : Scalar × α → Bool) : Distinct (m.filter keep) :=
  List.Pairwise.filter keep h

/-- Distinct keys that are not there are stored behind all others, in order. -/
theorem merge_eq_append (hn : Distinct n) (h : ∀ e ∈ n, get? m e.1 = none) :
    merge m n = m ++ n := by
  induction n generalizing m with
  | nil => rw [List.append_nil, merge, List.foldl_nil]
  | cons e n ih =>
    obtain ⟨l, x⟩ := e
    obtain ⟨hl, hrest⟩ := distinct_cons.mp hn
    have hset : Keyed.set m l x = m ++ [(l, x)] := set_eq_append (h (l, x) List.mem_cons_self) x
    -- the first key is another one than those behind it, so these are still free
    have hfree : ∀ e ∈ n, get? (Keyed.set m l x) e.1 = none := by
      intro e he
      rw [get?_set_of_not_sameKey m x (hl e he)]
      exact h e (List.mem_cons_of_mem _ he)
    have hmerge := ih hrest hfree
    rw [hset, List.append_assoc] at hmerge
    rw [merge, List.foldl_cons, hset]
    exact hmerge

end ODataService.Keyed
