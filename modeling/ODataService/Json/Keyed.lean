import ODataService.Assoc
import ODataService.Json.Scalar

/-!
# Maps with scalar keys

Most records have texts as the names of their members, but a store may hold members under any value
without parts. Keys that mean the same, such as 1 and `true`, are one key, which keeps the form it
had first. A `Keyed` is the list of the entries in insertion order; on texts it is an `Assoc`.
-/

namespace ODataService

/-- A map from scalars in insertion order. -/
abbrev Keyed (α : Type) := List (Scalar × α)

namespace Keyed

variable {α : Type}

/-- The value stored under a key. -/
def get? : Keyed α → Scalar → Option α
  | [], _ => none
  | (k, v) :: m, key => if k.sameKey key then some v else get? m key

/-- Stores a value under a key: in place when the key is present, else at the end. -/
def set : Keyed α → Scalar → α → Keyed α
  | [], key, value => [(key, value)]
  | (k, v) :: m, key, value =>
    if k.sameKey key then (k, value) :: m else (k, v) :: set m key value

/-- Stores all entries of `n`, in order. -/
def merge (m n : Keyed α) : Keyed α := n.foldl (fun m kv => set m kv.1 kv.2) m

/-- The map that results from storing pairs one after the other. -/
def ofPairs (pairs : List (Scalar × α)) : Keyed α := merge [] pairs

/-- A map with texts as keys. -/
def ofAssoc (m : Assoc α) : Keyed α := m.map fun (k, v) => (.str k, v)

/-- The keys in order. -/
def keys (m : Keyed α) : List Scalar := m.map Prod.fst

theorem get?_set_of_sameKey (m : Keyed α) {k l : Scalar} (v : α) (h : k.sameKey l = true) :
    get? (set m k v) l = some v := by
  rw [Scalar.sameKey_iff] at h
  induction m with
  | nil => simp [set, get?, Scalar.sameKey, h]
  | cons e m ih =>
    obtain ⟨k', v'⟩ := e
    by_cases hk : k'.identity = l.identity <;> simp [set, get?, Scalar.sameKey, h, hk]
    simpa [Scalar.sameKey] using ih

theorem get?_set_of_not_sameKey (m : Keyed α) {k l : Scalar} (v : α)
    (h : k.sameKey l = false) : get? (set m k v) l = get? m l := by
  induction m with
  | nil => simp [set, get?, h]
  | cons e m ih =>
    obtain ⟨k', v'⟩ := e
    by_cases hk : k'.sameKey k = true
    · have hl : k'.sameKey l = false := by
        simp only [Scalar.sameKey, decide_eq_true_eq, decide_eq_false_iff_not] at h hk ⊢
        rwa [hk]
      simp [set, get?, hk, hl]
    · by_cases hl : k'.sameKey l = true <;> simp [set, get?, hk, hl, ih]

end Keyed

end ODataService
