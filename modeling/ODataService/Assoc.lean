/-!
# Maps in insertion order

Query parameters, headers, records, tables and registries are maps whose order shows in answers.
An `Assoc` is the list of their entries: storing under a present key keeps its place and replaces
the value, storing under a new key appends.
-/

namespace ODataService

/-- A map from names in insertion order. -/
abbrev Assoc (α : Type) := List (String × α)

namespace Assoc

variable {α : Type}

/-- The value stored under `key`. -/
def get? : Assoc α → String → Option α
  | [], _ => none
  | (k, v) :: m, key => if k = key then some v else get? m key

/-- Whether something is stored under `key`. -/
def has (m : Assoc α) (key : String) : Bool := (get? m key).isSome

/-- Stores `value` under `key`: in place when the key is present, else at the end. -/
def set : Assoc α → String → α → Assoc α
  | [], key, value => [(key, value)]
  | (k, v) :: m, key, value =>
    if k = key then (k, value) :: m else (k, v) :: set m key value

/-- The map without `key`. -/
def erase : Assoc α → String → Assoc α
  | [], _ => []
  | (k, v) :: m, key => if k = key then m else (k, v) :: erase m key

/-- Stores all entries of `n`, in order. -/
def merge (m n : Assoc α) : Assoc α := n.foldl (fun m kv => set m kv.1 kv.2) m

/-- The map that results from storing pairs one after the other. -/
def ofPairs (pairs : List (String × α)) : Assoc α := merge [] pairs

/-- The keys in order. -/
def keys (m : Assoc α) : List String := m.map Prod.fst

/-- The values in order. -/
def values (m : Assoc α) : List α := m.map Prod.snd

theorem get?_set_self (m : Assoc α) (k : String) (v : α) : get? (set m k v) k = some v := by
  induction m with
  | nil => simp [set, get?]
  | cons e m ih =>
    obtain ⟨k', v'⟩ := e
    by_cases h : k' = k <;> simp [set, get?, h, ih]

theorem get?_set_of_ne (m : Assoc α) {k l : String} (v : α) (h : l ≠ k) :
    get? (set m k v) l = get? m l := by
  induction m with
  | nil => simp [set, get?, Ne.symm h]
  | cons e m ih =>
    obtain ⟨k', v'⟩ := e
    by_cases hk : k' = k
    · subst hk; simp [set, get?, Ne.symm h]
    · by_cases hl : k' = l
      · simp [set, get?, hl, h]
      · simp [set, get?, hk, hl, ih]

end Assoc

end ODataService
