import ODataService.Json.Reader
import ODataService.Json.Writer

/-!
# Levels of arrays and objects

Arrays and objects may stand one inside of the other, and `Json.levels` counts on how many levels
they do. The reader takes one level of its stack for each bracket that is open, so the number of
brackets at the start of a text alone can be more than it has room for
(`Json.parseWithin_brackets`). No text has more levels than characters (`Json.levels_le_length`):
this is why a stack of that size is as good as one without bound.
-/

namespace ODataService.Json

mutual

/-- The number of arrays and objects that stand one inside of the other. -/
def levels : Json → Nat
  | .arr items => itemLevels items + 1
  | .obj members => memberLevels members + 1
  | .null | .bool _ | .int _ | .real _ | .str _ => 0

/-- The most levels of any item. -/
def itemLevels : List Json → Nat
  | [] => 0
  | v :: vs => max (levels v) (itemLevels vs)

/-- The most levels of any member. -/
def memberLevels : List (Scalar × Json) → Nat
  | [] => 0
  | (_, v) :: ms => max (levels v) (memberLevels ms)

end

mutual

/-- Each level has an opening bracket in the text. -/
theorem levels_le_length (sep : Separators) :
    (v : Json) → levels v ≤ (write sep v).toList.length
  | .null | .bool _ | .int _ | .real _ | .str _ => by simp [levels]
  -- a bracket is written for the level, and the items are written within
  | .arr items => by
    have hitems := itemLevels_le_length sep "" items
    simp only [levels, write, String.toList_append, List.length_append]
    have hopen : ("[" : String).toList.length = 1 := rfl
    omega
  | .obj members => by
    have hmembers := memberLevels_le_length sep "" members
    simp only [levels, write, String.toList_append, List.length_append]
    have hopen : ("\x7b" : String).toList.length = 1 := rfl
    omega

/-- The items of an array have their texts in that of the array. -/
theorem itemLevels_le_length (sep : Separators) (before : String) :
    (vs : List Json) → itemLevels vs ≤ (writeItems sep before vs).toList.length
  | [] => by simp [itemLevels]
  | v :: vs => by
    have hv := levels_le_length sep v
    have hvs := itemLevels_le_length sep sep.item vs
    simp only [itemLevels, writeItems, String.toList_append, List.length_append]
    omega

/-- The members of an object have their texts in that of the object. -/
theorem memberLevels_le_length (sep : Separators) (before : String) :
    (ms : List (Scalar × Json)) → memberLevels ms ≤ (writeMembers sep before ms).toList.length
  | [] => by simp [memberLevels]
  | (k, v) :: ms => by
    have hv := levels_le_length sep v
    have hms := memberLevels_le_length sep sep.item ms
    simp only [memberLevels, writeMembers, String.toList_append, List.length_append]
    omega

end

/-! ## More levels than there is room for -/

/-- The start of an array in front of another bracket leads to the items. -/
theorem readValue_bracket (fuel levels position : Nat) (cs : List Char) :
    ∃ position', readValue (fuel + 1) (levels + 1) ⟨position, '[' :: '[' :: cs⟩ = (do
      let (vs, c) ← readItems fuel levels ⟨position', '[' :: cs⟩
      return (.arr vs, c)) :=
  ⟨_, rfl⟩

/-- As many brackets as there are levels are passed, and the next one is not. -/
theorem readValue_brackets {fuel levels n : Nat} (hfuel : 2 * levels + 1 ≤ fuel) (hn : levels < n)
    (position : Nat) (rest : List Char) :
    readValue fuel levels ⟨position, List.replicate n '[' ++ rest⟩ = .error (.nested .array) := by
  obtain ⟨n, rfl⟩ : ∃ k, n = k + 1 := ⟨n - 1, by omega⟩
  obtain ⟨fuel, rfl⟩ : ∃ k, fuel = k + 1 := ⟨fuel - 1, by omega⟩
  -- by induction on the levels: a bracket takes one of them and two steps
  induction levels generalizing n fuel position with
  | zero => rfl
  | succ levels ih =>
    obtain ⟨n, rfl⟩ : ∃ k, n = k + 1 := ⟨n - 1, by omega⟩
    obtain ⟨fuel, rfl⟩ : ∃ k, fuel = k + 1 + 1 := ⟨fuel - 2, by omega⟩
    obtain ⟨position', hread⟩ := readValue_bracket (fuel + 1 + 1) levels position
      (List.replicate n '[' ++ rest)
    have hinner := ih position' n (by omega) fuel (by omega)
    rw [List.replicate_succ, List.replicate_succ, List.cons_append, List.cons_append, hread]
    rw [List.replicate_succ, List.cons_append] at hinner
    rw [readItems, hinner]
    rfl

/-- A text that opens more arrays than there are levels is not read, whatever follows. -/
theorem parseWithin_brackets {levels n : Nat} (hn : levels < n) (rest : List Char) :
    parseWithin levels (String.ofList (List.replicate n '[' ++ rest)) =
      .error (.nested .array) := by
  obtain ⟨n, rfl⟩ : ∃ k, n = k + 1 := ⟨n - 1, by omega⟩
  have hstart : Cursor.skipSpacing ⟨0, List.replicate (n + 1) '[' ++ rest⟩ =
      ⟨0, List.replicate (n + 1) '[' ++ rest⟩ := rfl
  -- the text is long enough for the steps that the levels take
  have hread : readValue (2 * (List.replicate (n + 1) '[' ++ rest).length + 1) levels
      ⟨0, List.replicate (n + 1) '[' ++ rest⟩ = .error (.nested .array) := by
    refine readValue_brackets ?_ hn 0 rest
    rw [List.length_append, List.length_replicate]
    omega
  rw [parseWithin, String.toList_ofList]
  dsimp only
  split
  · next h => exact absurd (List.cons.inj h).1 (by decide)
  · rw [hstart, hread]
    rfl

end ODataService.Json
