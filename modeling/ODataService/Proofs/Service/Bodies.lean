import ODataService.Proofs.Json.RoundTrip
import ODataService.Proofs.Service.Outcome
import ODataService.Proofs.Service.Refusals
import ODataService.Proofs.Text.Trimming

/-!
# Bodies of requests

The body of a request is read on a stack that has room for `Content.maxLevels` levels. A record with
no more levels is read from its text (`Content.readRecord_text`). A body that is nested deeper is
not refused as one that cannot be read: running out of stack is an incident, which no protocol layer
knows about, and a request to write such a body is answered with an internal error
(`Service.handle_nested`).
-/

namespace ODataService

namespace Content

/-- The reader has room for the levels of the text. -/
def HasRoom (body : String) : Prop := ∀ c, readRecord body ≠ .error (.nesting c)

/-- The text of a record with levels that there is room for is read as that record. -/
theorem readRecord_text {r : Assoc Json} (hr : Json.Readable (.obj (Keyed.ofAssoc r)))
    (hlevels : (Json.obj (Keyed.ofAssoc r)).levels ≤ maxLevels) :
    readRecord (Json.obj (Keyed.ofAssoc r)).text = .ok (Keyed.ofAssoc r) := by
  have htext : (Json.obj (Keyed.ofAssoc r)).text.toList =
      '\x7b' :: ((Json.writeMembers .spaced "" (Keyed.ofAssoc r)).toList ++ ['\x7d']) :=
    Json.toList_write_obj .spaced _
  have hclose := htext.trans (List.cons_append ..).symm
  -- a brace is no blank, so nothing is stripped
  have hstrip : Text.strip (Json.obj (Keyed.ofAssoc r)).text =
      (Json.obj (Keyed.ofAssoc r)).text :=
    Text.strip_eq ⟨_, _, htext, by decide⟩ ⟨_, _, hclose, by decide⟩
  rw [readRecord, hstrip]
  split
  · next h => simp [h] at htext
  · rw [Json.text, Json.parseWithin_write Json.Separators.known_spaced hr hlevels]

/-- The text of that many arrays, one inside of the other. -/
def brackets (n : Nat) : String := String.ofList (List.replicate n '[' ++ List.replicate n ']')

/-- Arrays that are nested on more levels than there is room for bring the reader down. -/
theorem readRecord_brackets {n : Nat} (hn : maxLevels < n) :
    readRecord (brackets n) = .error (.nesting .array) := by
  obtain ⟨n, rfl⟩ : ∃ k, n = k + 1 := ⟨n - 1, by omega⟩
  have hchars : (brackets (n + 1)).toList =
      '[' :: (List.replicate n '[' ++ List.replicate (n + 1) ']') := String.toList_ofList
  have hclose : (brackets (n + 1)).toList =
      List.replicate (n + 1) '[' ++ List.replicate n ']' ++ [']'] := by
    rw [brackets, String.toList_ofList, List.replicate_succ' (n := n) (a := ']'),
      List.append_assoc]
  -- the text starts and ends with brackets, so nothing is stripped off it
  have hstrip : Text.strip (brackets (n + 1)) = brackets (n + 1) :=
    Text.strip_eq ⟨_, _, hchars, by decide⟩ ⟨_, _, hclose, by decide⟩
  rw [readRecord, hstrip]
  -- it is not blank, so it is read as JSON
  split
  · next h => simp [h] at hchars
  · rw [brackets, Json.parseWithin_brackets hn]

end Content

namespace Service

variable {settings : Settings} {w : World Store} {q : Http.Request} {set : String}

/-- The request writes the record in its body, to an entity set or in the place of a record. -/
def Writes (q : Http.Request) (set : String) : Prop :=
  q.method = "POST" ∧ q.resource = .collection set ∨
    (q.method = "PUT" ∨ q.method = "PATCH") ∧ ∃ key, q.Addresses set key

/-- Running out of stack is answered as a fault of the service. -/
theorem status_nesting (debug : Bool) (c : Json.Container) :
    ((Failure.nesting c).toErrorBody debug).status = 500 := by
  cases debug <;> cases c <;> rfl

/-- A body that is nested on more levels than there is room for is answered with an internal error,
and the store stays as it is. -/
theorem handle_nested (hd : w.store.declares set = true) (hw : Writes q set) {c : Json.Container}
    (hb : Content.readRecord q.body.toText = .error (.nesting c)) :
    (((inMemory settings).handle q).run w).1.status = 500 ∧
      (((inMemory settings).handle q).run w).2.store = w.store := by
  -- the body is read before the store is touched, on creation as on change
  have hroute : (routed settings q).exec w = (.error (.nesting c), w) := by
    rcases hw with ⟨hm, hr⟩ | ⟨hm, key, ha⟩
    · exact (exec_route_create hm hd hr).trans (exec_replyCreate_unread hb)
    · exact (exec_route_update hm hd ha).trans (exec_replyUpdate_unread hb)
  obtain ⟨w', hrun, hstore⟩ := run_handle_error hroute
  rw [hrun]
  exact ⟨status_nesting settings.debug c, hstore⟩

/-- Nested arrays alone do it, whatever is in the store. -/
theorem handle_brackets (hd : w.store.declares set = true) (hw : Writes q set) {n : Nat}
    (hn : Content.maxLevels < n) (hb : q.body.toText = Content.brackets n) :
    (((inMemory settings).handle q).run w).1.status = 500 ∧
      (((inMemory settings).handle q).run w).2.store = w.store := by
  refine handle_nested hd hw (c := .array) ?_
  rw [hb]
  exact Content.readRecord_brackets hn

end Service

end ODataService
