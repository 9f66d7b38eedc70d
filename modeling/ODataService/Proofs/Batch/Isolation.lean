import Mathlib.Data.List.Forall2
import ODataService.Batch.Execution
import ODataService.Proofs.Action

/-!
# How batches end

Whatever answers its requests, a batch whose URLs can be read is answered as a whole: a plain
operation by one response, a changeset by one error response or by one response for each of its
operations (`Batch.Answered`). The only failures are URLs that cannot be read. A plain operation
with such a URL gets no response of its own: the batch fails, what was done in front of the
operation stays done, and the parts behind it are not answered.

Main result: `Batch.execute_ends`.
-/

namespace ODataService.Batch

open ODataService.Action

variable {ω σ α β : Type}

/-! ## Targets -/

/-- The operations of a part. -/
def Part.operations : Part → List Operation
  | .single o => [o]
  | .changeset os => os

/-- What is wrong with the URL of an operation; `base` is the base path of the service. -/
def Operation.urlFault? (base : String) : Operation → Option UrlFault
  | .unreadable _ => none
  | .request r =>
    match Url.Target.ofUrl base r.url with
    | .ok _ => none
    | .error fault => some fault

/-- The URL of an operation can be read. -/
def Operation.HasTarget (base : String) (o : Operation) : Prop := o.urlFault? base = none

instance (base : String) (o : Operation) : Decidable (o.HasTarget base) :=
  inferInstanceAs (Decidable (_ = none))

/-- The URLs of all operations of a part can be read. -/
def Part.HasTargets (base : String) (p : Part) : Prop := ∀ o ∈ p.operations, o.HasTarget base

instance (base : String) (p : Part) : Decidable (p.HasTargets base) :=
  inferInstanceAs (Decidable (∀ o ∈ p.operations, o.HasTarget base))

/-- A part that is a read is a single operation. -/
theorem eq_single_of_read? {p : Part} {o : Operation} (h : p.read? = some o) :
    p = .single o ∧ o.isRead = true := by
  cases p with
  | changeset os => simp [Part.read?] at h
  | single o' =>
    rw [Part.read?] at h
    split at h
    · next hread =>
      obtain rfl := Option.some.inj h
      exact ⟨rfl, hread⟩
    · simp at h

/-! ## Responses -/

/-- The responses to a part: to a plain operation, whose URL can be read, exactly one; to a
changeset one for each of its operations if all of them succeed, and else one error response. -/
def Part.Answered (base : String) : Part → List Http.Response → Prop
  | .single o, rs => o.HasTarget base ∧ ∃ r, rs = [r]
  | .changeset os, rs =>
    (rs.length = os.length ∧ ∀ r ∈ rs, failed r = false) ∨ ∃ r, rs = [r] ∧ failed r = true

/-- The responses are those to the parts, in the order of the parts. -/
def Answered (base : String) (ps : List Part) (rs : List Http.Response) : Prop :=
  ∃ rss, List.Forall₂ (Part.Answered base) ps rss ∧ rs = rss.flatten

/-- The responses are those to the parts, in the order of the parts, and those to a part have the
property `Q` of the part. -/
def Each (Q : Part → List Http.Response → Prop) (ps : List Part) (rs : List Http.Response) : Prop :=
  ∃ rss, List.Forall₂ Q ps rss ∧ rs = rss.flatten

variable {base : String} {Q : Part → List Http.Response → Prop}

theorem Each.nil : Each Q [] [] := ⟨[], .nil, rfl⟩

/-- One more part has its responses in front. -/
theorem Each.cons {p : Part} {ps : List Part} {here rs : List Http.Response} (hp : Q p here)
    (hps : Each Q ps rs) : Each Q (p :: ps) (here ++ rs) := by
  obtain ⟨rss, hall, rfl⟩ := hps
  exact ⟨here :: rss, .cons hp hall, rfl⟩

/-- Parts in a row have their responses in a row. -/
theorem Each.append {ps qs : List Part} {rs rs' : List Http.Response} (hps : Each Q ps rs)
    (hqs : Each Q qs rs') : Each Q (ps ++ qs) (rs ++ rs') := by
  obtain ⟨rss, hall, rfl⟩ := hps
  obtain ⟨rss', hall', rfl⟩ := hqs
  exact ⟨rss ++ rss', List.rel_append hall hall', List.flatten_append.symm⟩

/-! ## Ends -/

/-- A success has the property `Q`, a failure the property `F`. -/
def Meets (Q : α → Prop) (F : Failure → Prop) : Except Failure α → Prop
  | .ok x => Q x
  | .error f => F f

/-- Less may be said of a result. -/
theorem Meets.imp {Q Q' : α → Prop} {F F' : Failure → Prop} {x : Except Failure α}
    (h : Meets Q F x) (hQ : ∀ a, Q a → Q' a) (hF : ∀ f, F f → F' f) : Meets Q' F' x := by
  cases x with
  | ok a => exact hQ a h
  | error f => exact hF f h

/-- Whatever state the action starts in, its result has the property `Q` and its failure the
property `F`. -/
def Ends (Q : α → Prop) (F : Failure → Prop) (a : Action ω α) : Prop :=
  ∀ w, Meets Q F (a.exec w).1

variable {Q : α → Prop} {F : Failure → Prop}

theorem Ends.pure {x : α} (h : Q x) : Ends Q F (Pure.pure x : Action ω α) := fun _ => h

theorem Ends.fail {f : Failure} (h : F f) : Ends Q F (Action.fail f : Action ω α) := fun _ => h

/-- What ends goes on to an end. -/
theorem Ends.bind {a : Action ω α} {g : α → Action ω β} {Q' : β → Prop} (h : Ends Q F a)
    (hg : ∀ x, Q x → Ends Q' F (g x)) : Ends Q' F (a >>= g) := by
  intro w
  have ha := h w
  rw [exec_bind]
  rcases hx : a.exec w with ⟨x | f, w'⟩
  · rw [hx] at ha
    exact ha
  · rw [hx] at ha
    exact hg _ ha w'

/-- What cannot fail succeeds. -/
theorem Ends.lift {m : StateM ω α} (h : ∀ w, Q (m.run w).1) : Ends Q F (m : Action ω α) := h

/-- Where no failure is possible there is a result. -/
theorem Ends.ok {a : Action ω α} (h : Ends Q (fun _ => False) a) (w : ω) :
    ∃ x w', a.exec w = (.ok x, w') ∧ Q x := by
  have hw := h w
  rcases hx : a.exec w with ⟨f | x, w'⟩
  · rw [hx] at hw
    exact hw.elim
  · rw [hx] at hw
    exact ⟨x, w', rfl, hw⟩

/-- Where no result is possible there is a failure. -/
theorem Ends.error {a : Action ω α} (h : Ends (fun _ => False) F a) (w : ω) :
    ∃ f w', a.exec w = (.error f, w') ∧ F f := by
  have hw := h w
  rcases hx : a.exec w with ⟨f | x, w'⟩
  · rw [hx] at hw
    exact ⟨f, w', rfl, hw⟩
  · rw [hx] at hw
    exact hw.elim

/-! ## Parts -/

/-- The failure of an operation whose URL cannot be read. -/
def UrlFailure (base : String) (o : Operation) (f : Failure) : Prop :=
  ∃ fault, o.urlFault? base = some fault ∧ f = .url fault

/-- An operation is answered if its URL can be read, and fails if not. -/
theorem ends_answer (d : Dispatcher ω) (base : String) (o : Operation) :
    Ends (fun _ => o.HasTarget base) (UrlFailure base o) (answer d base o) := by
  cases o with
  | unreadable cause => exact .pure rfl
  | request r =>
    rw [answer]
    cases ht : Url.Target.ofUrl base r.url with
    | error fault => exact .fail ⟨fault, by simp only [Operation.urlFault?, ht], rfl⟩
    | ok t =>
      have htarget : (Operation.request r).HasTarget base := by
        simp only [Operation.HasTarget, Operation.urlFault?, ht]
      dsimp only
      split
      · exact .pure htarget
      · exact .lift fun _ => htarget

section parts

variable {Q : Part → List Http.Response → Prop} (d : Dispatcher (World σ))

/-- The operations of a group end each on its own. -/
theorem forall₂_answerEach {group : List Operation}
    (h : ∀ o ∈ group, Ends (fun r => Q (.single o) [r]) F (answer d base o)) (w : World σ) :
    List.Forall₂ (fun o => Meets (fun r => Q (.single o) [r]) F) group
      ((answerEach d base group).run w).1 := by
  unfold answerEach
  induction group generalizing w with
  | nil => exact .nil
  | cons o os ih =>
    rw [List.mapM_cons]
    exact .cons (h o List.mem_cons_self w) (ih (fun o' ho' => h o' (List.mem_cons_of_mem o ho')) _)

/-- A group comes to the responses of its operations, or to a failure among theirs. -/
theorem meets_gather {group : List Operation} {results : List (Except Failure Http.Response)}
    (h : List.Forall₂ (fun o => Meets (fun r => Q (.single o) [r]) F) group results) :
    Meets (Each Q (group.map .single)) F (gather results) := by
  induction h with
  | nil => exact .nil
  | @cons o x os xs ho _ ih =>
    -- the first failure is the one that is reported
    cases x with
    | error f => exact ho
    | ok r =>
      rw [gather]
      cases hrest : gather xs with
      | error f =>
        rw [hrest] at ih
        exact ih
      | ok rs =>
        rw [hrest] at ih
        have hhere : Q (.single o) [r] := ho
        exact .cons hhere ih

/-- A group of reads ends as its operations do. -/
theorem ends_runReads {group : List Operation}
    (h : ∀ o ∈ group, Ends (fun r => Q (.single o) [r]) F (answer d base o)) :
    Ends (Each Q (group.map .single)) F (runReads d base group) := by
  refine .bind (Q := fun results => Meets (Each Q (group.map .single)) F (gather results))
    (.lift fun w => meets_gather (forall₂_answerEach d h w)) fun results hresults => ?_
  cases hx : gather results with
  | ok rs => rw [hx] at hresults; exact .pure hresults
  | error f => rw [hx] at hresults; exact .fail hresults

/-- Parts behind a group that waits. -/
theorem ends_runParts (group : List Operation) (ps : List Part)
    (hgroup : ∀ o ∈ group, Ends (fun r => Q (.single o) [r]) F (answer d base o))
    (hsingle : ∀ o, .single o ∈ ps → Ends (fun r => Q (.single o) [r]) F (answer d base o))
    (hset : ∀ os, .changeset os ∈ ps →
      Ends (fun outcome => Q (.changeset os) outcome.responses) F (runChangeset d base os)) :
    Ends (Each Q (group.map .single ++ ps)) F (runParts d base group ps) := by
  induction ps generalizing group with
  | nil =>
    rw [List.append_nil]
    exact ends_runReads d hgroup
  | cons p ps ih =>
    -- the other parts end whatever group waits in front of them
    have hrest (group : List Operation)
        (hgroup : ∀ o ∈ group, Ends (fun r => Q (.single o) [r]) F (answer d base o)) :
        Ends (Each Q (group.map .single ++ ps)) F (runParts d base group ps) :=
      ih group hgroup (fun o ho => hsingle o (List.mem_cons_of_mem p ho))
        (fun os hos => hset os (List.mem_cons_of_mem p hos))
    rw [runParts]
    cases hp : p.read? with
    | some o =>
      -- the operation joins the group
      obtain ⟨rfl, -⟩ := eq_single_of_read? hp
      have hjoined := hrest (group ++ [o])
        (by simpa [or_imp, forall_and] using ⟨hgroup, hsingle o List.mem_cons_self⟩)
      simpa using hjoined
    | none =>
      have hpart : Ends (Q p) F (runPart d base p) := by
        cases p with
        | single o => exact .bind (hsingle o List.mem_cons_self) fun r hr => .pure hr
        | changeset os => exact .bind (hset os List.mem_cons_self) fun outcome h => .pure h
      refine .bind (ends_runReads d hgroup) fun before hbefore => ?_
      refine .bind hpart fun here hhere => ?_
      refine .bind (hrest [] (by simp)) fun behind hbehind => .pure ?_
      rw [List.append_assoc]
      exact hbefore.append (.cons hhere hbehind)

/-- What a changeset of `count` operations comes to if the responses to them have the property `P`:
to one response for each operation if all succeed, and else to the error of the one that fails. -/
def Settled (P : Http.Response → Prop) (count : Nat) (rs : List Http.Response) : Prop :=
  (rs.length = count ∧ ∀ r ∈ rs, failed r = false) ∨
    ∃ failing succeeded total, P failing ∧ failed failing = true ∧
      rs = (abortedOutcome failing succeeded total).responses

variable {P : Http.Response → Prop}

/-- A changeset that goes on behind operations that succeeded. -/
theorem ends_runOperations {os : List Operation} (total : Nat)
    (answered : List (Operation × Http.Response))
    (h : ∀ o ∈ os, Ends P F (answer d base o)) (hanswered : ∀ a ∈ answered, failed a.2 = false) :
    Ends (fun outcome => Settled P (answered.length + os.length) outcome.responses) F
      (runOperations d base total answered os) := by
  -- by induction on the operations that are left, none of those in front having failed
  induction os generalizing answered with
  | nil =>
    refine .pure (.inl ⟨by simp [completedOutcome], fun r hr => ?_⟩)
    obtain ⟨a, ha, rfl⟩ := List.mem_map.1 hr
    exact hanswered a ha
  | cons o os ih =>
    rw [runOperations]
    refine .bind (h o List.mem_cons_self) fun r hP => ?_
    split
    · next hr =>
      -- the changeset is given up, and one response stands for all of it
      refine .bind (Q := fun _ => True) (.lift fun _ => trivial) fun _ _ => ?_
      refine .bind (Q := fun _ => True) (.lift fun _ => trivial) fun _ _ => ?_
      exact .pure (.inr ⟨r, _, _, hP, hr, rfl⟩)
    · next hr =>
      have hrest := ih (answered ++ [(o, r)]) (fun o' ho' => h o' (List.mem_cons_of_mem o ho'))
        (fun a ha => by
          rcases List.mem_append.1 ha with ha | ha
          · exact hanswered a ha
          · obtain rfl := List.mem_singleton.1 ha
            exact Bool.eq_false_iff.2 hr)
      rw [List.length_append, List.length_singleton, Nat.add_right_comm] at hrest
      exact hrest

/-- A changeset ends as its operations do. -/
theorem ends_runChangeset {os : List Operation} (h : ∀ o ∈ os, Ends P F (answer d base o)) :
    Ends (fun outcome => Settled P os.length outcome.responses) F (runChangeset d base os) := by
  have hrun := ends_runOperations d os.length [] h (by simp)
  rw [List.length_nil, Nat.zero_add] at hrun
  exact hrun

end parts

variable (d : Dispatcher (World σ))

/-- If only the URLs of its operations make a batch fail, each part is answered. -/
theorem ends_answered {ps : List Part}
    (hF : ∀ p ∈ ps, ∀ o ∈ p.operations, ∀ f, UrlFailure base o f → F f) :
    Ends (Answered base ps) F (runParts d base [] ps) := by
  have hanswer {o : Operation} (ho : ∀ f, UrlFailure base o f → F f) :
      Ends (fun _ : Http.Response => o.HasTarget base) F (answer d base o) := fun w =>
    (ends_answer d base o w).imp (fun _ h => h) ho
  -- a read answers for itself, and a changeset for all of its operations
  refine ends_runParts (Q := Part.Answered base) d [] ps (by simp) (fun o hp => ?_) fun os hp => ?_
  · have ho := hanswer (hF _ hp o (List.mem_singleton_self o))
    exact fun w => (ho w).imp (fun r h => ⟨h, r, rfl⟩) fun _ h => h
  · have hrun := ends_runChangeset d (P := fun _ => True) fun o ho =>
      fun w => (hanswer (hF _ hp o ho) w).imp (fun _ _ => trivial) fun _ h => h
    refine fun w => (hrun w).imp (fun outcome h => ?_) fun _ h => h
    rcases h with hall | ⟨failing, _, _, -, hfailing, hrs⟩
    · exact .inl hall
    · exact .inr ⟨_, hrs, hfailing⟩

/-- A request whose URL cannot be split fails with that. -/
theorem answer_of_fault (d : Dispatcher ω) {o : Operation} {fault : UrlFault}
    (ho : o.urlFault? base = some fault) : answer d base o = Action.fail (.url fault) := by
  cases o with
  | unreadable cause => simp [Operation.urlFault?] at ho
  | request r =>
    rw [answer]
    cases ht : Url.Target.ofUrl base r.url with
    | ok t => simp [Operation.urlFault?, ht] at ho
    | error fault' =>
      obtain rfl : fault' = fault := by simpa [Operation.urlFault?, ht] using ho
      rfl

/-- A plain operation that writes and whose URL cannot be read ends the batch: the parts in front of
it have been answered, those behind it are not. -/
theorem runParts_stop {o : Operation} {fault : UrlFault} (ho : o.urlFault? base = some fault)
    (hread : o.isRead = false) (group : List Operation) (front behind : List Part) :
    runParts d base group (front ++ .single o :: behind) =
      runParts d base group front >>= fun _ => Action.fail (.url fault) := by
  -- the parts in front are answered first, whatever group waits
  induction front generalizing group with
  | nil =>
    have hnone : (Part.single o).read? = none := by simp [Part.read?, hread]
    have hpart : runPart d base (.single o) = Action.fail (.url fault) := by
      rw [runPart, answer_of_fault d ho]
      rfl
    simp only [List.nil_append, runParts, hnone, hpart]
    rfl
  | cons p front ih =>
    simp only [List.cons_append, runParts]
    cases p.read? with
    | some o' => exact ih _
    | none =>
      simp only [ih, bind_assoc, pure_bind]
      rfl

/-- How a batch ends. If all of its URLs can be read, every part gets its responses. Only URLs that
cannot be read make it fail; then a plain operation that writes has no response of its own, and the
batch stops there. -/
theorem execute_ends (base : String) {boundary body : String} {ps : List Part}
    (hparse : parse boundary body = .ok ps) (w : World σ) :
    ((∀ p ∈ ps, p.HasTargets base) →
      ∃ rs w', (execute d base boundary body).exec w = (.ok rs, w') ∧ Answered base ps rs) ∧
    Meets (Answered base ps) (fun f => ∃ p ∈ ps, ∃ o ∈ p.operations, UrlFailure base o f)
      ((execute d base boundary body).exec w).1 ∧
    ∀ front o behind fault, ps = front ++ .single o :: behind →
      o.urlFault? base = some fault → o.isRead = false → (∀ p ∈ front, p.HasTargets base) →
        ∃ rs w', (runParts d base [] front).exec w = (.ok rs, w') ∧
          (execute d base boundary body).exec w = (.error (.url fault), w') := by
  have hexec : (execute d base boundary body).exec w = (runParts d base [] ps).exec w :=
    exec_bind_ok (exec_ofRejection_ok hparse w)
  -- where all URLs can be split there is nothing to fail with
  have hno {qs : List Part} (hqs : ∀ p ∈ qs, p.HasTargets base) :
      Ends (Answered base qs) (fun _ => False) (runParts d base [] qs) := by
    refine ends_answered d fun p hp o ho f hf => ?_
    obtain ⟨fault, hfault, -⟩ := hf
    have hnone : o.urlFault? base = none := hqs p hp o ho
    simp [hnone] at hfault
  rw [hexec]
  refine ⟨fun h => (hno h).ok w, ?_, ?_⟩
  · exact ends_answered d (fun p hp o ho f hf => ⟨p, hp, o, ho, hf⟩) w
  · rintro front o behind fault rfl hfault hread hfront
    obtain ⟨rs, w', hrun, -⟩ := (hno hfront).ok w
    refine ⟨rs, w', hrun, ?_⟩
    rw [runParts_stop d hfault hread, exec_bind_ok hrun]
    rfl

/-- A batch whose second part has an address without an end. -/
def badAddressBody : String :=
  "--b\r\n\r\nPOST A HTTP/1.1\r\n\r\n--b\r\n\r\nPUT http://[ HTTP/1.1\r\n\r\n" ++
  "--b\r\n\r\nDELETE A HTTP/1.1\r\n\r\n--b--"

/-- Answers every request, and keeps the methods of the requests. -/
def keepMethods : Dispatcher (World (List String)) := fun q => do
  modify fun w => { w with store := w.store ++ [q.method] }
  return .empty 204 []

/-- The first request has been made, the last one never is, and there is no response. -/
theorem execute_ends_bad_address :
    ∃ w', (execute keepMethods "" "b" badAddressBody).exec ⟨[], 0, []⟩ =
        (.error (.url .brackets), w') ∧ w'.store = ["POST"] := by
  have hparse : parse "b" badAddressBody = .ok
      [.single (.request ⟨"POST", "A", [], ""⟩), .single (.request ⟨"PUT", "http://[", [], ""⟩),
        .single (.request ⟨"DELETE", "A", [], ""⟩)] := by
    decide +kernel
  obtain ⟨-, -, hstop⟩ := execute_ends keepMethods "" hparse ⟨[], 0, []⟩
  obtain ⟨rs, w', hfront, hrun⟩ := hstop [.single (.request ⟨"POST", "A", [], ""⟩)] _ _ .brackets
    rfl (by decide +kernel) rfl (by decide +kernel)
  have hstore : ((runParts keepMethods "" [] [.single (.request ⟨"POST", "A", [], ""⟩)]).exec
      ⟨[], 0, []⟩).2.store = ["POST"] := by
    decide +kernel
  rw [hfront] at hstore
  exact ⟨w', hrun, hstore⟩

end ODataService.Batch
