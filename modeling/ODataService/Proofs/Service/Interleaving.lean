import ODataService.Proofs.Service.Tagging

/-!
# Changes at the same time

A request that changes a record on a condition calls two operations of the store: it gets the record
to test the condition, and later it writes. Each call is one step, and nothing holds the record
between the two; so other requests may come in between. Here two such requests take their steps in
any order (`Race`).

If the one has written before the other asks, then only the one is let through. If both have asked
before either writes, then both are let through, and the later change is made on top of the earlier
one (`Service.race_answers`).
-/

namespace ODataService.Service

open ODataService.Action EntityTag

/-! ## The two steps of a change -/

section steps

variable {σ : Type}

/-- The first step of a change: what is to be written is read, and the condition is tested on the
record that is stored. -/
def askLeave (s : Service σ) (set key : String) (q : Http.Request) : Action (World σ) Record := do
  let data ← Action.ofResult (Content.readRecord q.body.toText)
  s.checkCondition set key q
  return data

/-- The second step of a change: it is made and answered. -/
def makeChange (s : Service σ) (set key : String) (data : Record) :
    Action (World σ) Http.Response := do
  let stored ← s.engine.update set key data
  let updated ← present set key stored
  let body ← usable (s.entityBody set updated)
  let tag ← s.tag? updated
  return .json 200 body (tagHeader tag)

/-- The two steps taken one right after the other are the change as it is answered. -/
theorem replyUpdate_eq (s : Service σ) (set key : String) (q : Http.Request) :
    s.replyUpdate set key q = s.askLeave set key q >>= s.makeChange set key := by
  simp only [replyUpdate, askLeave, makeChange, bind_assoc, pure_bind]

/-- How far a change has come. -/
inductive Phase where
  | asking
  /-- The condition was met when it was tested. -/
  | writing (data : Record)
  | answered (r : Http.Response)

/-- The answer, once there is one. -/
def Phase.response? : Phase → Option Http.Response
  | asking | writing _ => none
  | answered r => some r

/-- Takes the next step of a change. -/
def Phase.step (s : Service σ) (set key : String) (q : Http.Request) :
    Phase → StateM (World σ) Phase
  | asking => do
    match ← (s.askLeave set key q).run with
    | .ok data => return writing data
    | .error f =>
      let r ← s.answerFailure q f
      return answered r
  | writing data => do
    let r ← s.answering (fun _ => s.makeChange set key data) q
    return answered r
  | answered r => return answered r

/-- A change that takes its two steps without interruption is the change as it is answered. -/
theorem step_step (s : Service σ) (set key : String) (q : Http.Request) :
    (Phase.asking.step s set key q >>= Phase.step s set key q) =
      Phase.answered <$> s.answering (s.replyUpdate set key) q := by
  rw [answering, replyUpdate_eq, ExceptT.run_bind, Phase.step]
  simp only [bind_assoc, map_bind]
  congr 1
  funext x
  -- only a condition that is met leads to a second step
  cases x with
  | error f => simp [Phase.step]
  | ok data => simp [Phase.step, answering]

end steps

/-! ## Two changes -/

/-- Two clients. -/
inductive Client where
  | one
  | two
deriving DecidableEq, Repr

theorem Client.eq_or_eq {c d : Client} (h : c ≠ d) (e : Client) : e = c ∨ e = d := by
  cases c <;> cases d <;> cases e <;> simp_all

/-- For each client there is another one. -/
theorem Client.exists_ne (c : Client) : ∃ d, c ≠ d := by
  cases c
  · exact ⟨two, by decide⟩
  · exact ⟨one, by decide⟩

/-- Two changes of one record while they are made, each by a client. -/
structure Race (σ : Type) where
  world : World σ
  phase : Client → Phase

namespace Race

variable {σ : Type}

/-- Neither client has asked yet. -/
def start (w : World σ) : Race σ := ⟨w, fun _ => .asking⟩

/-- A client comes to another phase, and the world becomes `w`. -/
def come (race : Race σ) (c : Client) (p : Phase) (w : World σ) : Race σ :=
  ⟨w, fun d => if d = c then p else race.phase d⟩

/-- A client takes its next step. -/
def step (s : Service σ) (set key : String) (q : Client → Http.Request) (race : Race σ)
    (c : Client) : Race σ :=
  let (p, w) := ((race.phase c).step s set key (q c)).run race.world
  race.come c p w

/-- The clients take steps in the given order. -/
def run (s : Service σ) (set key : String) (q : Client → Http.Request) (race : Race σ)
    (order : List Client) : Race σ :=
  order.foldl (step s set key q) race

/-- Both clients have answers, `c` the answer `r` and the other one `r'`. -/
def ended (w : World σ) (c : Client) (r r' : Http.Response) : Race σ :=
  ⟨w, fun d => .answered (if d = c then r else r')⟩

variable {s : Service σ} {set key : String} {q : Client → Http.Request} {race : Race σ}
  {c d : Client}

@[simp]
theorem come_phase_self (p : Phase) (w : World σ) : (race.come c p w).phase c = p := if_pos rfl

theorem come_phase_of_ne (h : d ≠ c) (p : Phase) (w : World σ) :
    (race.come c p w).phase d = race.phase d := if_neg h

/-- Of two steps of one client, the later one tells where it is. -/
theorem come_come (p p' : Phase) (w w' : World σ) :
    (race.come c p w).come c p' w' = race.come c p' w' := by
  simp only [come, mk.injEq, true_and]
  funext d
  split <;> rfl

theorem run_cons (order : List Client) : race.run s set key q (c :: order) =
    (race.step s set key q c).run s set key q order := rfl

/-- A step of a client is the step of its phase in the present world. -/
theorem step_eq {p p' : Phase} {w : World σ} (hc : race.phase c = p)
    (h : (p.step s set key (q c)).run race.world = (p', w)) :
    race.step s set key q c = race.come c p' w := by
  rw [step, hc, h]

/-- Who has an answer takes no further steps. -/
theorem step_answered {r : Http.Response} (h : race.phase c = .answered r) :
    race.step s set key q c = race := by
  -- a client that is done does nothing
  have hstep : ((Phase.answered r).step s set key (q c)).run race.world =
      (.answered r, race.world) := rfl
  rw [step_eq h hstep, come]
  congr 1
  funext d
  split
  · next hd => rw [hd, h]
  · rfl

/-- When both clients have answers, nothing happens any more. -/
theorem run_of_answered (h : ∀ c, ∃ r, race.phase c = .answered r) (order : List Client) :
    race.run s set key q order = race := by
  induction order with
  | nil => rfl
  | cons c order ih =>
    obtain ⟨r, hr⟩ := h c
    rw [run_cons, step_answered hr, ih]

/-- When one client has an answer, the other takes its last step undisturbed. -/
theorem run_last {r r' : Http.Response} {p : Phase} {w : World σ} (hne : c ≠ d)
    (hc : race.phase c = .answered r) (hd : race.phase d = p)
    (h : (p.step s set key (q d)).run race.world = (.answered r', w)) {order : List Client}
    (hmem : d ∈ order) : race.run s set key q order = ended w c r r' := by
  -- on the order: steps of the client that is done change nothing
  induction order with
  | nil => simp at hmem
  | cons e order ih =>
    rw [run_cons]
    rcases Client.eq_or_eq hne e with rfl | rfl
    · rw [step_answered hc]
      exact ih ((List.mem_cons.1 hmem).resolve_left (Ne.symm hne))
    -- the other client takes its last step, and both are done
    · have hended : race.step s set key q e = ended w c r r' := by
        rw [step_eq hd h, ended, come]
        congr 1
        funext f
        rcases Client.eq_or_eq hne f with rfl | rfl
        · rw [if_neg hne, hc, if_pos rfl]
        · rw [if_pos rfl, if_neg (Ne.symm hne)]
      rw [hended]
      exact run_of_answered (fun f => ⟨_, rfl⟩) order

end Race

section inMemory

variable {settings : Settings} {set key : String} {w : World Store} {old data : Record} {u v : Int}
  {q : Http.Request}

/-- Actions that come to the same are answered in the same way. -/
theorem run_answering_congr {reply reply' : Responder Store}
    (h : (reply q).exec w = (reply' q).exec w) :
    ((inMemory settings).answering reply q).run w =
      ((inMemory settings).answering reply' q).run w := by
  -- to run an action is to look at its function of the state
  have hrun : StateT.run (ExceptT.run (reply q)) w = StateT.run (ExceptT.run (reply' q)) w := h
  rw [answering, answering, StateT.run_bind, hrun, StateT.run_bind]

/-- A request whose two steps come one right after the other is answered as it is by itself. -/
theorem run_handle_of_steps {p : Phase} {r : Http.Response} {w₁ w₂ : World Store}
    (hm : q.method = "PUT" ∨ q.method = "PATCH") (hd : w.store.declares set = true)
    (ha : q.Addresses set key)
    (hasking : (Phase.asking.step (inMemory settings) set key q).run w = (p, w₁))
    (hlast : (p.step (inMemory settings) set key q).run w₁ = (.answered r, w₂)) :
    ((inMemory settings).handle q).run w = (r, w₂) := by
  -- the two steps of a client are those of its request, if nothing comes between them
  have hsteps : (Phase.asking.step (inMemory settings) set key q >>=
      Phase.step (inMemory settings) set key q).run w = (.answered r, w₂) := by
    rw [StateT.run_bind, hasking]
    exact hlast
  have hhandle : ((inMemory settings).handle q).run w =
      ((inMemory settings).answering ((inMemory settings).replyUpdate set key) q).run w :=
    run_answering_congr (exec_route_update hm hd ha)
  rw [step_step, StateT.run_map, ← hhandle] at hsteps
  obtain ⟨hr, hw⟩ := Prod.mk.inj hsteps
  exact Prod.ext (Phase.answered.inj hr) hw

/-- The answer to a change whose condition is not met. -/
def refusal (settings : Settings) : Http.Response :=
  .ofError ((Failure.rejected mismatch).toErrorBody settings.debug)

theorem status_refusal (settings : Settings) : (refusal settings).status = 412 :=
  status_rejected settings.debug mismatch

/-- A client whose condition is met is let through, and the world stays as it is. -/
theorem run_asking_met (hd : w.store.declares set = true) (hr : w.store.record? set key = some old)
    (hbody : Content.readRecord q.body.toText = .ok data) (h : Meets settings q old) :
    (Phase.asking.step (inMemory settings) set key q).run w = (.writing data, w) := by
  -- the body is read and the condition holds
  have hask : ((inMemory settings).askLeave set key q).exec w = (.ok data, w) := by
    rw [askLeave, exec_bind_ok (exec_ofResult_ok hbody w),
      exec_bind_ok (exec_checkCondition hd hr h)]
    rfl
  have hrun : StateT.run (ExceptT.run ((inMemory settings).askLeave set key q)) w =
    (.ok data, w) := hask
  rw [Phase.step, StateT.run_bind, hrun]
  rfl

/-- A client whose condition is not met is answered, and the world stays as it is. -/
theorem run_asking_unmet {tag : String} (hd : w.store.declares set = true)
    (hr : w.store.record? set key = some old)
    (hbody : Content.readRecord q.body.toText = .ok data) (htag : ofRecord old = .ok tag)
    (h : ¬ Meets settings q old) :
    (Phase.asking.step (inMemory settings) set key q).run w =
      (.answered (refusal settings), w) := by
  -- the condition fails, and with it the request
  have hask : ((inMemory settings).askLeave set key q).exec w =
      (.error (.rejected mismatch), w) := by
    rw [askLeave, exec_bind_ok (exec_ofResult_ok hbody w),
      exec_bind_error (exec_checkCondition_unmet hd hr htag h)]
  have hrun : StateT.run (ExceptT.run ((inMemory settings).askLeave set key q)) w =
    (.error (.rejected mismatch), w) := hask
  rw [Phase.step, StateT.run_bind, hrun]
  show StateT.run (do
    let r ← (inMemory settings).answerFailure q (.rejected mismatch)
    return Phase.answered r) w = _
  rw [StateT.run_bind, run_answerFailure_rejected (by decide)]
  rfl

/-- The world behind a change. -/
def written (set key : String) (old data : Record) (w : World Store) : World Store :=
  { w with store := (w.store.change set (w.store.rows set) key old data).2 }

/-- A change whose condition was met is made, whatever has become of the record since. -/
theorem run_writing (hd : w.store.declares set = true) (hr : w.store.record? set key = some old)
    (hstamp : w.store.stampFault? = none) :
    ∃ r, r.status = 200 ∧ ((Phase.writing data).step (inMemory settings) set key q).run w =
      (.answered r, written set key old data w) := by
  have hupdated := Store.get?_changedRecord_updated old data w.store.stamp
  obtain ⟨tag, htag⟩ := EntityTag.exists_tag hupdated
  have hbody : (inMemory settings).entityBody set
      (.obj (Store.changedRecord old data w.store.stamp)) = .ok (recordBody settings set _) := rfl
  -- a stamp is left, so the change goes through
  have hchange : ((inMemory settings).makeChange set key data).exec w =
      (.ok (changedResponse settings set (Store.changedRecord old data w.store.stamp) tag),
        written set key old data w) := by
    rw [makeChange, exec_bind_ok (exec_engineUpdate (Store.exec_update_stamped hd hr hstamp)),
      exec_bind_ok exec_present, exec_bind_ok (exec_usable hbody), exec_bind_ok (exec_tag? htag)]
    rfl
  have hanswer : ((inMemory settings).answering
      (fun _ => (inMemory settings).makeChange set key data) q).run w = (_, _) :=
    run_answering_ok hchange
  refine ⟨changedResponse settings set (Store.changedRecord old data w.store.stamp) tag, rfl, ?_⟩
  rw [Phase.step, StateT.run_bind, hanswer]
  rfl

end inMemory

/-! ## The outcome of a race -/

/-- Two clients want to change a record that both know in its present version, and stamps are left
for both changes. -/
structure Contest (settings : Settings) (set key : String) (q : Client → Http.Request)
    (data : Client → Record) (s : Store) (old : Record) (u : Int) : Prop where
  tags : settings.entityTags = true
  sound : s.Sound
  declared : s.declares set = true
  stored : s.record? set key = some old
  version : ∃ created, Store.Kept s.lastStamp key old created u
  body : ∀ c, Content.readRecord (q c).body.toText = .ok (data c)
  condition : ∀ c, (q c).header? "if-match" = some (stampTag u)
  stamp : s.stampFault? = none
  nextStamp : s.stamped.stampFault? = none

namespace Contest

variable {settings : Settings} {set key : String} {q : Client → Http.Request}
  {data : Client → Record} {s : Store} {old : Record} {u : Int} {c d : Client} {w : World Store}

section

variable (h : Contest settings set key q data w.store old u)

include h

/-- Both clients know the present version, so whoever asks now is let through. -/
theorem asks (c : Client) :
    (Phase.asking.step (inMemory settings) set key (q c)).run w = (.writing (data c), w) := by
  obtain ⟨created, hkept⟩ := h.version
  exact run_asking_met h.declared h.stored (h.body c)
    ((meets_iff h.tags (h.condition c) hkept.tag).2 rfl)

/-- The first change that is made replaces the record and takes a stamp. -/
theorem changedStamped (c : Client) :
    Store.Changed w.store (written set key old (data c) w).store set key old
        (Store.changedRecord old (data c) w.store.stamp) ∧
      (written set key old (data c) w).store.lastStamp = some w.store.nextStamp :=
  h.sound.changedStamped h.declared h.stored rfl

/-- The first change that is made replaces the record. -/
theorem changed (c : Client) : Store.Changed w.store (written set key old (data c) w).store set key
    old (Store.changedRecord old (data c) w.store.stamp) :=
  (h.changedStamped c).1

/-- The first of the changes leaves the record in another version. -/
theorem refuses (c d : Client) :
    (Phase.asking.step (inMemory settings) set key (q d)).run (written set key old (data c) w) =
      (.answered (refusal settings), written set key old (data c) w) := by
  obtain ⟨created, hkept⟩ := h.version
  have hchanged := h.changed c
  have hkept' := hkept.changed h.stamp (data c)
  refine run_asking_unmet (hchanged.declares_eq set ▸ h.declared) hchanged.rows.get?_self (h.body d)
    hkept'.tag fun hmeets => ?_
  -- the version is that of a stamp taken since
  have hsame := (meets_iff h.tags (h.condition d) hkept'.tag).1 hmeets
  obtain ⟨last, hlast, hle⟩ := hkept.taken
  have hlt := (Store.nextStamp_spec h.stamp).2 last hlast
  omega

/-- The first change that is made is answered with 200. -/
theorem writes (c : Client) : ∃ r, r.status = 200 ∧
    ((Phase.writing (data c)).step (inMemory settings) set key (q c)).run w =
      (.answered r, written set key old (data c) w) :=
  run_writing h.declared h.stored h.stamp

/-- The second change that is let through is made on top of the first. -/
theorem writesAgain (c d : Client) : ∃ r, r.status = 200 ∧
    ((Phase.writing (data d)).step (inMemory settings) set key (q d)).run
      (written set key old (data c) w) = (.answered r,
        written set key (Store.changedRecord old (data c) w.store.stamp) (data d)
          (written set key old (data c) w)) := by
  have hchanged := h.changed c
  exact run_writing (hchanged.declares_eq set ▸ h.declared) hchanged.rows.get?_self h.nextStamp

/-- The second change replaces what the first has made of the record. -/
theorem changedAgain (c d : Client) :
    Store.Changed (written set key old (data c) w).store
      (written set key (Store.changedRecord old (data c) w.store.stamp) (data d)
        (written set key old (data c) w)).store set key
      (Store.changedRecord old (data c) w.store.stamp)
      (Store.changedRecord (Store.changedRecord old (data c) w.store.stamp) (data d)
        (written set key old (data c) w).store.stamp) := by
  obtain ⟨hchanged, hlast⟩ := h.changedStamped c
  -- the store is sound again after the first change
  have hsound := h.sound.of_step (.changed hchanged h.stamp hlast)
  exact (hsound.changedStamped (hchanged.declares_eq set ▸ h.declared) hchanged.rows.get?_self
    rfl).1

/-- Who takes both steps first is answered with 200, and the other client is refused. -/
theorem one_after_the_other (hne : c ≠ d) {order : List Client} (hmem : d ∈ order) :
    ∃ r, r.status = 200 ∧
      ((Phase.writing (data c)).step (inMemory settings) set key (q c)).run w =
        (.answered r, written set key old (data c) w) ∧
      Race.run (inMemory settings) set key q (.start w) (c :: c :: order) =
        .ended (written set key old (data c) w) c r (refusal settings) := by
  obtain ⟨r, hr, hwrites⟩ := h.writes c
  -- the two steps of the first client
  have hasked : Race.step (inMemory settings) set key q (.start w) c =
      (Race.start w).come c (.writing (data c)) w := Race.step_eq rfl (h.asks c)
  have hwritten : Race.step (inMemory settings) set key q
      ((Race.start w).come c (.writing (data c)) w) c =
        (Race.start w).come c (.answered r) (written set key old (data c) w) := by
    rw [Race.step_eq (Race.come_phase_self _ _) hwrites, Race.come_come]
  have hwaiting : ((Race.start w).come c (.answered r) (written set key old (data c) w)).phase d =
      .asking := Race.come_phase_of_ne (Ne.symm hne) _ _
  refine ⟨r, hr, hwrites, ?_⟩
  rw [Race.run_cons, hasked, Race.run_cons, hwritten]
  exact Race.run_last hne (Race.come_phase_self _ _) hwaiting (h.refuses c d) hmem

/-- When both clients have asked, both changes are made in the order in which they come. -/
theorem both_write (hne : c ≠ d) {order : List Client} (hmem : d ∈ order) :
    ∃ r r', r.status = 200 ∧ r'.status = 200 ∧
      Race.run (inMemory settings) set key q ⟨w, fun e => .writing (data e)⟩ (c :: order) =
        .ended (written set key (Store.changedRecord old (data c) w.store.stamp) (data d)
          (written set key old (data c) w)) c r r' := by
  obtain ⟨r, hr, hwrites⟩ := h.writes c
  obtain ⟨r', hr', hwritesAgain⟩ := h.writesAgain c d
  -- the first update leaves the other client where it was
  have hwritten : Race.step (inMemory settings) set key q ⟨w, fun e => .writing (data e)⟩ c =
      Race.come ⟨w, fun e => .writing (data e)⟩ c (.answered r)
        (written set key old (data c) w) := Race.step_eq rfl hwrites
  refine ⟨r, r', hr, hr', ?_⟩
  rw [Race.run_cons, hwritten]
  exact Race.run_last hne (Race.come_phase_self _ _) (Race.come_phase_of_ne (Ne.symm hne) _ _)
    hwritesAgain hmem

/-- When both clients ask before one of them writes, both are let through. -/
theorem both_at_once (hne : c ≠ d) (order : List Client) :
    Race.run (inMemory settings) set key q (.start w) (c :: d :: order) =
      Race.run (inMemory settings) set key q ⟨w, fun e => .writing (data e)⟩ order := by
  -- asking changes nothing but the phase
  have hasked : Race.step (inMemory settings) set key q (.start w) c =
      (Race.start w).come c (.writing (data c)) w := Race.step_eq rfl (h.asks c)
  have hboth : Race.step (inMemory settings) set key q
      ((Race.start w).come c (.writing (data c)) w) d =
        ⟨w, fun e => .writing (data e)⟩ := by
    refine Eq.trans (Race.step_eq (Race.come_phase_of_ne (Ne.symm hne) _ _) (h.asks d)) ?_
    rw [Race.come]
    congr 1
    funext e
    rcases Client.eq_or_eq hne e with rfl | rfl
    · rw [if_neg hne, Race.come_phase_self]
    · rw [if_pos rfl]
  rw [Race.run_cons, hasked, Race.run_cons, hboth]

/-- Then both are answered with 200. Who comes next writes first, and this need not be the client
that has asked first. -/
theorem both_answered (hne : c ≠ d) {order : List Client} (horder : ∀ e, 0 < order.count e) :
    ∃ e f rest r r', order = e :: rest ∧ e ≠ f ∧ r.status = 200 ∧ r'.status = 200 ∧
      Race.run (inMemory settings) set key q (.start w) (c :: d :: order) =
        .ended (written set key (Store.changedRecord old (data e) w.store.stamp) (data f)
          (written set key old (data e) w)) e r r' := by
  rw [h.both_at_once hne]
  cases order with
  | nil => exact absurd (horder c) (by simp)
  -- the next step is the first update, and the other client updates behind it
  | cons e order =>
    obtain ⟨f, hother⟩ := e.exists_ne
    have hcount := horder f
    rw [List.count_cons_of_ne hother] at hcount
    obtain ⟨r, r', hr, hr', hrun⟩ := h.both_write hother (List.count_pos_iff.1 hcount)
    exact ⟨e, f, order, r, r', rfl, hother, hr, hr', hrun⟩

end

end Contest

/-- Two requests to change a record depend on its present version, and they get the record and write
in any order. If one of them has written before the other gets the record, they are answered as they
are one after the other: the one with 200, and the other with 412, and only the one has changed
anything. Otherwise both are answered with 200: the client that comes next after both have got the
record writes first, and the change of the other is made on top of that. -/
theorem race_answers (settings : Settings) (htags : settings.entityTags = true) {w : World Store}
    (hw : Store.Reachable w) {set key tag : String} {old : Record}
    (hd : w.store.declares set = true) (hstored : w.store.record? set key = some old)
    (htag : EntityTag.ofRecord old = .ok tag) {q : Client → Http.Request}
    {data : Client → Record} (hmethod : ∀ c, (q c).method = "PATCH")
    (haddresses : ∀ c, (q c).Addresses set key)
    (hcondition : ∀ c, (q c).header? "if-match" = some tag)
    (hbody : ∀ c, Content.readRecord (q c).body.toText = .ok (data c))
    (hstamps : w.store.stampFault? = none ∧ w.store.stamped.stampFault? = none)
    {order : List Client} (horder : ∀ c, 2 ≤ order.count c) :
    ∃ c d r r' w', c ≠ d ∧ r.status = 200 ∧
      Race.run (inMemory settings) set key q (.start w) order = .ended w' c r r' ∧
      ((∃ rest, order = c :: c :: rest) ∧ r'.status = 412 ∧
          ((inMemory settings).handle (q c)).run w = (r, w') ∧
          ((inMemory settings).handle (q d)).run w' = (r', w') ∧
          Store.Changed w.store w'.store set key old
            (Store.changedRecord old (data c) w.store.stamp) ∨
        (∃ rest, order = c :: d :: c :: rest ∨ order = d :: c :: c :: rest) ∧ r'.status = 200 ∧
          ∃ s : Store, Store.Changed w.store s set key old
              (Store.changedRecord old (data c) w.store.stamp) ∧
            Store.Changed s w'.store set key (Store.changedRecord old (data c) w.store.stamp)
              (Store.changedRecord (Store.changedRecord old (data c) w.store.stamp) (data d)
                s.stamp)) := by
  obtain ⟨created, u, hkept⟩ := hw.sound.kept set key old hstored
  obtain rfl : stampTag u = tag := Except.ok.inj (hkept.tag.symm.trans htag)
  have h : Contest settings set key q data w.store old u :=
    ⟨htags, hw.sound, hd, hstored, ⟨created, hkept⟩, hbody, hcondition, hstamps.1, hstamps.2⟩
  match order, horder with
  | [], horder => exact absurd (horder .one) (by decide)
  | [c], horder => exact absurd (horder c) (by simp)
  | c :: d :: rest, horder =>
    -- the first two steps are those of one client, or of both
    by_cases hcd : c = d
    · -- one client has written before the other asks
      subst hcd
      obtain ⟨d, hne⟩ := c.exists_ne
      have hcount := horder d
      rw [List.count_cons_of_ne hne, List.count_cons_of_ne hne] at hcount
      have hrest : d ∈ rest := List.count_pos_iff.1 (by omega)
      obtain ⟨r, hr, hwrites, hrun⟩ := h.one_after_the_other hne hrest
      refine ⟨c, d, r, refusal settings, _, hne, hr, hrun, .inl ⟨⟨rest, rfl⟩,
        status_refusal settings, ?_, ?_, h.changed c⟩⟩
      · exact run_handle_of_steps (.inr (hmethod c)) hd (haddresses c) (h.asks c) hwrites
      · exact run_handle_of_steps (.inr (hmethod d)) ((h.changed c).declares_eq set ▸ hd)
          (haddresses d) (h.refuses c d) rfl
    · -- both have asked, and each has a step left
      have hrest : ∀ e, 0 < rest.count e := by
        intro e
        have hcount := horder e
        rcases Client.eq_or_eq hcd e with rfl | rfl
        · rw [List.count_cons_self, List.count_cons_of_ne (Ne.symm hcd)] at hcount
          omega
        · rw [List.count_cons_of_ne hcd, List.count_cons_self] at hcount
          omega
      obtain ⟨e, f, rest, r, r', rfl, hne, hr, hr', hrun⟩ := h.both_answered hcd hrest
      refine ⟨e, f, r, r', _, hne, hr, hrun, .inr ⟨⟨rest, ?_⟩, hr', _, h.changed e,
        h.changedAgain e f⟩⟩
      -- the writer is one of the two that have asked, and the other client is the other one
      rcases Client.eq_or_eq hcd e with rfl | rfl
      · obtain rfl := (Client.eq_or_eq hcd f).resolve_left (Ne.symm hne)
        exact .inl rfl
      · obtain rfl := (Client.eq_or_eq hcd f).resolve_right (Ne.symm hne)
        exact .inr rfl

/-! ### With one record -/

/-- The record of `Store.oneRecord` in its first version. -/
def firstVersion : Record :=
  Store.newRecord [(.str "n", .int 1)] "1" (.str "2023-11-14T22:13:20.000Z")

/-- What the clients write into it. -/
def entry (c : Client) : Record := [(.str "n", .int (if c = .one then 2 else 3))]

/-- The requests of two clients that know the first version. -/
def contender (c : Client) : Http.Request :=
  { method := "PATCH", path := "/A('1')", headers := [("if-match", "W/\"1700000000000\"")]
    body := .text (if c = .one then "\x7b\"n\":2\x7d" else "\x7b\"n\":3\x7d") }

theorem record?_firstVersion : (Store.oneRecord {}).store.record? "A" "1" = some firstVersion := by
  rfl

theorem ofRecord_firstVersion : EntityTag.ofRecord firstVersion = .ok "W/\"1700000000000\"" := by
  rfl

theorem addresses_contender (c : Client) : (contender c).Addresses "A" "1" :=
  ⟨"'1'", (by decide +kernel : Route.ofPath "/A('1')" = .entity "A" "'1'"), rfl⟩

/-- Both bodies are read as what the clients want to write. -/
theorem readRecord_contender (c : Client) :
    Content.readRecord (contender c).body.toText = .ok (entry c) := by
  have hstrip : Text.strip (contender c).body.toText = (contender c).body.toText := by
    cases c <;> decide +kernel
  -- the body is a map of one number
  have hchars : (contender c).body.toText.toList =
      ['\x7b', '"', 'n', '"', ':', if c = .one then '2' else '3', '\x7d'] := by
    cases c <;> decide +kernel
  have hparse : Json.parseWithin Content.maxLevels (contender c).body.toText =
      .ok (.obj (entry c)) := by
    rw [Json.parseWithin, hchars]
    cases c <;> rfl
  rw [Content.readRecord, hstrip]
  split
  · next hnone => simp [hnone] at hchars
  · rw [hparse]

/-- The client that comes second finds another version. When both have asked before, the client that
writes last is let through as well: its change is that of the record in the end. -/
theorem race_answers_both_ways :
    (∃ r r' w', Race.run (inMemory {}) "A" "1" contender (.start (Store.oneRecord {}))
        [.one, .one, .two, .two] = .ended w' .one r r' ∧ r.status = 200 ∧ r'.status = 412) ∧
      ∃ r r' w' first last, Race.run (inMemory {}) "A" "1" contender
          (.start (Store.oneRecord {})) [.one, .two, .two, .one] = .ended w' .two r r' ∧
        r.status = 200 ∧ r'.status = 200 ∧
        w'.store.record? "A" "1" = some (Store.changedRecord
          (Store.changedRecord firstVersion (entry .two) first) (entry .one) last) := by
  -- the same contest in any order
  have hrace (order : List Client) (horder : ∀ c, 2 ≤ order.count c) :=
    race_answers {} rfl (Store.reachable_oneRecord {}) (by decide) record?_firstVersion
      ofRecord_firstVersion (fun _ => rfl) addresses_contender (fun _ => rfl) readRecord_contender
      ⟨by decide +kernel, by decide +kernel⟩ horder
  refine ⟨?_, ?_⟩
  · obtain ⟨c, d, r, r', w', hne, hr, hrun, hcases⟩ :=
      hrace [.one, .one, .two, .two] (by intro c; cases c <;> decide)
    rcases hcases with ⟨⟨rest, horder⟩, hr', -⟩ | ⟨⟨rest, horder | horder⟩, -⟩
    · obtain rfl : Client.one = c := (List.cons.inj horder).1
      exact ⟨r, r', w', hrun, hr, hr'⟩
    -- the two steps that come first are steps of the same client
    · obtain ⟨rfl, hrest⟩ := List.cons.inj horder
      exact absurd (List.cons.inj hrest).1 hne
    · obtain ⟨rfl, hrest⟩ := List.cons.inj horder
      exact absurd (List.cons.inj hrest).1.symm hne
  · obtain ⟨c, d, r, r', w', hne, hr, hrun, hcases⟩ :=
      hrace [.one, .two, .two, .one] (by intro c; cases c <;> decide)
    rcases hcases with ⟨⟨rest, horder⟩, -⟩ | ⟨⟨rest, horder | horder⟩, hr', between, -, hchanged⟩
    · obtain ⟨rfl, hrest⟩ := List.cons.inj horder
      exact absurd (List.cons.inj hrest).1 (by decide)
    -- the third step is that of the client that writes first
    · obtain ⟨rfl, hrest⟩ := List.cons.inj horder
      exact absurd (List.cons.inj (List.cons.inj hrest).2).1 (by decide)
    · obtain ⟨rfl, hrest⟩ := List.cons.inj horder
      obtain rfl : Client.two = c := (List.cons.inj hrest).1
      exact ⟨r, r', w', _, _, hrun, hr, hr', hchanged.rows.get?_self⟩

/-- Both clients ask before one of them writes. -/
def overlapped : Race Store :=
  Race.run (inMemory {}) "A" "1" contender (.start (Store.oneRecord {})) [.one, .two, .two, .one]

/-- The tag of the present version lets both clients through, and what the one writes is lost. -/
theorem overlapped_lost_update :
    Store.Reachable (Store.oneRecord {}) ∧
      (Store.oneRecord {}).store.record? "A" "1" = some firstVersion ∧
      EntityTag.ofRecord firstVersion = .ok "W/\"1700000000000\"" ∧
      (∀ c, (contender c).method = "PATCH" ∧ (contender c).Addresses "A" "1" ∧
        (contender c).header? "if-match" = some "W/\"1700000000000\"") ∧
      (∀ c, ((overlapped.phase c).response?.map fun r => r.status) = some 200) ∧
      ((overlapped.world.store.record? "A" "1").bind fun r =>
        (Keyed.get? r "n").map Json.compact) = some "2" := by
  refine ⟨Store.reachable_oneRecord {}, record?_firstVersion, ofRecord_firstVersion,
    fun c => ⟨rfl, addresses_contender c, rfl⟩, fun c => ?_, by decide +kernel⟩
  cases c <;> decide +kernel

end ODataService.Service
