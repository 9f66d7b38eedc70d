import ODataService.Proofs.Batch.Isolation
import ODataService.Proofs.Json.RoundTrip
import ODataService.Proofs.Service.Headers

/-!
# Error envelopes

Whatever goes wrong, the client gets an error it can read: `{"error": {...}}` with a code of the
taxonomy and with the status of that code (`Service.Enveloped`). This holds on any record store, so
whatever its operations fail with, and for each response in a batch as well.

Code and status of an error come about in different places. The code of a failure is chosen when it
is classified, and its status follows from the code. A changeset that is given up repeats the code
of the operation that failed, but takes the status from the response to it. So the invariant that
carries the proof says of a response that its status is the one of its code, and that it still holds
the error it was made from (`Reports`): what the changeset repeats is that error.

Main result: `Service.failures_enveloped`.
-/

namespace ODataService

open ODataService.Action

/-! ## Errors as values -/

namespace ErrorDetail

theorem readable (d : ErrorDetail) : Json.Readable d.toJson := by
  obtain ⟨code, message, target⟩ := d
  cases target with
  | none =>
    refine .obj [("code", .str code), ("message", .str message)] ?_ ?_
    · show List.Nodup ["code", "message"]
      decide
    · simp [Json.Readable.str]
  | some target =>
    refine .obj [("code", .str code), ("message", .str message), ("target", .str target)]
      ?_ ?_
    · show List.Nodup ["code", "message", "target"]
      decide
    · simp [Json.Readable.str]

end ErrorDetail

namespace ErrorBody

/-- The members of an error; missing parts are left out. -/
def members (e : ErrorBody) : Assoc Json :=
  [("code", .str e.code), ("message", .str e.message)] ++
    ((e.target.map fun t => ("target", .str t)).toList ++
      ((e.details.map fun ds => ("details", .arr (ds.map ErrorDetail.toJson))).toList ++
        (e.diagnostics.map fun r => ("innererror", .obj r)).toList))

/-- The envelope of an error has one member, which holds the members of the error. -/
theorem envelope_eq (e : ErrorBody) :
    e.envelope = .obj (Keyed.ofAssoc [("error", .obj (Keyed.ofAssoc e.members))]) := by
  obtain ⟨code, message, target, details, diagnostics⟩ := e
  -- once it is known which parts there are, both sides are lists of pairs
  cases target <;> cases details <;> cases diagnostics <;> rfl

/-- No member of an error has the name of another one. -/
theorem nodup_members (e : ErrorBody) : (Assoc.keys e.members).Nodup := by
  have hall : ["code", "message", "target", "details", "innererror"].Nodup := by decide
  -- whatever parts are left out, the names of the others keep their order
  refine hall.sublist ?_
  obtain ⟨code, message, target, details, diagnostics⟩ := e
  cases target <;> cases details <;> cases diagnostics <;> simp [members, Assoc.keys]

/-- No part of an error is null. -/
theorem ne_null_of_mem_members {e : ErrorBody} {m : String × Json} (hm : m ∈ e.members) :
    m.2 ≠ .null := by
  obtain ⟨code, message, target, details, diagnostics⟩ := e
  simp only [members, List.mem_append, List.mem_cons, List.not_mem_nil, or_false,
    Option.mem_toList, Option.map_eq_some_iff] at hm
  rcases hm with (rfl | rfl) | ⟨_, -, rfl⟩ | ⟨_, -, rfl⟩ | ⟨_, -, rfl⟩ <;> simp

theorem readable {e : ErrorBody} (h : ∀ r ∈ e.diagnostics, Json.Readable (.obj r)) :
    Json.Readable e.envelope := by
  rw [envelope_eq]
  have herror : Json.Readable (.obj (Keyed.ofAssoc e.members)) := by
    refine .obj e.members e.nodup_members fun m hm => ?_
    simp only [members, List.mem_append, List.mem_cons, List.not_mem_nil, or_false,
      Option.mem_toList, Option.map_eq_some_iff] at hm
    rcases hm with (rfl | rfl) | ⟨_, -, rfl⟩ | ⟨ds, -, rfl⟩ | ⟨r, hr, rfl⟩
    · exact .str _
    · exact .str _
    · exact .str _
    · refine .arr fun v hv => ?_
      obtain ⟨d, -, rfl⟩ := List.mem_map.1 hv
      exact d.readable
    · exact h r hr
  refine .obj [("error", _)] (List.nodup_singleton _) fun m hm => ?_
  obtain rfl := List.mem_singleton.1 hm
  exact herror

/-- The members of an error are read from its text. -/
theorem parse_envelope {e : ErrorBody} (h : ∀ r ∈ e.diagnostics, Json.Readable (.obj r)) :
    Json.parse e.envelope.text = .ok (.obj [("error", .obj (Keyed.ofAssoc e.members))]) := by
  have hparse := Json.parse_write_readable Json.Separators.known_spaced (readable h)
  rw [Json.text, hparse, envelope_eq]
  rfl

end ErrorBody

/-- What is looked up among keyed pairs is what was looked up before. -/
theorem Keyed.get?_ofAssoc {α : Type} (m : Assoc α) (k : String) :
    Keyed.get? (Keyed.ofAssoc m) (.str k) = Assoc.get? m k := by
  induction m with
  | nil => rfl
  | cons e m ih =>
    obtain ⟨l, v⟩ := e
    show (if Scalar.sameKey l k then some v else Keyed.get? (Keyed.ofAssoc m) (.str k)) = _
    rw [Assoc.get?, ih]
    simp only [Scalar.sameKey_str_iff]

/-! ## Failures -/

/-- What debug mode tells about an incident is read back. -/
theorem Incident.readable_diagnostics (i : Incident) : Json.Readable (.obj i.diagnostics) := by
  refine .obj [("message", .str i.message), ("type", .str i.kind),
    ("stacktrace", .str "<stacktrace>")] ?_ ?_
  · show List.Nodup ["message", "type", "stacktrace"]
    decide
  · simp [Json.Readable.str]

/-- A failure is answered with a code of the taxonomy, and outside of debug mode without any
diagnostics. -/
theorem Failure.toErrorBody_code (debug : Bool) (f : Failure) :
    (∃ c : ErrorCode, (f.toErrorBody debug).code = c.name) ∧
      (∀ r ∈ (f.toErrorBody debug).diagnostics, Json.Readable (.obj r)) ∧
      (debug = false → (f.toErrorBody debug).diagnostics = none) := by
  -- all failures but rejections are classified as incidents, by their names, codes and statuses
  have hincident (i : Incident) : (∃ c : ErrorCode, (i.toErrorBody debug).code = c.name) ∧
      (∀ r ∈ (i.toErrorBody debug).diagnostics, Json.Readable (.obj r)) ∧
      (debug = false → (i.toErrorBody debug).diagnostics = none) := by
    unfold Incident.toErrorBody
    dsimp only
    split
    · next hdebug =>
      refine ⟨⟨i.classify.1, rfl⟩, ?_, fun h => by simp [h] at hdebug⟩
      rintro r hr
      obtain rfl := Option.some.inj hr
      exact i.readable_diagnostics
    · exact ⟨⟨i.classify.1, rfl⟩, by simp [ErrorBody.ofCode], fun _ => rfl⟩
  cases f with
  | rejected r => exact ⟨⟨r.code, rfl⟩, by simp [toErrorBody, Rejection.toErrorBody], fun _ => rfl⟩
  | _ => exact hincident _

namespace Service

variable {σ : Type} {s : Service σ} {debug : Bool} {r : Http.Response} {q : Http.Request}

/-! ## Error responses -/

/-- The response is the error `e`, whose code is `c`. -/
structure Reports (r : Http.Response) (e : ErrorBody) (c : ErrorCode) : Prop where
  response : r = .ofErrorStatus c.status e
  code : e.code = c.name
  diagnostics : ∀ d ∈ e.diagnostics, Json.Readable (.obj d)

/-- The response is no error, or it reports one. Outside of debug mode it has no diagnostics. -/
def Accepted (debug : Bool) (r : Http.Response) : Prop :=
  r.status < 400 ∨ ∃ e c, Reports r e c ∧ (debug = false → e.diagnostics = none)

/-- A response that reports an error has the status of its code. -/
theorem Reports.status {e : ErrorBody} {c : ErrorCode} (h : Reports r e c) :
    r.status = c.status := by
  rw [h.response]
  rfl

/-- The response to an error reports it, if its diagnostics can be read back. -/
theorem reports_ofError {e : ErrorBody} {c : ErrorCode} (hcode : e.code = c.name)
    (h : ∀ d ∈ e.diagnostics, Json.Readable (.obj d)) : Reports (.ofError e) e c := by
  refine ⟨?_, hcode, h⟩
  have hstatus : e.status = c.status := by rw [ErrorBody.status, hcode, ErrorCode.ofName?_name]
  rw [Http.Response.ofError, hstatus]

/-- Every failure is reported. -/
theorem accepted_failure (debug : Bool) (f : Failure) :
    Accepted debug (.ofError (f.toErrorBody debug)) := by
  obtain ⟨⟨c, hcode⟩, hdiagnostics, hnone⟩ := f.toErrorBody_code debug
  exact .inr ⟨_, c, reports_ofError hcode hdiagnostics, hnone⟩

/-! ## Requests -/

/-- What is left of an action when something has been done. -/
theorem succeeds_bind {ω α : Type} {P : Http.Response → Prop} {a : Action ω α}
    {g : α → Action ω Http.Response} (h : ∀ x, Batch.Ends P (fun _ => True) (g x)) :
    Batch.Ends P (fun _ => True) (a >>= g) := by
  -- the first step may end in any way, since no result of it is a response
  have hany : Batch.Ends (fun _ => True) (fun _ => True) a := by
    intro w
    cases (a.exec w).1 <;> trivial
  exact hany.bind fun x _ => h x

/-- The action succeeds with no error response only. -/
abbrev Succeeds {ω : Type} (a : Action ω Http.Response) : Prop :=
  Batch.Ends (fun r => r.status < 400) (fun _ => True) a

/-- An entity that is answered is answered with 200, or 304 when it is known. -/
theorem succeeds_replyEntity (set key : String) (params : Assoc String) :
    Succeeds (s.replyEntity set key params q) := by
  refine succeeds_bind fun o => succeeds_bind fun fields => succeeds_bind fun stored =>
    succeeds_bind fun v => succeeds_bind fun tag => ?_
  split
  · exact .pure (by decide : 304 < 400)
  · exact succeeds_bind fun _ => succeeds_bind fun _ => succeeds_bind fun _ =>
      .pure (by decide : 200 < 400)

/-- A removal that is answered is answered with 204. -/
theorem succeeds_replyDelete (set key : String) : Succeeds (s.replyDelete set key q) := by
  refine succeeds_bind fun _ => succeeds_bind fun deleted => ?_
  split
  · exact .pure (by decide : 204 < 400)
  · exact .fail trivial

/-- A batch that is answered is answered with 200. -/
theorem succeeds_replyBatch : Succeeds (s.replyBatch q) := by
  unfold replyBatch
  split
  · exact .fail trivial
  split
  · exact .fail trivial
  split
  · exact .fail trivial
  · exact succeeds_bind fun _ => succeeds_bind fun _ => .pure (by decide : 200 < 400)

/-- A count that is answered is answered with 200. -/
theorem succeeds_replyCount (set : String) (params : Assoc String) :
    Succeeds (s.replyCount set params) := by
  unfold replyCount
  exact succeeds_bind fun _ => succeeds_bind fun _ => .pure (by decide : 200 < 400)

/-- A collection that is answered is answered with 200. -/
theorem succeeds_replyCollection (set : String) (params : Assoc String) :
    Succeeds (s.replyCollection set params) := by
  unfold replyCollection
  exact succeeds_bind fun _ => succeeds_bind fun _ => succeeds_bind fun _ =>
    succeeds_bind fun _ => succeeds_bind fun _ => .pure (by decide : 200 < 400)

/-- An addition that is answered is answered with 201. -/
theorem succeeds_replyCreate (set : String) : Succeeds (s.replyCreate set q) := by
  unfold replyCreate
  exact succeeds_bind fun _ => succeeds_bind fun _ => succeeds_bind fun _ =>
    succeeds_bind fun _ => succeeds_bind fun _ => .pure (by decide : 201 < 400)

/-- A change that is answered is answered with 200. -/
theorem succeeds_replyUpdate (set key : String) : Succeeds (s.replyUpdate set key q) := by
  unfold replyUpdate
  exact succeeds_bind fun _ => succeeds_bind fun _ => succeeds_bind fun _ =>
    succeeds_bind fun _ => succeeds_bind fun _ => succeeds_bind fun _ =>
    .pure (by decide : 200 < 400)

/-- What a route succeeds with is no error response, if this is so of batches. -/
theorem succeeds_route (batch : Responder σ) (hbatch : Succeeds (batch q)) :
    Succeeds (s.route batch q) := by
  unfold route
  dsimp only
  split
  · exact .pure (by decide : 204 < 400)
  split
  · exact succeeds_bind fun _ => succeeds_bind fun _ => .pure (by decide : 200 < 400)
  · exact succeeds_bind fun _ => succeeds_bind fun _ => succeeds_bind fun _ =>
      succeeds_bind fun _ => .pure (by decide : 200 < 400)
  · exact hbatch
  · exact succeeds_bind fun _ => succeeds_bind fun _ => succeeds_replyCount _ _
  -- which of the verbs it is decides among the handlers
  · refine succeeds_bind fun _ => ?_
    split
    · exact succeeds_replyCollection _ _
    · exact succeeds_replyCreate _
    all_goals exact .fail trivial
  · refine succeeds_bind fun _ => succeeds_bind fun key => ?_
    split
    · exact succeeds_replyEntity _ _ _
    · exact succeeds_replyUpdate _ _
    · exact succeeds_replyUpdate _ _
    · exact succeeds_replyDelete _ _
    · exact .fail trivial
  · exact .fail trivial

/-- Every response is no error, or reports one. -/
theorem accepted_handle (s : Service σ) (q : Http.Request) (w : World σ) :
    Accepted s.settings.debug ((s.handle q).run w).1 := by
  rcases h : (s.route s.replyBatch q).exec w with ⟨f | r, w'⟩
  · obtain ⟨_, hrun, -⟩ := run_answering_error (s := s) h
    rw [handle, hrun]
    exact accepted_failure _ f
  · -- a response of the route itself is never an error
    have hsucceeds := succeeds_route (s := s) (q := q) s.replyBatch succeeds_replyBatch w
    rw [h] at hsucceeds
    rw [handle, run_answering_ok h]
    exact .inl hsucceeds

/-! ## Batches -/

/-- An operation of a batch is answered by a response of the dispatcher, or it is refused. -/
theorem ends_answer_accepted {d : Batch.Dispatcher (World σ)}
    (hd : ∀ q w, Accepted debug ((d q).run w).1) (base : String) (o : Batch.Operation) :
    Batch.Ends (Accepted debug) (fun _ => True) (Batch.answer d base o) := by
  have hrefusal (message : String) : Accepted debug (.ofError (Batch.refusal message)) := by
    refine .inr ⟨_, .badRequest, reports_ofError rfl ?_, fun _ => rfl⟩
    simp [Batch.refusal, ErrorBody.ofCode]
  -- what is no request is refused; a request goes to the service
  cases o with
  | unreadable cause => exact .pure (hrefusal _)
  | request r =>
    rw [Batch.answer]
    split
    · exact .fail trivial
    split
    · exact .pure (hrefusal _)
    · exact .lift fun w => hd _ w

/-- The counters of a changeset are read back. -/
theorem readable_counters (completed succeeded total : Nat) :
    Json.Readable (.obj (Batch.counters completed succeeded total)) := by
  refine .obj [("completedOperations", .int completed), ("succeededOperations", .int succeeded),
    ("totalOperations", .int total), ("rollbackAttempted", .bool true)] ?_ ?_
  · show List.Nodup ["completedOperations", "succeededOperations", "totalOperations",
      "rollbackAttempted"]
    decide
  · simp [Json.Readable.int, Json.Readable.bool]

/-- A changeset that is given up reports the code of the operation that failed. -/
theorem reports_aborted {e : ErrorBody} {c : ErrorCode} (h : Reports r e c)
    (succeeded total : Nat) :
    Reports (.ofErrorStatus r.status (Batch.changesetError (Batch.causeOf r) succeeded total))
      (Batch.changesetError e succeeded total) c := by
  -- the response still holds the error, so its cause is not read from the text of the body
  have hcause : Batch.causeOf r = e := by
    rw [h.response]
    rfl
  refine ⟨by rw [hcause, h.status], h.code, ?_⟩
  rintro d hd
  obtain rfl := Option.some.inj hd
  exact readable_counters _ _ _

/-! ## What clients see -/

/-- The response is the error `error` for a client: the body says nothing but this error, the code
is in the taxonomy and has the status of the response, nothing in the error is null, and all of it
is read from the text of the response, too. -/
structure Enveloped (r : Http.Response) (error : Record) : Prop where
  body : Json.parse r.body = .ok (.obj [("error", .obj error)])
  code : ∃ c : ErrorCode, Keyed.get? error "code" = some (.str c.name) ∧ c.status = r.status
  present : ∀ name ∈ ["target", "details", "innererror"], Keyed.get? error name ≠ some .null
  text : Http.read? r.render = some (r.status, r.headers, r.body)

/-- What the responses to a part of a batch show. Outside of debug mode only the error of a
changeset that is given up has diagnostics in it. -/
def PartEnveloped (debug : Bool) : Batch.Part → List Http.Response → Prop
  | .single _, rs => ∃ r, rs = [r] ∧ (400 ≤ r.status → ∃ error, Enveloped r error ∧
      (debug = false → Keyed.get? error "innererror" = none))
  | .changeset os, rs => (rs.length = os.length ∧ ∀ r ∈ rs, r.status < 400) ∨
      ∃ r error, rs = [r] ∧ 400 ≤ r.status ∧ Enveloped r error

/-- A response that reports an error is an envelope. -/
theorem Reports.enveloped {e : ErrorBody} {c : ErrorCode} (h : Reports r e c) :
    Enveloped r (Keyed.ofAssoc e.members) := by
  have hbody : r.body = e.envelope.text := by rw [h.response]; rfl
  -- the text is read back, the code has the status, no member is null, and the type is declared
  refine ⟨?_, ⟨c, ?_, h.status.symm⟩, ?_, ?_⟩
  · rw [hbody, ErrorBody.parse_envelope h.diagnostics]
  · rw [← h.code]
    rfl
  · intro name _ hnull
    rw [Keyed.get?_ofAssoc] at hnull
    exact ErrorBody.ne_null_of_mem_members (Assoc.mem_of_get? hnull) rfl
  · refine Plain.read?_render (plain_contentType (by decide : Http.OneLine "application/json") ?_)
    rw [h.response]
    rfl

/-- Without diagnostics there is no member for them. -/
theorem get?_innererror {e : ErrorBody} (h : e.diagnostics = none) :
    Keyed.get? (Keyed.ofAssoc e.members) "innererror" = none := by
  rw [Keyed.get?_ofAssoc, Assoc.get?_eq_none_iff]
  obtain ⟨code, message, target, details, diagnostics⟩ := e
  obtain rfl : diagnostics = none := h
  cases target <;> cases details <;> simp [ErrorBody.members, Assoc.keys]

/-- An error among the accepted responses is an envelope. -/
theorem Accepted.enveloped (h : Accepted debug r) (hr : 400 ≤ r.status) :
    ∃ error, Enveloped r error ∧ (debug = false → Keyed.get? error "innererror" = none) := by
  rcases h with hlow | ⟨e, c, hreports, hnone⟩
  · omega
  · exact ⟨_, hreports.enveloped, fun hdebug => get?_innererror (hnone hdebug)⟩

/-- Every failure is answered by an error that the client can read. This is so for all settings,
record stores, states and requests, so also for every incident that an operation of the store fails
with. It is so for each response in a batch that the service answers part by part; there, outside of
debug mode, only the error of a changeset that is given up has diagnostics in it. -/
theorem failures_enveloped (s : Service σ) :
    (∀ q w, ∃ r w', (s.handle q).run w = (r, w') ∧
      (400 ≤ r.status → ∃ error, Enveloped r error ∧
        (s.settings.debug = false → Keyed.get? error "innererror" = none))) ∧
    ∀ base boundary body w rs w',
      (Batch.execute s.handle base boundary body).exec w = (.ok rs, w') →
        ∃ ps, Batch.parse boundary body = .ok ps ∧
          Batch.Each (PartEnveloped s.settings.debug) ps rs := by
  refine ⟨fun q w => ⟨_, _, rfl, (accepted_handle s q w).enveloped⟩, ?_⟩
  intro base boundary body w rs w' hrun
  obtain ⟨ps, w₁, hparse, hparts⟩ := exec_bind_eq_ok hrun
  obtain ⟨hparse, -⟩ := exec_ofRejection_eq_ok hparse
  refine ⟨ps, hparse, ?_⟩
  -- what every operation is answered with goes through the parts of the batch
  have hanswer := ends_answer_accepted (accepted_handle s) base
  have hends := Batch.ends_runParts (Q := PartEnveloped s.settings.debug) (F := fun _ => True)
    s.handle [] ps (by simp)
    (fun o _ w => (hanswer o w).imp (fun r hr => ⟨r, rfl, hr.enveloped⟩) fun _ h => h)
    (fun os _ w => by
      refine (Batch.ends_runChangeset s.handle (fun o _ => hanswer o) w).imp (fun _ h => ?_)
        fun _ h => h
      rcases h with ⟨hlength, hall⟩ | ⟨failing, succeeded, total, haccepted, hfailed, hrs⟩
      · exact .inl ⟨hlength, fun r hr => by simpa [Batch.failed] using hall r hr⟩
      · -- the changeset is given up, and one error stands for all of its operations
        have hstatus : 400 ≤ failing.status := by simpa [Batch.failed] using hfailed
        rcases haccepted with hlow | ⟨e, c, hreports, -⟩
        · omega
        · exact .inr ⟨_, _, hrs, hstatus, (reports_aborted hreports succeeded total).enveloped⟩)
    w₁
  rw [hparts] at hends
  exact hends

/-- A record store whose driver fails whenever a record is read or removed. -/
def brokenDriver : Service Store :=
  let incident : Incident :=
    { kind := "OperationalError", message := "disk is gone", code := .str "DB_IO" }
  ⟨{}, Store.engine.failing [("get", incident), ("delete", incident)]⟩

/-- A batch with a changeset that removes a record. -/
def removalBody : String :=
  "--b\r\nContent-Type: multipart/mixed; boundary=c\r\n\r\n" ++
  "--c\r\n\r\nDELETE A('1') HTTP/1.1\r\n\r\n--c--\r\n--b--"

theorem failures_enveloped_brokenDriver :
    (∃ r w' error, (brokenDriver.handle ⟨"GET", "/A('1')", "", [], .none⟩).run
        (Store.oneRecord {}) = (r, w') ∧ r.status = 500 ∧ Enveloped r error ∧
        Keyed.get? error "innererror" = none) ∧
      ∃ r w' error, (Batch.execute brokenDriver.handle "" "b" removalBody).exec
        (Store.oneRecord {}) = (.ok [r], w') ∧ r.status = 500 ∧ Enveloped r error := by
  obtain ⟨hrequest, hbatch⟩ := failures_enveloped brokenDriver
  constructor
  -- the whole response and the batch are evaluated, and the theorem says what is in them
  · have hstatus : ((brokenDriver.handle ⟨"GET", "/A('1')", "", [], .none⟩).run
        (Store.oneRecord {})).1.status = 500 := by decide +kernel
    obtain ⟨r, w', hrun, henveloped⟩ := hrequest ⟨"GET", "/A('1')", "", [], .none⟩
      (Store.oneRecord {})
    rw [hrun] at hstatus
    obtain ⟨error, herror, hnone⟩ := henveloped (hstatus ▸ by decide)
    exact ⟨r, w', error, hrun, hstatus, herror, hnone rfl⟩
  · have hstatus : ((Batch.execute brokenDriver.handle "" "b" removalBody).exec
        (Store.oneRecord {})).1.toOption.map (·.map (·.status)) = some [500] := by decide +kernel
    have hparts : Batch.parse "b" removalBody =
        .ok [.changeset [.request ⟨"DELETE", "A('1')", [], ""⟩]] := by decide +kernel
    rcases hrun : (Batch.execute brokenDriver.handle "" "b" removalBody).exec
        (Store.oneRecord {}) with ⟨f | rs, w'⟩
    · rw [hrun] at hstatus
      simp [Except.toOption] at hstatus
    · obtain ⟨ps, hps, hall⟩ := hbatch "" "b" removalBody _ rs w' hrun
      obtain rfl := Except.ok.inj (hparts.symm.trans hps)
      obtain ⟨rss, hall, rfl⟩ := hall
      obtain ⟨rs, _, hset, hnone, rfl⟩ := List.forall₂_cons_left_iff.1 hall
      obtain rfl := List.forall₂_nil_left_iff.1 hnone
      rw [List.flatten_singleton] at hrun
      have hstatuses : rs.map (·.status) = [500] := by
        rw [hrun] at hstatus
        exact Option.some.inj hstatus
      rcases hset with ⟨-, hlow⟩ | ⟨r, error, rfl, -, herror⟩
      · -- the response shows that the changeset has been given up
        have hfailed : 500 ∈ rs.map (·.status) := hstatuses ▸ List.mem_singleton_self 500
        obtain ⟨r, hr, hr500⟩ := List.mem_map.1 hfailed
        exact absurd (hlow r hr) (by omega)
      · exact ⟨r, w', error, rfl, (List.cons.inj hstatuses).1, herror⟩

end Service

end ODataService
