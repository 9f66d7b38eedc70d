import ODataService.Proofs.Http.Rendering
import ODataService.Proofs.Service.Location

/-!
# What the headers of responses are made of

Most headers of the service are fixed texts or hold digits: content types, the tags of records, the
boundary of a batch. No such header has a line break in it (`Plain`), on whatever route a response
comes about.

One header holds what a client has sent. `Location` names a new record by its identifier, and the
identifier is written there as it is. So a line break in it breaks the header line. What stands
behind the break is read as a header of its own, or even as the body
(`Service.oneLine_unless_location`).
-/

namespace ODataService.Service

open ODataService.Action Http

variable {settings : Settings} {w w' : World Store} {set key tag : String} {q : Http.Request}
  {r : Http.Response} {id : String}

/-- Every header has a name that its line is read by, and a value of one line. -/
def Plain (r : Http.Response) : Prop := ∀ h ∈ r.headers, IsFieldName h.1 ∧ OneLine h.2

/-! ## Responses -/

/-- A response whose only header is its type is plain. -/
theorem plain_contentType {type : String} (h : OneLine type)
    (hr : r.headers = [("Content-Type", type)]) : Plain r := by
  intro e he
  rw [hr] at he
  obtain rfl := List.mem_singleton.1 he
  exact ⟨(by decide : IsFieldName "Content-Type"), h⟩

theorem plain_ofError (e : ErrorBody) : Plain (.ofError e) :=
  plain_contentType (by decide : OneLine "application/json") rfl

theorem plain_json (status : Nat) (body : Json) : Plain (.json status body []) :=
  plain_contentType (by decide : OneLine "application/json") rfl

/-- A response without a body is plain. -/
theorem plain_empty (status : Nat) : Plain (.empty status []) := by
  intro e he
  simp [Http.Response.empty] at he

/-- The tag of a record as the store keeps it is made of digits. -/
theorem oneLine_tag {last : Option Int} {record : Record} {created updated : Int}
    (h : Store.Kept last key record created updated) (htag : EntityTag.ofRecord record = .ok tag) :
    OneLine tag := by
  obtain rfl := Except.ok.inj (htag.symm.trans h.tag)
  exact ⟨EntityTag.not_mem_stampTag (by decide) (by decide),
    EntityTag.not_mem_stampTag (by decide) (by decide)⟩

/-- The tag is one header or none. -/
theorem tagHeaders_eq (settings : Settings) (tag : String) :
    tagHeaders settings tag = [] ∨ tagHeaders settings tag = [("ETag", tag)] := by
  unfold tagHeaders
  split
  · exact .inr rfl
  · exact .inl rfl

/-- A response without a body but with a tag is plain. -/
theorem plain_empty_tag (status : Nat) (htag : OneLine tag) :
    Plain (.empty status (tagHeaders settings tag)) := by
  rcases tagHeaders_eq settings tag with hnone | hsome
  · rw [hnone]
    exact plain_empty status
  · rw [hsome]
    intro h hh
    obtain rfl := List.mem_singleton.1 hh
    exact ⟨(by decide : IsFieldName "ETag"), htag⟩

/-- A response with a document and a tag is plain. -/
theorem plain_json_tag (status : Nat) (body : Json) (htag : OneLine tag) :
    Plain (.json status body (tagHeaders settings tag)) := by
  rcases tagHeaders_eq settings tag with hnone | hsome
  · rw [hnone]
    exact plain_json status body
  · rw [hsome]
    intro h hh
    rcases List.mem_cons.1 hh with rfl | hh
    · decide
    · obtain rfl := List.mem_singleton.1 hh
      exact ⟨(by decide : IsFieldName "ETag"), htag⟩

/-- What a new record is answered with: all headers are plain but for its address. -/
theorem headers_created (settings : Settings) (set : String) {record : Record} (htag : OneLine tag)
    (hid : Keyed.get? record "_id" = some (.str id)) :
    ∀ h ∈ (createdResponse settings set record tag).headers,
      (IsFieldName h.1 ∧ OneLine h.2) ∨
        h = ("Location", s!"{settings.basePath}/{set}('{id}')") := by
  have hheader : (inMemory settings).locationHeader set record =
      [("Location", s!"{settings.basePath}/{set}('{id}')")] := by
    rw [locationHeader, identifierOf, Query.idField, hid]
    rfl
  have hcontent : IsFieldName "Content-Type" ∧ OneLine "application/json" := by decide
  rw [createdResponse, hheader]
  -- the address comes last, behind the type and the tag
  rcases tagHeaders_eq settings tag with hnone | hsome
  · rw [hnone]
    intro h hh
    rcases List.mem_cons.1 hh with rfl | hh
    · exact .inl hcontent
    · exact .inr (List.mem_singleton.1 hh)
  · rw [hsome]
    intro h hh
    rcases List.mem_cons.1 hh with rfl | hh
    · exact .inl hcontent
    rcases List.mem_cons.1 hh with rfl | hh
    · exact .inl ⟨(by decide : IsFieldName "ETag"), htag⟩
    · exact .inr (List.mem_singleton.1 hh)

/-! ## Batches -/

/-- Generated identifiers are hexadecimal digits. -/
theorem oneLine_idText (n : Nat) : OneLine (World.idText n) := by
  have hdigit : ∀ m < 16, Nat.digitChar m ≠ '\r' ∧ Nat.digitChar m ≠ '\n' := by decide
  -- an identifier is made of hexadecimal digits
  have hdigits (width n : Nat) : ∀ c ∈ Text.hexDigits width n, c ≠ '\r' ∧ c ≠ '\n' := by
    induction width generalizing n with
    | zero => simp [Text.hexDigits]
    | succ width ih =>
      intro c hc
      rcases List.mem_append.1 hc with hc | hc
      · exact ih (n / 16) c hc
      · obtain rfl := List.mem_singleton.1 hc
        exact hdigit _ (Nat.mod_lt n (by decide))
  rw [World.idText, OneLine, String.toList_ofList]
  exact ⟨fun hc => (hdigits _ n _ hc).1 rfl, fun hc => (hdigits _ n _ hc).2 rfl⟩

/-- The boundary that a batch is answered with. -/
theorem oneLine_responseType (n : Nat) :
    OneLine (Batch.responseType (Batch.responseBoundary (World.idText n))) := by
  have hfront : OneLine "multipart/mixed; boundary=batchresponse_" := by decide
  have htype : Batch.responseType (Batch.responseBoundary (World.idText n)) =
      "multipart/mixed; boundary=batchresponse_" ++ World.idText n := by
    show "multipart/mixed; boundary=" ++ ("batchresponse_" ++ World.idText n) = _
    rw [← String.append_assoc]
    rfl
  rw [htype]
  exact hfront.append (oneLine_idText n)

/-! ## Routes -/

/-- In this world the action answers with plain headers, if it answers. -/
def AnswersPlain (a : Action (World Store) Http.Response) (w : World Store) : Prop :=
  ∀ r w', a.exec w = (.ok r, w') → Plain r

/-- A plain response is a plain answer. -/
theorem answersPlain_pure (h : Plain r) : AnswersPlain (pure r) w := by
  rintro _ _ heq
  obtain rfl := Except.ok.inj (Prod.mk.inj heq).1
  exact h

/-- A failure is no answer. -/
theorem answersPlain_error {a : Action (World Store) Http.Response} {f : Failure}
    (h : a.exec w = (.error f, w')) : AnswersPlain a w := by
  intro r w₁ hok
  rw [h] at hok
  simp at hok

/-- What an action answers is what its last step answers. -/
theorem AnswersPlain.bind {α : Type} {a : Action (World Store) α}
    {f : α → Action (World Store) Http.Response}
    (h : ∀ x w', a.exec w = (.ok x, w') → AnswersPlain (f x) w') : AnswersPlain (a >>= f) w := by
  intro r w₂ hok
  obtain ⟨x, w₁, hx, hr⟩ := exec_bind_eq_ok hok
  exact h x w₁ hx r w₂ hr

/-- A batch is answered plainly. -/
theorem answersPlain_replyBatch : AnswersPlain ((inMemory settings).replyBatch q) w := by
  unfold replyBatch
  split
  · exact answersPlain_error rfl
  split
  · exact answersPlain_error rfl
  split
  · exact answersPlain_error rfl
  · refine .bind fun responses w₁ _ => .bind fun n w₂ hn => answersPlain_pure ?_
    obtain rfl : World.idText (w₁.issued + 1) = n := Except.ok.inj (Prod.mk.inj hn).1
    exact plain_contentType (oneLine_responseType _) rfl

/-- A request that asks for nothing but options has no headers in its answer. -/
theorem answersPlain_routed
    (h : AnswersPlain ((inMemory settings).actionOf (inMemory settings).replyBatch q) w) :
    AnswersPlain (routed settings q) w := by
  -- the browser's question about the methods is answered without a body
  by_cases hcross : (q.method = "OPTIONS" && (inMemory settings).settings.crossOrigin) = true
  · have hroute : routed settings q = pure (.empty 204 []) := by
      unfold routed route
      dsimp only
      rw [if_pos hcross]
    rw [hroute]
    exact answersPlain_pure (plain_empty 204)
  · rwa [routed, route_eq _ hcross]

/-- A read of a record is answered plainly: its tag is of one line. -/
theorem answersPlain_replyEntity (hs : w.store.Sound) (hd : w.store.declares set = true) :
    AnswersPlain ((inMemory settings).replyEntity set key (paramsOf q) q) w := by
  intro r w₁ hreply
  obtain ⟨record, tag, hrecord, htag, hanswer⟩ := replyEntity_eq_ok hs hd hreply
  obtain ⟨created, updated, hkept⟩ := hs.kept set key record hrecord
  have hline := oneLine_tag hkept htag
  rcases hanswer with ⟨-, rfl⟩ | ⟨-, body, rfl⟩
  · exact plain_empty_tag 304 hline
  · exact plain_json_tag 200 body hline

/-- Reading a record sends its tag, and no other reading sends anything of what is stored. -/
theorem answersPlain_read (hs : w.store.Sound) (hm : q.method = "GET" ∨ q.method = "OPTIONS")
    (hq : q.resource ≠ .batch) : AnswersPlain (routed settings q) w := by
  refine answersPlain_routed ?_
  -- one case for each kind of resource; only that of a record looks at what is stored
  rw [actionOf]
  split
  · exact .bind fun _ _ _ => .bind fun _ _ _ => answersPlain_pure (plain_json _ _)
  · refine .bind fun _ _ _ => .bind fun _ _ _ => .bind fun _ _ _ => .bind fun _ _ _ =>
      answersPlain_pure ?_
    exact plain_contentType (by decide : OneLine "application/xml") rfl
  · next hbatch => exact absurd hbatch hq
  · exact .bind fun _ _ _ => .bind fun _ _ _ => .bind fun _ _ _ => .bind fun _ _ _ =>
      answersPlain_pure (plain_contentType (by decide : OneLine "text/plain") rfl)
  · refine .bind fun _ _ _ => ?_
    rcases hm with hm | hm
    · rw [hm]
      exact .bind fun _ _ _ => .bind fun _ _ _ => .bind fun _ _ _ => .bind fun _ _ _ =>
        .bind fun _ _ _ => answersPlain_pure (plain_json _ _)
    · rw [hm]
      exact answersPlain_error rfl
  · next set raw _ =>
    cases hd : w.store.declares set with
    | false =>
      obtain ⟨e, hundeclared⟩ := exec_requireSet_undeclared settings hd
      exact answersPlain_error (exec_bind_error hundeclared)
    | true =>
      refine .bind fun _ w₁ hset => .bind fun key w₂ hkey => ?_
      -- neither the check of the set nor the reading of the key has changed the world
      obtain ⟨-, rfl⟩ := Prod.mk.inj ((exec_requireSet hd).symm.trans hset)
      obtain ⟨-, rfl⟩ := exec_ofRejection_eq_ok hkey
      rcases hm with hm | hm
      · rw [hm]
        exact answersPlain_replyEntity hs hd
      · rw [hm]
        exact answersPlain_error rfl
  · exact answersPlain_error rfl

/-! ## Requests -/

/-- The failure of a request is answered with plain headers, its success if the action of its route
answers so. -/
theorem plain_of_answersPlain (ha : AnswersPlain (routed settings q) w)
    (h : ((inMemory settings).handle q).run w = (r, w')) : Plain r := by
  rcases hroute : (routed settings q).exec w with ⟨f | r', w₁⟩
  -- a failure is answered as an error
  · obtain ⟨w₂, hrun, -⟩ := run_handle_error hroute
    obtain ⟨rfl, -⟩ := Prod.mk.inj (h.symm.trans hrun)
    exact plain_ofError _
  · obtain ⟨rfl, -⟩ := Prod.mk.inj (h.symm.trans (run_handle_ok hroute))
    exact ha _ _ hroute

/-- A batch is answered with plain headers, whatever its parts are answered with. -/
theorem answersPlain_batch (hq : q.resource = .batch) : AnswersPlain (routed settings q) w := by
  refine answersPlain_routed ?_
  rw [actionOf, hq]
  exact answersPlain_replyBatch

/-- The request has added a record whose identifier breaks a line. -/
structure AddsBroken (q : Http.Request) (s : Store) (r : Http.Response) (set id : String) :
    Prop where
  method : q.method = "POST"
  resource : q.resource = .collection set
  status : r.status = 201
  stored : ∃ record, s.record? set id = some record
  broken : ¬ OneLine id

/-- A response is plain, or it is that to an addition. -/
theorem plain_or_created (hs : w.store.Sound)
    (h : ((inMemory settings).handle q).run w = (r, w')) :
    Plain r ∨ ∃ set data id tag, q.method = "POST" ∧ q.resource = .collection set ∧
      w.store.Inserted set data id w'.store ∧ OneLine tag ∧
      r = createdResponse settings set (Store.newRecord data id w.store.stamp) tag := by
  by_cases hq : q.resource = .batch
  · exact .inl (plain_of_answersPlain (answersPlain_batch hq) h)
  -- one case for each way a request may turn out
  cases handle_outcome hs hq h with
  | refused e => exact .inl (plain_ofError e)
  | read _ hm => exact .inl (plain_of_answersPlain (answersPlain_read hs hm hq) h)
  | unstamped fault => exact .inl (plain_ofError _)
  | @created set id data tag hm hr hinserted htag =>
    have hkept := Store.kept_newRecord hinserted.stamped data id
    exact .inr ⟨set, data, id, tag, hm, hr, hinserted, oneLine_tag hkept htag, rfl⟩
  | @changed set key old data tag hm ha hd hr hstamp _ htag =>
    obtain ⟨created, updated, hkept⟩ := hs.kept set key old hr
    exact .inl (plain_json_tag 200 _ (oneLine_tag (hkept.changed hstamp data) htag))
  | removed => exact .inl (plain_empty 204)

/-! ## Addresses of new records -/

/-- What an entity set is called in a path has no line break. -/
theorem oneLine_setName {path : String} (h : Route.ofPath path = .collection set) :
    OneLine set := by
  obtain ⟨c, front, hchars, hc, hfront⟩ := Route.exists_setName h
  -- a name has letters, digits and underscores only
  have hbreak {d : Char} (hstart : Route.isNameStart d = false)
      (hchar : Route.isNameChar d = false) : d ∉ set.toList := by
    rw [hchars, List.mem_cons, not_or]
    constructor
    · rintro rfl
      simp [hstart] at hc
    · intro hmem
      simp [hfront d hmem] at hchar
  exact ⟨hbreak (by decide) (by decide), hbreak (by decide) (by decide)⟩

/-- The address of a record is of one line if its identifier is. -/
theorem oneLine_location {base : String} (hbase : OneLine base) (hset : OneLine set)
    (hid : OneLine id) : OneLine s!"{base}/{set}('{id}')" := by
  show OneLine (base ++ "/" ++ set ++ "('" ++ id ++ "')")
  have hmarks : OneLine "/" ∧ OneLine "('" ∧ OneLine "')" := by decide
  exact ((((hbase.append hmarks.1).append hset).append hmarks.2.1).append hid).append hmarks.2.2

/-- Line breaks in the address of a record are those in its identifier. -/
theorem crlf_infix_location_iff {base : String} (hbase : OneLine base) (hset : OneLine set)
    (id : String) :
    crlf <:+: (s!"{base}/{set}('{id}')").toList ↔ crlf <:+: id.toList := by
  have hmarks : OneLine "/" ∧ OneLine "('" ∧ OneLine "')" := by decide
  have hfront : OneLine (base ++ "/" ++ set ++ "('") :=
    ((hbase.append hmarks.1).append hset).append hmarks.2.1
  have hchars : (s!"{base}/{set}('{id}')").toList =
      (base ++ "/" ++ set ++ "('").toList ++ (id.toList ++ "')".toList) := by
    show (base ++ "/" ++ set ++ "('" ++ id ++ "')").toList = _
    rw [String.toList_append, String.toList_append, List.append_assoc]
  rw [hchars]
  -- a break cannot begin in front of the identifier, and it cannot end behind it
  have hbehind : ['\r'] ++ ['\n'] <:+: id.toList ++ "')".toList ↔ ['\r'] ++ ['\n'] <:+: id.toList :=
    Text.infix_append_right_iff hmarks.2.2.2
  exact (Text.infix_append_left_iff hfront.1).trans hbehind

/-- A plain response is read back. -/
theorem Plain.read?_render (h : Plain r) :
    read? r.render = some (r.status, r.headers, r.body) :=
  (read?_render_iff fun e he => (h e he).1).2 fun e he => (h e he).2.not_crlf

/-- No header breaks a line, unless it is the address of a new record whose identifier does. Let
there be no line break in the base path. After any run of calls and whatever the request is, all
header names and values of its answer are of one line, and status, headers and body are read from
its text as they are; or else the request has added a record whose identifier holds half of a line
break or a whole one. Then `Location` holds this identifier as it is, all other headers are of one
line, and the text is read back only if there is no whole line break in the identifier. -/
theorem oneLine_unless_location (settings : Settings) (hbase : OneLine settings.basePath)
    {w w' : World Store} (hw : Store.Reachable w) {q : Http.Request} {r : Http.Response}
    (h : ((inMemory settings).handle q).run w = (r, w')) :
    ((∀ e ∈ r.headers, OneLine e.1 ∧ OneLine e.2) ∧
        read? r.render = some (r.status, r.headers, r.body)) ∨
      ∃ set id, AddsBroken q w'.store r set id ∧
        Assoc.get? r.headers "Location" = some s!"{settings.basePath}/{set}('{id}')" ∧
        (∀ e ∈ r.headers, e.1 = "Location" ∨ (OneLine e.1 ∧ OneLine e.2)) ∧
        (read? r.render = some (r.status, r.headers, r.body) ↔ ¬ crlf <:+: id.toList) := by
  have hplain : Plain r → (∀ e ∈ r.headers, OneLine e.1 ∧ OneLine e.2) ∧
      read? r.render = some (r.status, r.headers, r.body) :=
    fun h => ⟨fun e he => ⟨(h e he).1.1, (h e he).2⟩, h.read?_render⟩
  rcases plain_or_created hw.sound h with hr | ⟨set, data, id, tag, hm, hset, hinserted, htag, hr⟩
  · exact .inl (hplain hr)
  -- a record was added, under an identifier of its own
  have hkept := Store.kept_newRecord hinserted.stamped data id
  have hheaders := headers_created settings set htag hkept.ident
  have hlocation := location_created settings set tag hkept.ident
  have hstatus : r.status = 201 := hr ▸ rfl
  rw [← hr] at hheaders hlocation
  have hname : IsFieldName "Location" := by decide
  have hline := oneLine_setName hset
  by_cases hid : OneLine id
  · left
    refine hplain fun e he => ?_
    rcases hheaders e he with he | rfl
    · exact he
    · exact ⟨hname, oneLine_location hbase hline hid⟩
  · right
    have hstored : ∃ record, w'.store.record? set id = some record :=
      ⟨_, (hw.sound.added hinserted).rows.get?_self⟩
    have hbreak := crlf_infix_location_iff hbase hline id
    have hnames : ∀ e ∈ r.headers, IsFieldName e.1 := by
      intro e he
      rcases hheaders e he with he | rfl
      · exact he.1
      · exact hname
    refine ⟨set, id, ⟨hm, hset, hstatus, hstored, hid⟩, hlocation, ?_, ?_⟩
    · intro e he
      rcases hheaders e he with he | rfl
      · exact .inr ⟨he.1.1, he.2⟩
      · exact .inl rfl
    · -- of all header lines only that of the address can break
      rw [read?_render_iff hnames, ← hbreak]
      constructor
      · intro hall
        have haddress := hall _ (Assoc.mem_of_get? hlocation)
        exact haddress
      · intro hnone e he
        rcases hheaders e he with he | rfl
        · exact he.2.not_crlf
        · exact hnone

/-- The text of an answer is read back where a quote is in the identifier of the new record, and it
is not where a line break is. -/
theorem oneLine_unless_location_break :
    (∃ r w', ((inMemory {}).handle (addition "it's")).run (Store.oneRecord {}) = (r, w') ∧
        r.status = 201 ∧ read? r.render = some (r.status, r.headers, r.body)) ∧
      ∃ r w', ((inMemory {}).handle (addition "1\\r\\nX: y")).run (Store.oneRecord {}) = (r, w') ∧
        r.status = 201 ∧ read? r.render ≠ some (r.status, r.headers, r.body) := by
  have hbase : OneLine ({} : Settings).basePath := by decide
  constructor
  · have hstatus : (addedBy "it's").1.status = 201 := by decide +kernel
    have hlocation : Assoc.get? (addedBy "it's").1.headers "Location" =
        some ("/odata" ++ "/" ++ "A" ++ "('" ++ "it's" ++ "')") := by decide +kernel
    have hadded : ((inMemory {}).handle (addition "it's")).run (Store.oneRecord {}) =
        addedBy "it's" := rfl
    -- from here on it does not matter what was added
    generalize addedBy "it's" = p at *
    refine ⟨p.1, p.2, hadded, hstatus, ?_⟩
    rcases oneLine_unless_location {} hbase (Store.reachable_oneRecord {}) hadded with
      ⟨-, hread⟩ | ⟨set, id, hadds, hlocation', -, -⟩
    · exact hread
    · obtain rfl : "A" = set :=
        Route.collection.inj ((resource_addition "it's").symm.trans hadds.resource)
      obtain rfl : id = "it's" :=
        location_inj (Option.some.inj (hlocation'.symm.trans hlocation))
      exact absurd (by decide) hadds.broken
  · have hstatus : (addedBy "1\\r\\nX: y").1.status = 201 := by decide +kernel
    have hlocation : Assoc.get? (addedBy "1\\r\\nX: y").1.headers "Location" =
        some ("/odata" ++ "/" ++ "A" ++ "('" ++ "1\r\nX: y" ++ "')") := by decide +kernel
    have hadded : ((inMemory {}).handle (addition "1\\r\\nX: y")).run (Store.oneRecord {}) =
        addedBy "1\\r\\nX: y" := rfl
    generalize addedBy "1\\r\\nX: y" = p at *
    refine ⟨p.1, p.2, hadded, hstatus, ?_⟩
    rcases oneLine_unless_location {} hbase (Store.reachable_oneRecord {}) hadded with
      ⟨hlines, -⟩ | ⟨set, id, hadds, hlocation', -, hread⟩
    · -- the address has a line break, so not all headers are of one line
      have hline := (hlines _ (Assoc.mem_of_get? hlocation)).2
      exact absurd hline (by decide)
    · obtain rfl : "A" = set :=
        Route.collection.inj ((resource_addition _).symm.trans hadds.resource)
      obtain rfl : id = "1\r\nX: y" :=
        location_inj (Option.some.inj (hlocation'.symm.trans hlocation))
      rw [Ne, hread]
      decide

end ODataService.Service
