import ODataService.Proofs.Bind
import ODataService.Proofs.Keyed
import ODataService.Proofs.Remote.Conversation

/-!
# Refreshing the object types

`Remote.refresh` asks the remote record store for the list of object types and then, for one listed
name after the other, for the declaration of the type. Either all of this succeeds, and the object
types are those that the answers tell of, or the client goes on answering for object types as it did
before (`Remote.refresh_all_or_nothing`).

`Tells` says which answers make a refresh succeed. It looks at the answers only: the names in the
list, and for each of them the declaration in the answer to the request for this name. Everything
that is done before the object types are exchanged is `fetchTypes`, which changes the conversation
and nothing else.
-/

namespace ODataService.Remote

open ODataService.Action

variable {w w' : World Client}

/-! ## Object types -/

/-- The names of the object types that the client knows. -/
def Client.typeNames (c : Client) : List Scalar := Keyed.keys (engine.registry c)

/-- What the client answers when it is asked for an object type, by whatever value. -/
def Client.declared? (c : Client) (name : Json) : Except ValueFault (Option ObjectType) :=
  (engine.registry c).resolve? name

theorem typeNames_eq (c : Client) : c.typeNames = c.types.keys := by
  simp [Client.typeNames, engine, Keyed.keys]

/-- A client knows a name when the name is a key of its types. -/
theorem declared?_eq (c : Client) (name : Json) :
    c.declared? name = name.asKey.map (Keyed.get? c.types) := by
  have hget (types : Keyed ObjectType) (key : Scalar) :
      (Keyed.get? (types.map fun e => (e.1, some e.2)) key).join = Keyed.get? types key := by
    induction types with
    | nil => rfl
    | cons e types ih =>
      obtain ⟨k, t⟩ := e
      rw [List.map_cons, Keyed.get?, Keyed.get?]
      split
      · rfl
      · exact ih
  exact congrArg name.asKey.map (funext (hget c.types))

/-! ## What the store tells -/

/-- The names in a list of object types; entries without a name are passed over. -/
def namesIn : List Json → Except ValueFault (List Scalar)
  | [] => .ok []
  | entry :: entries => do
    match ← listedName? entry with
    | none => namesIn entries
    | some v =>
      let name ← v.asKey
      let names ← namesIn entries
      return name :: names

/-- What is told of one listed object type. -/
structure Detail where
  name : Scalar
  /-- The answer to the request for this type. -/
  answer : Answer
  /-- The declaration in the answer. -/
  type : ObjectType

namespace Detail

/-- The path under which the declaration of an object type is. -/
def path (d : Detail) : String := typesPath ++ "/" ++ d.name.toJson.display

/-- The request for the declaration, and its answer. -/
def exchange (base : String) (d : Detail) : Sent × Answer :=
  (request base "GET" d.path none, d.answer)

/-- The answer is a good one and holds the declaration. -/
def IsTold (base : String) (d : Detail) : Prop :=
  ∃ v, d.answer.value (base ++ d.path) = .ok v ∧ declaration d.name.toJson v = .ok d.type

end Detail

/-- The answers list object types and declare each of them. -/
structure Tells (base : String) (listing : Answer) (details : List Detail) : Prop where
  names : ∃ v entries, listing.value (base ++ typesPath) = .ok v ∧ listedTypes v = .ok entries ∧
    namesIn entries = .ok (details.map Detail.name)
  details : ∀ d ∈ details, d.IsTold base

theorem asKey_eq_ok {v : Json} {key : Scalar} : v.asKey = .ok key ↔ v = key.toJson := by
  cases v <;> cases key <;> simp [Json.asKey, Json.scalar?, Scalar.toJson]

/-! ## Steps -/

/-- What is usable is used as it is, and nothing happens in the world. -/
theorem exec_usable_eq_ok {α : Type} {x : Except ValueFault α} {a : α}
    (h : (usable x).exec w = (.ok a, w')) : x = .ok a ∧ w = w' := by
  cases x with
  | ok b =>
    obtain ⟨hb, hw⟩ := Prod.mk.inj h
    exact ⟨congrArg Except.ok (Except.ok.inj hb), hw⟩
  | error fault => exact absurd (Prod.mk.inj h).1 (by simp)

/-- A usable value is handed on. -/
theorem exec_usable_ok {α : Type} {x : Except ValueFault α} {a : α} (h : x = .ok a) :
    (usable x).exec w = (.ok a, w) := by
  rw [h]
  rfl

/-- A request that is answered well takes the first answer and gives its value. -/
theorem exec_send_answered {path : String} {a : Answer} {rest : List Answer} {v : Json}
    (h : w.store.connection.answers = a :: rest)
    (hvalue : a.value (w.store.connection.base ++ path) = .ok v) :
    (send "GET" path none).exec w =
      (.ok v, answered w (request w.store.connection.base "GET" path none) rest) := by
  rw [exec_send, Connection.send, Connection.exchange, h]
  simp only [request, hvalue]
  rfl

/-- A request succeeds if there is a good answer to it. -/
theorem exec_send_eq_ok {path : String} {v : Json}
    (h : (send "GET" path none).exec w = (.ok v, w')) :
    ∃ a rest, w.store.connection.answers = a :: rest ∧
      a.value (w.store.connection.base ++ path) = .ok v ∧
      w' = answered w (request w.store.connection.base "GET" path none) rest := by
  rw [exec_send, Connection.send, Connection.exchange] at h
  cases hanswers : w.store.connection.answers with
  -- without an answer the request fails
  | nil =>
    rw [hanswers] at h
    exact absurd (Prod.mk.inj h).1 (by simp)
  | cons a rest =>
    rw [hanswers] at h
    obtain ⟨hvalue, hw⟩ := Prod.mk.inj h
    rw [mapError_eq_ok] at hvalue
    exact ⟨a, rest, rfl, hvalue, hw.symm⟩

/-! ## Loading -/

/-- What was loaded is what the answers told, stored in the order of the list. -/
theorem exec_loadTypes_eq_ok {types types' : Keyed ObjectType} {entries : List Json}
    (h : (loadTypes types entries).exec w = (.ok types', w')) :
    ∃ details : List Detail, namesIn entries = .ok (details.map Detail.name) ∧
      (∀ d ∈ details, d.IsTold w.store.connection.base) ∧
      types' = types.merge (details.map fun d => (d.name, d.type)) ∧
      Talk w w' (details.map (Detail.exchange w.store.connection.base)) [] := by
  -- the types read so far are carried through, so they are kept general
  induction entries generalizing types w with
  | nil =>
    obtain ⟨htypes, rfl⟩ := Prod.mk.inj h
    exact ⟨[], rfl, by simp, (Except.ok.inj htypes).symm, .none rfl⟩
  | cons entry entries ih =>
    rw [loadTypes] at h
    obtain ⟨listed, w₁, hstep, h⟩ := exec_bind_eq_ok h
    obtain ⟨hlisted, rfl⟩ := exec_usable_eq_ok hstep
    cases listed with
    | none =>
      obtain ⟨details, hnames, hrest⟩ := ih h
      refine ⟨details, ?_, hrest⟩
      rw [namesIn, hlisted, ok_bind, hnames]
    | some name =>
      -- a listed name is asked for, its type read, and the name used as a key
      obtain ⟨v, w₂, hsend, h⟩ := exec_bind_eq_ok h
      obtain ⟨type, w₃, hread, h⟩ := exec_bind_eq_ok h
      obtain ⟨key, w₄, hname, h⟩ := exec_bind_eq_ok h
      obtain ⟨a, rest, hanswers, hvalue, rfl⟩ := exec_send_eq_ok hsend
      obtain ⟨htype, rfl⟩ := exec_usable_eq_ok hread
      obtain ⟨hkey, rfl⟩ := exec_usable_eq_ok hname
      obtain ⟨details, hnames, htold, htypes, htalk⟩ := ih h
      obtain rfl := asKey_eq_ok.1 hkey
      -- the exchange of this name comes in front of those of the others
      refine ⟨⟨key, a, type⟩ :: details, ?_, ?_, htypes, (talk_answered _ hanswers).trans htalk⟩
      · rw [namesIn, hlisted, ok_bind]
        simp only [hkey, ok_bind, hnames]
        rfl
      · rw [List.forall_mem_cons]
        exact ⟨⟨v, hvalue, htype⟩, htold⟩

/-- Answers that tell of all listed types are enough. -/
theorem exec_loadTypes_told {types : Keyed ObjectType} {entries : List Json} {details : List Detail}
    {rest : List Answer} (hnames : namesIn entries = .ok (details.map Detail.name))
    (htold : ∀ d ∈ details, d.IsTold w.store.connection.base)
    (hanswers : w.store.connection.answers = details.map Detail.answer ++ rest) :
    ∃ types' w', (loadTypes types entries).exec w = (.ok types', w') := by
  induction entries generalizing types w details with
  | nil => exact ⟨types, w, rfl⟩
  | cons entry entries ih =>
    rw [namesIn] at hnames
    obtain ⟨listed, hlisted, hnames⟩ := bind_eq_ok.1 hnames
    rw [loadTypes, exec_bind_ok (exec_usable_ok hlisted)]
    cases listed with
    | none => exact ih hnames htold hanswers
    | some name =>
      obtain ⟨key, hkey, hnames⟩ := bind_eq_ok.1 hnames
      obtain ⟨keys, hkeys, hnames⟩ := bind_eq_ok.1 hnames
      -- the name is that of the first detail
      obtain ⟨d, ds, rfl, rfl, rfl⟩ := List.map_eq_cons_iff.1 (Except.ok.inj hnames).symm
      rw [List.forall_mem_cons] at htold
      obtain ⟨⟨v, hvalue, htype⟩, htold⟩ := htold
      obtain rfl := asKey_eq_ok.1 hkey
      -- its request takes the first of the answers, the others are left
      have hsend : (send "GET" (typesPath ++ "/" ++ d.name.toJson.display) none).exec w =
          (.ok v, answered w (request w.store.connection.base "GET" d.path none)
            (ds.map Detail.answer ++ rest)) := exec_send_answered hanswers hvalue
      obtain ⟨types', w', hrest⟩ : ∃ types' w', (loadTypes (types.set d.name d.type) entries).exec
          (answered w (request w.store.connection.base "GET" d.path none)
            (ds.map Detail.answer ++ rest)) = (.ok types', w') := ih hkeys htold rfl
      refine ⟨types', w', ?_⟩
      dsimp only
      rw [exec_bind_ok hsend, exec_bind_ok (exec_usable_ok htype),
        exec_bind_ok (exec_usable_ok hkey), hrest]

/-! ## Refreshing -/

/-- The object types as the store declares them now. -/
def fetchTypes : Run (Keyed ObjectType) := do
  let listing ← send "GET" typesPath none
  let entries ← usable (listedTypes listing)
  loadTypes [] entries

/-- The object types are exchanged at once, when all of them are there. -/
theorem exec_refresh (w : World Client) :
    refresh.exec w =
      match fetchTypes.exec w with
      | (.ok types, w') => (.ok types.keys, { w' with store := { w'.store with types := types } })
      | (.error f, w') => (.error f, w') := by
  -- everything but the last step only fetches
  have hrefresh : refresh = fetchTypes >>= fun types => do
      modify fun w => { w with store := { w.store with types := types } }
      return types.keys := by
    simp only [refresh, fetchTypes, bind_assoc]
  rw [hrefresh, exec_bind]
  rcases fetchTypes.exec w with ⟨f | types, w'⟩ <;> rfl

/-- The client knows the same object types. -/
def SameTypes (w w' : World Client) : Prop := w'.store.types = w.store.types

instance : Progress SameTypes where
  refl _ := rfl
  trans h h' := h'.trans h

/-- Sending leaves the types of the client alone. -/
theorem keepsTypes_send (method path : String) (payload : Option Json) :
    Keeps (Along SameTypes) (send method path payload) := by
  intro w
  show SameTypes w ((send method path payload).exec w).2
  rw [exec_send]
  rfl

/-- Reading a value leaves the types of the client alone. -/
theorem keepsTypes_usable {α : Type} (x : Except ValueFault α) :
    Keeps (Along SameTypes) (usable x) := by
  cases x with
  | ok a => exact .pure a
  | error fault => exact .fail _

/-- Loading the types of the listed names leaves those of the client alone, however far it gets. -/
theorem keepsTypes_loadTypes (types : Keyed ObjectType) (entries : List Json) :
    Keeps (Along SameTypes) (loadTypes types entries) := by
  induction entries generalizing types with
  | nil => exact .pure types
  | cons entry entries ih =>
    rw [loadTypes]
    refine .bind (keepsTypes_usable _) fun listed => ?_
    cases listed with
    | none => exact ih types
    | some name =>
      exact .bind (keepsTypes_send _ _ _) fun _ => .bind (keepsTypes_usable _) fun _ =>
        .bind (keepsTypes_usable _) fun _ => ih _

/-- Before they are exchanged the object types stay as they are. -/
theorem keepsTypes_fetchTypes : Keeps (Along SameTypes) fetchTypes :=
  .bind (keepsTypes_send _ _ _) fun _ => .bind (keepsTypes_usable _) fun _ =>
    keepsTypes_loadTypes [] _

/-- Types that were fetched are those the listing and its details tell, and the conversation was
exactly about these. -/
theorem exec_fetchTypes_eq_ok {types : Keyed ObjectType} (h : fetchTypes.exec w = (.ok types, w')) :
    ∃ (listing : Answer) (details : List Detail), Tells w.store.connection.base listing details ∧
      types = Keyed.ofPairs (details.map fun d => (d.name, d.type)) ∧
      Talk w w' ((request w.store.connection.base "GET" typesPath none, listing) ::
        details.map (Detail.exchange w.store.connection.base)) [] := by
  obtain ⟨v, w₁, hsend, h⟩ := exec_bind_eq_ok h
  obtain ⟨entries, w₂, hread, h⟩ := exec_bind_eq_ok h
  obtain ⟨listing, rest, hanswers, hvalue, rfl⟩ := exec_send_eq_ok hsend
  obtain ⟨hentries, rfl⟩ := exec_usable_eq_ok hread
  obtain ⟨details, hnames, htold, htypes, htalk⟩ := exec_loadTypes_eq_ok h
  exact ⟨listing, details, ⟨⟨v, entries, hvalue, hentries, hnames⟩, htold⟩, htypes,
    (talk_answered _ hanswers).trans htalk⟩

/-- When the next answers tell a listing and all its details, the types are fetched. -/
theorem exec_fetchTypes_told {listing : Answer} {details : List Detail} {rest : List Answer}
    (htells : Tells w.store.connection.base listing details)
    (hanswers : w.store.connection.answers = listing :: (details.map Detail.answer ++ rest)) :
    ∃ types w', fetchTypes.exec w = (.ok types, w') := by
  obtain ⟨v, entries, hvalue, hentries, hnames⟩ := htells.names
  rw [fetchTypes, exec_bind_ok (exec_send_answered hanswers hvalue),
    exec_bind_ok (exec_usable_ok hentries)]
  exact exec_loadTypes_told hnames htells.details rfl

/-- The object types are those that the answers told of: one for each name, in the order in which the
names come first, with what was told last. -/
structure Refreshed (w w' : World Client) (names : List Scalar) (listing : Answer)
    (details : List Detail) : Prop where
  tells : Tells w.store.connection.base listing details
  talk : Talk w w' ((request w.store.connection.base "GET" typesPath none, listing) ::
    details.map (Detail.exchange w.store.connection.base)) []
  /-- Each name that is listed is given once, in the place where it comes first. -/
  given : names = (details.map Detail.name).eraseDupsBy Scalar.sameKey
  typeNames : w'.store.typeNames = names
  /-- Of what is told of a name the last counts; nothing is known of other names. -/
  declared : ∀ name, w'.store.declared? name = name.asKey.map fun key =>
    (details.findRev? (·.name.sameKey key)).map Detail.type

/-- A refresh that succeeds gives the names of the object types that it was told of, and these are
then known as they were told. A refresh fails if and only if the answers do not tell of all listed
types. Then the names of the object types and the answers for any name are what they were before. -/
theorem refresh_all_or_nothing (w : World Client) :
    match refresh.exec w with
    | (.ok names, w') => ∃ listing details, Refreshed w w' names listing details
    | (.error _, w') =>
      (w'.store.typeNames = w.store.typeNames ∧
        ∀ name, w'.store.declared? name = w.store.declared? name) ∧
      ¬ ∃ listing details rest, Tells w.store.connection.base listing details ∧
        w.store.connection.answers = listing :: (details.map Detail.answer ++ rest) := by
  rw [exec_refresh]
  rcases hfetch : fetchTypes.exec w with ⟨f | types, w'⟩
  -- the types are set after the last step that can fail
  · have hsame : w'.store.types = w.store.types := by
      have h := keepsTypes_fetchTypes.along w
      rwa [hfetch] at h
    refine ⟨⟨?_, fun name => ?_⟩, ?_⟩
    · rw [typeNames_eq, typeNames_eq, hsame]
    · rw [declared?_eq, declared?_eq, hsame]
    -- answers that tell everything would have been fetched
    · rintro ⟨listing, details, rest, htells, hanswers⟩
      obtain ⟨types, w'', hok⟩ := exec_fetchTypes_told htells hanswers
      rw [hfetch] at hok
      simp at hok
  · obtain ⟨listing, details, htells, rfl, htalk⟩ := exec_fetchTypes_eq_ok hfetch
    -- the client now has the fetched types, the last entry of a name counting
    refine ⟨listing, details, htells, ⟨htalk.sent, htalk.answers⟩, ?_, typeNames_eq _, fun name => ?_⟩
    · rw [Keyed.keys_ofPairs, Keyed.keys, List.map_map]
      rfl
    · rw [declared?_eq]
      refine congrArg name.asKey.map (funext fun key => ?_)
      rw [Keyed.get?_ofPairs, List.findRev?_eq_find?_reverse, List.findRev?_eq_find?_reverse,
        ← List.map_reverse, List.find?_map, Option.map_map]
      rfl

/-- A client that will be told of two object types, of the first one twice. -/
def relisted : World Client where
  store := { connection := { base := "r", answers := [
    ⟨200, "[\"A\",\x7b\"name\":\"B\"\x7d,\"\",\"A\"]"⟩,
    ⟨200, "\x7b\"label\":1\x7d"⟩, ⟨200, "null"⟩, ⟨200, "\x7b\"label\":2\x7d"⟩] } }

example :
    (refresh.exec relisted).1.toOption = some [.str "A", .str "B"] ∧
      ((refresh.exec relisted).2.store.declared? (.str "A")).toOption.map
        (·.map fun t => (t.name, t.label.display)) = some (some ("A", "2")) := by
  decide +kernel

end ODataService.Remote
