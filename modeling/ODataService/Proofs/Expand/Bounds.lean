import Mathlib.Algebra.GroupWithZero.Nat
import ODataService.Proofs.Bind
import ODataService.Proofs.Action
import ODataService.Expand.Resolution

/-!
# How much is fetched

The number of levels bounds what a resolution asks of its source and how deep it nests records,
whatever the relationships are and whatever the source answers (`fetches_bounded`).

To count the queries, the resolution runs on a source that records them (`Source.recording`). It
does the same then and keeps a log beside the state. `Records` says so of an action, together with
how many queries it sends at most and what holds of its result and its log; one lemma for each way
of putting actions together, and one for each function of the resolution.
-/

namespace ODataService.Expand

open ODataService.Action

variable {ω α β : Type}

/-- A query that was sent, how many levels down, and what came of it. -/
structure Fetch where
  depth : Nat
  target : Json
  query : Query
  found : Except Failure (List Json)

/-- A source that records the queries that it gets. -/
def Source.recording (source : Source ω) (depth : Nat) : Source (ω × List Fetch) where
  registry := source.registry
  find target q := ExceptT.mk fun s =>
    let (found, w) := (source.find target q).exec s.1
    (found, (w, s.2 ++ [⟨depth, target, q, found⟩]))

/-- How a text is resolved when every depth has a source of its own, from a depth on. -/
def outcomeAt (sources : Nat → Source ω) : (levels depth : Nat) → Resolver ω
  | 0, _, _, vs, _ => pure { rows := vs }
  | levels + 1, depth, entitySet, vs, text =>
    if vs.isEmpty || text = "" then pure { rows := vs }
    else
      match parse text with
      | .error r => pure { rows := vs, failure := some (.rejected r) }
      | .ok entries =>
        match (sources depth).registry.resolve? entitySet with
        | .error fault => pure { rows := vs, failure := some (.value fault) }
        | .ok none => pure { rows := vs }
        | .ok (some type) =>
          resolveEntries (sources depth) levels (outcomeAt sources levels (depth + 1)) type
            entries vs

/-- With one source for all depths, this is how a text is resolved. -/
theorem outcomeAt_eq (source : Source ω) (levels depth : Nat) :
    outcomeAt (fun _ => source) levels depth = outcome source levels := by
  induction levels generalizing depth with
  | zero => rfl
  | succ levels ih =>
    funext entitySet vs text
    rw [outcomeAt, ih]
    rfl

/-- The number of entries on the first levels of a text. A text that cannot be read has none. -/
def entryCount : (levels : Nat) → (text : String) → Nat
  | 0, _ => 0
  | levels + 1, text =>
    match parse text with
    | .ok entries => (entries.map fun e => 1 + (e.nested?.map (entryCount levels)).getD 0).sum
    | .error _ => 0

example : entryCount 2 "a($expand=a($expand=a)),b" = 3 := by decide +kernel

/-- The value `v'` comes of the value `v`, which was found `depth` levels down: a property that held
a key holds a record instead, which came of a row that was found on this level. There is nothing of
the kind from `maxDepth` on. -/
inductive Embedded (maxDepth : Nat) (log : List Fetch) : Nat → Json → Json → Prop where
  | same (depth : Nat) (v : Json) : Embedded maxDepth log depth v v
  | embed {depth : Nat} {v row : Json} {r done : Record} {p : String} {k : Scalar} {c : Fetch}
      {rows : List Json} (h : Embedded maxDepth log depth v (.obj r)) (hdepth : depth < maxDepth)
      (hkey : key? (Json.member r p) = some k) (hc : c ∈ log) (hcdepth : c.depth = depth)
      (hfound : c.found = .ok rows) (hrow : row ∈ rows)
      (hdone : Embedded maxDepth log (depth + 1) row (.obj done)) :
      Embedded maxDepth log depth v (.obj (Keyed.set r p (.obj done)))

/-! ## Embedding -/

section embedded

variable {maxDepth depth : Nat} {log log' : List Fetch} {u v v' : Json}

/-- What lies `maxDepth` levels down stays as it was found. -/
theorem Embedded.eq_of_maxDepth (h : Embedded maxDepth log maxDepth v v') : v' = v := by
  cases h with
  | same => rfl
  | embed _ hdepth => exact absurd hdepth (Nat.lt_irrefl _)

/-- What was embedded with fewer fetches is embedded with more. -/
theorem Embedded.mono (hlog : log ⊆ log') (h : Embedded maxDepth log depth v v') :
    Embedded maxDepth log' depth v v' := by
  induction h with
  | same depth v => exact .same depth v
  | embed _ hdepth hkey hc hcdepth hfound hrow _ ih ihdone =>
    exact .embed ih hdepth hkey (hlog hc) hcdepth hfound hrow ihdone

/-- Embedding into what is embedded already is embedding. -/
theorem Embedded.trans (h : Embedded maxDepth log depth u v)
    (h' : Embedded maxDepth log depth v v') :
    Embedded maxDepth log depth u v' := by
  induction h' with
  | same => exact h
  | embed _ hdepth hkey hc hcdepth hfound hrow hdone ih _ =>
    exact .embed (ih h) hdepth hkey hc hcdepth hfound hrow hdone

/-- Values one by one come of others. -/
def AllEmbedded (maxDepth : Nat) (log : List Fetch) (depth : Nat) (vs vs' : List Json) : Prop :=
  List.Forall₂ (Embedded maxDepth log depth) vs vs'

/-- Values that stay are embedded, without a fetch. -/
theorem AllEmbedded.refl (maxDepth : Nat) (log : List Fetch) (depth : Nat) (vs : List Json) :
    AllEmbedded maxDepth log depth vs vs :=
  List.forall₂_same.mpr fun v _ => .same depth v

/-- Values that were embedded with fewer fetches are so with more. -/
theorem AllEmbedded.mono {vs vs' : List Json} (hlog : log ⊆ log')
    (h : AllEmbedded maxDepth log depth vs vs') : AllEmbedded maxDepth log' depth vs vs' :=
  List.Forall₂.imp (fun _ _ h => h.mono hlog) h

/-- Embedding into values that are embedded already is embedding. -/
theorem AllEmbedded.trans {us vs vs' : List Json} (h : AllEmbedded maxDepth log depth us vs)
    (h' : AllEmbedded maxDepth log depth vs vs') : AllEmbedded maxDepth log depth us vs' := by
  induction h generalizing vs' with
  | nil =>
    cases h'
    exact .nil
  | cons hfirst _ ih =>
    cases h' with
    | cons hfirst' hrest' => exact .cons (hfirst.trans hfirst') (ih hrest')

/-- Every value behind comes from one in front. -/
theorem AllEmbedded.exists_of_mem {vs vs' : List Json} (h : AllEmbedded maxDepth log depth vs vs')
    (hv : v' ∈ vs') : ∃ v ∈ vs, Embedded maxDepth log depth v v' := by
  induction h with
  | nil => exact absurd hv List.not_mem_nil
  | @cons u u' vs vs' hfirst _ ih =>
    rcases List.mem_cons.mp hv with rfl | hv
    · exact ⟨u, List.mem_cons_self, hfirst⟩
    · obtain ⟨v, hmem, hembedded⟩ := ih hv
      exact ⟨v, List.mem_cons_of_mem u hmem, hembedded⟩

end embedded

/-! ## Recording -/

/-- What fails says nothing. -/
def Succeeds (Q : α → List Fetch → Prop) : Except Failure α → List Fetch → Prop
  | .ok a, log => Q a log
  | .error _, _ => True

variable {ok : Fetch → Prop} {n k : Nat} {Q : α → List Fetch → Prop} {R : β → List Fetch → Prop}

/-- The recording run `m` does what the run `plain` does. It records `n` queries at most, all of
which are `ok`, and the result and what was recorded satisfy `Q`. -/
def Records (ok : Fetch → Prop) (n : Nat) (Q : α → List Fetch → Prop) (plain : StateM ω α)
    (m : StateM (ω × List Fetch) α) : Prop :=
  ∀ w log, ∃ new, m.run (w, log) = ((plain.run w).1, ((plain.run w).2, log ++ new)) ∧
    new.length ≤ n ∧ (∀ c ∈ new, ok c) ∧ Q (plain.run w).1 new

/-- A result without a fetch records nothing. -/
theorem Records.pure {a : α} (h : Q a []) :
    Records ok n Q (Pure.pure a : StateM ω α) (Pure.pure a) := by
  intro w log
  refine ⟨[], ?_, Nat.zero_le _, fun c hc => absurd hc List.not_mem_nil, h⟩
  rw [List.append_nil]
  rfl

/-- More fetches may be allowed, and less said of the result. -/
theorem Records.mono {m : StateM (ω × List Fetch) α} {plain : StateM ω α}
    {Q' : α → List Fetch → Prop}
    (h : Records ok n Q plain m) (hn : n ≤ k) (hQ : ∀ a new, Q a new → Q' a new) :
    Records ok k Q' plain m := by
  intro w log
  obtain ⟨new, hrun, hlength, hok, hresult⟩ := h w log
  exact ⟨new, hrun, Nat.le_trans hlength hn, hok, hQ _ _ hresult⟩

/-- One after the other, runs record one behind the other. -/
theorem Records.bind {plain : StateM ω α} {m : StateM (ω × List Fetch) α} {next : α → StateM ω β}
    {f : α → StateM (ω × List Fetch) β} (hm : Records ok n Q plain m)
    (hf : ∀ a first, Q a first →
      Records ok k (fun b second => R b (first ++ second)) (next a) (f a)) :
    Records ok (n + k) R (plain >>= next) (m >>= f) := by
  intro w log
  obtain ⟨first, hrun, hlength, hok, hresult⟩ := hm w log
  obtain ⟨second, hrun', hlength', hok', hresult'⟩ :=
    hf (plain.run w).1 first hresult (plain.run w).2 (log ++ first)
  refine ⟨first ++ second, ?_, ?_, ?_, hresult'⟩
  · rw [StateT.run_bind, hrun, ← List.append_assoc]
    exact hrun'
  · rw [List.length_append]
    omega
  · intro c hc
    rcases List.mem_append.mp hc with hc | hc
    · exact hok c hc
    · exact hok' c hc

/-- An action that may fail records like a run, and its result says something if it succeeds. -/
abbrev RecordsOk (ok : Fetch → Prop) (n : Nat) (Q : α → List Fetch → Prop) (plain : Action ω α)
    (a : Action (ω × List Fetch) α) : Prop :=
  Records ok n (Succeeds Q) plain.run a.run

/-- More fetches may be allowed, and less said of the result. -/
theorem RecordsOk.mono {a : Action (ω × List Fetch) α} {plain : Action ω α}
    {Q' : α → List Fetch → Prop} (h : RecordsOk ok n Q plain a) (hn : n ≤ k)
    (hQ : ∀ a new, Q a new → Q' a new) : RecordsOk ok k Q' plain a := by
  refine Records.mono h hn fun x new hx => ?_
  cases x with
  | ok a => exact hQ a new hx
  | error f => trivial

/-- A result without a fetch records nothing. -/
theorem RecordsOk.pure {a : α} (h : Q a []) :
    RecordsOk ok n Q (Pure.pure a : Action ω α) (Pure.pure a) :=
  Records.pure (Q := Succeeds Q) h

/-- A failure records nothing. -/
theorem RecordsOk.fail (f : Failure) :
    RecordsOk ok n Q (Action.fail f : Action ω α) (Action.fail f) :=
  Records.pure (Q := Succeeds Q) trivial

/-- Steps that record do so in a row, with the sum of their fetches. -/
theorem RecordsOk.bind {plain : Action ω α} {a : Action (ω × List Fetch) α}
    {next : α → Action ω β} {f : α → Action (ω × List Fetch) β} (ha : RecordsOk ok n Q plain a)
    (hf : ∀ x first, Q x first →
      RecordsOk ok k (fun b second => R b (first ++ second)) (next x) (f x)) :
    RecordsOk ok (n + k) R (plain >>= next) (a >>= f) := by
  rw [RecordsOk, ExceptT.run_bind, ExceptT.run_bind]
  refine Records.bind ha fun x first hx => ?_
  -- a failure of the first step is the last thing that happens
  cases x with
  | ok x =>
    refine Records.mono (hf x first hx) (Nat.le_refl _) fun y new hy => ?_
    cases y with
    | ok y => exact hy
    | error f => trivial
  | error f => exact Records.pure trivial

/-- A step that cannot fail records in an action what it records on its own. -/
theorem RecordsOk.lift {plain : StateM ω α} {m : StateM (ω × List Fetch) α}
    (hm : Records ok n Q plain m) :
    RecordsOk ok n Q (plain : Action ω α) (m : Action (ω × List Fetch) α) := by
  have hbind : Records ok (n + 0) (Succeeds Q) (plain >>= fun a => Pure.pure (Except.ok a))
      (m >>= fun a => Pure.pure (Except.ok a)) := by
    refine Records.bind hm fun a first ha => Records.pure ?_
    rw [List.append_nil]
    exact ha
  exact hbind

/-- What a rejection may stop does not look at the state. -/
theorem RecordsOk.ofRejection (x : Except Rejection α) :
    RecordsOk ok n (fun _ new => new = []) (Action.ofRejection x : Action ω α)
      (Action.ofRejection x) := by
  cases x with
  | ok a => exact .pure rfl
  | error r => exact .fail (.rejected r)

/-! ## Resolving -/

/-- Values that are all records are their records. -/
theorem eq_map_of_asRecords {vs : List Json} {rows : List Record}
    (h : Json.asRecords vs = .ok rows) : vs = rows.map .obj := by
  have hrecords := mapM_eq_ok.1 h
  clear h
  induction hrecords with
  | nil => rfl
  | @cons v r vs rows hv _ ih =>
    have hobj : v = .obj r := by
      cases v with
      | obj r' => exact congrArg Json.obj (Except.ok.inj hv)
      | _ => simp [Json.asRecord] at hv
    rw [List.map_cons, ← ih, hobj]

/-- Asking for records fetches nothing. -/
theorem recordsOk_requireRecords (vs : List Json) :
    RecordsOk ok n (fun rows new => new = [] ∧ vs = rows.map .obj)
      (requireRecords vs : Action ω (List Record)) (requireRecords vs) := by
  unfold requireRecords
  cases hrows : Json.asRecords vs with
  | ok rows => exact .pure ⟨rfl, eq_map_of_asRecords hrows⟩
  | error fault => exact .fail (.value fault)

/-- Handing on the rows or the failure fetches nothing. -/
theorem recordsOk_rowsOrFail (o : Outcome) :
    RecordsOk ok n (fun vs new => new = [] ∧ vs = o.rows)
      (o.rowsOrFail : Action ω (List Json)) o.rowsOrFail := by
  obtain ⟨rows, _ | f⟩ := o
  · exact .pure ⟨rfl, rfl⟩
  · exact .fail f

section resolving

variable {source : Source ω} {maxDepth depth levels : Nat} {e : Entry}
  {plain : Resolver ω} {deeper : Resolver (ω × List Fetch)}

/-- A query is recorded with what comes of it. -/
theorem recordsOk_find (source : Source ω) (hok : ∀ c : Fetch, c.depth = depth → ok c)
    (target : Json) (q : Query) :
    RecordsOk ok 1 (fun found new => ∃ c ∈ new, c.depth = depth ∧ c.found = .ok found)
      (source.find target q) ((source.recording depth).find target q) := by
  intro w log
  let c : Fetch := ⟨depth, target, q, ((source.find target q).exec w).1⟩
  -- the one fetch is recorded with what it found
  refine ⟨[c], rfl, Nat.le_refl 1, ?_, ?_⟩
  · intro c' hc'
    obtain rfl := List.mem_singleton.mp hc'
    exact hok c rfl
  · show Succeeds _ ((source.find target q).exec w).1 [c]
    rcases hfound : ((source.find target q).exec w).1 with f | found
    · trivial
    · exact ⟨c, List.mem_singleton_self c, rfl, hfound⟩

/-- The texts that are nested in an entry are resolved one level further down, with `n` queries at
most. -/
def RecordsNested (ok : Fetch → Prop) (maxDepth depth n : Nat) (plain : Resolver ω)
    (deeper : Resolver (ω × List Fetch)) (e : Entry) : Prop :=
  ∀ text, e.nested? = some text → ∀ target vs,
    Records ok n (fun o new => AllEmbedded maxDepth new (depth + 1) vs o.rows)
      (plain target vs text) (deeper target vs text)

/-- Related records come of rows that one query has found. -/
def FoundBy (maxDepth depth : Nat) (done : List Record) (new : List Fetch) : Prop :=
  ∃ c ∈ new, c.depth = depth ∧ ∃ rows, c.found = .ok rows ∧
    ∀ r ∈ done, ∃ row ∈ rows, Embedded maxDepth new (depth + 1) row (.obj r)

/-- The related rows are found by one fetch, and by those that are nested. -/
theorem recordsOk_related (hok : ∀ c : Fetch, c.depth = depth → ok c)
    (hnested : RecordsNested ok maxDepth depth n plain deeper e) (target : Json)
    (keys : List Scalar) :
    RecordsOk ok (1 + n) (FoundBy maxDepth depth) (related source levels plain target keys e)
      (related (source.recording depth) levels deeper target keys e) := by
  have hn : 0 + (0 + (1 + n)) = 1 + n := by omega
  rw [related, related, ← hn]
  -- neither the properties nor the query take a fetch
  refine RecordsOk.bind (RecordsOk.ofRejection _) ?_
  rintro keep first rfl
  refine RecordsOk.bind (RecordsOk.ofRejection _) ?_
  rintro q first rfl
  refine RecordsOk.bind (recordsOk_find source hok target q) ?_
  rintro found first ⟨c, hc, hcdepth, hfound⟩
  cases htext : e.nested? with
  | none =>
    -- what was found is embedded as it is
    refine (recordsOk_requireRecords found).mono (Nat.le_refl n) ?_
    rintro done second ⟨rfl, rfl⟩
    refine ⟨c, by simp [hc], hcdepth, _, hfound, ?_⟩
    intro r hr
    exact ⟨.obj r, List.mem_map_of_mem hr, .same _ _⟩
  | some text =>
    have hn' : n + (0 + 0) = n := by omega
    rw [← hn']
    refine RecordsOk.bind (RecordsOk.lift (hnested text htext target found)) ?_
    intro o second ho
    refine RecordsOk.bind (recordsOk_rowsOrFail o) ?_
    rintro vs third ⟨rfl, rfl⟩
    refine (recordsOk_requireRecords o.rows).mono (Nat.le_refl 0) ?_
    rintro done fourth ⟨rfl, hdone⟩
    refine ⟨c, by simp [hc], hcdepth, found, hfound, ?_⟩
    intro r hr
    -- a record that is embedded comes of a row in the same place
    have hmem : Json.obj r ∈ o.rows := hdone ▸ List.mem_map_of_mem hr
    obtain ⟨row, hrow, hembedded⟩ := AllEmbedded.exists_of_mem ho hmem
    have hlog : second ⊆ [] ++ ([] ++ (first ++ (second ++ ([] ++ [])))) := by
      intro c hc
      simp [hc]
    exact ⟨row, hrow, hembedded.mono hlog⟩

/-- A record comes of itself when one of the related records is embedded in it. -/
theorem embedded_embed {done : List Record} {new : List Fetch} (hdepth : depth < maxDepth)
    (hdone : FoundBy maxDepth depth done new) (p : String) (r : Record) :
    Embedded maxDepth new depth (.obj r) (.obj (embed p done r)) := by
  obtain ⟨c, hc, hcdepth, rows, hfound, hrows⟩ := hdone
  unfold embed
  cases hkey : key? (Json.member r p) with
  | none => exact .same depth _
  | some k =>
    dsimp only
    cases hrecord : recordOf? done k with
    | none => exact .same depth _
    | some found =>
      -- the record was taken from what had been found
      have hmem : found ∈ done := List.mem_reverse.mp (List.mem_of_find?_eq_some hrecord)
      obtain ⟨row, hrow, hembedded⟩ := hrows found hmem
      exact .embed (.same depth _) hdepth hkey hc hcdepth hfound hrow hembedded

/-- A relationship takes one fetch, and those that are nested, for all rows together. -/
theorem recordsOk_resolveRelationship (hok : ∀ c : Fetch, c.depth = depth → ok c)
    (hdepth : depth < maxDepth) (hnested : RecordsNested ok maxDepth depth n plain deeper e)
    (f : Field) (vs : List Json) :
    RecordsOk ok (1 + n) (fun vs' new => AllEmbedded maxDepth new depth vs vs')
      (resolveRelationship source levels plain f vs e)
      (resolveRelationship (source.recording depth) levels deeper f vs e) := by
  have hn : 0 + (1 + n) = 1 + n := by omega
  rw [resolveRelationship, resolveRelationship, ← hn]
  refine RecordsOk.bind (recordsOk_requireRecords vs) ?_
  rintro rows first ⟨rfl, rfl⟩
  cases keysOf e.property rows with
  | nil => exact .pure (.refl maxDepth _ depth _)
  | cons k keys =>
    have hn' : 1 + n + 0 = 1 + n := by omega
    rw [← hn']
    refine RecordsOk.bind (recordsOk_related hok hnested f.reference (k :: keys)) ?_
    intro done second hdone
    refine .pure ?_
    rw [List.nil_append, List.append_nil]
    -- one record after the other
    refine List.forall₂_map_left_iff.mpr (List.forall₂_map_right_iff.mpr ?_)
    exact List.forall₂_same.mpr fun r _ => embedded_embed hdepth hdone e.property r

/-- An entry takes the fetches of its relationship, or none. -/
theorem recordsOk_resolveEntry (hok : ∀ c : Fetch, c.depth = depth → ok c)
    (hdepth : depth < maxDepth) (hnested : RecordsNested ok maxDepth depth n plain deeper e)
    (type : ObjectType) (vs : List Json) :
    RecordsOk ok (1 + n) (fun vs' new => AllEmbedded maxDepth new depth vs vs')
      (resolveEntry source levels plain type vs e)
      (resolveEntry (source.recording depth) levels deeper type vs e) := by
  unfold resolveEntry
  cases Assoc.get? type.fields e.property with
  | none => exact .pure (.refl maxDepth _ depth vs)
  | some f =>
    cases hrelationship : f.isRelationship with
    | true =>
      simp only [hrelationship, if_true]
      exact recordsOk_resolveRelationship hok hdepth hnested f vs
    | false =>
      simp only [hrelationship]
      exact .pure (.refl maxDepth _ depth vs)

/-- The queries that an entry may send: its own and those of the text that is nested in it. -/
def entryCost (levels : Nat) (e : Entry) : Nat := 1 + (e.nested?.map (entryCount levels)).getD 0

/-- The entries take the sum of their fetches. -/
theorem records_resolveEntries (hok : ∀ c : Fetch, c.depth = depth → ok c)
    (hdepth : depth < maxDepth) (type : ObjectType) (es : List Entry)
    (hnested : ∀ e ∈ es, RecordsNested ok maxDepth depth
      ((e.nested?.map (entryCount levels)).getD 0)
      plain deeper e) (vs : List Json) :
    Records ok ((es.map (entryCost levels)).sum)
      (fun o new => AllEmbedded maxDepth new depth vs o.rows)
      (resolveEntries source levels plain type es vs)
      (resolveEntries (source.recording depth) levels deeper type es vs) := by
  induction es generalizing vs with
  | nil => exact .pure (.refl maxDepth _ depth vs)
  | cons e es ih =>
    rw [resolveEntries, resolveEntries, List.map_cons, List.sum_cons]
    refine Records.bind
      (recordsOk_resolveEntry hok hdepth (hnested e List.mem_cons_self) type vs) ?_
    intro x first hx
    cases x with
    -- a failure leaves the rows as they are, and nothing follows it
    | error f => exact .pure (.refl maxDepth _ depth vs)
    | ok vs' =>
      have hrest := ih (fun e he => hnested e (List.mem_cons_of_mem _ he)) vs'
      refine hrest.mono (Nat.le_refl _) ?_
      intro o second ho
      have hbefore : AllEmbedded maxDepth (first ++ second) depth vs vs' :=
        AllEmbedded.mono (List.subset_append_left first second) hx
      exact hbefore.trans (ho.mono (List.subset_append_right first second))

/-- A text is resolved with a query for each of its entries at most, on the levels that are left. -/
theorem records_outcomeAt (source : Source ω) (levels depth : Nat)
    (hdepth : depth + levels = maxDepth)
    (hok : ∀ c : Fetch, depth ≤ c.depth → c.depth < maxDepth → ok c) (entitySet : Json)
    (vs : List Json) (text : String) :
    Records ok (entryCount levels text) (fun o new => AllEmbedded maxDepth new depth vs o.rows)
      (outcome source levels entitySet vs text)
      (outcomeAt source.recording levels depth entitySet vs text) := by
  -- by induction on the levels that are left; every level fetches at its own depth
  induction levels generalizing depth entitySet vs text with
  | zero => exact .pure (.refl maxDepth _ depth vs)
  | succ levels ih =>
    have hhere : depth < maxDepth := by omega
    have hbelow : depth + 1 + levels = maxDepth := by omega
    rw [outcome, outcomeAt, entryCount]
    by_cases hnothing : (vs.isEmpty || decide (text = "")) = true
    · rw [if_pos hnothing, if_pos hnothing]
      exact .pure (.refl maxDepth _ depth vs)
    rw [if_neg hnothing, if_neg hnothing]
    cases parse text with
    | error r => exact .pure (.refl maxDepth _ depth vs)
    | ok es =>
      have hregistry : (source.recording depth).registry = source.registry := rfl
      simp only [hregistry]
      rcases source.registry.resolve? entitySet with fault | _ | type
      · exact .pure (.refl maxDepth _ depth vs)
      · exact .pure (.refl maxDepth _ depth vs)
      · refine records_resolveEntries ?_ hhere type es ?_ vs
        · intro c hc
          exact hok c (by omega) (by omega)
        · intro e _ nested hnested target found
          rw [hnested]
          -- a level is left for what is nested, if there is one at all
          refine ih (depth + 1) hbelow ?_ target found nested
          intro c hlow hhigh
          exact hok c (by omega) hhigh

end resolving

/-- Resolving a text on `maxDepth` levels sends all its queries from less than `maxDepth` levels
down, and at most one for each entry on the first `maxDepth` levels of the text, whatever the
relationships, the records and the answers are. What comes of the records embeds others at most
`maxDepth` levels deep, and a record that is embedded on the last level is as it was found. -/
theorem fetches_bounded (source : Source ω) (maxDepth : Nat) (entitySet : Json) (vs : List Json)
    (text : String) (w : ω) :
    ∃ log : List Fetch,
      (outcomeAt source.recording maxDepth 0 entitySet vs text).run (w, []) =
        (((outcome source maxDepth entitySet vs text).run w).1,
          (((outcome source maxDepth entitySet vs text).run w).2, log)) ∧
      (∀ c ∈ log, c.depth < maxDepth) ∧
      log.length ≤ entryCount maxDepth text ∧
      List.Forall₂ (Embedded maxDepth log 0) vs
        ((outcome source maxDepth entitySet vs text).run w).1.rows ∧
      ∀ v v', Embedded maxDepth log maxDepth v v' → v' = v := by
  have hok : ∀ c : Fetch, 0 ≤ c.depth → c.depth < maxDepth → c.depth < maxDepth :=
    fun c _ hdepth => hdepth
  obtain ⟨log, hrun, hlength, hdepth, hembedded⟩ := records_outcomeAt source maxDepth 0
    (Nat.zero_add maxDepth) hok entitySet vs text w []
  exact ⟨log, hrun, hdepth, hlength, hembedded, fun v v' h => h.eq_of_maxDepth⟩

end ODataService.Expand
