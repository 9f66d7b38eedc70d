import ODataService.Proofs.Expand.Bounds
import ODataService.Proofs.Query.Counting
import ODataService.Proofs.Query.Options
import ODataService.Proofs.Service.Reads

/-!
# The number of records in three answers

How many records an entity set has under some options is told in three ways: by the number in an
answer with records, by the answer to a request for the number alone, and by the length of an answer
without a page. They agree (`Service.counts_agree`), and the length of a page follows from them.

The three requests read their options each in its own way, so the first section says what a request
for records comes to when it succeeds; no other fact about it is used below.
-/

namespace ODataService

open ODataService.Action

/-! ## Embedding keeps the number of records -/

namespace Expand

variable {ω : Type} {source : Source ω} {levels : Nat} {deeper : Resolver ω} {type : ObjectType}
  {vs rows : List Json} {w w' : ω}

/-- Asking for records keeps their number. -/
theorem length_requireRecords {rs : List Record}
    (h : (requireRecords vs).exec w = (.ok rs, w')) : rs.length = vs.length := by
  unfold requireRecords at h
  split at h
  · next hrows =>
    obtain ⟨hrs, -⟩ := Prod.mk.inj h
    rw [eq_map_of_asRecords hrows, List.length_map, Except.ok.inj hrs]
  · exact absurd (Prod.mk.inj h).1 (by simp)

/-- Expanding a relationship keeps the number of rows. -/
theorem length_resolveEntry {e : Entry}
    (h : (resolveEntry source levels deeper type vs e).exec w = (.ok rows, w')) :
    rows.length = vs.length := by
  -- a property that is no relationship changes nothing
  have hsame (h : (pure vs : Action ω (List Json)).exec w = (.ok rows, w')) :
      rows.length = vs.length := by
    rw [Except.ok.inj (Prod.mk.inj h).1]
  unfold resolveEntry at h
  split at h
  · exact hsame h
  · split at h
    · obtain ⟨rs, w₁, hrs, h⟩ := exec_bind_eq_ok h
      have hlength := length_requireRecords hrs
      split at h
      · rw [Except.ok.inj (Prod.mk.inj h).1]
      · obtain ⟨found, w₂, -, h⟩ := exec_bind_eq_ok h
        rw [← Except.ok.inj (Prod.mk.inj h).1, List.length_map, hlength]
    · exact hsame h

/-- Expanding all relationships keeps the number of rows. -/
theorem length_resolveEntries (es : List Entry) (vs : List Json) (w : ω) :
    ((resolveEntries source levels deeper type es vs).run w).1.rows.length = vs.length := by
  induction es generalizing vs w with
  | nil => rfl
  | cons e es ih =>
    rw [run_resolveEntries_cons]
    -- the rows of a failure are those in front of it
    split
    · next vs' w' hentry => rw [ih, length_resolveEntry hentry]
    · rfl

/-- Embedding related records adds no record and loses none, however far it comes. -/
theorem length_outcome (source : Source ω) (levels : Nat) (target : Json) (vs : List Json)
    (text : String) (w : ω) :
    ((outcome source levels target vs text).run w).1.rows.length = vs.length := by
  cases levels with
  | zero => rfl
  | succ levels =>
    rw [outcome]
    split
    · rfl
    split
    · rfl
    split
    · rfl
    · rfl
    · exact length_resolveEntries _ _ _

/-- An expansion keeps the number of rows. -/
theorem length_resolve {target : Json} {text : String}
    (h : (resolve source levels target vs text).exec w = (.ok rows, w')) :
    rows.length = vs.length := by
  obtain ⟨o, w₁, ho, h⟩ := exec_bind_eq_ok h
  obtain ⟨rfl, rfl⟩ := exec_rowsOrFail_eq_ok h
  have hlength := length_outcome source levels target vs text w
  rw [exec_lift_eq_ok ho] at hlength
  exact hlength

end Expand

namespace Service

variable {settings : Settings} {w w' : World Store} {set : String} {q : Http.Request}
  {r : Http.Response} {p params : Assoc String}

/-- What is found and what is shown of it are of one number. -/
theorem length_expandOption {found rows : List Json} {expand : Option String}
    (h : ((inMemory settings).expandOption set found expand).exec w = (.ok rows, w')) :
    rows.length = found.length := by
  unfold expandOption at h
  split at h
  · unfold embedRelated at h
    rw [exec_bind_ok exec_registry] at h
    split at h
    · next hempty =>
      rw [← Except.ok.inj (Prod.mk.inj h).1, List.isEmpty_iff.1 hempty]
    · obtain ⟨levels, w₁, -, h⟩ := exec_bind_eq_ok h
      exact Expand.length_resolve h
  · rw [Except.ok.inj (Prod.mk.inj h).1]

/-- Related records are looked up and nothing is written. -/
theorem store_expandOption {found rows : List Json} {expand : Option String}
    (h : ((inMemory settings).expandOption set found expand).exec w = (.ok rows, w')) :
    w'.store = w.store := by
  have hkeeps : SameStore w (((inMemory settings).expandOption set found expand).exec w).2 :=
    keeps_expandOption (P := Along SameStore) (inMemory settings) (Store.engine_readsKeep _) set
      found expand w
  rw [h] at hkeeps
  exact hkeeps

/-! ## Requests for records and for their number -/

/-- The records of an entity set. -/
abbrev recordsOf (w : World Store) (set : String) : List Record := (w.store.rows set).values

/-- Finding records answers the query on what is stored. -/
theorem exec_engineFind (hd : w.store.declares set = true) (query : Query) :
    ((inMemory settings).engine.find (.str set) query).exec w =
      (.ok ((query.run (recordsOf w set)).map .obj), w) := by
  have htable : (Store.find set query).exec w = (.ok (query.run (recordsOf w set)), w) := by
    rw [Store.find, exec_bind_ok (Store.exec_tableOf hd)]
    rfl
  exact exec_bind_ok htable

/-- Counting records answers how many of what is stored are selected. -/
theorem exec_engineCount (hd : w.store.declares set = true) (query : Query) :
    ((inMemory settings).engine.count set query.forCount).exec w =
      (.ok (query.selected (recordsOf w set)), w) := by
  have htable : (Store.count set query.forCount).exec w =
      (.ok (query.selected (recordsOf w set)), w) := by
    rw [Store.count, exec_bind_ok (Store.exec_tableOf hd), ← Query.length_run_forCount]
    rfl
  exact exec_bind_ok htable

/-- The number of records in an answer, if it is asked for. -/
def countMembers (wanted : Bool) (n : Nat) : Record := if wanted then [(countName, .int n)] else []

/-- The number is counted when it is wanted. -/
theorem exec_countMember (hd : w.store.declares set = true) (query : Query) (wanted : Bool) :
    ((inMemory settings).countMember set query wanted).exec w =
      (.ok (countMembers wanted (query.selected (recordsOf w set))), w) := by
  cases wanted with
  | false => rfl
  | true =>
    rw [countMember, if_pos rfl, exec_bind_ok (exec_engineCount hd query)]
    rfl

/-- An answer with records holds a page of those that are selected, and their number if it was asked
for. Nothing else about it depends on the store. -/
theorem replyCollection_eq_ok (hd : w.store.declares set = true)
    (h : ((inMemory settings).replyCollection set params).exec w = (.ok r, w')) :
    SystemOptions.problems params = [] ∧ ∃ query rows,
      Query.ofOptions settings.search (SystemOptions.values params) = .ok query ∧
      rows.length =
        Query.pageLength query.offset query.limit (query.selected (recordsOf w set)) ∧
      r.body = ((inMemory settings).collectionBody set (countMembers
        (SystemOptions.values params).count (query.selected (recordsOf w set))) rows).text := by
  obtain ⟨o, w₁, ho, h⟩ := exec_bind_eq_ok h
  obtain ⟨hparse, rfl⟩ := exec_ofRejection_eq_ok ho
  obtain ⟨hproblems, rfl⟩ := SystemOptions.parse_eq_ok_iff.1 hparse
  obtain ⟨projected, w₂, hquery, h⟩ := exec_bind_eq_ok h
  obtain ⟨rfl, query, names, hoptions, -, rfl⟩ := exec_collectionQuery_eq_ok hquery
  rw [exec_bind_ok (exec_engineFind hd _)] at h
  obtain ⟨rows, w₂, hrows, h⟩ := exec_bind_eq_ok h
  have hlength := length_expandOption hrows
  rw [List.length_map, Query.length_run] at hlength
  -- the same records are counted behind the related ones as are found in front of them
  have hstore := store_expandOption hrows
  rw [exec_bind_ok (exec_countMember (hstore ▸ hd) _ _)] at h
  obtain ⟨hr, -⟩ := Prod.mk.inj h
  refine ⟨hproblems, query, rows, hoptions, hlength, ?_⟩
  rw [← Except.ok.inj hr, recordsOf, hstore]
  rfl

/-- A request for records that expands nothing is answered if nothing is wrong with its options. -/
theorem exec_replyCollection {query : Query} (hd : w.store.declares set = true)
    (hproblems : SystemOptions.problems params = [])
    (hoptions : Query.ofOptions settings.search (SystemOptions.values params) = .ok query)
    (hexpand : Assoc.get? params "$expand" = none) :
    ((inMemory settings).replyCollection set params).exec w =
      (.ok (.json 200 ((inMemory settings).collectionBody set
        (countMembers (SystemOptions.values params).count (query.selected (recordsOf w set)))
        ((query.run (recordsOf w set)).map .obj)) []), w) := by
  have hparse := SystemOptions.parse_eq_ok_iff.2 ⟨hproblems, rfl⟩
  have hquery : ((inMemory settings).collectionQuery (SystemOptions.values params)).exec w =
      (.ok query, w) := by
    have hread : Query.ofOptions (inMemory settings).settings.search
        (SystemOptions.values params) = .ok query := hoptions
    have hnames : ((inMemory settings).expandedProperties
        (SystemOptions.values params).expand).exec w = (.ok [], w) := by
      rw [SystemOptions.values, hexpand]
      rfl
    rw [collectionQuery, exec_bind_ok (exec_ofRejection_ok hread w), exec_bind_ok hnames,
      Query.includeFields_nil]
    rfl
  -- nothing is to be expanded
  have hrows (found : List Json) : ((inMemory settings).expandOption set found
      (SystemOptions.values params).expand).exec w = (.ok found, w) := by
    rw [SystemOptions.values, hexpand]
    rfl
  rw [replyCollection, exec_bind_ok (exec_ofRejection_ok hparse w), exec_bind_ok hquery,
    exec_bind_ok (exec_engineFind hd query), exec_bind_ok (hrows _),
    exec_bind_ok (exec_countMember hd query _)]
  rfl

/-- The number of records is answered as a text. -/
theorem exec_replyCount {query : Query} (hd : w.store.declares set = true)
    (hproblems : SystemOptions.problems params = [])
    (hoptions : Query.ofOptions settings.search (SystemOptions.values params) = .ok query) :
    ((inMemory settings).replyCount set params).exec w =
      (.ok (plain (toString (query.selected (recordsOf w set)))), w) := by
  have hparams : Query.ofParams (inMemory settings).settings.search params = .ok query := by
    rw [Query.ofParams, SystemOptions.parse_eq_ok_iff.2 ⟨hproblems, rfl⟩, ok_bind]
    exact hoptions
  rw [replyCount, exec_bind_ok (exec_ofRejection_ok hparams w),
    exec_bind_ok (exec_engineCount hd query)]
  rfl

/-- A read of a collection is answered with it. -/
theorem run_handle_collection (hm : q.method = "GET") (hd : w.store.declares set = true)
    (hr : q.resource = .collection set)
    (h : ((inMemory settings).replyCollection set (paramsOf q)).exec w = (.ok r, w')) :
    ((inMemory settings).handle q).run w = (r, w') := by
  refine run_handle_ok ?_
  rw [routed, route_eq _ (by simp [hm]), actionOf, hr]
  dsimp only
  rw [replySet, exec_bind_ok (exec_requireSet hd)]
  simp only [hm]
  exact h

/-- A read of the number of records is answered with it. -/
theorem run_handle_number (hm : q.method = "GET") (hd : w.store.declares set = true)
    (hr : q.resource = .count set)
    (h : ((inMemory settings).replyCount set (paramsOf q)).exec w = (.ok r, w')) :
    ((inMemory settings).handle q).run w = (r, w') := by
  refine run_handle_ok ?_
  have hget : (requireMethod q.method "GET" : Action (World Store) Unit).exec w = (.ok (), w) := by
    rw [hm]
    rfl
  rw [routed, route_eq _ (by simp [hm]), actionOf, hr]
  dsimp only
  rw [replyNumber, exec_bind_ok hget, exec_bind_ok (exec_requireSet hd)]
  exact h

/-! ## Three requests -/

/-- A request reads what a path names, with these system query options and no others. -/
structure Gets (q : Http.Request) (path : String) (options : Assoc String) : Prop where
  method : q.method = "GET"
  path : q.path = path
  options : SystemOptions.SameOptions (paramsOf q) options

/-- Options without some of them. -/
def withoutOptions (options : Assoc String) (names : List String) : Assoc String :=
  options.filter fun option => !names.contains option.1

/-- The options that are left out are not given, and the others are as before. -/
theorem get?_withoutOptions (options : Assoc String) (names : List String) (name : String) :
    Assoc.get? (withoutOptions options names) name =
      if name ∈ names then none else Assoc.get? options name := by
  rw [withoutOptions, Assoc.get?_filter (fun key => !names.contains key)]
  by_cases hname : name ∈ names
  · simp [hname]
  · simp [hname]

/-- Leaving options out adds none. -/
theorem within_withoutOptions (options : Assoc String) (names : List String) :
    SystemOptions.Within (withoutOptions options names) options := by
  intro name _ _
  rw [get?_withoutOptions]
  split
  · exact .inl rfl
  · exact .inr rfl

/-- Leaving options out leaves the wish for a count legible. -/
theorem countLegible_withoutOptions {options : Assoc String}
    (h : SystemOptions.CountLegible options) {names : List String} (hnames : "$count" ∉ names) :
    SystemOptions.CountLegible (withoutOptions options names) := by
  intro raw hraw
  rw [get?_withoutOptions, if_neg hnames] at hraw
  exact h raw hraw

/-- The options that decide which of the selected records are answered with, and in which form. -/
def pageAndExpand : List String := ["$top", "$skip", "$expand"]

/-- The options that decide which records are selected are not among them. -/
theorem get?_withoutPage (options : Assoc String) :
    ∀ name ∈ ["$filter", "$orderby", "$select", "$search"],
      Assoc.get? (withoutOptions options pageAndExpand) name = Assoc.get? options name := by
  intro name hname
  rw [get?_withoutOptions, if_neg]
  simp only [List.mem_cons, List.not_mem_nil, or_false] at hname
  rcases hname with rfl | rfl | rfl | rfl <;> decide

/-- Without the options of the page no page size is given. -/
theorem pageSize?_withoutPage (options : Assoc String) {name : String}
    (hname : name ∈ pageAndExpand) :
    SystemOptions.pageSize? (withoutOptions options pageAndExpand) name = none := by
  rw [SystemOptions.pageSize?, get?_withoutOptions, if_pos hname, Option.bind_none]

/-- In every store and under all settings, if a request for the records of an entity set and for
their number is answered with 200, then this number is the answer to a request for the number alone,
and it is the number of records that are answered with when the options for the page and for what is
expanded are left out. The records that are answered with are a page of as many. Whether the number
is wanted may be among the options, if it is said legibly. -/
theorem counts_agree (settings : Settings) (w : World Store) {set : String}
    (hset : Route.ofPath s!"/{set}" = .collection set) {options : Assoc String}
    (hcount : SystemOptions.CountLegible options) {q number all : Http.Request}
    (hq : Gets q s!"/{set}" (Assoc.set options "$count" "true"))
    (hnumber : Gets number s!"/{set}/$count" options)
    (hall : Gets all s!"/{set}" (withoutOptions options pageAndExpand))
    (hok : (((inMemory settings).handle q).run w).1.status = 200) :
    ∃ (n : Nat) (rows : List Json) (wanted : Bool) (allRows : List Json),
      (((inMemory settings).handle q).run w).1.body =
        ((inMemory settings).collectionBody set [("@odata.count", .int n)] rows).text ∧
      rows.length = Query.pageLength (SystemOptions.pageSize? options "$skip")
        (SystemOptions.pageSize? options "$top") n ∧
      (((inMemory settings).handle number).run w).1.status = 200 ∧
      (((inMemory settings).handle number).run w).1.body = toString n ∧
      (((inMemory settings).handle all).run w).1.status = 200 ∧
      (((inMemory settings).handle all).run w).1.body =
        ((inMemory settings).collectionBody set (countMembers wanted n) allRows).text ∧
      allRows.length = n := by
  have hresource : ∀ {q : Http.Request}, q.path = s!"/{set}" → q.resource = .collection set :=
    fun hpath => (resource_eq hpath (Route.toList_setPath set)).trans hset
  have hnumberResource : number.resource = .count set :=
    (resource_eq hnumber.path (Route.toList_numberPath set)).trans (Route.ofPath_number hset)
  obtain ⟨w', hrouted⟩ := exists_routed hok
  obtain ⟨-, hcollection, -⟩ := resource_of_get hq.method hrouted
  obtain ⟨hd, hanswer⟩ := hcollection set (hresource hq.path)
  obtain ⟨hproblems, query, rows, hoptions, hlength, hbody⟩ := replyCollection_eq_ok hd hanswer
  rw [SystemOptions.values_congr hq.options] at hoptions hbody
  have hproblems' := SystemOptions.problems_eq_nil_of_same hproblems fun name hoption =>
    (hq.options name hoption).symm
  -- the first request asks for the number
  have hwanted : (SystemOptions.values (Assoc.set options "$count" "true")).count = true := by
    have htrue : SystemOptions.parseCount? "true" = some true := by decide
    rw [SystemOptions.values, Assoc.get?_set_self, Option.bind_some, htrue]
    rfl
  -- the options of the three requests differ in whether the number is wanted, in the page and in
  -- what is expanded
  have hsame : ∀ name, name ≠ "$count" →
      Assoc.get? options name = Assoc.get? (Assoc.set options "$count" "true") name :=
    fun name hne => (Assoc.get?_set_of_ne options "true" hne).symm
  have hnumberProblems := SystemOptions.problems_eq_nil_of_within hproblems'
    (fun name _ hne => .inr (hsame name hne)) hcount
  obtain ⟨hnumberOptions, hlimit, hoffset⟩ := Query.ofOptions_values_eq_ok hoptions
    fun name hname => hsame name (by rintro rfl; simp at hname)
  have hallProblems := SystemOptions.problems_eq_nil_of_within hnumberProblems
    (within_withoutOptions options pageAndExpand) (countLegible_withoutOptions hcount (by decide))
  obtain ⟨hallOptions, -, -⟩ :=
    Query.ofOptions_values_eq_ok hnumberOptions (get?_withoutPage options)
  -- so the other two requests are answered, and all three select the same records
  have hnumberRun := run_handle_number hnumber.method hd hnumberResource
    (exec_replyCount hd (SystemOptions.problems_eq_nil_of_same hnumberProblems hnumber.options)
      (SystemOptions.values_congr hnumber.options ▸ hnumberOptions))
  have hexpand : Assoc.get? (paramsOf all) "$expand" = none := by
    rw [hall.options "$expand" (by decide), get?_withoutOptions, if_pos (by decide)]
  have hallRun := run_handle_collection hall.method hd (hresource hall.path)
    (exec_replyCollection hd
      (SystemOptions.problems_eq_nil_of_same hallProblems hall.options)
      (SystemOptions.values_congr hall.options ▸ hallOptions) hexpand)
  rw [hnumberRun, hallRun]
  refine ⟨query.selected (recordsOf w set), rows, _, _, ?_, ?_, rfl, rfl, rfl, rfl, ?_⟩
  · rw [hbody, hwanted]
    rfl
  · have htop := SystemOptions.pageSize?_congr (hsame "$top" (by decide))
    have hskip := SystemOptions.pageSize?_congr (hsame "$skip" (by decide))
    rw [hlength, hlimit, hoffset, htop, hskip]
  · -- without its options the page is all that is selected
    have htop : SystemOptions.pageSize? _ "$top" = none := pageSize?_withoutPage options (by decide)
    have hskip : SystemOptions.pageSize? _ "$skip" = none :=
      pageSize?_withoutPage options (by decide)
    rw [List.length_map, Query.length_run, htop, hskip]
    rfl

/-- Three accounts with one owner. -/
def ownedAccounts : List Store.Call :=
  [.register { name := "Accounts", fields := [("owner", ⟨"lookup", .str "Owners", .null, false⟩)] },
    .register { name := "Owners" },
    .create (.str "Owners") (.obj [(.str "_id", .str "7"), (.str "name", .str "Ada")]) {}] ++
  [4, 5, 6].map fun no =>
    .create (.str "Accounts") (.obj [(.str "no", .int no), (.str "owner", .str "7")]) {}

/-- The first of the accounts from a number on, with its owner. -/
def firstAccount : Assoc String :=
  [("$filter", "no ge 5"), ("$top", "1"), ("$expand", "owner")]

def firstAccountAndNumber : Http.Request where
  method := "GET"
  path := "/Accounts"
  query := "$filter=no%20ge%205&$top=1&$expand=owner&$count=true"

def numberOfAccounts : Http.Request where
  method := "GET"
  path := "/Accounts/$count"
  query := "$filter=no%20ge%205&$top=1&$expand=owner"

def allAccounts : Http.Request where
  method := "GET"
  path := "/Accounts"
  query := "$filter=no%20ge%205"

/-- Two accounts are counted, of which one is on the page. -/
theorem counts_agree_owned_accounts :
    let answerTo (q : Http.Request) : Http.Response :=
      (((inMemory {}).handle q).run (Store.play Store.blank ownedAccounts)).1
    (answerTo firstAccountAndNumber).status = 200 ∧
    ∃ (n : Nat) (rows : List Json) (wanted : Bool) (allRows : List Json),
      (answerTo firstAccountAndNumber).body =
        ((inMemory {}).collectionBody "Accounts" [("@odata.count", .int n)] rows).text ∧
      rows.length = Query.pageLength none (some 1) n ∧
      (answerTo numberOfAccounts).status = 200 ∧
      (answerTo numberOfAccounts).body = toString n ∧
      (answerTo allAccounts).status = 200 ∧
      (answerTo allAccounts).body =
        ((inMemory {}).collectionBody "Accounts" (countMembers wanted n) allRows).text ∧
      allRows.length = n := by
  intro answerTo
  have hok : (answerTo firstAccountAndNumber).status = 200 := by decide +kernel
  have hcount : SystemOptions.CountLegible firstAccount := by
    intro raw hraw
    have hnone : Assoc.get? firstAccount "$count" = none := by decide
    rw [hnone] at hraw
    exact absurd hraw (by simp)
  have hq : paramsOf firstAccountAndNumber = Assoc.set firstAccount "$count" "true" := by
    decide +kernel
  have hnumber : paramsOf numberOfAccounts = firstAccount := by decide +kernel
  have hall : paramsOf allAccounts = withoutOptions firstAccount pageAndExpand := by decide +kernel
  exact ⟨hok, counts_agree {} _ (by decide +kernel) hcount ⟨rfl, rfl, fun _ _ => by rw [hq]⟩
    ⟨rfl, rfl, fun _ _ => by rw [hnumber]⟩ ⟨rfl, rfl, fun _ _ => by rw [hall]⟩ hok⟩

end Service

end ODataService
