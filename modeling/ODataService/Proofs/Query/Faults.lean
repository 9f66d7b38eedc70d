import ODataService.Proofs.Query.Options

/-!
# Telling all faults of options

A request may get any of its options wrong, and several at once. What makes an option offend is
said for each option by itself (`SystemOptions.Offends`). Options are refused exactly if one of
them offends, and then all that offend are told, each once: the known ones in their fixed order and
the others as they were given (`SystemOptions.parse_tells_offenders`).
-/

namespace ODataService.SystemOptions

variable {params : Assoc String} {option : String}

/-! ## Offending options -/

/-- Whether the value of an option is a whole number that is not negative. -/
def IsPageSize (raw : String) : Prop :=
  ∃ n : Int, Query.PageSize.readInteger raw.toList = .ok n ∧ 0 ≤ n

/-- What can be wrong with an option of a request. -/
inductive Offends (params : Assoc String) : String → Prop
  | unknown {option : String} (given : option ∈ Assoc.keys params)
      (dollar : isOption option = true) (strange : option ∉ known) : Offends params option
  | pageSize {option raw : String} (sized : option ∈ ["$top", "$skip"])
      (given : Assoc.get? params option = some raw) (wrong : ¬ IsPageSize raw) :
      Offends params option
  | select (given : Assoc.get? params "$select" = some "") : Offends params "$select"
  | count {raw : String} (given : Assoc.get? params "$count" = some raw)
      (wrong : Text.lower (Text.strip raw) ∉ ["true", "false"]) : Offends params "$count"

/-- A rejection tells the offending options of a request. -/
structure Tells (params : Assoc String) (r : Rejection) (offending : List String) : Prop where
  /-- The offending options are those that offend. -/
  mem_iff : ∀ option, option ∈ offending ↔ Offends params option
  /-- Each is told once. -/
  nodup : offending.Nodup
  /-- Known options are told in their fixed order, and unknown ones behind them as given. -/
  ordered : offending.Sublist (known ++ unknownOptions params)
  target_eq : r.target = offending.head?
  code_eq : r.code = if r.target = some "$select" then .invalidSelect else .invalidQuery
  details_eq_none_iff : r.details = none ↔ ∃ option ∈ known, offending = [option]
  details_targets : ∀ details, r.details = some details →
    details.map ErrorDetail.target = offending.map some

/-! ## The problems with one option -/

/-- The problems that are found with one of the known options: one that names it, if it is at
fault. -/
def Concern (problems : List Problem) (option : String) (fault : Prop) : Prop :=
  (∃ p : Problem, problems = [p] ∧ p.target = option ∧ p.isUnknown = false) ∧ fault ∨
    problems = [] ∧ ¬ fault

/-- The only option that a check reports is its own, and only when it is at fault. -/
theorem Concern.mem_iff {ps : List Problem} {fault : Prop} (h : Concern ps option fault)
    {name : String} : name ∈ ps.map Problem.target ↔ name = option ∧ fault := by
  rcases h with ⟨⟨p, rfl, rfl, -⟩, hfault⟩ | ⟨rfl, hfault⟩
  · simp [hfault]
  · simp [hfault]

/-- A check reports its option once or not at all. -/
theorem Concern.sublist {ps : List Problem} {fault : Prop} (h : Concern ps option fault) :
    (ps.map Problem.target).Sublist [option] := by
  rcases h with ⟨⟨p, rfl, rfl, -⟩, -⟩ | ⟨rfl, -⟩
  · exact .refl _
  · exact List.nil_sublist _

/-- What a check reports is its own option, which is known. -/
theorem Concern.of_mem {ps : List Problem} {fault : Prop} (h : Concern ps option fault)
    {p : Problem} (hp : p ∈ ps) : p.target = option ∧ p.isUnknown = false := by
  rcases h with ⟨⟨p', rfl, htarget, hknown⟩, -⟩ | ⟨rfl, -⟩
  · obtain rfl := List.mem_singleton.1 hp
    exact ⟨htarget, hknown⟩
  · exact absurd hp List.not_mem_nil

/-- A page size is read when it is one. -/
theorem exists_parse_eq_ok_iff {raw : String} :
    (∃ n, Query.PageSize.parse raw = .ok n) ↔ IsPageSize raw := by
  unfold Query.PageSize.parse IsPageSize
  cases Query.PageSize.readInteger raw.toList with
  -- no whole number, so neither side holds
  | error fault =>
    constructor
    · rintro ⟨n, hn⟩
      cases hn
    · rintro ⟨n, hn, -⟩
      cases hn
  | ok n =>
    rw [ok_bind]
    -- a whole number is one unless it is negative
    split
    · next hneg =>
      constructor
      · rintro ⟨m, hm⟩
        cases hm
      · rintro ⟨m, hm, hnonneg⟩
        cases hm
        omega
    · next hneg => exact ⟨fun _ => ⟨n, rfl, by omega⟩, fun _ => ⟨_, rfl⟩⟩

/-- The check of a page size reports it when it is none. -/
theorem concern_pageSizeProblems : Concern (pageSizeProblems params option) option
    (∃ raw, Assoc.get? params option = some raw ∧ ¬ IsPageSize raw) := by
  unfold pageSizeProblems
  cases Assoc.get? params option with
  | none => exact .inr ⟨rfl, by simp⟩
  | some raw =>
    have hsize : (∃ n, Query.PageSize.parse raw = .ok n) ↔ IsPageSize raw :=
      exists_parse_eq_ok_iff
    dsimp only
    cases hparse : Query.PageSize.parse raw with
    -- a value that is read is no problem
    | ok n =>
      refine .inr ⟨rfl, ?_⟩
      rintro ⟨_, hgiven, hwrong⟩
      obtain rfl := Option.some.inj hgiven
      exact hwrong (hsize.1 ⟨n, hparse⟩)
    | error fault =>
      refine .inl ⟨⟨_, rfl, rfl, rfl⟩, raw, rfl, fun hright => ?_⟩
      obtain ⟨n, hn⟩ := hsize.2 hright
      rw [hparse] at hn
      cases hn

/-- The check of the selection reports it when it is empty. -/
theorem concern_selectProblems :
    Concern (selectProblems params) "$select" (Assoc.get? params "$select" = some "") := by
  unfold selectProblems
  split
  · next hempty => exact .inl ⟨⟨_, rfl, rfl, rfl⟩, hempty⟩
  · next hempty => exact .inr ⟨rfl, hempty⟩

/-- The wish for a count is legible when it is one of two words. -/
theorem isSome_parseCount?_iff {raw : String} :
    (parseCount? raw).isSome = true ↔ Text.lower (Text.strip raw) ∈ ["true", "false"] := by
  rw [List.mem_cons, List.mem_singleton]
  unfold parseCount?
  -- the two words, and everything else
  split
  · next htrue => simp [htrue]
  · next hfalse => simp [hfalse]
  · next htrue hfalse => simpa using ⟨htrue, hfalse⟩

/-- The check of the count reports it when it is neither of the words. -/
theorem concern_countProblems : Concern (countProblems params) "$count"
    (∃ raw, Assoc.get? params "$count" = some raw ∧
      Text.lower (Text.strip raw) ∉ ["true", "false"]) := by
  unfold countProblems
  cases Assoc.get? params "$count" with
  -- an option that is not given is no problem
  | none => exact .inr ⟨rfl, by simp⟩
  | some raw =>
    dsimp only
    split
    · next hlegible =>
      refine .inr ⟨rfl, ?_⟩
      rintro ⟨_, hgiven, hwrong⟩
      obtain rfl := Option.some.inj hgiven
      exact hwrong (isSome_parseCount?_iff.1 hlegible)
    · next hlegible =>
      exact .inl ⟨⟨_, rfl, rfl, rfl⟩, raw, rfl, mt isSome_parseCount?_iff.2 hlegible⟩

/-- The unknown options are given with a dollar sign and are none of those that are known. -/
theorem mem_unknownOptions_iff : option ∈ unknownOptions params ↔
    option ∈ Assoc.keys params ∧ isOption option = true ∧ option ∉ known := by
  simp [unknownOptions, List.mem_filter]

/-! ## All problems -/

/-- The options that the problems of a request name. -/
theorem targets_problems : (problems params).map Problem.target =
    (pageSizeProblems params "$top").map Problem.target ++
      (pageSizeProblems params "$skip").map Problem.target ++
      (selectProblems params).map Problem.target ++ (countProblems params).map Problem.target ++
      unknownOptions params := by
  have hunknown : Problem.target ∘ Problem.unknown = id := rfl
  simp only [problems, List.map_append, List.map_map, hunknown, List.map_id]

/-- An option is reported when it offends. -/
theorem mem_targets_problems_iff :
    option ∈ (problems params).map Problem.target ↔ Offends params option := by
  simp only [targets_problems, List.mem_append, concern_pageSizeProblems.mem_iff,
    concern_selectProblems.mem_iff, concern_countProblems.mem_iff, mem_unknownOptions_iff]
  -- the checks and the ways to offend stand in the same order
  constructor
  · rintro ((((⟨rfl, raw, hgiven, hwrong⟩ | ⟨rfl, raw, hgiven, hwrong⟩) | ⟨rfl, hempty⟩) |
      ⟨rfl, raw, hgiven, hwrong⟩) | ⟨hgiven, hdollar, hstrange⟩)
    · exact .pageSize (by decide) hgiven hwrong
    · exact .pageSize (by decide) hgiven hwrong
    · exact .select hempty
    · exact .count hgiven hwrong
    · exact .unknown hgiven hdollar hstrange
  · intro h
    cases h with
    | unknown hgiven hdollar hstrange => exact .inr ⟨hgiven, hdollar, hstrange⟩
    | pageSize hsized hgiven hwrong =>
      -- the page sizes have a check each
      simp only [List.mem_cons, List.not_mem_nil, or_false] at hsized
      rcases hsized with rfl | rfl
      · exact .inl (.inl (.inl (.inl ⟨rfl, _, hgiven, hwrong⟩)))
      · exact .inl (.inl (.inl (.inr ⟨rfl, _, hgiven, hwrong⟩)))
    | select hempty => exact .inl (.inl (.inr ⟨rfl, hempty⟩))
    | count hgiven hwrong => exact .inl (.inr ⟨rfl, _, hgiven, hwrong⟩)

/-- The options are reported in the order of the known ones, and then as they were given. -/
theorem targets_problems_sublist :
    ((problems params).map Problem.target).Sublist (known ++ unknownOptions params) := by
  have hchecked : ["$top", "$skip", "$select", "$count"].Sublist known := by decide
  rw [targets_problems]
  refine List.Sublist.append (.trans ?_ hchecked) (.refl _)
  exact ((concern_pageSizeProblems.sublist.append concern_pageSizeProblems.sublist).append
    concern_selectProblems.sublist).append concern_countProblems.sublist

/-- No unknown option is known, and none is given twice. -/
theorem nodup_known_append_unknownOptions (h : (Assoc.keys params).Nodup) :
    (known ++ unknownOptions params).Nodup := by
  refine List.nodup_append.2 ⟨by decide, h.filter _, ?_⟩
  rintro name hknown _ hunknown rfl
  exact (mem_unknownOptions_iff.1 hunknown).2.2 hknown

/-- A problem is one of an unknown option exactly if the option that it names is unknown. -/
theorem isUnknown_iff {p : Problem} (h : p ∈ problems params) :
    p.isUnknown = true ↔ p.target ∉ known := by
  have hknown : ∀ {ps : List Problem} {option : String} {fault : Prop}, Concern ps option fault →
      option ∈ known → p ∈ ps → (p.isUnknown = true ↔ p.target ∉ known) := by
    intro ps option fault hconcern hoption hp
    obtain ⟨rfl, hfalse⟩ := hconcern.of_mem hp
    simp [hfalse, hoption]
  simp only [problems, List.mem_append] at h
  -- the four checks report options that are known, the last one reports the others
  rcases h with (((h | h) | h) | h) | h
  · exact hknown concern_pageSizeProblems (by decide) h
  · exact hknown concern_pageSizeProblems (by decide) h
  · exact hknown concern_selectProblems (by decide) h
  · exact hknown concern_countProblems (by decide) h
  · obtain ⟨name, hname, rfl⟩ := List.mem_map.1 h
    exact ⟨fun _ => (mem_unknownOptions_iff.1 hname).2.2, fun _ => rfl⟩

/-! ## Rejections -/

/-- The target is the first option that was reported. -/
theorem rejection_target (first : Problem) (others : List Problem) :
    (rejection first others).target = some first.target := by
  dsimp only [rejection]
  split <;> rfl

/-- The code depends on the first option that was reported. -/
theorem rejection_code (first : Problem) (others : List Problem) :
    (rejection first others).code =
      if first.target = "$select" then .invalidSelect else .invalidQuery := by
  dsimp only [rejection]
  split <;> rfl

/-- A problem of a known option needs no details when it is the only one. -/
theorem rejection_details (first : Problem) (others : List Problem) :
    (rejection first others).details =
      if others = [] ∧ first.isUnknown = false then none
      else some ((first :: others).map Problem.detail) := by
  dsimp only [rejection]
  simp only [Bool.and_eq_true, List.isEmpty_iff, Bool.not_eq_true']
  split <;> rfl

/-- The rejection tells of all options that offend. -/
theorem tells_rejection {first : Problem} {others : List Problem}
    (hnodup : (Assoc.keys params).Nodup) (h : problems params = first :: others) :
    Tells params (rejection first others) ((first :: others).map Problem.target) where
  mem_iff := by
    intro option
    rw [← h, mem_targets_problems_iff]
  nodup := by
    rw [← h]
    exact targets_problems_sublist.nodup (nodup_known_append_unknownOptions hnodup)
  ordered := by
    rw [← h]
    exact targets_problems_sublist
  target_eq := rejection_target first others
  code_eq := by
    simp only [rejection_code, rejection_target, Option.some.injEq]
  -- details are left out for one problem with a known option
  details_eq_none_iff := by
    have hunknown := isUnknown_iff (h ▸ List.mem_cons_self : first ∈ problems params)
    rw [rejection_details, ite_eq_left_iff]
    constructor
    · intro hnone
      obtain ⟨rfl, hfirst⟩ := of_not_not fun hsome => by cases hnone hsome
      refine ⟨first.target, of_not_not fun hstrange => ?_, rfl⟩
      rw [hunknown.2 hstrange] at hfirst
      cases hfirst
    · rintro ⟨option, hoption, hsingle⟩ hsome
      obtain ⟨rfl, hothers⟩ := List.cons.inj hsingle
      refine absurd ⟨List.map_eq_nil_iff.1 hothers, Bool.eq_false_iff.2 fun hfirst => ?_⟩ hsome
      exact hunknown.1 hfirst hoption
  details_targets := by
    intro details hdetails
    rw [rejection_details] at hdetails
    split at hdetails
    · cases hdetails
    · obtain rfl := Option.some.inj hdetails
      rw [List.map_map, List.map_map]
      rfl

/-! ## Parameters that are no options -/

/-- The parameters of a request that are options. -/
def options (params : Assoc String) : Assoc String := params.filter fun p => isOption p.1

/-- The options of a query have the same values among all parameters. -/
theorem sameOptions_options (params : Assoc String) : SameOptions (options params) params := by
  intro name hname
  rw [options, Assoc.get?_filter, if_pos hname]

/-- Parameters that are no options are not reported. -/
theorem unknownOptions_options (params : Assoc String) :
    unknownOptions (options params) = unknownOptions params := by
  rw [unknownOptions, options, Assoc.keys_filter, List.filter_filter, unknownOptions]
  congr 1
  funext name
  cases isOption name <;> simp

/-- Parameters that are no options change no problem. -/
theorem problems_options (params : Assoc String) :
    problems (options params) = problems params := by
  have hsame := sameOptions_options params
  rw [problems, problems, pageSizeProblems_congr (hsame "$top" (by decide)),
    pageSizeProblems_congr (hsame "$skip" (by decide)), selectProblems,
    hsame "$select" (by decide), ← selectProblems, countProblems, hsame "$count" (by decide),
    ← countProblems, unknownOptions_options]

/-- Whether options are refused, and what is read from them, depends on no other parameters. -/
theorem parse_options (params : Assoc String) : parse (options params) = parse params := by
  have hvalues : values (options params) = values params :=
    values_congr (sameOptions_options params)
  -- both the problems and the values are those of the options
  cases hparse : parse params with
  | error r =>
    rw [parse_eq_error_iff] at hparse ⊢
    rwa [problems_options]
  | ok o =>
    rw [parse_eq_ok_iff] at hparse ⊢
    rwa [problems_options, hvalues]

/-! ## All faults -/

/-- The options are refused when one of them offends. -/
theorem exists_parse_eq_error_iff :
    (∃ r, parse params = .error r) ↔ ∃ option, Offends params option := by
  simp only [parse_eq_error_iff, ← mem_targets_problems_iff]
  constructor
  -- the first problem is about an option that offends
  · rintro ⟨r, first, others, hproblems, -⟩
    rw [hproblems]
    exact ⟨first.target, .head _⟩
  · rintro ⟨option, hoption⟩
    cases hproblems : problems params with
    | nil =>
      rw [hproblems] at hoption
      cases hoption
    | cons first others => exact ⟨_, first, others, rfl, rfl⟩

/-- Options are refused if and only if one of them offends, and what is told then are all options
that offend. Parameters that are no options do not matter. -/
theorem parse_tells_offenders (h : (Assoc.keys params).Nodup) :
    ((∃ r, parse params = .error r) ↔ ∃ option, Offends params option) ∧
      (∀ r, parse params = .error r → ∃ offending, Tells params r offending) ∧
      parse (options params) = parse params := by
  refine ⟨exists_parse_eq_error_iff, ?_, parse_options params⟩
  intro r hr
  obtain ⟨first, others, hproblems, rfl⟩ := parse_eq_error_iff.1 hr
  exact ⟨_, tells_rejection h hproblems⟩

/-- Of three faulty options the unknown one comes first in the request and is told last. -/
theorem parse_tells_offenders_three :
    let params : Assoc String :=
      [("$foo", "1"), ("$select", ""), ("x", "$top"), ("$top", "-1"), ("$count", " TRUE ")]
    (Assoc.keys params).Nodup ∧ ∃ r, parse params = .error r ∧ r.target = some "$top" ∧
      r.code = .invalidQuery ∧ Tells params r ["$top", "$select", "$foo"] := by
  intro params
  have hkeys : (Assoc.keys params).Nodup := by decide
  -- three problems, in the order of the checks
  have hproblems : problems params =
      [.pageSize "$top" "-1" .negative, .emptySelect, .unknown "$foo"] := by rfl
  have hparse := parse_eq_error_iff.2 ⟨_, _, hproblems, rfl⟩
  obtain ⟨offending, htells⟩ := (parse_tells_offenders hkeys).2.1 _ hparse
  have hoffending : ["$top", "$select", "$foo"] = offending :=
    (List.map_inj_right fun _ _ => Option.some.inj).1 (htells.details_targets _ rfl)
  exact ⟨hkeys, _, hparse, rfl, rfl, hoffending ▸ htells⟩

end ODataService.SystemOptions
