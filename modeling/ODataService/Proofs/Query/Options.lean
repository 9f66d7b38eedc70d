import ODataService.Proofs.Assoc
import ODataService.Proofs.Bind
import ODataService.Query.Reading

/-!
# Asking for less

What is wrong with the options of a request is wrong with each of them by itself. So options can be
left out of a request that is in order (`SystemOptions.problems_eq_nil_of_within`), and the query
that is left differs by what they asked for.
-/

namespace ODataService

namespace SystemOptions

variable {params params' : Assoc String}

/-! ## Problems -/

/-- The problems of a page size come from its value alone. -/
theorem pageSizeProblems_congr {option : String}
    (h : Assoc.get? params' option = Assoc.get? params option) :
    pageSizeProblems params' option = pageSizeProblems params option := by
  rw [pageSizeProblems, pageSizeProblems, h]

/-- The value of `$count`, if there is one, says whether the number of records is wanted. -/
def CountLegible (params : Assoc String) : Prop :=
  ∀ raw, Assoc.get? params "$count" = some raw → (parseCount? raw).isSome = true

/-- The count has no problems when it is legible. -/
theorem countProblems_eq_nil_iff : countProblems params = [] ↔ CountLegible params := by
  unfold countProblems CountLegible
  cases Assoc.get? params "$count" with
  | none => simp
  | some raw => simp [Option.isSome_iff_ne_none]

/-- No option is unknown when all that are given are known. -/
theorem unknownOptions_eq_nil_iff : unknownOptions params = [] ↔
    ∀ name ∈ Assoc.keys params, isOption name = true → name ∈ known := by
  simp [unknownOptions, List.filter_eq_nil_iff]

/-- There are no problems when each option is in order by itself. -/
theorem problems_eq_nil_iff : problems params = [] ↔
    pageSizeProblems params "$top" = [] ∧ pageSizeProblems params "$skip" = [] ∧
      selectProblems params = [] ∧ CountLegible params ∧
      ∀ name ∈ Assoc.keys params, isOption name = true → name ∈ known := by
  simp only [problems, List.append_eq_nil_iff, List.map_eq_nil_iff, countProblems_eq_nil_iff,
    unknownOptions_eq_nil_iff, and_assoc]

/-- Options are among others, `$count` apart: each of them is missing or has the same value. -/
def Within (params' params : Assoc String) : Prop :=
  ∀ name, isOption name = true → name ≠ "$count" →
    Assoc.get? params' name = none ∨ Assoc.get? params' name = Assoc.get? params name

/-- Nothing is wrong with some of the options that nothing is wrong with. -/
theorem problems_eq_nil_of_within (h : problems params = []) (hwithin : Within params' params)
    (hcount : CountLegible params') : problems params' = [] := by
  obtain ⟨htop, hskip, hselect, -, hknown⟩ := problems_eq_nil_iff.1 h
  -- what is left out has no problems, what stays has those it had
  have hsize : ∀ option, isOption option = true → option ≠ "$count" →
      pageSizeProblems params option = [] → pageSizeProblems params' option = [] := by
    intro option hoption hne hnil
    rcases hwithin option hoption hne with hnone | hsame
    · rw [pageSizeProblems, hnone]
    · rw [pageSizeProblems_congr hsame, hnil]
  refine problems_eq_nil_iff.2 ⟨hsize "$top" (by decide) (by decide) htop,
    hsize "$skip" (by decide) (by decide) hskip, ?_, hcount, fun name hname hoption => ?_⟩
  -- the selection is left out or stays as it was
  · rcases hwithin "$select" (by decide) (by decide) with hnone | hsame
    · rw [selectProblems, hnone]
      rfl
    · rw [selectProblems, hsame]
      exact hselect
  · by_cases hne : name = "$count"
    · rw [hne]
      decide
    · -- an option that is given is one of the others
      have hgiven := mt Assoc.get?_eq_none_iff.1 (not_not.2 hname)
      have hsame := (hwithin name hoption hne).resolve_left hgiven
      refine hknown name ?_ hoption
      by_contra hmissing
      exact hgiven (hsame.trans (Assoc.get?_eq_none_iff.2 hmissing))

/-- Two maps hold the same options; they may hold different parameters besides. -/
def SameOptions (params' params : Assoc String) : Prop :=
  ∀ name, isOption name = true → Assoc.get? params' name = Assoc.get? params name

/-- The same options have no problems either. -/
theorem problems_eq_nil_of_same (h : problems params = []) (hsame : SameOptions params' params) :
    problems params' = [] := by
  refine problems_eq_nil_of_within h (fun name hoption _ => .inr (hsame name hoption)) ?_
  obtain ⟨-, -, -, hcount, -⟩ := problems_eq_nil_iff.1 h
  intro raw hraw
  exact hcount raw ((hsame "$count" (by decide)).symm.trans hraw)

/-! ## Values -/

/-- The values of the options of a request. -/
def values (params : Assoc String) : SystemOptions where
  filter := Assoc.get? params "$filter"
  orderby := Assoc.get? params "$orderby"
  top := pageSize? params "$top"
  skip := pageSize? params "$skip"
  select := Assoc.get? params "$select"
  expand := Assoc.get? params "$expand"
  count := ((Assoc.get? params "$count").bind parseCount?).getD false
  search := Assoc.get? params "$search"
  format := Assoc.get? params "$format"

/-- A page size is read from its value alone. -/
theorem pageSize?_congr {option : String}
    (h : Assoc.get? params' option = Assoc.get? params option) :
    pageSize? params' option = pageSize? params option := by
  rw [pageSize?, pageSize?, h]

/-- The same options have the same values. -/
theorem values_congr (hsame : SameOptions params' params) : values params' = values params := by
  have hget : ∀ name ∈ known, Assoc.get? params' name = Assoc.get? params name := by
    intro name hname
    refine hsame name ?_
    revert name
    decide
  simp only [values, pageSize?, hget "$filter" (by decide), hget "$orderby" (by decide),
    hget "$top" (by decide), hget "$skip" (by decide), hget "$select" (by decide),
    hget "$expand" (by decide), hget "$count" (by decide), hget "$search" (by decide),
    hget "$format" (by decide)]

/-- Options are accepted when they have no problems, and their values are read. -/
theorem parse_eq_ok_iff {o : SystemOptions} :
    parse params = .ok o ↔ problems params = [] ∧ values params = o := by
  unfold parse
  split
  · next hproblems => simp [hproblems]
  · next hproblems => simp [hproblems, values]

/-- Options are refused when they have problems, with all of them in the rejection. -/
theorem parse_eq_error_iff {r : Rejection} : parse params = .error r ↔
    ∃ first others, problems params = first :: others ∧ rejection first others = r := by
  unfold parse
  split
  · next hproblems => simp [hproblems]
  · next hproblems => simp [hproblems]

end SystemOptions

namespace Query

/-- Which records a query selects, and how they are ordered and projected, depends on four options;
the page depends on two others. -/
theorem ofOptions_values_eq_ok {search : Bool} {params params' : Assoc String} {q : Query}
    (h : ofOptions search (SystemOptions.values params) = .ok q)
    (hsame : ∀ name ∈ ["$filter", "$orderby", "$select", "$search"],
      Assoc.get? params' name = Assoc.get? params name) :
    ofOptions search (SystemOptions.values params') = .ok { q with
      limit := SystemOptions.pageSize? params' "$top"
      offset := SystemOptions.pageSize? params' "$skip" } ∧
    q.limit = SystemOptions.pageSize? params "$top" ∧
    q.offset = SystemOptions.pageSize? params "$skip" := by
  obtain ⟨filter, hfilter, h⟩ := bind_eq_ok.1 h
  obtain ⟨orderBy, horderBy, h⟩ := bind_eq_ok.1 h
  obtain ⟨fields, hfields, h⟩ := bind_eq_ok.1 h
  obtain rfl := Except.ok.inj h
  -- the texts of the filter, the order and the selection are read as before
  refine ⟨?_, rfl, rfl⟩
  rw [ofOptions]
  simp only [SystemOptions.values, hsame "$filter" (by simp), hsame "$orderby" (by simp),
    hsame "$select" (by simp), hsame "$search" (by simp)] at hfilter horderBy hfields ⊢
  rw [hfilter, ok_bind, horderBy, ok_bind, hfields]
  rfl

end Query

end ODataService
