import Mathlib.Data.List.TakeDrop
import ODataService.Proofs.Text.Splitting
import ODataService.Proofs.Url.Percent
import ODataService.Url.Target

/-!
# The forms of a URL

A URL names a path of the service relative to it, as a whole, or with scheme and host, and all three
forms have the same target (`Url.Target.ofUrl_forms`).

Scheme, host and query are found by their delimiters. An escaped path has no colon, question mark or
number sign, so only slashes could mislead: two at the start of a URL announce a host. The base path
is taken off wherever the path starts with it, which is why a relative URL must not name a path that
starts with the base path itself: it loses this start (`Url.Target.ofUrl_relative_inside`).
-/

namespace ODataService.Url

open Text

/-! ## Parts of URLs -/

def isVisible (c : Char) : Bool := 0x20 < c.toNat && c.toNat < 0x7F

def isQueryChar (c : Char) : Bool := isVisible c && c != '#'

def isHostChar (c : Char) : Bool := isVisible c && !endsHost c && c != '[' && c != ']'

/-- The characters of a path in which only slashes were kept. -/
def isPathChar (c : Char) : Bool := isUnreserved c || c == '/' || c == '%'

theorem isVisible_iff {c : Char} : isVisible c = true ↔ 0x20 < c.toNat ∧ c.toNat < 0x7F := by
  rw [isVisible, Bool.and_eq_true, decide_eq_true_eq, decide_eq_true_eq]

/-- A host is made of visible characters that neither end it nor are brackets. -/
theorem isHostChar_iff {c : Char} :
    isHostChar c = true ↔ isVisible c = true ∧ endsHost c = false ∧ c ≠ '[' ∧ c ≠ ']' := by
  simp [isHostChar, and_assoc]

/-- An escaped path is made of unreserved characters, slashes and percent signs. -/
theorem isPathChar_iff {c : Char} :
    isPathChar c = true ↔ isUnreserved c = true ∨ c = '/' ∨ c = '%' := by
  simp [isPathChar, or_assoc]

/-- An escaped path is visible. -/
theorem isVisible_of_isPathChar {c : Char} (h : isPathChar c = true) : isVisible c = true := by
  rcases isPathChar_iff.1 h with h | rfl | rfl
  · exact isVisible_iff.2 (toNat_of_isUnreserved h)
  all_goals decide

theorem isVisible_of_isQueryChar {c : Char} (h : isQueryChar c = true) : isVisible c = true :=
  (Bool.and_eq_true_iff.1 h).1

/-- The base path of a service: empty, or a slash and more unreserved characters and slashes, with
no two slashes in a row and none at the end. -/
structure IsBase (base : String) : Prop where
  chars : ∀ c ∈ base.toList, isUnreserved c = true ∨ c = '/'
  rooted : base ≠ "" → base.toList.head? = some '/'
  single : ¬ ['/', '/'] <:+: base.toList
  ends : base.toList.getLast? ≠ some '/'

/-- A path with a single slash at its start that is neither a base path nor below it. -/
structure IsOutside (base path : String) : Prop where
  rooted : path.toList.head? = some '/'
  single : path.toList[1]? ≠ some '/'
  outside : base ≠ "" → path ≠ base ∧ ¬ (base ++ "/").toList <+: path.toList

/-- The path as it stands in URLs. -/
def escapedPath (path : String) : String := String.ofList (escape ['/'] path.toList)

/-- The path as it stands in URLs that are relative to the service. -/
def relativePath (path : String) : String := String.ofList (escape ['/'] path.toList).tail

/-! ## Taking a URL apart -/

section TakingApart

variable {path query : List Char}

/-- Nothing is cleaned away from visible characters. -/
theorem cleaned_eq_self {cs : List Char} (h : ∀ c ∈ cs, isVisible c = true) : cleaned cs = cs := by
  have hkeep : ∀ c ∈ cs, (c != '\t' && c != '\r' && c != '\n') = true := by
    intro c hc
    have hlow := (isVisible_iff.1 (h c hc)).1
    simp only [Bool.and_eq_true, bne_iff_ne]
    refine ⟨⟨?_, ?_⟩, ?_⟩ <;> rintro rfl <;> exact absurd hlow (by decide)
  -- no blank and no control character stands in front
  have hfront : cs.dropWhile (fun c => c.toNat ≤ 0x20) = cs := by
    cases cs with
    | nil => rfl
    | cons c cs =>
      have hlow := (isVisible_iff.1 (h c List.mem_cons_self)).1
      rw [List.dropWhile_cons_of_neg (by simpa using hlow)]
  rw [cleaned, hfront, List.filter_eq_self.2 hkeep]

/-- What stands in front of a question mark is no scheme if there is no colon in it. -/
theorem withoutScheme_eq_self (h : ':' ∉ path) (query : List Char) :
    withoutScheme (path ++ '?' :: query) = path ++ '?' :: query := by
  have hcut : cut ':' (path ++ '?' :: query) =
      (path ++ '?' :: (cut ':' query).1, (cut ':' query).2) := cut_append_of_not_mem h _
  -- a colon of the query would make all in front of it the scheme
  rw [withoutScheme, hcut]
  split
  · next c name rest heq =>
    -- the name reaches across the question mark, which belongs to no scheme
    have hmark : '?' ∈ c :: name := by
      rw [← (Prod.mk.inj heq).1]
      exact List.mem_append_right _ List.mem_cons_self
    rw [if_neg]
    intro hscheme
    have hall := List.all_eq_true.1 (Bool.and_eq_true_iff.1 hscheme).2 _ hmark
    exact absurd hall (by decide)
  · rfl

/-- The scheme in front of a full URL is cut off. -/
theorem withoutScheme_http (rest : List Char) :
    withoutScheme ("http:".toList ++ rest) = rest := by
  have hcut : cut ':' ("http:".toList ++ rest) = (['h', 't', 't', 'p'], some rest) :=
    cut_append (by decide : ':' ∉ ['h', 't', 't', 'p']) rest
  rw [withoutScheme, hcut]
  rfl

/-- Without two slashes at the start there is no host. -/
theorem splitHost_none {cs : List Char} (h : ¬ ['/', '/'] <+: cs) : splitHost cs = ([], cs) := by
  rw [splitHost]
  rintro cs rfl
  exact h ⟨cs, rfl⟩

/-- The host ends where the path starts. -/
theorem splitHost_host {host rest : List Char} (h : ∀ c ∈ host, isHostChar c = true)
    (hrest : rest.head? = some '/') :
    splitHost ("//".toList ++ (host ++ rest)) = (host, rest) := by
  have hhost : ∀ c ∈ host, (!endsHost c) = true := fun c hc => by
    rw [(isHostChar_iff.1 (h c hc)).2.1, Bool.not_false]
  have hend : ∀ c ∈ rest.head?, (!endsHost c) = false := by
    intro c hc
    rw [hrest, Option.mem_some_iff] at hc
    rw [← hc]
    rfl
  -- behind the slashes the host goes on up to the path
  show (host ++ rest).span (!endsHost ·) = _
  rw [List.span_eq_takeWhile_dropWhile, takeWhile_append_rest hhost hend,
    dropWhile_append_rest hhost hend]

/-- A host without brackets passes the check of brackets. -/
theorem checkBrackets_of_isHostChar {host : List Char} (h : ∀ c ∈ host, isHostChar c = true) :
    checkBrackets host = .ok () := by
  have hnone : ∀ c, isHostChar c = false → host.contains c = false := by
    intro c hc
    rw [← Bool.not_eq_true, List.contains_iff_mem]
    intro hmem
    rw [h c hmem] at hc
    contradiction
  rw [checkBrackets, hnone '[' (by decide), hnone ']' (by decide)]

/-- The disguised delimiters lie beyond ASCII. -/
theorem checkDelimiters_of_isHostChar {host : List Char} (h : ∀ c ∈ host, isHostChar c = true) :
    checkDelimiters host = .ok () := by
  -- the delimiters in disguise are no ASCII
  have hbeyond : ∀ n ∈ disguisedDelimiters, 0x80 ≤ n := by decide
  rw [checkDelimiters, if_neg]
  intro hany
  obtain ⟨c, hc, hdelimiter⟩ := List.any_eq_true.1 hany
  have hascii := (isVisible_iff.1 (isHostChar_iff.1 (h c hc)).1).2
  have := hbeyond _ (List.contains_iff_mem.1 hdelimiter)
  omega

/-- A path and a query are split at the question mark. -/
theorem splitPath_eq (hpath : ∀ c ∈ path, isPathChar c = true)
    (hquery : ∀ c ∈ query, isQueryChar c = true) :
    splitPath (path ++ '?' :: query) = (path, query) := by
  have hfragment : '#' ∉ path ++ '?' :: query := by
    rw [List.mem_append, List.mem_cons]
    -- the mark of a fragment is in neither of them
    rintro (hmem | hmem | hmem)
    · exact absurd (hpath _ hmem) (by decide)
    · exact absurd hmem (by decide)
    · exact absurd (hquery _ hmem) (by decide)
  have hmark : '?' ∉ path := fun hmem => absurd (hpath _ hmem) (by decide)
  simp only [splitPath, cut_of_not_mem hfragment, cut_append hmark, Option.getD_some]

/-- A path and a query with the question mark between them are visible. -/
theorem isVisible_of_mem {c : Char} (hpath : ∀ c ∈ path, isPathChar c = true)
    (hquery : ∀ c ∈ query, isQueryChar c = true) (hc : c ∈ path ++ '?' :: query) :
    isVisible c = true := by
  rw [List.mem_append, List.mem_cons] at hc
  rcases hc with hc | rfl | hc
  · exact isVisible_of_isPathChar (hpath c hc)
  · decide
  · exact isVisible_of_isQueryChar (hquery c hc)

/-- A URL without host. -/
theorem Target.ofUrl_path {url : String} (base : String) (hurl : url.toList = path ++ '?' :: query)
    (hpath : ∀ c ∈ path, isPathChar c = true) (hquery : ∀ c ∈ query, isQueryChar c = true)
    (hslashes : ¬ ['/', '/'] <+: path) :
    Target.ofUrl base url =
      .ok ⟨String.ofList (below (baseOf base) (rooted (unescape path))), String.ofList query⟩ := by
  have hclean : cleaned url.toList = path ++ '?' :: query := by
    rw [hurl, cleaned_eq_self fun c => isVisible_of_mem hpath hquery]
  have hcolon : ':' ∉ path := fun hmem => absurd (hpath _ hmem) (by decide)
  -- two slashes in front would start a host, and the path has none
  have hhost : ¬ ['/', '/'] <+: path ++ '?' :: query := by
    intro hprefix
    match path, hprefix with
    | [], hprefix => simp at hprefix
    | [c], hprefix => simp at hprefix
    | c :: d :: path, hprefix =>
      exact hslashes (by simpa using hprefix)
  simp only [ofUrl, hclean, withoutScheme_eq_self hcolon, splitHost_none hhost,
    splitPath_eq hpath hquery]
  rfl

/-- A URL with scheme and host. -/
theorem Target.ofUrl_host {url : String} {host : List Char} (base : String)
    (hurl : url.toList = "http://".toList ++ (host ++ (path ++ '?' :: query)))
    (hhost : ∀ c ∈ host, isHostChar c = true) (hpath : ∀ c ∈ path, isPathChar c = true)
    (hquery : ∀ c ∈ query, isQueryChar c = true) (hrooted : path.head? = some '/') :
    Target.ofUrl base url =
      .ok ⟨String.ofList (below (baseOf base) (rooted (unescape path))), String.ofList query⟩ := by
  have hclean : cleaned url.toList =
      "http:".toList ++ ("//".toList ++ (host ++ (path ++ '?' :: query))) := by
    rw [hurl]
    refine cleaned_eq_self fun c hc => ?_
    rw [List.mem_append, List.mem_append] at hc
    -- the host, the path and the query are visible, and so is the scheme
    rcases hc with hc | hc | hc
    · exact List.all_eq_true.1 (by decide) c hc
    · exact (isHostChar_iff.1 (hhost c hc)).1
    · exact isVisible_of_mem hpath hquery hc
  have hsplit : splitHost ("//".toList ++ (host ++ (path ++ '?' :: query))) =
      (host, path ++ '?' :: query) :=
    splitHost_host hhost (by rw [List.head?_append, hrooted, Option.some_or])
  simp only [ofUrl, hclean, withoutScheme_http, hsplit, checkBrackets_of_isHostChar hhost,
    checkDelimiters_of_isHostChar hhost, splitPath_eq hpath hquery]
  rfl

end TakingApart

/-! ## Base paths -/

variable {base : String}

/-- A base path is taken as it is, for it ends with no slash. -/
theorem baseOf_eq (h : IsBase base) : baseOf base = base.toList := by
  rcases List.eq_nil_or_concat base.toList with hnil | ⟨front, c, hconcat⟩
  · rw [baseOf, dropTrailing, hnil, String.toList_ofList]
    rfl
  · rw [List.concat_eq_append] at hconcat
    have hc : c ≠ '/' := by
      rintro rfl
      exact h.ends (by rw [hconcat, List.getLast?_concat])
    rw [baseOf, dropTrailing_eq hconcat hc]

/-- A path outside of the base path stays. -/
theorem IsOutside.below_eq {path : String} (h : IsOutside base path) :
    below base.toList path.toList = path.toList := by
  by_cases hbase : base = ""
  · rw [hbase]
    rfl
  · obtain ⟨hne, hprefix⟩ := h.outside hbase
    have hne : path.toList ≠ base.toList := fun heq => hne (String.toList_inj.1 heq)
    rw [String.toList_append] at hprefix
    have hprefix : ¬ (base.toList ++ ['/']).isPrefixOf path.toList = true := by
      rwa [List.isPrefixOf_iff_prefix]
    rw [below, if_neg (by simpa using hbase), if_neg hne, if_neg hprefix]

/-- A path without a slash in front gets one. -/
theorem rooted_of_head?_ne {cs : List Char} (h : cs.head? ≠ some '/') : rooted cs = '/' :: cs := by
  rw [rooted]
  rintro cs rfl
  exact h rfl

/-- A path with a slash in front stays. -/
theorem rooted_of_head? {cs : List Char} (h : cs.head? = some '/') : rooted cs = cs := by
  obtain ⟨cs, rfl⟩ := List.head?_eq_some_iff.1 h
  rfl

/-- What stands behind a base path is below it. -/
theorem below_append {base path : List Char} (h : path.head? = some '/') :
    below base (base ++ path) = path := by
  obtain ⟨cs, rfl⟩ := List.head?_eq_some_iff.1 h
  -- without a base path everything is below it
  cases base with
  | nil => rfl
  | cons b base =>
    have hne : b :: base ++ '/' :: cs ≠ b :: base := by
      rw [ne_eq, List.append_right_eq_self]
      exact List.cons_ne_nil _ _
    have hprefix : (b :: base ++ ['/']).isPrefixOf (b :: base ++ '/' :: cs) = true := by
      rw [List.isPrefixOf_iff_prefix]
      exact ⟨cs, by rw [List.append_assoc, List.singleton_append]⟩
    rw [below, if_neg (by simp), if_neg hne, if_pos hprefix, List.drop_left]

/-! ## Escaped paths -/

/-- An escaped path has the characters of one. -/
theorem isPathChar_of_mem_escape {c : Char} {cs : List Char} (h : c ∈ escape ['/'] cs) :
    isPathChar c = true := by
  rcases mem_escape h with hc | hc | hc
  · exact isPathChar_iff.2 (.inl hc)
  · exact isPathChar_iff.2 (.inr (.inl (List.mem_singleton.1 hc)))
  · exact isPathChar_iff.2 (.inr (.inr hc))

theorem unescape_escape_slash (cs : List Char) : unescape (escape ['/'] cs) = cs :=
  unescape_escape (List.forall_mem_singleton.2 (by decide)) cs

/-- Escaping puts no slash in front. -/
theorem head?_escape_ne {cs : List Char} (h : cs.head? ≠ some '/') :
    (escape ['/'] cs).head? ≠ some '/' := by
  cases cs with
  | nil => exact h
  | cons c cs =>
    rw [escape, List.flatMap_cons]
    -- an unreserved character stands for itself, any other one starts with a percent sign
    split
    · exact h
    · obtain ⟨b, bs, hbytes⟩ : ∃ b bs, String.utf8EncodeChar c = b :: bs :=
        List.exists_cons_of_ne_nil String.utf8EncodeChar_ne_nil
      rw [Utf8.toList_toUTF8, Utf8.encode, List.flatMap_singleton, hbytes, List.flatMap_cons]
      simp [escapeByte_eq]

theorem escape_slash (cs : List Char) : escape ['/'] ('/' :: cs) = '/' :: escape ['/'] cs := rfl

/-- A path outside a base path is a slash with something behind it that starts with none. -/
theorem IsOutside.toList_eq {path : String} (h : IsOutside base path) :
    ∃ cs, path.toList = '/' :: cs ∧ cs.head? ≠ some '/' := by
  obtain ⟨cs, hcs⟩ := List.head?_eq_some_iff.1 h.rooted
  refine ⟨cs, hcs, ?_⟩
  have hsingle := h.single
  rw [hcs, List.getElem?_cons_succ, ← List.head?_eq_getElem?] at hsingle
  exact hsingle

/-- Base path and escaped path together are the escape of the whole path. -/
theorem IsBase.append_escape (h : IsBase base) (cs : List Char) :
    base.toList ++ escape ['/'] cs = escape ['/'] (base.toList ++ cs) := by
  rw [escape_append, escape_eq_self fun c hc => (h.chars c hc).imp_right List.mem_singleton.2]

/-- Below a base path there is a slash in front, too. -/
theorem IsBase.head?_append (h : IsBase base) {cs : List Char} (hcs : cs.head? = some '/') :
    (base.toList ++ cs).head? = some '/' := by
  by_cases hbase : base = ""
  · rw [hbase]
    exact hcs
  · rw [List.head?_append, h.rooted hbase, Option.some_or]

/-- A base path starts with one slash. -/
theorem IsBase.toList_eq (h : IsBase base) (hne : base ≠ "") :
    ∃ c cs, base.toList = '/' :: c :: cs ∧ c ≠ '/' := by
  obtain ⟨cs, hcs⟩ := List.head?_eq_some_iff.1 (h.rooted hne)
  cases cs with
  | nil => exact absurd (by rw [hcs, List.getLast?_singleton]) h.ends
  | cons c cs =>
    refine ⟨c, cs, hcs, ?_⟩
    rintro rfl
    exact h.single (hcs ▸ (List.prefix_append ['/', '/'] cs).isInfix)

/-- No host is announced by a base path with a path behind it. -/
theorem IsBase.slashes (h : IsBase base) {cs : List Char} (hcs : cs.head? ≠ some '/') :
    ¬ ['/', '/'] <+: base.toList ++ '/' :: cs := by
  -- without a base path the slashes would be those of the path itself
  by_cases hbase : base = ""
  · rintro ⟨ds, hds⟩
    rw [hbase] at hds
    exact hcs (by rw [← (List.cons.inj hds).2]; rfl)
  · obtain ⟨c, front, hfront, hc⟩ := h.toList_eq hbase
    rw [hfront, List.cons_append, List.cons_append, List.cons_prefix_cons, List.cons_prefix_cons]
    exact fun hprefix => hc hprefix.2.1.symm

/-! ## The forms -/

variable {path query : String}

/-- A relative URL, whatever its path is to the base path. -/
theorem Target.ofUrl_relativePath {cs : List Char} (hbase : IsBase base)
    (hcs : path.toList = '/' :: cs) (hhead : cs.head? ≠ some '/')
    (hquery : ∀ c ∈ query.toList, isQueryChar c = true) :
    Target.ofUrl base (relativePath path ++ "?" ++ query) =
      .ok ⟨String.ofList (below base.toList path.toList), query⟩ := by
  have hurl : (relativePath path ++ "?" ++ query).toList =
      escape ['/'] cs ++ '?' :: query.toList := by
    simp [relativePath, hcs, escape_slash]
  -- the slash in front was left out, and the next character is none
  have hslashes : ¬ ['/', '/'] <+: escape ['/'] cs := by
    rintro ⟨ds, hds⟩
    exact head?_escape_ne hhead (by rw [← hds]; rfl)
  rw [ofUrl_path base hurl (fun c => isPathChar_of_mem_escape) hquery hslashes,
    unescape_escape_slash, rooted_of_head?_ne hhead, ← hcs, baseOf_eq hbase, String.ofList_toList]

/-- A URL relative to the service is read. -/
theorem Target.ofUrl_relative (hbase : IsBase base) (hpath : IsOutside base path)
    (hquery : ∀ c ∈ query.toList, isQueryChar c = true) :
    Target.ofUrl base (relativePath path ++ "?" ++ query) = .ok ⟨path, query⟩ := by
  obtain ⟨cs, hcs, hhead⟩ := hpath.toList_eq
  rw [ofUrl_relativePath hbase hcs hhead hquery, hpath.below_eq, String.ofList_toList]

/-- A relative URL is below the base path already, and still loses a base path that it starts
with. -/
theorem Target.ofUrl_relative_inside (hbase : IsBase base) (hne : base ≠ "")
    (hpath : path.toList.head? = some '/') (hquery : ∀ c ∈ query.toList, isQueryChar c = true) :
    Target.ofUrl base (relativePath (base ++ path) ++ "?" ++ query) = .ok ⟨path, query⟩ := by
  obtain ⟨c, cs, hcs, hc⟩ := hbase.toList_eq hne
  have hsum : (base ++ path).toList = '/' :: (c :: cs ++ path.toList) := by
    rw [String.toList_append, hcs, List.cons_append]
  have hhead : (c :: cs ++ path.toList).head? ≠ some '/' := by simpa using hc
  rw [ofUrl_relativePath hbase hsum hhead hquery, String.toList_append, below_append hpath,
    String.ofList_toList]

/-- What a URL names behind the host. -/
theorem below_base_escape (hbase : IsBase base) (hpath : IsOutside base path) :
    below (baseOf base) (rooted (unescape (base.toList ++ escape ['/'] path.toList))) =
      path.toList := by
  rw [hbase.append_escape, unescape_escape_slash, rooted_of_head? (hbase.head?_append hpath.rooted),
    baseOf_eq hbase, below_append hpath.rooted]

/-- A path below the base path has the characters of one. -/
theorem isPathChar_of_mem (hbase : IsBase base) {c : Char}
    (h : c ∈ base.toList ++ escape ['/'] path.toList) : isPathChar c = true := by
  rw [hbase.append_escape] at h
  exact isPathChar_of_mem_escape h

/-- A URL with the base path in front is read. -/
theorem Target.ofUrl_absolute (hbase : IsBase base) (hpath : IsOutside base path)
    (hquery : ∀ c ∈ query.toList, isQueryChar c = true) :
    Target.ofUrl base (base ++ escapedPath path ++ "?" ++ query) = .ok ⟨path, query⟩ := by
  obtain ⟨cs, hcs, hhead⟩ := hpath.toList_eq
  have hurl : (base ++ escapedPath path ++ "?" ++ query).toList =
      (base.toList ++ escape ['/'] path.toList) ++ '?' :: query.toList := by
    simp [escapedPath]
  -- the base path starts with one slash, so no host is read
  have hslashes : ¬ ['/', '/'] <+: base.toList ++ escape ['/'] path.toList := by
    rw [hcs, escape_slash]
    exact hbase.slashes (head?_escape_ne hhead)
  rw [ofUrl_path base hurl (fun c => isPathChar_of_mem hbase) hquery hslashes,
    below_base_escape hbase hpath, String.ofList_toList, String.ofList_toList]

/-- A URL with scheme and host is read. -/
theorem Target.ofUrl_full (hbase : IsBase base) (hpath : IsOutside base path)
    (hquery : ∀ c ∈ query.toList, isQueryChar c = true) {host : String}
    (hhost : ∀ c ∈ host.toList, isHostChar c = true) :
    Target.ofUrl base ("http://" ++ host ++ base ++ escapedPath path ++ "?" ++ query) =
      .ok ⟨path, query⟩ := by
  have hurl : ("http://" ++ host ++ base ++ escapedPath path ++ "?" ++ query).toList =
      "http://".toList ++ (host.toList ++
        ((base.toList ++ escape ['/'] path.toList) ++ '?' :: query.toList)) := by
    simp [escapedPath]
  have hrooted : (base.toList ++ escape ['/'] path.toList).head? = some '/' := by
    obtain ⟨cs, hcs, -⟩ := hpath.toList_eq
    exact hbase.head?_append (by rw [hcs, escape_slash, List.head?_cons])
  rw [ofUrl_host base hurl hhost (fun c => isPathChar_of_mem hbase) hquery hrooted,
    below_base_escape hbase hpath, String.ofList_toList, String.ofList_toList]

/-- Relative to the service, as a whole and with scheme and host, a URL has the same target: the
path and the query it was made of. -/
theorem Target.ofUrl_forms (hbase : IsBase base) (hpath : IsOutside base path)
    (hquery : ∀ c ∈ query.toList, isQueryChar c = true) :
    Target.ofUrl base (relativePath path ++ "?" ++ query) = .ok ⟨path, query⟩ ∧
    Target.ofUrl base (base ++ escapedPath path ++ "?" ++ query) = .ok ⟨path, query⟩ ∧
    ∀ host : String, (∀ c ∈ host.toList, isHostChar c = true) →
      Target.ofUrl base ("http://" ++ host ++ base ++ escapedPath path ++ "?" ++ query) =
        .ok ⟨path, query⟩ :=
  ⟨ofUrl_relative hbase hpath hquery, ofUrl_absolute hbase hpath hquery,
    fun _ hhost => ofUrl_full hbase hpath hquery hhost⟩

/-- A path of two octets for one character, in its three forms. -/
theorem Target.ofUrl_forms_utf8 :
    Target.ofUrl "/odata" "Caf%C3%A9%28%271%27%29?$top=1" = .ok ⟨"/Café('1')", "$top=1"⟩ ∧
    Target.ofUrl "/odata" "/odata/Caf%C3%A9%28%271%27%29?$top=1" =
      .ok ⟨"/Café('1')", "$top=1"⟩ ∧
    Target.ofUrl "/odata" "http://host/odata/Caf%C3%A9%28%271%27%29?$top=1" =
      .ok ⟨"/Café('1')", "$top=1"⟩ := by
  have hbase : IsBase "/odata" := by
    have hchars : "/odata".toList.all (fun c => isUnreserved c || c == '/') = true := by decide
    exact ⟨by simpa using hchars, fun _ => rfl, by decide, by decide⟩
  have hpath : IsOutside "/odata" "/Café('1')" := ⟨rfl, by decide, fun _ => by decide⟩
  have hrelative : relativePath "/Café('1')" = "Caf%C3%A9%28%271%27%29" := by decide +kernel
  have hescaped : escapedPath "/Café('1')" = "/Caf%C3%A9%28%271%27%29" := by decide +kernel
  have hquery : ∀ c ∈ "$top=1".toList, isQueryChar c = true := List.all_eq_true.1 (by decide)
  have hforms := ofUrl_forms hbase hpath hquery
  rw [hrelative, hescaped] at hforms
  exact ⟨hforms.1, hforms.2.1, hforms.2.2 "host" (List.all_eq_true.1 (by decide))⟩

end ODataService.Url
