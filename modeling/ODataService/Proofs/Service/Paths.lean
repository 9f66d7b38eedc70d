import ODataService.Proofs.Text.Splitting
import ODataService.Service.Path

/-!
# Paths of entity sets and records

What the paths `/Set` and `/Set('key')` name. A path that starts with a name goes by what follows
the name (`Route.ofPath_of_cutName`), and then there are few ways to name anything
(`Route.ofRest_cases`). So the two paths name the entity set and its record, unless one of them
names nothing (`Route.ofPath_pair`), whatever `Set` is.

A key between quotes is read as it was written if the quotes in it were doubled
(`EntityKey.denoted_doubled`). The first closing parenthesis ends the key, between quotes as well,
so a path with such a key names nothing (`Route.ofPath_record_of_paren`).
-/

namespace ODataService

/-- A key in quotes. -/
theorem toList_inQuotes (key : String) :
    (s!"'{key}'").toList = '\'' :: (key.toList ++ ['\'']) := by
  show ("'" ++ key ++ "'").toList = _
  rw [String.toList_append, String.toList_append]
  rfl

namespace Route

open Text (takeWhile_append_rest dropWhile_append_rest)

variable {name : String} {path : String} {cs rest front : List Char}

/-! ## The name -/

/-- A path without slashes at its end that starts with the slash and a name does not start with the
slash and a dollar sign. -/
theorem dropTrailing_ne {c : Char} (hpath : path.toList = '/' :: c :: cs)
    (hc : isNameStart c = true) {other : String} {ds : List Char}
    (hother : other.toList = '/' :: '$' :: ds) : Text.dropTrailing '/' path ≠ other := by
  intro heq
  have hprefix := Text.dropTrailing_isPrefix '/' path
  rw [heq, hother, hpath, List.cons_prefix_cons, List.cons_prefix_cons] at hprefix
  obtain ⟨-, rfl, -⟩ := hprefix
  exact absurd hc (by decide)

/-- A name is cut off behind the slash. -/
theorem cutName?_cons {c : Char} (hc : isNameStart c = true)
    (hfront : ∀ d ∈ front, isNameChar d = true) (hrest : ∀ d ∈ rest.head?, isNameChar d = false) :
    cutName? ('/' :: c :: (front ++ rest)) = some (c :: front, rest) := by
  rw [cutName?, if_pos hc, takeWhile_append_rest hfront hrest, dropWhile_append_rest hfront hrest]

/-- A path that starts with a name goes by what follows the name. -/
theorem ofPath_of_cutName {c : Char} (hc : isNameStart c = true)
    (hfront : ∀ d ∈ front, isNameChar d = true) (hrest : ∀ d ∈ rest.head?, isNameChar d = false)
    (hpath : path.toList = '/' :: c :: (front ++ rest)) :
    ofPath path = ofRest (String.ofList (c :: front)) rest := by
  -- the path is neither that of the service nor one of the two that have a meaning of their own
  have hroot : ¬ (path = "" || path = "/") = true := by
    rw [Bool.or_eq_true, decide_eq_true_eq, decide_eq_true_eq]
    rintro (rfl | rfl) <;> simp at hpath
  have hmetadata : Text.dropTrailing '/' path ≠ metadataPath := dropTrailing_ne hpath hc rfl
  have hbatch : ¬ Batch.isBatchPath path = true := by
    rw [Batch.isBatchPath, beq_iff_eq]
    exact dropTrailing_ne hpath hc rfl
  rw [ofPath, if_neg hroot, if_neg hmetadata, if_neg hbatch, hpath,
    cutName?_cons hc hfront hrest]

/-- A path that ends with a parenthesis and starts with no name names nothing. -/
theorem ofPath_of_no_name (hpath : path.toList = cs ++ [')'])
    (hname : cutName? path.toList = none) : ofPath path = unknown := by
  have hsame : Text.dropTrailing '/' path = path := Text.dropTrailing_eq hpath (by decide)
  -- the other paths that are known do not end with a parenthesis
  have hne : ∀ other : String, other.toList.getLast? ≠ some ')' → path ≠ other := by
    rintro _ hlast rfl
    exact hlast (by rw [hpath, List.getLast?_concat])
  have hroot : ¬ (path = "" || path = "/") = true := by
    rw [Bool.or_eq_true, decide_eq_true_eq, decide_eq_true_eq]
    rintro (h | h)
    · exact hne "" (by decide) h
    · exact hne "/" (by decide) h
  have hmetadata : Text.dropTrailing '/' path ≠ metadataPath := by
    rw [hsame]
    exact hne metadataPath (by decide)
  have hbatch : ¬ Batch.isBatchPath path = true := by
    rw [Batch.isBatchPath, beq_iff_eq, hsame]
    exact hne Batch.batchPath (by decide)
  rw [ofPath, if_neg hroot, if_neg hmetadata, if_neg hbatch, hname]

/-! ## What follows the name -/

/-- The end of a path is no parenthesis. -/
theorem getLast?_of_isEnd (h : isEnd cs = true) : cs.getLast? ≠ some ')' := by
  unfold isEnd at h
  split at h <;> simp at h ⊢

/-- What is not the end of a path but names something is the word for the number of records or a key
in parentheses, and the end of the path stands behind it. -/
theorem ofRest_cases (h : ofRest name rest ≠ unknown) :
    isEnd rest = true ∨ (∃ cs, rest = "/$count".toList ++ cs ∧ isEnd cs = true) ∨
      ∃ key cs, rest = '(' :: (key ++ ')' :: cs) ∧ ')' ∉ key ∧ isEnd cs = true ∧
        ofRest name rest = entity name (String.ofList key) := by
  by_cases hend : isEnd rest = true
  · exact .inl hend
  unfold ofRest at h ⊢
  rw [if_neg hend] at h ⊢
  -- what follows the name starts with a slash, with a parenthesis, or is nothing that is known
  split at h
  · next cs =>
    split at h
    · next hcs => exact .inr (.inl ⟨cs, rfl, hcs⟩)
    · exact absurd rfl h
  · next cs =>
    rcases hcut : Text.cut ')' cs with ⟨key, _ | behind⟩
    · simp [cutKey?, hcut] at h
    · obtain ⟨rfl, hkey⟩ := Text.cut_eq_some hcut
      by_cases hbehind : isEnd behind = true
      · refine .inr (.inr ⟨key, behind, rfl, hkey, hbehind, ?_⟩)
        simp [cutKey?, hcut, hbehind]
      · simp [cutKey?, hcut, hbehind] at h
  · exact absurd rfl h

/-- What ends with a parenthesis and names something is a key in parentheses. -/
theorem ofRest_of_concat (h : ofRest name (cs ++ [')']) ≠ unknown) :
    ∃ key, cs = '(' :: key ∧ ')' ∉ key ∧
      ofRest name (cs ++ [')']) = entity name (String.ofList key) := by
  have hlast : (cs ++ [')']).getLast? = some ')' := List.getLast?_concat
  -- of the three forms only a key ends with a parenthesis
  rcases ofRest_cases h with hend | ⟨ds, hrest, hend⟩ | ⟨key, ds, hrest, hkey, hend, hentity⟩
  · exact absurd hlast (getLast?_of_isEnd hend)
  · -- the word for the number ends otherwise, and so does the end of a path
    rw [hrest, List.getLast?_append] at hlast
    cases hds : ds.getLast? with
    | none => simp [hds] at hlast
    | some d =>
      rw [hds, Option.some_or] at hlast
      exact absurd (hds.trans hlast) (getLast?_of_isEnd hend)
  · have hnil : ds = [] := by
      rcases List.eq_nil_or_concat ds with hnil | ⟨es, d, hds⟩
      · exact hnil
      · -- otherwise the end of the path is what ends with a parenthesis
        rw [List.concat_eq_append] at hds
        have hconcat : '(' :: (key ++ ')' :: ds) = ('(' :: (key ++ ')' :: es)) ++ [d] := by
          rw [hds, List.cons_append, List.append_assoc, List.cons_append]
        rw [hrest, hconcat, List.getLast?_concat] at hlast
        refine absurd ?_ (getLast?_of_isEnd hend)
        rw [hds, List.getLast?_concat, hlast]
    have hcs : cs = '(' :: key := by
      have hconcat : cs ++ [')'] = ('(' :: key) ++ [')'] := by rw [hrest, hnil, List.cons_append]
      exact List.append_cancel_right hconcat
    exact ⟨key, hcs, hkey, hentity⟩

/-! ## Both paths -/

/-- What follows the first character of a name: the rest of the name and what comes then. -/
theorem exists_name (cs : List Char) :
    ∃ front rest, cs = front ++ rest ∧ (∀ d ∈ front, isNameChar d = true) ∧
      ∀ d ∈ rest.head?, isNameChar d = false := by
  refine ⟨cs.takeWhile isNameChar, cs.dropWhile isNameChar, ?_, ?_, ?_⟩
  · exact List.takeWhile_append_dropWhile.symm
  · intro d hd
    exact List.all_eq_true.mp List.all_takeWhile d hd
  · intro d hd
    have hhead := List.head?_dropWhile_not isNameChar cs
    rw [Option.mem_def.mp hd] at hhead
    exact hhead

/-- What an entity set is called before a parenthesis opens is all of its name, if both with and
without the key in these parentheses something is named. -/
theorem ofRest_pair {inner : List Char} (hset : ofRest name rest ≠ unknown)
    (hrecord : ofRest name ((rest ++ '(' :: inner) ++ [')']) ≠ unknown) :
    rest = [] ∧ ofRest name rest = collection name ∧
      ofRest name ((rest ++ '(' :: inner) ++ [')']) = entity name (String.ofList inner) := by
  obtain ⟨key, hkey, hparen, hentity⟩ := ofRest_of_concat hrecord
  cases rest with
  | nil =>
    obtain rfl : inner = key := (List.cons.inj hkey).2
    exact ⟨rfl, rfl, hentity⟩
  | cons d ds =>
    obtain ⟨rfl, rfl⟩ := List.cons.inj hkey
    -- without the key the parenthesis stays open
    rcases ofRest_cases hset with hend | ⟨es, hes, -⟩ | ⟨key', es, hes, -⟩
    · simp [isEnd] at hend
    · simp at hes
    · have hmem : ')' ∈ ds ++ '(' :: inner := by
        rw [(List.cons.inj hes).2]
        simp
      exact absurd hmem hparen

/-- The path of an entity set. -/
theorem toList_setPath (set : String) : (s!"/{set}").toList = '/' :: set.toList := by
  show ("/" ++ set).toList = _
  rw [String.toList_append]
  rfl

/-- The path of the number of records. -/
theorem toList_numberPath (set : String) :
    (s!"/{set}/$count").toList = '/' :: (set.toList ++ "/$count".toList) := by
  show ("/" ++ set ++ "/$count").toList = _
  rw [String.toList_append, String.toList_append]
  rfl

/-- The path of a record. -/
theorem toList_recordPath (set key : String) : (s!"/{set}('{key}')").toList =
    '/' :: (set.toList ++ '(' :: (s!"'{key}'").toList) ++ [')'] := by
  show ("/" ++ set ++ "('" ++ key ++ "')").toList = _
  rw [String.toList_append, String.toList_append, String.toList_append, String.toList_append,
    toList_inQuotes]
  simp

/-- The paths of an entity set and of one of its records name just these, unless one of them names
nothing. -/
theorem ofPath_pair {set key : String} (hset : ofPath s!"/{set}" ≠ unknown)
    (hrecord : ofPath s!"/{set}('{key}')" ≠ unknown) :
    ofPath s!"/{set}" = collection set ∧
      ofPath s!"/{set}('{key}')" = entity set s!"'{key}'" := by
  have hsetPath := toList_setPath set
  have hrecordPath := toList_recordPath set key
  -- both paths start with the same name, if there is one at all
  by_cases hname : ∃ c cs, set.toList = c :: cs ∧ isNameStart c = true
  · obtain ⟨c, cs, hchars, hc⟩ := hname
    obtain ⟨front, rest, rfl, hfront, hrest⟩ := exists_name cs
    have hbehind : ∀ d ∈ ((rest ++ '(' :: (s!"'{key}'").toList) ++ [')']).head?,
        isNameChar d = false := by
      cases rest with
      | nil =>
        intro d hd
        obtain rfl := Option.some.inj hd
        decide
      | cons e es => exact hrest
    have hsetRest := ofPath_of_cutName hc hfront hrest (by rw [hsetPath, hchars])
    have hrecordRest := ofPath_of_cutName hc hfront hbehind (by
      rw [hrecordPath, hchars]
      simp)
    rw [hsetRest] at hset ⊢
    rw [hrecordRest] at hrecord ⊢
    obtain ⟨rfl, hcollection, hentity⟩ := ofRest_pair hset hrecord
    have hwhole : String.ofList (c :: front) = set := by
      rw [← String.ofList_toList (s := set), hchars, List.append_nil]
    rw [hcollection, hentity, hwhole, String.ofList_toList]
    exact ⟨rfl, rfl⟩
  · -- no name, no record
    refine absurd (ofPath_of_no_name hrecordPath ?_) hrecord
    rw [hrecordPath]
    cases hchars : set.toList with
    | nil => rfl
    | cons c cs =>
      have hc : ¬ isNameStart c = true := fun hc => hname ⟨c, cs, hchars, hc⟩
      simp [cutName?, hc]

/-- The entity set is the name. -/
theorem ofRest_eq_collection {set : String} (h : ofRest name rest = collection set) :
    name = set := by
  unfold ofRest at h
  split at h
  · exact collection.inj h
  · -- whatever else follows the name, it is no entity set that is named
    split at h
    · split at h <;> simp at h
    · split at h <;> simp at h
    · simp at h

/-- A path of an entity set starts with a name. -/
theorem exists_cutName {set : String} (h : ofPath path = collection set) :
    ∃ name rest, cutName? path.toList = some (name, rest) ∧
      ofRest (String.ofList name) rest = collection set := by
  unfold ofPath at h
  -- neither the service itself nor the metadata nor a batch is an entity set
  split at h
  · simp at h
  split at h
  · simp at h
  split at h
  · simp at h
  split at h
  · next name rest hcut => exact ⟨name, rest, hcut, h⟩
  · simp at h

/-- A name is a character that starts one, and characters that may follow. -/
theorem cutName?_eq_some {chars : List Char} (h : cutName? cs = some (chars, rest)) :
    ∃ c front, chars = c :: front ∧ isNameStart c = true ∧ ∀ d ∈ front, isNameChar d = true := by
  unfold cutName? at h
  split at h
  · next c cs =>
    split at h
    · next hc =>
      obtain ⟨rfl, -⟩ := Prod.mk.inj (Option.some.inj h)
      exact ⟨c, cs.takeWhile isNameChar, rfl, hc, fun d hd =>
        List.all_eq_true.mp List.all_takeWhile d hd⟩
    · simp at h
  · simp at h

/-- What an entity set is called in a path is a name. -/
theorem exists_setName {set : String} (h : ofPath path = collection set) :
    ∃ c front, set.toList = c :: front ∧ isNameStart c = true ∧
      ∀ d ∈ front, isNameChar d = true := by
  obtain ⟨chars, rest, hcut, hrest⟩ := exists_cutName h
  obtain ⟨c, front, rfl, hc, hfront⟩ := cutName?_eq_some hcut
  rw [← ofRest_eq_collection hrest, String.toList_ofList]
  exact ⟨c, front, rfl, hc, hfront⟩

/-- The path of the number of records. -/
theorem ofPath_number {set : String} (h : ofPath path = collection set) :
    ofPath s!"/{set}/$count" = count set := by
  obtain ⟨c, front, hchars, hc, hfront⟩ := exists_setName h
  have hpath : (s!"/{set}/$count").toList = '/' :: c :: (front ++ "/$count".toList) := by
    rw [toList_numberPath, hchars, List.cons_append]
  have hrest : ∀ d ∈ ("/$count".toList).head?, isNameChar d = false := by
    intro d hd
    obtain rfl := Option.some.inj hd
    decide
  rw [ofPath_of_cutName hc hfront hrest hpath, ← hchars, String.ofList_toList]
  rfl

/-- What the path of a record names is up to the key and the parentheses around it. -/
theorem ofPath_record_eq {set : String} (h : ofPath path = collection set) (key : String) :
    ofPath s!"/{set}('{key}')" = ofRest set (('(' :: (s!"'{key}'").toList) ++ [')']) := by
  obtain ⟨c, front, hchars, hc, hfront⟩ := exists_setName h
  have hpath : (s!"/{set}('{key}')").toList =
      '/' :: c :: (front ++ (('(' :: (s!"'{key}'").toList) ++ [')'])) := by
    rw [toList_recordPath, hchars]
    simp
  have hrest : ∀ d ∈ (('(' :: (s!"'{key}'").toList) ++ [')']).head?, isNameChar d = false := by
    intro d hd
    obtain rfl := Option.some.inj hd
    decide
  rw [ofPath_of_cutName hc hfront hrest hpath, ← hchars, String.ofList_toList]

/-- Quotes around a key are no parentheses. -/
theorem mem_inQuotes_iff {key : String} : ')' ∈ (s!"'{key}'").toList ↔ ')' ∈ key.toList := by
  rw [toList_inQuotes]
  simp

/-- The path of a record whose key has no closing parenthesis. -/
theorem ofPath_record {set key : String} (h : ofPath path = collection set)
    (hkey : ')' ∉ key.toList) : ofPath s!"/{set}('{key}')" = entity set s!"'{key}'" := by
  have hcut : cutKey? ((s!"'{key}'").toList ++ [')']) = some (s!"'{key}'").toList := by
    rw [cutKey?, Text.cut_append (mt mem_inQuotes_iff.1 hkey) []]
    rfl
  rw [ofPath_record_eq h, List.cons_append, ofRest]
  simp only [isEnd, hcut, String.ofList_toList]
  rfl

/-- The path of a record whose key has a closing parenthesis names nothing: the key ends there, in
quotes or not, and the path does not. -/
theorem ofPath_record_of_paren {set key : String} (h : ofPath path = collection set)
    (hkey : ')' ∈ key.toList) : ofPath s!"/{set}('{key}')" = unknown := by
  refine Classical.byContradiction fun hrecord => ?_
  rw [ofPath_record_eq h] at hrecord
  obtain ⟨raw, hraw, hparen, -⟩ := ofRest_of_concat hrecord
  obtain rfl : (s!"'{key}'").toList = raw := (List.cons.inj hraw).2
  exact hparen (mem_inQuotes_iff.2 hkey)

/-- What can be the name of an entity set in a path. -/
def isName : List Char → Bool
  | c :: cs => isNameStart c && cs.all isNameChar
  | [] => false

/-- The path of an entity set. -/
theorem ofPath_set {set : String} (h : isName set.toList = true) :
    ofPath s!"/{set}" = collection set := by
  cases hchars : set.toList with
  | nil => simp [hchars, isName] at h
  | cons c cs =>
    rw [hchars, isName, Bool.and_eq_true, List.all_eq_true] at h
    obtain ⟨hc, hcs⟩ := h
    have hpath : (s!"/{set}").toList = '/' :: c :: (cs ++ []) := by
      rw [toList_setPath, hchars, List.append_nil]
    rw [ofPath_of_cutName hc hcs (by simp) hpath, ← hchars, String.ofList_toList]
    rfl

end Route

/-! ## Keys -/

namespace EntityKey

/-- Only pairs of quotes are read otherwise than they are written. -/
theorem unquote_eq_iff {cs : List Char} : unquote cs = cs ↔ ¬ ['\'', '\''] <:+: cs := by
  -- reading two quotes as one makes the text shorter, and nothing makes it longer
  have hlength (cs : List Char) : (unquote cs).length ≤ cs.length := by
    fun_induction unquote cs with
    | case1 cs ih => simp only [List.length_cons]; omega
    | case2 c cs _ ih => simp only [List.length_cons]; omega
    | case3 => exact Nat.le_refl _
  fun_induction unquote cs with
  | case1 cs ih =>
    refine iff_of_false (fun heq => ?_) (not_not_intro (List.prefix_append _ cs).isInfix)
    have hshort := hlength cs
    have hsame := congrArg List.length heq
    simp only [List.length_cons] at hsame
    omega
  | case2 c cs hpair ih =>
    have hprefix : ¬ ['\'', '\''] <+: c :: cs := by
      rintro ⟨ds, hds⟩
      obtain ⟨rfl, rfl⟩ := List.cons.inj hds
      exact hpair ds rfl rfl
    rw [List.cons.injEq, eq_self, true_and, List.infix_cons_iff, or_iff_right hprefix]
    exact ih
  | case3 => simp

theorem unquote_eq {cs : List Char} (h : '\'' ∉ cs) : unquote cs = cs :=
  unquote_eq_iff.2 fun hpair => h (hpair.subset (.head _))

/-- Something is left of a key that is not empty. -/
theorem unquote_ne_nil {cs : List Char} (h : cs ≠ []) : unquote cs ≠ [] := by
  fun_cases unquote cs with
  | case1 cs => simp
  | case2 c cs hpair => simp
  | case3 => exact absurd rfl h

/-- A key in quotes denotes what stands between them, with one quote for each pair of quotes. -/
theorem ofChars_inQuotes (key : String) : ofChars (s!"'{key}'").toList = unquote key.toList := by
  have hchars := toList_inQuotes key
  -- the quotes are no white space
  have htrim : Text.trim (s!"'{key}'").toList = (s!"'{key}'").toList := by
    rw [hchars]
    exact Text.trim_eq ⟨'\'', key.toList ++ ['\''], rfl, by decide⟩
      ⟨'\'' :: key.toList, '\'', rfl, by decide⟩
  have hinner : inner? (s!"'{key}'").toList = some key.toList := by
    rw [hchars, inner?, List.getLast?_concat, if_pos rfl, List.dropLast_concat]
  rw [ofChars, htrim, hinner]

/-- The key that a text denotes between quotes. -/
def denoted (key : String) : String := String.ofList (unquote key.toList)

theorem denoted_eq_iff {key : String} : denoted key = key ↔ ¬ ['\'', '\''] <:+: key.toList := by
  rw [← unquote_eq_iff, ← String.toList_inj, denoted, String.toList_ofList]

/-- A key in quotes is read as what it denotes. -/
theorem parse_inQuotes {key : String} (h : key ≠ "") :
    EntityKey.parse s!"'{key}'" = .ok (denoted key) := by
  have hne : unquote key.toList ≠ [] := unquote_ne_nil (mt String.toList_eq_nil_iff.1 h)
  unfold parse
  rw [ofChars_inQuotes]
  split
  · next hnil => exact absurd hnil hne
  · rfl

/-- A key in quotes denotes what stands between them, unless there are quotes in it. -/
theorem parse_quoted {key parsed : String} (hquote : '\'' ∉ key.toList)
    (h : EntityKey.parse s!"'{key}'" = .ok parsed) : parsed = key := by
  have hkey : ofChars (s!"'{key}'").toList = key.toList := by
    rw [ofChars_inQuotes, unquote_eq hquote]
  unfold parse at h
  rw [hkey] at h
  split at h
  · exact absurd h (by simp)
  · rw [← Except.ok.inj h, String.ofList_toList]

/-! ### Writing keys -/

/-- One character of a key between quotes: a quote stands twice. -/
def doubledChar (c : Char) : List Char := if c = '\'' then ['\'', '\''] else [c]

/-- A key as it is written between quotes. -/
def doubled (key : String) : String := String.ofList (key.toList.flatMap doubledChar)

/-- The quotes of a key are doubled one after the other. -/
theorem toList_doubled (key : String) :
    (doubled key).toList = key.toList.flatMap doubledChar := by
  rw [doubled, String.toList_ofList]

/-- A doubled character is read as the character. -/
theorem unquote_doubledChar_append (c : Char) (cs : List Char) :
    unquote (doubledChar c ++ cs) = c :: unquote cs := by
  unfold doubledChar
  split
  · next hc =>
    rw [hc]
    rfl
  · next hc =>
    rw [List.singleton_append, unquote]
    rintro _ rfl -
    exact hc rfl

/-- A doubled text is read as the text. -/
theorem unquote_flatMap_doubledChar (cs : List Char) : unquote (cs.flatMap doubledChar) = cs := by
  induction cs with
  | nil => rfl
  | cons c cs ih => rw [List.flatMap_cons, unquote_doubledChar_append, ih]

/-- A key is read as it was written. -/
theorem denoted_doubled (key : String) : denoted (doubled key) = key := by
  rw [denoted, toList_doubled, unquote_flatMap_doubledChar, String.ofList_toList]

/-- A key has the same characters however it is written. -/
theorem mem_doubled_iff {c : Char} {key : String} : c ∈ (doubled key).toList ↔ c ∈ key.toList := by
  have hchar (d : Char) : c ∈ doubledChar d ↔ c = d := by
    unfold doubledChar
    split
    · next hd => simp [hd]
    · simp
  rw [toList_doubled, List.mem_flatMap]
  simp only [hchar, exists_eq_right']

/-- A key that is not empty stays so. -/
theorem doubled_ne_empty {key : String} (h : key ≠ "") : doubled key ≠ "" := by
  intro hempty
  refine h ?_
  rw [← denoted_doubled key, hempty]
  rfl

end EntityKey

end ODataService
