import ODataService.Proofs.EntityTag.Tags

/-!
# Tags that are sent back

A client sends the tag of a record back in a header, alone or among other
tags. The header is split at every comma, also at one inside of a tag, so the
tag is found in it exactly if it has no comma (`EntityTag.echo_found_iff`).
The tags of times and of hashes have none, the tag of an identifier has those
of the identifier.
-/

namespace ODataService.EntityTag

variable {r : Record} {content : String}

/-! ## Commas in tags -/

theorem comma_mem_weak : ',' ∈ (weak content).toList ↔ ',' ∈ content.toList := by
  simp [toList_weak]

/-- No number is written with a comma. -/
theorem comma_not_mem_intText (n : Int) : ',' ∉ (toString n).toList := by
  intro hMem
  rcases Text.mem_intText hMem with hMinus | hDigit
  · exact absurd hMinus (by decide)
  · exact absurd hDigit (by decide)

theorem comma_ne_base36Digit : ∀ n < 36, base36Digit n ≠ ',' := by
  decide

/-- No number is written with a comma in base 36. -/
theorem comma_not_mem_base36Digits (n : Nat) : ',' ∉ base36Digits n := by
  fun_induction base36Digits n with
  | case1 => exact List.not_mem_nil
  | case2 n hn ih =>
    rw [List.mem_append, List.mem_singleton, not_or]
    exact ⟨ih, Ne.symm (comma_ne_base36Digit _ (Nat.mod_lt n (by decide)))⟩

/-- No hash is written with a comma. -/
theorem comma_not_mem_rollingHash (text : String) : ',' ∉ (rollingHash text).toList := by
  unfold rollingHash base36
  split
  · decide
  · rw [String.toList_ofList]
    exact comma_not_mem_base36Digits _

/-! ## The three kinds of tags -/

/-- The time of a record is finite, if it is a number with a fraction. -/
def HasFiniteTime (r : Record) : Prop :=
  ∀ x, Json.member r timestampField = .real x → ∃ s m e, x = .finite s m e

/-- Whether a header can list the tag of a record: if the tag holds the
identifier of the record, for want of a time, then the identifier is written
without commas. -/
def Listable (r : Record) : Prop :=
  timeMillis (Json.member r timestampField) = .ok none →
    ∀ v, identifier? r = some v → ',' ∉ v.display.toList

/-- The time of a record that is no other number than a finite one can be read. -/
theorem exists_timeMillis (h : HasFiniteTime r) :
    ∃ millis, timeMillis (Json.member r timestampField) = .ok millis := by
  -- one case for each kind of value; only infinities and NaN have no integer part
  unfold timeMillis
  split
  · exact ⟨_, rfl⟩
  · next hNan =>
    obtain ⟨s, m, e, hFinite⟩ := h _ hNan
    cases hFinite
  · next hInfinite =>
    obtain ⟨s, m, e, hFinite⟩ := h _ hInfinite
    cases hFinite
  · exact ⟨_, rfl⟩
  · split
    · exact ⟨_, rfl⟩
    · exact ⟨_, rfl⟩
  · exact ⟨_, rfl⟩

/-- The tag of the identity is weak, and has a comma if the identifier has one. -/
theorem ofIdentity_eq_weak (r : Record) : ∃ content, ofIdentity r = weak content ∧
    (',' ∈ content.toList ↔ ∃ v, identifier? r = some v ∧ ',' ∈ v.display.toList) := by
  unfold ofIdentity
  split
  · next v hv =>
    refine ⟨v.display, rfl, fun hComma => ⟨v, hv, hComma⟩, ?_⟩
    rintro ⟨v', hv', hComma⟩
    rw [hv] at hv'
    rw [Option.some.inj hv']
    exact hComma
  -- without an identifier the tag is a hash
  · next hNone =>
    refine ⟨_, rfl, fun hComma => absurd hComma (comma_not_mem_rollingHash _), ?_⟩
    rintro ⟨v, hv, -⟩
    rw [hNone] at hv
    cases hv

/-- A record with a finite time, or none, has a tag. -/
theorem ofRecord_eq_weak (h : HasFiniteTime r) : ∃ content, ofRecord r = .ok (weak content) ∧
    (',' ∈ content.toList ↔ ¬ Listable r) := by
  obtain ⟨millis, hMillis⟩ := exists_timeMillis h
  have hTag : ofRecord r = .ok (ofTime millis r) := by
    rw [ofRecord, hMillis]
    rfl
  -- a record with a time has its number as a tag, one without that of its identity
  cases millis with
  | some n =>
    refine ⟨toString n, hTag, fun hComma => absurd hComma (comma_not_mem_intText n), fun hNot => ?_⟩
    refine absurd (fun hNone => ?_) hNot
    rw [hMillis] at hNone
    cases hNone
  | none =>
    obtain ⟨content, hContent, hComma⟩ := ofIdentity_eq_weak r
    refine ⟨content, hTag.trans (congrArg Except.ok hContent), ?_⟩
    rw [hComma, Listable]
    simp [hMillis]

/-! ## Headers -/

/-- A header of several tags lists what each of them lists. -/
theorem listedTags?_joinWith {tags : List String} (h : weak content ∈ tags) {blanks : String}
    (hBlanks : Text.isBlankText blanks = true) :
    listedTags? (some (Text.joinWith ("," ++ blanks) tags)) =
      some (tags.flatMap Text.commaList) := by
  -- the tag has a letter in it, so the header is not blank
  have hBlank : ¬ Text.isBlankText (Text.joinWith ("," ++ blanks) tags) = true := by
    intro hAll
    have hW : 'W' ∈ (Text.joinWith ("," ++ blanks) tags).toList :=
      Text.mem_joinWith h (by rw [toList_weak]; exact .head _)
    exact absurd (List.all_eq_true.mp hAll 'W' hW) (by decide)
  show (if _ then none else some (Text.commaList _)) = _
  rw [if_neg hBlank, Text.commaList_joinWith hBlanks]

/-- A tag among others is listed if it has no comma. -/
theorem weak_mem_flatMap_commaList {tags : List String} (h : weak content ∈ tags) :
    weak content ∈ tags.flatMap Text.commaList ↔ ',' ∉ content.toList := by
  rw [← comma_mem_weak, List.mem_flatMap]
  constructor
  -- what is listed has no comma in it
  · rintro ⟨t, -, hListed⟩
    exact Text.not_comma_of_mem_commaList hListed
  -- without a comma the tag is left whole
  · intro hComma
    refine ⟨weak content, h, ?_⟩
    rw [Text.commaList_single (startsSolid_weak content) (endsSolid_weak content) hComma]
    exact .head _

/-- Whether a header of the given tags, the record's own among them, is found
to name the record: its tag can be listed, or a star stands in for it. -/
def Echoed (r : Record) (tags : List String) : Prop :=
  Listable r ∨ ∃ other ∈ tags, "*" ∈ Text.commaList other

/-- The list names the tag just when it is an echo of it. -/
theorem names_echo_iff {tags : List String} (h : weak content ∈ tags)
    (hComma : ',' ∈ content.toList ↔ ¬ Listable r) :
    names (tags.flatMap Text.commaList) (weak content) = true ↔ Echoed r tags := by
  rw [names_iff, weak_mem_flatMap_commaList h, hComma, not_not, List.mem_flatMap, Echoed, or_comm]

/-- A tag is required just when it satisfies the header. -/
theorem require_eq_ok_iff {tag : String} {header : Option String} :
    require tag header = .ok () ↔ satisfies tag header = true := by
  unfold require
  split <;> simp_all

/-- A record whose time is not infinite has a tag. Sent back in a header, among
any other tags, it is found exactly if it can be listed or a star is listed:
then the condition lets a write through and spares a read. -/
theorem echo_found_iff (h : HasFiniteTime r) :
    ∃ tag, ofRecord r = .ok tag ∧
      (∀ tags : List String, tag ∈ tags → ∀ blanks, Text.isBlankText blanks = true →
        let header := some (Text.joinWith ("," ++ blanks) tags)
        (satisfies tag header = true ↔ Echoed r tags) ∧
        (isNotModified tag header = true ↔ Echoed r tags)) ∧
      (require tag (some tag) = .ok () ↔ Echoed r [tag]) ∧
      (isNotModified tag (some tag) = true ↔ Echoed r [tag]) := by
  obtain ⟨content, hTag, hComma⟩ := ofRecord_eq_weak h
  have hAmong : ∀ tags : List String, weak content ∈ tags →
      ∀ blanks, Text.isBlankText blanks = true →
      let header := some (Text.joinWith ("," ++ blanks) tags)
      (satisfies (weak content) header = true ↔ Echoed r tags) ∧
      (isNotModified (weak content) header = true ↔ Echoed r tags) := by
    intro tags hMem blanks hBlanks
    dsimp only
    rw [satisfies, isNotModified, listedTags?_joinWith hMem hBlanks]
    exact ⟨names_echo_iff hMem hComma, names_echo_iff hMem hComma⟩
  -- a tag alone is a list of one tag
  obtain ⟨hSatisfies, hNotModified⟩ := hAmong [weak content] (.head _) "" rfl
  rw [Text.joinWith, String.intercalate_singleton] at hSatisfies hNotModified
  exact ⟨weak content, hTag, hAmong, require_eq_ok_iff.trans hSatisfies, hNotModified⟩

/-- The tag of an identifier with a comma is not found when it is sent back. -/
theorem echo_found_iff_comma :
    let r : Record := [("_id", .str "a,b")]
    HasFiniteTime r ∧ ofRecord r = .ok "W/\"a,b\"" ∧
      require "W/\"a,b\"" (some "W/\"a,b\"") ≠ .ok () ∧
      isNotModified "W/\"a,b\"" (some "W/\"a,b\"") = false := by
  intro r
  have hTime : HasFiniteTime r := by
    intro x hx
    cases hx
  have hTag : ofRecord r = .ok "W/\"a,b\"" := by rfl
  obtain ⟨tag, hTag', -, hRequire, hNotModified⟩ := echo_found_iff hTime
  obtain rfl : "W/\"a,b\"" = tag := Except.ok.inj (hTag.symm.trans hTag')
  -- the identifier has a comma, and no tag in the header is a star
  have hLost : ¬ Echoed r ["W/\"a,b\""] := by
    rintro (hListable | ⟨other, hOther, hStar⟩)
    · exact absurd (hListable rfl (.str "a,b") rfl) (by decide)
    · rw [List.mem_singleton.mp hOther] at hStar
      exact absurd hStar (by decide)
  exact ⟨hTime, hTag, fun hOk => hLost (hRequire.mp hOk),
    Bool.eq_false_iff.mpr fun hFound => hLost (hNotModified.mp hFound)⟩

end ODataService.EntityTag
