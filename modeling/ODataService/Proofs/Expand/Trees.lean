import ODataService.Proofs.Expand.Writing

/-!
# Trees of `$expand` entries

What is expanded in the records of an entry is again an `$expand` text, so the entries of a text are
the top of a tree. `readTrees` reads all of it. It comes to an end for every text, since what is
nested in an entry is shorter than the text that the entry was read from (`length_nested_lt`).

Trees that a client writes are read back as they were, at every depth (`readTrees_write`). What
carries this through the levels is that a written entry stands alone between semicolons too
(`Entry.standsAlone_text`), so that a list of entries may be the value of an option.
-/

namespace ODataService.Expand

/-- An entry and what is to be expanded in its records. -/
inductive Tree where
  | node (entry : Entry) (children : List Tree)

/-- The entry at the root. -/
def Tree.entry : Tree → Entry
  | node e _ => e

/-! ## Reading -/

/-- What is nested in an entry is shorter than the text that the entry was read from: it is the
value of one of the options. -/
theorem length_nested_lt {raw nested : String} {es : List Entry} (h : parse raw = .ok es)
    {e : Entry} (he : e ∈ es) (hnested : e.nested? = some nested) :
    nested.length < raw.length := by
  obtain ⟨parts, hparts, h⟩ := bind_eq_ok.1 (mapError_eq_ok.1 h)
  obtain ⟨part, hpart, hread⟩ := exists_of_mapM_eq_ok h he
  obtain ⟨hget, -⟩ := Option.filter_eq_some_iff.1 hnested
  -- the nested text is part of its option, that of the entry, and the entry of the text
  have hentry := length_text_le_part hread (Assoc.mem_of_get? hget)
  have hraw := length_le_of_mem_nonBlankParts (by decide) hparts hpart
  rw [length_text_single, length_optionText] at hentry
  dsimp only at hentry
  omega

/-- Reads an `$expand` text together with all texts that are nested in it. -/
def readTrees (text : String) : Except Rejection (List Tree) :=
  match _hread : parse text with
  | .error r => .error r
  | .ok es => es.attach.mapM fun e =>
    match _hnested : e.1.nested? with
    | none => .ok (.node e.1 [])
    | some nested => (readTrees nested).map (.node e.1)
termination_by text.length
decreasing_by exact length_nested_lt _hread e.2 _hnested

/-- Reads what is nested in an entry that was read. -/
def readTree (e : Entry) : Except Rejection Tree :=
  match e.nested? with
  | none => .ok (.node e [])
  | some nested => (readTrees nested).map (.node e)

/-- Reading trees is parsing the entries, then reading each of them. -/
theorem readTrees_eq (text : String) :
    readTrees text = parse text >>= fun es => es.mapM readTree := by
  rw [readTrees]
  split
  next r hread => rw [hread]; rfl
  next es hread =>
    -- each entry carries a proof that it was read, which the reading of what is nested needs
    rw [hread, ok_bind, List.mapM_subtype (g := readTree), List.unattach_attach]
    intro e he
    rw [readTree]
    split
    next hnested => simp [hnested]
    next nested hnested => simp [hnested]

/-! ## Trees that are written -/

/-- A tree as a client writes it: the value of `$expand` is the text of the children, if there are
any, and each other value is one part between semicolons. -/
inductive Tree.Writable : Tree → Prop where
  | node {e : Entry} {children : List Tree}
      (property : IsProperty e.property)
      (keys : (Assoc.keys e.options).Nodup)
      (options : ∀ o ∈ e.options, IsOption o)
      (values : ∀ o ∈ e.options, o.1 ≠ "$expand" → splitTopLevel o.2 ';' = .ok [o.2])
      (nested : Assoc.get? e.options "$expand" =
        if children.isEmpty then none else some (write (children.map Tree.entry)))
      (below : ∀ t ∈ children, t.Writable) : Writable (.node e children)

/-- Written entries stand alone between semicolons. -/
theorem standsAlone_write {es : List Entry} (h : ∀ e ∈ es, e.Readable) :
    StandsAlone ';' (write es).toList := by
  rw [write, Text.joinWith, String.toList_intercalate]
  refine Nesting.cross?_intercalate (by decide) fun p hp => ?_
  rw [List.map_map] at hp
  obtain ⟨e, he, rfl⟩ := List.mem_map.1 hp
  exact Entry.standsAlone_text (h e he) (by decide)

/-- Written entries are not the empty text. -/
theorem write_ne_empty {es : List Entry} (h : ∀ e ∈ es, e.Readable) (hne : es ≠ []) :
    write es ≠ "" := by
  intro hempty
  -- an empty text is read as no entries
  have hread := parse_write_entries h
  rw [hempty] at hread
  exact hne (Except.ok.inj hread).symm

/-- The entries of a tree are read back as they are written: the induction is on the tree, since the
value of `$expand` is as good as the children are. -/
theorem Tree.Writable.readable {t : Tree} (h : t.Writable) : t.entry.Readable := by
  induction h with
  | @node e children hproperty hkeys hoptions hvalues hnested hbelow ih =>
    refine ⟨hproperty, hkeys, hoptions, fun o ho => ?_⟩
    -- the nested text is written from readable entries, the other values split as one
    by_cases hname : o.1 = "$expand"
    · have hget : Assoc.get? e.options "$expand" = some o.2 :=
        Assoc.get?_of_mem hkeys (hname ▸ ho)
      rw [hnested] at hget
      split at hget
      · simp at hget
      · obtain hwrite := Option.some.inj hget
        rw [← hwrite]
        refine standsAlone_write fun d hd => ?_
        obtain ⟨t, ht, rfl⟩ := List.mem_map.1 hd
        exact ih t ht
    · exact (splitTopLevel_singleton_iff (by decide)).1 (hvalues o ho hname)

/-- The entries of writable trees are readable. -/
theorem readable_entries {ts : List Tree} (h : ∀ t ∈ ts, t.Writable) :
    ∀ e ∈ ts.map Tree.entry, e.Readable := by
  intro e he
  obtain ⟨t, ht, rfl⟩ := List.mem_map.1 he
  exact (h t ht).readable

/-- What is read again of written entries is what is nested in each of them. -/
theorem readTrees_of_readTree {ts : List Tree} (h : ∀ t ∈ ts, t.Writable)
    (hread : ∀ t ∈ ts, readTree t.entry = .ok t) :
    readTrees (write (ts.map Tree.entry)) = .ok ts := by
  have hroots : (ts.map Tree.entry).mapM readTree = .ok (ts.map id) := mapM_map_ok hread
  rw [readTrees_eq, parse_write_entries (readable_entries h), ok_bind, hroots, List.map_id]

/-- A tree is rebuilt from its entry. -/
theorem Tree.Writable.readTree_entry {t : Tree} (h : t.Writable) : readTree t.entry = .ok t := by
  induction h with
  | @node e children hproperty hkeys hoptions hvalues hnested hbelow ih =>
    show readTree e = _
    cases children with
    -- without children no nested text is there to read
    | nil =>
      have hnone : e.nested? = none := by
        rw [Entry.nested?, hnested]
        rfl
      rw [readTree, hnone]
    -- with some the nested text is what they are written as, and it is not empty
    | cons t ts =>
      have hchildren := readTrees_of_readTree hbelow ih
      have hne := write_ne_empty (readable_entries hbelow) (by simp)
      have hsome : e.nested? = some (write ((t :: ts).map Tree.entry)) := by
        rw [Entry.nested?, hnested]
        exact Option.filter_eq_some_iff.2 ⟨rfl, bne_iff_ne.2 hne⟩
      rw [readTree, hsome]
      show (readTrees (write ((t :: ts).map Tree.entry))).map (Tree.node e) = _
      rw [hchildren]
      rfl

/-- Trees are read back as they are written: the text gives their entries, with all options in
order, and the texts that are nested give the rest. -/
theorem readTrees_write {ts : List Tree} (h : ∀ t ∈ ts, t.Writable) :
    parse (write (ts.map Tree.entry)) = .ok (ts.map Tree.entry) ∧
      readTrees (write (ts.map Tree.entry)) = .ok ts :=
  ⟨parse_write_entries (readable_entries h),
    readTrees_of_readTree h fun t ht => (h t ht).readTree_entry⟩

/-- Orders with their items and their owner, under a filter with a semicolon, a comma and a
parenthesis in a string. -/
def ordersTree : Tree :=
  .node
    ⟨"orders", [("$top", "5"), ("$expand", "items($filter=name eq 'a;b,(c'),owner"), ("$skip", "")]⟩
    [.node ⟨"items", [("$filter", "name eq 'a;b,(c'")]⟩ [], .node ⟨"owner", []⟩ []]

/-- The tree of orders with their items and owner is writable. -/
theorem writable_ordersTree : ordersTree.Writable := by
  have hchildren : ∀ t ∈ [Tree.node ⟨"items", [("$filter", "name eq 'a;b,(c'")]⟩ [],
      Tree.node ⟨"owner", []⟩ []], t.Writable := by
    simp only [List.forall_mem_cons, List.not_mem_nil, false_imp_iff, implies_true, and_true]
    constructor <;>
      exact .node (by decide +kernel) (by decide +kernel) (by decide +kernel) (by decide +kernel)
        rfl (by simp)
  exact .node (by decide +kernel) (by decide +kernel) (by decide +kernel) (by decide +kernel)
    (by decide +kernel) hchildren

/-- The orders are written, parsed and read back with their items and owner. -/
theorem readTrees_orders :
    write ([ordersTree].map Tree.entry) =
        "orders($top=5;$expand=items($filter=name eq 'a;b,(c'),owner;$skip=)" ∧
      (∀ t ∈ [ordersTree], t.Writable) ∧
      parse (write ([ordersTree].map Tree.entry)) = .ok ([ordersTree].map Tree.entry) ∧
      readTrees (write ([ordersTree].map Tree.entry)) = .ok [ordersTree] := by
  have h : ∀ t ∈ [ordersTree], t.Writable := by
    simpa using writable_ordersTree
  exact ⟨by decide +kernel, h, readTrees_write h⟩

end ODataService.Expand
