import Mathlib.Data.List.Basic
import PluginHost.Proofs.Toml.Assembly
import PluginHost.Proofs.Toml.Lines

/-! # Written documents read back

    A document says what its sections say, line by line.  The lines of one
    value at a key put the value's item under this key, and leave all other
    keys alone (`Value.Lands`); the induction over the value goes through
    (`lands_and_fills`) on the lines with the path left out, since lines under a path act
    on the table at the path (`Draft.run_under`).

    Main theorem (`readDocument_documentText`): the text of a document is read
    as the items of its values, in the order of their keys. -/

namespace PluginHost.Toml

/-! ## Values in sections -/

/-- A value has sections as a table or as an array of tables, or it stands
    after its key. -/
@[elab_as_elim]
theorem Value.bySections {motive : Value → Prop} (table : ∀ entries, motive (.table entries))
    (elements : ∀ items, (Value.array items).isTableArray = true → motive (.array items))
    (inline : ∀ v : Value, v.isNested = false → motive v) (v : Value) : motive v := by
  cases hnested : v.isNested with
  | false => exact inline v hnested
  | true =>
    cases v with
    | table entries => exact table entries
    | array items => exact elements items (by simpa [isNested, table?] using hnested)
    | string s => cases hnested
    | integer n => cases hnested
    | float x => cases hnested
    | boolean b => cases hnested
    | datetime d => cases hnested

/-- Has a table a header line? -/
def hasHeader (entries : Entries Value) : Bool :=
  !(ownValues entries).isEmpty || needsHeader entries (.table [])

/-- An item that stands for one element of an array of tables. -/
def Item.asElement : Item → Item
  | .table _ entries => .table .defined entries
  | item => item

namespace Value

/-- A value as it stands in a document, where its tables have sections. -/
def sectionItem : Value → Item
  | .table entries =>
    .table (if hasHeader entries then .defined else .implied)
      (entries.map fun e => (e.1, e.2.sectionItem))
  | .array items =>
    if (Value.array items).isTableArray then
      .array true (items.map fun v => v.sectionItem.asElement)
    else (Value.array items).item
  | .string s => (Value.string s).item
  | .integer n => (Value.integer n).item
  | .float x => (Value.float x).item
  | .boolean b => (Value.boolean b).item
  | .datetime d => (Value.datetime d).item
termination_by v => sizeOf v
decreasing_by
  · have hlt := sizeOf_snd_lt ‹_ ∈ entries›
    simp only [table.sizeOf_spec]
    omega
  · have hlt := List.sizeOf_lt_of_mem ‹_ ∈ items›
    simp only [array.sizeOf_spec]
    omega

/-- A value that has no section stands after its key. -/
theorem sectionItem_of_inline {v : Value} (h : v.isNested = false) : v.sectionItem = v.item := by
  cases v with
  | table entries => cases h
  | array items =>
    have hflat : ¬(Value.array items).isTableArray = true := by
      rw [isNested, Bool.or_eq_false_iff] at h
      simp [h.2]
    rw [sectionItem, if_neg hflat]
  | string s => rw [sectionItem]
  | integer n => rw [sectionItem]
  | float x => rw [sectionItem]
  | boolean b => rw [sectionItem]
  | datetime d => rw [sectionItem]

theorem sectionItem_elements {items : List Value} (h : (Value.array items).isTableArray = true) :
    (Value.array items).sectionItem =
      .array true (items.map fun v => v.sectionItem.asElement) := by
  rw [sectionItem, if_pos h]

theorem ofItem_asElement (item : Item) : Value.ofItem item.asElement = Value.ofItem item := by
  cases item with
  | table origin entries => cases entries <;> simp [Item.asElement, Value.ofItem]
  | scalar s => rfl
  | array growing items => rfl

theorem ofItem_sectionItem {v : Value} (hplain : v.Plain) (hkeys : v.Unreserved) :
    Value.ofItem v.sectionItem = .ok v := by
  induction v using byParts with
  | h v ih =>
    cases v using bySections with
    | table entries =>
      rw [sectionItem]
      exact ofItem_table _ hkeys.here fun e he =>
        ih e.2 (List.mem_map_of_mem he) (hplain.entry he) (hkeys.entry he)
    | elements items htables =>
      rw [sectionItem_elements htables]
      refine ofItem_array true fun w hw => ?_
      rw [ofItem_asElement]
      exact ih w hw (hplain.item hw) (hkeys.item hw)
    | inline v hflat =>
      rw [sectionItem_of_inline hflat]
      exact ofItem_item hplain hkeys

end Value

/-! ## What sections say -/

/-- What the lines of a value at a path say. -/
def Value.statements (path : List String) (v : Value) : List Statement :=
  (v.sections path).flatMap Section.statements

/-- What the lines of the tables and arrays of tables within a table say. -/
def nestedStatements (path : List String) (entries : Entries Value) : List Statement :=
  entries.flatMap fun e => e.2.statements (path ++ [e.1])

/-- What the lines of the plain values of a table say. -/
def ownStatements (entries : Entries Value) : List Statement :=
  (ownValues entries).map fun e => .assignment ⟨[], e.1⟩ e.2.item

/-- What the lines of a table say, but for its header. -/
def tableStatements (path : List String) (entries : Entries Value) : List Statement :=
  ownStatements entries ++ nestedStatements path entries

theorem entriesSections_flatMap (path : List String) (entries : Entries Value) :
    (entriesSections path entries).flatMap Section.statements = nestedStatements path entries := by
  induction entries with
  | nil => rfl
  | cons e rest ih =>
    obtain ⟨key, v⟩ := e
    rw [entriesSections, List.flatMap_append, ih]
    rfl

theorem ownSection_table (path : List String) (entries : Entries Value) :
    ownSection (.table path) entries =
      if hasHeader entries then [⟨.table path, ownValues entries⟩] else [] := by
  have hcondition : ((ownValues entries).isEmpty && !needsHeader entries (.table path)) =
      !hasHeader entries := by
    rw [hasHeader, Bool.not_or, Bool.not_not]
    rfl
  simp only [ownSection, hcondition]
  cases hasHeader entries <;> rfl

/-- A table without a header has no plain values. -/
theorem ownStatements_eq_nil {entries : Entries Value} (h : ¬hasHeader entries = true) :
    ownStatements entries = [] := by
  simp only [hasHeader, Bool.or_eq_true, Bool.not_eq_true', not_or, Bool.not_eq_false,
    List.isEmpty_iff] at h
  rw [ownStatements, h.1, List.map_nil]

/-- A table has a header, or it says nothing but what its tables say. -/
theorem statements_table (path : List String) (entries : Entries Value) :
    (Value.table entries).statements path =
      (if hasHeader entries then [.tableHeader (.ofKeys path)] else []) ++
        tableStatements path entries := by
  rw [Value.statements, Value.sections, List.flatMap_append, entriesSections_flatMap,
    tableStatements, ← List.append_assoc, ownSection_table]
  congr 1
  by_cases hheader : hasHeader entries = true
  · rw [if_pos hheader, if_pos hheader]
    simp [Section.statements, Header.statements, ownStatements]
  · rw [if_neg hheader, if_neg hheader, ownStatements_eq_nil hheader]
    rfl

/-- What the lines of an element of an array of tables say. -/
def elementStatements (path : List String) : Value → List Statement
  | .table entries => .elementHeader (.ofKeys path) :: tableStatements path entries
  | _ => []

theorem elementsSections_flatMap (path : List String) (items : List Value) :
    (elementsSections path items).flatMap Section.statements =
      items.flatMap (elementStatements path) := by
  induction items with
  | nil => rfl
  | cons v rest ih =>
    rw [List.flatMap_cons, ← ih]
    cases v with
    | table entries =>
      have hopen : ownSection (.element path) entries =
          [⟨.element path, ownValues entries⟩] := by
        simp [ownSection, needsHeader]
      rw [elementsSections, List.flatMap_append, List.flatMap_append, entriesSections_flatMap, hopen]
      simp [Section.statements, Header.statements, ownStatements, elementStatements,
        tableStatements]
    | string s => rfl
    | integer n => rfl
    | float x => rfl
    | boolean b => rfl
    | datetime d => rfl
    | array items => rfl

/-- An array of tables says what its elements say. -/
theorem statements_elements (path : List String) {items : List Value}
    (h : (Value.array items).isTableArray = true) :
    (Value.array items).statements path = items.flatMap (elementStatements path) := by
  rw [Value.statements, Value.sections, if_pos h, elementsSections_flatMap]

/-- A value that stands after its key has no sections. -/
theorem sections_of_inline (path : List String) {v : Value} (h : v.isNested = false) :
    v.sections path = [] := by
  cases v with
  | table entries => cases h
  | array items =>
    have hflat : ¬(Value.array items).isTableArray = true := by
      rw [Value.isNested, Bool.or_eq_false_iff] at h
      simp [h.2]
    rw [Value.sections, if_neg hflat]
  | string s => rfl
  | integer n => rfl
  | float x => rfl
  | boolean b => rfl
  | datetime d => rfl

theorem elementStatements_of_inline (path : List String) {v : Value} (h : v.isNested = false) :
    elementStatements path v = [] := by
  cases v with
  | table entries => cases h
  | array items => rfl
  | string s => rfl
  | integer n => rfl
  | float x => rfl
  | boolean b => rfl
  | datetime d => rfl

theorem statements_of_inline (path : List String) {v : Value} (h : v.isNested = false) :
    v.statements path = [] := by
  rw [Value.statements, sections_of_inline path h, List.flatMap_nil]

/-! ## Paths left out -/

theorem ofKeys_singleton (key : String) : KeyPath.ofKeys [key] = ⟨[], key⟩ := rfl

theorem ofKeys_cons {path : List String} (h : path ≠ []) (key : String) :
    KeyPath.ofKeys (key :: path) =
      ⟨key :: (KeyPath.ofKeys path).parents, (KeyPath.ofKeys path).last⟩ := by
  obtain ⟨k, keys, rfl⟩ := List.exists_cons_of_ne_nil h
  simp [KeyPath.ofKeys]

theorem ownStatements_under (key : String) (entries : Entries Value) :
    (ownStatements entries).map (·.under key) = ownStatements entries := by
  simp [ownStatements, Statement.under]

theorem tableStatements_under {key : String} {path : List String} {entries : Entries Value}
    (h : ∀ e ∈ entries, e.2.statements (key :: path ++ [e.1]) =
      (e.2.statements (path ++ [e.1])).map (·.under key)) :
    tableStatements (key :: path) entries = (tableStatements path entries).map (·.under key) := by
  rw [tableStatements, tableStatements, List.map_append, ownStatements_under, nestedStatements,
    nestedStatements, List.map_flatMap]
  congr 1
  exact List.flatMap_congr h

/-- The lines of a value under a path are those of the value, said of the table
    under the first key; and so are the lines of an element. -/
theorem statements_under_aux (key : String) (v : Value) {path : List String} (h : path ≠ []) :
    v.statements (key :: path) = (v.statements path).map (·.under key) ∧
      elementStatements (key :: path) v = (elementStatements path v).map (·.under key) := by
  -- Both at once: an array of tables needs the second of its items, and an
  -- item the first of its own values.
  induction v using Value.byParts generalizing path with
  | h v ih =>
    cases v using Value.bySections with
    | table entries =>
      have htable : tableStatements (key :: path) entries =
          (tableStatements path entries).map (·.under key) :=
        tableStatements_under fun e he => (ih e.2 (List.mem_map_of_mem he) (by simp)).1
      constructor
      · rw [statements_table, statements_table, htable, ofKeys_cons h]
        cases hasHeader entries <;> rfl
      · rw [elementStatements, elementStatements, htable, ofKeys_cons h]
        rfl
    | elements items htables =>
      refine ⟨?_, rfl⟩
      rw [statements_elements _ htables, statements_elements _ htables, List.map_flatMap]
      exact List.flatMap_congr fun w hw => (ih w hw h).2
    | inline v hflat =>
      rw [statements_of_inline _ hflat, statements_of_inline _ hflat,
        elementStatements_of_inline _ hflat, elementStatements_of_inline _ hflat]
      exact ⟨rfl, rfl⟩

theorem statements_under {path : List String} (h : path ≠ []) (key : String) (v : Value) :
    v.statements (key :: path) = (v.statements path).map (·.under key) :=
  (statements_under_aux key v h).1

/-! ## One level at a time -/

section

variable {t : Table Item} {path : List String} {entries : Entries Value} {key : String}

/-- The lines of a value at a key put its item there. -/
def Value.Lands (v : Value) : Prop :=
  ∀ (key : String) (t : Table Item) (path : List String), t.get? key = none →
    ∃ path', Draft.run ⟨t.entries, path⟩ (v.statements [key]) =
      some ⟨(t.insert key v.sectionItem).entries, path'⟩

/-- The lines of a table, seen on its own, make up its items. -/
def Fills (entries : Entries Value) : Prop :=
  ∃ path, Draft.run ⟨[], []⟩ (tableStatements [] entries) =
    some ⟨entries.map fun e => (e.1, e.2.sectionItem), path⟩

/-- The entries of a table that have sections of their own. -/
def nestedValues (entries : Entries Value) : Entries Value := entries.filter fun e => e.2.isNested

/-- The item of an entry. -/
def sectionEntry (e : String × Value) : String × Item := (e.1, e.2.sectionItem)

theorem distinct_ownValues (hdistinct : entries.Distinct) :
    Entries.Distinct ((ownValues entries).map sectionEntry) :=
  List.pairwise_map.mpr (List.Pairwise.filter _ hdistinct)

theorem run_ownStatements (hdistinct : entries.Distinct)
    (hnew : ∀ e ∈ entries, t.get? e.1 = none) :
    Draft.run ⟨t.entries, []⟩ (ownStatements entries) =
      some ⟨(t.insertAll ((ownValues entries).map sectionEntry)).entries, []⟩ := by
  have hitems : ownStatements entries =
      ((ownValues entries).map sectionEntry).map fun e => .assignment ⟨[], e.1⟩ e.2 := by
    rw [ownStatements, List.map_map]
    refine List.map_congr_left fun e he => ?_
    have hflat : e.2.isNested = false := by simpa using (List.mem_filter.mp he).2
    simp only [Function.comp_apply, sectionEntry, Value.sectionItem_of_inline hflat]
  rw [hitems]
  refine Draft.run_assignments (distinct_ownValues hdistinct) (List.forall_mem_map.mpr fun e he => ?_)
  exact hnew e (List.mem_filter.mp he).1

theorem run_nestedStatements (path : List String) (hdistinct : entries.Distinct)
    (hnew : ∀ e ∈ entries, e.2.isNested = true → t.get? e.1 = none)
    (hlands : ∀ e ∈ entries, e.2.isNested = true → e.2.Lands) :
    ∃ path', Draft.run ⟨t.entries, path⟩ (nestedStatements [] entries) =
      some ⟨(t.insertAll ((nestedValues entries).map sectionEntry)).entries, path'⟩ := by
  induction entries generalizing t path with
  | nil => exact ⟨path, rfl⟩
  | cons e rest ih =>
    obtain ⟨hfirst, hrest⟩ := List.pairwise_cons.mp hdistinct
    have hlands' : ∀ d ∈ rest, d.2.isNested = true → d.2.Lands :=
      fun d hd => hlands d (List.mem_cons_of_mem e hd)
    rw [nestedStatements, List.flatMap_cons, Draft.run_append]
    by_cases hnested : e.2.isNested = true
    · obtain ⟨path₁, hrun⟩ := hlands e List.mem_cons_self hnested e.1 t path
        (hnew e List.mem_cons_self hnested)
      -- The keys are distinct, so those to come are still free.
      have hnew' : ∀ d ∈ rest, d.2.isNested = true →
          (t.insert e.1 e.2.sectionItem).get? d.1 = none := by
        intro d hd hd'
        rw [Table.get?_insert_ne t _ (hfirst d hd)]
        exact hnew d (List.mem_cons_of_mem e hd) hd'
      obtain ⟨path₂, hlater⟩ := ih path₁ hrest hnew' hlands'
      have htake : nestedValues (e :: rest) = e :: nestedValues rest :=
        List.filter_cons_of_pos hnested
      refine ⟨path₂, ?_⟩
      rw [List.nil_append, hrun, Option.bind_some, htake, List.map_cons, Table.insertAll_cons]
      exact hlater
    · -- A plain value says nothing here: its line stood before all sections.
      have hflat : e.2.isNested = false := by simpa using hnested
      obtain ⟨path₂, hlater⟩ := ih path hrest
        (fun d hd => hnew d (List.mem_cons_of_mem e hd)) hlands'
      have hskip : nestedValues (e :: rest) = nestedValues rest :=
        List.filter_cons_of_neg hnested
      refine ⟨path₂, ?_⟩
      rw [statements_of_inline _ hflat, hskip]
      exact hlater

theorem own_append_nested_perm (entries : Entries Value) :
    (ownValues entries ++ nestedValues entries).Perm entries :=
  List.perm_append_comm.trans
    (List.filter_append_perm (fun e : String × Value => e.2.isNested) entries)

/-- No table of a table has the key of a plain value. -/
theorem get?_ownValues_of_nested (hdistinct : entries.Distinct) {e : String × Value}
    (he : e ∈ entries) (hnested : e.2.isNested = true) :
    (Table.ofList ((ownValues entries).map sectionEntry)).get? e.1 = none := by
  rw [Table.ofList, Table.get?_insertAll_of_distinct (distinct_ownValues hdistinct),
    Table.get?_empty, Option.or_none, Entries.get?_eq_none_iff]
  intro pair hpair heq
  obtain ⟨d, hd, rfl⟩ := List.mem_map.mp hpair
  obtain ⟨hd, hflat⟩ := List.mem_filter.mp hd
  -- Two entries with one key are one entry.
  have hget : entries.get? d.1 = some d.2 := Entries.get?_of_mem hdistinct hd
  have hget' : entries.get? e.1 = some e.2 := Entries.get?_of_mem hdistinct he
  have hkey : d.1 = e.1 := heq
  rw [hkey, hget'] at hget
  rw [← Option.some.inj hget, hnested] at hflat
  cases hflat

/-- The lines of a table make up its items, in the order of keys. -/
theorem run_tableStatements (hdistinct : entries.Distinct)
    (hlands : ∀ e ∈ entries, e.2.isNested = true → e.2.Lands) :
    ∃ (pairs : Entries Item) (path : List String), pairs.Perm (entries.map sectionEntry) ∧
      Draft.run ⟨[], []⟩ (tableStatements [] entries) =
        some ⟨(Table.ofList pairs).entries, path⟩ := by
  have hown : Draft.run ⟨[], []⟩ (ownStatements entries) =
      some ⟨(Table.ofList ((ownValues entries).map sectionEntry)).entries, []⟩ :=
    run_ownStatements (t := Table.empty) hdistinct fun e _ => rfl
  obtain ⟨path, hnested⟩ := run_nestedStatements [] hdistinct
    (fun e he => get?_ownValues_of_nested hdistinct he) hlands
  -- Plain values are written before tables, whatever their keys are.
  refine ⟨(ownValues entries ++ nestedValues entries).map sectionEntry, path,
    (own_append_nested_perm entries).map sectionEntry, ?_⟩
  rw [tableStatements, Draft.run_append, hown, Option.bind_some, hnested, List.map_append,
    Table.ofList, Table.ofList, Table.insertAll_append]

theorem fills_of_ordered (hordered : entries.Ordered)
    (hlands : ∀ e ∈ entries, e.2.isNested = true → e.2.Lands) : Fills entries := by
  obtain ⟨pairs, path, hperm, hrun⟩ := run_tableStatements hordered.distinct hlands
  refine ⟨path, ?_⟩
  rw [hrun, Table.entries_ofList (hordered.map Value.sectionItem) hperm]

/-! ## Tables and arrays of tables -/

theorem isTableArray_iff {items : List Value} :
    (Value.array items).isTableArray = true ↔
      items ≠ [] ∧ ∀ v ∈ items, ∃ entries, v = .table entries := by
  have htable : ∀ v : Value, v.table?.isSome = true ↔ ∃ entries, v = .table entries := by
    intro v
    cases v <;> simp [Value.table?]
  simp [Value.isTableArray, htable]

/-- A table without a header has tables, and they come first. -/
theorem exists_nested_of_not_hasHeader (h : ¬hasHeader entries = true) :
    ∃ e rest, entries = e :: rest ∧ e.2.isNested = true := by
  cases entries with
  | nil => exact absurd rfl h
  | cons e rest =>
    refine ⟨e, rest, rfl, ?_⟩
    simp only [hasHeader, Bool.or_eq_true, Bool.not_eq_true', not_or, Bool.not_eq_false,
      List.isEmpty_iff, ownValues, List.filter_eq_nil_iff] at h
    simpa using h.1 e List.mem_cons_self

/-- The first line of a value with sections is a header. -/
theorem statements_head {v : Value} (h : v.isNested = true) (path : List String) :
    ∃ s rest, v.statements path = s :: rest ∧ s.isHeader = true := by
  induction v using Value.byParts generalizing path with
  | h v ih =>
    cases v using Value.bySections with
    | table entries =>
      rw [statements_table]
      by_cases hheader : hasHeader entries = true
      · rw [if_pos hheader]
        exact ⟨_, _, rfl, rfl⟩
      · -- Without a header the lines of its first table come first.
        obtain ⟨e, rest, rfl, hnested⟩ := exists_nested_of_not_hasHeader hheader
        have he : e.2 ∈ (Value.table (e :: rest)).parts := List.mem_cons_self
        obtain ⟨s, more, hfirst, hs⟩ := ih e.2 he hnested (path ++ [e.1])
        rw [if_neg hheader, tableStatements, ownStatements_eq_nil hheader, nestedStatements,
          List.flatMap_cons, hfirst]
        exact ⟨s, _, rfl, hs⟩
    | elements items htables =>
      obtain ⟨hne, hall⟩ := isTableArray_iff.mp htables
      obtain ⟨v, rest, rfl⟩ := List.exists_cons_of_ne_nil hne
      obtain ⟨entries, rfl⟩ := hall v List.mem_cons_self
      rw [statements_elements path htables]
      exact ⟨_, _, rfl, rfl⟩
    | inline v hflat =>
      rw [hflat] at h
      cases h

theorem tableStatements_key (key : String) (entries : Entries Value) :
    tableStatements [key] entries = (tableStatements [] entries).map (·.under key) :=
  tableStatements_under fun e _ => statements_under (by simp) key e.2

/-- Where a table lands under a key, its lines fill it. -/
theorem run_under_of_fills {hold : Entries Item → Item} (hhold : IsPlace hold) (h : Fills entries)
    (key : String) (items : Entries Item) :
    ∃ path, (Draft.under items key hold ⟨[], []⟩).run (tableStatements [key] entries) =
      some ⟨items.insert key (hold (entries.map sectionEntry)), path⟩ := by
  obtain ⟨path, hrun⟩ := h
  refine ⟨key :: path, ?_⟩
  rw [tableStatements_key]
  exact Draft.run_under hhold hrun

theorem lands_table (h : Fills entries) : (Value.table entries).Lands := by
  intro key t path hget
  rw [statements_table, Value.sectionItem, ofKeys_singleton]
  by_cases hheader : hasHeader entries = true
  · have hplace : IsPlace (Item.table .defined) := isPlace_table (by decide)
    obtain ⟨path', hrun⟩ := run_under_of_fills hplace h key t.entries
    refine ⟨path', ?_⟩
    rw [if_pos hheader, if_pos hheader, List.singleton_append, Draft.run_cons,
      Draft.add_tableHeader path hget, Option.bind_some, hrun]
    rfl
  · -- The first header within the table makes it on the way.
    obtain ⟨e, rest, hentries, hnested⟩ := exists_nested_of_not_hasHeader hheader
    obtain ⟨s, more, hfirst, hs⟩ := statements_head hnested [e.1]
    have hall : tableStatements [] entries = s :: (more ++ nestedStatements [] rest) := by
      rw [tableStatements, ownStatements_eq_nil hheader, hentries, nestedStatements,
        List.flatMap_cons, List.nil_append, List.nil_append, hfirst]
      rfl
    obtain ⟨path', hrun⟩ := h
    rw [hall, Draft.run_cons] at hrun
    obtain ⟨made, hmade, hlater⟩ := Option.bind_eq_some_iff.mp hrun
    have hplace : IsPlace (Item.table .implied) := isPlace_table (by decide)
    refine ⟨key :: path', ?_⟩
    rw [if_neg hheader, if_neg hheader, List.nil_append, tableStatements_key, hall, List.map_cons,
      Draft.run_cons, Draft.add_under_new hs hget hmade, Option.bind_some,
      Draft.run_under hplace hlater]
    rfl

/-- The lines of an element, whose header adds it to those that are there. -/
theorem run_element {draft : Draft} {done : List Item} (h : Fills entries)
    (hadd : draft.add (.elementHeader ⟨[], key⟩) = some (Draft.under t.entries key
      (fun inner => .array true (done ++ [.table .defined inner])) ⟨[], []⟩)) :
    ∃ path', draft.run (elementStatements [key] (.table entries)) =
      some ⟨(t.insert key (.array true (done ++ [(Value.table entries).sectionItem.asElement]))).entries,
        path'⟩ := by
  obtain ⟨path', hrun⟩ := run_under_of_fills (isPlace_element done) h key t.entries
  refine ⟨path', ?_⟩
  rw [elementStatements, ofKeys_singleton, Draft.run_cons, hadd, Option.bind_some, hrun,
    Value.sectionItem]
  rfl

/-- Elements are added to those that are there, one after the other. -/
theorem run_elements (t : Table Item) (key : String) (path : List String) (done : List Item)
    {items : List Value}
    (h : ∀ v ∈ items, ∃ entries, v = .table entries ∧ Fills entries) :
    ∃ path', Draft.run ⟨(t.insert key (.array true done)).entries, path⟩
        (items.flatMap (elementStatements [key])) =
      some ⟨(t.insert key (.array true
        (done ++ items.map fun v => v.sectionItem.asElement))).entries, path'⟩ := by
  -- The induction is on the elements to come; `done` are those that stand there.
  induction items generalizing done path with
  | nil =>
    refine ⟨path, ?_⟩
    rw [List.map_nil, List.append_nil]
    rfl
  | cons v rest ih =>
    obtain ⟨entries, rfl, hfills⟩ := h v List.mem_cons_self
    obtain ⟨path₁, hfirst⟩ := run_element hfills
      (Draft.add_nextElement t.entries key path done)
    obtain ⟨path₂, hlater⟩ := ih path₁ (done ++ [(Value.table entries).sectionItem.asElement])
      fun w hw => h w (List.mem_cons_of_mem _ hw)
    have hdraft : (⟨(t.insert key (.array true done)).entries, path⟩ : Draft) =
        ⟨t.entries.insert key (.array true done), path⟩ := rfl
    refine ⟨path₂, ?_⟩
    rw [List.flatMap_cons, Draft.run_append, hdraft, hfirst, Option.bind_some, hlater, List.map_cons,
      List.append_assoc]
    rfl

theorem lands_elements {items : List Value} (htables : (Value.array items).isTableArray = true)
    (h : ∀ v ∈ items, ∃ entries, v = .table entries ∧ Fills entries) :
    (Value.array items).Lands := by
  intro key t path hget
  obtain ⟨v, rest, rfl⟩ := List.exists_cons_of_ne_nil (isTableArray_iff.mp htables).1
  obtain ⟨entries, rfl, hfills⟩ := h v List.mem_cons_self
  -- The first element makes the array, the others find it.
  obtain ⟨path₁, hfirst⟩ := run_element hfills (Draft.add_firstElement path hget)
  obtain ⟨path₂, hlater⟩ := run_elements t key path₁
    [(Value.table entries).sectionItem.asElement]
    fun w hw => h w (List.mem_cons_of_mem _ hw)
  refine ⟨path₂, ?_⟩
  rw [statements_elements [key] htables, List.flatMap_cons, Draft.run_append, hfirst,
    Option.bind_some, List.nil_append, hlater, Value.sectionItem_elements htables]
  rfl

/-- **The lines of a value put its item in its place**, and those of a table,
    seen on its own, make up its items. -/
theorem lands_and_fills {v : Value} (hordered : v.Ordered) :
    (v.isNested = true → v.Lands) ∧ ∀ entries, v = .table entries → Fills entries := by
  -- An element of an array of tables has no key of its own to land at, so the
  -- induction carries what its lines say on their own as well.
  induction v using Value.byParts with
  | h v ih =>
    cases v using Value.bySections with
    | table entries =>
      have hfills : Fills entries := by
        refine fills_of_ordered hordered.1 fun e he hnested => ?_
        have hpart : e.2 ∈ (Value.table entries).parts := List.mem_map_of_mem he
        exact (ih e.2 hpart (hordered.part hpart)).1 hnested
      refine ⟨fun _ => lands_table hfills, ?_⟩
      rintro _ ⟨⟩
      exact hfills
    | elements items htables =>
      refine ⟨fun _ => lands_elements htables fun w hw => ?_, nofun⟩
      obtain ⟨entries, rfl⟩ := (isTableArray_iff.mp htables).2 w hw
      exact ⟨entries, rfl, (ih _ hw (hordered.part hw)).2 entries rfl⟩
    | inline v hflat =>
      constructor
      · intro hnested
        rw [hflat] at hnested
        cases hnested
      · rintro entries rfl
        cases hflat

end

/-! ## Values that fit -/

/-- A value at a path of `keys` keys is within what is read: the headers of its
    sections have paths that are not too long, and the brackets of what stands
    after a key are not too deep. -/
inductive Value.Fits : (keys : Nat) → Value → Prop
  | inline {keys : Nat} {v : Value} (h : v.isNested = false) (hdepth : v.Within nestingLimit) :
    Fits keys v
  | table {keys : Nat} {entries : Entries Value} (hkeys : keys ≤ nestingLimit)
    (h : ∀ e ∈ entries, Fits (keys + 1) e.2) : Fits keys (.table entries)
  | elements {keys : Nat} {items : List Value} (htables : (Value.array items).isTableArray = true)
    (h : ∀ v ∈ items, Fits keys v) : Fits keys (.array items)

section

variable {path : List String} {entries : Entries Value} {s : Section}

theorem mem_entriesSections :
    s ∈ entriesSections path entries ↔ ∃ e ∈ entries, s ∈ e.2.sections (path ++ [e.1]) := by
  induction entries with
  | nil => simp [entriesSections]
  | cons e rest ih =>
    obtain ⟨key, v⟩ := e
    simp [entriesSections, ih]

theorem mem_elementsSections {items : List Value} (h : s ∈ elementsSections path items) :
    ∃ entries, Value.table entries ∈ items ∧
      (s ∈ ownSection (.element path) entries ∨ s ∈ entriesSections path entries) := by
  induction items with
  | nil => cases h
  | cons v rest ih =>
    have hlater : s ∈ elementsSections path rest → ∃ entries, Value.table entries ∈ v :: rest ∧
        (s ∈ ownSection (.element path) entries ∨ s ∈ entriesSections path entries) := by
      intro hs
      obtain ⟨entries, hmem, hcases⟩ := ih hs
      exact ⟨entries, List.mem_cons_of_mem v hmem, hcases⟩
    cases v with
    | table entries =>
      rw [elementsSections, List.mem_append, List.mem_append] at h
      rcases h with hfirst | hs
      · exact ⟨entries, List.mem_cons_self, hfirst⟩
      · exact hlater hs
    | string s => exact hlater h
    | integer n => exact hlater h
    | float x => exact hlater h
    | boolean b => exact hlater h
    | datetime d => exact hlater h
    | array items => exact hlater h

theorem eq_of_mem_ownSection {header : Header} (h : s ∈ ownSection header entries) :
    s = ⟨header, ownValues entries⟩ := by
  rw [ownSection] at h
  split at h
  · cases h
  · exact List.mem_singleton.mp h

/-- A value that fits and has no section is read back after its key. -/
theorem Value.Fits.readable {keys : Nat} {v : Value} (h : v.Fits keys) (hflat : v.isNested = false)
    (hplain : v.Plain) (hordered : v.Ordered) : v.Readable := by
  cases h with
  | inline _ hdepth => exact ⟨hdepth, hplain, hordered⟩
  | table hkeys hentries => cases hflat
  | elements htables hitems =>
    rw [Value.isNested, htables, Bool.or_true] at hflat
    cases hflat

theorem readable_ownValues {keys : Nat} (hfits : ∀ e ∈ entries, e.2.Fits keys)
    (hplain : ∀ e ∈ entries, e.2.Plain) (hordered : ∀ e ∈ entries, e.2.Ordered) :
    ∀ e ∈ ownValues entries, e.2.Readable := by
  intro e he
  obtain ⟨he, hflat⟩ := List.mem_filter.mp he
  exact (hfits e he).readable (by simpa using hflat) (hplain e he) (hordered e he)

/-- The sections of a value that fits are read back, and those of an element. -/
theorem readable_sections {v : Value} (hfits : v.Fits path.length) (hpath : path ≠ [])
    (hplain : v.Plain) (hordered : v.Ordered) :
    (∀ s ∈ v.sections path, s.Readable) ∧
      ∀ entries, v = .table entries →
        ∀ s, s ∈ ownSection (.element path) entries ∨ s ∈ entriesSections path entries →
          s.Readable := by
  -- A path grows by a key in a table, and stays the same in an array of tables.
  induction v using Value.byParts generalizing path with
  | h v ih =>
    cases hfits with
    | inline hflat hdepth =>
      constructor
      · rw [sections_of_inline path hflat]
        simp
      · rintro entries rfl
        cases hflat
    | @table _ entries hkeys hentries =>
      have hparts : ∀ e ∈ entries, e.2 ∈ (Value.table entries).parts := fun e he =>
        List.mem_map_of_mem he
      have hown := readable_ownValues hentries (fun e he => hplain.part (hparts e he))
        fun e he => hordered.part (hparts e he)
      have hnested : ∀ s ∈ entriesSections path entries, s.Readable := by
        intro s hs
        obtain ⟨e, he, hs⟩ := mem_entriesSections.mp hs
        exact (ih e.2 (hparts e he) (by simpa using hentries e he) (by simp)
          (hplain.part (hparts e he)) (hordered.part (hparts e he))).1 s hs
      constructor
      · intro s hs
        rw [Value.sections, List.mem_append] at hs
        rcases hs with hs | hs
        · rw [eq_of_mem_ownSection hs]
          exact ⟨⟨hpath, hkeys⟩, hown⟩
        · exact hnested s hs
      · rintro _ ⟨⟩ s (hs | hs)
        · rw [eq_of_mem_ownSection hs]
          exact ⟨⟨hpath, hkeys⟩, hown⟩
        · exact hnested s hs
    | @elements _ items htables hitems =>
      refine ⟨fun s hs => ?_, nofun⟩
      rw [Value.sections, if_pos htables] at hs
      obtain ⟨entries, hmem, hs⟩ := mem_elementsSections hs
      exact (ih _ hmem (hitems _ hmem) hpath (hplain.part hmem) (hordered.part hmem)).2 entries rfl s hs

end

/-! ## Documents -/

/-- A value that is read back, as an item, from a document in which it stands at
    a path of `keys` keys. -/
structure Value.Legible (keys : Nat) (v : Value) : Prop where
  plain   : v.Plain
  ordered : v.Ordered
  fits    : v.Fits keys

section

variable {keys : Nat}

theorem legible_string (s : String) : (Value.string s).Legible keys where
  plain := .intro trivial (by simp [Value.parts])
  ordered := trivial
  fits := .inline rfl (.leaf rfl)

theorem legible_strings (texts : List String) : (Value.strings texts).Legible keys := by
  have hpart : ∀ v ∈ (Value.strings texts).parts, ∃ s, v = .string s := by
    intro v hv
    obtain ⟨s, -, rfl⟩ := List.mem_map.mp hv
    exact ⟨s, rfl⟩
  refine ⟨.intro trivial ?_, Value.orderedItems_iff.mpr ?_, .inline ?_ (.node ?_)⟩
  · intro v hv
    obtain ⟨s, rfl⟩ := hpart v hv
    exact .intro trivial (by simp [Value.parts])
  · intro v hv
    obtain ⟨s, rfl⟩ := hpart v hv
    trivial
  · cases texts with
    | nil => rfl
    | cons s rest => rfl
  · intro v hv
    obtain ⟨s, rfl⟩ := hpart v hv
    exact .leaf rfl

/-- A table of values that are read back one key further. -/
theorem legible_table {t : Table Value} (hkeys : keys ≤ nestingLimit)
    (h : ∀ e ∈ t.entries, e.2.Legible (keys + 1)) : (Value.ofTable t).Legible keys := by
  refine ⟨.intro trivial fun v hv => ?_, ⟨t.ordered, Value.orderedEntries_iff.mpr ?_⟩,
    .table hkeys fun e he => (h e he).fits⟩
  · obtain ⟨e, he, rfl⟩ := List.mem_map.mp hv
    exact (h e he).plain
  · exact fun e he => (h e he).ordered

/-- Tables in a row, which stand at the path of their array. -/
theorem legible_tables {items : List Value} (htables : (Value.array items).isTableArray = true)
    (h : ∀ v ∈ items, v.Legible keys) : (Value.array items).Legible keys where
  plain := .intro trivial fun v hv => (h v hv).plain
  ordered := Value.orderedItems_iff.mpr fun v hv => (h v hv).ordered
  fits := .elements htables fun v hv => (h v hv).fits

end

theorem documentSections_flatMap (entries : Entries Value) :
    (documentSections entries).flatMap Section.statements = tableStatements [] entries := by
  rw [documentSections, List.flatMap_append, entriesSections_flatMap, tableStatements]
  congr 1
  cases hown : ownValues entries with
  | nil => simp [ownSection, needsHeader, ownStatements, hown]
  | cons e rest =>
    simp [ownSection, ownStatements, hown, Section.statements, Header.statements]

/-- **The text of a document is read as the items of its values**, in the order
    of their keys. -/
theorem readDocument_documentText {entries sorted : Entries Value} (hperm : entries.Perm sorted)
    (hsorted : sorted.Ordered) (h : ∀ e ∈ entries, e.2.Legible 1) :
    readDocument (documentText entries) = some (sorted.map sectionEntry) := by
  have hreadable : ∀ s ∈ documentSections entries, s.Readable := by
    intro s hs
    rcases List.mem_append.mp hs with hs | hs
    · rw [eq_of_mem_ownSection hs]
      exact ⟨trivial, readable_ownValues (fun e he => (h e he).fits) (fun e he => (h e he).plain)
        fun e he => (h e he).ordered⟩
    · obtain ⟨e, he, hs⟩ := mem_entriesSections.mp hs
      have hkey : e.2.Fits [e.1].length := (h e he).fits
      exact (readable_sections hkey (by simp) (h e he).plain (h e he).ordered).1 s hs
  have hspells := spells_sections hreadable
  have htext : (documentText entries).toList = sectionsChars (documentSections entries) :=
    String.toList_ofList
  rw [documentSections_flatMap, ← htext] at hspells
  obtain ⟨pairs, path, hpairs, hrun⟩ := run_tableStatements (hsorted.distinct.perm hperm.symm)
    fun e he => (lands_and_fills (h e he).ordered).1
  rw [hspells.readDocument, assemble, ← Draft.run, hrun, Option.map_some,
    Table.entries_ofList (hsorted.map Value.sectionItem) (hpairs.trans (hperm.map sectionEntry))]
  rfl

end PluginHost.Toml
