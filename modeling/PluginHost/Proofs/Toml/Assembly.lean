import PluginHost.Toml.Item

/-! # Statements about tables within tables

    A header line leads from the top of a document through tables, and through
    the last elements of arrays of tables, to the table that it is about
    (`IsPlace`).  So the lines under a path do to the table at the path what the
    same lines, with the path left out, do to a document that holds nothing but
    this table (`Draft.run_under`), and a document can be understood one level
    at a time.  Only the first line under a path may have to make the table
    (`Draft.add_under_new`, `Draft.add_firstElement`). -/

namespace PluginHost.Toml

/-! ## What a statement changes -/

/-- A run of statements. -/
def Draft.run (draft : Draft) (statements : List Statement) : Option Draft :=
  statements.foldlM Draft.add draft

namespace Statement

/-- The change to the table that a statement is about. -/
def change : Statement → Change
  | .assignment path item => assign path item
  | .tableHeader path => defineTable path.last
  | .elementHeader path => appendElement path.last

/-- Where that table stands, after a header with the given path. -/
def place (path : List String) : Statement → List String
  | .assignment _ _ => path
  | .tableHeader p => p.parents
  | .elementHeader p => p.parents

/-- The path of the last header after the statement. -/
def next (path : List String) : Statement → List String
  | .assignment _ _ => path
  | .tableHeader p => p.all
  | .elementHeader p => p.all

/-- Is the statement a header? -/
def isHeader : Statement → Bool
  | .assignment _ _ => false
  | _ => true

/-- What the statement says of a table, said of the table under a key. -/
def under (key : String) : Statement → Statement
  | .assignment path item => .assignment path item
  | .tableHeader path => .tableHeader ⟨key :: path.parents, path.last⟩
  | .elementHeader path => .elementHeader ⟨key :: path.parents, path.last⟩

@[simp] theorem change_under (key : String) (s : Statement) : (s.under key).change = s.change := by
  cases s <;> rfl

@[simp] theorem place_under (key : String) (path : List String) (s : Statement) :
    (s.under key).place (key :: path) = key :: s.place path := by
  cases s <;> rfl

@[simp] theorem next_under (key : String) (path : List String) (s : Statement) :
    (s.under key).next (key :: path) = key :: s.next path := by
  cases s <;> rfl

/-- How the table came to be does not matter. -/
theorem change_origin (s : Statement) (o o' : Origin) : s.change o = s.change o' := by
  cases s with
  | tableHeader path => rfl
  | elementHeader path => rfl
  | assignment path item =>
    obtain ⟨parents, last⟩ := path
    cases parents with
    | nil => rfl
    | cons key parents => rfl

end Statement

theorem Draft.add_eq (draft : Draft) (s : Statement) :
    draft.add s = (changeAt .header s.change (s.place draft.path) .defined draft.entries).map
      fun entries => ⟨entries, s.next draft.path⟩ := by
  cases s with
  | assignment path item =>
    simp only [Draft.add, Statement.change, Statement.place, Statement.next]
    cases changeAt .header (assign path item) draft.path .defined draft.entries <;> rfl
  | tableHeader path =>
    simp only [Draft.add, Statement.change, Statement.place, Statement.next]
    cases changeAt .header (defineTable path.last) path.parents .defined draft.entries <;> rfl
  | elementHeader path =>
    simp only [Draft.add, Statement.change, Statement.place, Statement.next]
    cases changeAt .header (appendElement path.last) path.parents .defined draft.entries <;> rfl

theorem changeAt_origin {approach : Approach} {change : Change} (h : ∀ o o', change o = change o')
    (path : List String) (o o' : Origin) :
    changeAt approach change path o = changeAt approach change path o' := by
  cases path with
  | nil =>
    funext entries
    rw [changeAt, changeAt, h o o']
  | cons key rest =>
    funext entries
    rw [changeAt, changeAt]

/-! ## Tables under a key -/

/-- A place for a table within another: a header line that leads to the place
    changes the entries that stand there. -/
def IsPlace (hold : Entries Item → Item) : Prop :=
  ∀ ⦃change : Change⦄ ⦃key : String⦄ ⦃rest : List String⦄ ⦃entries inner inner' : Entries Item⦄,
    (∀ o o', change o = change o') → entries.get? key = some (hold inner) →
    changeAt .header change rest .defined inner = some inner' →
    changeAt .header change (key :: rest) .defined entries = some (entries.insert key (hold inner'))

theorem isPlace_table {origin : Origin} (h : origin ≠ .inline) : IsPlace (Item.table origin) := by
  intro change key rest entries inner inner' hchange hget hinner
  -- Only tables in braces are closed to headers.
  have hpasses : Approach.header.passes origin = true := by
    cases origin <;> first | rfl | exact absurd rfl h
  rw [changeAt_origin hchange rest .defined origin] at hinner
  simp only [changeAt, hget, hpasses, if_true, hinner, Option.bind_eq_bind, Option.bind_some]
  rfl

theorem isPlace_element (items : List Item) :
    IsPlace fun inner => .array true (items ++ [.table .defined inner]) := by
  intro change key rest entries inner inner' hchange hget hinner
  have hlast : changeLast (changeAt .header change rest) (items ++ [.table .defined inner]) =
      some (items ++ [.table .defined inner']) := by
    simp [changeLast, hinner]
  simp only [changeAt, hget, hlast, Option.bind_eq_bind, Option.bind_some]
  rfl

/-- A document in the making, seen from the document around it, where its
    entries stand in a place under a key. -/
def Draft.under (entries : Entries Item) (key : String) (hold : Entries Item → Item)
    (draft : Draft) : Draft :=
  ⟨entries.insert key (hold draft.entries), key :: draft.path⟩

section

variable {hold : Entries Item → Item} {draft draft' : Draft} {s : Statement}
  {statements : List Statement} {entries : Entries Item} {key : String}

theorem Draft.add_under (hhold : IsPlace hold) (h : draft.add s = some draft') :
    (draft.under entries key hold).add (s.under key) = some (draft'.under entries key hold) := by
  rw [Draft.add_eq] at h
  obtain ⟨inner, hinner, rfl⟩ := Option.map_eq_some_iff.mp h
  have hget : (entries.insert key (hold draft.entries)).get? key = some (hold draft.entries) := by
    rw [Entries.get?_insert, if_pos rfl]
  -- What stood in the place is replaced as a whole.
  have houter := hhold s.change_origin hget hinner
  rw [Entries.insert_insert] at houter
  rw [Draft.add_eq]
  simp only [Draft.under, Statement.change_under, Statement.place_under, Statement.next_under,
    houter, Option.map_some]

/-- **Statements about the table under a key do there what they say.** -/
theorem Draft.run_under (hhold : IsPlace hold) (h : draft.run statements = some draft') :
    (draft.under entries key hold).run (statements.map (·.under key)) =
      some (draft'.under entries key hold) := by
  induction statements generalizing draft with
  | nil =>
    cases h
    rfl
  | cons s statements ih =>
    rw [Draft.run, List.foldlM_cons] at h
    obtain ⟨next, hnext, hlater⟩ := Option.bind_eq_some_iff.mp h
    have hfirst : (draft.under entries key hold).add (s.under key) =
        some (next.under entries key hold) := Draft.add_under hhold hnext
    rw [Draft.run, List.map_cons, List.foldlM_cons, hfirst]
    exact ih hlater

theorem Draft.run_cons (draft : Draft) (s : Statement) (statements : List Statement) :
    draft.run (s :: statements) = (draft.add s).bind (·.run statements) := by
  rw [run, List.foldlM_cons]
  rfl

theorem Draft.run_append (draft : Draft) (first later : List Statement) :
    draft.run (first ++ later) = (draft.run first).bind (·.run later) := by
  rw [run, List.foldlM_append]
  rfl

/-! ## New tables -/

/-- A header makes the tables on its way that are missing. -/
theorem Draft.add_under_new {path path' : List String} {inner : Draft}
    (hs : s.isHeader = true) (hget : entries.get? key = none)
    (h : Draft.add ⟨[], path⟩ s = some inner) :
    Draft.add ⟨entries, path'⟩ (s.under key) = some (inner.under entries key (Item.table .implied)) := by
  rw [Draft.add_eq] at h
  obtain ⟨made, hmade, rfl⟩ := Option.map_eq_some_iff.mp h
  have hplace : (s.under key).place path' = key :: s.place path := by
    cases s <;> first | rfl | cases hs
  have hnext : (s.under key).next path' = key :: s.next path := by
    cases s <;> first | rfl | cases hs
  -- The table is made empty, as a document of its own starts out.
  have hmade' : changeAt .header s.change (s.place path) .implied [] = some made := by
    rw [changeAt_origin s.change_origin _ .implied .defined]
    exact hmade
  rw [Draft.add_eq]
  simp only [Statement.change_under, hplace, hnext, changeAt, hget, Approach.makes, hmade',
    Option.bind_eq_bind, Option.bind_some]
  rfl

/-- The header of a table that is not there yet. -/
theorem Draft.add_tableHeader (path : List String) (hget : entries.get? key = none) :
    Draft.add ⟨entries, path⟩ (.tableHeader ⟨[], key⟩) =
      some (Draft.under entries key (Item.table .defined) ⟨[], []⟩) := by
  simp only [Draft.add, changeAt, defineTable, hget]
  rfl

/-- The header of the first element of an array that is not there yet. -/
theorem Draft.add_firstElement (path : List String) (hget : entries.get? key = none) :
    Draft.add ⟨entries, path⟩ (.elementHeader ⟨[], key⟩) =
      some (Draft.under entries key (fun inner => .array true ([] ++ [.table .defined inner]))
        ⟨[], []⟩) := by
  simp only [Draft.add, changeAt, appendElement, hget]
  rfl

/-- The header of one more element. -/
theorem Draft.add_nextElement (entries : Entries Item) (key : String) (path : List String)
    (items : List Item) :
    Draft.add ⟨entries.insert key (.array true items), path⟩ (.elementHeader ⟨[], key⟩) =
      some (Draft.under entries key (fun inner => .array true (items ++ [.table .defined inner]))
        ⟨[], []⟩) := by
  have hget : (entries.insert key (.array true items)).get? key = some (.array true items) := by
    rw [Entries.get?_insert, if_pos rfl]
  simp only [Draft.add, changeAt, appendElement, hget, Entries.insert_insert, Draft.under]
  rfl

/-- A key and its value, in the table of the last header. -/
theorem Draft.add_assignment (item : Item) (hget : entries.get? key = none) :
    Draft.add ⟨entries, []⟩ (.assignment ⟨[], key⟩ item) = some ⟨entries.insert key item, []⟩ := by
  have hadd : addNew key item .defined entries = some (entries.insert key item) := by
    rw [addNew, hget]
  simp only [Draft.add, changeAt, assign, List.isEmpty_nil, if_true, hadd]
  rfl

/-- Keys and their values, in the table of the last header. -/
theorem Draft.run_assignments {t : Table Item} {pairs : Entries Item} (hdistinct : pairs.Distinct)
    (hnew : ∀ e ∈ pairs, t.get? e.1 = none) :
    Draft.run ⟨t.entries, []⟩ (pairs.map fun e => .assignment ⟨[], e.1⟩ e.2) =
      some ⟨(t.insertAll pairs).entries, []⟩ := by
  induction pairs generalizing t with
  | nil => rfl
  | cons e rest ih =>
    obtain ⟨hfirst, hrest⟩ := List.pairwise_cons.mp hdistinct
    have hadd := Draft.add_assignment e.2 (hnew e List.mem_cons_self)
    -- The keys to come are still free.
    have hlater : ∀ d ∈ rest, (t.insert e.1 e.2).get? d.1 = none := by
      intro d hd
      rw [Table.get?_insert_ne t e.2 (hfirst d hd)]
      exact hnew d (List.mem_cons_of_mem e hd)
    rw [List.map_cons, Draft.run_cons, hadd, Table.insertAll_cons]
    exact ih hrest hlater

end

end PluginHost.Toml
