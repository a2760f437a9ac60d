import Mathlib.Data.List.Induction
import PluginHost.FileTree
import PluginHost.Proofs.Steps

/-! # Files that were written

    Writing a file keeps every directory that was there, with all its names
    (`get?_setAt_directory`), so a path that could be followed before leads to the
    same place after (`locate_setAt`).  Therefore the path that a file was
    written to leads to the file (`find?_write`).  A path can be written at
    least where nothing is in its way (`writable_of_isFree`). -/

namespace PluginHost.Node

variable {tree after : Node} {name other last : String} {names place start cwd : List String}
  {entries : List (String × Node)} {node new : Node}

/-! ## Texts in files -/

/-- A file that holds the bytes of a text is read as the text. -/
theorem readText_toUTF8 (s : String) : (Node.file s.toUTF8).readText = .ok s := by
  rw [readText, String.fromUTF8?, String.toUTF8_eq_toByteArray, dif_pos s.isValidUTF8]
  rfl

/-! ## Entries of a directory -/

theorem child?_setEntry_self (name : String) (node : Node) (entries : List (String × Node)) :
    child? name (setEntry name node entries) = some node := by
  induction entries with
  | nil => simp [setEntry, child?]
  | cons e rest ih =>
    obtain ⟨n, old⟩ := e
    rw [setEntry]
    by_cases hn : n = name
    · rw [if_pos hn, child?, if_pos rfl]
    · rw [if_neg hn, child?, if_neg hn, ih]

theorem child?_setEntry_ne (h : other ≠ name) (node : Node) (entries : List (String × Node)) :
    child? other (setEntry name node entries) = child? other entries := by
  induction entries with
  | nil => simp [setEntry, child?, Ne.symm h]
  | cons e rest ih =>
    obtain ⟨n, old⟩ := e
    rw [setEntry]
    by_cases hn : n = name
    · rw [if_pos hn, child?, child?, if_neg (Ne.symm h), hn, if_neg (Ne.symm h)]
    · rw [if_neg hn, child?, child?, ih]

/-! ## Directories stay -/

/-- The second directory has every name of the first. -/
def Keeps (entries entries' : List (String × Node)) : Prop :=
  ∀ name, (child? name entries).isSome = true → (child? name entries').isSome = true

theorem keeps_setEntry (name : String) (node : Node) (entries : List (String × Node)) :
    Keeps entries (setEntry name node entries) := by
  intro other hother
  by_cases h : other = name
  · rw [h, child?_setEntry_self]
    rfl
  · rw [child?_setEntry_ne h]
    exact hother

theorem get?_directory_cons (name : String) (rest : List String) (entries : List (String × Node)) :
    (Node.directory entries).get? (name :: rest) = (child? name entries).bind (·.get? rest) := by
  rw [get?]
  rfl

/-- What is put at a place that is no directory leaves all directories there. -/
theorem get?_setAt_directory (new : Node) {target : List String}
    (htarget : ∀ entries, tree.get? target ≠ some (.directory entries))
    (h : tree.get? place = some (.directory entries)) :
    ∃ entries', (tree.setAt target new).get? place = some (.directory entries') ∧
      Keeps entries entries' := by
  induction target generalizing tree place with
  | nil =>
    cases tree with
    | file content => cases place <;> cases h
    | directory es => exact absurd rfl (htarget es)
  | cons name target ih =>
    cases tree with
    | file content => exact ⟨entries, h, fun _ hname => hname⟩
    | directory es =>
      rw [setAt]
      cases place with
      | nil =>
        -- The place is on the way to the target, and may gain a name.
        cases h
        exact ⟨_, rfl, keeps_setEntry name _ entries⟩
      | cons other place =>
        rw [get?_directory_cons] at h ⊢
        by_cases hname : other = name
        · subst hname
          obtain ⟨child, hchild, hrest⟩ := Option.bind_eq_some_iff.mp h
          have htarget' : ∀ entries, child.get? target ≠ some (.directory entries) := by
            intro entries heq
            refine htarget entries ?_
            rw [get?_directory_cons, hchild, Option.bind_some, heq]
          rw [child?_setEntry_self, hchild, Option.getD_some, Option.bind_some]
          exact ih htarget' hrest
        · -- Another branch of the tree stays as it is.
          rw [child?_setEntry_ne hname]
          exact ⟨entries, h, fun _ hname => hname⟩

theorem entriesAt_eq_ok_iff :
    tree.entriesAt place = .ok entries ↔ tree.get? place = some (.directory entries) := by
  rw [entriesAt]
  cases tree.get? place with
  | none => simp
  | some node => cases node <;> simp

/-- A look-up in two parts. -/
theorem get?_append (tree : Node) (place rest : List String) :
    tree.get? (place ++ rest) = (tree.get? place).bind (·.get? rest) := by
  induction place generalizing tree with
  | nil => rfl
  | cons name place ih =>
    cases tree with
    | file content => rfl
    | directory es =>
      rw [List.cons_append, get?_directory_cons, get?_directory_cons]
      cases child? name es with
      | none => rfl
      | some child => exact ih child

theorem get?_append_directory (h : tree.get? place = some (.directory entries)) (last : String) :
    tree.get? (place ++ [last]) = child? last entries := by
  rw [get?_append, h, Option.bind_some, get?_directory_cons]
  cases child? last entries <;> rfl

/-- What is put into a directory is found there. -/
theorem get?_setAt_append (h : tree.get? place = some (.directory entries)) (last : String)
    (new : Node) : (tree.setAt (place ++ [last]) new).get? (place ++ [last]) = some new := by
  induction place generalizing tree with
  | nil =>
    cases h
    rw [List.nil_append, setAt, get?_directory_cons, child?_setEntry_self, Option.bind_some, setAt]
    rfl
  | cons name place ih =>
    cases tree with
    | file content => cases h
    | directory es =>
      rw [get?_directory_cons] at h
      obtain ⟨child, hchild, hrest⟩ := Option.bind_eq_some_iff.mp h
      rw [List.cons_append, setAt, get?_directory_cons, child?_setEntry_self, Option.bind_some,
        hchild, Option.getD_some]
      exact ih hrest

/-! ## Paths lead where they led -/

theorem locate_cons (name : String) (rest start : List String) :
    tree.locate (name :: rest) start = tree.step start name >>= (tree.locate rest ·) :=
  List.foldlM_cons

section

variable {target : List String}

theorem step_setAt (htarget : ∀ entries, tree.get? target ≠ some (.directory entries))
    {place' : List String} (h : tree.step place name = .ok place') :
    (tree.setAt target new).step place name = .ok place' := by
  obtain ⟨entries, hentries, hstep⟩ := bind_eq_ok h
  obtain ⟨entries', hafter, hkeeps⟩ :=
    get?_setAt_directory new htarget (entriesAt_eq_ok_iff.mp hentries)
  rw [step, entriesAt_eq_ok_iff.mpr hafter]
  change (if name = "." then _ else _) = _ at hstep
  change (if name = "." then _ else _) = _
  by_cases hpoint : name = "."
  · rw [if_pos hpoint] at hstep ⊢
    exact hstep
  · rw [if_neg hpoint] at hstep ⊢
    by_cases hup : name = ".."
    · rw [if_pos hup] at hstep ⊢
      exact hstep
    · rw [if_neg hup] at hstep ⊢
      -- A name that was there is there still, which is all that a step asks.
      split at hstep
      · rename_i hchild
        rw [if_pos (hkeeps name hchild)]
        exact hstep
      · cases hstep

/-- A path leads where it led before something was put where no directory is. -/
theorem locate_setAt (htarget : ∀ entries, tree.get? target ≠ some (.directory entries))
    (h : tree.locate names start = .ok place) :
    (tree.setAt target new).locate names start = .ok place := by
  induction names generalizing start with
  | nil => exact h
  | cons name rest ih =>
    rw [locate_cons] at h ⊢
    obtain ⟨next, hnext, hlater⟩ := bind_eq_ok h
    rw [step_setAt htarget hnext]
    exact ih hlater

end

/-! ## Written files -/

theorem locate_append (names : List String) (last : String) (start : List String) :
    tree.locate (names ++ [last]) start = tree.locate names start >>= (tree.step · last) := by
  rw [locate, List.foldlM_append, locate]
  cases List.foldlM tree.step start names with
  | error e => rfl
  | ok place =>
    change (tree.step place last >>= pure) = tree.step place last
    cases tree.step place last <;> rfl

/-- A step into a directory, by a name that stands for an entry. -/
theorem step_of_directory (h : tree.get? place = some (.directory entries))
    (hname : Path.isDetour name = false) :
    tree.step place name =
      if (child? name entries).isSome then .ok (place ++ [name]) else .error .notFound := by
  simp only [Path.isDetour, Bool.or_eq_false_iff, beq_eq_false_iff_ne] at hname
  rw [step, entriesAt_eq_ok_iff.mpr h]
  change (if name = "." then _ else _) = _
  rw [if_neg hname.1, if_neg hname.2]

/-- The name that a file was put under leads to it. -/
theorem step_put (hplace : tree.entriesAt place = .ok entries)
    (hname : Path.isDetour last = false)
    (htarget : ∀ es, child? last entries ≠ some (.directory es)) :
    (tree.setAt (place ++ [last]) new).step place last = .ok (place ++ [last]) := by
  have hdirectory := entriesAt_eq_ok_iff.mp hplace
  have htarget' : ∀ es, tree.get? (place ++ [last]) ≠ some (.directory es) := by
    rw [get?_append_directory hdirectory]
    exact htarget
  obtain ⟨entries', hafter, -⟩ := get?_setAt_directory new htarget' hdirectory
  have hput := get?_setAt_append hdirectory last new
  rw [get?_append_directory hafter] at hput
  rw [step_of_directory hafter hname, hput, Option.isSome_some, if_pos rfl]

/-- Where a file can be written: in a directory that the names before the last
    lead to, under a name that is no directory's. -/
theorem writeFile_eq_ok_iff {path : String} {content : ByteArray} :
    tree.writeFile path content cwd = .ok after ↔
      ∃ (last : String) (place : List String) (entries : List (String × Node)),
        Path.names path = (Path.names path).dropLast ++ [last] ∧
        tree.locate (Path.names path).dropLast (Path.start cwd path) = .ok place ∧
        tree.entriesAt place = .ok entries ∧ Path.endsWithSlash path = false ∧
        Path.isDetour last = false ∧ (∀ es, child? last entries ≠ some (.directory es)) ∧
        after = tree.setAt (place ++ [last]) (.file content) := by
  constructor
  · intro h
    rw [writeFile] at h
    split at h
    · cases h
    · rename_i last hlast
      obtain ⟨place, hplace, h⟩ := bind_eq_ok h
      obtain ⟨entries, hentries, h⟩ := bind_eq_ok h
      split at h
      · cases h
      · rename_i hname
        rw [Bool.or_eq_true, not_or, Bool.not_eq_true, Bool.not_eq_true] at hname
        refine ⟨last, place, entries, ?_, hplace, hentries, hname.1, hname.2, ?_, ?_⟩
        · obtain ⟨front, hfront⟩ := List.getLast?_eq_some_iff.mp hlast
          rw [hfront, List.dropLast_concat]
        · intro es hes
          rw [hes] at h
          cases h
        · split at h
          · cases h
          · cases h
            rfl
  · rintro ⟨last, place, entries, hnames, hplace, hentries, hslash, hname, htarget, rfl⟩
    have hlast : (Path.names path).getLast? = some last := by
      rw [hnames, List.getLast?_concat]
    rw [writeFile, hlast]
    simp only [hplace, hentries, hslash, hname, Bool.or_self, bind, Except.bind]
    cases hchild : child? last entries with
    | none => rfl
    | some node =>
      cases node with
      | file old => rfl
      | directory es => exact absurd hchild (htarget es)

theorem isEmpty_of_names {path : String} (h : Path.names path ≠ []) : path.isEmpty = false := by
  rw [← Bool.not_eq_true, String.isEmpty_iff]
  rintro rfl
  exact h rfl

theorem components_of_names {path : String} (h : Path.names path ≠ [])
    (hslash : Path.endsWithSlash path = false) : Path.components path = Path.names path := by
  rw [Path.components, isEmpty_of_names h, hslash]
  simp

/-- **The path that a file was written to leads to the file.** -/
theorem find?_write {path : String} {content : ByteArray}
    (h : tree.write path content cwd = .ok after) :
    after.find? path cwd = some (.file content) := by
  obtain ⟨made, -, hwrite⟩ := bind_eq_ok h
  obtain ⟨last, place, entries, hnames, hplace, hentries, hslash, hname, htarget, rfl⟩ :=
    writeFile_eq_ok_iff.mp hwrite
  have hdirectory := entriesAt_eq_ok_iff.mp hentries
  have htarget' : ∀ es, made.get? (place ++ [last]) ≠ some (.directory es) := by
    rw [get?_append_directory hdirectory]
    exact htarget
  have hne : Path.names path ≠ [] := by
    rw [hnames]
    simp
  -- The names before the last lead where they led before the file was put there.
  have hlocate : (made.setAt (place ++ [last]) (.file content)).locate (Path.components path)
      (Path.start cwd path) = .ok (place ++ [last]) := by
    rw [components_of_names hne hslash, hnames, locate_append, locate_setAt htarget' hplace]
    exact step_put hentries hname htarget
  rw [find?, isEmpty_of_names hne, if_neg Bool.false_ne_true, hlocate]
  exact get?_setAt_append hdirectory last _

/-! ## Paths that can be written -/

/-- A file can be written to the path, from a working directory. -/
def Writable (tree : Node) (path : String) (cwd : List String := []) : Prop :=
  ∃ content after, tree.write path content cwd = .ok after

/-- Whether a file can be written does not depend on what is in it. -/
theorem Writable.write {path : String} (h : tree.Writable path cwd) (content : ByteArray) :
    ∃ after, tree.write path content cwd = .ok after := by
  obtain ⟨old, after, h⟩ := h
  obtain ⟨made, hmade, hwrite⟩ := bind_eq_ok h
  obtain ⟨last, place, entries, hnames, hplace, hentries, hslash, hname, htarget, -⟩ :=
    writeFile_eq_ok_iff.mp hwrite
  refine ⟨made.setAt (place ++ [last]) (.file content), ?_⟩
  rw [Node.write, hmade]
  exact writeFile_eq_ok_iff.mpr
    ⟨last, place, entries, hnames, hplace, hentries, hslash, hname, htarget, rfl⟩

theorem writable_of_isOk {path : String} (h : (tree.write path .empty cwd).isOk = true) :
    tree.Writable path cwd := by
  cases hwrite : tree.write path .empty cwd with
  | ok after => exact ⟨.empty, after, hwrite⟩
  | error e =>
    rw [hwrite] at h
    cases h

/-! ## Free paths -/

/-- Nothing is in the way of a file under names: no file stands where a directory
    has to be, and no directory where the file goes. -/
def isFree : Node → List String → Bool
  | .file _, names => names.isEmpty
  | .directory _, [] => false
  | .directory entries, name :: rest =>
    match child? name entries with
    | none => true
    | some child => child.isFree rest

section

variable {front rest : List String}

theorem isFree_directory_cons (h : (Node.directory entries).isFree (name :: rest) = true)
    (hchild : child? name entries = some node) : node.isFree rest = true := by
  rw [isFree, hchild] at h
  exact h

theorem isFree_of_get? (h : tree.isFree (names ++ rest) = true)
    (hnode : tree.get? names = some node) : node.isFree rest = true := by
  induction names generalizing tree with
  | nil =>
    cases hnode
    exact h
  | cons name names ih =>
    cases tree with
    | file content => cases hnode
    | directory es =>
      rw [get?_directory_cons] at hnode
      obtain ⟨child, hchild, hrest⟩ := Option.bind_eq_some_iff.mp hnode
      exact ih (isFree_directory_cons h hchild) hrest

/-- What is on the way to a file is a directory. -/
theorem directory_of_isFree (h : node.isFree (last :: rest) = true) :
    ∃ entries, node = .directory entries := by
  cases node with
  | file content => cases h
  | directory entries => exact ⟨entries, rfl⟩

/-- What something stands below is a directory with an entry on the way. -/
theorem directory_of_get?_append (h : tree.get? (place ++ name :: rest) = some node) :
    ∃ entries, tree.get? place = some (.directory entries) ∧
      (child? name entries).isSome = true := by
  rw [get?_append] at h
  obtain ⟨above, habove, hbelow⟩ := Option.bind_eq_some_iff.mp h
  cases above with
  | file content => cases hbelow
  | directory entries =>
    rw [get?_directory_cons] at hbelow
    obtain ⟨child, hchild, -⟩ := Option.bind_eq_some_iff.mp hbelow
    refine ⟨entries, habove, ?_⟩
    rw [hchild]
    rfl

/-- Names lead to what stands under them. -/
theorem locate_of_get? (hplain : ∀ name ∈ names, Path.isDetour name = false)
    (h : tree.get? (start ++ names) = some node) :
    tree.locate names start = .ok (start ++ names) := by
  induction names generalizing start with
  | nil =>
    rw [List.append_nil]
    rfl
  | cons name rest ih =>
    obtain ⟨hname, hrest⟩ := List.forall_mem_cons.mp hplain
    obtain ⟨entries, hstart, hchild⟩ := directory_of_get?_append h
    rw [locate_cons, step_of_directory hstart hname, if_pos hchild]
    rw [List.append_cons start name rest] at h ⊢
    exact ih hrest h

/-- On a free path, names under which nothing stands lead nowhere. -/
theorem locate_of_missing (hplain : ∀ name ∈ names, Path.isDetour name = false)
    (hstart : tree.get? start = some (.directory entries))
    (hfree : (Node.directory entries).isFree (names ++ last :: rest) = true)
    (h : tree.get? (start ++ names) = none) : tree.locate names start = .error .notFound := by
  induction names generalizing start entries with
  | nil =>
    rw [List.append_nil, hstart] at h
    cases h
  | cons name names ih =>
    obtain ⟨hname, hrest⟩ := List.forall_mem_cons.mp hplain
    rw [locate_cons, step_of_directory hstart hname]
    cases hchild : child? name entries with
    | none => rfl
    | some child =>
      -- The child is free as well, with a name to come, so it is a directory.
      have hbelow : child.isFree (names ++ last :: rest) = true :=
        isFree_directory_cons hfree hchild
      obtain ⟨es, rfl⟩ : ∃ es, child = .directory es := by
        cases names <;> exact directory_of_isFree hbelow
      have hnext : tree.get? (start ++ [name]) = some (.directory es) := by
        rw [get?_append_directory hstart, hchild]
      rw [List.append_cons] at h
      exact ih hrest hnext hbelow h

/-! ### Directories on the way -/

theorem makeDirectory_append (front : List String) (last : String) (start : List String) :
    tree.makeDirectory (front ++ [last]) start = (do
      let place ← tree.locate front start
      let entries ← tree.entriesAt place
      if Path.isDetour last || (child? last entries).isSome then .error .alreadyExists
      else .ok (tree.setAt (place ++ [last]) (.directory []))) := by
  rw [makeDirectory, List.getLast?_concat, List.dropLast_concat]

variable (hplain : ∀ name ∈ front ++ [last], Path.isDetour name = false)
include hplain

theorem ensureDirectory_of_missing (h : tree.get? (start ++ front) = some (.directory entries))
    (hchild : child? last entries = none) :
    tree.ensureDirectory (front ++ [last]) start =
      .ok (tree.setAt (start ++ front ++ [last]) (.directory [])) := by
  have hfront := locate_of_get? (fun name hname => hplain name (List.mem_append_left _ hname)) h
  have hlast : Path.isDetour last = false := hplain last (by simp)
  rw [ensureDirectory, makeDirectory_append, hfront]
  simp [bind, Except.bind, entriesAt_eq_ok_iff.mpr h, hlast, hchild]

theorem ensureDirectory_of_present (h : tree.get? (start ++ front) = some (.directory entries))
    {es : List (String × Node)} (hchild : child? last entries = some (.directory es)) :
    tree.ensureDirectory (front ++ [last]) start = .ok tree := by
  have hfront := locate_of_get? (fun name hname => hplain name (List.mem_append_left _ hname)) h
  have hthere : tree.get? (start ++ (front ++ [last])) = some (.directory es) := by
    rw [← List.append_assoc, get?_append_directory h, hchild]
  have hdirectory : tree.isDirectory (front ++ [last]) start = true := by
    rw [isDirectory, locate_of_get? hplain hthere]
    simp only [entriesAt_eq_ok_iff.mpr hthere]
    rfl
  rw [ensureDirectory, makeDirectory_append, hfront]
  simp [bind, Except.bind, entriesAt_eq_ok_iff.mpr h, hchild, hdirectory]

omit hplain in
theorem ensureDirectory_of_no_parent (h : tree.locate front start = .error .notFound) :
    tree.ensureDirectory (front ++ [last]) start = .error .notFound := by
  have hdirectory : tree.isDirectory (front ++ [last]) start = false := by
    rw [isDirectory, locate_append, h]
    rfl
  rw [ensureDirectory, makeDirectory_append, h]
  simp [bind, Except.bind, hdirectory]

/-- Below a directory on a free path there is a directory for the next name,
    with nothing in the way of the names after it. -/
theorem ensureDirectory_of_isFree (h : tree.get? (start ++ front) = some (.directory entries))
    (hfree : (Node.directory entries).isFree (last :: name :: rest) = true) :
    ∃ made es, tree.ensureDirectory (front ++ [last]) start = .ok made ∧
      made.get? (start ++ (front ++ [last])) = some (.directory es) ∧
      (Node.directory es).isFree (name :: rest) = true := by
  rw [← List.append_assoc]
  cases hchild : child? last entries with
  | none =>
    exact ⟨_, [], ensureDirectory_of_missing hplain h hchild, get?_setAt_append h last _, rfl⟩
  | some child =>
    have hbelow := isFree_directory_cons hfree hchild
    obtain ⟨es, rfl⟩ := directory_of_isFree hbelow
    refine ⟨tree, es, ensureDirectory_of_present hplain h hchild, ?_, hbelow⟩
    rw [get?_append_directory h, hchild]

theorem parent_append : Path.parent (front ++ [last]) = front := by
  have hnames : (front ++ [last]).filter (· != ".") = front ++ [last] := by
    refine List.filter_eq_self.mpr fun name hname => ?_
    have hdetour := hplain name hname
    simp only [Path.isDetour, Bool.or_eq_false_iff, beq_eq_false_iff_ne] at hdetour
    simpa using hdetour.1
  rw [Path.parent, hnames, List.dropLast_concat]

end

/-- On a free path the directories are made as far as they are missing, and
    nothing is in the way below them. -/
theorem makeDirectories_of_isFree {rest : List String}
    (hplain : ∀ name ∈ names, Path.isDetour name = false)
    (hstart : tree.get? start = some (.directory entries))
    (hfree : (Node.directory entries).isFree (names ++ last :: rest) = true) :
    ∃ made es, tree.makeDirectories names start = .ok made ∧
      made.get? (start ++ names) = some (.directory es) ∧
      (Node.directory es).isFree (last :: rest) = true := by
  -- Missing directories are made from the last name upwards, so the last name is
  -- taken off; what is free after it changes with it.
  induction names using List.reverseRecOn generalizing last rest with
  | nil =>
    refine ⟨tree, entries, ?_, ?_, hfree⟩
    · rw [makeDirectories, dif_pos rfl]
    · rw [List.append_nil, hstart]
  | append_singleton front name ih =>
    have hne : front ++ [name] ≠ [] := by simp
    have hfront : ∀ n ∈ front, Path.isDetour n = false := fun n hn =>
      hplain n (List.mem_append_left _ hn)
    rw [List.append_assoc] at hfree
    cases hparent : tree.get? (start ++ front) with
    | some parent =>
      have hbelow : parent.isFree (name :: last :: rest) = true := by
        refine isFree_of_get? hfree ?_
        rwa [get?_append, hstart] at hparent
      obtain ⟨inner, rfl⟩ := directory_of_isFree hbelow
      obtain ⟨made, es, hmade, hdirectory, hlater⟩ :=
        ensureDirectory_of_isFree hplain hparent hbelow
      refine ⟨made, es, ?_, hdirectory, hlater⟩
      rw [makeDirectories, dif_neg hne, hmade]
    | none =>
      -- The first attempt fails for want of a parent; the second one comes when
      -- the directories above are made.
      obtain ⟨above, inner, habove, hinner, hbelow⟩ := ih hfront hfree
      obtain ⟨made, es, hmade, hdirectory, hlater⟩ :=
        ensureDirectory_of_isFree hplain hinner hbelow
      refine ⟨made, es, ?_, hdirectory, hlater⟩
      rw [makeDirectories, dif_neg hne,
        ensureDirectory_of_no_parent (locate_of_missing hfront hstart hfree hparent)]
      simp only [parent_append hplain, habove]
      exact hmade

/-- **A free path can be written**, from whichever working directory: an
    absolute path has to be free below the root, any other one below the
    directory. -/
theorem writable_of_isFree {path : String}
    (hstart : tree.get? (Path.start cwd path) = some (.directory entries))
    (hplain : ∀ name ∈ Path.names path, Path.isDetour name = false)
    (hslash : Path.endsWithSlash path = false)
    (hfree : (Node.directory entries).isFree (Path.names path) = true) :
    tree.Writable path cwd := by
  obtain hnone | ⟨front, last, hnames⟩ := List.eq_nil_or_concat (Path.names path)
  · -- Without a name, the place is the directory itself.
    rw [hnone] at hfree
    cases hfree
  rw [List.concat_eq_append] at hnames
  rw [hnames] at hplain hfree
  have hfront : ∀ name ∈ front, Path.isDetour name = false := fun name hname =>
    hplain name (List.mem_append_left _ hname)
  obtain ⟨made, es, hmade, hdirectory, hlast⟩ := makeDirectories_of_isFree hfront hstart hfree
  have htarget : ∀ inner, child? last es ≠ some (.directory inner) := by
    intro inner hinner
    cases isFree_directory_cons hlast hinner
  refine ⟨.empty, made.setAt (Path.start cwd path ++ front ++ [last]) (.file .empty), ?_⟩
  rw [write, hnames, parent_append hplain, hmade]
  refine writeFile_eq_ok_iff.mpr ⟨last, Path.start cwd path ++ front, es, ?_, ?_,
    entriesAt_eq_ok_iff.mpr hdirectory, hslash, hplain last (by simp), htarget, rfl⟩
  · rw [hnames, List.dropLast_concat]
  · rw [hnames, List.dropLast_concat]
    exact locate_of_get? hfront hdirectory

end PluginHost.Node
