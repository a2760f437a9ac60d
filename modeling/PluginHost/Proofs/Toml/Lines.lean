import PluginHost.Proofs.Toml.Values
import PluginHost.Toml.Sections

/-! # Written lines read back

    A text spells statements if it is read as them (`Spells`).  There is one
    lemma for each kind of line that may stand in front of such a text: a line
    that says nothing, a key and its value, and the headers.  From them come
    the lines of a section (`Spells.section`), and of several
    (`spells_sections`). -/

namespace PluginHost.Toml

open Text (Stops stops_cons stops_nil)

/-! ## Lines -/

section

variable {l rest key text : List Char} {name : String} {item : Item} {path : KeyPath}
  {write : String → List Char} {s : Statement} {later : List Statement}

/-- The text is read as the statements. -/
def Spells (l : List Char) (statements : List Statement) : Prop :=
  ∀ steps, l.length < steps → readStatements steps l = some statements

theorem Spells.nil : Spells [] [] := by
  intro steps hsteps
  obtain ⟨steps, rfl⟩ := Nat.exists_eq_add_of_le' hsteps
  rfl

/-- A text in front of which only blanks and comments stand. -/
theorem Spells.of_skipTrivia (h : Spells rest later) (hlength : rest.length ≤ l.length)
    (hskip : skipTrivia false l = skipTrivia false rest) : Spells l later := by
  intro steps hsteps
  have hread := h steps (by omega)
  obtain ⟨steps, rfl⟩ := Nat.exists_eq_add_of_le' (Nat.lt_of_le_of_lt (Nat.zero_le _) hsteps)
  -- The first step of the reader leaves the same text of both.
  rw [readStatements, hskip]
  rwa [readStatements] at hread

theorem Spells.blank (h : Spells rest later) : Spells ('\n' :: rest) later :=
  h.of_skipTrivia (by simp) (skipTrivia_lineFeed false rest)

theorem skipTrivia_comment (htext : ∀ c ∈ text, isTextChar c = true) (rest : List Char) :
    skipTrivia true (text ++ '\n' :: rest) = skipTrivia false rest := by
  induction text with
  | nil => simp
  | cons c text ih =>
    have hc := htext c List.mem_cons_self
    have hline : c ≠ '\n' := Text.ne_of_kind hc rfl
    have hreturn : c ≠ '\r' := Text.ne_of_kind hc rfl
    rw [List.cons_append, skipTrivia.eq_def]
    simp only [if_neg hline, if_neg hreturn, hc, if_true]
    exact ih fun d hd => htext d (List.mem_cons_of_mem c hd)

theorem Spells.comment (htext : ∀ c ∈ text, isTextChar c = true) (h : Spells rest later) :
    Spells ('#' :: (text ++ '\n' :: rest)) later := by
  refine h.of_skipTrivia (by simp only [List.length_cons, List.length_append]; omega) ?_
  rw [skipTrivia.eq_def]
  simpa [isBlankInLine] using skipTrivia_comment htext rest

/-- A line that is read as a statement. -/
theorem Spells.line (hskip : skipTrivia false (text ++ '\n' :: rest) = text ++ '\n' :: rest)
    (hread : readStatement (text ++ '\n' :: rest) = some (s, '\n' :: rest))
    (h : Spells rest later) : Spells (text ++ '\n' :: rest) (s :: later) := by
  intro steps hsteps
  obtain ⟨steps, rfl⟩ := Nat.exists_eq_add_of_le' (Nat.lt_of_le_of_lt (Nat.zero_le _) hsteps)
  have hlater := h steps (by simp only [List.length_append, List.length_cons] at hsteps; omega)
  have hend : passLineEnd ('\n' :: rest) = some rest := rfl
  rw [readStatements, hskip]
  split
  · rename_i heq
    simp at heq
  · rw [hread]
    simp only [Option.bind_eq_bind, Option.bind_some, hend, hlater]
    rfl

theorem Spells.assignment (hkey : IsKey key name) (hvalue : ReadsAs (readValue nestingLimit) text item)
    (h : Spells rest later) :
    Spells (key ++ [' ', '=', ' '] ++ text ++ '\n' :: rest)
      (.assignment ⟨[], name⟩ item :: later) := by
  have hpath : readKeyPath (key ++ ' ' :: '=' :: ' ' :: (text ++ '\n' :: rest)) =
      some (⟨[], name⟩, '=' :: ' ' :: (text ++ '\n' :: rest)) :=
    readKeyPath_key hkey (stops_cons.mpr rfl) fun hhead =>
      absurd (Option.some.inj hhead) (by decide)
  have hblank : skipBlanks (' ' :: (text ++ '\n' :: rest)) = text ++ '\n' :: rest :=
    hvalue.skipBlanks _
  have hwritten : key ++ [' ', '=', ' '] ++ text ++ '\n' :: rest =
      key ++ ' ' :: '=' :: ' ' :: (text ++ '\n' :: rest) := by
    simp
  have hends : EndsValue ('\n' :: rest) := endsValue_cons rfl (by decide) rest
  refine h.line ?_ ?_
  · rw [hwritten, hkey.skipTrivia]
  · rw [hwritten, readStatement]
    · rw [hpath]
      simp only [Option.bind_eq_bind, Option.bind_some, hblank, hvalue.reads _ hends]
      rfl
    -- A line that starts as a key is no header.
    · intro more heq
      exact hkey.head_ne (by decide) '[' (congrArg List.head? heq) rfl
    · intro more heq
      exact hkey.head_ne (by decide) '[' (congrArg List.head? heq) rfl

/-- The header of a table. -/
theorem Spells.tableHeader (hlength : path.all.length ≤ nestingLimit)
    (hkeys : ∀ k ∈ path.all, IsKey (write k) k) (h : Spells rest later) :
    Spells (['['] ++ List.intercalate ['.'] (path.all.map write) ++ [']'] ++ '\n' :: rest)
      (.tableHeader path :: later) := by
  have hpath : readKeyPath (List.intercalate ['.'] (path.all.map write) ++ ']' :: '\n' :: rest) =
      some (path, ']' :: '\n' :: rest) :=
    readKeyPath_written hlength hkeys (stops_cons.mpr rfl) fun hhead =>
      absurd (Option.some.inj hhead) (by decide)
  obtain ⟨c, more, hwritten, hc⟩ := head_path hkeys
  refine h.line (skipTrivia_of_stops (stops_cons.mpr rfl)) ?_
  have hline : ['['] ++ List.intercalate ['.'] (path.all.map write) ++ [']'] ++ '\n' :: rest =
      '[' :: (c :: more ++ ']' :: '\n' :: rest) := by
    simp [hwritten]
  rw [hwritten] at hpath
  rw [hline, readStatement]
  · rw [List.cons_append, skipBlanks_of_isKeyStart hc, ← List.cons_append, hpath]
    rfl
  · -- A key follows the bracket, and no second one.
    intro l heq
    rw [(List.cons.inj heq).1] at hc
    exact absurd hc (by decide)

/-- The header of one more element. -/
theorem Spells.elementHeader (hlength : path.all.length ≤ nestingLimit)
    (hkeys : ∀ k ∈ path.all, IsKey (write k) k) (h : Spells rest later) :
    Spells (['[', '['] ++ List.intercalate ['.'] (path.all.map write) ++ [']', ']'] ++
      '\n' :: rest) (.elementHeader path :: later) := by
  have hpath : readKeyPath (List.intercalate ['.'] (path.all.map write) ++
      ']' :: ']' :: '\n' :: rest) = some (path, ']' :: ']' :: '\n' :: rest) :=
    readKeyPath_written hlength hkeys (stops_cons.mpr rfl) fun hhead =>
      absurd (Option.some.inj hhead) (by decide)
  obtain ⟨c, more, hwritten, hc⟩ := head_path hkeys
  refine h.line (skipTrivia_of_stops (stops_cons.mpr rfl)) ?_
  have hline : ['[', '['] ++ List.intercalate ['.'] (path.all.map write) ++ [']', ']'] ++
      '\n' :: rest = '[' :: '[' :: (c :: more ++ ']' :: ']' :: '\n' :: rest) := by
    simp [hwritten]
  rw [hwritten] at hpath
  rw [hline, readStatement, List.cons_append, skipBlanks_of_isKeyStart hc, ← List.cons_append,
    hpath]
  rfl

end

/-! ## Sections -/

/-- The keys of a path that is given as a list. -/
def KeyPath.ofKeys (keys : List String) : KeyPath := ⟨keys.dropLast, keys.getLast?.getD ""⟩

theorem KeyPath.all_ofKeys {keys : List String} (h : keys ≠ []) : (ofKeys keys).all = keys := by
  rw [all, ofKeys, List.getLast?_eq_some_getLast h]
  exact List.dropLast_concat_getLast h

/-- What a header says. -/
def Header.statements : Header → List Statement
  | .root => []
  | .table path => [.tableHeader (.ofKeys path)]
  | .element path => [.elementHeader (.ofKeys path)]

/-- What the lines of a section say. -/
def Section.statements (s : Section) : List Statement :=
  s.header.statements ++ s.values.map fun e => .assignment ⟨[], e.1⟩ e.2.item

/-- The path of a header has a key, and not too many. -/
def Header.Readable : Header → Prop
  | .root => True
  | .table path => path ≠ [] ∧ path.length ≤ nestingLimit
  | .element path => path ≠ [] ∧ path.length ≤ nestingLimit

/-- A value that is read back after its key. -/
structure Value.Readable (v : Value) : Prop where
  depth   : v.Within nestingLimit
  plain   : v.Plain
  ordered : v.Ordered

/-- A section whose lines are read back. -/
structure Section.Readable (s : Section) : Prop where
  header : s.header.Readable
  values : ∀ e ∈ s.values, e.2.Readable

section

variable {rest : List Char} {later : List Statement}

theorem spells_entry {e : String × Value} (he : e.2.Readable) (h : Spells rest later) :
    Spells (entryChars e ++ rest) (.assignment ⟨[], e.1⟩ e.2.item :: later) := by
  have hline : entryChars e ++ rest =
      keyChars e.1 ++ [' ', '=', ' '] ++ e.2.chars .spread ++ '\n' :: rest := by
    simp [entryChars]
  rw [hline]
  exact h.assignment (isKey_keyChars e.1) (readsAs_chars .spread he.depth he.plain he.ordered)

theorem spells_entries {values : Entries Value} (hvalues : ∀ e ∈ values, e.2.Readable)
    (h : Spells rest later) :
    Spells (values.flatMap entryChars ++ rest)
      ((values.map fun e => .assignment ⟨[], e.1⟩ e.2.item) ++ later) := by
  induction values with
  | nil => exact h
  | cons e values ih =>
    rw [List.flatMap_cons, List.append_assoc]
    exact spells_entry (hvalues e List.mem_cons_self)
      (ih fun d hd => hvalues d (List.mem_cons_of_mem e hd))

theorem spells_header {header : Header} (hheader : header.Readable) (h : Spells rest later) :
    Spells (header.chars ++ rest) (header.statements ++ later) := by
  cases header with
  | root => exact h
  | table path =>
    have hall := KeyPath.all_ofKeys hheader.1
    have hline : Header.chars (.table path) ++ rest =
        ['['] ++ List.intercalate ['.'] ((KeyPath.ofKeys path).all.map keyChars) ++ [']'] ++
          '\n' :: rest := by
      simp [Header.chars, pathChars, hall]
    rw [hline]
    exact h.tableHeader (hall.symm ▸ hheader.2) fun k _ => isKey_keyChars k
  | element path =>
    have hall := KeyPath.all_ofKeys hheader.1
    have hline : Header.chars (.element path) ++ rest =
        ['[', '['] ++ List.intercalate ['.'] ((KeyPath.ofKeys path).all.map keyChars) ++
          [']', ']'] ++ '\n' :: rest := by
      simp [Header.chars, pathChars, hall]
    rw [hline]
    exact h.elementHeader (hall.symm ▸ hheader.2) fun k _ => isKey_keyChars k

theorem spells_section {s : Section} (hs : s.Readable) (h : Spells rest later) :
    Spells (s.chars ++ rest) (s.statements ++ later) := by
  rw [Section.chars, Section.statements, List.append_assoc, List.append_assoc]
  exact spells_header hs.header (spells_entries hs.values h)

/-- Sections are read one after the other. -/
theorem spells_sections {sections : List Section} (h : ∀ s ∈ sections, s.Readable) :
    Spells (sectionsChars sections) (sections.flatMap Section.statements) := by
  induction sections with
  | nil => exact .nil
  | cons s sections ih =>
    have hs := h s List.mem_cons_self
    have hlater := ih fun t ht => h t (List.mem_cons_of_mem s ht)
    cases sections with
    | nil => simpa [sectionsChars, List.intercalate] using spells_section hs .nil
    | cons t sections =>
      have htext : sectionsChars (s :: t :: sections) =
          s.chars ++ '\n' :: sectionsChars (t :: sections) := by
        simp [sectionsChars, List.intercalate]
      rw [htext, List.flatMap_cons]
      exact spells_section hs hlater.blank

end

/-! ## Documents -/

/-- A text that spells statements starts with no byte order mark. -/
theorem Spells.dropByteOrderMark {l : List Char} {statements : List Statement}
    (h : Spells l statements) : dropByteOrderMark l = l := by
  unfold Toml.dropByteOrderMark
  split
  · -- No line starts with the mark, so a text that does spells nothing.
    rename_i rest
    have hread := h _ (Nat.lt_succ_self _)
    rw [readStatements, skipTrivia_of_stops (stops_cons.mpr (by decide))] at hread
    cases hread
  · rfl

/-- A document is made up of what its text spells. -/
theorem Spells.readDocument {text : String} {statements : List Statement}
    (h : Spells text.toList statements) : readDocument text = assemble statements := by
  rw [Toml.readDocument]
  simp only [h.dropByteOrderMark, h _ (Nat.lt_succ_self _)]
  rfl

end PluginHost.Toml
