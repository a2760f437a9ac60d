import PluginHost.Proofs.Toml.OneLine

/-! # Text in remarks

    A remark ends with its line, so a text that is put behind a `#` stays a
    remark only if each of its later lines has a `#` of its own: every line
    feed in it must be followed by one (`forall_lines_iff_marked`).

    In the text of a value only strings of several lines have line feeds.  The
    first of them stands in front of the string and the others are its own, so
    a string keeps the mark if it has it already: at its start and behind each
    of its line feeds (`marked_chars_iff`). -/

namespace PluginHost.Toml

variable {a b l : List Char} {c : Char}

/-! ## Lines -/

/-- The lines of a text, without their line feeds. -/
def linesOf (l : List Char) : List (List Char) := l.splitOn '\n'

/-- A line that says nothing. -/
def IsRemark (line : List Char) : Prop := line.head? = some '#'

instance (line : List Char) : Decidable (IsRemark line) :=
  inferInstanceAs (Decidable (line.head? = some '#'))

/-- Every line feed is followed by the mark of a remark. -/
def Marked : List Char → Prop
  | [] => True
  | c :: rest => (c = '\n' → rest.head? = some '#') ∧ Marked rest

@[simp] theorem marked_nil : Marked [] := trivial

theorem marked_cons : Marked (c :: l) ↔ (c = '\n' → l.head? = some '#') ∧ Marked l := Iff.rfl

theorem marked_lineFeed : Marked ('\n' :: l) ↔ l.head? = some '#' ∧ Marked l := by
  rw [marked_cons]
  simp

@[simp] theorem marked_cons_of_ne (h : c ≠ '\n') : Marked (c :: l) ↔ Marked l := by
  rw [marked_cons]
  simp [h]

/-- A text without line feeds puts nothing at risk. -/
theorem marked_append_of_notMem (h : '\n' ∉ a) : Marked (a ++ l) ↔ Marked l := by
  induction a with
  | nil => rfl
  | cons c a ih =>
    rw [List.mem_cons, not_or] at h
    obtain ⟨hc, ha⟩ := h
    rw [List.cons_append, marked_cons_of_ne (Ne.symm hc), ih ha]

theorem marked_of_notMem (h : '\n' ∉ l) : Marked l := by
  have hmarked := marked_append_of_notMem (l := []) h
  rw [List.append_nil] at hmarked
  exact hmarked.mpr trivial

theorem head_append_cons_iff (h : c ≠ '#') :
    (a ++ c :: b).head? = some '#' ↔ a.head? = some '#' := by
  cases a with
  | nil => simp [h]
  | cons x a => rfl

/-- Where no mark follows, a text must be marked on its own. -/
theorem marked_append_cons (h : c ≠ '#') : Marked (a ++ c :: b) ↔ Marked a ∧ Marked (c :: b) := by
  induction a with
  | nil => simp
  | cons x a ih =>
    rw [List.cons_append, marked_cons, marked_cons, head_append_cons_iff h, ih, and_assoc]

theorem marked_intercalate {texts : List (List Char)} :
    Marked (List.intercalate [',', ' '] texts) ↔ ∀ text ∈ texts, Marked text := by
  induction texts with
  | nil => simp [List.intercalate]
  | cons text texts ih =>
    cases texts with
    | nil => simp [List.intercalate]
    | cons next texts =>
      have hstep : List.intercalate [',', ' '] (text :: next :: texts) =
          text ++ ',' :: ' ' :: List.intercalate [',', ' '] (next :: texts) := by
        simp [List.intercalate]
      rw [hstep, marked_append_cons (by decide), marked_cons_of_ne (by decide),
        marked_cons_of_ne (by decide), ih]
      exact List.forall_mem_cons.symm

/-- The first line starts as the text does. -/
theorem linesOf_eq_cons (l : List Char) :
    ∃ first later, linesOf l = first :: later ∧ (IsRemark first ↔ l.head? = some '#') := by
  cases l with
  | nil => exact ⟨[], [], rfl, Iff.rfl⟩
  | cons c l =>
    obtain ⟨first, later, hlines⟩ := List.exists_cons_of_ne_nil (List.splitOn_ne_nil '\n' l)
    unfold linesOf
    rw [List.splitOn_cons_eq_if_modifyHead, hlines]
    by_cases hc : c = '\n'
    · subst hc
      exact ⟨[], first :: later, rfl, by simp [IsRemark]⟩
    · rw [if_neg (by simpa using hc), List.modifyHead_cons]
      exact ⟨c :: first, later, rfl, Iff.rfl⟩

/-- The lines behind the first one are remarks if the text is marked. -/
theorem forall_later_lines_iff_marked (l : List Char) :
    (∀ line ∈ (linesOf l).tail, IsRemark line) ↔ Marked l := by
  induction l with
  | nil => simp [linesOf]
  | cons c l ih =>
    obtain ⟨first, later, hlines, hfirst⟩ := linesOf_eq_cons l
    rw [hlines, List.tail_cons] at ih
    unfold linesOf at hlines ⊢
    rw [List.splitOn_cons_eq_if_modifyHead, hlines]
    by_cases hc : c = '\n'
    · subst hc
      rw [if_pos (by simp), List.tail_cons, List.forall_mem_cons, hfirst, ih, marked_lineFeed]
    · rw [if_neg (by simpa using hc), List.modifyHead_cons, List.tail_cons, ih,
        marked_cons_of_ne hc]

/-- **When a text is nothing but remarks.** -/
theorem forall_lines_iff_marked (l : List Char) :
    (∀ line ∈ linesOf l, IsRemark line) ↔ l.head? = some '#' ∧ Marked l := by
  obtain ⟨first, later, hlines, hfirst⟩ := linesOf_eq_cons l
  have hlater := forall_later_lines_iff_marked l
  rw [hlines, List.tail_cons] at hlater
  rw [hlines, List.forall_mem_cons, hfirst, hlater]

theorem linesOf_append_lineFeed (a b : List Char) :
    linesOf (a ++ '\n' :: b) = linesOf a ++ linesOf b :=
  List.splitOn_append_cons_self a b

/-! ## Strings -/

theorem IsLine.marked (h : IsLine l) : Marked l := by
  apply marked_of_notMem
  intro hline
  exact absurd (h '\n' hline) (by decide)

theorem head_escapeLines_iff (quotes : Nat) (l : List Char) :
    (escapeLines quotes l).head? = some '#' ↔ l.head? = some '#' := by
  cases l with
  | nil => rfl
  | cons c l =>
    rw [escapeLines]
    by_cases hquote : c = '"'
    · subst hquote
      rw [if_pos rfl]
      split <;> simp
    · rw [if_neg hquote]
      by_cases hmark : c = '#'
      · subst hmark
        exact Iff.rfl
      · rcases escapeBasic_cases false c with ⟨hself, -⟩ | ⟨e, hescape, -⟩
        · rw [hself]
          rfl
        · simp [hescape, hmark]

/-- Between three quotes a line feed stays, and so does a mark behind it. -/
theorem marked_escapeLines (quotes : Nat) (l : List Char) :
    Marked (escapeLines quotes l) ↔ Marked l := by
  induction l generalizing quotes with
  | nil => rfl
  | cons c l ih =>
    rw [escapeLines]
    by_cases hquote : c = '"'
    · subst hquote
      rw [if_pos rfl]
      split <;> simp [ih]
    · rw [if_neg hquote]
      by_cases hline : c = '\n'
      · subst hline
        show Marked ('\n' :: escapeLines 0 l) ↔ _
        rw [marked_lineFeed, marked_lineFeed, head_escapeLines_iff, ih]
      · have hescape : '\n' ∉ escapeBasic false c := by
          intro hmem
          exact absurd (isLine_escapeBasic (.inr hline) _ hmem) (by decide)
        rw [marked_append_of_notMem hescape, ih, marked_cons_of_ne hline]

/-- A text with a line feed is written on several lines. -/
theorem formOf_of_lineFeed (h : '\n' ∈ l) : formOf l = .basicLines ∨ formOf l = .literalLines := by
  unfold formOf
  have hline : l.contains '\n' = true := by simpa using h
  simp only [hline, Bool.not_true, Bool.and_false, Bool.false_eq_true, if_false, if_true]
  split
  · exact .inl rfl
  · split
    · exact .inr rfl
    · exact .inl rfl

/-- Behind the opening quotes the text starts a line of its own. -/
theorem marked_quoted {quote : Char} (hline : quote ≠ '\n') (hmark : quote ≠ '#') :
    Marked ([quote, quote, quote] ++ ['\n'] ++ l ++ [quote, quote, quote]) ↔
      l.head? = some '#' ∧ Marked l := by
  have hchars : [quote, quote, quote] ++ ['\n'] ++ l ++ [quote, quote, quote] =
      [quote, quote, quote] ++ '\n' :: (l ++ quote :: [quote, quote]) := by simp
  have hquotes : '\n' ∉ [quote, quote, quote] := by simp [Ne.symm hline]
  rw [hchars, marked_append_of_notMem hquotes, marked_lineFeed, head_append_cons_iff hmark,
    marked_append_cons hmark]
  simp [marked_of_notMem hquotes]

/-- A string is no risk on one line, or if it brings the marks along. -/
theorem marked_stringChars (s : String) :
    Marked (stringChars s) ↔
      ('\n' ∈ s.toList → s.toList.head? = some '#' ∧ Marked s.toList) := by
  unfold stringChars
  by_cases hline : '\n' ∈ s.toList
  · have hleading : leadingNewline s.toList = ['\n'] := by simp [leadingNewline, hline]
    rcases formOf_of_lineFeed hline with hform | hform
    · rw [hform, inForm, hleading, marked_quoted (by decide) (by decide), head_escapeLines_iff,
        marked_escapeLines]
      simp [hline]
    · rw [hform, inForm, hleading, marked_quoted (by decide) (by decide)]
      simp [hline]
  · exact iff_of_true (isLine_inForm (formOf_holds _) hline).marked fun h => absurd h hline

/-! ## Values -/

/-- The value is no text with a line feed, but for one that starts with a mark
    and has one behind each line feed. -/
def Value.IsMarked : Value → Prop
  | .string text => '\n' ∈ text.toList → text.toList.head? = some '#' ∧ Marked text.toList
  | _ => True

theorem marked_arrayChars {items : List (List Char)} :
    Marked (arrayChars .compact items) ↔ ∀ item ∈ items, Marked item := by
  have hchars : arrayChars .compact items = '[' :: (List.intercalate [',', ' '] items ++ [']']) := by
    simp [arrayChars]
  rw [hchars, marked_cons_of_ne (by decide), marked_append_cons (by decide), marked_intercalate]
  simp

theorem marked_inlineTableChars {entries : List (List Char)} :
    Marked (inlineTableChars entries) ↔ ∀ entry ∈ entries, Marked entry := by
  cases entries with
  | nil => simp [inlineTableChars]
  | cons first later =>
    have hchars : inlineTableChars (first :: later) =
        '\x7b' :: ' ' :: (List.intercalate [',', ' '] (first :: later) ++ ' ' :: ['\x7d']) := by
      simp [inlineTableChars]
    rw [hchars, marked_cons_of_ne (by decide), marked_cons_of_ne (by decide),
      marked_append_cons (by decide), marked_intercalate]
    simp

/-- **When the text of a value stays in a remark.**  Each text within it is on
    one line, or brings its own marks along. -/
theorem marked_chars_iff (v : Value) : Marked (v.chars .compact) ↔ v.All Value.IsMarked := by
  induction v using Value.byParts with
  | h v ih =>
    cases v with
    | string s =>
      rw [Value.chars, marked_stringChars, Value.all_string]
      rfl
    | integer n =>
      rw [Value.chars, Value.all_integer]
      exact iff_of_true (isBare_integerChars n).isLine.marked trivial
    | float x =>
      have hall : (Value.float x).All Value.IsMarked := .leaf rfl trivial
      exact iff_of_true (isLine_positional x).marked hall
    | boolean b =>
      rw [Value.chars, Value.all_boolean]
      exact iff_of_true (isBare_booleanChars b).isLine.marked trivial
    | datetime d =>
      have hall : (Value.datetime d).All Value.IsMarked := .leaf rfl trivial
      exact iff_of_true (isLine_datetime d).marked hall
    | array items =>
      rw [Value.chars, itemsChars_eq_map, marked_arrayChars, List.forall_mem_map,
        Value.all_array]
      exact ⟨fun h => ⟨trivial, fun w hw => (ih w hw).mp (h w hw)⟩,
        fun h w hw => (ih w hw).mpr (h.2 w hw)⟩
    | table entries =>
      have hentry : ∀ e ∈ entries,
          (Marked (pairChars (Value.chars .compact) e) ↔ e.2.All Value.IsMarked) := by
        intro e he
        have hkey : '\n' ∉ keyChars e.1 ++ [' ', '=', ' '] := by
          intro hmem
          have hline : IsLine (keyChars e.1 ++ [' ', '=', ' ']) := by
            simp [isLine_keyChars, isTextChar]
          exact absurd (hline _ hmem) (by decide)
        rw [pairChars, marked_append_of_notMem hkey]
        exact ih e.2 (List.mem_map_of_mem he)
      rw [Value.chars, entriesChars_eq_map, marked_inlineTableChars, List.forall_mem_map,
        Value.all_table]
      exact ⟨fun h => ⟨trivial, fun e he => (hentry e he).mp (h e he)⟩,
        fun h e he => (hentry e he).mpr (h.2 e he)⟩

end PluginHost.Toml
