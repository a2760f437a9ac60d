import PluginHost.Text.Runs
import PluginHost.Toml.Quoting
import PluginHost.Toml.Reader
import Mathlib.Data.List.TakeWhile
import Mathlib.Tactic.SplitIfs

/-! # Written strings read back

    A string in any form that may hold it reads back (`readQuoted_inForm`), and
    the form that is chosen may hold it (`formOf_holds`).

    Between three quotes the reader has to tell quotes of the text from those
    at its end.  It looks for three in a row, and takes the last three of up to
    five; so what matters is how many quotes lie ahead (`quotesAhead`), which
    the escapes keep below three wherever the text goes on. -/

namespace PluginHost.Toml

open Text (Stops stops_cons stops_nil)

/-! ## Escapes -/

section

variable {text l rest : List Char} {c : Char}

/-- The digits of a numeric escape give the character again. -/
theorem numericEscape_digits {n : Nat} (h : n < 128) (rest : List Char) :
    numericEscape? 4 ('0' :: '0' :: (Nat.digitChar (n / 16)).toUpper ::
      (Nat.digitChar (n % 16)).toUpper :: rest) = some (Char.ofNat n) := by
  have hall : ∀ n < 128, numericEscape? 4 ['0', '0', (Nat.digitChar (n / 16)).toUpper,
      (Nat.digitChar (n % 16)).toUpper] = some (Char.ofNat n) := by decide
  exact hall n h

/-- The letter of an escape and what belongs to it: it stands for `c`, and does
    not look like the end of a line. -/
structure Escapes (c : Char) (e : List Char) : Prop where
  reads   : ∀ rest, escape? (e ++ rest) = some (c, e.length)
  noBreak : ∀ rest, joinLines? (e ++ rest) = none
  chars   : ∀ d ∈ e, isTextChar d = true

theorem Escapes.short {d : Char} (h : shortEscape? d = some c)
    (hblank : isBlankInLine d = false) (htext : isTextChar d = true) : Escapes c [d] := by
  have hline : d ≠ '\n' := Text.ne_of_kind htext rfl
  have hreturn : d ≠ '\r' := Text.ne_of_kind htext rfl
  refine ⟨fun rest => ?_, fun rest => ?_, List.forall_mem_singleton.mpr htext⟩
  · simp [escape?, h]
  · have hkeep : (d :: rest).dropWhile (fun c => c == ' ' || c == '\t') = d :: rest :=
      List.dropWhile_cons_of_neg (by simpa [isBlankInLine] using hblank)
    rw [List.singleton_append, joinLines?, hkeep]
    split
    · rename_i heq
      exact absurd (List.cons.inj heq).1 hline
    · rename_i heq
      exact absurd (List.cons.inj heq).1 hreturn
    · rfl

theorem Escapes.numeric (h : c.toNat < 128) :
    Escapes c ['u', '0', '0', (Nat.digitChar (c.toNat / 16)).toUpper,
      (Nat.digitChar (c.toNat % 16)).toUpper] := by
  have hdigit : ∀ n < 16, isTextChar (Nat.digitChar n).toUpper = true := by decide
  refine ⟨fun rest => ?_, fun rest => rfl, fun d hd => ?_⟩
  · have hdigits := numericEscape_digits h rest
    have hshort : shortEscape? 'u' = none := by decide
    have hwidth : escapeWidth? 'u' = some 4 := by decide
    simp only [List.cons_append, List.nil_append, escape?, hshort, hwidth, Option.bind_eq_bind,
      Option.bind_some, hdigits, Char.ofNat_toNat]
    rfl
  · simp only [List.mem_cons, List.not_mem_nil, or_false] at hd
    rcases hd with rfl | rfl | rfl | rfl | rfl
    · decide
    · decide
    · decide
    · exact hdigit _ (by omega)
    · exact hdigit _ (by omega)

/-- A character is written as it is, or as an escape. -/
theorem escapeBasic_cases (oneLine : Bool) (c : Char) :
    (escapeBasic oneLine c = [c] ∧ c ≠ '\\' ∧ (isTextChar c = true ∨ c = '\n') ∧
      (oneLine = true → c ≠ '"' ∧ c ≠ '\n')) ∨
    ∃ e, escapeBasic oneLine c = '\\' :: e ∧ Escapes c e := by
  unfold escapeBasic
  -- Escapes of one letter come first; a line feed and a quote need none on
  -- several lines.
  split_ifs with h1 h2 h3 h4 h5 h6 h7 h8 h9 h10
  · exact .inr ⟨_, rfl, .short (by rw [h1]; decide) (by decide) (by decide)⟩
  · exact .inr ⟨_, rfl, .short (by rw [h2]; decide) (by decide) (by decide)⟩
  · exact .inr ⟨_, rfl, .short (by rw [h3]; decide) (by decide) (by decide)⟩
  · exact .inr ⟨_, rfl, .short (by rw [h4]; decide) (by decide) (by decide)⟩
  · exact .inr ⟨_, rfl, .short (by rw [h5]; decide) (by decide) (by decide)⟩
  · exact .inr ⟨_, rfl, .short (by rw [h6]; decide) (by decide) (by decide)⟩
  · exact .inl ⟨by rw [h6], by rw [h6]; decide, .inr h6, fun h => absurd h h7⟩
  · exact .inr ⟨_, rfl, .short (by rw [h8]; decide) (by decide) (by decide)⟩
  · have hnot : ¬oneLine = true := h9
    exact .inl ⟨by rw [h8], by rw [h8]; decide, .inl (by rw [h8]; decide), fun h => absurd h hnot⟩
  · refine .inr ⟨_, rfl, .numeric ?_⟩
    simp only [Bool.or_eq_true, decide_eq_true_eq, beq_iff_eq] at h10
    omega
  · refine .inl ⟨rfl, h5, .inl ?_, fun _ => ⟨h8, h6⟩⟩
    simp only [Bool.or_eq_true, decide_eq_true_eq, beq_iff_eq, not_or] at h10
    simp only [isTextChar, Bool.or_eq_true, beq_iff_eq, Bool.and_eq_true, decide_eq_true_eq,
      bne_iff_ne]
    omega

/-! ## One line in double quotes -/

/-- A character whose written form is read as the character. -/
def ReadsBack (written : List Char) (c : Char) : Prop :=
  ∀ text rest, readBasic text (written ++ rest) = readBasic (c :: text) rest

theorem readsBack_self (hquote : c ≠ '"') (hslash : c ≠ '\\') (htext : isTextChar c = true) :
    ReadsBack [c] c := by
  intro text rest
  rw [List.singleton_append, readBasic, if_neg hquote, if_neg hslash, if_pos htext]

theorem readsBack_escape {e : List Char} (h : Escapes c e) : ReadsBack ('\\' :: e) c := by
  intro text rest
  rw [List.cons_append, readBasic, if_neg (by decide), if_pos rfl, h.reads]
  simp only [List.drop_left]

theorem readsBack_escapeBasic (c : Char) : ReadsBack (escapeBasic true c) c := by
  rcases escapeBasic_cases true c with ⟨h, hslash, htext, hquote⟩ | ⟨e, h, he⟩
  · rw [h]
    obtain ⟨hquote, hline⟩ := hquote rfl
    exact readsBack_self hquote hslash (htext.resolve_right hline)
  · rw [h]
    exact readsBack_escape he

/-- A text whose characters read back does so up to the closing quote. -/
theorem readBasic_flatMap {write : Char → List Char} (h : ∀ c ∈ l, ReadsBack (write c) c) :
    readBasic text (l.flatMap write ++ '"' :: rest) =
      some (String.ofList (text.reverse ++ l), rest) := by
  induction l generalizing text with
  | nil => simp [readBasic]
  | cons c l ih =>
    have hc := h c List.mem_cons_self
    rw [List.flatMap_cons, List.append_assoc, hc, ih fun d hd => h d (List.mem_cons_of_mem c hd)]
    simp

/-! ## One line in single quotes -/

theorem readLiteral_append (h : ∀ c ∈ l, isTextChar c = true ∧ c ≠ '\'') :
    readLiteral text (l ++ '\'' :: rest) =
      some (String.ofList (text.reverse ++ l), rest) := by
  induction l generalizing text with
  | nil => simp [readLiteral]
  | cons c l ih =>
    obtain ⟨htext, hquote⟩ := h c List.mem_cons_self
    rw [List.cons_append, readLiteral, if_neg hquote, if_pos htext,
      ih fun d hd => h d (List.mem_cons_of_mem c hd)]
    simp

/-! ## Quotes ahead -/

/-- How many quotes a text starts with. -/
def quotesAhead (quote : Char) (l : List Char) : Nat := (l.takeWhile (· == quote)).length

theorem quotesAhead_self (quote : Char) (l : List Char) :
    quotesAhead quote (quote :: l) = quotesAhead quote l + 1 := by
  simp [quotesAhead]

theorem quotesAhead_ne {quote : Char} (h : c ≠ quote) (l : List Char) :
    quotesAhead quote (c :: l) = 0 := by
  simp [quotesAhead, h]

/-- Fewer than three quotes do not close. -/
theorem closing_none {quote : Char} (h : quotesAhead quote l ≤ 2) : closing? quote l = none := by
  have htake : ((l.takeWhile (· == quote)).take 5).length = quotesAhead quote l := by
    rw [List.length_take, quotesAhead]
    exact Nat.min_eq_right (Nat.le_trans h (by decide))
  rw [closing?, htake, if_neg (by omega)]

/-- Three quotes close, and up to two before them belong to the text. -/
theorem closing_run {quote : Char} {k : Nat} (hk : k ≤ 2) (hrest : rest.head? ≠ some quote) :
    closing? quote (List.replicate k quote ++ quote :: quote :: quote :: rest) =
      some (k, rest) := by
  have hrun : List.replicate k quote ++ quote :: quote :: quote :: rest =
      List.replicate (k + 3) quote ++ rest := by
    rw [← List.replicate_append_replicate, List.append_assoc]
    rfl
  have hstops : Stops (· == quote) rest := by
    intro c hc
    rw [beq_eq_false_iff_ne]
    rintro rfl
    exact hrest hc
  have htake : (List.replicate (k + 3) quote ++ rest).takeWhile (· == quote) =
      List.replicate (k + 3) quote :=
    Text.takeWhile_run (by simp) hstops
  -- The reader looks at five quotes at most, and there are no more.
  have hcount : min 5 (k + 3) = k + 3 := by omega
  rw [hrun, closing?, htake, List.length_take, List.length_replicate, hcount,
    if_pos (by omega), Nat.add_sub_cancel]
  simp

/-- Where a written text stands before its closing quotes: either it is nothing
    but one or two of them, or fewer than three quotes lie ahead. -/
def Ahead (quote : Char) (l written : List Char) : Prop :=
  (∃ k ≤ 2, l = List.replicate k quote ∧ written = l) ∨
    ∀ rest, quotesAhead quote (written ++ rest) ≤ 2

/-! ## Several lines in double quotes -/

/-- The third of three quotes in a row is escaped. -/
theorem quotes_of_escapeLines {q : Nat} (hq : q ≤ 2) (l : List Char) :
    (∃ k, q + k ≤ 2 ∧ l = List.replicate k '"' ∧ escapeLines q l = l) ∨
      ∀ rest, q + quotesAhead '"' (escapeLines q l ++ rest) ≤ 2 := by
  induction l generalizing q with
  | nil => exact .inl ⟨0, by omega, rfl, rfl⟩
  | cons c l ih =>
    by_cases hc : c = '"'
    · subst hc
      by_cases hthird : q = 2
      · refine .inr fun rest => ?_
        rw [escapeLines, if_pos rfl, if_pos hthird, List.cons_append,
          quotesAhead_ne (by decide)]
        omega
      · -- One more quote as it is: the rest of the text has one less to spare.
        have hwritten : escapeLines q ('"' :: l) = '"' :: escapeLines (q + 1) l := by
          rw [escapeLines, if_pos rfl, if_neg hthird]
        rw [hwritten]
        rcases ih (by omega : q + 1 ≤ 2) with ⟨k, hk, hl, hescape⟩ | hahead
        · refine .inl ⟨k + 1, by omega, ?_, by rw [hescape]⟩
          rw [List.replicate_succ, ← hl]
        · refine .inr fun rest => ?_
          have hle := hahead rest
          rw [List.cons_append, quotesAhead_self]
          omega
    · refine .inr fun rest => ?_
      have hwritten : escapeLines q (c :: l) = escapeBasic false c ++ escapeLines 0 l := by
        rw [escapeLines, if_neg hc]
      -- What is written for another character starts with no quote.
      rcases escapeBasic_cases false c with ⟨h, -⟩ | ⟨e, h, -⟩
      · rw [hwritten, h, List.append_assoc, List.singleton_append, quotesAhead_ne hc]
        omega
      · rw [hwritten, h, List.append_assoc, List.cons_append, quotesAhead_ne (by decide)]
        omega

theorem ahead_escapeLines {q : Nat} (hq : q ≤ 2) (l : List Char) :
    Ahead '"' l (escapeLines q l) := by
  rcases quotes_of_escapeLines hq l with ⟨k, hk, hl, hescape⟩ | hahead
  · exact .inl ⟨k, by omega, hl, hescape⟩
  · refine .inr fun rest => ?_
    have hle := hahead rest
    omega

theorem readBasicLines_self (hahead : quotesAhead '"' (c :: rest) ≤ 2) (hslash : c ≠ '\\')
    (htext : isTextChar c = true ∨ c = '\n') :
    readBasicLines text (c :: rest) = readBasicLines (c :: text) rest := by
  have hreturn : c ≠ '\r' := by
    rintro rfl
    rcases htext with htext | htext
    · exact absurd htext (by decide)
    · exact absurd htext (by decide)
  rw [readBasicLines.eq_def, closing_none hahead]
  simp only [if_neg hslash, if_neg hreturn, if_pos htext.symm]

theorem readBasicLines_escape {e : List Char} (h : Escapes c e) :
    readBasicLines text ('\\' :: (e ++ rest)) = readBasicLines (c :: text) rest := by
  have hnone : closing? '"' ('\\' :: (e ++ rest)) = none :=
    closing_none (by rw [quotesAhead_ne (by decide)]; omega)
  rw [readBasicLines.eq_def, hnone]
  simp only [if_true]
  split
  · rename_i heq
    rw [h.noBreak] at heq
    cases heq
  · rw [h.reads]
    simp only [List.drop_left]

theorem readBasicLines_escapeLines {q : Nat} (hq : q ≤ 2) (hrest : rest.head? ≠ some '"')
    (l : List Char) :
    readBasicLines text (escapeLines q l ++ '"' :: '"' :: '"' :: rest) =
      some (String.ofList (text.reverse ++ l), rest) := by
  induction l generalizing q text with
  | nil =>
    have hclose : closing? '"' ('"' :: '"' :: '"' :: rest) = some (0, rest) :=
      closing_run (Nat.zero_le 2) hrest
    rw [escapeLines, List.nil_append, readBasicLines.eq_def, hclose]
    rfl
  | cons c l ih =>
    rcases ahead_escapeLines hq (c :: l) with ⟨k, hk, hl, hescape⟩ | hahead
    · -- Only quotes are left, and they stand right before the closing ones.
      rw [hescape, hl, readBasicLines.eq_def, closing_run hk hrest]
    · -- No quotes close here, so one character is read; `q` goes up only with a
      -- quote that is written as it is.
      have hahead' := hahead ('"' :: '"' :: '"' :: rest)
      have hread : text.reverse ++ c :: l = (c :: text).reverse ++ l := by simp
      rw [hread]
      rw [escapeLines] at hahead' ⊢
      by_cases hc : c = '"'
      · subst hc
        rw [if_pos rfl] at hahead' ⊢
        by_cases hthird : q = 2
        · have hquote : Escapes '"' ['"'] := .short (by decide) (by decide) (by decide)
          rw [if_pos hthird]
          exact (readBasicLines_escape hquote).trans (ih (Nat.zero_le 2))
        · rw [if_neg hthird] at hahead' ⊢
          exact (readBasicLines_self hahead' (by decide) (.inl (by decide))).trans (ih (by omega))
      · rw [if_neg hc, List.append_assoc] at hahead' ⊢
        rcases escapeBasic_cases false c with ⟨h, hslash, htext, -⟩ | ⟨e, h, he⟩
        · rw [h] at hahead' ⊢
          exact (readBasicLines_self hahead' hslash htext).trans (ih (Nat.zero_le 2))
        · rw [h]
          exact (readBasicLines_escape he).trans (ih (Nat.zero_le 2))

/-! ## Several lines in single quotes -/

theorem longestRunFrom_mono {a b : Nat} (hab : a ≤ b) (c : Char) (l : List Char) :
    longestRunFrom c a l ≤ longestRunFrom c b l := by
  induction l generalizing a b with
  | nil => exact hab
  | cons x l ih =>
    rw [longestRunFrom, longestRunFrom]
    split
    · exact ih (by omega)
    · omega

theorem longestRun_tail_le (c x : Char) (l : List Char) :
    longestRun c l ≤ longestRun c (x :: l) := by
  rw [longestRun, longestRun, longestRunFrom]
  split
  · exact longestRunFrom_mono (Nat.zero_le 1) c l
  · exact Nat.le_max_right 0 _

theorem quotesAhead_le_longestRun (quote : Char) (current : Nat) (l : List Char) :
    current + quotesAhead quote l ≤ longestRunFrom quote current l := by
  induction l generalizing current with
  | nil => simp [quotesAhead, longestRunFrom]
  | cons x l ih =>
    rw [longestRunFrom]
    by_cases hx : x = quote
    · subst hx
      have hstep := ih (current + 1)
      rw [if_pos rfl, quotesAhead_self]
      omega
    · rw [if_neg hx, quotesAhead_ne hx]
      exact Nat.le_max_left current _

/-- A text without three quotes in a row. -/
theorem ahead_self {quote : Char} (h : longestRun quote l ≤ 2) : Ahead quote l l := by
  have hle : quotesAhead quote l ≤ 2 := by
    have hrun := quotesAhead_le_longestRun quote 0 l
    rw [Nat.zero_add] at hrun
    exact Nat.le_trans hrun h
  by_cases hall : ∀ c ∈ l, (c == quote) = true
  · have hl : l = List.replicate l.length quote := by
      rw [List.eq_replicate_iff]
      exact ⟨rfl, by simpa using hall⟩
    have htake : l.takeWhile (· == quote) = l := List.takeWhile_eq_self_iff.mpr hall
    rw [quotesAhead, htake] at hle
    exact .inl ⟨l.length, hle, hl, rfl⟩
  · -- The run of quotes ends within the text, whatever follows.
    refine .inr fun rest => ?_
    have htake : (l ++ rest).takeWhile (· == quote) = l.takeWhile (· == quote) := by
      rw [List.takeWhile_append, if_neg]
      intro hlength
      have hfront := List.takeWhile_prefix (l := l) (· == quote)
      exact hall (List.takeWhile_eq_self_iff.mp (hfront.eq_of_length hlength))
    rw [quotesAhead, htake]
    exact hle

theorem readLiteralLines_append (hquotes : longestRun '\'' l ≤ 2)
    (hl : ∀ c ∈ l, isTextChar c = true ∨ c = '\n') (hrest : rest.head? ≠ some '\'') :
    readLiteralLines text (l ++ '\'' :: '\'' :: '\'' :: rest) =
      some (String.ofList (text.reverse ++ l), rest) := by
  induction l generalizing text with
  | nil =>
    have hclose : closing? '\'' ('\'' :: '\'' :: '\'' :: rest) = some (0, rest) :=
      closing_run (Nat.zero_le 2) hrest
    rw [List.nil_append, readLiteralLines.eq_def, hclose]
    rfl
  | cons c l ih =>
    rcases ahead_self hquotes with ⟨k, hk, hrun, -⟩ | hahead
    · -- Only quotes are left.
      rw [hrun, readLiteralLines.eq_def, closing_run hk hrest]
    · have hread : text.reverse ++ c :: l = (c :: text).reverse ++ l := by simp
      have htext := hl c List.mem_cons_self
      have hreturn : c ≠ '\r' := by
        rintro rfl
        rcases htext with htext | htext <;> exact absurd htext (by decide)
      rw [hread, readLiteralLines.eq_def, closing_none (hahead _), List.cons_append]
      simp only [if_neg hreturn, if_pos htext.symm]
      exact ih (Nat.le_trans (longestRun_tail_le '\'' c l) hquotes)
        fun d hd => hl d (List.mem_cons_of_mem c hd)

end

/-! ## Any form -/

section

variable {l rest : List Char}

/-- The texts that a form may hold.  The forms in double quotes hold any. -/
def Form.Holds (l : List Char) : Form → Prop
  | .basic => True
  | .literal => ∀ c ∈ l, isTextChar c = true ∧ c ≠ '\''
  | .basicLines => True
  | .literalLines => longestRun '\'' l ≤ 2 ∧ ∀ c ∈ l, isTextChar c = true ∨ c = '\n'

theorem isTextChar_of_not_control {c : Char} (h : isControl c = false) :
    isTextChar c = true ∨ c = '\n' := by
  simp only [isControl, Bool.or_eq_false_iff, Bool.and_eq_false_imp, beq_eq_false_iff_ne,
    Bool.and_eq_true, decide_eq_true_eq, bne_iff_ne, bne_eq_false_iff_eq] at h
  obtain ⟨hlow, hdelete⟩ := h
  by_cases hline : c = '\n'
  · exact .inr hline
  · refine .inl ?_
    simp only [isTextChar, Bool.or_eq_true, beq_iff_eq, Bool.and_eq_true, decide_eq_true_eq,
      bne_iff_ne]
    by_cases htab : c = '\t'
    · exact .inl htab
    · refine .inr ⟨?_, hdelete⟩
      by_contra hcontrol
      exact hline (hlow ⟨by omega, htab⟩)

theorem ne_of_longestRun_zero {c : Char} (h : longestRun c l = 0) : ∀ d ∈ l, d ≠ c := by
  induction l with
  | nil => simp
  | cons x l ih =>
    have hahead := quotesAhead_le_longestRun c 0 (x :: l)
    rw [← longestRun, h] at hahead
    have hx : x ≠ c := by
      rintro rfl
      rw [quotesAhead_self] at hahead
      omega
    have htail := longestRun_tail_le c x l
    intro d hd
    rcases List.mem_cons.mp hd with rfl | hd
    · exact hx
    · exact ih (by omega) d hd

theorem formOf_holds (l : List Char) : (formOf l).Holds l := by
  have hchars : ¬l.any isControl = true → ∀ c ∈ l, isTextChar c = true ∨ c = '\n' := by
    intro hnone c hc
    refine isTextChar_of_not_control ?_
    rw [Bool.not_eq_true, List.any_eq_false] at hnone
    simpa using hnone c hc
  unfold formOf
  simp only []
  split_ifs with h1 h2 h3 h4 h5
  · trivial
  · simp only [Bool.and_eq_true, Bool.not_eq_true', beq_iff_eq, List.contains_eq_mem,
      decide_eq_false_iff_not] at h2
    obtain ⟨⟨hcontrol, hsingle⟩, hline⟩ := h2
    intro c hc
    refine ⟨(hchars (by simp [hcontrol]) c hc).resolve_right ?_, ne_of_longestRun_zero hsingle c hc⟩
    rintro rfl
    exact hline hc
  · trivial
  · simp only [Bool.and_eq_true, Bool.not_eq_true', decide_eq_true_eq] at h4
    exact ⟨h4.2, hchars (by simp [h4.1])⟩
  · trivial
  · trivial

/-- Keys are written on one line. -/
theorem keyFormOf_cases (l : List Char) :
    keyFormOf l = .basic ∨ keyFormOf l = .literal ∧ Form.literal.Holds l := by
  unfold keyFormOf
  simp only []
  split_ifs with h1 h2
  · exact .inl rfl
  · refine .inr ⟨rfl, fun c hc => ?_⟩
    simp only [Bool.and_eq_true, Bool.not_eq_true', List.contains_eq_mem,
      decide_eq_false_iff_not, List.any_eq_false, Bool.or_eq_true, beq_iff_eq, not_or,
      Bool.not_eq_true] at h2
    obtain ⟨hcontrol, hsingle⟩ := h2
    refine ⟨(isTextChar_of_not_control (hcontrol c hc).1).resolve_right (hcontrol c hc).2, ?_⟩
    rintro rfl
    exact hsingle hc
  · exact .inl rfl

/-- The line feed after the opening quotes is passed, and only that one. -/
theorem skipFirstNewline_leading {written : List Char}
    (hfirst : '\n' ∉ l → ∀ c ∈ written.head?, c ≠ '\n' ∧ c ≠ '\r') :
    skipFirstNewline (leadingNewline l ++ written) = written := by
  by_cases hline : '\n' ∈ l
  · rw [leadingNewline, if_pos (by simpa using hline)]
    rfl
  · rw [leadingNewline, if_neg (by simpa using hline), List.nil_append]
    unfold skipFirstNewline
    split
    · exact absurd rfl (hfirst hline '\n' rfl).1
    · exact absurd rfl (hfirst hline '\r' rfl).2
    · rfl

/-- What is written first for a text between two double quotes is no quote. -/
theorem head_escapeBasic : ∀ c ∈ (l.flatMap (escapeBasic true)).head?, c ≠ '"' := by
  cases l with
  | nil => simp
  | cons c l =>
    rcases escapeBasic_cases true c with ⟨hc, -, -, hquote⟩ | ⟨e, hc, -⟩
    · simpa [hc] using (hquote rfl).1
    · simp [hc]

/-- What is written first for a text between three double quotes is no line end,
    unless it is one of the text. -/
theorem head_escapeLines (hline : '\n' ∉ l) :
    ∀ c ∈ (escapeLines 0 l ++ '"' :: rest).head?, c ≠ '\n' ∧ c ≠ '\r' := by
  cases l with
  | nil => simp [escapeLines]
  | cons c l =>
    have hc : c ≠ '\n' := by
      rintro rfl
      exact hline List.mem_cons_self
    rw [escapeLines]
    split
    · rw [if_neg (by decide)]
      simp
    · rcases escapeBasic_cases false c with ⟨h, -, htext, -⟩ | ⟨e, h, -⟩
      · rw [h]
        simp only [List.cons_append, List.head?_cons, Option.mem_some_iff, forall_eq']
        refine ⟨hc, ?_⟩
        exact Text.ne_of_kind (htext.resolve_right hc) rfl
      · rw [h]
        simp

/-- What is written first for a text between three single quotes is no line end,
    unless it is one of the text. -/
theorem head_literalLines (hl : ∀ c ∈ l, isTextChar c = true ∨ c = '\n') (hline : '\n' ∉ l) :
    ∀ c ∈ (l ++ '\'' :: rest).head?, c ≠ '\n' ∧ c ≠ '\r' := by
  cases l with
  | nil =>
    rw [List.nil_append, List.head?_cons]
    rintro c hc
    rw [← Option.mem_some_iff.mp hc]
    decide
  | cons d l =>
    rw [List.cons_append, List.head?_cons]
    rintro c hc
    rw [← Option.mem_some_iff.mp hc]
    have hd : d ≠ '\n' := fun heq => hline (heq ▸ List.mem_cons_self)
    refine ⟨hd, ?_⟩
    exact Text.ne_of_kind ((hl d List.mem_cons_self).resolve_right hd) rfl

/-- One double quote opens a text on one line, unless two more follow. -/
theorem readQuoted_oneDouble (h : ∀ more, l ≠ '"' :: '"' :: more) :
    readQuoted? ('"' :: l) = some (readBasic [] l) := by
  unfold readQuoted?
  split
  · rename_i heq
    exact absurd (List.cons.inj heq).2 (h _)
  · rename_i heq
    cases heq
  · rename_i heq
    rw [(List.cons.inj heq).2]
  · rename_i heq
    cases heq
  · rename_i hnone _
    exact absurd rfl (hnone l)

/-- One single quote opens a text on one line, unless two more follow. -/
theorem readQuoted_oneSingle (h : ∀ more, l ≠ '\'' :: '\'' :: more) :
    readQuoted? ('\'' :: l) = some (readLiteral [] l) := by
  unfold readQuoted?
  split
  · rename_i heq
    cases heq
  · rename_i heq
    exact absurd (List.cons.inj heq).2 (h _)
  · rename_i heq
    cases heq
  · rename_i heq
    rw [(List.cons.inj heq).2]
  · rename_i hnone
    exact absurd rfl (hnone l)

/-- What stands between two quotes is not taken for more quotes, as its first
    character is none. -/
theorem ne_two_quotes {quote : Char} {written : List Char} (hrest : rest.head? ≠ some quote)
    (hfirst : ∀ c ∈ written.head?, c ≠ quote) (more : List Char) :
    written ++ quote :: rest ≠ quote :: quote :: more := by
  cases written with
  | nil =>
    rintro heq
    rw [(List.cons.inj heq).2] at hrest
    exact hrest rfl
  | cons c written =>
    intro heq
    exact hfirst c rfl (List.cons.inj heq).1

/-- **A written string reads back.** -/
theorem readQuoted_inForm {form : Form} (h : form.Holds l) (hdouble : rest.head? ≠ some '"')
    (hsingle : rest.head? ≠ some '\'') :
    readQuoted? (inForm l form ++ rest) = some (some (String.ofList l, rest)) := by
  cases form with
  | basic =>
    have hwritten : inForm l .basic ++ rest = '"' :: (l.flatMap (escapeBasic true) ++ '"' :: rest) := by
      simp [inForm]
    rw [hwritten, readQuoted_oneDouble (ne_two_quotes hdouble head_escapeBasic),
      readBasic_flatMap fun c _ => readsBack_escapeBasic c]
    rfl
  | literal =>
    have hwritten : inForm l .literal ++ rest = '\'' :: (l ++ '\'' :: rest) := by
      simp [inForm]
    have hfirst : ∀ c ∈ l.head?, c ≠ '\'' :=
      fun c hc => (h c (List.mem_of_mem_head? hc)).2
    rw [hwritten, readQuoted_oneSingle (ne_two_quotes hsingle hfirst), readLiteral_append h]
    rfl
  | basicLines =>
    have hwritten : inForm l .basicLines ++ rest = '"' :: '"' :: '"' ::
        (leadingNewline l ++ (escapeLines 0 l ++ '"' :: '"' :: '"' :: rest)) := by
      simp [inForm]
    rw [hwritten, readQuoted?, skipFirstNewline_leading head_escapeLines,
      readBasicLines_escapeLines (Nat.zero_le 2) hdouble]
    rfl
  | literalLines =>
    have hwritten : inForm l .literalLines ++ rest = '\'' :: '\'' :: '\'' ::
        (leadingNewline l ++ (l ++ '\'' :: '\'' :: '\'' :: rest)) := by
      simp [inForm]
    rw [hwritten, readQuoted?, skipFirstNewline_leading (head_literalLines h.2),
      readLiteralLines_append h.1 h.2 hsingle]
    rfl

/-- A text in the form that is chosen for it reads back. -/
theorem readQuoted_stringChars (s : String) (hdouble : rest.head? ≠ some '"')
    (hsingle : rest.head? ≠ some '\'') :
    readQuoted? (stringChars s ++ rest) = some (some (s, rest)) := by
  rw [stringChars, readQuoted_inForm (formOf_holds s.toList) hdouble hsingle, String.ofList_toList]

end

end PluginHost.Toml
