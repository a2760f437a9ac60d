import PluginHost.Text.Blank
import PluginHost.Text.Lowercase
import PluginHost.Text.Runs

/-! # Text in lower case

    A lower-case form has no lower-case form of its own and is no blank.  For
    single characters this is a fact about the runs of the table, which are
    compared as wholes (`CaseRun.avoids`); the sigma and the dotted I have
    forms of which it holds as well.  So a text that is lower-cased once stays
    as it is (`lowercase_lowercase`), and blanks appear at neither end of it
    (`stops_lowerChars`, `stops_reverse_lowerChars`). -/

namespace PluginHost.Text

/-! ## Runs -/

namespace CaseRun

variable {run other : CaseRun} {n : Nat}

/-- The lower-case form of a code point in the run. -/
def lower (run : CaseRun) (n : Nat) : Nat := Int.toNat (n + run.shift)

/-- The lower-case forms of the run are characters. -/
def landsOnChars (run : CaseRun) : Bool :=
  decide (0 ≤ run.first + run.shift) &&
    (decide (run.lower run.last < 0xD800) ||
      (decide (0xDFFF < run.lower run.first) && decide (run.lower run.last < 0x110000)))

/-- The lower-case forms of the run lie before the other run, behind it, or
    between its steps.  The comparisons are those of `Nat` itself, which are
    quick to decide for all pairs of the table. -/
def avoids (run other : CaseRun) : Bool :=
  Nat.blt (run.lower run.last) other.first || Nat.blt other.last (run.lower run.first) ||
    (Nat.beq other.step 2 && (Nat.beq run.step 2 || Nat.beq run.first run.last) &&
      Nat.beq ((run.lower run.first + other.first) % 2) 1)

theorem covers_iff : run.covers n = true ↔
    run.first ≤ n ∧ n ≤ run.last ∧ (n - run.first) % run.step = 0 := by
  simp [covers, and_assoc]

/-- Lower-casing keeps the distances within a run. -/
theorem lower_eq (hrun : run.landsOnChars = true) (hn : run.first ≤ n) :
    run.lower n = run.lower run.first + (n - run.first) := by
  simp only [landsOnChars, Bool.and_eq_true, decide_eq_true_eq] at hrun
  have hstart := hrun.1
  unfold lower
  omega

theorem isValidChar_lower (hrun : run.landsOnChars = true) (hn : run.covers n = true) :
    (run.lower n).isValidChar := by
  obtain ⟨hfirst, hlast, -⟩ := covers_iff.mp hn
  have hlow := lower_eq hrun hfirst
  have hhigh := lower_eq hrun (Nat.le_trans hfirst hlast)
  simp only [landsOnChars, Bool.and_eq_true, Bool.or_eq_true, decide_eq_true_eq] at hrun
  have hvalid := hrun.2
  unfold Nat.isValidChar
  omega

theorem not_covers_lower (hrun : run.landsOnChars = true) (h : run.avoids other = true)
    (hn : run.covers n = true) : other.covers (run.lower n) = false := by
  obtain ⟨hfirst, hlast, hstep⟩ := covers_iff.mp hn
  have hlow := lower_eq hrun hfirst
  have hhigh := lower_eq hrun (Nat.le_trans hfirst hlast)
  simp only [avoids, Bool.and_eq_true, Bool.or_eq_true, Nat.blt_eq, Nat.beq_eq] at h
  rw [Bool.eq_false_iff, ne_eq, covers_iff]
  rintro ⟨hfirst', hlast', hstep'⟩
  rcases h with h | ⟨⟨htwo, hrun'⟩, hodd⟩
  · omega
  · -- Both runs go in steps of two, the one over even and the other over odd
    -- code points; a single code point is a run of any step.
    rw [htwo] at hstep'
    rcases hrun' with hrun' | hrun'
    · rw [hrun'] at hstep
      omega
    · omega

end CaseRun

/-- What no lower-case form is: the dotted I, a character with a lower-case
    form, or a blank. -/
def barredRuns : List CaseRun :=
  ⟨0x0130, 0x0130, 1, 0⟩ :: lowercaseRuns ++ blankRanges.map fun range => ⟨range.1, range.2, 1, 0⟩

theorem lowercaseRuns_avoid :
    (lowercaseRuns.all fun run => run.landsOnChars && barredRuns.all run.avoids) = true := by
  decide +kernel

/-! ## Characters -/

variable {c d : Char} {before after l : List Char}

theorem toNat_ofNat {n : Nat} (h : n.isValidChar) : (Char.ofNat n).toNat = n := by
  rw [Char.ofNat, dif_pos h]
  rfl

/-- A character is its own lower-case form, or that form is in none of the
    barred runs. -/
theorem lowerChar_cases (c : Char) :
    lowerChar c = c ∨ ∀ run ∈ barredRuns, run.covers (lowerChar c).toNat = false := by
  unfold lowerChar
  cases hfind : lowercaseRuns.find? (·.covers c.toNat) with
  | none => exact .inl rfl
  | some run =>
    right
    have hcovers := List.find?_some (p := fun run : CaseRun => run.covers c.toNat) hfind
    have hchecked := List.all_eq_true.mp lowercaseRuns_avoid run (List.mem_of_find?_eq_some hfind)
    obtain ⟨hlands, havoids⟩ := Bool.and_eq_true_iff.mp hchecked
    intro other hother
    show other.covers (Char.ofNat (run.lower c.toNat)).toNat = false
    rw [toNat_ofNat (CaseRun.isValidChar_lower hlands hcovers)]
    exact CaseRun.not_covers_lower hlands (List.all_eq_true.mp havoids other hother) hcovers

/-- Lower-casing a text leaves the character as it is, wherever it stands. -/
structure Settled (c : Char) : Prop where
  notSigma     : c ≠ 'Σ'
  notDottedI   : c ≠ 'İ'
  lowerChar_eq : lowerChar c = c

/-- A character in none of the barred runs is settled. -/
theorem settled_of_not_covered (h : ∀ run ∈ barredRuns, run.covers c.toNat = false) :
    Settled c := by
  have hruns : ∀ run ∈ lowercaseRuns, run.covers c.toNat = false := by
    intro run hrun
    exact h run (List.mem_cons_of_mem _ (List.mem_append_left _ hrun))
  constructor
  · rintro rfl
    have hsigma : (lowercaseRuns.any (·.covers 'Σ'.toNat)) = true := by decide
    obtain ⟨run, hrun, hcovers⟩ := List.any_eq_true.mp hsigma
    rw [hruns run hrun] at hcovers
    cases hcovers
  · rintro rfl
    have hdotted := h ⟨0x0130, 0x0130, 1, 0⟩ List.mem_cons_self
    exact absurd hdotted (by decide)
  · have hnone : lowercaseRuns.find? (·.covers c.toNat) = none := by
      rw [List.find?_eq_none]
      intro run hrun
      simp [hruns run hrun]
    rw [lowerChar, hnone]

theorem settled_lowerChar (hsigma : c ≠ 'Σ') (hdotted : c ≠ 'İ') : Settled (lowerChar c) := by
  rcases lowerChar_cases c with hsame | hbarred
  · rw [hsame]
    exact ⟨hsigma, hdotted, hsame⟩
  · exact settled_of_not_covered hbarred

theorem isBlankChar_lowerChar (h : isBlankChar c = false) :
    isBlankChar (lowerChar c) = false := by
  rcases lowerChar_cases c with hsame | hbarred
  · rw [hsame, h]
  · rw [Bool.eq_false_iff, ne_eq, isBlankChar, inRanges_iff]
    rintro ⟨range, hrange, hfirst, hlast⟩
    have hnot := hbarred ⟨range.1, range.2, 1, 0⟩
      (List.mem_append_right _ (List.mem_map_of_mem hrange))
    rw [CaseRun.covers_iff.mpr ⟨hfirst, hlast, Nat.mod_one _⟩] at hnot
    cases hnot

/-! ## Texts -/

/-- What a character becomes between those before and those after it. -/
def lowerForm (before after : List Char) (c : Char) : List Char :=
  if c = 'Σ' then [lowerSigma before after]
  else if c = 'İ' then ['i', '\u0307']
  else [lowerChar c]

theorem lowerChars_cons (before : List Char) (c : Char) (after : List Char) :
    lowerChars before (c :: after) =
      lowerForm before after c ++ lowerChars (c :: before) after := by
  rw [lowerChars, lowerForm]
  by_cases hsigma : c = 'Σ'
  · rw [if_pos hsigma, if_pos hsigma]
    rfl
  · rw [if_neg hsigma, if_neg hsigma]
    by_cases hdotted : c = 'İ'
    · rw [if_pos hdotted, if_pos hdotted]
      rfl
    · rw [if_neg hdotted, if_neg hdotted]
      rfl

/-- Whatever holds of the forms of a sigma, of those of a dotted I, and of the
    form of any other character holds of every character of a form. -/
theorem forall_mem_lowerForm {P : Char → Prop} (hsigma : P 'ς' ∧ P 'σ')
    (hdotted : P 'i' ∧ P '\u0307') (hother : c ≠ 'Σ' → c ≠ 'İ' → P (lowerChar c)) :
    ∀ d ∈ lowerForm before after c, P d := by
  unfold lowerForm
  by_cases hs : c = 'Σ'
  · rw [if_pos hs, List.forall_mem_singleton, lowerSigma]
    split
    · exact hsigma.1
    · exact hsigma.2
  · rw [if_neg hs]
    by_cases hd : c = 'İ'
    · rw [if_pos hd]
      simpa using hdotted
    · rw [if_neg hd, List.forall_mem_singleton]
      exact hother hs hd

theorem lowerForm_ne_nil (before after : List Char) (c : Char) :
    lowerForm before after c ≠ [] := by
  unfold lowerForm
  split
  · simp
  · split <;> simp

/-- Only the empty text becomes empty. -/
theorem lowercase_eq_empty_iff (s : String) : lowercase s = "" ↔ s = "" := by
  rw [lowercase, String.ofList_eq_empty_iff]
  constructor
  · intro h
    cases hs : s.toList with
    | nil => exact String.toList_eq_nil_iff.mp hs
    | cons c after =>
      rw [hs, lowerChars_cons] at h
      exact absurd (List.append_eq_nil_iff.mp h).1 (lowerForm_ne_nil [] after c)
  · intro h
    rw [h]
    rfl

theorem settled_of_mem_lowerForm : ∀ d ∈ lowerForm before after c, Settled d :=
  forall_mem_lowerForm
    ⟨⟨by decide, by decide, by decide⟩, ⟨by decide, by decide, by decide⟩⟩
    ⟨⟨by decide, by decide, by decide⟩, ⟨by decide, by decide, by decide⟩⟩
    settled_lowerChar

theorem not_blank_of_mem_lowerForm (h : isBlankChar c = false) :
    ∀ d ∈ lowerForm before after c, isBlankChar d = false :=
  forall_mem_lowerForm ⟨by decide, by decide⟩ ⟨by decide, by decide⟩
    fun _ _ => isBlankChar_lowerChar h

theorem settled_of_mem_lowerChars : ∀ d ∈ lowerChars before l, Settled d := by
  induction l generalizing before with
  | nil => simp [lowerChars]
  | cons c after ih =>
    rw [lowerChars_cons, List.forall_mem_append]
    exact ⟨settled_of_mem_lowerForm, ih⟩

/-- A text of settled characters is in lower case. -/
theorem lowerChars_of_settled (h : ∀ c ∈ l, Settled c) : lowerChars before l = l := by
  induction l generalizing before with
  | nil => rfl
  | cons c after ih =>
    rw [List.forall_mem_cons] at h
    obtain ⟨hc, hafter⟩ := h
    rw [lowerChars_cons, ih hafter, lowerForm, if_neg hc.notSigma, if_neg hc.notDottedI,
      hc.lowerChar_eq]
    rfl

/-- A text that was lower-cased stays as it is. -/
theorem lowercase_lowercase (s : String) : lowercase (lowercase s) = lowercase s := by
  unfold lowercase
  rw [String.toList_ofList, lowerChars_of_settled settled_of_mem_lowerChars]

/-! ## The ends of a text -/

/-- No blank appears at the start. -/
theorem stops_lowerChars (h : Stops isBlankChar l) :
    Stops isBlankChar (lowerChars before l) := by
  cases l with
  | nil => exact stops_nil
  | cons c after =>
    rw [lowerChars_cons, stops_append (lowerForm_ne_nil before after c)]
    exact stops_of_forall (not_blank_of_mem_lowerForm (stops_cons.mp h))

/-- And none at the end. -/
theorem stops_reverse_lowerChars (h : Stops isBlankChar l.reverse) :
    Stops isBlankChar (lowerChars before l).reverse := by
  induction l generalizing before with
  | nil => exact stops_nil
  | cons c after ih =>
    rw [List.reverse_cons] at h
    rw [lowerChars_cons, List.reverse_append]
    cases after with
    | nil =>
      -- The form of the last character is all that counts.
      have hblank : ∀ d ∈ lowerForm before [] c, isBlankChar d = false :=
        not_blank_of_mem_lowerForm (stops_cons.mp h)
      exact stops_of_forall fun d hd => hblank d (List.mem_reverse.mp hd)
    | cons d rest =>
      have hne : (lowerChars (c :: before) (d :: rest)).reverse ≠ [] := by
        rw [lowerChars_cons]
        simp [lowerForm_ne_nil]
      rw [stops_append hne]
      rw [stops_append (by simp)] at h
      exact ih h

end PluginHost.Text
