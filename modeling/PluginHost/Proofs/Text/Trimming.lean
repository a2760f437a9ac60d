import PluginHost.Text.Blank
import PluginHost.Text.Runs
import Mathlib.Data.List.TakeWhile

/-! # Trimmed text

    Trimming takes off blanks and nothing else (`trimChars_split`), and leaves
    a text that neither starts nor ends with one (`trimmed_trimChars`).  Such a
    text is what trimming makes of it (`trimChars_of_trimmed`). -/

namespace PluginHost.Text

variable {l : List Char}

/-- The text neither starts nor ends with a blank. -/
def Trimmed (l : List Char) : Prop := Stops isBlankChar l ∧ Stops isBlankChar l.reverse

theorem trimChars_of_trimmed (h : Trimmed l) : trimChars l = l := by
  rw [trimChars, dropWhile_of_stops h.1, dropWhile_of_stops h.2, List.reverse_reverse]

/-- Only the blanks around a text are trimmed. -/
theorem trimChars_around {before after : List Char}
    (hbefore : ∀ c ∈ before, isBlankChar c = true) (hafter : ∀ c ∈ after, isBlankChar c = true)
    (hl : ∀ c ∈ l, isBlankChar c = false) (hne : l ≠ []) :
    trimChars (before ++ l ++ after) = l := by
  have hfirst : (before ++ l ++ after).dropWhile isBlankChar = l ++ after := by
    rw [List.append_assoc]
    exact dropWhile_run hbefore ((stops_append hne).mpr (stops_of_forall hl))
  have hlast : (l ++ after).reverse.dropWhile isBlankChar = l.reverse := by
    rw [List.reverse_append]
    exact dropWhile_run (by simpa using hafter) (stops_of_forall (by simpa using hl))
  rw [trimChars, hfirst, hlast, List.reverse_reverse]

/-- Behind what is left there are only the last blanks. -/
theorem trimChars_append_blanks (l : List Char) :
    trimChars l ++ ((l.dropWhile isBlankChar).reverse.takeWhile isBlankChar).reverse =
      l.dropWhile isBlankChar := by
  rw [trimChars, ← List.reverse_append, List.takeWhile_append_dropWhile, List.reverse_reverse]

/-- What is trimmed is blank. -/
theorem trimChars_split (l : List Char) :
    ∃ before after, (∀ c ∈ before, isBlankChar c = true) ∧
      (∀ c ∈ after, isBlankChar c = true) ∧ l = before ++ trimChars l ++ after := by
  refine ⟨l.takeWhile isBlankChar,
    ((l.dropWhile isBlankChar).reverse.takeWhile isBlankChar).reverse, ?_, ?_, ?_⟩
  · intro c hc
    exact List.mem_takeWhile_imp hc
  · intro c hc
    exact List.mem_takeWhile_imp (List.mem_reverse.mp hc)
  · rw [List.append_assoc, trimChars_append_blanks, List.takeWhile_append_dropWhile]

theorem trimmed_trimChars (l : List Char) : Trimmed (trimChars l) := by
  constructor
  · -- What is left starts as the text does without its first blanks.
    by_cases hnil : trimChars l = []
    · rw [hnil]
      exact stops_nil
    · rw [← stops_append hnil, trimChars_append_blanks]
      exact stops_dropWhile isBlankChar l
  · rw [trimChars, List.reverse_reverse]
    exact stops_dropWhile isBlankChar _

/-- A text that was trimmed stays as it is. -/
theorem trim_trim (s : String) : trim (trim s) = trim s := by
  unfold trim
  rw [String.toList_ofList, trimChars_of_trimmed (trimmed_trimChars s.toList)]

/-- Nothing is left of a blank text, and something of any other. -/
theorem trim_eq_empty_iff (s : String) : trim s = "" ↔ isBlank s = true := by
  rw [isBlank, List.all_eq_true, trim, String.ofList_eq_empty_iff]
  constructor
  · intro hnil
    obtain ⟨before, after, hbefore, hafter, hsplit⟩ := trimChars_split s.toList
    rw [hnil, List.append_nil] at hsplit
    rw [hsplit, List.forall_mem_append]
    exact ⟨hbefore, hafter⟩
  · intro hblank
    rw [trimChars, List.dropWhile_eq_nil_iff.mpr hblank]
    rfl

end PluginHost.Text
