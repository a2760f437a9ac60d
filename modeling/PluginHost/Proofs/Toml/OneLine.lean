import PluginHost.Proofs.Toml.Values

/-! # Values on one line

    In the compact layout a value whose texts have no line feed is written on
    one line, without control characters (`isLine_chars`).  So its text may
    stand in a comment. -/

namespace PluginHost.Toml

/-- A text that may stand on one line, also in a comment. -/
def IsLine (l : List Char) : Prop := ∀ c ∈ l, isTextChar c = true

section

variable {a b l : List Char} {c : Char}

@[simp] theorem isLine_nil : IsLine [] := List.forall_mem_nil _

@[simp] theorem isLine_cons : IsLine (c :: l) ↔ isTextChar c = true ∧ IsLine l :=
  List.forall_mem_cons

@[simp] theorem isLine_append : IsLine (a ++ b) ↔ IsLine a ∧ IsLine b :=
  List.forall_mem_append

theorem isLine_flatMap {α : Type} {write : α → List Char} {parts : List α}
    (h : ∀ p ∈ parts, IsLine (write p)) : IsLine (parts.flatMap write) := by
  intro c hc
  obtain ⟨p, hp, hc⟩ := List.mem_flatMap.mp hc
  exact h p hp c hc

theorem isLine_intercalate {sep : List Char} {texts : List (List Char)} (hsep : IsLine sep)
    (h : ∀ text ∈ texts, IsLine text) : IsLine (List.intercalate sep texts) := by
  induction texts with
  | nil => simp [List.intercalate]
  | cons text texts ih =>
    obtain ⟨htext, htexts⟩ := List.forall_mem_cons.mp h
    have hlater := ih htexts
    cases texts with
    | nil => simpa [List.intercalate] using htext
    | cons next texts =>
      have hstep : List.intercalate sep (text :: next :: texts) =
          text ++ (sep ++ List.intercalate sep (next :: texts)) := by
        simp [List.intercalate]
      rw [hstep, isLine_append, isLine_append]
      exact ⟨htext, hsep, hlater⟩

/-! ## Strings and keys -/

theorem isLine_escapeBasic {oneLine : Bool} (h : oneLine = true ∨ c ≠ '\n') :
    IsLine (escapeBasic oneLine c) := by
  rcases escapeBasic_cases oneLine c with ⟨hself, -, htext, hline⟩ | ⟨e, hescape, he⟩
  · rw [hself, isLine_cons]
    have hne : c ≠ '\n' := h.elim (fun hone => (hline hone).2) id
    exact ⟨htext.resolve_right hne, isLine_nil⟩
  · rw [hescape, isLine_cons]
    exact ⟨by decide, he.chars⟩

theorem isLine_escapeLines {quotes : Nat} (h : '\n' ∉ l) : IsLine (escapeLines quotes l) := by
  induction l generalizing quotes with
  | nil => exact isLine_nil
  | cons c l ih =>
    simp only [List.mem_cons, not_or] at h
    obtain ⟨hc, hl⟩ := h
    rw [escapeLines]
    split
    · split
      · exact isLine_cons.mpr ⟨by decide, isLine_cons.mpr ⟨by decide, ih hl⟩⟩
      · exact isLine_cons.mpr ⟨by decide, ih hl⟩
    · exact isLine_append.mpr ⟨isLine_escapeBasic (.inr (Ne.symm hc)), ih hl⟩

theorem isLine_basic (l : List Char) : IsLine (inForm l .basic) := by
  have hinner : IsLine (l.flatMap (escapeBasic true)) :=
    isLine_flatMap fun c _ => isLine_escapeBasic (.inl rfl)
  simp [inForm, hinner, isTextChar]

theorem isLine_literal (h : Form.literal.Holds l) : IsLine (inForm l .literal) := by
  have hinner : IsLine l := fun c hc => (h c hc).1
  simp [inForm, hinner, isTextChar]

/-- A text without line feeds stands on one line, in any form that holds it. -/
theorem isLine_inForm {form : Form} (h : form.Holds l) (hline : '\n' ∉ l) :
    IsLine (inForm l form) := by
  have hleading : leadingNewline l = [] := by simp [leadingNewline, hline]
  cases form with
  | basic => exact isLine_basic l
  | literal => exact isLine_literal h
  | basicLines => simp [inForm, hleading, isLine_escapeLines hline, isTextChar]
  | literalLines =>
    have hinner : IsLine l := by
      intro c hc
      refine (h.2 c hc).resolve_right ?_
      rintro rfl
      exact hline hc
    simp [inForm, hleading, hinner, isTextChar]

theorem isTextChar_of_isBareKeyChar (h : isBareKeyChar c = true) : isTextChar c = true := by
  have hall : ∀ n < 128, isBareKeyChar (Char.ofNat n) = true → isTextChar (Char.ofNat n) = true := by
    decide
  by_cases hascii : c.toNat < 128
  · rw [← Char.ofNat_toNat c] at h ⊢
    exact hall c.toNat hascii h
  · -- Control characters are ASCII.
    simp only [isTextChar, Bool.or_eq_true, beq_iff_eq, Bool.and_eq_true, decide_eq_true_eq,
      bne_iff_ne]
    omega

theorem isLine_keyChars (key : String) : IsLine (keyChars key) := by
  rw [keyChars]
  by_cases hbare : isBareKey key.toList = true
  · rw [if_pos hbare]
    simp only [isBareKey, Bool.and_eq_true, List.all_eq_true] at hbare
    exact fun c hc => isTextChar_of_isBareKeyChar (hbare.2 c hc)
  · rw [if_neg hbare]
    rcases keyFormOf_cases key.toList with hform | ⟨hform, hholds⟩
    · rw [hform]
      exact isLine_basic _
    · rw [hform]
      exact isLine_literal hholds

/-! ## Numbers and date-times -/

theorem isLine_of_isDigit (h : ∀ c ∈ l, c.isDigit = true) : IsLine l := by
  intro c hc
  apply isTextChar_of_isBareKeyChar
  simp [isBareKeyChar, Char.isAlphanum, h c hc]

theorem isLine_digits (n : Nat) : IsLine (Decimal.digits n) :=
  isLine_of_isDigit fun _ hc => Decimal.isDigit_of_mem_digits hc

theorem isLine_zeros (n : Nat) : IsLine (List.replicate n '0') := by
  intro c hc
  rw [List.eq_of_mem_replicate hc]
  decide

theorem isLine_digitsPadded (width n : Nat) : IsLine (Decimal.digitsPadded width n) :=
  isLine_append.mpr ⟨isLine_zeros _, isLine_digits n⟩

theorem isLine_scientific (s : Decimal.Scientific) : IsLine s.positional := by
  have hdigits := isLine_digits s.coefficient
  unfold Decimal.Scientific.positional
  simp only []
  split
  · simp [hdigits, isLine_zeros, isTextChar]
  · split
    · have htake : IsLine (List.take ((Decimal.digits s.coefficient).length - (-s.power).toNat)
          (Decimal.digits s.coefficient)) := fun c hc => hdigits c (List.mem_of_mem_take hc)
      have hdrop : IsLine (List.drop ((Decimal.digits s.coefficient).length - (-s.power).toNat)
          (Decimal.digits s.coefficient)) := fun c hc => hdigits c (List.mem_of_mem_drop hc)
      simp [htake, hdrop, isTextChar]
    · simp [hdigits, isLine_zeros, isTextChar]

theorem isLine_positional (x : Decimal.Binary64) :
    IsLine (Decimal.positional floatSpelling x) := by
  have hsign : IsLine (if x.isNegative then ['-'] else []) := by
    split <;> simp [isTextChar]
  unfold Decimal.positional
  split
  · simp [floatSpelling, isTextChar]
  · simp only []
    split
    · simp [hsign, floatSpelling, isTextChar]
    · split
      · simp [hsign, isTextChar]
      · simp [hsign, isLine_scientific]

theorem isLine_date (d : Date) : IsLine d.chars := by
  simp [Date.chars, isLine_digitsPadded, isTextChar]

theorem isLine_time (t : Time) : IsLine t.chars := by
  have hfraction : IsLine (dropTrailingZeros (Decimal.digitsPadded 9 t.nanosecond)) := by
    intro c hc
    have hmem := (List.dropWhile_suffix _).subset (List.mem_reverse.mp hc)
    exact isLine_digitsPadded 9 t.nanosecond c (List.mem_reverse.mp hmem)
  unfold Time.chars
  split <;> simp [hfraction, isLine_digitsPadded, isTextChar]

theorem isLine_offset (o : Offset) : IsLine o.chars := by
  cases o with
  | utc => simp [Offset.chars, isTextChar]
  | minutes east =>
    have hsign : isTextChar (if east < 0 then '-' else '+') = true := by
      split <;> decide
    have hcolon : isTextChar ':' = true := by decide
    simp [Offset.chars, hsign, hcolon, isLine_digitsPadded]

theorem isLine_datetime (d : Datetime) : IsLine d.chars := by
  cases d <;> simp [Datetime.chars, isLine_date, isLine_time, isLine_offset, isTextChar]

/-! ## Values -/

/-- The value is no text with a line feed. -/
def Value.IsOneLine : Value → Prop
  | .string text => '\n' ∉ text.toList
  | _ => True

/-- No text within the value has a line feed. -/
def Value.OneLine (v : Value) : Prop := v.All IsOneLine

theorem IsBare.isLine {scalar : Scalar} (h : IsBare l scalar) : IsLine l := by
  intro c hc
  refine isTextChar_of_isBareKeyChar ?_
  have hvalue := h.chars c hc
  simp only [isBareValueChar, Bool.or_eq_true] at hvalue
  rw [isBareKeyChar, Bool.or_assoc, Bool.or_eq_true, Bool.or_eq_true]
  exact hvalue.imp_right .inr

theorem isLine_arrayChars {items : List (List Char)} (h : ∀ item ∈ items, IsLine item) :
    IsLine (arrayChars .compact items) := by
  have hcomma : IsLine [',', ' '] := by simp [isTextChar]
  have hinner := isLine_intercalate hcomma h
  simp [arrayChars, hinner, isTextChar]

theorem isLine_inlineTableChars {entries : List (List Char)} (h : ∀ e ∈ entries, IsLine e) :
    IsLine (inlineTableChars entries) := by
  have hcomma : IsLine [',', ' '] := by simp [isTextChar]
  have hinner := isLine_intercalate hcomma h
  rw [inlineTableChars]
  split
  · simp [isTextChar]
  · simp [hinner, isTextChar]

/-- **A value without line feeds is written on one line.** -/
theorem isLine_chars {v : Value} (hline : v.OneLine) : IsLine (v.chars .compact) := by
  induction v using Value.byParts with
  | h v ih =>
    cases v with
    | string s =>
      rw [Value.chars, stringChars]
      exact isLine_inForm (formOf_holds _) hline.here
    | integer n =>
      rw [Value.chars]
      exact (isBare_integerChars n).isLine
    | float x =>
      rw [Value.chars]
      exact isLine_positional x
    | boolean b =>
      rw [Value.chars]
      exact (isBare_booleanChars b).isLine
    | datetime d =>
      rw [Value.chars]
      exact isLine_datetime d
    | array items =>
      rw [Value.chars, itemsChars_eq_map]
      refine isLine_arrayChars (List.forall_mem_map.mpr fun w hw => ?_)
      exact ih w hw (hline.item hw)
    | table entries =>
      rw [Value.chars, entriesChars_eq_map]
      refine isLine_inlineTableChars (List.forall_mem_map.mpr fun e he => ?_)
      have hvalue := ih e.2 (List.mem_map_of_mem he) (hline.entry he)
      simp [pairChars, isLine_keyChars, hvalue, isTextChar]

end

end PluginHost.Toml
