import PluginHost.Proofs.VersionGrammar

/-! # The text of a version

    A version is shown with all three numbers, in decimal digits without zeros
    in front, and with its identifiers as they are.  If the version was read
    from some text, its numbers fit in 64 bits and its identifiers may stand
    where they do (`valid_of_parse`), so what is shown is of the grammar again
    (`Valid.written`).

    Main theorem: `parse_text_around`. -/

namespace PluginHost.Version

variable {s : String} {l core : List Char} {v w : Version} {n major minor patch : Nat}

/-! ## Versions that can be written -/

/-- The numbers fit in 64 bits, and the identifiers may stand where they do. -/
structure Valid (v : Version) : Prop where
  identified : Identified v
  major      : v.major < Nat.pow 2 64
  minor      : v.minor < Nat.pow 2 64
  patch      : v.patch < Nat.pow 2 64

/-- Numbers fit, and so do the zeros for those that are left out. -/
theorem Numbers.fit (h : Numbers core major minor patch) :
    major < Nat.pow 2 64 ∧ minor < Nat.pow 2 64 ∧ patch < Nat.pow 2 64 := by
  have hzero : 0 < Nat.pow 2 64 := numeral_zero.fits
  cases h with
  | one ha => exact ⟨ha.fits, hzero, hzero⟩
  | two ha hb => exact ⟨ha.fits, hb.fits, hzero⟩
  | three ha hb hc => exact ⟨ha.fits, hb.fits, hc.fits⟩

theorem Written.valid (h : Written l v) : Valid v := by
  obtain ⟨hidentified, core, hnumbers, -⟩ := h
  obtain ⟨hmajor, hminor, hpatch⟩ := hnumbers.fit
  exact ⟨hidentified, hmajor, hminor, hpatch⟩

/-- Reading only yields versions that can be written. -/
theorem valid_of_parse (h : parse s = .ok v) : Valid v := by
  obtain ⟨before, mark, body, after, -, -, -, -, hbody⟩ := (parse_eq_ok_iff s).mp h
  exact hbody.valid

/-! ## The written form -/

/-- A number is shown as a numeral. -/
theorem numeral_digits (h : n < Nat.pow 2 64) : Numeral (Decimal.digits n) n where
  ne_nil := Decimal.digits_ne_nil n
  digits := fun _ hc => Decimal.isDigit_of_mem_digits hc
  noLeadingZero := by
    intro hhead
    obtain ⟨rest, hrest⟩ := List.head?_eq_some_iff.mp hhead
    rw [hrest, Decimal.digits_eq_zero_cons hrest]
  value := Decimal.valueOf_digits n
  fits := h

theorem toList_text (v : Version) :
    v.text.toList = Decimal.digits v.major ++ '.' :: Decimal.digits v.minor ++ '.' ::
      Decimal.digits v.patch ++ suffixes v := by
  simp [text, suffixes, Decimal.text]

/-- What is shown of a version is the version as people write it. -/
theorem Valid.written (h : Valid v) : Written v.text.toList v := by
  have hnumbers : Numbers (Decimal.digits v.major ++ '.' :: Decimal.digits v.minor ++ '.' ::
      Decimal.digits v.patch) v.major v.minor v.patch :=
    .three (numeral_digits h.major) (numeral_digits h.minor) (numeral_digits h.patch)
  exact ⟨h.identified, _, hnumbers, toList_text v⟩

/-- It is read as the version, also with blanks around it and with a mark. -/
theorem Valid.parse_around (h : Valid v) (before mark after : String)
    (hbefore : Text.isBlank before = true) (hafter : Text.isBlank after = true)
    (hmark : mark ∈ ["", "v", "V"]) : parse (before ++ mark ++ v.text ++ after) = .ok v := by
  rw [parse_eq_ok_iff]
  have hmark' : mark.toList ∈ [[], ['v'], ['V']] := List.mem_map_of_mem hmark
  have htext : (before ++ mark ++ v.text ++ after).toList =
      before.toList ++ mark.toList ++ v.text.toList ++ after.toList := by
    simp only [String.toList_append]
  exact ⟨before.toList, mark.toList, v.text.toList, after.toList, htext,
    List.all_eq_true.mp hbefore, List.all_eq_true.mp hafter, hmark', h.written⟩

theorem Valid.parse_text (h : Valid v) : parse v.text = .ok v := by
  have haround := h.parse_around "" "" "" rfl rfl (by simp)
  simpa using haround

/-- No two versions are shown alike. -/
theorem Valid.eq_of_text_eq (hv : Valid v) (hw : Valid w) (h : v.text = w.text) : v = w := by
  have hread := hw.parse_text
  rw [← h, hv.parse_text] at hread
  exact Except.ok.inj hread

/-! ## Main theorem -/

/-- **A version that was read is read again from what is shown of it**, as it is
    or with blanks around it and a leading mark, and two texts are read as one
    version exactly if the same is shown for both. -/
theorem parse_text_around {s : String} {v : Version} (h : parse s = .ok v) :
    parse v.text = .ok v ∧
      (∀ before mark after : String, Text.isBlank before = true → Text.isBlank after = true →
        mark ∈ ["", "v", "V"] → parse (before ++ mark ++ v.text ++ after) = .ok v) ∧
      ∀ (t : String) (w : Version), parse t = .ok w → (v = w ↔ v.text = w.text) := by
  have hv := valid_of_parse h
  refine ⟨hv.parse_text, ?_, ?_⟩
  · intro before mark after hbefore hafter hmark
    exact hv.parse_around before mark after hbefore hafter hmark
  · intro t w ht
    constructor
    · intro heq
      rw [heq]
    · intro htext
      exact hv.eq_of_text_eq (valid_of_parse ht) htext

/-- A version with points, hyphens and zeros in its suffixes, written short, in
    full, and as it is shown. -/
theorem parse_text_around_suffixed :
    parse " v4.1-rc.-1.0x+007.-" = .ok ⟨4, 1, 0, ["rc", "-1", "0x"], ["007", "-"]⟩ ∧
      parse "\t\nV4.1.0-rc.-1.0x+007.-\u3000" = .ok ⟨4, 1, 0, ["rc", "-1", "0x"], ["007", "-"]⟩ ∧
      ∀ (t : String) (w : Version), parse t = .ok w →
        (⟨4, 1, 0, ["rc", "-1", "0x"], ["007", "-"]⟩ = w ↔ "4.1.0-rc.-1.0x+007.-" = w.text) := by
  have hread : parse " v4.1-rc.-1.0x+007.-" =
      .ok ⟨4, 1, 0, ["rc", "-1", "0x"], ["007", "-"]⟩ := by
    decide +kernel
  have htext : Version.text ⟨4, 1, 0, ["rc", "-1", "0x"], ["007", "-"]⟩ =
      "4.1.0-rc.-1.0x+007.-" := by
    decide +kernel
  obtain ⟨-, haround, hsame⟩ := parse_text_around hread
  rw [htext] at haround hsame
  exact ⟨hread, haround "\t\n" "V" "\u3000" (by decide) (by decide) (by decide), hsame⟩

end PluginHost.Version
