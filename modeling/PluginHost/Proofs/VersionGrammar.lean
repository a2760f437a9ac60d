import PluginHost.Proofs.Steps
import PluginHost.Proofs.Text.Trimming
import PluginHost.Text.Runs
import PluginHost.Version.Reader
import Mathlib.Data.List.TakeWhile

/-! # Which texts are versions

    The grammar of versions as people write them: one to three numbers joined
    by points, then the identifiers of a pre-release and of a build, each part
    in its own words and without the reader.  The reader is compared with it
    part by part; what it finds is of the grammar (`_sound`), and what is of
    the grammar it finds (`_complete`), provided that the text does not go on
    with more of the same.

    Main theorem (`parse_iff_written`): exactly the texts of the grammar are
    versions, blanks and a leading mark apart, and the full form is read as
    the strict reader reads it. -/

namespace PluginHost.Version

open Text (Stops stops_cons stops_nil trimChars_around trimChars_split)

/-! ## The grammar -/

/-- A number in decimal digits without a leading zero, that fits in 64 bits. -/
structure Numeral (l : List Char) (n : Nat) : Prop where
  ne_nil        : l ≠ []
  digits        : ∀ c ∈ l, c.isDigit = true
  noLeadingZero : l.head? = some '0' → l = ['0']
  value         : Decimal.valueOf l = n
  fits          : n < Nat.pow 2 64

/-- An identifier: letters, digits and hyphens.  One of a pre-release that is
    all digits has no leading zero. -/
structure Identifier (part : Part) (l : List Char) : Prop where
  ne_nil        : l ≠ []
  chars         : ∀ c ∈ l, c.isAlphanum = true ∨ c = '-'
  noLeadingZero : part = .pre → (∀ c ∈ l, c.isDigit = true) → l.head? = some '0' → l = ['0']

/-- One to three numbers joined by points; those that are not written are
    zero. -/
inductive Numbers : List Char → Nat → Nat → Nat → Prop where
  | one {a major} : Numeral a major → Numbers a major 0 0
  | two {a b major minor} :
    Numeral a major → Numeral b minor → Numbers (a ++ '.' :: b) major minor 0
  | three {a b c major minor patch} :
    Numeral a major → Numeral b minor → Numeral c patch →
      Numbers (a ++ '.' :: b ++ '.' :: c) major minor patch

/-- The identifiers of both suffixes may stand where they do. -/
structure Identified (v : Version) : Prop where
  pre   : ∀ i ∈ v.pre, Identifier .pre i.toList
  build : ∀ i ∈ v.build, Identifier .build i.toList

/-- Both suffixes as they are written: each with its mark, the identifiers
    joined by points, nothing at all for none. -/
def suffixes (v : Version) : List Char :=
  (suffixText "-" v.pre ++ suffixText "+" v.build).toList

/-- The text is the version in the form people write, without blanks and
    without a leading mark. -/
def Written (l : List Char) (v : Version) : Prop :=
  Identified v ∧ ∃ core, Numbers core v.major v.minor v.patch ∧ l = core ++ suffixes v

/-- The text is the version with all three numbers. -/
def WrittenInFull (l : List Char) (v : Version) : Prop :=
  Identified v ∧ ∃ a b c, Numeral a v.major ∧ Numeral b v.minor ∧ Numeral c v.patch ∧
    l = a ++ '.' :: (b ++ '.' :: (c ++ suffixes v))

/-! ## Numbers -/

variable {part : Part} {l rest ds : List Char} {n value : Nat}

/-- A value only grows with further digits. -/
theorem le_valueFrom (l : List Char) : value ≤ Decimal.valueFrom 10 value l := by
  induction l generalizing value with
  | nil => exact Nat.le_refl value
  | cons c l ih =>
    have hstep : value ≤ value * 10 + Decimal.digitValue c := by omega
    exact Nat.le_trans hstep ih

theorem digitValue_eq_zero {c : Char} (h : c.isDigit = true) :
    Decimal.digitValue c = 0 ↔ c = '0' := by
  have hbounds : 48 ≤ c.toNat ∧ c.toNat ≤ 57 := by
    simpa [Char.isDigit, UInt32.le_iff_toNat_le] using h
  rw [Decimal.digitValue, if_pos h]
  constructor
  · intro hzero
    apply Char.ext
    apply UInt32.toNat_inj.mp
    show c.toNat = 48
    omega
  · rintro rfl
    rfl

theorem digitValue_le_nine {c : Char} (h : c.isDigit = true) : Decimal.digitValue c ≤ 9 := by
  have hbounds : 48 ≤ c.toNat ∧ c.toNat ≤ 57 := by
    simpa [Char.isDigit, UInt32.le_iff_toNat_le] using h
  rw [Decimal.digitValue, if_pos h]
  omega

theorem digitValue_le (c : Char) (h : c.isDigit = true) : Decimal.digitValue c ≤ maxNumber := by
  have hmax : 9 ≤ maxNumber := by decide
  exact Nat.le_trans (digitValue_le_nine h) hmax

theorem moreDigits_sound (h : moreDigits part value l = .ok (n, rest)) (hvalue : value ≤ maxNumber) :
    ∃ ds, l = ds ++ rest ∧ (∀ c ∈ ds, c.isDigit = true) ∧ (value = 0 → ds = []) ∧
      Decimal.valueFrom 10 value ds = n ∧ n ≤ maxNumber := by
  fun_induction moreDigits part value l with
  | case1 value =>
    cases h
    exact ⟨[], rfl, by simp, fun _ => rfl, rfl, hvalue⟩
  | case2 c l hdigit => cases h
  | case3 value c l hdigit hzero hfits ih =>
    obtain ⟨ds, rfl, hds, -, hn, hmax⟩ := ih h hfits
    refine ⟨c :: ds, rfl, ?_, fun hz => absurd hz hzero, hn, hmax⟩
    simpa [hdigit] using hds
  | case4 value c l hdigit hzero hfits => cases h
  | case5 value c l hdigit =>
    cases h
    exact ⟨[], rfl, by simp, fun _ => rfl, rfl, hvalue⟩

theorem moreDigits_complete (hds : ∀ c ∈ ds, c.isDigit = true) (hrest : Stops Char.isDigit rest)
    (hzero : value = 0 → ds = []) (hfits : Decimal.valueFrom 10 value ds ≤ maxNumber) :
    moreDigits part value (ds ++ rest) = .ok (Decimal.valueFrom 10 value ds, rest) := by
  induction ds generalizing value with
  | nil =>
    cases rest with
    | nil => rfl
    | cons c rest => simp [moreDigits, stops_cons.mp hrest, Decimal.valueFrom]
  | cons c ds ih =>
    have hc : c.isDigit = true := hds c List.mem_cons_self
    have hvalue : value ≠ 0 := fun hz => List.cons_ne_nil c ds (hzero hz)
    have hstep : value * 10 + Decimal.digitValue c ≤ maxNumber :=
      Nat.le_trans (le_valueFrom ds) hfits
    rw [List.cons_append, moreDigits, if_pos hc, if_neg hvalue, if_pos hstep]
    refine ih (fun d hd => hds d (List.mem_cons_of_mem c hd)) (fun hz => ?_) hfits
    omega

theorem number_sound (h : number part l = .ok (n, rest)) : ∃ ds, l = ds ++ rest ∧ Numeral ds n := by
  cases l with
  | nil => cases h
  | cons c l =>
    rw [number] at h
    split at h
    · rename_i hc
      obtain ⟨ds, rfl, hds, hzero, hn, hmax⟩ := moreDigits_sound h (digitValue_le c hc)
      have hvalue : Decimal.valueOf (c :: ds) = n := by
        rw [← hn]
        simp [Decimal.valueOf, Decimal.valueFrom]
      refine ⟨c :: ds, rfl, List.cons_ne_nil c ds, by simpa [hc] using hds, ?_, hvalue, ?_⟩
      · intro hhead
        obtain rfl : c = '0' := by simpa using hhead
        rw [hzero rfl]
      · have hlimit : maxNumber < Nat.pow 2 64 := by decide
        omega
    · cases h

theorem number_complete (h : Numeral ds n) (hrest : Stops Char.isDigit rest) :
    number part (ds ++ rest) = .ok (n, rest) := by
  cases ds with
  | nil => exact absurd rfl h.ne_nil
  | cons c ds =>
    have hc : c.isDigit = true := h.digits c List.mem_cons_self
    have hvalue : Decimal.valueFrom 10 (Decimal.digitValue c) ds = n := by
      rw [← h.value]
      simp [Decimal.valueOf, Decimal.valueFrom]
    have hmax : maxNumber = Nat.pow 2 64 - 1 := by decide
    rw [List.cons_append, number, if_pos hc, ← hvalue]
    refine moreDigits_complete (fun d hd => h.digits d (List.mem_cons_of_mem c hd)) hrest ?_ ?_
    · intro hzero
      -- A first digit zero is the only one.
      obtain rfl := (digitValue_eq_zero hc).mp hzero
      simpa using h.noLeadingZero rfl
    · have hfits := h.fits
      omega

/-! ## Identifiers -/

theorem isIdentifierChar_iff {c : Char} :
    isIdentifierChar c = true ↔ c.isAlphanum = true ∨ c = '-' := by
  simp [isIdentifierChar]

theorem finish_sound {current : List Char} {i : String}
    (h : identifiersFrom.finish part current = .ok i)
    (hcurrent : ∀ c ∈ current, isIdentifierChar c = true) :
    i.toList = current.reverse ∧ Identifier part i.toList := by
  unfold identifiersFrom.finish at h
  split at h
  · cases h
  · rename_i hempty
    split at h
    · cases h
    · rename_i hzero
      cases h
      rw [String.toList_ofList]
      refine ⟨rfl, by simpa using hempty, ?_, ?_⟩
      · intro c hc
        exact isIdentifierChar_iff.mp (hcurrent c (List.mem_reverse.mp hc))
      · rintro rfl hdigits hhead
        -- Were it longer than its zero, it would have been refused.
        have hlength : ¬1 < current.reverse.length := by
          intro hlong
          apply hzero
          simpa [hasLeadingZero, hhead, List.all_eq_true.mpr hdigits] using hlong
        match hreverse : current.reverse with
        | [] => simp [hreverse] at hhead
        | [c] => simpa [hreverse] using hhead
        | c :: d :: more => simp [hreverse] at hlength

theorem finish_complete {i : String} (h : Identifier part i.toList) :
    identifiersFrom.finish part i.toList.reverse = .ok i := by
  have hempty : ¬i.toList.reverse.isEmpty = true := by simpa using h.ne_nil
  have hzero : ¬hasLeadingZero part i.toList = true := by
    intro hlead
    simp only [hasLeadingZero, Bool.and_eq_true, beq_iff_eq, decide_eq_true_eq,
      List.all_eq_true] at hlead
    obtain ⟨⟨⟨hpart, hdigits⟩, hlong⟩, hhead⟩ := hlead
    rw [h.noLeadingZero hpart hdigits hhead] at hlong
    exact absurd hlong (by decide)
  rw [identifiersFrom.finish, if_neg hempty, List.reverse_reverse, if_neg hzero,
    String.ofList_toList]

theorem joinIdentifiers_singleton (i : String) : (joinIdentifiers [i]).toList = i.toList := by
  simp [joinIdentifiers]

theorem joinIdentifiers_cons (i j : String) (ids : List String) :
    (joinIdentifiers (i :: j :: ids)).toList =
      i.toList ++ '.' :: (joinIdentifiers (j :: ids)).toList := by
  simp [joinIdentifiers, String.intercalate_cons_cons]

theorem identifiersFrom_sound {current : List Char} {ids : List String}
    (h : identifiersFrom part current l = .ok (ids, rest))
    (hcurrent : ∀ c ∈ current, isIdentifierChar c = true) :
    ids ≠ [] ∧ (∀ i ∈ ids, Identifier part i.toList) ∧
      current.reverse ++ l = (joinIdentifiers ids).toList ++ rest := by
  fun_induction identifiersFrom part current l generalizing ids rest with
  | case1 current =>
    obtain ⟨i, hi, hids⟩ := bind_eq_ok h
    cases hids
    obtain ⟨htext, hidentifier⟩ := finish_sound hi hcurrent
    exact ⟨by simp, by simpa using hidentifier, by simp [joinIdentifiers_singleton, htext]⟩
  | case2 current c l hc ih =>
    have hcurrent' : ∀ d ∈ c :: current, isIdentifierChar d = true := by
      simpa [hc] using hcurrent
    simpa using ih h hcurrent'
  | case3 current c l hc ih =>
    obtain ⟨i, hi, hids⟩ := bind_eq_ok h
    obtain ⟨htext, hidentifier⟩ := finish_sound hi hcurrent
    split at hids
    · rename_i hpoint
      obtain ⟨⟨later, rest'⟩, hlater, hids⟩ := bind_eq_ok hids
      cases hids
      obtain ⟨hne, hall, hjoin⟩ := ih hlater (by simp)
      obtain ⟨j, more, rfl⟩ := List.exists_cons_of_ne_nil hne
      refine ⟨by simp, by simpa [hidentifier] using hall, ?_⟩
      rw [joinIdentifiers_cons, htext, hpoint, List.append_assoc, List.cons_append, ← hjoin]
      rfl
    · cases hids
      exact ⟨by simp, by simpa using hidentifier, by simp [joinIdentifiers_singleton, htext]⟩

/-- The characters of an identifier are all taken. -/
theorem identifiersFrom_append {a current : List Char} (ha : ∀ c ∈ a, isIdentifierChar c = true) :
    identifiersFrom part current (a ++ rest) = identifiersFrom part (a.reverse ++ current) rest := by
  induction a generalizing current with
  | nil => rfl
  | cons c a ih =>
    have hc : isIdentifierChar c = true := ha c List.mem_cons_self
    rw [List.cons_append, identifiersFrom, if_pos hc,
      ih fun d hd => ha d (List.mem_cons_of_mem c hd)]
    simp

theorem identifiersFrom_complete {ids : List String} (hne : ids ≠ [])
    (hids : ∀ i ∈ ids, Identifier part i.toList) (hrest : Stops isIdentifierChar rest)
    (hpoint : rest.head? ≠ some '.') :
    identifiersFrom part [] ((joinIdentifiers ids).toList ++ rest) = .ok (ids, rest) := by
  induction ids with
  | nil => exact absurd rfl hne
  | cons i ids ih =>
    have hi : Identifier part i.toList := hids i List.mem_cons_self
    have hchars : ∀ c ∈ i.toList, isIdentifierChar c = true := fun c hc =>
      isIdentifierChar_iff.mpr (hi.chars c hc)
    cases ids with
    | nil =>
      rw [joinIdentifiers_singleton, identifiersFrom_append hchars, List.append_nil]
      cases rest with
      | nil => rw [identifiersFrom, finish_complete hi]; rfl
      | cons c rest =>
        have hc : isIdentifierChar c = false := stops_cons.mp hrest
        have hne : c ≠ '.' := by simpa using hpoint
        rw [identifiersFrom, if_neg (by simp [hc]), finish_complete hi]
        simp [bind, Except.bind, hne, pure, Except.pure]
    | cons j more =>
      have hlater := ih (by simp) fun i' hi' => hids i' (List.mem_cons_of_mem i hi')
      rw [joinIdentifiers_cons, List.append_assoc, identifiersFrom_append hchars, List.append_nil,
        List.cons_append, identifiersFrom, if_neg (by decide), finish_complete hi]
      simp [bind, Except.bind, hlater, pure, Except.pure]

/-! ## Suffixes -/

@[simp] theorem suffixText_nil (mark : String) : suffixText mark [] = "" := rfl

theorem toList_suffixText {mark : String} {ids : List String} (h : ids ≠ []) :
    (suffixText mark ids).toList = mark.toList ++ (joinIdentifiers ids).toList := by
  rw [suffixText, if_neg (by simpa using h), String.toList_append]

/-- A suffix is nothing, or starts with its mark. -/
theorem head_suffixText {mark : String} {c d : Char} {ids : List String}
    (hmark : mark.toList = [c]) (h : (suffixText mark ids).toList.head? = some d) : d = c := by
  by_cases hids : ids = []
  · rw [hids] at h
    cases h
  · rw [toList_suffixText hids, hmark] at h
    exact (Option.some.inj h).symm

theorem stops_suffixText {p : Char → Bool} {mark : String} {c : Char} (hmark : mark.toList = [c])
    (hc : p c = false) (ids : List String) : Stops p (suffixText mark ids).toList := by
  intro d hd
  rw [head_suffixText hmark hd]
  exact hc

theorem suffixPart_sound {mark : String} {c : Char} {ids : List String} (hmark : mark.toList = [c])
    (h : suffixPart part c l = .ok (ids, rest)) :
    (∀ i ∈ ids, Identifier part i.toList) ∧ l = (suffixText mark ids).toList ++ rest := by
  cases l with
  | nil =>
    cases h
    exact ⟨by simp, rfl⟩
  | cons d l =>
    rw [suffixPart] at h
    split at h
    · rename_i hd
      obtain ⟨hne, hall, hjoin⟩ := identifiersFrom_sound h (by simp)
      refine ⟨hall, ?_⟩
      rw [toList_suffixText hne, hmark, List.append_assoc, ← hjoin, hd]
      rfl
    · cases h
      exact ⟨by simp, rfl⟩

theorem suffixPart_complete {mark : String} {c : Char} {ids : List String}
    (hmark : mark.toList = [c]) (hids : ∀ i ∈ ids, Identifier part i.toList)
    (hrest : Stops isIdentifierChar rest) (hpoint : rest.head? ≠ some '.')
    (hother : rest.head? ≠ some c) :
    suffixPart part c ((suffixText mark ids).toList ++ rest) = .ok (ids, rest) := by
  by_cases hne : ids = []
  · subst hne
    cases rest with
    | nil => rfl
    | cons d rest =>
      have hd : d ≠ c := by simpa using hother
      simp [suffixPart, hd]
  · rw [toList_suffixText hne, hmark, List.append_assoc, List.cons_append, suffixPart,
      if_pos rfl, List.nil_append]
    exact identifiersFrom_complete hne hids hrest hpoint

/-! ## The full form -/

variable {v : Version}

theorem dot_eq_ok (h : dot part l = .ok rest) : l = '.' :: rest := by
  cases l with
  | nil => cases h
  | cons c l =>
    rw [dot] at h
    split at h
    · rename_i hc
      cases h
      rw [hc]
    · cases h

theorem suffixes_eq (v : Version) :
    suffixes v = (suffixText "-" v.pre).toList ++ (suffixText "+" v.build).toList := by
  rw [suffixes, String.toList_append]

theorem parseFull_sound (h : parseFull l = .ok v) : WrittenInFull l v := by
  unfold parseFull at h
  split at h
  · cases h
  obtain ⟨⟨major, l₁⟩, hmajor, h₁⟩ := bind_eq_ok h
  obtain ⟨l₂, hdot₁, h₂⟩ := bind_eq_ok h₁
  obtain ⟨⟨minor, l₃⟩, hminor, h₃⟩ := bind_eq_ok h₂
  obtain ⟨l₄, hdot₂, h₄⟩ := bind_eq_ok h₃
  obtain ⟨⟨patch, l₅⟩, hpatch, h₅⟩ := bind_eq_ok h₄
  obtain ⟨⟨pre, l₆⟩, hpre, h₆⟩ := bind_eq_ok h₅
  obtain ⟨⟨build, l₇⟩, hbuild, hend⟩ := bind_eq_ok h₆
  obtain ⟨a, rfl, ha⟩ := number_sound hmajor
  obtain rfl := dot_eq_ok hdot₁
  obtain ⟨b, rfl, hb⟩ := number_sound hminor
  obtain rfl := dot_eq_ok hdot₂
  obtain ⟨c, rfl, hc⟩ := number_sound hpatch
  have hminus : "-".toList = ['-'] := rfl
  have hplus : "+".toList = ['+'] := rfl
  obtain ⟨hpres, rfl⟩ := suffixPart_sound hminus hpre
  obtain ⟨hbuilds, rfl⟩ := suffixPart_sound hplus hbuild
  -- Nothing may follow the last suffix.
  cases l₇ with
  | cons d l₇ => cases hend
  | nil =>
    cases hend
    exact ⟨⟨hpres, hbuilds⟩, a, b, c, ha, hb, hc, by rw [suffixes_eq, List.append_nil]⟩

/-- Numbers end where suffixes start. -/
theorem stops_suffixes {p : Char → Bool} (hminus : p '-' = false) (hplus : p '+' = false)
    (v : Version) : Stops p (suffixes v) := by
  rw [suffixes_eq]
  by_cases hpre : v.pre = []
  · rw [hpre]
    exact stops_suffixText rfl hplus v.build
  · rw [toList_suffixText hpre]
    exact stops_cons.mpr hminus

theorem parseFull_complete (h : WrittenInFull l v) : parseFull l = .ok v := by
  obtain ⟨⟨hpres, hbuilds⟩, a, b, c, ha, hb, hc, rfl⟩ := h
  have hmajor : number .major (a ++ '.' :: (b ++ '.' :: (c ++ suffixes v))) =
      .ok (v.major, '.' :: (b ++ '.' :: (c ++ suffixes v))) :=
    number_complete ha (stops_cons.mpr rfl)
  have hminor : number .minor (b ++ '.' :: (c ++ suffixes v)) =
      .ok (v.minor, '.' :: (c ++ suffixes v)) :=
    number_complete hb (stops_cons.mpr rfl)
  have hpatch : number .patch (c ++ suffixes v) = .ok (v.patch, suffixes v) :=
    number_complete hc (stops_suffixes rfl rfl v)
  have hplus : ∀ d, (suffixText "+" v.build).toList.head? = some d → d = '+' := fun d hd =>
    head_suffixText rfl hd
  have hpre : suffixPart .pre '-' (suffixes v) = .ok (v.pre, (suffixText "+" v.build).toList) := by
    rw [suffixes_eq]
    refine suffixPart_complete rfl hpres (stops_suffixText rfl rfl v.build) ?_ ?_
    · exact fun hd => absurd (hplus _ hd) (by decide)
    · exact fun hd => absurd (hplus _ hd) (by decide)
  have hbuild : suffixPart .build '+' (suffixText "+" v.build).toList = .ok (v.build, []) := by
    rw [← List.append_nil (suffixText "+" v.build).toList]
    exact suffixPart_complete rfl hbuilds stops_nil (by simp) (by simp)
  have hnonempty : (a ++ '.' :: (b ++ '.' :: (c ++ suffixes v))).isEmpty = false := by simp
  simp only [parseFull, hnonempty, bind, Except.bind, hmajor, dot, if_true, hminor, hpatch,
    hpre, hbuild, pure, Except.pure]
  rfl

/-! ## Numbers that are left out -/

/-- A text with all three numbers. -/
def completeNumbers (l : List Char) : List Char :=
  let core := l.takeWhile (!startsSuffix ·)
  core ++ padding core ++ l.dropWhile (!startsSuffix ·)

theorem numeral_zero : Numeral ['0'] 0 :=
  ⟨by decide, List.forall_mem_singleton.mpr rfl, fun _ => rfl, rfl, by decide⟩

theorem Numeral.point_notMem {a : List Char} (h : Numeral a n) : '.' ∉ a := by
  intro hpoint
  exact absurd (h.digits '.' hpoint) (by decide)

/-- What follows the last point is determined. -/
theorem last_point_unique {a b c d : List Char} (hb : '.' ∉ b) (hd : '.' ∉ d)
    (h : a ++ '.' :: b = c ++ '.' :: d) : a = c ∧ b = d := by
  have hplain : ∀ {r : List Char}, '.' ∉ r → ∀ x ∈ r.reverse, (x != '.') = true := by
    intro r hr x hx
    simp only [bne_iff_ne, ne_eq]
    rintro rfl
    exact hr (List.mem_reverse.mp hx)
  have hreverse : b.reverse ++ '.' :: a.reverse = d.reverse ++ '.' :: c.reverse := by
    simpa using congrArg List.reverse h
  obtain ⟨hbd, hac⟩ :=
    Text.run_unique (hplain hb) (hplain hd) (by simp) (by simp) hreverse
  exact ⟨List.reverse_inj.mp (List.cons.inj hac).2, List.reverse_inj.mp hbd⟩

/-- The numbers of a text, if those that are left out complete them. -/
theorem numbers_of_padding {core a b c : List Char} {major minor patch : Nat}
    (ha : Numeral a major) (hb : Numeral b minor) (hc : Numeral c patch)
    (h : core ++ padding core = a ++ '.' :: (b ++ '.' :: c)) : Numbers core major minor patch := by
  have hsplit : a ++ '.' :: (b ++ '.' :: c) = (a ++ '.' :: b) ++ '.' :: c := by simp
  rw [hsplit] at h
  unfold padding at h
  split at h
  · -- Both a minor and a patch number are left out.
    have hend : (core ++ ['.', '0']) ++ '.' :: ['0'] = (a ++ '.' :: b) ++ '.' :: c := by
      rw [← h]
      simp
    obtain ⟨hmajor, rfl⟩ := last_point_unique (by decide) hc.point_notMem hend
    obtain ⟨rfl, rfl⟩ := last_point_unique (b := ['0']) (by decide) hb.point_notMem hmajor
    rw [← hb.value, ← hc.value]
    exact .one ha
  · -- The patch number is left out.
    obtain ⟨rfl, rfl⟩ := last_point_unique (b := ['0']) (by decide) hc.point_notMem h
    rw [← hc.value]
    exact .two ha hb
  · rw [List.append_nil] at h
    rw [h]
    exact .three ha hb hc

/-- And the other way round, the numbers that are written and those that are
    left out make three. -/
theorem padding_of_numbers {core : List Char} {major minor patch : Nat}
    (h : Numbers core major minor patch) :
    ∃ a b c, Numeral a major ∧ Numeral b minor ∧ Numeral c patch ∧
      core ++ padding core = a ++ '.' :: (b ++ '.' :: c) := by
  have hcount : ∀ {a : List Char} {n : Nat}, Numeral a n → a.count '.' = 0 := fun ha =>
    List.count_eq_zero.mpr ha.point_notMem
  cases h with
  | one ha => exact ⟨core, ['0'], ['0'], ha, numeral_zero, numeral_zero, by simp [padding, hcount ha]⟩
  | @two a b _ _ ha hb =>
    exact ⟨a, b, ['0'], ha, hb, numeral_zero, by simp [padding, hcount ha, hcount hb]⟩
  | @three a b c _ _ _ ha hb hc =>
    exact ⟨a, b, c, ha, hb, hc, by simp [padding, hcount ha, hcount hb, hcount hc]⟩

/-- There are only digits and points. -/
theorem Numbers.forall_mem {core : List Char} {major minor patch : Nat} {P : Char → Prop}
    (h : Numbers core major minor patch) (hdigit : ∀ c, c.isDigit = true → P c)
    (hpoint : P '.') : ∀ c ∈ core, P c := by
  have hnumeral : ∀ {a : List Char} {n : Nat}, Numeral a n → ∀ c ∈ a, P c := fun ha c hc =>
    hdigit c (ha.digits c hc)
  have hjoined : ∀ {a b : List Char}, (∀ c ∈ a, P c) → (∀ c ∈ b, P c) →
      ∀ c ∈ a ++ '.' :: b, P c := by
    intro a b ha hb c hc
    rcases List.mem_append.mp hc with hc | hc
    · exact ha c hc
    · rcases List.mem_cons.mp hc with rfl | hc
      · exact hpoint
      · exact hb c hc
  cases h with
  | one ha => exact hnumeral ha
  | two ha hb => exact hjoined (hnumeral ha) (hnumeral hb)
  | three ha hb hc => exact hjoined (hjoined (hnumeral ha) (hnumeral hb)) (hnumeral hc)

theorem Numbers.ne_nil {core : List Char} {major minor patch : Nat}
    (h : Numbers core major minor patch) : core ≠ [] := by
  cases h with
  | one ha => exact ha.ne_nil
  | two => simp
  | three => simp

theorem startsSuffix_of_isDigit (c : Char) (h : c.isDigit = true) : (!startsSuffix c) = true := by
  cases hmark : startsSuffix c with
  | false => rfl
  | true =>
    simp only [startsSuffix, Bool.or_eq_true, beq_iff_eq] at hmark
    rcases hmark with rfl | rfl
    · exact absurd h (by decide)
    · exact absurd h (by decide)

theorem completeNumbers_sound (h : WrittenInFull (completeNumbers l) v) : Written l v := by
  obtain ⟨hidentified, a, b, c, ha, hb, hc, heq⟩ := h
  -- The text ends its numbers where the full form does.
  have hnumbers : Numbers (a ++ '.' :: b ++ '.' :: c) v.major v.minor v.patch := .three ha hb hc
  have hfull : ∀ c' ∈ a ++ '.' :: b ++ '.' :: c, (!startsSuffix c') = true :=
    hnumbers.forall_mem startsSuffix_of_isDigit rfl
  have hcore : ∀ c' ∈ l.takeWhile (!startsSuffix ·) ++ padding (l.takeWhile (!startsSuffix ·)),
      (!startsSuffix c') = true := by
    intro c' hc'
    rcases List.mem_append.mp hc' with hc' | hc'
    · exact List.mem_takeWhile_imp (p := (!startsSuffix ·)) hc'
    · have hpadding : ∀ d ∈ ['.', '0', '.', '0'], (!startsSuffix d) = true :=
        List.all_eq_true.mp rfl
      unfold padding at hc'
      split at hc'
      · exact hpadding c' hc'
      · exact hpadding c' (List.mem_of_mem_drop (i := 2) hc')
      · cases hc'
  obtain ⟨hcomplete, hrest⟩ := Text.run_unique hcore hfull (Text.stops_dropWhile _ l)
    (stops_suffixes rfl rfl v) (by simpa [completeNumbers] using heq)
  refine ⟨hidentified, l.takeWhile (!startsSuffix ·), ?_, ?_⟩
  · exact numbers_of_padding ha hb hc (by simpa using hcomplete)
  · rw [← hrest, List.takeWhile_append_dropWhile]

theorem completeNumbers_complete (h : Written l v) : WrittenInFull (completeNumbers l) v := by
  obtain ⟨hidentified, core, hnumbers, rfl⟩ := h
  have hcore : ∀ c ∈ core, (!startsSuffix c) = true :=
    hnumbers.forall_mem startsSuffix_of_isDigit rfl
  have hstops : Stops (!startsSuffix ·) (suffixes v) := stops_suffixes rfl rfl v
  obtain ⟨a, b, c, ha, hb, hc, hpadding⟩ := padding_of_numbers hnumbers
  refine ⟨hidentified, a, b, c, ha, hb, hc, ?_⟩
  rw [completeNumbers, Text.takeWhile_run hcore hstops, Text.dropWhile_run hcore hstops, hpadding]
  simp

/-! ## Blanks and the mark -/

theorem isBlankChar_of_isAlphanum {c : Char} (h : c.isAlphanum = true) :
    Text.isBlankChar c = false := by
  have hall : ∀ range ∈ Text.blankRanges, ∀ k ≤ range.2 - range.1,
      (Char.ofNat (range.1 + k)).isAlphanum = false := by decide
  rw [Text.isBlankChar, ← Bool.not_eq_true, Text.inRanges_iff]
  rintro ⟨range, hrange, hlow, hhigh⟩
  have hnot := hall range hrange (c.toNat - range.1) (by omega)
  rw [Nat.add_sub_cancel' hlow, Char.ofNat_toNat, h] at hnot
  cases hnot

/-- What holds of letters, digits and hyphens holds of an identifier. -/
theorem Identifier.forall_mem {P : Char → Prop} (h : Identifier part l)
    (halphanum : ∀ c, c.isAlphanum = true → P c) (hhyphen : P '-') : ∀ c ∈ l, P c := by
  intro c hc
  rcases h.chars c hc with hc | rfl
  · exact halphanum c hc
  · exact hhyphen

theorem forall_mem_joinIdentifiers {P : Char → Prop} {ids : List String}
    (hids : ∀ i ∈ ids, ∀ c ∈ i.toList, P c) (hpoint : P '.') :
    ∀ c ∈ (joinIdentifiers ids).toList, P c := by
  induction ids with
  | nil => simp [joinIdentifiers]
  | cons i ids ih =>
    have hi := hids i List.mem_cons_self
    cases ids with
    | nil => rwa [joinIdentifiers_singleton]
    | cons j more =>
      have hlater := ih fun i' hi' => hids i' (List.mem_cons_of_mem i hi')
      rw [joinIdentifiers_cons, List.forall_mem_append, List.forall_mem_cons]
      exact ⟨hi, hpoint, hlater⟩

theorem forall_mem_suffixText {P : Char → Prop} {mark : String} {c : Char} {ids : List String}
    (hmark : mark.toList = [c]) (hc : P c) (hids : ∀ i ∈ ids, ∀ d ∈ i.toList, P d)
    (hpoint : P '.') : ∀ d ∈ (suffixText mark ids).toList, P d := by
  by_cases hne : ids = []
  · simp [hne]
  · rw [toList_suffixText hne, hmark, List.forall_mem_append, List.forall_mem_singleton]
    exact ⟨hc, forall_mem_joinIdentifiers hids hpoint⟩

/-- A version consists of letters, digits, points and the marks of its
    suffixes. -/
theorem Written.forall_mem {P : Char → Prop} (h : Written l v)
    (halphanum : ∀ c, c.isAlphanum = true → P c) (hpoint : P '.') (hminus : P '-')
    (hplus : P '+') : ∀ c ∈ l, P c := by
  obtain ⟨hidentified, core, hnumbers, rfl⟩ := h
  have hdigit : ∀ c : Char, c.isDigit = true → P c := by
    intro c hc
    exact halphanum c (by simp [Char.isAlphanum, hc])
  rw [suffixes_eq, List.forall_mem_append, List.forall_mem_append]
  refine ⟨hnumbers.forall_mem hdigit hpoint, ?_, ?_⟩
  · exact forall_mem_suffixText rfl hminus
      (fun i hi => (hidentified.pre i hi).forall_mem halphanum hminus) hpoint
  · exact forall_mem_suffixText rfl hplus
      (fun i hi => (hidentified.build i hi).forall_mem halphanum hminus) hpoint

/-- No part of a version is a blank. -/
theorem Written.not_blank (h : Written l v) : ∀ c ∈ l, Text.isBlankChar c = false :=
  h.forall_mem (fun _ hc => isBlankChar_of_isAlphanum hc) (by decide) (by decide) (by decide)

theorem not_blank_of_all (h : (l.all (!Text.isBlankChar ·)) = true) :
    ∀ c ∈ l, Text.isBlankChar c = false := by
  simpa using h

/-- The text is the version as people write it: with blanks around it and one
    leading mark of either case, or without. -/
def Loose (l : List Char) (v : Version) : Prop :=
  ∃ before mark body after, l = before ++ mark ++ body ++ after ∧
    (∀ c ∈ before, Text.isBlankChar c = true) ∧ (∀ c ∈ after, Text.isBlankChar c = true) ∧
    mark ∈ [[], ['v'], ['V']] ∧ Written body v

/-- A version starts with a digit, so with no mark of its own. -/
theorem Written.dropMark_append (h : Written l v) {mark : List Char}
    (hmark : mark ∈ [[], ['v'], ['V']]) : dropMark (mark ++ l) = l := by
  obtain ⟨-, core, hnumbers, rfl⟩ := h
  obtain ⟨c, core, rfl⟩ := List.exists_cons_of_ne_nil hnumbers.ne_nil
  have hplain : c ≠ 'v' ∧ c ≠ 'V' := by
    refine hnumbers.forall_mem (P := fun c => c ≠ 'v' ∧ c ≠ 'V') ?_ (by decide) c
      List.mem_cons_self
    exact fun d hd => ⟨Text.ne_of_kind hd rfl, Text.ne_of_kind hd rfl⟩
  simp only [List.mem_cons, List.not_mem_nil, or_false] at hmark
  rcases hmark with rfl | rfl | rfl
  · rw [List.nil_append, List.cons_append, dropMark, if_neg (by simpa using hplain)]
  · rfl
  · rfl

theorem dropMark_split (l : List Char) :
    ∃ mark, mark ∈ [[], ['v'], ['V']] ∧ l = mark ++ dropMark l := by
  cases l with
  | nil => exact ⟨[], by simp, rfl⟩
  | cons c l =>
    by_cases hc : c = 'v' ∨ c = 'V'
    · refine ⟨[c], ?_, by simp [dropMark, hc]⟩
      rcases hc with rfl | rfl <;> simp
    · exact ⟨[], by simp, by simp [dropMark, hc]⟩

/-- What is read is what is written without its blanks and its mark. -/
theorem loose_iff (l : List Char) : Loose l v ↔ Written (dropMark (Text.trimChars l)) v := by
  constructor
  · rintro ⟨before, mark, body, after, rfl, hbefore, hafter, hmark, hbody⟩
    have hne : body ≠ [] := by
      obtain ⟨-, core, hnumbers, rfl⟩ := hbody
      simp [hnumbers.ne_nil]
    have hmarked : ∀ c ∈ mark ++ body, Text.isBlankChar c = false := by
      have hnot : ∀ m ∈ [[], ['v'], ['V']], ∀ c ∈ m, Text.isBlankChar c = false := by
        have hall : ∀ m ∈ [[], ['v'], ['V']], (m.all (!Text.isBlankChar ·)) = true := by decide
        exact fun m hm => not_blank_of_all (hall m hm)
      intro c hc
      rcases List.mem_append.mp hc with hc | hc
      · exact hnot mark hmark c hc
      · exact hbody.not_blank c hc
    have htrim := trimChars_around hbefore hafter hmarked (by simp [hne])
    rw [← List.append_assoc] at htrim
    rw [htrim, hbody.dropMark_append hmark]
    exact hbody
  · intro h
    obtain ⟨before, after, hbefore, hafter, hl⟩ := trimChars_split l
    obtain ⟨mark, hmark, htrim⟩ := dropMark_split (Text.trimChars l)
    refine ⟨before, mark, dropMark (Text.trimChars l), after, ?_, hbefore, hafter, hmark, h⟩
    rw [List.append_assoc before, ← htrim, ← hl]

/-! ## Main theorem -/

/-- Reading succeeds for the texts of the grammar only, and with the version
    that is written. -/
theorem parse_eq_ok_iff (s : String) : parse s = .ok v ↔ Loose s.toList v := by
  have hparse : parse s = parseFull (completeNumbers (dropMark (Text.trimChars s.toList))) := rfl
  rw [hparse, loose_iff]
  constructor
  · intro h
    exact completeNumbers_sound (parseFull_sound h)
  · intro h
    exact parseFull_complete (completeNumbers_complete h)

/-- **Which texts are versions.**  A text is read as a version exactly if it is
    that version as people write it, and a text that the strict reader accepts
    is read as the same version. -/
theorem parse_iff_written :
    (∀ (s : String) (v : Version), parse s = .ok v ↔ Loose s.toList v) ∧
      ∀ (s : String) (v : Version), parseFull s.toList = .ok v → parse s = .ok v := by
  refine ⟨fun s v => parse_eq_ok_iff s, fun s v h => ?_⟩
  obtain ⟨hidentified, a, b, c, ha, hb, hc, hl⟩ := parseFull_sound h
  -- The full form has no blanks and no mark, and all its numbers.
  have hwritten : Written s.toList v :=
    ⟨hidentified, a ++ '.' :: b ++ '.' :: c, .three ha hb hc, by simpa using hl⟩
  exact (parse_eq_ok_iff s).mpr ⟨[], [], s.toList, [], by simp, by simp, by simp, by simp, hwritten⟩

/-- Blanks, a mark, two numbers and both suffixes; and a full form as it is. -/
theorem parse_iff_written_suffixed :
    Loose "\u3000V4.1-rc.-1+007 \n".toList ⟨4, 1, 0, ["rc", "-1"], ["007"]⟩ ∧
      parseFull "4.1.0-rc.-1+007".toList = .ok ⟨4, 1, 0, ["rc", "-1"], ["007"]⟩ ∧
      parse "4.1.0-rc.-1+007" = .ok ⟨4, 1, 0, ["rc", "-1"], ["007"]⟩ :=
  ⟨(parse_iff_written.1 "\u3000V4.1-rc.-1+007 \n" _).mp (by decide +kernel), by decide +kernel,
    parse_iff_written.2 "4.1.0-rc.-1+007" _ (by decide +kernel)⟩

end PluginHost.Version
