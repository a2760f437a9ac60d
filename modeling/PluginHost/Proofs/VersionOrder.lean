import PluginHost.Proofs.VersionGrammar
import Mathlib.Data.List.Lex
import Mathlib.Data.Prod.Lex
import Mathlib.Data.String.Basic
import Mathlib.Data.Sum.Order
import Mathlib.Order.WithBot

/-! # The order of versions

    Versions are compared part by part, and the identifiers of a suffix one by
    one.  What the comparison comes to is written down as a rank, in orders
    that are linear by construction:

    - the numbers come first, as numbers;
    - then the pre-release, where having none is above everything, an
      identifier of digits counts as the number it stands for, and numbers are
      below all other identifiers;
    - then the build, where having none is below everything, and of two equal
      numbers the one with fewer digits comes first.

    Main statement (`compares_rank`): versions that were read compare as their
    ranks do, and only a version itself has its rank (`rank_injective`).  So
    the comparison is a total order, however long the identifiers are. -/

namespace PluginHost.Version

/-! ## Ranks -/

/-- What counts of an identifier: that of digits has a value, and all values
    come before other texts. -/
def identifierRank {ν : Type} (value : String → ν) (identifier : String) : ν ⊕ₗ String :=
  if isNumeric identifier then toLex (.inl (value identifier)) else toLex (.inr identifier)

/-- The number that digits stand for. -/
def numberOf (identifier : String) : ℕ := Decimal.valueOf identifier.toList

/-- The number that digits stand for, then how many there are. -/
def paddedNumberOf (identifier : String) : ℕ ×ₗ ℕ :=
  toLex (numberOf identifier, identifier.length)

/-- The rank of a pre-release. -/
def preRank (pre : List String) : WithTop (List (ℕ ⊕ₗ String)) :=
  if pre.isEmpty then ⊤ else ↑(pre.map (identifierRank numberOf))

/-- The rank of a build. -/
def buildRank (build : List String) : List ((ℕ ×ₗ ℕ) ⊕ₗ String) :=
  build.map (identifierRank paddedNumberOf)

/-- The ranks of versions, from the part that counts most to the one that
    counts least. -/
abbrev Rank : Type :=
  ℕ ×ₗ ℕ ×ₗ ℕ ×ₗ WithTop (List (ℕ ⊕ₗ String)) ×ₗ List ((ℕ ×ₗ ℕ) ⊕ₗ String)

/-- The rank of a version. -/
def rank (v : Version) : Rank :=
  toLex (v.major, toLex (v.minor, toLex (v.patch, toLex (preRank v.pre, buildRank v.build))))

/-! ## Comparing one part after the other -/

open Ordering (Compares)

section

variable {α β γ : Type} [LT α] [LT β] [LT γ] {o p : Ordering} {a b : α} {c d : β} {x y : γ}

/-- What keeps the order keeps the outcome of a comparison. -/
theorem compares_map (f : α → β) (hf : ∀ a b, a < b → f a < f b) (h : o.Compares a b) :
    o.Compares (f a) (f b) := by
  cases o with
  | lt => exact hf a b h
  | gt => exact hf b a h
  | eq => exact congrArg f h

/-- A second comparison counts if the first one finds no difference. -/
theorem compares_then (hlt : a < b → x < y) (hgt : b < a → y < x) (heq : a = b → p.Compares x y)
    (h : o.Compares a b) : (o.then p).Compares x y := by
  cases o with
  | lt => exact hlt h
  | gt => exact hgt h
  | eq => exact heq h

theorem compares_pair (h : o.Compares a b) (hlater : p.Compares c d) :
    (o.then p).Compares (toLex (a, c)) (toLex (b, d)) := by
  refine compares_then ?_ ?_ ?_ h
  · intro hlt
    exact Prod.Lex.toLex_lt_toLex.mpr (.inl hlt)
  · intro hgt
    exact Prod.Lex.toLex_lt_toLex.mpr (.inl hgt)
  · rintro rfl
    have hkeep : ∀ c d : β, c < d → toLex (a, c) < toLex (a, d) := fun c d hlt =>
      Prod.Lex.toLex_lt_toLex.mpr (.inr ⟨rfl, hlt⟩)
    exact compares_map (fun c => toLex (a, c)) hkeep hlater

theorem compares_cons {l m : List α} (h : o.Compares a b) (hlater : p.Compares l m) :
    (o.then p).Compares (a :: l) (b :: m) := by
  refine compares_then ?_ ?_ ?_ h
  · intro hlt
    exact List.cons_lt_cons_iff.mpr (.inl hlt)
  · intro hgt
    exact List.cons_lt_cons_iff.mpr (.inl hgt)
  · rintro rfl
    have hkeep : ∀ l m : List α, l < m → a :: l < a :: m := fun l m hlt =>
      List.cons_lt_cons_iff.mpr (.inr ⟨rfl, hlt⟩)
    exact compares_map (a :: ·) hkeep hlater

/-- Lists whose members compare as their ranks do are compared as the lists of
    ranks. -/
theorem compares_compareLists {compare : String → String → Ordering} {rank : String → α}
    {as bs : List String}
    (h : ∀ a ∈ as, ∀ b ∈ bs, (compare a b).Compares (rank a) (rank b)) :
    (compareLists compare as bs).Compares (as.map rank) (bs.map rank) := by
  induction as generalizing bs with
  | nil =>
    cases bs with
    | nil => rfl
    | cons b bs => exact List.nil_lt_cons _ _
  | cons a as ih =>
    cases bs with
    | nil => exact List.nil_lt_cons _ _
    | cons b bs =>
      have hfirst := h a List.mem_cons_self b List.mem_cons_self
      have hrest := ih fun x hx y hy =>
        h x (List.mem_cons_of_mem a hx) y (List.mem_cons_of_mem b hy)
      exact compares_cons hfirst hrest

/-- Digits come before other identifiers, and are compared among themselves. -/
theorem compares_compareIdentifiers {numeric : String → String → Ordering} {value : String → α}
    {a b : String}
    (h : isNumeric a = true → isNumeric b = true → (numeric a b).Compares (value a) (value b)) :
    (compareIdentifiers numeric a b).Compares (identifierRank value a) (identifierRank value b) := by
  unfold compareIdentifiers identifierRank
  cases ha : isNumeric a with
  | true =>
    cases hb : isNumeric b with
    | true =>
      exact compares_map (fun x : α => (toLex (.inl x) : α ⊕ₗ String))
        (fun _ _ => Sum.Lex.inl_lt_inl_iff.mpr) (h ha hb)
    | false => exact Sum.Lex.inl_lt_inr _ _
  | false =>
    cases hb : isNumeric b with
    | true => exact Sum.Lex.inl_lt_inr _ _
    | false =>
      have htexts : (compare a b).Compares a b := (compare_iff a b).mp rfl
      exact compares_map (fun text : String => (toLex (.inr text) : α ⊕ₗ String))
        (fun _ _ => Sum.Lex.inr_lt_inr_iff.mpr) htexts

end

/-! ## Digits as numbers -/

section

variable {a b : List Char} {s t : ℕ}

/-- A number that is ahead stays ahead if no fewer digits follow. -/
theorem valueFrom_lt (hlt : s < t) (hlength : a.length ≤ b.length)
    (ha : ∀ c ∈ a, c.isDigit = true) :
    Decimal.valueFrom 10 s a < Decimal.valueFrom 10 t b := by
  induction a generalizing b s t with
  | nil => exact Nat.lt_of_lt_of_le hlt (le_valueFrom b)
  | cons c a ih =>
    cases b with
    | nil => simp at hlength
    | cons d b =>
      -- One digit more cannot make up for a lead of one, which counts ten now.
      have hdigit := digitValue_le_nine (ha c List.mem_cons_self)
      have hnext : s * 10 + Decimal.digitValue c < t * 10 + Decimal.digitValue d := by omega
      have hrest : a.length ≤ b.length := by simpa using hlength
      show Decimal.valueFrom 10 (s * 10 + Decimal.digitValue c) a <
        Decimal.valueFrom 10 (t * 10 + Decimal.digitValue d) b
      exact ih hnext hrest fun x hx => ha x (List.mem_cons_of_mem c hx)

theorem digitValue_lt {c d : Char} (hc : c.isDigit = true) (hd : d.isDigit = true) (h : c < d) :
    Decimal.digitValue c < Decimal.digitValue d := by
  have hlt : c.toNat < d.toNat := h
  have hlow : 48 ≤ c.toNat ∧ c.toNat ≤ 57 := by
    simpa [Char.isDigit, UInt32.le_iff_toNat_le] using hc
  rw [Decimal.digitValue, Decimal.digitValue, if_pos hc, if_pos hd]
  omega

/-- As many digits are ordered by their value as they are as texts. -/
theorem valueFrom_lt_of_lt (hlength : a.length = b.length) (ha : ∀ c ∈ a, c.isDigit = true)
    (hb : ∀ c ∈ b, c.isDigit = true) (h : a < b) :
    Decimal.valueFrom 10 s a < Decimal.valueFrom 10 s b := by
  induction a generalizing b s with
  | nil =>
    cases b with
    | nil => exact absurd h (List.not_lt_nil [])
    | cons d b => simp at hlength
  | cons c a ih =>
    cases b with
    | nil => simp at hlength
    | cons d b =>
      have hc := ha c List.mem_cons_self
      have hd := hb d List.mem_cons_self
      have hrest : a.length = b.length := by simpa using hlength
      have hdigits : ∀ x ∈ a, x.isDigit = true := fun x hx => ha x (List.mem_cons_of_mem c hx)
      show Decimal.valueFrom 10 (s * 10 + Decimal.digitValue c) a <
        Decimal.valueFrom 10 (s * 10 + Decimal.digitValue d) b
      -- The first digit that differs decides, whatever follows.
      rcases List.cons_lt_cons_iff.mp h with hlt | ⟨rfl, hlt⟩
      · have hfirst := digitValue_lt hc hd hlt
        exact valueFrom_lt (by omega) (Nat.le_of_eq hrest) hdigits
      · exact ih hrest hdigits (fun x hx => hb x (List.mem_cons_of_mem c hx)) hlt

/-- More digits mean a greater number, if they do not start with a zero. -/
theorem valueOf_lt_of_length_lt (hlength : a.length < b.length)
    (ha : ∀ c ∈ a, c.isDigit = true) (hb : ∀ c ∈ b, c.isDigit = true)
    (hzero : b.head? ≠ some '0') : Decimal.valueOf a < Decimal.valueOf b := by
  cases b with
  | nil => simp at hlength
  | cons d b =>
    have hne : Decimal.digitValue d ≠ 0 := by
      intro heq
      obtain rfl := (digitValue_eq_zero (hb d List.mem_cons_self)).mp heq
      exact hzero rfl
    show Decimal.valueFrom 10 0 a < Decimal.valueFrom 10 (0 * 10 + Decimal.digitValue d) b
    have hrest : a.length ≤ b.length := by
      simp only [List.length_cons] at hlength
      omega
    exact valueFrom_lt (by omega) hrest ha

end

theorem isNumeric_iff {i : String} : isNumeric i = true ↔ ∀ c ∈ i.toList, c.isDigit = true :=
  List.all_eq_true

/-- Digits are compared as numbers, as far as the longer ones do not start with
    a zero. -/
theorem compares_compareDigits {a b : String} (ha : isNumeric a = true) (hb : isNumeric b = true)
    (hzero : a.length < b.length → b.toList.head? ≠ some '0')
    (hzero' : b.length < a.length → a.toList.head? ≠ some '0') :
    (compareDigits a b).Compares (numberOf a) (numberOf b) := by
  rw [isNumeric_iff] at ha hb
  have hlengths : (compare a.length b.length).Compares a.length b.length :=
    (compare_iff a.length b.length).mp rfl
  refine compares_then ?_ ?_ ?_ hlengths
  · intro hlt
    exact valueOf_lt_of_length_lt (by simpa only [String.length_toList] using hlt) ha hb (hzero hlt)
  · intro hgt
    exact valueOf_lt_of_length_lt (by simpa only [String.length_toList] using hgt) hb ha (hzero' hgt)
  · intro heq
    have hlength : a.toList.length = b.toList.length := by
      simpa only [String.length_toList] using heq
    have htexts : (compare a b).Compares a b := (compare_iff a b).mp rfl
    cases hcompare : compare a b with
    | lt =>
      rw [hcompare] at htexts
      exact valueFrom_lt_of_lt hlength ha hb (String.lt_iff.mp htexts)
    | gt =>
      rw [hcompare] at htexts
      exact valueFrom_lt_of_lt hlength.symm hb ha (String.lt_iff.mp htexts)
    | eq =>
      rw [hcompare] at htexts
      obtain rfl : a = b := htexts
      rfl

/-! ### Zeros in front -/

theorem valueFrom_zero_dropWhile (l : List Char) :
    Decimal.valueFrom 10 0 (l.dropWhile (· = '0')) = Decimal.valueFrom 10 0 l := by
  induction l with
  | nil => rfl
  | cons c l ih =>
    by_cases hc : c = '0'
    · subst hc
      exact ih
    · rw [List.dropWhile_cons_of_neg (by simpa using hc)]

theorem numberOf_stripZeros (a : String) : numberOf (stripZeros a) = numberOf a := by
  unfold numberOf stripZeros
  rw [String.toList_ofList]
  exact valueFrom_zero_dropWhile a.toList

theorem isNumeric_stripZeros {a : String} (h : isNumeric a = true) :
    isNumeric (stripZeros a) = true := by
  rw [isNumeric_iff] at h ⊢
  unfold stripZeros
  rw [String.toList_ofList]
  intro c hc
  exact h c ((List.dropWhile_suffix _).mem hc)

theorem head_stripZeros (a : String) : (stripZeros a).toList.head? ≠ some '0' := by
  unfold stripZeros
  rw [String.toList_ofList]
  intro hhead
  have hstops := Text.stops_dropWhile (fun c : Char => decide (c = '0')) a.toList '0' hhead
  simp at hstops

/-- Digits with zeros in front are compared as numbers, then by how many there
    are. -/
theorem compares_compareZeroPadded {a b : String} (ha : isNumeric a = true)
    (hb : isNumeric b = true) :
    (compareZeroPadded a b).Compares (paddedNumberOf a) (paddedNumberOf b) := by
  have hnumbers := compares_compareDigits (isNumeric_stripZeros ha) (isNumeric_stripZeros hb)
    (fun _ => head_stripZeros b) (fun _ => head_stripZeros a)
  rw [numberOf_stripZeros, numberOf_stripZeros] at hnumbers
  exact compares_pair hnumbers ((compare_iff a.length b.length).mp rfl)

/-! ## Versions -/

section

variable {part : Part} {a b : String} {v w : Version}

/-- An identifier of a pre-release that is longer than another one does not
    start with a zero, if it is of digits. -/
theorem Identifier.head_ne_zero (ha : Identifier .pre a.toList) (hb : Identifier .pre b.toList)
    (hdigits : isNumeric b = true) (hlength : a.length < b.length) :
    b.toList.head? ≠ some '0' := by
  intro hhead
  have hzero := hb.noLeadingZero rfl (isNumeric_iff.mp hdigits) hhead
  have hone : b.length = 1 := by
    rw [← String.length_toList, hzero]
    rfl
  have hsome : 0 < a.length := by
    rw [← String.length_toList]
    exact List.length_pos_of_ne_nil ha.ne_nil
  omega

theorem compares_preIdentifiers (ha : Identifier .pre a.toList) (hb : Identifier .pre b.toList) :
    (compareIdentifiers compareDigits a b).Compares (identifierRank numberOf a)
      (identifierRank numberOf b) := by
  refine compares_compareIdentifiers fun hnuma hnumb => ?_
  exact compares_compareDigits hnuma hnumb (ha.head_ne_zero hb hnumb) (hb.head_ne_zero ha hnuma)

theorem compares_comparePre {as bs : List String} (has : ∀ i ∈ as, Identifier .pre i.toList)
    (hbs : ∀ i ∈ bs, Identifier .pre i.toList) :
    (comparePre as bs).Compares (preRank as) (preRank bs) := by
  have hlists : (compareLists (compareIdentifiers compareDigits) as bs).Compares _ _ :=
    compares_compareLists fun a ha b hb => compares_preIdentifiers (has a ha) (hbs b hb)
  -- Having no pre-release is above having one.
  cases as with
  | nil =>
    cases bs with
    | nil => rfl
    | cons b bs => exact WithTop.coe_lt_top _
  | cons a as =>
    cases bs with
    | nil => exact WithTop.coe_lt_top _
    | cons b bs => exact compares_map WithTop.some (fun _ _ => WithTop.coe_lt_coe.mpr) hlists

theorem compares_compareBuild (as bs : List String) :
    (compareBuild as bs).Compares (buildRank as) (buildRank bs) :=
  compares_compareLists fun _ _ _ _ => compares_compareIdentifiers compares_compareZeroPadded

/-- **Versions compare as their ranks do.** -/
theorem compares_rank (hv : Identified v) (hw : Identified w) :
    (v.compare w).Compares v.rank w.rank := by
  have hnumber : ∀ m n : ℕ, (compare m n).Compares m n := fun m n => (compare_iff m n).mp rfl
  have hsuffixes := compares_pair (compares_comparePre hv.pre hw.pre)
    (compares_compareBuild v.build w.build)
  exact compares_pair (hnumber v.major w.major) (compares_pair (hnumber v.minor w.minor)
    (compares_pair (hnumber v.patch w.patch) hsuffixes))

/-! ### Versions that do not differ -/

theorem eq_of_compareLists {compare : String → String → Ordering}
    (h : ∀ a b, compare a b = .eq → a = b) {as bs : List String}
    (heq : compareLists compare as bs = .eq) : as = bs := by
  induction as generalizing bs with
  | nil =>
    cases bs with
    | nil => rfl
    | cons b bs => cases heq
  | cons a as ih =>
    cases bs with
    | nil => cases heq
    | cons b bs =>
      obtain ⟨hfirst, hrest⟩ := Ordering.then_eq_eq.mp heq
      rw [h a b hfirst, ih hrest]

theorem eq_of_compareIdentifiers {numeric : String → String → Ordering}
    (h : ∀ a b, numeric a b = .eq → a = b) (heq : compareIdentifiers numeric a b = .eq) :
    a = b := by
  unfold compareIdentifiers at heq
  split at heq
  · cases heq
  · cases heq
  · exact compare_eq_iff_eq.mp heq
  · exact h a b heq

theorem eq_of_compareDigits (heq : compareDigits a b = .eq) : a = b :=
  compare_eq_iff_eq.mp (Ordering.then_eq_eq.mp heq).2

/-- A text is the zeros in front of it and the rest. -/
theorem eq_zeros_append (l : List Char) :
    l = List.replicate (l.length - (l.dropWhile (· = '0')).length) '0' ++ l.dropWhile (· = '0') := by
  induction l with
  | nil => rfl
  | cons c l ih =>
    by_cases hc : c = '0'
    · subst hc
      have hle : (l.dropWhile (· = '0')).length ≤ l.length := (List.dropWhile_sublist _).length_le
      have hsucc : l.length + 1 - (l.dropWhile (· = '0')).length =
          l.length - (l.dropWhile (· = '0')).length + 1 := by omega
      rw [List.dropWhile_cons_of_pos (by simp), List.length_cons, hsucc, List.replicate_succ,
        List.cons_append, ← ih]
    · rw [List.dropWhile_cons_of_neg (by simpa using hc), Nat.sub_self]
      rfl

/-- Without the zeros in front a text is known up to how many there were. -/
theorem eq_of_stripZeros (hstrip : stripZeros a = stripZeros b) (hlength : a.length = b.length) :
    a = b := by
  have hrest : a.toList.dropWhile (· = '0') = b.toList.dropWhile (· = '0') :=
    String.ofList_inj.mp hstrip
  have hlengths : a.toList.length = b.toList.length := by
    simpa only [String.length_toList] using hlength
  apply String.toList_inj.mp
  rw [eq_zeros_append a.toList, eq_zeros_append b.toList, hrest, hlengths]

theorem eq_of_compareZeroPadded (heq : compareZeroPadded a b = .eq) : a = b := by
  obtain ⟨hstrip, hlength⟩ := Ordering.then_eq_eq.mp heq
  exact eq_of_stripZeros (eq_of_compareDigits hstrip) (compare_eq_iff_eq.mp hlength)

theorem eq_of_comparePre {as bs : List String} (heq : comparePre as bs = .eq) : as = bs := by
  cases as with
  | nil =>
    cases bs with
    | nil => rfl
    | cons b bs => cases heq
  | cons a as =>
    cases bs with
    | nil => cases heq
    | cons b bs =>
      exact eq_of_compareLists
        (fun _ _ => eq_of_compareIdentifiers fun _ _ => eq_of_compareDigits) heq

/-- Versions between which the comparison finds no difference are the same. -/
theorem eq_of_compare (heq : v.compare w = .eq) : v = w := by
  obtain ⟨hmajor, hrest⟩ := Ordering.then_eq_eq.mp heq
  obtain ⟨hminor, hrest⟩ := Ordering.then_eq_eq.mp hrest
  obtain ⟨hpatch, hrest⟩ := Ordering.then_eq_eq.mp hrest
  obtain ⟨hpre, hbuild⟩ := Ordering.then_eq_eq.mp hrest
  have hbuilds : v.build = w.build := eq_of_compareLists
    (fun _ _ => eq_of_compareIdentifiers fun _ _ => eq_of_compareZeroPadded) hbuild
  cases v
  cases w
  simp only [mk.injEq]
  exact ⟨compare_eq_iff_eq.mp hmajor, compare_eq_iff_eq.mp hminor, compare_eq_iff_eq.mp hpatch,
    eq_of_comparePre hpre, hbuilds⟩

/-- Of the versions that can be read, only a version itself has its rank. -/
theorem rank_injective (hv : Identified v) (hw : Identified w) (h : v.rank = w.rank) : v = w :=
  eq_of_compare ((compares_rank hv hw).eq_eq.mpr h)

/-! ### Versions that were read -/

/-- A version that was read may stand as it does. -/
theorem identified_of_parse {s : String} (h : parse s = .ok v) : Identified v := by
  obtain ⟨-, -, body, -, -, -, -, -, hbody⟩ := (parse_eq_ok_iff s).mp h
  exact hbody.1

end

end PluginHost.Version
