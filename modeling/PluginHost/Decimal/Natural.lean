/-! # Natural numbers in digits

    Writing a natural number in decimal digits without leading zeros, and the
    value of a run of digits in a radix up to sixteen.  Reading back what was
    written gives the number again (`valueOf_digits`). -/

namespace PluginHost.Decimal

/-! ## Writing -/

/-- The digit of a number below ten. -/
def digitChar (n : Nat) : Char := Char.ofNat (n % 10 + 48)

/-- The decimal digits of `n`, the leading one first; a single `0` for zero. -/
def digits (n : Nat) : List Char :=
  if n < 10 then [digitChar n] else digits (n / 10) ++ [digitChar n]
termination_by n

/-- The decimal digits of `n` in a field of at least `width`, zeros in front. -/
def digitsPadded (width n : Nat) : List Char :=
  let ds := digits n
  List.replicate (width - ds.length) '0' ++ ds

/-- The decimal text of `n`. -/
def text (n : Nat) : String := String.ofList (digits n)

/-! ## Reading -/

/-- The number that a digit stands for, letters of either case above nine. -/
def digitValue (c : Char) : Nat :=
  if c.isDigit then c.toNat - 48
  else if 'a' ≤ c ∧ c ≤ 'f' then c.toNat - 87
  else if 'A' ≤ c ∧ c ≤ 'F' then c.toNat - 55
  else 0

/-- Is `c` a digit in `radix`, which is sixteen at most? -/
def isDigitIn (radix : Nat) (c : Char) : Bool :=
  (c.isDigit || ('a' ≤ c && c ≤ 'f') || ('A' ≤ c && c ≤ 'F')) && digitValue c < radix

/-- The value of a run of digits in `radix`, continuing from `start`. -/
def valueFrom (radix start : Nat) (l : List Char) : Nat :=
  l.foldl (fun n c => n * radix + digitValue c) start

/-- The value of a run of decimal digits. -/
def valueOf (l : List Char) : Nat := valueFrom 10 0 l

/-! ## Laws -/

theorem digitValue_digitChar (n : Nat) : digitValue (digitChar n) = n % 10 := by
  have hall : ∀ d < 10, digitValue (Char.ofNat (d + 48)) = d := by decide
  exact hall (n % 10) (Nat.mod_lt n (by decide))

theorem isDigit_digitChar (n : Nat) : (digitChar n).isDigit = true := by
  have hall : ∀ d < 10, (Char.ofNat (d + 48)).isDigit = true := by decide
  exact hall (n % 10) (Nat.mod_lt n (by decide))

theorem valueFrom_append (radix start : Nat) (l r : List Char) :
    valueFrom radix start (l ++ r) = valueFrom radix (valueFrom radix start l) r := by
  simp [valueFrom]

@[simp] theorem valueOf_digits (n : Nat) : valueOf (digits n) = n := by
  induction n using digits.induct with
  | case1 n h =>
    unfold digits
    simp [h, valueOf, valueFrom, digitValue_digitChar, Nat.mod_eq_of_lt h]
  | case2 n h ih =>
    unfold digits
    rw [if_neg h, valueOf, valueFrom_append, ← valueOf, ih]
    simp [valueFrom, digitValue_digitChar]
    omega

/-- Every character written is a digit. -/
theorem isDigit_of_mem_digits {n : Nat} {c : Char} (h : c ∈ digits n) : c.isDigit = true := by
  induction n using digits.induct with
  | case1 n hn =>
    unfold digits at h
    simp only [hn, if_true, List.mem_singleton] at h
    exact h ▸ isDigit_digitChar n
  | case2 n hn ih =>
    unfold digits at h
    rw [if_neg hn, List.mem_append] at h
    rcases h with h | h
    · exact ih h
    · rw [List.mem_singleton] at h
      exact h ▸ isDigit_digitChar n

theorem digits_ne_nil (n : Nat) : digits n ≠ [] := by
  unfold digits
  split <;> simp

/-- Zero alone starts with a zero. -/
theorem digits_eq_zero_cons {n : Nat} {l : List Char} (h : digits n = '0' :: l) : l = [] := by
  induction n using digits.induct generalizing l with
  | case1 n hn =>
    rw [digits, if_pos hn] at h
    exact (List.cons.inj h).2.symm
  | case2 n hn ih =>
    rw [digits, if_neg hn] at h
    obtain ⟨d, more, hd⟩ := List.exists_cons_of_ne_nil (digits_ne_nil (n / 10))
    rw [hd, List.cons_append] at h
    rw [(List.cons.inj h).1] at hd
    rw [ih hd] at hd
    -- The digits before the last are a zero alone, which stands for no `n / 10` here.
    have hvalue := valueOf_digits (n / 10)
    rw [hd] at hvalue
    have hzero : valueOf ['0'] = 0 := by decide
    omega

end PluginHost.Decimal
