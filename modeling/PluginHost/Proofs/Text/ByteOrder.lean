import Mathlib.Data.UInt
import Mathlib.Tactic.SplitIfs

/-! # The order of texts

    Texts are ordered by their characters.  That is the order of their bytes
    as well: of two characters the later one has the greater bytes
    (`below_encodeChar`), whatever bytes come next.

    Main theorem: `bytes_lt_of_lt`. -/

namespace PluginHost.Text

/-- The bytes of a text. -/
def bytes (s : String) : List UInt8 := s.toUTF8.data.toList

/-- One sequence of bytes comes before another, however they go on. -/
def Below (x y : List UInt8) : Prop := ∀ u v : List UInt8, x ++ u < y ++ v

variable {m n : Nat} {x y : List UInt8} {c d : Char} {l k : List Char} {s t : String}

/-! ## Characters -/

theorem ofNat_lt (h : m < n) (hn : n < 256) : UInt8.ofNat m < UInt8.ofNat n := by
  rw [UInt8.lt_iff_toNat_lt, UInt8.toNat_ofNat', UInt8.toNat_ofNat']
  omega

/-- The first byte decides, unless both start alike. -/
theorem below_cons (hn : n < 256) (hle : m ≤ n) (h : m = n → Below x y) :
    Below (UInt8.ofNat m :: x) (UInt8.ofNat n :: y) := by
  intro u v
  rw [List.cons_append, List.cons_append, List.cons_lt_cons_iff]
  by_cases heq : m = n
  · right
    exact ⟨congrArg UInt8.ofNat heq, h heq u v⟩
  · left
    apply ofNat_lt _ hn
    omega

/-- The bytes of a character come before those of every later one. -/
theorem below_encodeChar (h : c < d) :
    Below (String.utf8EncodeChar c) (String.utf8EncodeChar d) := by
  have hlt : c.val.toNat < d.val.toNat := h
  have hd : d.val.toNat < 1114112 := by
    have hvalid := d.valid
    unfold UInt32.isValidChar Nat.isValidChar at hvalid
    omega
  unfold String.utf8EncodeChar
  generalize c.val.toNat = i at hlt
  generalize d.val.toNat = j at hlt hd
  dsimp only
  -- A later character has no fewer bytes; with more of them it has a greater first byte.
  split_ifs
  all_goals try omega
  all_goals refine below_cons (by omega) (by omega) fun h₁ => ?_
  all_goals try omega
  all_goals refine below_cons (by omega) (by omega) fun h₂ => ?_
  all_goals try omega
  all_goals refine below_cons (by omega) (by omega) fun h₃ => ?_
  all_goals try omega
  all_goals refine below_cons (by omega) (by omega) fun h₄ => ?_
  all_goals omega

/-! ## Texts -/

theorem flatMap_encodeChar_lt (h : l < k) :
    l.flatMap String.utf8EncodeChar < k.flatMap String.utf8EncodeChar := by
  induction l generalizing k with
  | nil =>
    cases k with
    | nil => exact absurd h (List.lt_irrefl _)
    | cons d k =>
      rw [List.flatMap_cons]
      cases hbytes : String.utf8EncodeChar d with
      | nil => exact absurd hbytes String.utf8EncodeChar_ne_nil
      | cons b more => exact List.nil_lt_cons _ _
  | cons c l ih =>
    cases k with
    | nil => exact absurd h (List.not_lt_nil _)
    | cons d k =>
      rw [List.flatMap_cons, List.flatMap_cons]
      rcases List.cons_lt_cons_iff.mp h with hlt | ⟨rfl, hlt⟩
      · exact below_encodeChar hlt _ _
      · exact List.append_left_lt (ih hlt)

theorem bytes_eq (s : String) : bytes s = s.toList.flatMap String.utf8EncodeChar := by
  have hencode : s.toUTF8 = s.toList.utf8Encode := String.utf8Encode_toList.symm
  rw [bytes, hencode, List.utf8Encode, List.toList_data_toByteArray]

/-- **The order of texts is that of their bytes.** -/
theorem bytes_lt_of_lt (h : s < t) : bytes s < bytes t := by
  rw [bytes_eq, bytes_eq]
  exact flatMap_encodeChar_lt (String.lt_iff.mp h)

end PluginHost.Text
