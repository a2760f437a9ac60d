import PluginHost.Proofs.Toml.Keys
import PluginHost.Proofs.Toml.Trees
import PluginHost.Toml.Inline

/-! # Written values read back

    The text of a value, in either layout, is read as the value's item
    (`readsAs_chars`), if it is plain, its keys ascend, and its brackets nest
    no deeper than is read.  What follows must not look like more of it
    (`EndsValue`).

    The induction is on the depth, and one level of brackets is a list of texts
    that read back: `readItems` and `readPairs` each have a lemma on such a
    list, which knows nothing of values. -/

namespace PluginHost.Toml

open Text (Stops stops_cons stops_nil)

variable {l rest text : List Char} {c : Char} {layout : Layout}

/-! ## What stands around a value -/

/-- A character that is passed between values and keys. -/
def isTrivia (c : Char) : Bool := c ∈ ['\n', '\r', ' ', '\t', '#']

theorem skipTrivia_of_stops (h : Stops isTrivia l) : skipTrivia false l = l := by
  cases l with
  | nil => rfl
  | cons c l =>
    have hc := stops_cons.mp h
    simp only [isTrivia, List.mem_cons, List.not_mem_nil, or_false, decide_eq_false_iff_not,
      not_or] at hc
    obtain ⟨hline, hreturn, hblank, htab, hmark⟩ := hc
    have hinLine : ¬isBlankInLine c = true := by simp [isBlankInLine, hblank, htab]
    rw [skipTrivia.eq_def]
    simp only [if_neg hline, if_neg hreturn, if_neg hinLine, if_neg hmark]
    rfl

@[simp] theorem skipTrivia_blank (l : List Char) :
    skipTrivia false (' ' :: l) = skipTrivia false l := by
  rw [skipTrivia.eq_def]
  simp [isBlankInLine]

@[simp] theorem skipTrivia_lineFeed (comment : Bool) (l : List Char) :
    skipTrivia comment ('\n' :: l) = skipTrivia false l := by
  rw [skipTrivia.eq_def]
  simp

theorem IsKey.skipTrivia {written : List Char} {name : String} (h : IsKey written name)
    (rest : List Char) : skipTrivia false (written ++ rest) = written ++ rest := by
  obtain ⟨c, l, rfl, hc⟩ := h.starts
  exact skipTrivia_of_stops (stops_cons.mpr (decide_eq_false (Text.not_mem_of_kind hc rfl)))

/-- What follows a value: a character that ends a scalar, and no blank before
    the digits of a time. -/
structure EndsValue (rest : List Char) : Prop where
  ends   : Stops (!endsBare ·) rest
  noTime : ∀ c more, rest = ' ' :: c :: more → c.isDigit = false

theorem endsValue_cons (h : endsBare c = true) (hc : c ≠ ' ') (l : List Char) :
    EndsValue (c :: l) := by
  refine ⟨by simp [h], fun d more heq => ?_⟩
  exact absurd (List.cons.inj heq).1 hc

theorem EndsValue.head_ne (h : EndsValue rest) (hc : endsBare c = false) :
    rest.head? ≠ some c := by
  intro heq
  have hstop := h.ends c heq
  simp only [hc] at hstop
  cases hstop

/-! ## Scalars -/

theorem cutBare_append (htext : ∀ c ∈ text, endsBare c = false) (hrest : EndsValue rest) :
    cutBare (text ++ rest) = (text, rest) := by
  have hrun : ∀ c ∈ text, (!endsBare c) = true := by
    intro c hc
    rw [htext c hc]
    rfl
  have htake := Text.takeWhile_run hrun hrest.ends
  have hdrop := Text.dropWhile_run hrun hrest.ends
  rw [cutBare]
  simp only [htake, hdrop]
  split
  · rename_i d more
    have htime := hrest.noTime d more rfl
    rw [htime, Bool.and_false]
    rfl
  · rfl

theorem ungroup_of_digits {ds : List Char} (hne : ds ≠ []) (h : ∀ c ∈ ds, c.isDigit = true) :
    ungroup Char.isDigit ds = some ds := by
  fun_induction ungroup Char.isDigit ds with
  | case1 => exact absurd rfl hne
  | case2 c hc => rfl
  | case3 c hc => exact absurd (h c List.mem_cons_self) hc
  | case4 c rest hc ih =>
    exact absurd (h '_' (by simp)) (by decide)
  | case5 c d rest hc hd ih =>
    rw [ih (by simp) fun e he => h e (List.mem_cons_of_mem c he)]
    rfl
  | case6 c d rest hc => exact absurd (h c List.mem_cons_self) hc

theorem decimalDigits_digits (n : Nat) :
    decimalDigits (Decimal.digits n) = some (Decimal.digits n) := by
  have hungroup := ungroup_of_digits (Decimal.digits_ne_nil n) fun c hc =>
    Decimal.isDigit_of_mem_digits hc
  rw [decimalDigits, hungroup]
  split
  · rename_i heq
    rw [heq]
  · rename_i ds hnot heq
    exact absurd (Decimal.digits_eq_zero_cons (Option.some.inj heq)) hnot
  · rfl

/-- The characters of integers and truth values. -/
def isBareValueChar (c : Char) : Bool := c.isAlphanum || c == '-'

theorem endsBare_of_isBareValueChar (h : isBareValueChar c = true) : endsBare c = false :=
  decide_eq_false (Text.not_mem_of_kind h rfl)

theorem mem_integerChars {n : Int} (h : c ∈ integerChars n) : c.isDigit = true ∨ c = '-' := by
  rw [integerChars] at h
  split at h
  · rcases List.mem_cons.mp h with rfl | h
    · exact .inr rfl
    · exact .inl (Decimal.isDigit_of_mem_digits h)
  · exact .inl (Decimal.isDigit_of_mem_digits h)

theorem decimalInteger_digits (negative : Bool) (n : Nat) :
    decimalInteger negative (Decimal.digits n) = some (Scalar.ofInt (signed negative n)) := by
  rw [decimalInteger, decimalDigits_digits]
  simp

/-- A text that starts with no mark of a radix is read as a decimal integer
    first. -/
theorem readNumber_decimal {negative : Bool} {ds : List Char} {s : Scalar}
    (hmark : ∀ d more, l ≠ '0' :: d :: more) (hsplit : splitSign l = (negative, ds))
    (h : decimalInteger negative ds = some s) : readNumber l = some s := by
  rw [readNumber]
  · rw [hsplit]
    simp only [h]
    rfl
  · exact fun ds heq => hmark 'x' ds heq
  · exact fun ds heq => hmark 'o' ds heq
  · exact fun ds heq => hmark 'b' ds heq

theorem splitSign_of_digits (h : ∀ c ∈ l, c.isDigit = true) : splitSign l = (false, l) := by
  rw [splitSign]
  · rintro rest rfl
    exact absurd (h '-' List.mem_cons_self) (by decide)
  · rintro rest rfl
    exact absurd (h '+' List.mem_cons_self) (by decide)

theorem readNumber_integerChars (n : Int) :
    readNumber (integerChars n) = some (Scalar.ofInt n) := by
  rw [integerChars]
  by_cases hn : n < 0
  · have hsigned : signed true n.natAbs = n := by
      simp only [signed, if_true]
      omega
    rw [if_pos hn]
    refine readNumber_decimal (fun d more heq => ?_) rfl ?_
    · exact absurd (List.cons.inj heq).1 (by decide)
    · rw [decimalInteger_digits, hsigned]
  · have hsigned : signed false n.natAbs = n := by
      simp only [signed, Bool.false_eq_true, if_false]
      omega
    have hdigits : ∀ c ∈ Decimal.digits n.natAbs, c.isDigit = true :=
      fun c hc => Decimal.isDigit_of_mem_digits hc
    rw [if_neg hn]
    refine readNumber_decimal (fun d more heq => ?_) (splitSign_of_digits hdigits) ?_
    · exact absurd (Decimal.digits_eq_zero_cons heq) (by simp)
    · rw [decimalInteger_digits, hsigned]

/-- A text without quotes and brackets that is a scalar. -/
structure IsBare (text : List Char) (s : Scalar) : Prop where
  chars : ∀ c ∈ text, isBareValueChar c = true
  reads : Scalar.ofBare text = some s

/-- An integer of 64 bits is read as what it is. -/
theorem isBare_integerChars (n : Int64) :
    IsBare (integerChars n.toInt) (.integer (some n.toInt)) := by
  refine ⟨fun c hc => ?_, ?_⟩
  · rcases mem_integerChars hc with hdigit | rfl
    · rw [isBareValueChar, Char.isAlphanum, hdigit, Bool.or_true]
      rfl
    · decide
  -- A truth value would be tried first, but starts with a letter.
  have hboolean : readBoolean (integerChars n.toInt) = none := by
    have hletter : ∀ d more, integerChars n.toInt = d :: more → d.isDigit = true ∨ d = '-' :=
      fun d more heq => mem_integerChars (heq ▸ List.mem_cons_self)
    rw [readBoolean, if_neg fun heq => absurd (hletter _ _ heq) (by decide),
      if_neg fun heq => absurd (hletter _ _ heq) (by decide)]
  have hlow : -9223372036854775808 ≤ n.toInt := n.le_toInt
  have hhigh : n.toInt < 9223372036854775808 := n.toInt_lt
  have hnegative : Nat.pow 2 127 = 170141183460469231731687303715884105728 := rfl
  have hpositive : Nat.pow 2 128 = 340282366920938463463374607431768211456 := rfl
  have hfits : fits128 n.toInt = true := by
    rw [fits128, hnegative, hpositive, Bool.and_eq_true, decide_eq_true_eq, decide_eq_true_eq]
    omega
  rw [Scalar.ofBare, hboolean, readNumber_integerChars, Scalar.ofInt, if_pos hfits]
  rfl

theorem isBare_booleanChars (b : Bool) : IsBare (booleanChars b) (.boolean b) := by
  cases b with
  | true => exact ⟨List.all_eq_true.mp rfl, rfl⟩
  | false => exact ⟨List.all_eq_true.mp rfl, rfl⟩

/-- A bare scalar is no empty text. -/
theorem IsBare.ne_nil {s : Scalar} (h : IsBare text s) : text ≠ [] := by
  rintro rfl
  have hnone : Scalar.ofBare [] = none := by decide
  rw [h.reads] at hnone
  cases hnone

theorem readQuoted_none (hdouble : l.head? ≠ some '"') (hsingle : l.head? ≠ some '\'') :
    readQuoted? l = none := by
  unfold readQuoted?
  split
  · exact absurd rfl hdouble
  · exact absurd rfl hsingle
  · exact absurd rfl hdouble
  · exact absurd rfl hsingle
  · rfl

theorem readScalar_bare {s : Scalar} (h : IsBare text s) (hrest : EndsValue rest) :
    readScalar (text ++ rest) = some (.scalar s, rest) := by
  obtain ⟨c, more, rfl⟩ := List.exists_cons_of_ne_nil h.ne_nil
  have hc := h.chars c List.mem_cons_self
  have hquoted : readQuoted? (c :: more ++ rest) = none := by
    refine readQuoted_none ?_ ?_
    · rintro ⟨⟩
      exact absurd hc (by decide)
    · rintro ⟨⟩
      exact absurd hc (by decide)
  have hcut := cutBare_append (fun d hd => endsBare_of_isBareValueChar (h.chars d hd)) hrest
  rw [readScalar, hquoted]
  simp only [readBare, hcut, h.reads, Option.map_some]

theorem readScalar_string (s : String) (hrest : EndsValue rest) :
    readScalar (stringChars s ++ rest) = some (.scalar (.string s), rest) := by
  rw [readScalar, readQuoted_stringChars s (hrest.head_ne rfl) (hrest.head_ne rfl)]
  rfl

/-! ## One level of brackets -/

theorem head_inForm (l : List Char) (form : Form) :
    ∃ c more, inForm l form = c :: more ∧ (c = '"' ∨ c = '\'') := by
  cases form with
  | basic => exact ⟨'"', _, rfl, .inl rfl⟩
  | literal => exact ⟨'\'', _, rfl, .inr rfl⟩
  | basicLines => exact ⟨'"', _, rfl, .inl rfl⟩
  | literalLines => exact ⟨'\'', _, rfl, .inr rfl⟩

theorem head_arrayChars (layout : Layout) (texts : List (List Char)) :
    ∃ more, arrayChars layout texts = '[' :: more := by
  rw [arrayChars]
  split
  · exact ⟨_, rfl⟩
  · exact ⟨_, rfl⟩

theorem head_inlineTableChars (texts : List (List Char)) :
    ∃ more, inlineTableChars texts = '\x7b' :: more := by
  rw [inlineTableChars]
  split
  · exact ⟨_, rfl⟩
  · exact ⟨_, rfl⟩

/-- A character that a written value may start with. -/
def isValueStart (c : Char) : Bool :=
  isBareValueChar c || c ∈ ['"', '\'', '[', '\x7b']

/-- A text that a reader takes for an item, wherever it stands. -/
structure ReadsAs (read : ValueReader) (written : List Char) (item : Item) : Prop where
  starts : ∃ c more, written = c :: more ∧ isValueStart c = true
  reads  : ∀ rest, EndsValue rest → read (written ++ rest) = some (item, rest)

section

variable {read : ValueReader} {written : List Char} {item : Item} {items done : List Item}
  {texts : List (List Char)} {steps : Nat}

theorem ReadsAs.skipTrivia (h : ReadsAs read written item) (rest : List Char) :
    skipTrivia false (written ++ rest) = written ++ rest := by
  obtain ⟨c, more, rfl, hc⟩ := h.starts
  exact skipTrivia_of_stops (stops_cons.mpr (decide_eq_false (Text.not_mem_of_kind hc rfl)))

theorem ReadsAs.skipBlanks (h : ReadsAs read written item) (rest : List Char) :
    skipBlanks (written ++ rest) = written ++ rest := by
  obtain ⟨c, more, rfl, hc⟩ := h.starts
  have hblank : c ∉ [' ', '\t'] := Text.not_mem_of_kind hc rfl
  exact Text.dropWhile_of_stops (stops_cons.mpr (by simpa [isBlankInLine] using hblank))

theorem ReadsAs.head_ne (h : ReadsAs read written item) (hc : isValueStart c = false)
    (more : List Char) : written ++ rest ≠ c :: more := by
  obtain ⟨d, l, rfl, hd⟩ := h.starts
  intro heq
  rw [(List.cons.inj heq).1, hc] at hd
  cases hd

theorem readItems_end (h : skipTrivia false l = ']' :: rest) :
    readItems read done (steps + 1) l = some (.array false done, rest) := by
  rw [readItems, h]
  rfl

/-- One step of the reader takes one item. -/
theorem readItems_item (hitem : ReadsAs read written item) (hrest : EndsValue rest)
    (h : skipTrivia false l = written ++ rest) :
    readItems read done (steps + 1) l =
      match skipTrivia false rest with
      | ',' :: rest => readItems read (done ++ [item]) steps rest
      | ']' :: rest => some (.array false (done ++ [item]), rest)
      | _ => none := by
  rw [readItems, h]
  split
  · rename_i heq
    exact absurd heq (hitem.head_ne (by decide) _)
  · rw [hitem.reads rest hrest]
    rfl

end

section

variable {α : Type} {read : ValueReader} {write : α → List Char} {item : α → Item} {parts : List α}
  {done : List Item} {steps : Nat}

/-- Nothing is passed before the first of several items. -/
theorem skipTrivia_intercalate {a : α} (ha : ReadsAs read (write a) (item a)) (sep : List Char)
    (parts : List α) (rest : List Char) :
    skipTrivia false (List.intercalate sep ((a :: parts).map write) ++ rest) =
      List.intercalate sep ((a :: parts).map write) ++ rest := by
  cases parts with
  | nil => simpa [List.intercalate] using ha.skipTrivia rest
  | cons b parts => simpa [List.intercalate] using ha.skipTrivia _

/-- An array on one line. -/
theorem readItems_compact (hne : parts ≠ [])
    (hparts : ∀ a ∈ parts, ReadsAs read (write a) (item a))
    (h : skipTrivia false l = List.intercalate [',', ' '] (parts.map write) ++ ']' :: rest)
    (hsteps : parts.length ≤ steps) :
    readItems read done steps l = some (.array false (done ++ parts.map item), rest) := by
  induction parts generalizing l done steps with
  | nil => exact absurd rfl hne
  | cons a parts ih =>
    obtain ⟨steps, rfl⟩ := Nat.exists_eq_add_of_le' (Nat.le_trans (Nat.le_add_left 1 _) hsteps)
    have ha := hparts a List.mem_cons_self
    cases parts with
    | nil =>
      have hlast : skipTrivia false l = write a ++ ']' :: rest := by
        simpa [List.intercalate] using h
      rw [readItems_item ha (endsValue_cons rfl (by decide) rest) hlast,
        skipTrivia_of_stops (stops_cons.mpr rfl)]
      rfl
    | cons b parts =>
      have hmore : skipTrivia false l = write a ++ ',' :: ' ' ::
          (List.intercalate [',', ' '] ((b :: parts).map write) ++ ']' :: rest) := by
        rw [h]
        simp [List.intercalate]
      have hb := hparts b (by simp)
      have hskip : skipTrivia false (' ' ::
          (List.intercalate [',', ' '] ((b :: parts).map write) ++ ']' :: rest)) =
          List.intercalate [',', ' '] ((b :: parts).map write) ++ ']' :: rest := by
        rw [skipTrivia_blank, skipTrivia_intercalate hb]
      rw [readItems_item ha (endsValue_cons rfl (by decide) _) hmore,
        skipTrivia_of_stops (stops_cons.mpr rfl)]
      simp only
      rw [ih (by simp) (fun d hd => hparts d (List.mem_cons_of_mem a hd)) hskip
        (by simpa using hsteps)]
      simp

/-- An array with its items on lines of their own. -/
theorem readItems_spread (hparts : ∀ a ∈ parts, ReadsAs read (write a) (item a))
    (hsteps : parts.length < steps) :
    readItems read done steps ('\n' ::
      ((parts.map write).flatMap (fun item => "    ".toList ++ item ++ [',', '\n']) ++
        ']' :: rest)) = some (.array false (done ++ parts.map item), rest) := by
  induction parts generalizing done steps with
  | nil =>
    -- A comma stands after the last item too.
    obtain ⟨steps, rfl⟩ := Nat.exists_eq_add_of_le' hsteps
    have hend : skipTrivia false ('\n' :: ']' :: rest) = ']' :: rest := by
      rw [skipTrivia_lineFeed, skipTrivia_of_stops (stops_cons.mpr rfl)]
    rw [List.map_nil, List.flatMap_nil, List.nil_append]
    exact (readItems_end hend).trans (by simp)
  | cons a parts ih =>
    obtain ⟨steps, rfl⟩ := Nat.exists_eq_add_of_le' (Nat.le_trans (Nat.le_add_left 1 _) hsteps)
    have ha := hparts a List.mem_cons_self
    have hmore : skipTrivia false ('\n' ::
        (((a :: parts).map write).flatMap (fun item => "    ".toList ++ item ++ [',', '\n']) ++
          ']' :: rest)) = write a ++ ',' :: '\n' ::
        ((parts.map write).flatMap (fun item => "    ".toList ++ item ++ [',', '\n']) ++
          ']' :: rest) := by
      have hskip := ha.skipTrivia (',' :: '\n' ::
        ((parts.map write).flatMap (fun item => "    ".toList ++ item ++ [',', '\n']) ++
          ']' :: rest))
      simpa using hskip
    rw [readItems_item ha (endsValue_cons rfl (by decide) _) hmore,
      skipTrivia_of_stops (stops_cons.mpr rfl)]
    simp only
    rw [ih (fun d hd => hparts d (List.mem_cons_of_mem a hd)) (by simpa using hsteps)]
    simp

/-- Texts between separators are no fewer than their characters. -/
theorem length_le_intercalate (sep : List Char) (hparts : ∀ a ∈ parts, write a ≠ []) :
    parts.length ≤ (List.intercalate sep (parts.map write)).length := by
  induction parts with
  | nil => simp
  | cons a parts ih =>
    have hlater := ih fun b hb => hparts b (List.mem_cons_of_mem a hb)
    have ha := List.length_pos_iff.mpr (hparts a List.mem_cons_self)
    cases parts with
    | nil => simpa [List.intercalate, Nat.succ_le_iff] using ha
    | cons b parts =>
      simp only [List.length_cons, List.map_cons, List.intercalate, List.intersperse_cons_cons,
        List.flatten_cons, List.length_append] at hlater ⊢
      omega

theorem length_le_flatMap (texts : List (List Char)) :
    texts.length ≤
      (texts.flatMap (fun item => "    ".toList ++ item ++ [',', '\n'])).length := by
  induction texts with
  | nil => simp
  | cons text texts ih =>
    simp only [List.length_cons, List.flatMap_cons, List.length_append]
    omega

theorem ReadsAs.ne_nil {written : List Char} {i : Item} (h : ReadsAs read written i) :
    written ≠ [] := by
  obtain ⟨c, more, rfl, -⟩ := h.starts
  simp

/-- A written array reads back, if its items do one level deeper. -/
theorem readsAs_array {depth : Nat} (layout : Layout)
    (hparts : ∀ a ∈ parts, ReadsAs (readValue depth) (write a) (item a)) :
    ReadsAs (readValue (depth + 1)) (arrayChars layout (parts.map write))
      (.array false (parts.map item)) := by
  obtain ⟨more, hmore⟩ := head_arrayChars layout (parts.map write)
  refine ⟨⟨'[', more, hmore, by decide⟩, fun rest _ => ?_⟩
  have hread : ∀ text, readValue (depth + 1) ('[' :: text) =
      readItems (readValue depth) [] (text.length + 1) text := fun text => rfl
  have hnonempty : ∀ a ∈ parts, write a ≠ [] := fun a ha => (hparts a ha).ne_nil
  rw [arrayChars]
  split
  · -- On lines of their own.
    have hwritten : ['[', '\n'] ++
        (parts.map write).flatMap (fun item => "    ".toList ++ item ++ [',', '\n']) ++ [']'] ++
          rest = '[' :: '\n' ::
        ((parts.map write).flatMap (fun item => "    ".toList ++ item ++ [',', '\n']) ++
          ']' :: rest) := by
      simp
    rw [hwritten, hread, readItems_spread hparts, List.nil_append]
    -- The reader may take a step for each character, and each item has some.
    have hlength := length_le_flatMap (parts.map write)
    rw [List.length_map] at hlength
    simp only [List.length_cons, List.length_append]
    omega
  · -- On one line.
    have hwritten : ['['] ++ List.intercalate [',', ' '] (parts.map write) ++ [']'] ++ rest =
        '[' :: (List.intercalate [',', ' '] (parts.map write) ++ ']' :: rest) := by
      simp
    rw [hwritten, hread]
    cases parts with
    | nil => exact readItems_end (skipTrivia_of_stops (stops_cons.mpr rfl))
    | cons a parts =>
      have hlength := length_le_intercalate [',', ' '] hnonempty
      rw [readItems_compact (by simp) hparts
        (skipTrivia_intercalate (hparts a List.mem_cons_self) _ _ _), List.nil_append]
      simp only [List.length_append]
      omega

/-! ## Tables in braces -/

/-- One step of the reader takes one entry. -/
theorem readPairs_entry {key text : List Char} {name : String} {i : Item}
    {pairs : List (KeyPath × Item)} (hkey : IsKey key name) (htext : ReadsAs read text i)
    (hrest : EndsValue rest)
    (h : skipTrivia false l = key ++ ' ' :: '=' :: ' ' :: (text ++ rest)) :
    readPairs read pairs (steps + 1) l =
      match skipTrivia false rest with
      | ',' :: rest => readPairs read (pairs ++ [(⟨[], name⟩, i)]) steps rest
      | '\x7d' :: rest => (Item.ofPairs (pairs ++ [(⟨[], name⟩, i)])).map (·, rest)
      | _ => none := by
  have hpath : readKeyPath (key ++ ' ' :: '=' :: ' ' :: (text ++ rest)) =
      some (⟨[], name⟩, '=' :: ' ' :: (text ++ rest)) :=
    readKeyPath_key hkey (stops_cons.mpr rfl) fun hhead =>
      absurd (Option.some.inj hhead) (by decide)
  have hequals : skipTrivia false ('=' :: ' ' :: (text ++ rest)) = '=' :: ' ' :: (text ++ rest) :=
    skipTrivia_of_stops (stops_cons.mpr rfl)
  rw [readPairs, h]
  split
  · rename_i heq
    exact absurd rfl (hkey.head_ne (by decide) '\x7d' (congrArg List.head? heq))
  · rw [hpath]
    simp only [Option.bind_eq_bind, Option.bind_some, hequals, skipTrivia_blank, htext.skipTrivia]
    rw [htext.reads rest hrest]
    rfl

end

/-- A new key above all others is added at the end. -/
theorem addNew_append {entries : Entries Item} {key : String} (h : ∀ e ∈ entries, e.1 < key)
    (i : Item) (origin : Origin) : addNew key i origin entries = some (entries ++ [(key, i)]) := by
  have hnone : entries.get? key = none := by
    rw [Entries.get?_eq_none_iff]
    rintro e he rfl
    exact String.lt_irrefl e.1 (h e he)
  rw [addNew, hnone, Entries.insert_eq_append h]

/-- Entries whose keys ascend make up the table that lists them. -/
theorem ofPairs_ordered {entries : Entries Item} (h : entries.Ordered) :
    Item.ofPairs (entries.map fun e => (⟨[], e.1⟩, e.2)) = some (.table .inline entries) := by
  -- The entries done so far have lesser keys, so each new one goes to the end.
  have hrun : ∀ done : Entries Item, Entries.Ordered (done ++ entries) →
      (entries.map fun e => ((⟨[], e.1⟩, e.2) : KeyPath × Item)).foldlM
        (fun entries pair => assign pair.1 pair.2 .inline entries) done =
          some (done ++ entries) := by
    intro done hdone
    induction entries generalizing done with
    | nil => simp
    | cons e entries ih =>
      have hlast : ∀ d ∈ done, d.1 < e.1 := fun d hd =>
        (List.pairwise_append.mp hdone).2.2 d hd e List.mem_cons_self
      have hfirst : assign ⟨[], e.1⟩ e.2 .inline done = some (done ++ [e]) :=
        addNew_append hlast e.2 .inline
      rw [List.map_cons, List.foldlM_cons, hfirst, Option.bind_eq_bind, Option.bind_some,
        ih (List.pairwise_cons.mp h).2 _ (by simpa using hdone), List.append_assoc]
      rfl
  rw [Item.ofPairs, hrun [] (by simpa using h)]
  rfl

section

variable {α : Type} {read : ValueReader} {write : α → List Char} {item : α → Item}
  {entries : Entries α} {pairs : List (KeyPath × Item)} {steps : Nat} {depth : Nat}

/-- A key and its value. -/
def pairChars (write : α → List Char) (e : String × α) : List Char :=
  keyChars e.1 ++ [' ', '=', ' '] ++ write e.2

theorem pairChars_append (write : α → List Char) (e : String × α) (rest : List Char) :
    pairChars write e ++ rest = keyChars e.1 ++ ' ' :: '=' :: ' ' :: (write e.2 ++ rest) := by
  simp [pairChars]

theorem skipTrivia_pairs (write : α → List Char) (e : String × α) (entries : Entries α)
    (sep rest : List Char) :
    skipTrivia false (List.intercalate sep ((e :: entries).map (pairChars write)) ++ rest) =
      List.intercalate sep ((e :: entries).map (pairChars write)) ++ rest := by
  have hkey := isKey_keyChars e.1
  cases entries with
  | nil => simpa [List.intercalate, pairChars] using hkey.skipTrivia _
  | cons d entries => simpa [List.intercalate, pairChars] using hkey.skipTrivia _

/-- The entries of a table in braces. -/
theorem readPairs_compact (hne : entries ≠ [])
    (hentries : ∀ e ∈ entries, ReadsAs read (write e.2) (item e.2))
    (h : skipTrivia false l =
      List.intercalate [',', ' '] (entries.map (pairChars write)) ++ ' ' :: '\x7d' :: rest)
    (hsteps : entries.length ≤ steps) :
    readPairs read pairs steps l =
      (Item.ofPairs (pairs ++ entries.map fun e => (⟨[], e.1⟩, item e.2))).map (·, rest) := by
  induction entries generalizing l pairs steps with
  | nil => exact absurd rfl hne
  | cons e entries ih =>
    obtain ⟨steps, rfl⟩ := Nat.exists_eq_add_of_le' (Nat.le_trans (Nat.le_add_left 1 _) hsteps)
    have he := hentries e List.mem_cons_self
    have hkey := isKey_keyChars e.1
    cases entries with
    | nil =>
      have hlast : skipTrivia false l =
          keyChars e.1 ++ ' ' :: '=' :: ' ' :: (write e.2 ++ ' ' :: '\x7d' :: rest) := by
        rw [h, ← pairChars_append]
        simp [List.intercalate]
      -- The blank before the brace might come before a time, but no digit follows it.
      have hends : EndsValue (' ' :: '\x7d' :: rest) := by
        refine ⟨stops_cons.mpr rfl, ?_⟩
        rintro c more ⟨⟩
        rfl
      rw [readPairs_entry hkey he hends hlast, skipTrivia_blank,
        skipTrivia_of_stops (stops_cons.mpr rfl)]
      rfl
    | cons d entries =>
      have hmore : skipTrivia false l = keyChars e.1 ++ ' ' :: '=' :: ' ' :: (write e.2 ++ ',' ::
          ' ' :: (List.intercalate [',', ' '] ((d :: entries).map (pairChars write)) ++
            ' ' :: '\x7d' :: rest)) := by
        rw [h, ← pairChars_append]
        simp [List.intercalate]
      have hskip := skipTrivia_pairs write d entries [',', ' '] (' ' :: '\x7d' :: rest)
      rw [readPairs_entry hkey he (endsValue_cons rfl (by decide) _) hmore,
        skipTrivia_of_stops (stops_cons.mpr rfl)]
      simp only
      rw [ih (by simp) (fun x hx => hentries x (List.mem_cons_of_mem e hx))
        ((skipTrivia_blank _).trans hskip) (by simpa using hsteps)]
      simp

/-- A written table in braces reads back, if its values do one level deeper. -/
theorem readsAs_table (hordered : entries.Ordered)
    (hentries : ∀ e ∈ entries, ReadsAs (readValue depth) (write e.2) (item e.2)) :
    ReadsAs (readValue (depth + 1)) (inlineTableChars (entries.map (pairChars write)))
      (.table .inline (entries.map fun e => (e.1, item e.2))) := by
  obtain ⟨more, hmore⟩ := head_inlineTableChars (entries.map (pairChars write))
  refine ⟨⟨'\x7b', more, hmore, by decide⟩, fun rest _ => ?_⟩
  have hread : ∀ text, readValue (depth + 1) ('\x7b' :: text) =
      readPairs (readValue depth) [] (text.length + 1) text := fun text => rfl
  have hpairs := ofPairs_ordered (hordered.map item)
  rw [List.map_map] at hpairs
  cases entries with
  | nil =>
    have hend : skipTrivia false ('\x7d' :: rest) = '\x7d' :: rest :=
      skipTrivia_of_stops (stops_cons.mpr rfl)
    have hwritten : inlineTableChars (([] : Entries α).map (pairChars write)) ++ rest =
        '\x7b' :: '\x7d' :: rest := rfl
    rw [hwritten, hread, readPairs, hend]
    rfl
  | cons e entries =>
    have hwritten : inlineTableChars ((e :: entries).map (pairChars write)) ++ rest =
        '\x7b' :: ' ' :: (List.intercalate [',', ' '] ((e :: entries).map (pairChars write)) ++
          ' ' :: '\x7d' :: rest) := by
      simp [inlineTableChars]
    have hnonempty : ∀ d ∈ e :: entries, pairChars write d ≠ [] := by simp [pairChars]
    have hlength := length_le_intercalate [',', ' '] hnonempty
    rw [hwritten, hread, readPairs_compact (by simp) hentries
      ((skipTrivia_blank _).trans (skipTrivia_pairs write e entries _ _)), List.nil_append]
    · exact congrArg (Option.map (·, rest)) hpairs
    · simp only [List.length_cons, List.length_append] at hlength ⊢
      omega

end

/-! ## Values -/

theorem itemsChars_eq_map (layout : Layout) (items : List Value) :
    itemsChars layout items = items.map (·.chars layout) := by
  induction items with
  | nil => rfl
  | cons v rest ih => rw [itemsChars, ih, List.map_cons]

theorem entriesChars_eq_map (layout : Layout) (entries : Entries Value) :
    entriesChars layout entries = entries.map (pairChars (·.chars layout)) := by
  induction entries with
  | nil => rfl
  | cons e rest ih =>
    rw [entriesChars, ih, List.map_cons]
    rfl

section

variable {v : Value} {depth : Nat}

/-- What starts with no bracket is read as a scalar, at any depth. -/
theorem readValue_of_head (hbracket : l.head? ≠ some '[') (hbrace : l.head? ≠ some '\x7b') :
    readValue depth l = readScalar l := by
  cases depth with
  | zero =>
    rw [readValue]
    · rintro rest rfl
      exact hbracket rfl
    · rintro rest rfl
      exact hbrace rfl
  | succ depth =>
    rw [readValue]
    · rintro rest rfl
      exact hbracket rfl
    · rintro rest rfl
      exact hbrace rfl

theorem readsAs_bare {s : Scalar} (h : IsBare text s) :
    ReadsAs (readValue depth) text (.scalar s) := by
  obtain ⟨c, more, rfl⟩ := List.exists_cons_of_ne_nil h.ne_nil
  have hc := h.chars c List.mem_cons_self
  refine ⟨⟨c, more, rfl, by rw [isValueStart, hc]; rfl⟩, fun rest hrest => ?_⟩
  rw [readValue_of_head, readScalar_bare h hrest]
  · rintro ⟨⟩
    exact absurd hc (by decide)
  · rintro ⟨⟩
    exact absurd hc (by decide)

theorem readsAs_string (s : String) :
    ReadsAs (readValue depth) (stringChars s) (.scalar (.string s)) := by
  obtain ⟨c, more, hwritten, hc⟩ := head_inForm s.toList (formOf s.toList)
  rw [← stringChars] at hwritten
  refine ⟨⟨c, more, hwritten, ?_⟩, fun rest hrest => ?_⟩
  · rcases hc with rfl | rfl <;> decide
  · rw [readValue_of_head, readScalar_string s hrest]
    · rw [hwritten]
      rintro ⟨⟩
      exact absurd hc (by decide)
    · rw [hwritten]
      rintro ⟨⟩
      exact absurd hc (by decide)

theorem readsAs_leaf (layout : Layout) (hleaf : v.isLeaf = true) (hplain : v.IsPlain) :
    ReadsAs (readValue depth) (v.chars layout) v.item := by
  cases v with
  | string s =>
    rw [Value.chars, Value.item]
    exact readsAs_string s
  | integer n =>
    rw [Value.chars, Value.item]
    exact readsAs_bare (isBare_integerChars n)
  | float x => exact hplain.elim
  | boolean b =>
    rw [Value.chars, Value.item]
    exact readsAs_bare (isBare_booleanChars b)
  | datetime d => exact hplain.elim
  | array items => cases hleaf
  | table entries => cases hleaf

/-- **A written value reads back.** -/
theorem readsAs_chars (layout : Layout) (hdepth : v.Within depth) (hplain : v.Plain)
    (hordered : v.Ordered) : ReadsAs (readValue depth) (v.chars layout) v.item := by
  -- On the depth, which is also what the reader counts down.
  induction hdepth with
  | leaf hleaf => exact readsAs_leaf layout hleaf hplain.here
  | @node depth v hparts ih =>
    cases v with
    | array items =>
      rw [Value.chars, Value.item, itemsChars_eq_map]
      exact readsAs_array layout fun w hw => ih w hw (hplain.part hw) (hordered.part hw)
    | table entries =>
      rw [Value.chars, Value.item, entriesChars_eq_map]
      refine readsAs_table hordered.1 fun e he => ?_
      have hpart : e.2 ∈ (Value.table entries).parts := List.mem_map_of_mem he
      exact ih e.2 hpart (hplain.part hpart) (hordered.part hpart)
    | string s => exact readsAs_leaf layout rfl hplain.here
    | integer n => exact readsAs_leaf layout rfl hplain.here
    | float x => exact readsAs_leaf layout rfl hplain.here
    | boolean b => exact readsAs_leaf layout rfl hplain.here
    | datetime d => exact readsAs_leaf layout rfl hplain.here

end

end PluginHost.Toml
