import PluginHost.Decimal.Natural

/-! # Reading strings

    The four quoted forms.  Each reader starts after the opening quotes and
    returns the text and what follows the closing quotes. -/

namespace PluginHost.Toml

/-! ## Characters -/

/-- A character that may stand for itself: the tab and all that is no control
    character. -/
def isTextChar (c : Char) : Bool := c == '\t' || (0x20 ≤ c.toNat && c.toNat != 0x7F)

/-- The character of an escape of one letter. -/
def shortEscape? (c : Char) : Option Char :=
  if c = 'b' then some '\x08'
  else if c = 't' then some '\t'
  else if c = 'n' then some '\n'
  else if c = 'f' then some '\x0c'
  else if c = 'r' then some '\r'
  else if c = 'e' then some '\x1b'
  else if c = '"' then some '"'
  else if c = '\\' then some '\\'
  else none

/-- The number of digits after the letter of a numeric escape. -/
def escapeWidth? (c : Char) : Option Nat :=
  if c = 'x' then some 2 else if c = 'u' then some 4 else if c = 'U' then some 8 else none

/-- The character whose code point is written in `width` hexadecimal digits. -/
def numericEscape? (width : Nat) (l : List Char) : Option Char :=
  let ds := l.take width
  let n := Decimal.valueFrom 16 0 ds
  if ds.length = width ∧ ds.all (Decimal.isDigitIn 16) ∧ n.isValidChar then some (Char.ofNat n)
  else none

/-- The character of an escape, after its backslash, and the number of
    characters that the escape takes. -/
def escape? : List Char → Option (Char × Nat)
  | [] => none
  | e :: rest =>
    match shortEscape? e with
    | some c => some (c, 1)
    | none => do
      let width ← escapeWidth? e
      let c ← numericEscape? width rest
      pure (c, width + 1)

/-! ## One line -/

/-- Read on to the closing double quote; `text` is read so far, in reverse. -/
def readBasic (text : List Char) : List Char → Option (String × List Char)
  | [] => none
  | c :: rest =>
    if c = '"' then some (String.ofList text.reverse, rest)
    else if c = '\\' then
      match escape? rest with
      | some (e, width) => readBasic (e :: text) (rest.drop width)
      | none => none
    else if isTextChar c then readBasic (c :: text) rest
    else none
termination_by l => l.length
decreasing_by
  · simp only [List.length_drop, List.length_cons]; omega
  · simp

/-- Read on to the closing single quote. -/
def readLiteral (text : List Char) : List Char → Option (String × List Char)
  | [] => none
  | c :: rest =>
    if c = '\'' then some (String.ofList text.reverse, rest)
    else if isTextChar c then readLiteral (c :: text) rest
    else none

/-! ## Several lines -/

/-- A line feed right after the opening quotes is no part of the text. -/
def skipFirstNewline : List Char → List Char
  | '\n' :: rest => rest
  | '\r' :: '\n' :: rest => rest
  | l => l

/-- Leave out blanks and line ends. -/
def skipBlankLines : List Char → List Char
  | [] => []
  | c :: rest =>
    if c = ' ' ∨ c = '\t' ∨ c = '\n' then skipBlankLines rest
    else if c = '\r' then
      match rest with
      | '\n' :: more => skipBlankLines more
      | _ => c :: rest
    else c :: rest

theorem length_skipBlankLines_le : (l : List Char) → (skipBlankLines l).length ≤ l.length
  | [] => Nat.le_refl 0
  | c :: rest => by
    unfold skipBlankLines
    split
    · exact Nat.le_succ_of_le (length_skipBlankLines_le rest)
    · split
      · split
        · rename_i more
          have hmore := length_skipBlankLines_le more
          simp only [List.length_cons]
          omega
        · exact Nat.le_refl _
      · exact Nat.le_refl _

/-- The rest after a backslash at the end of a line: the line end and the
    blanks that follow are left out. -/
def joinLines? (l : List Char) : Option (List Char) :=
  match l.dropWhile (fun c => c == ' ' || c == '\t') with
  | '\n' :: _ => some (skipBlankLines l)
  | '\r' :: '\n' :: _ => some (skipBlankLines l)
  | _ => none

theorem length_joinLines?_le {l rest : List Char} (h : joinLines? l = some rest) :
    rest.length ≤ l.length := by
  unfold joinLines? at h
  split at h <;> simp at h <;> exact h ▸ length_skipBlankLines_le l

/-- The quotes at the end: up to two of the character's kind before the three
    closing ones belong to the text. -/
def closing? (quote : Char) (l : List Char) : Option (Nat × List Char) :=
  let count := ((l.takeWhile (· == quote)).take 5).length
  if 3 ≤ count then some (count - 3, l.drop count) else none

/-- Read on to the three closing double quotes. -/
def readBasicLines (text : List Char) (l : List Char) : Option (String × List Char) :=
  match closing? '"' l with
  | some (extra, rest) => some (String.ofList (text.reverse ++ List.replicate extra '"'), rest)
  | none =>
    match l with
    | [] => none
    | c :: rest =>
      if c = '\\' then
        -- A backslash at the end of a line is no escape.
        match _hj : joinLines? rest with
        | some rest' => readBasicLines text rest'
        | none =>
          match escape? rest with
          | some (e, width) => readBasicLines (e :: text) (rest.drop width)
          | none => none
      else if c = '\r' then
        match rest with
        | '\n' :: more => readBasicLines ('\n' :: '\r' :: text) more
        | _ => none
      else if c = '\n' ∨ isTextChar c then readBasicLines (c :: text) rest
      else none
termination_by l.length
decreasing_by
  · have := length_joinLines?_le _hj
    simp only [List.length_cons]; omega
  · simp only [List.length_drop, List.length_cons]; omega
  · simp only [List.length_cons]; omega
  · simp

/-- Read on to the three closing single quotes. -/
def readLiteralLines (text : List Char) (l : List Char) : Option (String × List Char) :=
  match closing? '\'' l with
  | some (extra, rest) => some (String.ofList (text.reverse ++ List.replicate extra '\''), rest)
  | none =>
    match l with
    | [] => none
    | c :: rest =>
      if c = '\r' then
        match rest with
        | '\n' :: more => readLiteralLines ('\n' :: '\r' :: text) more
        | _ => none
      else if c = '\n' ∨ isTextChar c then readLiteralLines (c :: text) rest
      else none
termination_by l.length
decreasing_by
  · simp only [List.length_cons]; omega
  · simp

/-! ## Any form -/

/-- Read a string that starts here, if a quote does: `none` for none,
    `some none` for a string that is not well-formed. -/
def readQuoted? : List Char → Option (Option (String × List Char))
  | '"' :: '"' :: '"' :: rest => some (readBasicLines [] (skipFirstNewline rest))
  | '\'' :: '\'' :: '\'' :: rest => some (readLiteralLines [] (skipFirstNewline rest))
  | '"' :: rest => some (readBasic [] rest)
  | '\'' :: rest => some (readLiteral [] rest)
  | _ => none

end PluginHost.Toml
