import PluginHost.Text.CaseTable
import PluginHost.Text.Ranges

/-! # Lower-case text

    Full lower-casing.  Each character has its own lower-case form, with two
    exceptions: U+0130 becomes two characters, and a capital sigma becomes `ς`
    at the end of a word and `σ` elsewhere. -/

namespace PluginHost.Text

/-! ## One character -/

/-- Does the run cover the code point `n`? -/
def CaseRun.covers (run : CaseRun) (n : Nat) : Bool :=
  run.first ≤ n && n ≤ run.last && (n - run.first) % run.step == 0

/-- The lower-case form of `c`, or `c` itself if it has none. -/
def lowerChar (c : Char) : Char :=
  match lowercaseRuns.find? (·.covers c.toNat) with
  | some run => Char.ofNat (Int.toNat (c.toNat + run.shift))
  | none => c

/-! ## Final sigma -/

/-- After the characters that casing ignores, does a cased one come first? -/
def startsCased (l : List Char) : Bool :=
  match l.dropWhile (inRanges caseIgnorableRanges) with
  | [] => false
  | c :: _ => inRanges casedRanges c

/-- The form of a sigma with `before` (nearest first) and `after` around it:
    final after a cased character that no cased one follows. -/
def lowerSigma (before after : List Char) : Char :=
  if startsCased before && !startsCased after then 'ς' else 'σ'

/-! ## Text -/

/-- Lower-case the characters to come, `before` (nearest first) being those
    already passed. -/
def lowerChars (before : List Char) : List Char → List Char
  | [] => []
  | c :: after =>
    if c = 'Σ' then lowerSigma before after :: lowerChars (c :: before) after
    else if c = 'İ' then 'i' :: '\u0307' :: lowerChars (c :: before) after
    else lowerChar c :: lowerChars (c :: before) after

/-- The lower-case form of a text. -/
def lowercase (s : String) : String := String.ofList (lowerChars [] s.toList)

end PluginHost.Text
