import PluginHost.Text.Quoted

/-! # Text for a terminal

    Text of unknown origin may hold controls that a terminal obeys: the bell,
    those that move the cursor, and those that start a sequence.  They are
    written as escapes; tabs and line ends stay as they are.

    The main statement is `steersTerminal_of_mem_forTerminal`: none of these
    controls is left. -/

namespace PluginHost.Text

/-- The controls of ASCII that a terminal obeys, tabs and line ends apart. -/
def isAsciiSteering (c : Char) : Bool := c ∈ ['\x07', '\x08', '\x0c', '\x1b', '\x7f']

/-- The controls beyond ASCII. -/
def isWideControl (c : Char) : Bool := 0x80 ≤ c.toNat && c.toNat ≤ 0x9F

/-- Would a terminal obey `c` instead of showing it? -/
def steersTerminal (c : Char) : Bool := isAsciiSteering c || isWideControl c

/-- `c` as a terminal may see it: a control of ASCII with two digits, one
    beyond ASCII in braces. -/
def terminalChar (c : Char) : List Char :=
  if isAsciiSteering c then
    ['\\', 'x', Nat.digitChar (c.toNat / 16), Nat.digitChar (c.toNat % 16)]
  else if isWideControl c then braced c
  else [c]

/-- A text as a terminal may see it. -/
def forTerminal (s : String) : String := String.ofList (s.toList.flatMap terminalChar)

/-! ## No steering is left -/

theorem steersTerminal_digitChar (n : Nat) : steersTerminal (Nat.digitChar n) = false := by
  fun_cases Nat.digitChar n <;> rfl

theorem steersTerminal_of_mem_toDigitsCore {base fuel n : Nat} {ds : List Char} {d : Char}
    (hds : ∀ x ∈ ds, steersTerminal x = false) (h : d ∈ Nat.toDigitsCore base fuel n ds) :
    steersTerminal d = false := by
  induction fuel generalizing n ds with
  | zero => exact hds d (by simpa [Nat.toDigitsCore] using h)
  | succ fuel ih =>
    have hcons : ∀ x ∈ Nat.digitChar (n % base) :: ds, steersTerminal x = false := by
      intro x hx
      rcases List.mem_cons.1 hx with rfl | hx
      · exact steersTerminal_digitChar _
      · exact hds x hx
    simp only [Nat.toDigitsCore] at h
    split at h
    · exact hcons d h
    · exact ih hcons h

theorem steersTerminal_of_mem_braced {c d : Char} (h : d ∈ braced c) :
    steersTerminal d = false := by
  simp only [braced, List.mem_append, List.mem_cons, List.not_mem_nil, or_false] at h
  rcases h with ((rfl | rfl | rfl) | h) | rfl
  · rfl
  · rfl
  · rfl
  · exact steersTerminal_of_mem_toDigitsCore (by simp) h
  · rfl

theorem steersTerminal_of_mem_terminalChar {c d : Char} (h : d ∈ terminalChar c) :
    steersTerminal d = false := by
  unfold terminalChar at h
  split at h
  · simp only [List.mem_cons, List.not_mem_nil, or_false] at h
    rcases h with rfl | rfl | rfl | rfl
    · rfl
    · rfl
    · exact steersTerminal_digitChar _
    · exact steersTerminal_digitChar _
  · split at h
    · exact steersTerminal_of_mem_braced h
    · rename_i hascii hwide
      obtain rfl := List.mem_singleton.1 h
      simp [steersTerminal, hascii, hwide]

/-- No character that a terminal obeys is left in the text. -/
theorem steersTerminal_of_mem_forTerminal {s : String} {d : Char}
    (h : d ∈ (forTerminal s).toList) : steersTerminal d = false := by
  obtain ⟨c, _, hd⟩ := List.mem_flatMap.1 (by simpa [forTerminal] using h)
  exact steersTerminal_of_mem_terminalChar hd

end PluginHost.Text
