import PluginHost.Contract

/-! # Button colours

    The palette of the buttons beside menu items.  A colour is written as its
    style class, and every colour is read back from it
    (`ButtonColor.ofCss_css`). -/

namespace PluginHost

/-- The palette of button colours. -/
inductive ButtonColor where
  | default | blue | indigo | purple | pink | red | orange | yellow | green | cyan | teal
  | gray | black | white
deriving DecidableEq, Repr, Inhabited

namespace ButtonColor

/-- The whole palette. -/
def all : List ButtonColor :=
  [.default, .blue, .indigo, .purple, .pink, .red, .orange, .yellow, .green, .cyan, .teal,
   .gray, .black, .white]

/-- The style class of a colour. -/
def css : ButtonColor → String
  | .default => "outline-dark"
  | .blue => "blue"
  | .indigo => "indigo"
  | .purple => "purple"
  | .pink => "pink"
  | .red => "red"
  | .orange => "orange"
  | .yellow => "yellow"
  | .green => "green"
  | .cyan => "cyan"
  | .teal => "teal"
  | .gray => "gray"
  | .black => "black"
  | .white => "white"

/-- The colour of a style class, which has to match exactly. -/
def ofCss (text : String) : Except Violation ButtonColor :=
  match all.find? (·.css == text) with
  | some color => .ok color
  | none => .error (.invalidButtonColor text)

/-- Every colour is read back from its style class. -/
@[simp] theorem ofCss_css (color : ButtonColor) : ofCss color.css = .ok color := by
  cases color <;> rfl

end ButtonColor

end PluginHost
