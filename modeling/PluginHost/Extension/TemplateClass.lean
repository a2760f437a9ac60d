import PluginHost.Contract
import PluginHost.Json.Basic
import PluginHost.Text.Quoted

/-! # Template extensions

    Content that plugins put into the slots of object pages.  A class names
    the model whose pages it extends and says what fills each slot: ready
    HTML, or a template that the host's engine renders with the page's
    context. -/

namespace PluginHost

/-- The data that a page is rendered with. -/
abbrev Context := Table Json

/-- The host's template engine: a template's name and a context give HTML. -/
abbrev Renderer := String → Context → Except RenderError String

/-- The slots of a page. -/
inductive Slot where
  | leftPage | rightPage | fullWidthPage | buttons
deriving DecidableEq, Repr

/-- What fills a slot. -/
inductive SlotSource where
  | html (text : String)
  /-- A template, rendered with the page's context and `extra`; what both
      define, `extra` decides. -/
  | template (name : String) (extra : Context := Table.empty)
deriving Inhabited

/-- A registrable extension of the pages of one model. -/
structure TemplateClass where
  name          : String
  model         : Option String := none
  leftPage      : Option SlotSource := none
  rightPage     : Option SlotSource := none
  fullWidthPage : Option SlotSource := none
  buttons       : Option SlotSource := none
deriving Inhabited

namespace TemplateClass

/-- What the class puts into a slot. -/
def source (c : TemplateClass) : Slot → Option SlotSource
  | .leftPage => c.leftPage
  | .rightPage => c.rightPage
  | .fullWidthPage => c.fullWidthPage
  | .buttons => c.buttons

/-- How the class is shown in listings. -/
def describe (c : TemplateClass) : String :=
  let model := match c.model with
    | some m => "Some(" ++ Text.quoted m ++ ")"
    | none => "None"
  "TemplateExtensionClass \x7b name: " ++ Text.quoted c.name ++ ", model: " ++ model
    ++ ", .. \x7d"

end TemplateClass

/-- The content of a source in a context. -/
def SlotSource.render (renderer : Renderer) (context : Context) :
    SlotSource → Except RenderError String
  | .html text => .ok text
  | .template name extra => renderer name (context.insertAll extra.entries)

/-- The content of a class for a slot, none if the class leaves it empty. -/
def TemplateClass.render (c : TemplateClass) (renderer : Renderer) (context : Context)
    (slot : Slot) : Except RenderError (Option String) :=
  match c.source slot with
  | none => .ok none
  | some source => (source.render renderer context).map some

end PluginHost
