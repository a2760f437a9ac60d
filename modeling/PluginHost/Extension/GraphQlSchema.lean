import PluginHost.Toml.Shape

/-! # GraphQL schemas

    Schema fragments that plugins add to the host's interface.  Their text is
    never looked into. -/

namespace PluginHost

open Toml (Shape)

/-- A named schema fragment. -/
structure GraphQlSchema where
  name : String
  sdl  : String := ""
deriving DecidableEq, Inhabited

/-- The written form of a schema. -/
def GraphQlSchema.shape : Shape GraphQlSchema where
  name := "GraphQlSchema"
  fields :=
    [.needed "name" .string fun v s => { s with name := v },
     .optional "sdl" .string fun v s => { s with sdl := v }]
  blank := { name := "" }

end PluginHost
