import PluginHost.Text.Blank
import PluginHost.Toml.Shape

/-! # Plugin descriptors

    What a plugin says about itself: names, the host versions it works with,
    its settings, and what has to be installed beside it.  The names and the
    URL segment that a descriptor leaves out are derived from its dotted
    name. -/

namespace PluginHost

open Toml (Settings Shape Field Decoder)

/-- A plugin's static description. -/
structure Descriptor where
  /-- Dotted package name. -/
  name             : String
  /-- Name for people, the title of its navigation section. -/
  verboseName      : Option String := none
  author           : String := ""
  authorEmail      : String := ""
  description      : String := ""
  version          : String := ""
  /-- URL segment of its pages. -/
  baseUrl          : Option String := none
  /-- The least host version it works with. -/
  minVersion       : Option String := none
  /-- The greatest host version it works with. -/
  maxVersion       : Option String := none
  /-- Settings that are filled in when the user leaves them out. -/
  defaultSettings  : Settings := Table.empty
  /-- Settings that the user has to give. -/
  requiredSettings : List String := []
  middleware       : List String := []
  /-- Task queues of its own. -/
  queues           : List String := []
  /-- Applications to install beside it. -/
  dependentApps    : List String := []
deriving Inhabited

namespace Descriptor

/-! ## Derived names -/

/-- What follows the last point of a dotted name. -/
def lastSegment (name : String) : String :=
  String.ofList (name.toList.reverse.takeWhile (· != '.')).reverse

/-- The given text, or the other one if there is none or it is blank. -/
def orElse (given : Option String) (other : String) : String :=
  match given with
  | some s => if Text.isBlank s then other else s
  | none => other

/-- The last segment of the package name. -/
def shortName (d : Descriptor) : String := lastSegment d.name

/-- The label of its application: the short name. -/
def label (d : Descriptor) : String := d.shortName

/-- The name that is shown to people. -/
def displayName (d : Descriptor) : String := orElse d.verboseName d.name

/-- The segment of its pages' addresses. -/
def urlSegment (d : Descriptor) : String := orElse d.baseUrl d.label

/-! ## Shape -/

/-- The written form of a descriptor. -/
def shape : Shape Descriptor where
  name := "PluginConfig"
  fields :=
    [.needed "name" .string fun v d => { d with name := v },
     .optional "verbose_name" .string fun v d => { d with verboseName := some v },
     .optional "author" .string fun v d => { d with author := v },
     .optional "author_email" .string fun v d => { d with authorEmail := v },
     .optional "description" .string fun v d => { d with description := v },
     .optional "version" .string fun v d => { d with version := v },
     .optional "base_url" .string fun v d => { d with baseUrl := some v },
     .optional "min_version" .string fun v d => { d with minVersion := some v },
     .optional "max_version" .string fun v d => { d with maxVersion := some v },
     .optional "default_settings" .settings fun v d => { d with defaultSettings := v },
     .optional "required_settings" (.list .string) fun v d => { d with requiredSettings := v },
     .optional "middleware" (.list .string) fun v d => { d with middleware := v },
     .optional "queues" (.list .string) fun v d => { d with queues := v },
     .optional "dependent_apps" (.list .string) fun v d => { d with dependentApps := v }]
  blank := { name := "" }

end Descriptor

end PluginHost
