import PluginHost.Text.Blank
import PluginHost.Text.Lowercase
import PluginHost.Text.Quoted
import PluginHost.Text.Runs
import PluginHost.Version.Reader
import PluginHost.Table
import PluginHost.Json.Layout
import PluginHost.Decimal.Shortest
import PluginHost.Toml.Sections
import PluginHost.Toml.Scalar
import PluginHost.Toml.StringReader
import PluginHost.Toml.Reader
import PluginHost.Toml.Shape
import PluginHost.Descriptor.Basic
import PluginHost.Extension.MenuDefinition
import PluginHost.Extension.TemplateClass
import PluginHost.Extension.SearchIndex
import PluginHost.Extension.Preference
import PluginHost.Extension.GraphQlSchema
import PluginHost.Descriptor.Validation
import PluginHost.Descriptor.SettingsTemplate
import PluginHost.Manifest
import PluginHost.Discovery
import PluginHost.HostConfig
import PluginHost.Program
import PluginHost.Main
import PluginHost.Proofs.Steps
import PluginHost.Proofs.Selection
import PluginHost.Proofs.Loading
import PluginHost.Proofs.History
import PluginHost.Proofs.InstalledApps
import PluginHost.Proofs.Contents
import PluginHost.Proofs.VersionGrammar
import PluginHost.Proofs.Rendering
import PluginHost.Proofs.Toml.Documents
import PluginHost.Proofs.FileTree
import PluginHost.Proofs.Toml.Trees
import PluginHost.Proofs.ConfigFiles
import PluginHost.Proofs.Toml.OneLine
import PluginHost.Proofs.SettingsTemplate
import PluginHost.Proofs.SettingsFrame
import PluginHost.Proofs.SettingsMerge
import PluginHost.Proofs.Lookups
import PluginHost.Proofs.Discovery
import PluginHost.Proofs.EnablingOrder
import PluginHost.Proofs.VersionText
import PluginHost.Proofs.VersionOrder
import PluginHost.Proofs.VersionBounds
import PluginHost.Proofs.ManifestBounds
import PluginHost.Proofs.Toml.Remarks
import PluginHost.Proofs.MenuRoundTrip
import PluginHost.Proofs.ManifestSections
import PluginHost.Proofs.TemplateRemarks
import PluginHost.Proofs.Batches
import PluginHost.Proofs.Collection
import PluginHost.Proofs.SettingsCommand
import PluginHost.Proofs.ForwardCompatibility
import PluginHost.Proofs.UnreadableVersions
import PluginHost.Proofs.BuildMetadata
import PluginHost.Proofs.Listing
import PluginHost.Proofs.QueueNames
import PluginHost.Proofs.Identity
import PluginHost.Proofs.Replacements
