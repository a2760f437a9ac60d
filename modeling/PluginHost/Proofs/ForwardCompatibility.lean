import Mathlib.Logic.Relation
import PluginHost.Manifest
import PluginHost.Proofs.Toml.ExtraEntries

/-! # Manifests for later hosts

    A manifest may hold entries that this host does not know, in every table
    that it reads field by field (`Manifest.Extended`).  Such an entry changes
    nothing of what is read: neither the manifest, nor the fault that comes
    first, wherever its key stands in the order of keys.

    Main theorem: `Manifest.readAlike_of_extended`. -/

namespace PluginHost

open Toml (Item Shape Inserted Widened AtKey AtElement AtEntry AtField Blind)

/-! ## Texts -/

namespace Toml

variable {α : Type} {decode : Entries Item → Except ShapeError α} {text : String}
  {entries : Entries Item}

/-- A document that can be taken as plain values. -/
def HasValues (entries : Entries Item) : Prop := ∃ values, Value.ofEntries entries = .ok values

theorem readAs_eq_ok_iff (h : readDocument text = some entries) {a : α} :
    readAs decode text = .ok a ↔ decode entries = .ok a := by
  simp only [readAs, h]
  cases decode entries with
  | ok b => simp
  | error e => cases Value.ofEntries entries <;> simp

/-- A fault of a document with values is one of shape. -/
theorem readAs_of_hasValues (h : readDocument text = some entries) (hvalues : HasValues entries) :
    readAs decode text = (decode entries).mapError .shape := by
  obtain ⟨values, hvalues⟩ := hvalues
  simp only [readAs, h, hvalues]
  cases decode entries <;> rfl

end Toml

/-! ## Slots -/

/-- The field of a template extension that fills a slot. -/
def Slot.field : Slot → String
  | .leftPage => "left_page"
  | .rightPage => "right_page"
  | .fullWidthPage => "full_width_page"
  | .buttons => "buttons"

/-- A slot that is written as a table is blind to all entries but the name of
    the template, though it looks through them. -/
theorem SlotSource.blind_decode : Blind SlotSource.decode (Widened ["template"]) := by
  intro item item' h
  cases h with
  | table origin h =>
    have hname := h.get?_eq (List.mem_singleton_self "template")
    simp only [SlotSource.decode, Item.check, h.checkEntries_eq, hname]

theorem TemplateClass.blind_slot (slot : Slot) :
    Blind shape.decode (AtField shape slot.field (Widened ["template"])) := by
  cases slot <;>
    exact Toml.blind_decode_atField shape rfl (Toml.blind_optional SlotSource.blind_decode _ _)

/-! ## Groups and choices -/

theorem MenuDefinition.blind_group :
    Blind shape.decode
      (AtField shape "groups" (AtElement (Widened GroupDefinition.shape.names))) := by
  have hgroups := Toml.blind_list (Toml.blind_decode_inserted GroupDefinition.shape)
  exact Toml.blind_decode_atField shape rfl (Toml.blind_optional hgroups _ _)

theorem Preference.blind_choice :
    Blind shape.decode
      (AtField shape "choices" (AtElement (Widened PreferenceChoice.shape.names))) := by
  have hchoices := Toml.blind_list (Toml.blind_decode_inserted PreferenceChoice.shape)
  exact Toml.blind_decode_atField shape rfl (Toml.blind_optional hchoices _ _)

namespace Manifest

/-! ## One more entry -/

/-- There is one more entry that this host does not know, in a table that it
    reads field by field. -/
inductive Extended : Entries Item → Entries Item → Prop
  | top {t t' : Entries Item} (h : Inserted shape.names t t') : Extended t t'
  | plugin {t t' : Entries Item}
      (h : AtKey "plugin" (Widened Descriptor.shape.names) t t') : Extended t t'
  | menu {t t' : Entries Item}
      (h : AtKey "menu" (Widened MenuDefinition.shape.names) t t') : Extended t t'
  | menuGroup {t t' : Entries Item}
      (h : AtKey "menu" (AtField MenuDefinition.shape "groups"
        (AtElement (Widened GroupDefinition.shape.names))) t t') : Extended t t'
  | templateExtension {t t' : Entries Item}
      (h : AtKey "template_extensions" (AtElement (Widened TemplateClass.shape.names)) t t') :
      Extended t t'
  | slot {t t' : Entries Item} (slot : Slot)
      (h : AtKey "template_extensions" (AtElement (AtField TemplateClass.shape slot.field
        (Widened ["template"]))) t t') : Extended t t'
  | graphqlSchema {t t' : Entries Item}
      (h : AtKey "graphql_schema" (Widened GraphQlSchema.shape.names) t t') : Extended t t'
  | preference {t t' : Entries Item}
      (h : AtKey "user_preferences" (AtEntry (Widened Preference.shape.names)) t t') :
      Extended t t'
  | preferenceChoice {t t' : Entries Item}
      (h : AtKey "user_preferences" (AtEntry (AtField Preference.shape "choices"
        (AtElement (Widened PreferenceChoice.shape.names)))) t t') : Extended t t'
  | searchIndex {t t' : Entries Item}
      (h : AtKey "search_indexes" (AtElement (Widened SearchIndex.shape.names)) t t') :
      Extended t t'

variable {t t' : Entries Item}

/-- One more entry changes nothing of what is decoded. -/
theorem Extended.ofEntries_eq (h : Extended t t') : shape.ofEntries t' = shape.ofEntries t := by
  -- Each section is decoded blindly, and so is the whole.
  cases h with
  | top h => exact Shape.ofEntries_inserted h
  | plugin h =>
    have hplugin := Toml.blind_decode_inserted Descriptor.shape
    exact Shape.ofEntries_atKey rfl (Toml.blind_needed hplugin _ _) h
  | menu h =>
    have hmenu := Toml.blind_decode_inserted MenuDefinition.shape
    exact Shape.ofEntries_atKey rfl (Toml.blind_optional hmenu _ _) h
  | menuGroup h =>
    exact Shape.ofEntries_atKey rfl (Toml.blind_optional MenuDefinition.blind_group _ _) h
  | templateExtension h =>
    have hclasses := Toml.blind_list (Toml.blind_decode_inserted TemplateClass.shape)
    exact Shape.ofEntries_atKey rfl (Toml.blind_optional hclasses _ _) h
  | slot slot h =>
    have hclasses := Toml.blind_list (TemplateClass.blind_slot slot)
    exact Shape.ofEntries_atKey rfl (Toml.blind_optional hclasses _ _) h
  | graphqlSchema h =>
    have hschema := Toml.blind_decode_inserted GraphQlSchema.shape
    exact Shape.ofEntries_atKey rfl (Toml.blind_optional hschema _ _) h
  | preference h =>
    have hset := Toml.blind_table (Toml.blind_decode_inserted Preference.shape)
    exact Shape.ofEntries_atKey rfl (Toml.blind_optional hset _ _) h
  | preferenceChoice h =>
    have hset := Toml.blind_table Preference.blind_choice
    exact Shape.ofEntries_atKey rfl (Toml.blind_optional hset _ _) h
  | searchIndex h =>
    have hindexes := Toml.blind_list (Toml.blind_decode_inserted SearchIndex.shape)
    exact Shape.ofEntries_atKey rfl (Toml.blind_optional hindexes _ _) h

/-! ## Main theorem -/

/-- Two documents are the same manifest, or have the same fault. -/
structure ReadAlike (t t' : Entries Item) : Prop where
  decoded  : shape.ofEntries t' = shape.ofEntries t
  /-- Texts of the two documents are accepted alike. -/
  accepted : ∀ text text', Toml.readDocument text = some t →
    Toml.readDocument text' = some t' → ∀ m, parse text' = .ok m ↔ parse text = .ok m
  /-- And they are refused with the same message if both are documents of
      plain values. -/
  refused  : ∀ text text', Toml.readDocument text = some t →
    Toml.readDocument text' = some t' → Toml.HasValues t → Toml.HasValues t' →
      parse text' = parse text

theorem readAlike_of_ofEntries_eq (h : shape.ofEntries t' = shape.ofEntries t) :
    ReadAlike t t' where
  decoded := h
  accepted text text' htext htext' m := by
    rw [parse, parse, Toml.readAs_eq_ok_iff htext, Toml.readAs_eq_ok_iff htext', h]
  refused text text' htext htext' hvalues hvalues' := by
    rw [parse, parse, Toml.readAs_of_hasValues htext hvalues,
      Toml.readAs_of_hasValues htext' hvalues', h]

/-- **Manifests are read without what this host does not know.**  However many
    entries with sound values are added under names that are not those of
    fields, in whatever tables that are read field by field, the same manifest
    is read, or the same fault is found. -/
theorem readAlike_of_extended (h : Relation.ReflTransGen Extended t t') : ReadAlike t t' := by
  refine readAlike_of_ofEntries_eq ?_
  induction h with
  | refl => rfl
  | tail _ hstep ih => rw [hstep.ofEntries_eq, ih]

/-! ### A manifest that is accepted, and one that is refused -/

/-- The table of a plugin that has nothing but a name. -/
def bareTable : Entries Item := [("name", .scalar (.string "forward-compat"))]

/-- The same with an entry that is unknown. -/
def laterTable : Entries Item := ("another_unknown", .scalar (.integer (some 42))) :: bareTable

/-- A manifest with nothing but a name. -/
def named : Entries Item := [("plugin", .table .defined bareTable)]

/-- The same with an unknown entry for the plugin, and one at the top. -/
def namedLater : Entries Item :=
  Entries.insert "future_field" (.scalar (.string "ignored"))
    [("plugin", .table .defined laterTable)]

/-- A manifest with a template that is named by a number, and whatever stands
    before that. -/
def misnamed (before : Entries Item) : Entries Item :=
  [("plugin", .table .defined bareTable),
   ("template_extensions", .array true
     [.table .defined
       [("left_page", .table .inline (before ++ [("template", .scalar (.integer (some 7)))])),
        ("name", .scalar (.string "Banner"))]])]

theorem namedLater_of_named : Relation.ReflTransGen Extended named namedLater := by
  have htable : Inserted Descriptor.shape.names bareTable laterTable :=
    .between [] bareTable (by decide) rfl
  have hplugin : Extended named [("plugin", .table .defined laterTable)] :=
    .plugin (.between [] [] (.table .defined htable))
  exact .tail (.single hplugin) (.top (Toml.inserted_insert (by decide) rfl rfl))

theorem misnamed_of_extra : Extended (misnamed []) (misnamed [("cache", .array false [])]) :=
  .slot .leftPage (.between [_] [] (.array true [] []
    (.table .defined (.between [] _ (.table .inline (.between [] _ (by decide) rfl))))))

/-- The unknown entries do not show in the manifest, and the fault behind an
    unknown entry is found. -/
theorem readAlike_of_extended_named :
    Relation.ReflTransGen Extended named namedLater ∧ ReadAlike named namedLater ∧
      (shape.ofEntries named).map (·.plugin.name) = .ok "forward-compat" ∧
      Relation.ReflTransGen Extended (misnamed []) (misnamed [("cache", .array false [])]) ∧
      ReadAlike (misnamed []) (misnamed [("cache", .array false [])]) ∧
      shape.ofEntries (misnamed []) = .error (.noAlternative "SlotSource") :=
  ⟨namedLater_of_named, readAlike_of_extended namedLater_of_named, rfl,
    .single misnamed_of_extra, readAlike_of_extended (.single misnamed_of_extra), rfl⟩

end Manifest

end PluginHost
