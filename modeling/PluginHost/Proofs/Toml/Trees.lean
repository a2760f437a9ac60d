import PluginHost.Proofs.Steps
import PluginHost.Toml.Shape

/-! # Values as trees

    An array and a table are made of other values, their parts, and a value is
    settled once its parts are (`Value.byParts`).  Here stand the conditions on
    a value under which its text means the value again: it is made of strings,
    integers, truth values, arrays and tables (`Plain`), no table in it is
    taken for a date-time (`Unreserved`), and its brackets nest no deeper than
    is read (`Within`).

    As an item (`Value.item`) such a value decodes to itself
    (`Value.ofItem_item`). -/

namespace PluginHost.Toml

/-! ## Parts -/

namespace Value

/-- The values that a value is made of. -/
def parts : Value → List Value
  | .array items => items
  | .table entries => entries.map (·.2)
  | _ => []

/-- Has the value no brackets? -/
def isLeaf : Value → Bool
  | .array _ => false
  | .table _ => false
  | _ => true

theorem sizeOf_snd_lt {entries : Entries Value} {e : String × Value} (h : e ∈ entries) :
    sizeOf e.2 < sizeOf entries := by
  have hlt : sizeOf e < sizeOf entries := List.sizeOf_lt_of_mem h
  obtain ⟨key, v⟩ := e
  simp only [Prod.mk.sizeOf_spec] at hlt ⊢
  omega

/-- A part is smaller than the value. -/
theorem sizeOf_part_lt {v w : Value} (h : w ∈ v.parts) : sizeOf w < sizeOf v := by
  cases v with
  | array items =>
    have hlt : sizeOf w < sizeOf items := List.sizeOf_lt_of_mem h
    simp only [array.sizeOf_spec]
    omega
  | table entries =>
    obtain ⟨e, he, rfl⟩ := List.mem_map.mp h
    have hlt := sizeOf_snd_lt he
    simp only [table.sizeOf_spec]
    omega
  | string text => cases h
  | integer n => cases h
  | float x => cases h
  | boolean b => cases h
  | datetime d => cases h

/-- Induction over values: what holds of the parts carries over to the whole. -/
@[elab_as_elim]
theorem byParts {motive : Value → Prop} (h : ∀ v : Value, (∀ w ∈ v.parts, motive w) → motive v)
    (v : Value) : motive v :=
  h v fun w _hw => byParts h w
termination_by sizeOf v
decreasing_by exact sizeOf_part_lt _hw

/-! ## Conditions on all values within -/

/-- The condition holds of the value and of every value within it. -/
inductive All (p : Value → Prop) : Value → Prop
  | intro {v : Value} (here : p v) (within : ∀ w ∈ v.parts, All p w) : All p v

variable {p q : Value → Prop} {v w : Value}

theorem All.here (h : v.All p) : p v := by
  cases h
  assumption

theorem All.part (h : v.All p) (hw : w ∈ v.parts) : w.All p := by
  cases h with
  | intro _ within => exact within w hw

theorem all_iff : v.All p ↔ p v ∧ ∀ w ∈ v.parts, w.All p :=
  ⟨fun h => ⟨h.here, fun _ hw => h.part hw⟩, fun h => .intro h.1 h.2⟩

theorem All.leaf (hleaf : v.isLeaf = true) (h : p v) : v.All p := by
  refine .intro h fun w hw => ?_
  cases v with
  | array items => cases hleaf
  | table entries => cases hleaf
  | _ => cases hw

theorem All.item {items : List Value} (h : (Value.array items).All p) (hw : w ∈ items) : w.All p :=
  h.part hw

theorem All.entry {entries : Entries Value} (h : (Value.table entries).All p) {e : String × Value}
    (he : e ∈ entries) : e.2.All p :=
  h.part (List.mem_map_of_mem he)

@[simp] theorem all_string {text : String} : (Value.string text).All p ↔ p (.string text) := by
  rw [all_iff (v := .string text)]
  simp [parts]

@[simp] theorem all_integer {n : Int64} : (Value.integer n).All p ↔ p (.integer n) := by
  rw [all_iff (v := .integer n)]
  simp [parts]

@[simp] theorem all_boolean {b : Bool} : (Value.boolean b).All p ↔ p (.boolean b) := by
  rw [all_iff (v := .boolean b)]
  simp [parts]

@[simp] theorem all_array {items : List Value} :
    (Value.array items).All p ↔ p (.array items) ∧ ∀ v ∈ items, v.All p :=
  all_iff

@[simp] theorem all_table {entries : Entries Value} :
    (Value.table entries).All p ↔ p (.table entries) ∧ ∀ e ∈ entries, e.2.All p := by
  rw [all_iff (v := .table entries), parts, List.forall_mem_map]

/-! ## Plain values -/

/-- The value is no floating point number and no date-time. -/
def IsPlain : Value → Prop
  | .float _ => False
  | .datetime _ => False
  | _ => True

/-- The value is made of strings, integers, truth values, arrays and tables. -/
def Plain (v : Value) : Prop := v.All IsPlain

/-- The value is no table that starts with the key of date-times. -/
def IsUnreserved : Value → Prop
  | .table entries => entries.head?.map (·.1) ≠ some datetimeKey
  | _ => True

/-- No table within the value starts with the key of date-times. -/
def Unreserved (v : Value) : Prop := v.All IsUnreserved

/-! ## Depth -/

/-- Brackets nest in the value no deeper than `depth`. -/
inductive Within : (depth : Nat) → Value → Prop
  | leaf {depth : Nat} {v : Value} (h : v.isLeaf = true) : Within depth v
  | node {depth : Nat} {v : Value} (h : ∀ w ∈ v.parts, Within depth w) : Within (depth + 1) v

/-! ## Order of keys -/

theorem orderedItems_iff {items : List Value} : OrderedItems items ↔ ∀ v ∈ items, v.Ordered := by
  induction items with
  | nil => simp [OrderedItems]
  | cons v rest ih => simp [OrderedItems, ih]

theorem orderedEntries_iff {entries : Entries Value} :
    OrderedEntries entries ↔ ∀ e ∈ entries, e.2.Ordered := by
  induction entries with
  | nil => simp [OrderedEntries]
  | cons e rest ih =>
    obtain ⟨key, v⟩ := e
    simp [OrderedEntries, ih]

theorem Ordered.part (h : v.Ordered) (hw : w ∈ v.parts) : w.Ordered := by
  cases v with
  | array items => exact orderedItems_iff.mp h w hw
  | table entries =>
    obtain ⟨e, he, rfl⟩ := List.mem_map.mp hw
    exact orderedEntries_iff.mp h.2 e he
  | string text => cases hw
  | integer n => cases hw
  | float x => cases hw
  | boolean b => cases hw
  | datetime d => cases hw

/-! ## Values as items -/

/-- A value as it stands after a key: its tables are complete. -/
def item : Value → Item
  | .string s => .scalar (.string s)
  | .integer n => .scalar (.integer (some n.toInt))
  | .float x => .scalar (.float (some x))
  | .boolean b => .scalar (.boolean b)
  | .datetime d => .scalar (.datetime d)
  | .array items => .array false (items.map item)
  | .table entries => .table .inline (entries.map fun e => (e.1, e.2.item))
termination_by v => sizeOf v
decreasing_by
  · have hlt := List.sizeOf_lt_of_mem ‹_ ∈ items›
    simp only [array.sizeOf_spec]
    omega
  · have hlt := sizeOf_snd_lt ‹_ ∈ entries›
    simp only [table.sizeOf_spec]
    omega

theorem item_table (entries : Entries Value) :
    (Value.table entries).item = .table .inline (entries.map fun e => (e.1, e.2.item)) := by
  rw [item]

theorem ofInt_toInt (n : Int64) : Value.ofInt n.toInt = .ok (.integer n) := by
  have hlow : -9223372036854775808 ≤ n.toInt := n.le_toInt
  have hhigh : n.toInt < 9223372036854775808 := n.toInt_lt
  have hpow : Nat.pow 2 63 = 9223372036854775808 := rfl
  have hfits : fits64 n.toInt = true := by
    rw [fits64, hpow, Bool.and_eq_true, decide_eq_true_eq, decide_eq_true_eq]
    omega
  rw [Value.ofInt, if_pos hfits, Int64.ofInt_toInt]

/-! ## Decoding -/

/-- Items decode to values one by one. -/
theorem ofItems_map {f : Value → Item} {items : List Value}
    (h : ∀ v ∈ items, Value.ofItem (f v) = .ok v) :
    Value.ofItems (items.map f) = .ok items := by
  induction items with
  | nil => rfl
  | cons v rest ih =>
    rw [List.map_cons, Value.ofItems, h v List.mem_cons_self,
      ih fun w hw => h w (List.mem_cons_of_mem v hw)]
    rfl

theorem ofEntries_map {f : Value → Item} {entries : Entries Value}
    (h : ∀ e ∈ entries, Value.ofItem (f e.2) = .ok e.2) :
    Value.ofEntries (entries.map fun e => (e.1, f e.2)) = .ok entries := by
  induction entries with
  | nil => rfl
  | cons e rest ih =>
    rw [List.map_cons, Value.ofEntries, h e List.mem_cons_self,
      ih fun d hd => h d (List.mem_cons_of_mem e hd)]
    rfl

theorem ofItem_array {f : Value → Item} {items : List Value} (growing : Bool)
    (h : ∀ v ∈ items, Value.ofItem (f v) = .ok v) :
    Value.ofItem (.array growing (items.map f)) = .ok (.array items) := by
  rw [Value.ofItem, ofItems_map h]
  rfl

/-- A table decodes entry by entry, if it is not taken for a date-time. -/
theorem ofItem_table {f : Value → Item} {entries : Entries Value} (origin : Origin)
    (hkey : (Value.table entries).IsUnreserved)
    (h : ∀ e ∈ entries, Value.ofItem (f e.2) = .ok e.2) :
    Value.ofItem (.table origin (entries.map fun e => (e.1, f e.2))) = .ok (.table entries) := by
  cases entries with
  | nil => rfl
  | cons e rest =>
    have hne : e.1 ≠ datetimeKey := by
      intro heq
      exact hkey (congrArg some heq)
    have hrest := ofEntries_map fun d hd => h d (List.mem_cons_of_mem e hd)
    rw [List.map_cons, Value.ofItem]
    simp only [if_neg hne, h e List.mem_cons_self, hrest]
    rfl

theorem ofItem_item {v : Value} (hplain : v.Plain) (hkeys : v.Unreserved) :
    Value.ofItem v.item = .ok v := by
  induction v using byParts with
  | h v ih =>
    cases v with
    | string s => simp [item, ofItem]
    | integer n => simp [item, ofItem, ofInt_toInt]
    | float x => exact hplain.here.elim
    | boolean b => simp [item, ofItem]
    | datetime d => exact hplain.here.elim
    | array items =>
      rw [item]
      exact ofItem_array false fun v hv => ih v hv (hplain.item hv) (hkeys.item hv)
    | table entries =>
      rw [item]
      exact ofItem_table .inline hkeys.here fun e he =>
        ih e.2 (List.mem_map_of_mem he) (hplain.entry he) (hkeys.entry he)

end Value

/-- Entries that decode one by one make up the table again. -/
theorem decodeEntries_map {α : Type} {decode : Decoder α} (give : α → Item) (t : Table α)
    (h : ∀ e ∈ t.entries, decode (give e.2) = .ok e.2) :
    decodeEntries decode (t.entries.map fun e => (e.1, give e.2)) = .ok t := by
  have hpairs : (t.entries.map fun e => (e.1, give e.2)).mapM
      (fun e => do pure (e.1, ← decode e.2) : String × Item → Except ShapeError (String × α)) =
        .ok t.entries := by
    refine mapM_map_eq_ok fun e he => ?_
    change (decode (give e.2) >>= fun a => pure (e.1, a)) = _
    rw [h e he]
    rfl
  rw [decodeEntries, hpairs]
  exact congrArg Except.ok (Table.ext (Table.entries_ofList t.ordered (List.Perm.refl _)))

theorem decodeString (text : String) : Decoder.string (Value.string text).item = .ok text := by
  rw [Value.item]
  rfl

/-! ## Records -/

section

variable {α β : Type} {name : String} {decode : Decoder β} {set : β → α → α} {item : Item} {b : β}

theorem Field.read_needed (h : decode item = .ok b) (a : α) :
    (Field.needed name decode set).read item a = .ok (set b a) := by
  show (decode item >>= fun b => pure (set b a)) = _
  rw [h]
  rfl

theorem Field.read_optional (h : decode item = .ok b) (a : α) :
    (Field.optional name decode set).read item a = .ok (set b a) := by
  show (decode item >>= fun b => pure (set b a)) = _
  rw [h]
  rfl

/-- A table is decoded entry by entry, if no field is missing. -/
theorem Shape.ofEntries_eq_ok {shape : Shape α} {entries : Entries Item} {a : α}
    (hread : entries.foldlM shape.readEntry shape.blank = .ok a)
    (hneeded : (shape.fields.find? fun field =>
      field.required && (entries.get? field.name).isNone) = none) :
    shape.ofEntries entries = .ok a := by
  rw [Shape.ofEntries, hread]
  simp only [hneeded]
  rfl

end

end PluginHost.Toml
