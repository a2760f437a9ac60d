import Mathlib.Data.List.Find
import PluginHost.Proofs.Steps
import PluginHost.Toml.Shape

/-! # Entries that shapes do not know

    A decoder is blind to a change of its item if it makes the same of the item
    before and after, result or fault (`Blind`).

    Shapes are blind to one more entry, wherever it stands among the others, if
    no field has its key and its value is sound (`blind_decode_inserted`).  And
    blindness goes from the inside to the outside: a list, a table or a shape
    is blind to a change of one of its parts if what reads that part is. -/

namespace PluginHost.Toml

/-! ## Changes of an item -/

section

variable {names : List String} {key name : String} {R : Item → Item → Prop} {α : Type}

/-- All numbers have values, and integers fit in 64 bits with a sign. -/
def Item.WellFormed (item : Item) : Prop := item.check fits64 "any value" = .ok ()

/-- There is one more entry, with a sound value and under none of the names. -/
inductive Inserted (names : List String) : Entries Item → Entries Item → Prop
  | between (front back : Entries Item) {key : String} {value : Item} (hkey : key ∉ names)
      (hvalue : value.WellFormed) :
      Inserted names (front ++ back) (front ++ (key, value) :: back)

/-- A table has one more entry. -/
inductive Widened (names : List String) : Item → Item → Prop
  | table (origin : Origin) {entries entries' : Entries Item}
      (h : Inserted names entries entries') :
      Widened names (.table origin entries) (.table origin entries')

/-- An item under a key is changed. -/
inductive AtKey (key : String) (R : Item → Item → Prop) : Entries Item → Entries Item → Prop
  | between (front back : Entries Item) {item item' : Item} (h : R item item') :
      AtKey key R (front ++ (key, item) :: back) (front ++ (key, item') :: back)

/-- An element of an array is changed. -/
inductive AtElement (R : Item → Item → Prop) : Item → Item → Prop
  | array (growing : Bool) (front back : List Item) {item item' : Item} (h : R item item') :
      AtElement R (.array growing (front ++ item :: back)) (.array growing (front ++ item' :: back))

/-- An entry of a table is changed. -/
inductive AtEntry (R : Item → Item → Prop) : Item → Item → Prop
  | table (origin : Origin) {key : String} {entries entries' : Entries Item}
      (h : AtKey key R entries entries') :
      AtEntry R (.table origin entries) (.table origin entries')

/-- The item of a field is changed, in the table or in the array that a record
    is written as. -/
inductive AtField (shape : Shape α) (name : String) (R : Item → Item → Prop) : Item → Item → Prop
  | table (origin : Origin) {entries entries' : Entries Item} (h : AtKey name R entries entries') :
      AtField shape name R (.table origin entries) (.table origin entries')
  | array (growing : Bool) {front : List Item} (back : List Item) {item item' : Item}
      (hplace : front.length = shape.fields.findIdx (·.name == name)) (h : R item item') :
      AtField shape name R (.array growing (front ++ item :: back))
        (.array growing (front ++ item' :: back))

/-- What is made of an item does not depend on what is changed. -/
def Blind (decode : Decoder α) (R : Item → Item → Prop) : Prop :=
  ∀ item item', R item item' → decode item' = decode item

/-- What a field makes of its item does not depend on what is changed. -/
def Field.Blind (field : Field α) (R : Item → Item → Prop) : Prop :=
  ∀ item item' a, R item item' → field.read item' a = field.read item a

end

/-- The names of a record's fields. -/
def Shape.names {α : Type} (shape : Shape α) : List String := shape.fields.map (·.name)

/-! ## Sound values -/

section

variable {p q : Int → Bool} {expected other : String}

mutual

/-- What is accepted is accepted where more integers are. -/
theorem Item.check_of_le (hpq : ∀ n, p n = true → q n = true) :
    ∀ {item : Item}, item.check p expected = .ok () → item.check q other = .ok ()
  | .scalar (.integer none), h => by cases h
  | .scalar (.float none), h => by cases h
  | .scalar (.integer (some n)), h => by
    by_cases hn : p n = true
    · simp only [Item.check, if_pos (hpq n hn)]
    · simp only [Item.check, if_neg hn] at h
      cases h
  | .scalar (.string _), _ => rfl
  | .scalar (.float (some _)), _ => rfl
  | .scalar (.boolean _), _ => rfl
  | .scalar (.datetime _), _ => rfl
  | .array _ _, h => by
    rw [Item.check] at h ⊢
    exact checkItems_of_le hpq h
  | .table _ _, h => by
    rw [Item.check] at h ⊢
    exact checkEntries_of_le hpq h

theorem checkItems_of_le (hpq : ∀ n, p n = true → q n = true) :
    ∀ {items : List Item}, checkItems p expected items = .ok () → checkItems q other items = .ok ()
  | [], _ => rfl
  | item :: rest, h => by
    rw [checkItems] at h ⊢
    obtain ⟨_, hitem, hrest⟩ := bind_eq_ok h
    rw [Item.check_of_le hpq hitem]
    exact checkItems_of_le hpq hrest

theorem checkEntries_of_le (hpq : ∀ n, p n = true → q n = true) :
    ∀ {entries : List (String × Item)}, checkEntries p expected entries = .ok () →
      checkEntries q other entries = .ok ()
  | [], _ => rfl
  | (_, item) :: rest, h => by
    rw [checkEntries] at h ⊢
    obtain ⟨_, hitem, hrest⟩ := bind_eq_ok h
    rw [Item.check_of_le hpq hitem]
    exact checkEntries_of_le hpq hrest

end

theorem fitsWord_of_fits64 {n : Int} (h : fits64 n = true) : fitsWord n = true := by
  simp only [fits64, fitsWord, Bool.and_eq_true, decide_eq_true_eq] at h ⊢
  have hbounds : (Nat.pow 2 63 : Int) ≤ (Nat.pow 2 64 : Int) := by decide
  exact ⟨h.1, Int.lt_of_lt_of_le h.2 hbounds⟩

/-- A sound value is passed over. -/
theorem Item.WellFormed.ignore {item : Item} (h : item.WellFormed) : item.ignore = .ok () :=
  Item.check_of_le (fun _ _ => rfl) h

/-- And it stands in the way of no alternative. -/
theorem Item.WellFormed.check_word {item : Item} (h : item.WellFormed) :
    item.check fitsWord expected = .ok () :=
  Item.check_of_le (fun _ => fitsWord_of_fits64) h

end

/-! ## One more entry -/

section

variable {names : List String} {entries entries' : Entries Item} {α : Type} {shape : Shape α}

/-- No name leads to the new entry. -/
theorem Inserted.get?_eq (h : Inserted names entries entries') {name : String}
    (hname : name ∈ names) : entries'.get? name = entries.get? name := by
  obtain ⟨front, back, hkey, -⟩ := h
  have hne := ne_of_mem_of_not_mem hname hkey
  induction front with
  | nil =>
    rw [List.nil_append, Entries.get?_cons, if_neg hne.symm]
    rfl
  | cons e front ih => rw [List.cons_append, List.cons_append, Entries.get?, Entries.get?, ih]

/-- Looking through the entries finds no new fault. -/
theorem Inserted.checkEntries_eq (h : Inserted names entries entries') (expected : String) :
    checkEntries fitsWord expected entries' = checkEntries fitsWord expected entries := by
  obtain ⟨front, back, -, hvalue⟩ := h
  induction front with
  | nil =>
    rw [List.nil_append, checkEntries, hvalue.check_word]
    rfl
  | cons e front ih => simp only [List.cons_append, checkEntries, ih]

/-- An entry that no field names leaves the record as it is. -/
theorem Shape.readEntry_of_not_mem {key : String} {value : Item} (hkey : key ∉ shape.names)
    (hvalue : value.WellFormed) (a : α) : shape.readEntry a (key, value) = .ok a := by
  have hnone : shape.fields.find? (·.name == key) = none := by
    rw [List.find?_eq_none]
    intro field hfield heq
    exact hkey (List.mem_map.mpr ⟨field, hfield, by simpa using heq⟩)
  simp only [Shape.readEntry, hnone, hvalue.ignore]
  rfl

/-- Tables are the same record if their entries read the same, and the same
    fields are there. -/
theorem Shape.ofEntries_congr
    (hread : entries'.foldlM shape.readEntry shape.blank =
      entries.foldlM shape.readEntry shape.blank)
    (hthere : ∀ name ∈ shape.names, (entries'.get? name).isNone = (entries.get? name).isNone) :
    shape.ofEntries entries' = shape.ofEntries entries := by
  have hmissing :
      (shape.fields.find? fun field => field.required && (entries'.get? field.name).isNone) =
        shape.fields.find? fun field => field.required && (entries.get? field.name).isNone := by
    apply List.find?_congr
    intro field hfield
    rw [hthere field.name (List.mem_map_of_mem hfield)]
  unfold Shape.ofEntries
  rw [hread, hmissing]

theorem Shape.ofEntries_inserted (h : Inserted shape.names entries entries') :
    shape.ofEntries entries' = shape.ofEntries entries := by
  apply Shape.ofEntries_congr
  · obtain ⟨front, back, hkey, hvalue⟩ := h
    -- The record goes past the new entry, whatever was read in front of it.
    simp only [List.foldlM_append, foldlM_cons_ok (Shape.readEntry_of_not_mem hkey hvalue _)]
  · intro name hname
    rw [h.get?_eq hname]

/-- A record that is written as a table is blind to entries under other names
    than those of its fields. -/
theorem blind_decode_inserted (shape : Shape α) : Blind shape.decode (Widened shape.names) := by
  intro item item' h
  cases h with
  | table origin h => exact Shape.ofEntries_inserted h

theorem Inserted.cons (h : Inserted names entries entries') (e : String × Item) :
    Inserted names (e :: entries) (e :: entries') := by
  obtain ⟨front, back, hkey, hvalue⟩ := h
  exact .between (e :: front) back hkey hvalue

/-- An entry with a new key is put in order among the others. -/
theorem inserted_insert {key : String} {value : Item} (hkey : key ∉ names)
    (hvalue : value.WellFormed) (hnew : entries.get? key = none) :
    Inserted names entries (entries.insert key value) := by
  induction entries with
  | nil => exact .between [] [] hkey hvalue
  | cons e rest ih =>
    rw [Entries.get?_eq_none_iff] at hnew
    have hne : key ≠ e.1 := (hnew e List.mem_cons_self).symm
    rw [Entries.insert, if_neg hne]
    split
    · exact .between [] (e :: rest) hkey hvalue
    · have hrest := fun d hd => hnew d (List.mem_cons_of_mem e hd)
      exact (ih (Entries.get?_eq_none_iff.mpr hrest)).cons e

end

/-! ## A change further inside -/

section

variable {R : Item → Item → Prop} {α β : Type}

theorem blind_list {decode : Decoder α} (h : Blind decode R) :
    Blind (Decoder.list decode) (AtElement R) := by
  intro item item' hchange
  cases hchange with
  | array growing front back hitem =>
    simp only [Decoder.list, List.mapM_append, List.mapM_cons, h _ _ hitem]

theorem blind_table {decode : Decoder α} (h : Blind decode R) :
    Blind (Decoder.table decode) (AtEntry R) := by
  intro item item' hchange
  cases hchange with
  | table origin hentries =>
    obtain ⟨front, back, hitem⟩ := hentries
    simp only [Decoder.table, Item.entries?, decodeEntries, List.mapM_append, List.mapM_cons,
      h _ _ hitem]

theorem blind_needed {decode : Decoder β} (h : Blind decode R) (name : String)
    (set : β → α → α) : (Field.needed name decode set).Blind R := by
  intro item item' a hitem
  simp only [Field.needed, h item item' hitem]

theorem blind_optional {decode : Decoder β} (h : Blind decode R) (name : String)
    (set : β → α → α) : (Field.optional name decode set).Blind R := by
  intro item item' a hitem
  simp only [Field.optional, h item item' hitem]

variable {shape : Shape α} {field : Field α} {name : String}

theorem AtKey.isNone_get? {entries entries' : Entries Item} (h : AtKey name R entries entries')
    (other : String) : (entries'.get? other).isNone = (entries.get? other).isNone := by
  obtain ⟨front, back, -⟩ := h
  induction front with
  | nil =>
    simp only [List.nil_append, Entries.get?_cons]
    split <;> rfl
  | cons e front ih =>
    simp only [List.cons_append, Entries.get?]
    split
    · rfl
    · exact ih

theorem Shape.ofEntries_atKey (hfield : shape.fields.find? (·.name == name) = some field)
    (hblind : field.Blind R) {entries entries' : Entries Item}
    (h : AtKey name R entries entries') : shape.ofEntries entries' = shape.ofEntries entries := by
  apply Shape.ofEntries_congr
  · cases h with
    | @between front back item item' hitem =>
      have hentry : ∀ a, shape.readEntry a (name, item') = shape.readEntry a (name, item) := by
        intro a
        simp only [Shape.readEntry, hfield, hblind item item' a hitem]
      simp only [List.foldlM_append, List.foldlM_cons, hentry]
  · intro other _
    exact h.isNone_get? other

/-- The fields up to the changed item are read alike, and what follows it finds
    the same record. -/
theorem Shape.readFields_at {front : List Item} (back : List Item) {item item' : Item}
    (hblind : field.Blind R) (h : R item item') :
    ∀ {fields : List (Field α)} {position : Nat} {a : α}, fields[front.length]? = some field →
      shape.readFields position fields (front ++ item' :: back) a =
        shape.readFields position fields (front ++ item :: back) a := by
  induction front with
  | nil =>
    intro fields position a hfield
    cases fields with
    | nil => cases hfield
    | cons other fields =>
      cases hfield
      simp only [List.nil_append, Shape.readFields, hblind _ _ a h]
  | cons first front ih =>
    intro fields position a hfield
    cases fields with
    | nil => cases hfield
    | cons other fields =>
      simp only [List.cons_append, Shape.readFields]
      exact bind_congr fun b => ih (by simpa using hfield)

/-- A record is blind to a change of a field that is read blindly. -/
theorem blind_decode_atField (shape : Shape α)
    (hfield : shape.fields.find? (·.name == name) = some field) (hblind : field.Blind R) :
    Blind shape.decode (AtField shape name R) := by
  intro item item' hchange
  cases hchange with
  | table origin h => exact Shape.ofEntries_atKey hfield hblind h
  | array growing back hplace h =>
    -- The item at the place of the field is the one that the field reads.
    rw [List.find?_eq_getElem?_findIdx, ← hplace] at hfield
    exact Shape.readFields_at back hblind h hfield

end

end PluginHost.Toml
