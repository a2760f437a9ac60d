/-! # Tables keyed by text

    Everything that is looked up by a text is kept in a table whose keys
    ascend strictly, in the order of code points.  So a table is listed in key
    order, and two tables with the same answers to every lookup are equal
    (`Table.ext_get?`).

    `Entries` is the list of key and value pairs that a table is made of, for
    the places where the order is established elsewhere. -/

namespace PluginHost

universe u v

/-! ## Entries -/

/-- Pairs of a key and a value. -/
abbrev Entries (α : Type u) : Type u := List (String × α)

namespace Entries

variable {α : Type u} {β : Type v}

/-- The value of the first pair with the key. -/
def get? (key : String) : Entries α → Option α
  | [] => none
  | (k, a) :: rest => if k = key then some a else get? key rest

/-- Put a pair at its place: before the first greater key, or instead of the
    pair with the same key. -/
def insert (key : String) (value : α) : Entries α → Entries α
  | [] => [(key, value)]
  | (k, a) :: rest =>
    if key < k then (key, value) :: (k, a) :: rest
    else if key = k then (key, value) :: rest
    else (k, a) :: insert key value rest

/-- The keys ascend strictly. -/
def Ordered (entries : Entries α) : Prop := entries.Pairwise (fun a b => a.1 < b.1)

instance (entries : Entries α) : Decidable (Ordered entries) :=
  inferInstanceAs (Decidable (entries.Pairwise fun a b => a.1 < b.1))

/-- Whether entries are in order depends on their keys only. -/
theorem ordered_iff_keys {entries : Entries α} :
    entries.Ordered ↔ (entries.map (·.1)).Pairwise (· < ·) :=
  List.pairwise_map.symm

@[simp] theorem get?_nil (key : String) : get? key ([] : Entries α) = none := rfl

theorem get?_cons (key k : String) (a : α) (rest : Entries α) :
    get? key ((k, a) :: rest) = if k = key then some a else get? key rest := rfl

theorem get?_eq_none_of_forall_lt {key : String} {entries : Entries α}
    (h : ∀ e ∈ entries, key < e.1) : get? key entries = none := by
  induction entries with
  | nil => rfl
  | cons e rest ih =>
    obtain ⟨k, a⟩ := e
    have hk : key < k := h (k, a) List.mem_cons_self
    have hne : k ≠ key := fun heq => String.lt_irrefl key (heq ▸ hk)
    rw [get?_cons, if_neg hne]
    exact ih fun e he => h e (List.mem_cons_of_mem _ he)

theorem get?_eq_none_iff {key : String} {entries : Entries α} :
    get? key entries = none ↔ ∀ e ∈ entries, e.1 ≠ key := by
  induction entries with
  | nil => simp
  | cons e rest ih =>
    obtain ⟨k, a⟩ := e
    rw [get?_cons]
    by_cases hk : k = key
    · simp [hk]
    · simp [hk, ih]

/-- A key above all others goes to the end. -/
theorem insert_eq_append {key : String} {value : α} {entries : Entries α}
    (h : ∀ e ∈ entries, e.1 < key) : insert key value entries = entries ++ [(key, value)] := by
  induction entries with
  | nil => rfl
  | cons e rest ih =>
    obtain ⟨k, a⟩ := e
    have hk : k < key := h (k, a) List.mem_cons_self
    have hne : key ≠ k := fun heq => String.lt_irrefl k (heq ▸ hk)
    have hnot : ¬key < k := fun hlt => String.lt_irrefl k (String.lt_trans hk hlt)
    rw [insert, if_neg hnot, if_neg hne, ih fun d hd => h d (List.mem_cons_of_mem _ hd)]
    rfl

theorem mem_insert {key : String} {value : α} {entries : Entries α} {e : String × α}
    (h : e ∈ insert key value entries) : e = (key, value) ∨ e ∈ entries := by
  induction entries with
  | nil => simpa [insert] using h
  | cons x rest ih =>
    obtain ⟨k, a⟩ := x
    simp only [insert] at h
    split at h
    · simpa using h
    · split at h
      · rcases List.mem_cons.1 h with h | h
        · exact .inl h
        · exact .inr (List.mem_cons_of_mem _ h)
      · rcases List.mem_cons.1 h with h | h
        · exact .inr (h ▸ List.mem_cons_self)
        · rcases ih h with h | h
          · exact .inl h
          · exact .inr (List.mem_cons_of_mem _ h)

theorem lt_of_not_lt_of_ne {a b : String} (h : ¬a < b) (hne : a ≠ b) : b < a := by
  rcases Std.lt_trichotomy a b with h' | h' | h'
  · exact absurd h' h
  · exact absurd h' hne
  · exact h'

theorem Ordered.insert {entries : Entries α} (h : Ordered entries) (key : String) (value : α) :
    Ordered (Entries.insert key value entries) := by
  induction entries with
  | nil => exact List.pairwise_singleton _ _
  | cons x rest ih =>
    obtain ⟨k, a⟩ := x
    have hk := (List.pairwise_cons.1 h).1
    have hrest := (List.pairwise_cons.1 h).2
    simp only [Entries.insert]
    split
    · rename_i hlt
      refine List.pairwise_cons.2 ⟨fun e he => ?_, h⟩
      rcases List.mem_cons.1 he with rfl | he
      · exact hlt
      · exact String.lt_trans hlt (hk e he)
    · split
      · rename_i heq
        exact List.pairwise_cons.2 ⟨fun e he => heq ▸ hk e he, hrest⟩
      · rename_i hlt hne
        refine List.pairwise_cons.2 ⟨fun e he => ?_, ih hrest⟩
        rcases mem_insert he with rfl | he
        · exact lt_of_not_lt_of_ne hlt hne
        · exact hk e he

/-- Reading after a write. -/
theorem get?_insert (key q : String) (value : α) (entries : Entries α) :
    get? q (insert key value entries) = if key = q then some value else get? q entries := by
  induction entries with
  | nil => rfl
  | cons x rest ih =>
    obtain ⟨k, a⟩ := x
    simp only [insert]
    split
    · rw [get?_cons]
    · split
      · rename_i heq
        subst heq
        simp only [get?_cons]
        split <;> rfl
      · rename_i hne
        rw [get?_cons, get?_cons, ih]
        split
        · rename_i hkq
          rw [if_neg fun h => hne (h.trans hkq.symm)]
        · rfl

/-- The later of two writes under a key stays. -/
theorem insert_insert (key : String) (a b : α) (entries : Entries α) :
    insert key b (insert key a entries) = insert key b entries := by
  induction entries with
  | nil => simp only [insert, String.lt_irrefl, ↓reduceIte]
  | cons x rest ih =>
    obtain ⟨k, c⟩ := x
    simp only [insert]
    split
    · simp only [insert, String.lt_irrefl, ↓reduceIte]
    · split
      · simp only [insert, String.lt_irrefl, ↓reduceIte]
      · rename_i hlt hne
        rw [insert, if_neg hlt, if_neg hne, ih]

@[simp] theorem get?_cons_self (key : String) (a : α) (rest : Entries α) :
    get? key ((key, a) :: rest) = some a := by
  simp [get?_cons]

/-- A key below the first one has no entry. -/
theorem get?_eq_none_of_lt_head {key k : String} {a : α} {rest : Entries α}
    (hlt : key < k) (h : Ordered ((k, a) :: rest)) : get? key ((k, a) :: rest) = none :=
  get?_eq_none_of_forall_lt fun e he => by
    rcases List.mem_cons.1 he with rfl | he
    · exact hlt
    · exact String.lt_trans hlt ((List.pairwise_cons.1 h).1 e he)

/-- There is one entry more, unless the key has one. -/
theorem length_insert (key : String) (value : α) {entries : Entries α} (h : Ordered entries) :
    (insert key value entries).length =
      if (get? key entries).isSome then entries.length else entries.length + 1 := by
  induction entries with
  | nil => rfl
  | cons x rest ih =>
    obtain ⟨k, a⟩ := x
    by_cases hlt : key < k
    · rw [insert, if_pos hlt, get?_eq_none_of_lt_head hlt h]
      rfl
    · by_cases hkey : key = k
      · rw [insert, if_neg hlt, if_pos hkey, hkey, get?_cons_self]
        rfl
      · rw [insert, if_neg hlt, if_neg hkey, get?_cons, if_neg (Ne.symm hkey), List.length_cons,
          ih (List.pairwise_cons.1 h).2]
        by_cases hrest : (get? key rest).isSome = true
        · rw [if_pos hrest, if_pos hrest, List.length_cons]
        · rw [if_neg hrest, if_neg hrest, List.length_cons]

theorem eq_of_get?_eq {s t : Entries α} (hs : Ordered s) (ht : Ordered t)
    (h : ∀ key, get? key s = get? key t) : s = t := by
  induction s generalizing t with
  | nil =>
    cases t with
    | nil => rfl
    | cons y rest => exact absurd (h y.1) (by obtain ⟨l, b⟩ := y; simp)
  | cons x s ih =>
    obtain ⟨k, a⟩ := x
    cases t with
    | nil => exact absurd (h k) (by simp)
    | cons y t =>
      obtain ⟨l, b⟩ := y
      have hkl : k = l := by
        rcases Std.lt_trichotomy k l with hlt | heq | hlt
        · have hk := h k
          rw [get?_cons_self, get?_eq_none_of_lt_head hlt ht] at hk
          exact absurd hk (by simp)
        · exact heq
        · have hl := h l
          rw [get?_cons_self, get?_eq_none_of_lt_head hlt hs] at hl
          exact absurd hl (by simp)
      subst hkl
      have hab : a = b := by simpa using h k
      subst hab
      congr 1
      refine ih (List.pairwise_cons.1 hs).2 (List.pairwise_cons.1 ht).2 fun key => ?_
      by_cases hkey : k = key
      · subst hkey
        rw [get?_eq_none_of_forall_lt (List.pairwise_cons.1 hs).1,
          get?_eq_none_of_forall_lt (List.pairwise_cons.1 ht).1]
      · simpa [get?_cons, hkey] using h key

theorem Ordered.map {entries : Entries α} (h : Ordered entries) (f : α → β) :
    Ordered (entries.map fun e => (e.1, f e.2)) :=
  List.pairwise_map.2 h

theorem get?_map (f : α → β) (entries : Entries α) (key : String) :
    get? key (entries.map fun e => (e.1, f e.2)) = (entries.get? key).map f := by
  induction entries with
  | nil => rfl
  | cons e rest ih =>
    obtain ⟨k, a⟩ := e
    rw [List.map_cons, get?_cons, get?_cons, ih]
    by_cases hk : k = key
    · simp [hk]
    · simp [hk]

/-! ### Different keys -/

/-- No key occurs twice. -/
def Distinct (entries : Entries α) : Prop := entries.Pairwise (fun a b => a.1 ≠ b.1)

section

variable {entries pairs : Entries α} {key : String} {a : α}

theorem Ordered.distinct (h : entries.Ordered) : entries.Distinct := by
  refine List.Pairwise.imp ?_ h
  intro a b hlt heq
  exact String.lt_irrefl b.1 (heq ▸ hlt)

theorem Distinct.map (h : entries.Distinct) (f : α → β) :
    Distinct (entries.map fun e => (e.1, f e.2)) :=
  List.pairwise_map.2 h

theorem Distinct.perm (h : entries.Distinct) (hperm : entries.Perm pairs) : pairs.Distinct :=
  (hperm.pairwise_iff fun hne heq => hne heq.symm).mp h

theorem mem_of_get? (h : entries.get? key = some a) : (key, a) ∈ entries := by
  induction entries with
  | nil => cases h
  | cons e rest ih =>
    obtain ⟨k, b⟩ := e
    rw [get?_cons] at h
    by_cases hk : k = key
    · rw [if_pos hk] at h
      cases h
      exact hk ▸ List.mem_cons_self
    · rw [if_neg hk] at h
      exact List.mem_cons_of_mem _ (ih h)

theorem get?_of_mem (hdistinct : entries.Distinct) (h : (key, a) ∈ entries) :
    entries.get? key = some a := by
  induction entries with
  | nil => cases h
  | cons e rest ih =>
    obtain ⟨k, b⟩ := e
    obtain ⟨hfirst, hrest⟩ := List.pairwise_cons.mp hdistinct
    rw [get?_cons]
    rcases List.mem_cons.mp h with heq | h
    · cases heq
      rw [if_pos rfl]
    · rw [if_neg (hfirst _ h)]
      exact ih hrest h

/-- Lists of entries with different keys that have the same members agree. -/
theorem get?_congr (hentries : entries.Distinct) (hpairs : pairs.Distinct)
    (h : ∀ key a, (key, a) ∈ entries ↔ (key, a) ∈ pairs) (key : String) :
    entries.get? key = pairs.get? key := by
  apply Option.ext
  intro a
  exact ⟨fun hget => get?_of_mem hpairs ((h key a).mp (mem_of_get? hget)),
    fun hget => get?_of_mem hentries ((h key a).mpr (mem_of_get? hget))⟩

/-- The order of entries with different keys does not matter. -/
theorem get?_perm (hdistinct : entries.Distinct) (hperm : entries.Perm pairs) (key : String) :
    entries.get? key = pairs.get? key :=
  get?_congr hdistinct (hdistinct.perm hperm) (fun _ _ => hperm.mem_iff) key

/-- Ordered lists of entries that have the same members are equal. -/
theorem Ordered.eq_of_mem_iff (hentries : entries.Ordered) (hpairs : pairs.Ordered)
    (h : ∀ key a, (key, a) ∈ entries ↔ (key, a) ∈ pairs) : entries = pairs :=
  eq_of_get?_eq hentries hpairs (get?_congr hentries.distinct hpairs.distinct h)

end

end Entries

/-! ## Tables -/

/-- Values by key, listed by ascending key. -/
@[ext] structure Table (α : Type u) where
  entries : Entries α
  ordered : entries.Ordered
deriving DecidableEq

namespace Table

variable {α : Type u} {β : Type v}

/-- The table without entries. -/
def empty : Table α := ⟨[], List.Pairwise.nil⟩

instance : Inhabited (Table α) := ⟨empty⟩

instance : EmptyCollection (Table α) := ⟨empty⟩

/-- The value under a key. -/
def get? (t : Table α) (key : String) : Option α := t.entries.get? key

/-- Is there a value under the key? -/
def contains (t : Table α) (key : String) : Bool := (t.get? key).isSome

/-- Put a value under a key, instead of any value that is there. -/
def insert (t : Table α) (key : String) (value : α) : Table α :=
  ⟨t.entries.insert key value, t.ordered.insert key value⟩

/-- Put the pairs one after the other; of two pairs with one key the later
    stays. -/
def insertAll (t : Table α) (pairs : List (String × α)) : Table α :=
  pairs.foldl (fun t pair => t.insert pair.1 pair.2) t

/-- The table of the pairs; of two pairs with one key the later stays. -/
def ofList (pairs : List (String × α)) : Table α := empty.insertAll pairs

/-- The keys in order. -/
def keys (t : Table α) : List String := t.entries.map (·.1)

/-- The number of entries. -/
def size (t : Table α) : Nat := t.entries.length

/-- Has the table no entries? -/
def isEmpty (t : Table α) : Bool := t.entries.isEmpty

/-- The same keys with other values. -/
def map (f : α → β) (t : Table α) : Table β :=
  ⟨t.entries.map fun e => (e.1, f e.2), t.ordered.map f⟩

/-! ### One equation per operation -/

@[simp] theorem get?_empty (key : String) : (empty : Table α).get? key = none := rfl

theorem get?_insert (t : Table α) (key q : String) (value : α) :
    (t.insert key value).get? q = if key = q then some value else t.get? q :=
  Entries.get?_insert key q value t.entries

@[simp] theorem get?_insert_self (t : Table α) (key : String) (value : α) :
    (t.insert key value).get? key = some value := by
  simp [get?_insert]

theorem get?_insert_ne (t : Table α) {key q : String} (value : α) (h : key ≠ q) :
    (t.insert key value).get? q = t.get? q := by
  simp [get?_insert, h]

theorem size_insert (t : Table α) (key : String) (value : α) :
    (t.insert key value).size = if t.contains key then t.size else t.size + 1 :=
  Entries.length_insert key value t.ordered

/-- Tables with the same answers are equal. -/
theorem ext_get? {s t : Table α} (h : ∀ key, s.get? key = t.get? key) : s = t :=
  Table.ext (Entries.eq_of_get?_eq s.ordered t.ordered h)

/-- Writing what is there already changes nothing. -/
theorem insert_of_get? {t : Table α} {key : String} {value : α} (h : t.get? key = some value) :
    t.insert key value = t := by
  apply ext_get?
  intro q
  rw [get?_insert]
  by_cases hq : key = q
  · rw [if_pos hq, ← hq, h]
  · rw [if_neg hq]

/-- Of the values that are put under a key the last one stays. -/
theorem get?_insertAll (t : Table α) (pairs : List (String × α)) (key : String) :
    (t.insertAll pairs).get? key =
      ((pairs.filter (·.1 == key)).getLast?.map (·.2)).or (t.get? key) := by
  induction pairs generalizing t with
  | nil => rfl
  | cons pair rest ih =>
    have hstep : t.insertAll (pair :: rest) = (t.insert pair.1 pair.2).insertAll rest := rfl
    rw [hstep, ih, get?_insert]
    by_cases hkey : pair.1 = key
    · rw [List.filter_cons_of_pos (by simp [hkey]), if_pos hkey, List.getLast?_cons]
      cases (rest.filter (·.1 == key)).getLast? <;> rfl
    · rw [List.filter_cons_of_neg (by simp [hkey]), if_neg hkey]

/-- A batch has an entry for its keys, and takes none away. -/
theorem isSome_get?_insertAll_iff {t : Table α} {pairs : List (String × α)} {key : String} :
    ((t.insertAll pairs).get? key).isSome = true ↔
      (∃ pair ∈ pairs, pair.1 = key) ∨ (t.get? key).isSome = true := by
  rw [get?_insertAll, Option.isSome_or, Option.isSome_map, Bool.or_eq_true]
  simp

theorem insertAll_cons (t : Table α) (pair : String × α) (pairs : List (String × α)) :
    t.insertAll (pair :: pairs) = (t.insert pair.1 pair.2).insertAll pairs := rfl

theorem insertAll_append (t : Table α) (first later : List (String × α)) :
    t.insertAll (first ++ later) = (t.insertAll first).insertAll later :=
  List.foldl_append

/-- Pairs with different keys all stay. -/
theorem get?_insertAll_of_distinct {pairs : Entries α} (h : pairs.Distinct) (t : Table α)
    (key : String) : (t.insertAll pairs).get? key = (pairs.get? key).or (t.get? key) := by
  induction pairs generalizing t with
  | nil => rfl
  | cons pair pairs ih =>
    obtain ⟨hfirst, hrest⟩ := List.pairwise_cons.mp h
    obtain ⟨k, a⟩ := pair
    rw [insertAll_cons, ih hrest, get?_insert, Entries.get?_cons]
    by_cases hk : k = key
    · have hnone : Entries.get? key pairs = none := by
        rw [Entries.get?_eq_none_iff]
        exact fun e he heq => hfirst e he (hk.trans heq.symm)
      rw [if_pos hk, if_pos hk, hnone]
      rfl
    · rw [if_neg hk, if_neg hk]

/-- The table of pairs with different keys lists them in the order of keys. -/
theorem entries_ofList {pairs entries : Entries α} (h : entries.Ordered)
    (hperm : pairs.Perm entries) : (ofList pairs).entries = entries := by
  have hdistinct : pairs.Distinct := h.distinct.perm hperm.symm
  refine Entries.eq_of_get?_eq (ofList pairs).ordered h fun key => ?_
  have hget := get?_insertAll_of_distinct hdistinct empty key
  rw [Entries.get?_perm hdistinct hperm, get?_empty, Option.or_none] at hget
  exact hget

theorem get?_map (f : α → β) (t : Table α) (key : String) :
    (t.map f).get? key = (t.get? key).map f :=
  Entries.get?_map f t.entries key

/-- Values can be changed before or after the table is made. -/
theorem map_ofList {pairs : Entries α} (h : pairs.Distinct) (f : α → β) :
    (ofList pairs).map f = ofList (pairs.map fun e => (e.1, f e.2)) := by
  apply ext_get?
  intro key
  rw [get?_map, ofList, ofList, get?_insertAll_of_distinct h,
    get?_insertAll_of_distinct (h.map f), Entries.get?_map]
  cases Entries.get? key pairs <;> simp

/-- A table lists what it answers. -/
theorem mem_entries_iff {t : Table α} {key : String} {value : α} :
    (key, value) ∈ t.entries ↔ t.get? key = some value :=
  ⟨Entries.get?_of_mem t.ordered.distinct, Entries.mem_of_get?⟩

/-! ### What holds of every entry -/

/-- Every value is related to its key. -/
def All (P : String → α → Prop) (t : Table α) : Prop := ∀ e ∈ t.entries, P e.1 e.2

section

variable {P : String → α → Prop} {t : Table α} {key : String} {value : α}

theorem all_empty : All P empty := fun _ he => absurd he List.not_mem_nil

theorem All.of_get? (h : All P t) (hget : t.get? key = some value) : P key value :=
  h (key, value) (mem_entries_iff.mpr hget)

theorem All.insert (h : All P t) (hnew : P key value) : All P (t.insert key value) := by
  intro e he
  rcases Entries.mem_insert he with rfl | hold
  · exact hnew
  · exact h e hold

theorem All.insertAll (h : All P t) {pairs : List (String × α)}
    (hpairs : ∀ pair ∈ pairs, P pair.1 pair.2) : All P (t.insertAll pairs) := by
  induction pairs generalizing t with
  | nil => exact h
  | cons pair rest ih =>
    rw [List.forall_mem_cons] at hpairs
    rw [insertAll_cons]
    exact ih (h.insert hpairs.1) hpairs.2

end

end Table

end PluginHost
