import Mathlib.Data.List.Forall2

/-! # Steps that may fail

    A sequence of steps succeeds by way of all of them, and fails with the
    first one that does. -/

namespace PluginHost

/-! ## One step after the other -/

/-- A sequence of steps succeeds by way of its first step. -/
theorem bind_eq_ok {ε α β : Type} {x : Except ε α} {f : α → Except ε β} {b : β}
    (h : x >>= f = .ok b) : ∃ a, x = .ok a ∧ f a = .ok b := by
  cases x with
  | error e => cases h
  | ok a => exact ⟨a, rfl, h⟩

/-- A step that succeeds hands its result on to the later ones. -/
theorem foldlM_cons_ok {ε α β : Type} {step : α → β → Except ε α} {a b : α} {x : β} {l : List β}
    (h : step a x = .ok b) : (x :: l).foldlM step a = l.foldlM step b := by
  rw [List.foldlM_cons, h]
  rfl

theorem foldlM_append_ok {ε α β : Type} {step : α → β → Except ε α} {a b : α} {l m : List β}
    (h : l.foldlM step a = .ok b) : (l ++ m).foldlM step a = m.foldlM step b := by
  rw [List.foldlM_append, h]
  rfl

/-- What every step keeps holds at the end of a run. -/
theorem foldlM_preserves {ε α β : Type} {P : α → Prop} {step : α → β → Except ε α}
    (hstep : ∀ a x b, P a → step a x = .ok b → P b) {l : List β} {a b : α} (ha : P a)
    (h : l.foldlM step a = .ok b) : P b := by
  induction l generalizing a with
  | nil =>
    cases h
    exact ha
  | cons x rest ih =>
    rw [List.foldlM_cons] at h
    obtain ⟨a', ha', hrest⟩ := bind_eq_ok h
    exact ih (hstep a x a' ha ha') hrest

/-! ## Outcomes in a list -/

section

variable {ε α : Type} {l : List (Except ε α)}

theorem mapM_id_cons (x : Except ε α) (l : List (Except ε α)) :
    (x :: l).mapM id = x.bind fun a => (l.mapM id).map (a :: ·) := by
  rw [List.mapM_cons]
  cases x with
  | error e => rfl
  | ok a => cases l.mapM id <;> rfl

theorem mapM_id_ok (parts : List α) : (parts.map (Except.ok (ε := ε))).mapM id = .ok parts := by
  induction parts with
  | nil => rfl
  | cons a parts ih => rw [List.map_cons, mapM_id_cons, ih]; rfl

theorem mapM_id_error (parts : List α) (e : ε) (later : List (Except ε α)) :
    (parts.map Except.ok ++ Except.error e :: later).mapM id = .error e := by
  induction parts with
  | nil => rfl
  | cons a parts ih => rw [List.map_cons, List.cons_append, mapM_id_cons, ih]; rfl

/-- All pieces are there, or there is a first one that is missing. -/
theorem all_or_first_error (l : List (Except ε α)) :
    (∃ parts : List α, l = parts.map .ok) ∨
      ∃ (parts : List α) (e : ε) (later : List (Except ε α)),
        l = parts.map .ok ++ .error e :: later := by
  induction l with
  | nil => exact .inl ⟨[], rfl⟩
  | cons x rest ih =>
    cases x with
    | error e => exact .inr ⟨[], e, rest, rfl⟩
    | ok a =>
      rcases ih with ⟨parts, rfl⟩ | ⟨parts, e, later, rfl⟩
      · exact .inl ⟨a :: parts, rfl⟩
      · exact .inr ⟨a :: parts, e, later, rfl⟩

theorem mapM_id_eq_ok_iff {parts : List α} : l.mapM id = .ok parts ↔ l = parts.map .ok := by
  constructor
  · intro h
    rcases all_or_first_error l with ⟨parts', rfl⟩ | ⟨parts', e, later, rfl⟩
    · rw [mapM_id_ok] at h
      rw [Except.ok.inj h]
    · rw [mapM_id_error] at h
      cases h
  · rintro rfl
    exact mapM_id_ok parts

theorem mapM_id_eq_error_iff {e : ε} :
    l.mapM id = .error e ↔ ∃ (parts : List α) (later : List (Except ε α)),
      l = parts.map .ok ++ .error e :: later := by
  constructor
  · intro h
    rcases all_or_first_error l with ⟨parts, rfl⟩ | ⟨parts, e', later, rfl⟩
    · rw [mapM_id_ok] at h
      cases h
    · rw [mapM_id_error] at h
      cases h
      exact ⟨parts, later, rfl⟩
  · rintro ⟨parts, later, rfl⟩
    exact mapM_id_error parts e later

/-! ### Runs over a list -/

theorem mapM_eq_mapM_id {β : Type} (f : β → Except ε α) (l : List β) :
    l.mapM f = (l.map f).mapM id := by
  rw [List.mapM_map]
  rfl

/-- Every result of a run over a list comes from an element of it. -/
theorem mem_of_mapM_eq_ok {β : Type} {f : β → Except ε α} {l : List β} {results : List α} {a : α}
    (h : l.mapM f = .ok results) (ha : a ∈ results) : ∃ b ∈ l, f b = .ok a := by
  rw [mapM_eq_mapM_id, mapM_id_eq_ok_iff] at h
  have hmem : Except.ok a ∈ l.map f := by
    rw [h]
    exact List.mem_map_of_mem ha
  exact List.mem_map.mp hmem

/-- What every element of a list is given back by is given back as a whole. -/
theorem mapM_map_eq_ok {β : Type} {give : α → β} {back : β → Except ε α} {l : List α}
    (h : ∀ a ∈ l, back (give a) = .ok a) : (l.map give).mapM back = .ok l := by
  rw [mapM_eq_mapM_id, mapM_id_eq_ok_iff, List.map_map]
  exact List.map_congr_left h

/-- A run over a list succeeds with one result for each element. -/
theorem mapM_eq_ok_iff {β : Type} {f : β → Except ε α} {l : List β} {results : List α} :
    l.mapM f = .ok results ↔ List.Forall₂ (fun b a => f b = .ok a) l results := by
  rw [mapM_eq_mapM_id, mapM_id_eq_ok_iff, ← List.forall₂_eq_eq_eq, List.forall₂_map_left_iff,
    List.forall₂_map_right_iff]

/-- A run over a list fails with the first element that does. -/
theorem mapM_eq_error_iff {β : Type} {f : β → Except ε α} {l : List β} {e : ε} :
    l.mapM f = .error e ↔ ∃ front b back, l = front ++ b :: back ∧
      (∀ c ∈ front, ∃ a, f c = .ok a) ∧ f b = .error e := by
  rw [mapM_eq_mapM_id, mapM_id_eq_error_iff]
  constructor
  · rintro ⟨parts, later, hl⟩
    obtain ⟨front, others, rfl, hfront, hothers⟩ := List.map_eq_append_iff.mp hl
    obtain ⟨b, back, rfl, hb, -⟩ := List.map_eq_cons_iff.mp hothers
    refine ⟨front, b, back, rfl, fun c hc => ?_, hb⟩
    obtain ⟨a, -, ha⟩ := List.mem_map.mp (hfront ▸ List.mem_map_of_mem hc)
    exact ⟨a, ha.symm⟩
  · rintro ⟨front, b, back, rfl, hfront, hb⟩
    rcases all_or_first_error (front.map f) with ⟨parts, hparts⟩ | ⟨parts, e', later, hparts⟩
    · exact ⟨parts, back.map f, by rw [List.map_append, List.map_cons, hparts, hb]⟩
    · -- No element of the front part fails.
      have hmem : Except.error e' ∈ front.map f := by simp [hparts]
      obtain ⟨c, hc, hfail⟩ := List.mem_map.mp hmem
      obtain ⟨a, ha⟩ := hfront c hc
      rw [ha] at hfail
      cases hfail

end

/-! ## The first element with a property -/

section

variable {α β : Type} {p : α → Bool} {l : List α}

theorem find?_map_eq_some_iff {f : α → β} {b : β} :
    (l.find? p).map f = some b ↔
      ∃ front a back, l = front ++ a :: back ∧ (∀ c ∈ front, p c = false) ∧ p a = true ∧
        f a = b := by
  rw [Option.map_eq_some_iff]
  constructor
  · intro ⟨a, hfind, hb⟩
    obtain ⟨ha, front, back, hl, hfront⟩ := List.find?_eq_some_iff_append.mp hfind
    exact ⟨front, a, back, hl, fun c hc => by simpa using hfront c hc, ha, hb⟩
  · intro ⟨front, a, back, hl, hfront, ha, hb⟩
    refine ⟨a, List.find?_eq_some_iff_append.mpr ⟨ha, front, back, hl, ?_⟩, hb⟩
    intro c hc
    simp [hfront c hc]

theorem none_or_first (p : α → Bool) (l : List α) :
    (∀ a ∈ l, p a = false) ∨
      ∃ front a back, l = front ++ a :: back ∧ (∀ c ∈ front, p c = false) ∧ p a = true := by
  cases hfind : (l.find? p).map id with
  | none =>
    left
    intro a ha
    simpa using List.find?_eq_none.mp (Option.map_eq_none_iff.mp hfind) a ha
  | some a =>
    obtain ⟨front, a, back, hl, hfront, ha, -⟩ := find?_map_eq_some_iff.mp hfind
    exact .inr ⟨front, a, back, hl, hfront, ha⟩

end

/-! ## Outcomes that are described -/

section

variable {ε α β : Type}

/-- The results and the faults of an outcome are described. -/
structure Decided (outcome : Except ε α) (result : α → Prop) (fault : ε → Prop) : Prop where
  ok_iff    : ∀ a, outcome = .ok a ↔ result a
  error_iff : ∀ e, outcome = .error e ↔ fault e

/-- A description that the outcome fulfils is exact if something is always
    described. -/
theorem Decided.of_total {outcome : Except ε α} {result : α → Prop} {fault : ε → Prop}
    (hresult : ∀ a, result a → outcome = .ok a) (hfault : ∀ e, fault e → outcome = .error e)
    (htotal : (∃ a, result a) ∨ ∃ e, fault e) : Decided outcome result fault where
  ok_iff a := by
    refine ⟨fun hok => ?_, hresult a⟩
    rcases htotal with ⟨b, hb⟩ | ⟨e, he⟩
    · rw [hresult b hb] at hok
      cases hok
      exact hb
    · rw [hfault e he] at hok
      cases hok
  error_iff e := by
    refine ⟨fun herror => ?_, hfault e⟩
    rcases htotal with ⟨b, hb⟩ | ⟨e', he'⟩
    · rw [hresult b hb] at herror
      cases herror
    · rw [hfault e' he'] at herror
      cases herror
      exact he'

/-- Something is always described. -/
theorem Decided.total {outcome : Except ε α} {result : α → Prop} {fault : ε → Prop}
    (h : Decided outcome result fault) : (∃ a, result a) ∨ ∃ e, fault e := by
  cases houtcome : outcome with
  | ok a => exact .inl ⟨a, (h.ok_iff a).mp houtcome⟩
  | error e => exact .inr ⟨e, (h.error_iff e).mp houtcome⟩

/-- The first element without a result is at fault. -/
def FirstFails (result : β → α → Prop) (fault : β → ε → Prop) (l : List β) (e : ε) : Prop :=
  ∃ front b back, l = front ++ b :: back ∧ (∀ c ∈ front, ∃ a, result c a) ∧ fault b e

/-- A run over a list has a result for each element, or the fault of the first
    one without. -/
theorem Decided.mapM {f : β → Except ε α} {result : β → α → Prop} {fault : β → ε → Prop}
    (h : ∀ b, Decided (f b) (result b) (fault b)) (l : List β) :
    Decided (l.mapM f) (List.Forall₂ result l) (FirstFails result fault l) where
  ok_iff results := by
    rw [mapM_eq_ok_iff]
    simp only [(h _).ok_iff]
  error_iff e := by
    rw [mapM_eq_error_iff]
    simp only [(h _).ok_iff, (h _).error_iff]
    rfl

end

end PluginHost
