/-! # Runs of characters

    A reader that cuts a run of characters off a text takes all that are of
    its kind.  What follows a run therefore must not go on with another
    character of that kind (`Stops`), and then the run and what follows it are
    determined by the whole (`run_unique`). -/

namespace PluginHost.Text

variable {α : Type} {p : α → Bool} {a b l r : List α} {c d : α}

theorem ne_of_kind (hc : p c = true) (hd : p d = false) : c ≠ d := by
  intro heq
  rw [heq, hd] at hc
  cases hc

/-- What is of the kind is none of those that are not. -/
theorem not_mem_of_kind (hc : p c = true) (hl : (l.all (!p ·)) = true) : c ∉ l := by
  intro hmem
  have hnot := List.all_eq_true.mp hl c hmem
  rw [hc] at hnot
  cases hnot

/-- The text does not go on with a character of the kind. -/
def Stops (p : α → Bool) (l : List α) : Prop := ∀ c ∈ l.head?, p c = false

@[simp] theorem stops_nil : Stops p [] := by
  intro c hc
  simp at hc

@[simp] theorem stops_cons : Stops p (c :: l) ↔ p c = false := by
  simp [Stops]

/-- A text goes on as its first part does, if there is any. -/
theorem stops_append (h : l ≠ []) : Stops p (l ++ r) ↔ Stops p l := by
  cases l with
  | nil => exact absurd rfl h
  | cons c l => rw [List.cons_append, stops_cons, stops_cons]

theorem stops_of_forall (h : ∀ c ∈ l, p c = false) : Stops p l :=
  fun c hc => h c (List.mem_of_mem_head? hc)

theorem takeWhile_of_stops (h : Stops p l) : l.takeWhile p = [] := by
  cases l with
  | nil => rfl
  | cons c l => simp [stops_cons.mp h]

theorem dropWhile_of_stops (h : Stops p l) : l.dropWhile p = l := by
  cases l with
  | nil => rfl
  | cons c l => simp [stops_cons.mp h]

/-- A run is taken up to where it stops. -/
theorem takeWhile_run (ha : ∀ c ∈ a, p c = true) (hl : Stops p l) :
    (a ++ l).takeWhile p = a := by
  rw [List.takeWhile_append_of_pos ha, takeWhile_of_stops hl, List.append_nil]

/-- And it is dropped up to where it stops. -/
theorem dropWhile_run (ha : ∀ c ∈ a, p c = true) (hl : Stops p l) :
    (a ++ l).dropWhile p = l := by
  rw [List.dropWhile_append_of_pos ha, dropWhile_of_stops hl]

theorem stops_dropWhile (p : α → Bool) (l : List α) : Stops p (l.dropWhile p) := by
  intro c hc
  have hhead := List.head?_dropWhile_not p l
  rw [Option.mem_def.mp hc] at hhead
  exact hhead

/-- A text starts with one maximal run only. -/
theorem run_unique (ha : ∀ c ∈ a, p c = true) (hb : ∀ c ∈ b, p c = true) (hl : Stops p l)
    (hr : Stops p r) (h : a ++ l = b ++ r) : a = b ∧ l = r := by
  have htake := congrArg (List.takeWhile p) h
  have hdrop := congrArg (List.dropWhile p) h
  rw [takeWhile_run ha hl, takeWhile_run hb hr] at htake
  rw [dropWhile_run ha hl, dropWhile_run hb hr] at hdrop
  exact ⟨htake, hdrop⟩

end PluginHost.Text
