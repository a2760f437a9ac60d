import PluginHost.Proofs.Toml.Strings

/-! # Written keys read back

    A key stands without quotes, or as a string on one line.  Either way it is
    read as the key again (`IsKey`), and a path of such keys as the path
    (`readKeyPath_written`), if it is not too long and what follows does not go
    on with it. -/

namespace PluginHost.Toml

open Text (Stops stops_cons stops_nil)

section

variable {l rest written : List Char} {name : String}

/-! ## One key -/

/-- A character that a written key may start with. -/
def isKeyStart (c : Char) : Bool := isBareKeyChar c || c == '"' || c == '\''

/-- A text that is read as a key wherever it stands. -/
structure IsKey (written : List Char) (name : String) : Prop where
  starts : ∃ c l, written = c :: l ∧ isKeyStart c = true
  reads  : ∀ rest, Stops isBareKeyChar rest → readKey (written ++ rest) = some (name, rest)

theorem isKey_bare (h : isBareKey name.toList = true) : IsKey name.toList name := by
  simp only [isBareKey, Bool.and_eq_true, Bool.not_eq_true', List.isEmpty_eq_false_iff,
    List.all_eq_true] at h
  obtain ⟨hne, hall⟩ := h
  obtain ⟨c, l, hname⟩ := List.exists_cons_of_ne_nil hne
  have hc : isBareKeyChar c = true := hall c (hname ▸ List.mem_cons_self)
  refine ⟨⟨c, l, hname, by rw [isKeyStart, hc]; rfl⟩, fun rest hrest => ?_⟩
  have htake := Text.takeWhile_run hall hrest
  have hdrop := Text.dropWhile_run hall hrest
  -- What stands without quotes starts with none.
  unfold readKey
  split
  · rename_i heq
    rw [hname] at heq
    rw [(List.cons.inj heq).1] at hc
    exact absurd hc (by decide)
  · rename_i heq
    rw [hname] at heq
    rw [(List.cons.inj heq).1] at hc
    exact absurd hc (by decide)
  · simp only [htake, hdrop]
    rw [if_neg (by simpa using hne), String.ofList_toList]

theorem isKey_double {write : Char → List Char} (h : ∀ c ∈ name.toList, ReadsBack (write c) c) :
    IsKey (['"'] ++ name.toList.flatMap write ++ ['"']) name := by
  refine ⟨⟨'"', _, rfl, rfl⟩, fun rest _ => ?_⟩
  have hwritten : ['"'] ++ name.toList.flatMap write ++ ['"'] ++ rest =
      '"' :: (name.toList.flatMap write ++ '"' :: rest) := by
    simp
  have hread : readKey ('"' :: (name.toList.flatMap write ++ '"' :: rest)) =
      readBasic [] (name.toList.flatMap write ++ '"' :: rest) := rfl
  rw [hwritten, hread, readBasic_flatMap h]
  simp

theorem isKey_single (h : Form.literal.Holds name.toList) :
    IsKey (['\''] ++ name.toList ++ ['\'']) name := by
  refine ⟨⟨'\'', _, rfl, rfl⟩, fun rest _ => ?_⟩
  have hwritten : ['\''] ++ name.toList ++ ['\''] ++ rest =
      '\'' :: (name.toList ++ '\'' :: rest) := by
    simp
  have hread : readKey ('\'' :: (name.toList ++ '\'' :: rest)) =
      readLiteral [] (name.toList ++ '\'' :: rest) := rfl
  rw [hwritten, hread, readLiteral_append h]
  simp

/-- **A written key reads back.** -/
theorem isKey_keyChars (name : String) : IsKey (keyChars name) name := by
  rw [keyChars]
  by_cases hbare : isBareKey name.toList = true
  · rw [if_pos hbare]
    exact isKey_bare hbare
  · rw [if_neg hbare]
    rcases keyFormOf_cases name.toList with hform | ⟨hform, hholds⟩
    · rw [hform]
      exact isKey_double fun c _ => readsBack_escapeBasic c
    · rw [hform]
      exact isKey_single hholds

/-- A character that is no part of a key starts no key. -/
theorem IsKey.head_ne (h : IsKey written name) {c : Char} (hc : isKeyStart c = false) :
    ∀ d ∈ (written ++ rest).head?, d ≠ c := by
  obtain ⟨d, l, rfl, hd⟩ := h.starts
  simp only [List.cons_append, List.head?_cons, Option.mem_some_iff, forall_eq']
  rintro rfl
  rw [hc] at hd
  cases hd

theorem skipBlanks_of_isKeyStart {c : Char} (hc : isKeyStart c = true) (l : List Char) :
    skipBlanks (c :: l) = c :: l := by
  have hblank : c ∉ [' ', '\t'] := Text.not_mem_of_kind hc rfl
  exact Text.dropWhile_of_stops (stops_cons.mpr (by simpa [isBlankInLine] using hblank))

theorem IsKey.skipBlanks (h : IsKey written name) (rest : List Char) :
    skipBlanks (written ++ rest) = written ++ rest := by
  obtain ⟨c, l, rfl, hc⟩ := h.starts
  exact skipBlanks_of_isKeyStart hc _

end

/-! ## Paths of keys -/

section

variable {rest : List Char} {path : KeyPath} {parents : List String} {last : String}
  {write : String → List Char}

/-- Written keys joined by points. -/
theorem intercalate_point (key : String) (keys : List String) :
    List.intercalate ['.'] ((key :: keys).map write) =
      write key ++ keys.flatMap fun k => '.' :: write k := by
  induction keys generalizing key with
  | nil => simp [List.intercalate]
  | cons k keys ih =>
    have hstep : List.intercalate ['.'] ((key :: k :: keys).map write) =
        write key ++ '.' :: List.intercalate ['.'] ((k :: keys).map write) := by
      simp [List.intercalate]
    rw [hstep, ih k]
    simp

/-- What follows a key of a path is no part of the key. -/
theorem stops_laterKeys (write : String → List Char) (keys : List String)
    (hrest : Stops isBareKeyChar rest) :
    Stops isBareKeyChar ((keys.flatMap fun k => '.' :: write k) ++ rest) := by
  cases keys with
  | nil => exact hrest
  | cons k keys => simp [isBareKeyChar]

/-- A path is read on to its last key. -/
theorem readMoreKeys_written (write : String → List Char) {more : Nat} {keys : List String}
    (hlength : keys.length ≤ more) (hpath : path.all = parents ++ last :: keys)
    (hkeys : ∀ k ∈ keys, IsKey (write k) k) (hrest : Stops isBareKeyChar rest)
    (hpoint : (skipBlanks rest).head? ≠ some '.') :
    readMoreKeys parents last more ((keys.flatMap fun k => '.' :: write k) ++ rest) =
      some (path, skipBlanks rest) := by
  induction keys generalizing parents last more with
  | nil =>
    obtain ⟨hparents, hlast⟩ := List.append_inj' hpath rfl
    have hthis : (⟨parents, last⟩ : KeyPath) = path := by
      rw [← hparents, ← (List.cons.inj hlast).1]
    rw [List.flatMap_nil, List.nil_append]
    -- No point follows the last key, so it does not matter how many more may.
    cases more with
    | zero =>
      rw [readMoreKeys]
      split
      · rename_i heq
        exact absurd (congrArg List.head? heq) hpoint
      · rw [hthis]
    | succ more =>
      rw [readMoreKeys]
      split
      · rename_i heq
        exact absurd (congrArg List.head? heq) hpoint
      · rw [hthis]
  | cons key keys ih =>
    obtain ⟨more, rfl⟩ := Nat.exists_eq_add_of_le' (Nat.le_trans (Nat.le_add_left 1 _) hlength)
    have hkey := hkeys key List.mem_cons_self
    have hread := hkey.reads _ (stops_laterKeys write keys hrest)
    have hnoBlank : skipBlanks ('.' :: (write key ++
        ((keys.flatMap fun k => '.' :: write k) ++ rest))) = '.' :: (write key ++
        ((keys.flatMap fun k => '.' :: write k) ++ rest)) := rfl
    rw [List.flatMap_cons, List.cons_append, List.cons_append, List.append_assoc, readMoreKeys,
      hnoBlank]
    simp only [hkey.skipBlanks, hread, Option.bind_eq_bind, Option.bind_some]
    exact ih (by simpa using hlength) (by simpa using hpath)
      fun k hk => hkeys k (List.mem_cons_of_mem key hk)

/-- **A written path reads back**, and the blanks after it are passed. -/
theorem readKeyPath_written (hlength : path.all.length ≤ nestingLimit)
    (hkeys : ∀ k ∈ path.all, IsKey (write k) k) (hrest : Stops isBareKeyChar rest)
    (hpoint : (skipBlanks rest).head? ≠ some '.') :
    readKeyPath (List.intercalate ['.'] (path.all.map write) ++ rest) =
      some (path, skipBlanks rest) := by
  obtain ⟨key, keys, hpath⟩ := List.exists_cons_of_ne_nil (l := path.all) (by simp [KeyPath.all])
  rw [hpath] at hlength hkeys
  have hkey := hkeys key List.mem_cons_self
  have hread := hkey.reads _ (stops_laterKeys write keys hrest)
  rw [hpath, intercalate_point, List.append_assoc, readKeyPath, hread]
  refine readMoreKeys_written write ?_ hpath (fun k hk => hkeys k (List.mem_cons_of_mem key hk)) hrest
    hpoint
  simp only [List.length_cons, nestingLimit] at hlength ⊢
  omega

/-- A written path starts as its first key does. -/
theorem head_path (hkeys : ∀ k ∈ path.all, IsKey (write k) k) :
    ∃ c l, List.intercalate ['.'] (path.all.map write) = c :: l ∧ isKeyStart c = true := by
  obtain ⟨key, keys, hpath⟩ := List.exists_cons_of_ne_nil (l := path.all) (by simp [KeyPath.all])
  rw [hpath] at hkeys
  obtain ⟨c, l, hwritten, hc⟩ := (hkeys key List.mem_cons_self).starts
  exact ⟨c, _, by rw [hpath, intercalate_point, hwritten]; rfl, hc⟩

/-- A key on its own is a path of one key. -/
theorem readKeyPath_key {written : List Char} {name : String} (h : IsKey written name)
    (hrest : Stops isBareKeyChar rest) (hpoint : (skipBlanks rest).head? ≠ some '.') :
    readKeyPath (written ++ rest) = some (⟨[], name⟩, skipBlanks rest) := by
  have hpath : written = List.intercalate ['.']
      ((KeyPath.all ⟨[], name⟩).map fun _ : String => written) := by
    simp [KeyPath.all, List.intercalate]
  have hlength : (KeyPath.all ⟨[], name⟩).length ≤ nestingLimit := Nat.le_add_left 1 79
  rw [hpath]
  refine readKeyPath_written hlength (fun k hk => ?_) hrest hpoint
  obtain rfl : k = name := by simpa [KeyPath.all] using hk
  exact h

end

end PluginHost.Toml
