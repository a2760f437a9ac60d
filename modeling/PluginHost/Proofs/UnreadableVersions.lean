import PluginHost.Proofs.ManifestBounds

/-! # Versions that are none

    A check of a host takes up to three texts for versions: the host, the least
    version and the greatest one.  It should report the ones that are none
    before it compares any two of them.  But it compares the host with the
    least version before it reads the greatest one, and a host that is turned
    away there hides a greatest version that is none (`Overlooks`).

    Main theorem (`unread_reported_iff`): this is the only exception. -/

namespace PluginHost

open Toml (Settings)

namespace Descriptor

variable {d : Descriptor} {host : String} {e : ConfigurationError}

/-! ## Texts that stand for versions -/

/-- The texts that a check of the host takes for versions: the host, and the
    bounds that are set. -/
def versionTexts (d : Descriptor) (host : String) : List String :=
  host :: (d.minVersion.toList ++ d.maxVersion.toList)

/-- All of them are versions. -/
def AllRead (d : Descriptor) (host : String) : Prop :=
  ∀ text ∈ d.versionTexts host, Version.Readable text

/-- The fault is about one of them, which is none. -/
def AboutUnread (d : Descriptor) (host : String) (e : ConfigurationError) : Prop :=
  ∃ text ∈ d.versionTexts host, ∃ reason,
    Version.parse text = .error reason ∧ e = .invalidVersion d.name text reason

/-- The greatest version is none, and the host is below the least one. -/
structure Overlooks (d : Descriptor) (host : String) : Prop where
  below  : ∃ h text least, Version.parse host = .ok h ∧ d.minVersion = some text ∧
    Version.parse text = .ok least ∧ h.rank < least.rank
  unread : ¬BoundReads d.maxVersion

theorem boundReads_iff {bound : Option String} :
    BoundReads bound ↔ ∀ text ∈ bound.toList, Version.Readable text := by
  simp [BoundReads]

theorem allRead_iff : d.AllRead host ↔ Version.Readable host ∧ d.BoundsRead := by
  rw [boundsRead_iff_both, boundReads_iff, boundReads_iff, AllRead, versionTexts, List.forall_mem_cons,
    List.forall_mem_append]

theorem Overlooks.not_allRead (h : d.Overlooks host) : ¬d.AllRead host := by
  intro hread
  exact h.unread (allRead_iff.mp hread).2.maximum

theorem AboutUnread.not_allRead (h : d.AboutUnread host e) : ¬d.AllRead host := by
  obtain ⟨text, hmem, reason, hunread, -⟩ := h
  intro hread
  obtain ⟨v, hv⟩ := hread text hmem
  rw [hunread] at hv
  cases hv

/-- An accepted host was compared with both bounds. -/
theorem Admits.allRead (h : d.Admits host) : d.AllRead host := by
  obtain ⟨v, hhost, hmin, hmax⟩ := h
  exact allRead_iff.mpr ⟨⟨v, hhost⟩, hmin.boundReads, hmax.boundReads⟩

/-! ## Faults -/

/-- Why the check of a host fails. -/
inductive CheckFault (d : Descriptor) (host : String) : ConfigurationError → Prop where
  | unread {text : String} {reason : Version.ParseError} (hmem : text ∈ d.versionTexts host)
      (hread : Version.parse text = .error reason) :
      CheckFault d host (.invalidVersion d.name text reason)
  | below {text : String} (hread : d.AllRead host ∨ d.Overlooks host) :
      CheckFault d host (.belowMinimum d.name text)
  | above {text : String} (hread : d.AllRead host) :
      CheckFault d host (.aboveMaximum d.name text)

theorem checkFault_of_error (h : d.checkBounds host = .error e) : d.CheckFault host e := by
  have hverdict := d.boundsVerdict host
  rw [h] at hverdict
  cases hverdict with
  | unread hhost => exact .unread (by simp [versionTexts]) hhost
  | minimum hhost hmin =>
    cases hmin with
    | unread hbound hread => exact .unread (by simp [versionTexts, hbound]) hread
    | outside hbound hread hnot =>
      -- The greatest version was not looked at.
      refine .below ?_
      by_cases hmax : BoundReads d.maxVersion
      · left
        exact allRead_iff.mpr ⟨⟨_, hhost⟩, boundReads_of_parse hbound hread, hmax⟩
      · right
        exact ⟨⟨_, _, _, hhost, hbound, hread, not_le.mp hnot⟩, hmax⟩
  | maximum hhost hmin hmax =>
    cases hmax with
    | unread hbound hread => exact .unread (by simp [versionTexts, hbound]) hread
    | outside hbound hread hnot =>
      have hmax := boundReads_of_parse hbound hread
      exact .above (allRead_iff.mpr ⟨⟨_, hhost⟩, hmin.boundReads, hmax⟩)

/-- A host below the least version is turned away, whatever the greatest one
    is. -/
theorem Overlooks.checkBounds (h : d.Overlooks host) :
    ∃ text, d.minVersion = some text ∧ d.checkBounds host = .error (.belowMinimum d.name text) := by
  obtain ⟨v, text, least, hhost, hbound, hread, hlt⟩ := h.below
  exact ⟨text, hbound, checkBounds_of_below hhost hbound hread hlt⟩

/-! ## Main theorem -/

/-- **Versions that are none are reported**, by the check of a host and by the
    validation alike, unless the host is below the least version and the
    greatest one is none.  In that case the fault is that the host is too low.
    Otherwise comparisons are only reported when all texts are versions. -/
theorem unread_reported_iff (d : Descriptor) (host : String) :
    (∀ (s : Settings) (e : ConfigurationError), e.AboutVersions →
      (d.validate s host = .error e ↔ d.checkBounds host = .error e)) ∧
    ((∃ e, d.AboutUnread host e ∧ d.checkBounds host = .error e) ↔
      ¬d.AllRead host ∧ ¬d.Overlooks host) ∧
    (d.Overlooks host → ∃ text, d.minVersion = some text ∧
      d.checkBounds host = .error (.belowMinimum d.name text)) ∧
    (∀ plugin text, d.checkBounds host = .error (.belowMinimum plugin text) →
      (d.AllRead host ↔ ¬d.Overlooks host)) ∧
    (∀ plugin text, d.checkBounds host = .error (.aboveMaximum plugin text) →
      d.AllRead host) := by
  refine ⟨fun s e he => validate_eq_error_iff_checkBounds he, ⟨?_, ?_⟩, Overlooks.checkBounds,
    ?_, ?_⟩
  · rintro ⟨e, hunread, hcheck⟩
    refine ⟨hunread.not_allRead, ?_⟩
    intro hoverlooks
    obtain ⟨least, -, hbelow⟩ := hoverlooks.checkBounds
    obtain ⟨text, hmem, reason, hread, rfl⟩ := hunread
    rw [hbelow] at hcheck
    cases hcheck
  · rintro ⟨hnot, hseen⟩
    cases hcheck : d.checkBounds host with
    | ok u => exact absurd (checkBounds_eq_ok_iff.mp hcheck).allRead hnot
    | error e =>
      refine ⟨e, ?_, rfl⟩
      cases checkFault_of_error hcheck with
      | unread hmem hread => exact ⟨_, hmem, _, hread, rfl⟩
      | below hread => exact absurd hread (not_or.mpr ⟨hnot, hseen⟩)
      | above hread => exact absurd hread hnot
  · intro plugin text hcheck
    cases checkFault_of_error hcheck with
    | below hread =>
      refine ⟨fun h hoverlooks => hoverlooks.not_allRead h, fun hseen => ?_⟩
      exact hread.resolve_right hseen
  · intro plugin text hcheck
    cases checkFault_of_error hcheck with
    | above hread => exact hread

/-! ### A greatest version that is none -/

/-- A plugin whose greatest version is a word. -/
def misspelled : Descriptor :=
  { name := "acme", minVersion := some "4.0", maxVersion := some "four" }

theorem word_not_readable : ¬Version.Readable "four" := by
  rw [Version.readable_iff_isOk]
  decide +kernel

/-- Hosts from its least version on meet the word, and lower ones do not. -/
theorem unread_reported_iff_misspelled :
    ¬misspelled.AllRead "4.1" ∧ ¬misspelled.Overlooks "4.1" ∧
      (∃ e, misspelled.AboutUnread "4.1" e ∧ ∀ s, misspelled.validate s "4.1" = .error e) ∧
      misspelled.Overlooks "3.7" ∧
      ∀ s, misspelled.validate s "3.7" = .error (.belowMinimum "acme" "4.0") := by
  have hleast : Version.parse "4.0" = .ok ⟨4, 0, 0, [], []⟩ := by decide +kernel
  have hnot : ¬misspelled.AllRead "4.1" := fun h => word_not_readable (h "four" (by decide))
  have hseen : ¬misspelled.Overlooks "4.1" := by
    rintro ⟨⟨h, text, least, hhost, ⟨⟩, hread, hlt⟩, -⟩
    have hhost' : Version.parse "4.1" = .ok ⟨4, 1, 0, [], []⟩ := by decide +kernel
    rw [hhost'] at hhost
    rw [hleast] at hread
    cases hhost
    cases hread
    revert hlt
    decide
  have hoverlooks : misspelled.Overlooks "3.7" := by
    refine ⟨⟨⟨3, 7, 0, [], []⟩, "4.0", _, by decide +kernel, rfl, hleast, by decide⟩, ?_⟩
    exact fun h => word_not_readable (boundReads_some_iff.mp h)
  obtain ⟨hvalidate, hreported, -⟩ := unread_reported_iff misspelled "4.1"
  obtain ⟨hvalidate', -, hbelow, -⟩ := unread_reported_iff misspelled "3.7"
  obtain ⟨e, hunread, hcheck⟩ := hreported.mpr ⟨hnot, hseen⟩
  obtain ⟨text, htext, hcheck'⟩ := hbelow hoverlooks
  obtain rfl : "4.0" = text := Option.some.inj htext
  have hlow : (ConfigurationError.belowMinimum misspelled.name "4.0").AboutVersions := trivial
  have hnone : e.AboutVersions := by
    obtain ⟨text, hmem, reason, hread, rfl⟩ := hunread
    trivial
  exact ⟨hnot, hseen, ⟨e, hunread, fun s => (hvalidate s e hnone).mpr hcheck⟩, hoverlooks,
    fun s => (hvalidate' s _ hlow).mpr hcheck'⟩

/-- The greatest version is none, but a host below the least one is only told
    that it is too low. -/
theorem unread_maximum_overlooked :
    misspelled.maxVersion = some "four" ∧ ¬Version.Readable "four" ∧
      misspelled.checkBounds "3.7" = .error (.belowMinimum "acme" "4.0") ∧
      ∀ s, ¬∃ plugin value reason,
        misspelled.validate s "3.7" = .error (.invalidVersion plugin value reason) := by
  have hcheck : misspelled.checkBounds "3.7" = .error (.belowMinimum "acme" "4.0") := by
    decide +kernel
  refine ⟨rfl, word_not_readable, hcheck, ?_⟩
  rintro s ⟨plugin, value, reason, hvalid⟩
  have habout : (ConfigurationError.invalidVersion plugin value reason).AboutVersions := trivial
  rw [validate_eq_error_iff_checkBounds habout, hcheck] at hvalid
  cases hvalid

end Descriptor

end PluginHost
