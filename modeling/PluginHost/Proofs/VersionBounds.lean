import PluginHost.Descriptor.Validation
import PluginHost.Proofs.VersionOrder

/-! # Which hosts a plugin accepts

    A plugin accepts the hosts from its least version to its greatest one, both
    included, in the order of versions.  The check reads the host, then the
    least version, then the greatest one, and each bound is compared before the
    next one is read; `boundsVerdict` says all that can come of it.

    Main theorem (`accepts_range`): the accepted hosts are those of a closed
    range.  So they have no gaps, an inverted range has none of them, and none
    is lost when a bound is relaxed. -/

namespace PluginHost

/-! ## Bounds -/

/-- The text can be read as a version. -/
def Version.Readable (text : String) : Prop := ∃ v, Version.parse text = .ok v

/-- What a text is read as, if it is a version. -/
def Version.reading (text : String) : Option Version := (Version.parse text).toOption

theorem Version.reading_eq_some_iff {text : String} {v : Version} :
    Version.reading text = some v ↔ Version.parse text = .ok v := by
  unfold Version.reading
  cases Version.parse text <;> simp [Except.toOption]

/-- A bound that is set is a version for which the condition holds. -/
def Bounded (bound : Option String) (inside : Version → Prop) : Prop :=
  ∀ text, bound = some text → ∃ v, Version.parse text = .ok v ∧ inside v

section

variable {bound bound' : Option String} {inside inside' : Version → Prop} {text : String}
  {v : Version}

theorem Bounded.read (h : Bounded (some text) inside) (hread : Version.parse text = .ok v) :
    inside v := by
  obtain ⟨w, hw, hinside⟩ := h text rfl
  rw [hread] at hw
  cases hw
  exact hinside

/-- Of a bound only what it is read as counts. -/
theorem Bounded.respelled (h : Bounded bound inside)
    (hsame : bound.map Version.reading = bound'.map Version.reading) : Bounded bound' inside := by
  intro text htext
  rw [htext, Option.map_some] at hsame
  obtain ⟨old, hold, hreading⟩ := Option.map_eq_some_iff.mp hsame
  obtain ⟨v, hv, hinside⟩ := h old hold
  rw [Version.reading_eq_some_iff.mpr hv] at hreading
  exact ⟨v, Version.reading_eq_some_iff.mp hreading.symm, hinside⟩

/-- Ways to ask for less with a bound: to leave it as it is, to drop it, or to
    replace it by a weaker version. -/
inductive Relaxed (weaker : Version → Version → Prop) (bound : Option String) :
    Option String → Prop where
  | same : Relaxed weaker bound bound
  | dropped : Relaxed weaker bound none
  | replaced {text text' : String} {v v' : Version} (hbound : bound = some text)
      (hread : Version.parse text = .ok v) (hread' : Version.parse text' = .ok v')
      (hweaker : weaker v v') : Relaxed weaker bound (some text')

theorem Bounded.relaxed {weaker : Version → Version → Prop} (h : Bounded bound inside)
    (hrelaxed : Relaxed weaker bound bound') (hkeeps : ∀ v v', weaker v v' → inside v → inside v') :
    Bounded bound' inside := by
  cases hrelaxed with
  | same => exact h
  | dropped => exact nofun
  | replaced hbound hread hread' hweaker =>
    subst hbound
    rintro _ ⟨⟩
    exact ⟨_, hread', hkeeps _ _ hweaker (h.read hread)⟩

end

/-! ## What a check can come to -/

namespace Descriptor

variable {d d' : Descriptor} {host : String} {h : Version} {e : ConfigurationError}

/-- What can come of the check of one bound. -/
inductive BoundVerdict (d : Descriptor) (bound : Option String) (inside : Version → Prop)
    (fault : String → ConfigurationError) : Except ConfigurationError Unit → Prop where
  | unread {text : String} {reason : Version.ParseError} (hbound : bound = some text)
      (hread : Version.parse text = .error reason) :
      BoundVerdict d bound inside fault (.error (.invalidVersion d.name text reason))
  | outside {text : String} {v : Version} (hbound : bound = some text)
      (hread : Version.parse text = .ok v) (hnot : ¬inside v) :
      BoundVerdict d bound inside fault (.error (fault text))
  | inside (hinside : Bounded bound inside) : BoundVerdict d bound inside fault (.ok ())

/-- The host is not below the least version. -/
def NotBelow (d : Descriptor) (h : Version) : Prop :=
  Bounded d.minVersion fun least => least.rank ≤ h.rank

/-- The host is not above the greatest version. -/
def NotAbove (d : Descriptor) (h : Version) : Prop :=
  Bounded d.maxVersion fun greatest => h.rank ≤ greatest.rank

/-- A check compares the host with its bound, once that is read. -/
theorem boundVerdict (d : Descriptor) (h : Version) (outside : Ordering) {bound : Option String}
    {inside : Version → Prop} {fault : String → ConfigurationError}
    {outcome : Except ConfigurationError Unit}
    (hinside : ∀ v, v.Identified → (h.compare v = outside ↔ ¬inside v))
    (hnone : bound = none → outcome = .ok ())
    (hsome : ∀ text, bound = some text → outcome = d.parseVersion text >>= fun v =>
      if h.compare v = outside then .error (fault text) else pure ()) :
    BoundVerdict d bound inside fault outcome := by
  cases hbound : bound with
  | none =>
    rw [hnone hbound]
    exact .inside nofun
  | some text =>
    rw [hsome text hbound, parseVersion]
    cases hread : Version.parse text with
    | error reason => exact .unread rfl hread
    | ok v =>
      show BoundVerdict d (some text) inside fault (if h.compare v = outside then _ else _)
      have hv := hinside v (Version.identified_of_parse hread)
      by_cases hout : h.compare v = outside
      · rw [if_pos hout]
        exact .outside rfl hread (hv.mp hout)
      · rw [if_neg hout]
        refine .inside ?_
        intro _ htext
        cases htext
        exact ⟨v, hread, not_not.mp (mt hv.mpr hout)⟩

theorem minimumVerdict (d : Descriptor) (hh : h.Identified) :
    BoundVerdict d d.minVersion (fun least => least.rank ≤ h.rank) (.belowMinimum d.name)
      (d.checkMinimum h) := by
  apply boundVerdict d h .lt
  · intro least hleast
    rw [not_le]
    exact (Version.compares_rank hh hleast).eq_lt
  · intro hbound
    simp only [checkMinimum, hbound]
  · intro text hbound
    simp only [checkMinimum, hbound]

theorem maximumVerdict (d : Descriptor) (hh : h.Identified) :
    BoundVerdict d d.maxVersion (fun greatest => h.rank ≤ greatest.rank) (.aboveMaximum d.name)
      (d.checkMaximum h) := by
  apply boundVerdict d h .gt
  · intro greatest hgreatest
    rw [not_le]
    exact (Version.compares_rank hh hgreatest).eq_gt
  · intro hbound
    simp only [checkMaximum, hbound]
  · intro text hbound
    simp only [checkMaximum, hbound]

/-- What can come of the whole check.  The greatest version is looked at only if
    the host is not below the least one. -/
inductive BoundsVerdict (d : Descriptor) (host : String) :
    Except ConfigurationError Unit → Prop where
  | unread {reason : Version.ParseError} (hhost : Version.parse host = .error reason) :
      BoundsVerdict d host (.error (.invalidVersion d.name host reason))
  | minimum {h : Version} {e : ConfigurationError} (hhost : Version.parse host = .ok h)
      (hmin : BoundVerdict d d.minVersion (fun least => least.rank ≤ h.rank)
        (.belowMinimum d.name) (.error e)) : BoundsVerdict d host (.error e)
  | maximum {h : Version} {e : ConfigurationError} (hhost : Version.parse host = .ok h)
      (hmin : d.NotBelow h)
      (hmax : BoundVerdict d d.maxVersion (fun greatest => h.rank ≤ greatest.rank)
        (.aboveMaximum d.name) (.error e)) : BoundsVerdict d host (.error e)
  | within {h : Version} (hhost : Version.parse host = .ok h) (hmin : d.NotBelow h)
      (hmax : d.NotAbove h) : BoundsVerdict d host (.ok ())

theorem boundsVerdict (d : Descriptor) (host : String) :
    d.BoundsVerdict host (d.checkBounds host) := by
  unfold checkBounds parseVersion
  cases hhost : Version.parse host with
  | error reason => exact .unread hhost
  | ok h =>
    have hh := Version.identified_of_parse hhost
    -- The second check is made only if the first one passes.
    show d.BoundsVerdict host (d.checkMinimum h >>= fun _ => d.checkMaximum h)
    have hmin := d.minimumVerdict hh
    cases hcheck : d.checkMinimum h with
    | error e =>
      rw [hcheck] at hmin
      exact .minimum hhost hmin
    | ok u =>
      rw [hcheck] at hmin
      show d.BoundsVerdict host (d.checkMaximum h)
      have hmax := d.maximumVerdict hh
      cases hmin with
      | inside hmin =>
        cases hcheck' : d.checkMaximum h with
        | error e =>
          rw [hcheck'] at hmax
          exact .maximum hhost hmin hmax
        | ok u =>
          rw [hcheck'] at hmax
          cases hmax with
          | inside hmax => exact .within hhost hmin hmax

theorem checkBounds_of_parse (hhost : Version.parse host = .ok h) :
    d.checkBounds host = d.checkMinimum h >>= fun _ => d.checkMaximum h := by
  unfold checkBounds parseVersion
  rw [hhost]
  rfl

theorem checkBounds_of_minimum_error (hhost : Version.parse host = .ok h)
    (hcheck : d.checkMinimum h = .error e) : d.checkBounds host = .error e := by
  rw [checkBounds_of_parse hhost, hcheck]
  rfl

/-- A host below the least version is turned away, whatever the greatest one
    is. -/
theorem checkBounds_of_below {text : String} {least : Version}
    (hhost : Version.parse host = .ok h) (hbound : d.minVersion = some text)
    (hread : Version.parse text = .ok least) (hlt : h.rank < least.rank) :
    d.checkBounds host = .error (.belowMinimum d.name text) := by
  apply checkBounds_of_minimum_error hhost
  have hcompare : h.compare least = .lt := (Version.compares_rank
    (Version.identified_of_parse hhost) (Version.identified_of_parse hread)).eq_lt.mpr hlt
  simp [checkMinimum, parseVersion, hbound, hread, hcompare, bind, Except.bind]

/-! ## Accepted hosts -/

/-- The host is a version between the bounds, which are versions too. -/
def Admits (d : Descriptor) (host : String) : Prop :=
  ∃ h, Version.parse host = .ok h ∧ d.NotBelow h ∧ d.NotAbove h

theorem BoundVerdict.not_bounded {bound : Option String} {inside : Version → Prop}
    {fault : String → ConfigurationError} (hv : BoundVerdict d bound inside fault (.error e)) :
    ¬Bounded bound inside := by
  intro hbounded
  cases hv with
  | unread hbound hread =>
    obtain ⟨v, hv, -⟩ := hbounded _ hbound
    rw [hread] at hv
    cases hv
  | outside hbound hread hnot =>
    rw [hbound] at hbounded
    exact hnot (hbounded.read hread)

/-- The greatest version is only read if the host is not below the least one. -/
theorem checkBounds_of_notBelow (hhost : Version.parse host = .ok h) (hmin : d.NotBelow h) :
    d.checkBounds host = d.checkMaximum h := by
  have hverdict := d.minimumVerdict (Version.identified_of_parse hhost)
  rw [checkBounds_of_parse hhost]
  cases hcheck : d.checkMinimum h with
  | ok u => rfl
  | error e =>
    rw [hcheck] at hverdict
    exact absurd hmin hverdict.not_bounded

theorem checkBounds_eq_ok_iff : d.checkBounds host = .ok () ↔ d.Admits host := by
  have hverdict := d.boundsVerdict host
  constructor
  · intro hok
    rw [hok] at hverdict
    cases hverdict with
    | within hhost hmin hmax => exact ⟨_, hhost, hmin, hmax⟩
  · rintro ⟨h, hhost, hmin, hmax⟩
    cases hcheck : d.checkBounds host with
    | ok u => rfl
    | error e =>
      rw [hcheck] at hverdict
      cases hverdict with
      | unread hhost' =>
        rw [hhost] at hhost'
        cases hhost'
      | minimum hhost' hmin' =>
        rw [hhost] at hhost'
        cases hhost'
        exact absurd hmin hmin'.not_bounded
      | maximum hhost' _ hmax' =>
        rw [hhost] at hhost'
        cases hhost'
        exact absurd hmax hmax'.not_bounded

/-- An admitted host lies between the bounds, whatever it is read as. -/
theorem Admits.read (ha : d.Admits host) (hhost : Version.parse host = .ok h) :
    d.NotBelow h ∧ d.NotAbove h := by
  obtain ⟨h', hhost', hmin, hmax⟩ := ha
  rw [hhost] at hhost'
  cases hhost'
  exact ⟨hmin, hmax⟩

theorem Admits.respelled {host' : String} (ha : d.Admits host)
    (hhost : Version.reading host = Version.reading host')
    (hmin : d.minVersion.map Version.reading = d'.minVersion.map Version.reading)
    (hmax : d.maxVersion.map Version.reading = d'.maxVersion.map Version.reading) :
    d'.Admits host' := by
  obtain ⟨h, hread, hbelow, habove⟩ := ha
  rw [Version.reading_eq_some_iff.mpr hread] at hhost
  exact ⟨h, Version.reading_eq_some_iff.mp hhost.symm, Bounded.respelled hbelow hmin,
    Bounded.respelled habove hmax⟩

/-- Between two accepted hosts all are accepted. -/
theorem Admits.between {h₁ h₂ h₃ : String} {v₁ v₂ v₃ : Version} (ha₁ : d.Admits h₁)
    (ha₃ : d.Admits h₃) (hread₁ : Version.parse h₁ = .ok v₁) (hread₂ : Version.parse h₂ = .ok v₂)
    (hread₃ : Version.parse h₃ = .ok v₃) (hle : v₁.rank ≤ v₂.rank) (hle' : v₂.rank ≤ v₃.rank) :
    d.Admits h₂ := by
  refine ⟨v₂, hread₂, ?_, ?_⟩
  · intro text htext
    obtain ⟨least, hleast, hbelow⟩ := (ha₁.read hread₁).1 text htext
    exact ⟨least, hleast, le_trans hbelow hle⟩
  · intro text htext
    obtain ⟨greatest, hgreatest, habove⟩ := (ha₃.read hread₃).2 text htext
    exact ⟨greatest, hgreatest, le_trans hle' habove⟩

/-- The bounds of a plugin that accepts a host are in order. -/
theorem Admits.bounds_le {lo hi : String} {least greatest : Version} (ha : d.Admits host)
    (hlo : d.minVersion = some lo) (hhi : d.maxVersion = some hi)
    (hleast : Version.parse lo = .ok least) (hgreatest : Version.parse hi = .ok greatest) :
    least.rank ≤ greatest.rank := by
  obtain ⟨h, -, hbelow, habove⟩ := ha
  unfold NotBelow at hbelow
  unfold NotAbove at habove
  rw [hlo] at hbelow
  rw [hhi] at habove
  exact le_trans (hbelow.read hleast) (habove.read hgreatest)

theorem Admits.relaxed (ha : d.Admits host)
    (hmin : Relaxed (fun least least' => least'.rank ≤ least.rank) d.minVersion d'.minVersion)
    (hmax : Relaxed (fun greatest greatest' => greatest.rank ≤ greatest'.rank)
      d.maxVersion d'.maxVersion) : d'.Admits host := by
  obtain ⟨h, hhost, hbelow, habove⟩ := ha
  refine ⟨h, hhost, Bounded.relaxed hbelow hmin ?_, Bounded.relaxed habove hmax ?_⟩
  · intro least least' hle hleast
    exact le_trans hle hleast
  · intro greatest greatest' hle hgreatest
    exact le_trans hgreatest hle

/-! ## Main theorem -/

/-- **Which hosts a plugin accepts.**  It accepts a host exactly if the host and
    the bounds are versions, and the host lies between the bounds in the order
    of their ranks.  This is the order by which versions are compared, and a
    total one, in which no two versions are level.  How they are spelled does
    not matter.
    There are no gaps between accepted hosts, none is accepted if the least
    version is above the greatest one, and all that are accepted still are when
    the bounds are relaxed. -/
theorem accepts_range :
    (∀ (d : Descriptor) (host : String), d.checkBounds host = .ok () ↔ d.Admits host) ∧
    (∀ (s t : String) (v w : Version), Version.parse s = .ok v → Version.parse t = .ok w →
      (v.compare w).Compares v.rank w.rank ∧ (v.rank = w.rank → v = w)) ∧
    (∀ (d d' : Descriptor) (host host' : String),
      Version.reading host = Version.reading host' →
      d.minVersion.map Version.reading = d'.minVersion.map Version.reading →
      d.maxVersion.map Version.reading = d'.maxVersion.map Version.reading →
      (d.checkBounds host = .ok () ↔ d'.checkBounds host' = .ok ())) ∧
    (∀ (d : Descriptor) (h₁ h₂ h₃ : String) (v₁ v₂ v₃ : Version),
      Version.parse h₁ = .ok v₁ → Version.parse h₂ = .ok v₂ → Version.parse h₃ = .ok v₃ →
      v₁.rank ≤ v₂.rank → v₂.rank ≤ v₃.rank →
      d.checkBounds h₁ = .ok () → d.checkBounds h₃ = .ok () → d.checkBounds h₂ = .ok ()) ∧
    (∀ (d : Descriptor) (lo hi : String) (least greatest : Version),
      d.minVersion = some lo → d.maxVersion = some hi →
      Version.parse lo = .ok least → Version.parse hi = .ok greatest →
      greatest.rank < least.rank → ∀ host, d.checkBounds host ≠ .ok ()) ∧
    (∀ d d' : Descriptor,
      Relaxed (fun least least' => least'.rank ≤ least.rank) d.minVersion d'.minVersion →
      Relaxed (fun greatest greatest' => greatest.rank ≤ greatest'.rank)
        d.maxVersion d'.maxVersion →
      ∀ host, d.checkBounds host = .ok () → d'.checkBounds host = .ok ()) := by
  refine ⟨fun _ _ => checkBounds_eq_ok_iff, ?_, ?_, ?_, ?_, ?_⟩
  · intro s t v w hparse hparse'
    have hv := Version.identified_of_parse hparse
    have hw := Version.identified_of_parse hparse'
    exact ⟨Version.compares_rank hv hw, Version.rank_injective hv hw⟩
  · intro d d' host host' hhost hmin hmax
    rw [checkBounds_eq_ok_iff, checkBounds_eq_ok_iff]
    exact ⟨fun ha => ha.respelled hhost hmin hmax,
      fun ha => ha.respelled hhost.symm hmin.symm hmax.symm⟩
  · intro d h₁ h₂ h₃ v₁ v₂ v₃ hread₁ hread₂ hread₃ hle hle' hok₁ hok₃
    rw [checkBounds_eq_ok_iff] at hok₁ hok₃ ⊢
    exact hok₁.between hok₃ hread₁ hread₂ hread₃ hle hle'
  · intro d lo hi least greatest hlo hhi hleast hgreatest hlt host hok
    rw [checkBounds_eq_ok_iff] at hok
    exact absurd (hok.bounds_le hlo hhi hleast hgreatest) (not_le.mpr hlt)
  · intro d d' hmin hmax host hok
    rw [checkBounds_eq_ok_iff] at hok ⊢
    exact hok.relaxed hmin hmax

/-- A plugin for the hosts from a pre-release on, up to a build. -/
def ranged : Descriptor where
  name := "acme"
  minVersion := some "v3.5-rc.9"
  maxVersion := some "4.1+build.7"

/-- The tenth candidate of a release and the release without a build are in the
    range, and so is a version between them, however it is spelled; the range
    the other way round has no host, and a wider one has at least these. -/
theorem accepts_range_ranged :
    ranged.Admits "3.5.0-rc.10" ∧ ranged.checkBounds " V3.9 " = .ok () ∧
      ranged.checkBounds "3.9.0" = .ok () ∧
      (∀ host, { ranged with
        minVersion := ranged.maxVersion, maxVersion := ranged.minVersion }.checkBounds host ≠
          .ok ()) ∧
      { ranged with minVersion := some "3.5-alpha", maxVersion := none }.checkBounds "3.9.0" =
        .ok () ∧
      ∀ v, Version.parse "v3.9" = .ok v → v.rank = (Version.mk 3 9 0 [] []).rank →
        v = ⟨3, 9, 0, [], []⟩ := by
  obtain ⟨hadmits, hsame, hrespelled, hbetween, hinverted, hrelaxed⟩ := accepts_range
  have hcandidate : Version.parse "3.5.0-rc.10" = .ok ⟨3, 5, 0, ["rc", "10"], []⟩ := by
    decide +kernel
  have hmiddle : Version.parse " V3.9 " = .ok ⟨3, 9, 0, [], []⟩ := by decide +kernel
  have hfull : Version.parse "3.9.0" = .ok ⟨3, 9, 0, [], []⟩ := by decide +kernel
  have hrelease : Version.parse "4.1" = .ok ⟨4, 1, 0, [], []⟩ := by decide +kernel
  have hleast : Version.parse "v3.5-rc.9" = .ok ⟨3, 5, 0, ["rc", "9"], []⟩ := by decide +kernel
  have hgreatest : Version.parse "4.1+build.7" = .ok ⟨4, 1, 0, [], ["build", "7"]⟩ := by
    decide +kernel
  have halpha : Version.parse "3.5-alpha" = .ok ⟨3, 5, 0, ["alpha"], []⟩ := by decide +kernel
  have hin : ranged.checkBounds " V3.9 " = .ok () :=
    hbetween ranged "3.5.0-rc.10" " V3.9 " "4.1" _ _ _ hcandidate hmiddle hrelease (by decide)
      (by decide) (by decide +kernel) (by decide +kernel)
  have hreading : Version.reading " V3.9 " = Version.reading "3.9.0" := by
    rw [Version.reading_eq_some_iff.mpr hmiddle, Version.reading_eq_some_iff.mpr hfull]
  have hin' : ranged.checkBounds "3.9.0" = .ok () :=
    (hrespelled ranged ranged _ _ hreading rfl rfl).mp hin
  refine ⟨(hadmits _ _).mp (by decide +kernel), hin, hin', ?_, ?_, ?_⟩
  · exact hinverted _ _ _ _ _ rfl rfl hgreatest hleast (by decide)
  · exact hrelaxed ranged _ (.replaced rfl hleast halpha (by decide)) .dropped _ hin'
  · intro v hv
    exact (hsame "v3.9" "3.9.0" v _ hv hfull).2

end Descriptor

end PluginHost
