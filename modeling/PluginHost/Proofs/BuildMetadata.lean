import PluginHost.Proofs.VersionBounds

/-! # What builds count for

    Versions are ordered by their numbers and their pre-release (`precedence`),
    in which builds have no part.  But the order by which a host is compared
    with its bounds goes on: of two versions that are level, the one with the
    lower build comes first (`rank_le_iff`).  So builds decide about a host that
    is level with a bound, and about no other.

    Main theorem (`builds_count_when_level`): two hosts that differ in nothing
    but their builds are treated alike exactly if the builds of the bounds that
    they are level with do not tell them apart, and so are two bounds. -/

namespace PluginHost

variable {a a' b b' v w : Version}

/-! ## Precedence -/

namespace Version

/-- The order of precedence, from the part that counts most to the one that
    counts least. -/
abbrev Precedence : Type := ℕ ×ₗ ℕ ×ₗ ℕ ×ₗ WithTop (List (ℕ ⊕ₗ String))

/-- What counts of a version without its build. -/
def precedence (v : Version) : Precedence :=
  toLex (v.major, toLex (v.minor, toLex (v.patch, preRank v.pre)))

/-- The versions differ in their builds at most. -/
def SameButBuild (v w : Version) : Prop := { v with build := [] } = { w with build := [] }

instance (v w : Version) : Decidable (SameButBuild v w) :=
  inferInstanceAs (Decidable (_ = _))

/-- Precedence decides first, and then the builds do. -/
theorem rank_le_iff :
    v.rank ≤ w.rank ↔ v.precedence < w.precedence ∨
      v.precedence = w.precedence ∧ buildRank v.build ≤ buildRank w.build := by
  simp only [rank, precedence, Prod.Lex.toLex_le_toLex, Prod.Lex.toLex_lt_toLex, toLex_inj,
    Prod.mk.injEq]
  tauto

theorem SameButBuild.precedence_eq (h : SameButBuild v w) : v.precedence = w.precedence := by
  show precedence { v with build := [] } = precedence { w with build := [] }
  exact congrArg precedence h

/-- Versions of the same precedence only differ in their builds. -/
theorem precedence_eq_iff (hv : Identified v) (hw : Identified w) :
    v.precedence = w.precedence ↔ SameButBuild v w := by
  refine ⟨?_, SameButBuild.precedence_eq⟩
  intro h
  have hv' : Identified { v with build := [] } := ⟨hv.pre, nofun⟩
  have hw' : Identified { w with build := [] } := ⟨hw.pre, nofun⟩
  apply rank_injective hv' hw'
  exact le_antisymm (rank_le_iff.mpr (.inr ⟨h, le_refl _⟩))
    (rank_le_iff.mpr (.inr ⟨h.symm, le_refl _⟩))

/-- If the versions `a` and `b` are level, it makes no difference to put `a'`
    and `b'` in their place. -/
def BuildsAgree (a b a' b' : Version) : Prop :=
  SameButBuild a b →
    (buildRank a.build ≤ buildRank b.build ↔ buildRank a'.build ≤ buildRank b'.build)

instance (a b a' b' : Version) : Decidable (BuildsAgree a b a' b') :=
  inferInstanceAs (Decidable (_ → _))

/-- New builds keep two versions in order exactly if they do so when the
    versions are level. -/
theorem rank_le_congr_iff (ha : Identified a) (hb : Identified b) (haa : SameButBuild a a')
    (hbb : SameButBuild b b') :
    (a.rank ≤ b.rank ↔ a'.rank ≤ b'.rank) ↔ BuildsAgree a b a' b' := by
  rw [rank_le_iff, rank_le_iff, ← haa.precedence_eq, ← hbb.precedence_eq, BuildsAgree,
    ← precedence_eq_iff ha hb]
  by_cases hlevel : a.precedence = b.precedence
  · simp [hlevel]
  · simp [hlevel]

end Version

open Version (SameButBuild BuildsAgree buildRank)

/-! ## One bound -/

section

variable {bound : Option String} {text : String} {inside inside' : Version → Prop}

theorem bounded_some_iff (hread : Version.parse text = .ok v) :
    Bounded (some text) inside ↔ inside v := by
  constructor
  · intro h
    exact h.read hread
  · intro h _ htext
    cases htext
    exact ⟨v, hread, h⟩

/-- Two conditions on a bound come to the same if they do so for the version
    that it is read as. -/
theorem bounded_congr_iff :
    (Bounded bound inside ↔ Bounded bound inside') ↔
      ∀ text v, bound = some text → Version.parse text = .ok v → (inside v ↔ inside' v) := by
  constructor
  · rintro h text v rfl hread
    rwa [bounded_some_iff hread, bounded_some_iff hread] at h
  · intro h
    constructor
    · intro hbounded text htext
      obtain ⟨v, hread, hinside⟩ := hbounded text htext
      exact ⟨v, hread, (h text v htext hread).mp hinside⟩
    · intro hbounded text htext
      obtain ⟨v, hread, hinside⟩ := hbounded text htext
      exact ⟨v, hread, (h text v htext hread).mpr hinside⟩

end

namespace Descriptor

variable {d : Descriptor} {bound : Option String} {inside inside' : Version → Prop}
  {fault : String → ConfigurationError} {outcome outcome' : Except ConfigurationError Unit}
  {host host' text text' : String} {h h' least least' greatest greatest' : Version}

theorem BoundVerdict.eq_ok_iff (hv : BoundVerdict d bound inside fault outcome) :
    outcome = .ok () ↔ Bounded bound inside := by
  cases outcome with
  | error e => exact ⟨nofun, fun hbounded => absurd hbounded hv.not_bounded⟩
  | ok u =>
    cases hv with
    | inside hinside => exact ⟨fun _ => hinside, fun _ => rfl⟩

/-- The check of a bound comes to the same for hosts that are on the same side
    of it. -/
theorem BoundVerdict.eq_iff (hv : BoundVerdict d bound inside fault outcome)
    (hv' : BoundVerdict d bound inside' fault outcome') :
    outcome = outcome' ↔ (Bounded bound inside ↔ Bounded bound inside') := by
  constructor
  · intro heq
    rw [← hv.eq_ok_iff, ← hv'.eq_ok_iff, heq]
  · intro hiff
    cases hv with
    | inside hinside => exact (hv'.eq_ok_iff.mpr (hiff.mp hinside)).symm
    | unread hbound hread =>
      cases hv' with
      | inside hinside =>
        obtain ⟨v, hv, -⟩ := hinside _ hbound
        rw [hread] at hv
        cases hv
      | unread hbound' hread' =>
        cases hbound.symm.trans hbound'
        cases hread.symm.trans hread'
        rfl
      | outside hbound' hread' =>
        cases hbound.symm.trans hbound'
        cases hread.symm.trans hread'
    | outside hbound hread hnot =>
      cases hv' with
      | inside hinside =>
        rw [hbound] at hiff hinside
        exact absurd ((hiff.mpr hinside).read hread) hnot
      | unread hbound' hread' =>
        cases hbound.symm.trans hbound'
        cases hread.symm.trans hread'
      | outside hbound' hread' =>
        cases hbound.symm.trans hbound'
        rfl

/-! ## The whole check -/

theorem checkBounds_eq_ok_iff_of_parse (hhost : Version.parse host = .ok h) :
    d.checkBounds host = .ok () ↔ d.NotBelow h ∧ d.NotAbove h := by
  rw [checkBounds_eq_ok_iff]
  exact ⟨fun ha => ha.read hhost, fun ha => ⟨h, hhost, ha⟩⟩

/-- One of two hosts is below the least version. -/
theorem checkBounds_ne_of_notBelow (hhost : Version.parse host = .ok h)
    (hhost' : Version.parse host' = .ok h') (hmin : d.NotBelow h) (hmin' : ¬d.NotBelow h') :
    d.checkBounds host ≠ d.checkBounds host' := by
  obtain ⟨text, hbound⟩ : ∃ text, d.minVersion = some text := by
    rw [← Option.ne_none_iff_exists']
    intro hnone
    exact hmin' fun text htext => by rw [hnone] at htext; cases htext
  obtain ⟨least, hread, -⟩ := hmin text hbound
  have hlt : h'.rank < least.rank := by
    rw [NotBelow, hbound, bounded_some_iff hread] at hmin'
    exact not_le.mp hmin'
  rw [checkBounds_of_below hhost' hbound hread hlt, checkBounds_of_notBelow hhost hmin]
  have hverdict := d.maximumVerdict (Version.identified_of_parse hhost)
  intro heq
  rw [heq] at hverdict
  cases hverdict

/-- Two hosts are treated alike if they are on the same sides of the bounds.
    The greatest version does not matter to hosts below the least one. -/
theorem checkBounds_eq_iff (hhost : Version.parse host = .ok h)
    (hhost' : Version.parse host' = .ok h') :
    d.checkBounds host = d.checkBounds host' ↔
      (d.NotBelow h ↔ d.NotBelow h') ∧ (d.NotBelow h → (d.NotAbove h ↔ d.NotAbove h')) := by
  have hh := Version.identified_of_parse hhost
  have hh' := Version.identified_of_parse hhost'
  by_cases hmin : d.NotBelow h
  · by_cases hmin' : d.NotBelow h'
    · rw [checkBounds_of_notBelow hhost hmin, checkBounds_of_notBelow hhost' hmin',
        (d.maximumVerdict hh).eq_iff (d.maximumVerdict hh')]
      simp only [hmin, hmin', NotAbove, true_and, forall_const]
    · have hne := checkBounds_ne_of_notBelow hhost hhost' hmin hmin'
      simp [hmin, hmin', hne]
  · by_cases hmin' : d.NotBelow h'
    · have hne := checkBounds_ne_of_notBelow hhost' hhost hmin' hmin
      simp [hmin, hmin', hne.symm]
    · -- Both hosts are turned away by the same least version.
      have hverdict := d.minimumVerdict hh
      have hsame := (hverdict.eq_iff (d.minimumVerdict hh')).mpr (iff_of_false hmin hmin')
      cases hcheck : d.checkMinimum h with
      | ok u => exact absurd (hverdict.eq_ok_iff.mp hcheck) hmin
      | error e =>
        rw [checkBounds_of_minimum_error hhost hcheck,
          checkBounds_of_minimum_error hhost' (hsame.symm.trans hcheck)]
        simp [hmin, hmin']

/-- Of hosts that differ in their builds, the ones that are level with a bound
    are on the same side of it if the builds say so. -/
theorem notBelow_congr_iff (hh : h.Identified) (hsame : SameButBuild h h') :
    (d.NotBelow h ↔ d.NotBelow h') ↔
      ∀ text least, d.minVersion = some text → Version.parse text = .ok least →
        BuildsAgree least h least h' := by
  rw [NotBelow, NotBelow, bounded_congr_iff]
  refine forall₄_congr fun text least _ hread => ?_
  exact Version.rank_le_congr_iff (Version.identified_of_parse hread) hh rfl hsame

theorem notAbove_congr_iff (hh : h.Identified) (hsame : SameButBuild h h') :
    (d.NotAbove h ↔ d.NotAbove h') ↔
      ∀ text greatest, d.maxVersion = some text → Version.parse text = .ok greatest →
        BuildsAgree h greatest h' greatest := by
  rw [NotAbove, NotAbove, bounded_congr_iff]
  refine forall₄_congr fun text greatest _ hread => ?_
  exact Version.rank_le_congr_iff hh (Version.identified_of_parse hread) hsame rfl

/-- A host that is none is refused whatever the bounds are. -/
theorem accepted_congr_iff {d' : Descriptor} {agree : Version → Prop}
    (h : ∀ h, Version.parse host = .ok h →
      ((d.NotBelow h ∧ d.NotAbove h ↔ d'.NotBelow h ∧ d'.NotAbove h) ↔ agree h)) :
    (d.checkBounds host = .ok () ↔ d'.checkBounds host = .ok ()) ↔
      ∀ h, Version.parse host = .ok h → agree h := by
  cases hhost : Version.parse host with
  | error reason =>
    have hrefused : ∀ d : Descriptor, d.checkBounds host ≠ .ok () := by
      intro d hok
      obtain ⟨h, hh, -⟩ := checkBounds_eq_ok_iff.mp hok
      rw [hhost] at hh
      cases hh
    exact iff_of_true (iff_of_false (hrefused d) (hrefused d')) nofun
  | ok v =>
    rw [checkBounds_eq_ok_iff_of_parse hhost, checkBounds_eq_ok_iff_of_parse hhost, h v hhost]
    constructor
    · rintro hagree _ ⟨⟩
      exact hagree
    · intro hagree
      exact hagree v rfl

/-! ## Main theorem -/

/-- **Builds count when versions are level.**  Versions are compared by their
    precedence, and then by their builds.
    Hosts that differ in their builds get the same answer exactly if the builds
    of both are on the same side of that of each bound with which they are
    level; the greatest version only counts for hosts that are not below the
    least one.
    To give a bound another build changes nothing for a host exactly if both
    builds are on the same side of the host's, in case that the host is level
    with the bound and the other bound admits it. -/
theorem builds_count_when_level (d : Descriptor) (host : String) :
    (∀ (s t : String) (v w : Version), Version.parse s = .ok v → Version.parse t = .ok w →
      (v.rank ≤ w.rank ↔ v.precedence < w.precedence ∨
        SameButBuild v w ∧ buildRank v.build ≤ buildRank w.build)) ∧
    (∀ (host' : String) (h h' : Version),
      Version.parse host = .ok h → Version.parse host' = .ok h' → SameButBuild h h' →
      (d.checkBounds host = d.checkBounds host' ↔
        (∀ text least, d.minVersion = some text → Version.parse text = .ok least →
          BuildsAgree least h least h') ∧
        (d.NotBelow h → ∀ text greatest, d.maxVersion = some text →
          Version.parse text = .ok greatest → BuildsAgree h greatest h' greatest))) ∧
    (∀ (text text' : String) (least least' : Version),
      d.minVersion = some text → Version.parse text = .ok least →
      Version.parse text' = .ok least' → SameButBuild least least' →
      ((d.checkBounds host = .ok () ↔
          { d with minVersion := some text' }.checkBounds host = .ok ()) ↔
        ∀ h, Version.parse host = .ok h → d.NotAbove h → BuildsAgree least h least' h)) ∧
    (∀ (text text' : String) (greatest greatest' : Version),
      d.maxVersion = some text → Version.parse text = .ok greatest →
      Version.parse text' = .ok greatest' → SameButBuild greatest greatest' →
      ((d.checkBounds host = .ok () ↔
          { d with maxVersion := some text' }.checkBounds host = .ok ()) ↔
        ∀ h, Version.parse host = .ok h → d.NotBelow h →
          BuildsAgree h greatest h greatest')) := by
  refine ⟨?_, ?_, ?_, ?_⟩
  · intro s t v w hs ht
    rw [Version.rank_le_iff, Version.precedence_eq_iff (Version.identified_of_parse hs)
      (Version.identified_of_parse ht)]
  · intro host' h h' hhost hhost' hsame
    have hh := Version.identified_of_parse hhost
    rw [checkBounds_eq_iff hhost hhost', notBelow_congr_iff hh hsame, notAbove_congr_iff hh hsame]
  · intro text text' least least' hbound hread hread' hsame
    refine accepted_congr_iff fun h hhost => ?_
    have hh := Version.identified_of_parse hhost
    have hsides : (d.NotBelow h ↔ { d with minVersion := some text' }.NotBelow h) ↔
        BuildsAgree least h least' h := by
      rw [NotBelow, NotBelow, hbound, bounded_some_iff hread, bounded_some_iff hread']
      exact Version.rank_le_congr_iff (Version.identified_of_parse hread) hh hsame rfl
    -- The greatest version is the same.
    exact and_congr_left_iff.trans (imp_congr_right fun _ => hsides)
  · intro text text' greatest greatest' hbound hread hread' hsame
    refine accepted_congr_iff fun h hhost => ?_
    have hh := Version.identified_of_parse hhost
    have hsides : (d.NotAbove h ↔ { d with maxVersion := some text' }.NotAbove h) ↔
        BuildsAgree h greatest h greatest' := by
      rw [NotAbove, NotAbove, hbound, bounded_some_iff hread, bounded_some_iff hread']
      exact Version.rank_le_congr_iff hh (Version.identified_of_parse hread) rfl hsame
    -- The least version is the same.
    exact and_congr_right_iff.trans (imp_congr_right fun _ => hsides)

/-! ### A bound with a build, and one without -/

/-- A plugin with builds in both of its bounds. -/
def builtRange : Descriptor :=
  { name := "acme", minVersion := some "3.5+5", maxVersion := some "4.0+7" }

/-- The builds of two hosts are below that of the greatest version, so they are
    treated alike.  A host on the least version is lost when the build of that
    is raised above the host's. -/
theorem builds_count_when_level_range :
    Version.parse "4.0+1" = .ok ⟨4, 0, 0, [], ["1"]⟩ ∧
      Version.parse "v4+6" = .ok ⟨4, 0, 0, [], ["6"]⟩ ∧
      SameButBuild ⟨4, 0, 0, [], ["1"]⟩ ⟨4, 0, 0, [], ["6"]⟩ ∧
      builtRange.checkBounds "4.0+1" = builtRange.checkBounds "v4+6" ∧
      Version.parse "3.5+5" = .ok ⟨3, 5, 0, [], ["5"]⟩ ∧
      Version.parse "3.5+9" = .ok ⟨3, 5, 0, [], ["9"]⟩ ∧
      ¬(builtRange.checkBounds "3.5+7" = .ok () ↔
        { builtRange with minVersion := some "3.5+9" }.checkBounds "3.5+7" = .ok ()) := by
  obtain ⟨-, hhosts, -⟩ := builds_count_when_level builtRange "4.0+1"
  obtain ⟨-, -, hminimum, -⟩ := builds_count_when_level builtRange "3.5+7"
  have hlow : Version.parse "4.0+1" = .ok ⟨4, 0, 0, [], ["1"]⟩ := by decide +kernel
  have hhigh : Version.parse "v4+6" = .ok ⟨4, 0, 0, [], ["6"]⟩ := by decide +kernel
  have hleast : Version.parse "3.5+5" = .ok ⟨3, 5, 0, [], ["5"]⟩ := by decide +kernel
  have hraised : Version.parse "3.5+9" = .ok ⟨3, 5, 0, [], ["9"]⟩ := by decide +kernel
  have hgreatest : Version.parse "4.0+7" = .ok ⟨4, 0, 0, [], ["7"]⟩ := by decide +kernel
  have hmiddle : Version.parse "3.5+7" = .ok ⟨3, 5, 0, [], ["7"]⟩ := by decide +kernel
  refine ⟨hlow, hhigh, by decide, ?_, hleast, hraised, ?_⟩
  · refine (hhosts _ _ _ hlow hhigh (by decide)).mpr ⟨?_, ?_⟩
    · rintro _ least ⟨⟩ hread
      rw [hleast] at hread
      cases hread
      decide
    · rintro - _ greatest ⟨⟩ hread
      rw [hgreatest] at hread
      cases hread
      decide
  · intro hsame
    rw [hminimum "3.5+5" "3.5+9" _ _ rfl hleast hraised (by decide)] at hsame
    have hadmits : builtRange.NotAbove ⟨3, 5, 0, [], ["7"]⟩ := by
      rintro _ ⟨⟩
      exact ⟨_, hgreatest, by decide⟩
    exact absurd (hsame _ hmiddle hadmits) (by decide)

/-- A plugin for hosts up to a release. -/
def upToRelease : Descriptor := { name := "acme", maxVersion := some "4.0.0" }

/-- The release itself is accepted, but a build of it is refused, unless the
    bound has a build too. -/
theorem build_refused_at_maximum :
    Version.parse "4.0.0" = .ok ⟨4, 0, 0, [], []⟩ ∧
      Version.parse "4.0.0+local" = .ok ⟨4, 0, 0, [], ["local"]⟩ ∧
      SameButBuild ⟨4, 0, 0, [], []⟩ ⟨4, 0, 0, [], ["local"]⟩ ∧
      upToRelease.checkBounds "4.0.0" = .ok () ∧
      upToRelease.checkBounds "4.0.0+local" = .error (.aboveMaximum "acme" "4.0.0") ∧
      { upToRelease with maxVersion := some "4.0.0+local" }.checkBounds "4.0.0+local" = .ok () :=
  ⟨by decide +kernel, by decide +kernel, by decide, by decide +kernel, by decide +kernel,
    by decide +kernel⟩

end Descriptor

end PluginHost
