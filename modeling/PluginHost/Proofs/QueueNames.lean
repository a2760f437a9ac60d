import PluginHost.Proofs.Loading

/-! # Names of queues

    A load collects the queues of the plugins with the plugin's name and a
    point in front.  Names of plugins are dotted, and names of queues may be:
    so the place where the one ends and the other begins cannot be seen, and
    the queues of two plugins can come by the same name.  That is so if the name
    of one plugin goes on where the other one's ends, and the other plugin has a
    queue that starts with the rest (`Clash`).

    Main theorem (`queues_dedicated_iff`): in no other case does a queue share
    its name with one of another plugin. -/

namespace PluginHost

open Toml (Settings)

/-! ## Joined names -/

/-- A name in the space of another one. -/
def qualify (space name : String) : String := space ++ "." ++ name

variable {p q a b : String}

theorem toList_qualify (space name : String) :
    (qualify space name).toList = space.toList ++ '.' :: name.toList := by
  simp [qualify]

theorem length_lt_qualify (space name : String) : space.length < (qualify space name).length := by
  rw [← String.length_toList, ← String.length_toList, toList_qualify, List.length_append,
    List.length_cons]
  omega

theorem point_mem_qualify (space name : String) : '.' ∈ (qualify space name).toList := by
  rw [toList_qualify]
  exact List.mem_append_right _ List.mem_cons_self

theorem qualify_assoc (p q a : String) : qualify (qualify p q) a = qualify p (qualify q a) := by
  unfold qualify
  simp only [String.append_assoc]

/-- If the names in two spaces are joined to the same name, and the first space
    is the shorter one, then the second space begins with it. -/
theorem eq_or_qualify_of_append {rest : List Char} (hq : q.toList = p.toList ++ rest)
    (h : '.' :: a.toList = rest ++ '.' :: b.toList) :
    (p = q ∧ a = b) ∨ ∃ s, q = qualify p s ∧ a = qualify s b := by
  cases rest with
  | nil =>
    left
    rw [List.append_nil] at hq
    exact ⟨(String.toList_inj.mp hq).symm, String.toList_inj.mp (List.cons.inj h).2⟩
  | cons c rest =>
    right
    obtain ⟨rfl, hrest⟩ := List.cons.inj h
    refine ⟨String.ofList rest, ?_, ?_⟩
    · apply String.toList_inj.mp
      rw [toList_qualify, String.toList_ofList, hq]
    · apply String.toList_inj.mp
      rw [toList_qualify, String.toList_ofList]
      exact hrest

/-- Where joined names can be split: only at one place, or the rest of the longer
    space is in front of the name in the shorter one. -/
theorem qualify_eq_qualify_iff :
    qualify p a = qualify q b ↔
      (p = q ∧ a = b) ∨ (∃ s, q = qualify p s ∧ a = qualify s b) ∨
        ∃ s, p = qualify q s ∧ b = qualify s a := by
  constructor
  · intro h
    have hlist := congrArg String.toList h
    rw [toList_qualify, toList_qualify, List.append_eq_append_iff] at hlist
    rcases hlist with ⟨rest, hq, ha⟩ | ⟨rest, hp, hb⟩
    · rcases eq_or_qualify_of_append hq ha with hsame | hlonger
      · exact .inl hsame
      · exact .inr (.inl hlonger)
    · rcases eq_or_qualify_of_append hp hb with ⟨rfl, rfl⟩ | hlonger
      · exact .inl ⟨rfl, rfl⟩
      · exact .inr (.inr hlonger)
  · rintro (⟨rfl, rfl⟩ | ⟨s, rfl, rfl⟩ | ⟨s, rfl, rfl⟩)
    · rfl
    · exact (qualify_assoc p s b).symm
    · exact qualify_assoc q s a

/-! ## Queues of two plugins -/

/-- Some queues of the plugins come by the same name: the name of `p` goes on
    where that of `q` ends, and `q` has a queue that starts with the rest and
    goes on as one of `p`. -/
def Clash (p q : Plugin) : Prop :=
  ∃ rest, p.name = qualify q.name rest ∧
    ∃ queue ∈ p.descriptor.queues, qualify rest queue ∈ q.descriptor.queues

/-- No queue of the one plugin has the name of one of the other. -/
def QueuesApart (p q : Plugin) : Prop :=
  ∀ a ∈ p.descriptor.queues, ∀ b ∈ q.descriptor.queues, qualify p.name a ≠ qualify q.name b

section

variable {p q : Plugin}

theorem Clash.name_ne (h : Clash p q) : p.name ≠ q.name := by
  obtain ⟨rest, hname, -⟩ := h
  have hlength := length_lt_qualify q.name rest
  rw [← hname] at hlength
  intro heq
  rw [heq] at hlength
  exact Nat.lt_irrefl _ hlength

theorem queuesApart_iff (hname : p.name ≠ q.name) : QueuesApart p q ↔ ¬Clash p q ∧ ¬Clash q p := by
  constructor
  · intro hapart
    constructor
    · rintro ⟨rest, hrest, queue, hqueue, hother⟩
      apply hapart queue hqueue _ hother
      rw [hrest, qualify_assoc]
    · rintro ⟨rest, hrest, queue, hqueue, hother⟩
      apply hapart _ hother queue hqueue
      rw [hrest, qualify_assoc]
  · rintro ⟨hpq, hqp⟩ a ha b hb heq
    rcases qualify_eq_qualify_iff.mp heq with ⟨hsame, -⟩ | ⟨rest, hrest, rfl⟩ | ⟨rest, hrest, rfl⟩
    · exact hname hsame
    · exact hqp ⟨rest, hrest, b, hb, ha⟩
    · exact hpq ⟨rest, hrest, a, ha, hb⟩

/-- Queues without points in their names do not clash. -/
theorem not_clash_of_queues (h : ∀ queue ∈ q.descriptor.queues, '.' ∉ queue.toList) :
    ¬Clash p q := by
  rintro ⟨rest, -, queue, -, hother⟩
  exact h _ hother (point_mem_qualify rest queue)

/-- Neither do those of a plugin without a point in its name and of others. -/
theorem not_clash_of_name (h : '.' ∉ p.name.toList) : ¬Clash p q := by
  rintro ⟨rest, hname, -⟩
  rw [hname] at h
  exact h (point_mem_qualify q.name rest)

end

/-! ## Main theorem -/

namespace Loader

variable {l : Loader} {enabled : List String} {config : Table Settings} {loaded : Loaded}

/-- **Queues of different plugins.**  A load collects the queues of the enabled
    plugins under joined names.  No queue shares its name with one of another
    enabled plugin exactly if no two of these plugins clash.  They never do if
    there are no points in the names of the queues, or none in those of the
    plugins. -/
theorem queues_dedicated_iff (h : (l.load enabled config).outcome = .ok loaded) :
    loaded.queues = (l.enabledPlugins enabled).flatMap
      (fun p => p.descriptor.queues.map (qualify p.name)) ∧
    ((∀ p ∈ l.enabledPlugins enabled, ∀ q ∈ l.enabledPlugins enabled, p ≠ q → QueuesApart p q) ↔
      ∀ p ∈ l.enabledPlugins enabled, ∀ q ∈ l.enabledPlugins enabled, ¬Clash p q) ∧
    ((∀ p ∈ l.enabledPlugins enabled, ∀ queue ∈ p.descriptor.queues, '.' ∉ queue.toList) →
      ∀ p ∈ l.enabledPlugins enabled, ∀ q ∈ l.enabledPlugins enabled, ¬Clash p q) ∧
    ((∀ p ∈ l.enabledPlugins enabled, '.' ∉ p.name.toList) →
      ∀ p ∈ l.enabledPlugins enabled, ∀ q ∈ l.enabledPlugins enabled, ¬Clash p q) := by
  obtain ⟨plugins, hselect, hready, rfl⟩ := load_ok h
  obtain ⟨-, hplugins⟩ := loadable_of_selected hselect hready
  rw [enabledPlugins_of_selected hplugins]
  refine ⟨rfl, ⟨?_, ?_⟩, ?_, ?_⟩
  · intro hapart p hp q hq hclash
    have hne : p ≠ q := fun heq => hclash.name_ne (congrArg Plugin.name heq)
    exact ((queuesApart_iff hclash.name_ne).mp (hapart p hp q hq hne)).1 hclash
  · intro hnone p hp q hq hne
    have hname : p.name ≠ q.name := fun hname => hne (eq_of_selected hplugins hp hq hname)
    exact (queuesApart_iff hname).mpr ⟨hnone p hp q hq, hnone q hq p hp⟩
  · intro hqueues p _ q hq
    exact not_clash_of_queues (hqueues q hq)
  · intro hnames p hp q _
    exact not_clash_of_name (hnames p hp)

/-! ### Plugins of one vendor -/

/-- A plugin of the vendor, and one in its name space. -/
def vendorHost (queue : String) : Loader :=
  ⟨"4.1.0", [⟨{ name := "vendor", queues := [queue] }, []⟩,
    ⟨{ name := "vendor.beta", queues := ["jobs"] }, []⟩]⟩

/-- Both plugins have queues of their own as long as there is no point in the
    name of the first one's. -/
theorem queues_dedicated_iff_vendor :
    ∃ loaded, ((vendorHost "beta").load ["vendor", "vendor.beta"] Table.empty).outcome =
        .ok loaded ∧
      loaded.queues = ["vendor.beta", "vendor.beta.jobs"] ∧
      ∀ p ∈ (vendorHost "beta").enabledPlugins ["vendor", "vendor.beta"],
        ∀ q ∈ (vendorHost "beta").enabledPlugins ["vendor", "vendor.beta"],
          p ≠ q → QueuesApart p q := by
  have hload : ((vendorHost "beta").load ["vendor", "vendor.beta"] Table.empty).outcome =
      .ok _ := rfl
  obtain ⟨-, hdedicated, hqueues, -⟩ := queues_dedicated_iff hload
  have hplugins : (vendorHost "beta").enabledPlugins ["vendor", "vendor.beta"] =
      (vendorHost "beta").plugins := rfl
  refine ⟨_, hload, by decide, hdedicated.mpr (hqueues ?_)⟩
  rw [hplugins, vendorHost]
  simp

/-- With a point in its name, the queue is one with that of the other plugin. -/
theorem queue_shared :
    ∃ loaded, ((vendorHost "beta.jobs").load ["vendor", "vendor.beta"] Table.empty).outcome =
        .ok loaded ∧
      loaded.queues = ["vendor.beta.jobs", "vendor.beta.jobs"] ∧
      ∃ p ∈ (vendorHost "beta.jobs").enabledPlugins ["vendor", "vendor.beta"],
        ∃ q ∈ (vendorHost "beta.jobs").enabledPlugins ["vendor", "vendor.beta"],
          p.name = "vendor" ∧ q.name = "vendor.beta" ∧
            ∃ a ∈ p.descriptor.queues, ∃ b ∈ q.descriptor.queues,
              qualify p.name a = qualify q.name b := by
  refine ⟨_, rfl, by decide, ?_⟩
  refine ⟨_, List.mem_cons_self, _, List.mem_cons_of_mem _ List.mem_cons_self, rfl, rfl, ?_⟩
  exact ⟨_, List.mem_cons_self, _, List.mem_cons_self, by decide⟩

end Loader

end PluginHost
