import FacetBrowser.Proofs.Arena
import FacetBrowser.Proofs.Level
import Mathlib.Data.List.Nodup
import Mathlib.Data.List.Perm.Basic

namespace FacetBrowser.Course

structure Sound (c : Course) : Prop where
  tree : c.browser.tree.WellFormed
  levelled : ∀ {i : Nat} {n : Node}, c.browser.node? i = some n → n.Levelled c.browser.facets
  root : ∀ {n : Node}, c.browser.node? 0 = some n →
    n.stage ≠ .collapsed ∧ (c.browser.seeded = false → n.stage = .loading)
  nodup : (c.outstanding.map (·.node)).Nodup
  awaited : ∀ {i : Nat} {n : Node}, c.browser.node? i = some n →
    ((n.stage = .loading ∧ (i = 0 → c.browser.seeded = true)) ↔
      i ∈ c.outstanding.map (·.node))
  suits : ∀ {fetch : Fetch}, fetch ∈ c.outstanding → ∃ n,
    c.browser.node? fetch.node = some n ∧ n.stage = .loading ∧
      fetch.question.Suits c.browser.facets n

variable {c c' : Course} {m : Move}

theorem nodes_perm_erase {fetch : Fetch} {fetches : List Fetch} (hf : fetch ∈ fetches) :
    (fetches.map (·.node)).Perm (fetch.node :: (fetches.erase fetch).map (·.node)) :=
  (List.perm_cons_erase hf).map (·.node)

theorem Sound.nodup_erase (h : c.Sound) {fetch : Fetch} (hf : fetch ∈ c.outstanding) :
    fetch.node ∉ (c.outstanding.erase fetch).map (·.node) ∧
      ((c.outstanding.erase fetch).map (·.node)).Nodup :=
  List.nodup_cons.mp ((nodes_perm_erase hf).nodup_iff.mp h.nodup)

theorem sound_new (facets : Facets) : (new facets).Sound where
  tree := Tree.seedling_wellFormed
  levelled := by
    intro i n h
    obtain ⟨rfl, rfl⟩ := Tree.node?_seedling h
    exact .of_plain (n := .root) (s := .loading) (Nat.zero_le _) (by simp) (by simp)
  root := by
    intro n h
    obtain rfl := Option.some.inj h
    exact ⟨by simp [Node.root], fun _ => rfl⟩
  nodup := List.nodup_nil
  awaited := by
    intro i n h
    obtain ⟨rfl, -⟩ := Tree.node?_seedling h
    simp [new, Browser.new]
  suits := fun h => absurd h List.not_mem_nil

theorem sound_seed (h : c.Sound) (hs : c.browser.seeded = false) :
    Sound ⟨{ c.browser with seeded := true }, c.outstanding ++ [⟨0, .root⟩]⟩ := by
  obtain ⟨stage, hroot⟩ := h.tree.root
  have hloading := (h.root hroot).2 hs
  have hnot : 0 ∉ c.outstanding.map (·.node) := by
    intro hmem
    cases hs.symm.trans (((h.awaited hroot).mpr hmem).2 rfl)
  refine ⟨h.tree, h.levelled, fun hn => ⟨(h.root hn).1, by simp⟩, ?_, ?_, ?_⟩
  · rw [List.map_append]
    exact List.nodup_append.mpr ⟨h.nodup, by simp, by simpa using hnot⟩
  · intro i n hn
    simp only [List.map_append, List.mem_append, ← h.awaited hn, hs]
    by_cases hi : i = 0
    · subst hi
      have hl := (h.root hn).2 hs
      simp [hl]
    · simp [hi]
  · intro fetch hf
    rcases List.mem_append.mp hf with hf | hf
    · exact h.suits hf
    · obtain rfl := List.mem_singleton.mp hf
      exact ⟨_, hroot, hloading, rfl⟩

theorem Sound.not_mem_of_stage (h : c.Sound) {i : Nat} {n : Node}
    (hn : c.browser.node? i = some n) (hs : n.stage ≠ .loading) :
    i ∉ c.outstanding.map (·.node) := by
  intro hi
  exact hs ((h.awaited hn).mpr hi).1

theorem Sound.lt_of_mem (h : c.Sound) {i : Nat} (hi : i ∈ c.outstanding.map (·.node)) :
    i < c.browser.tree.nodes.length := by
  obtain ⟨fetch, hf, rfl⟩ := List.mem_map.mp hi
  obtain ⟨n, hn, -⟩ := h.suits hf
  exact Tree.lt_of_node? hn

theorem Sound.suits_node (h : c.Sound) {fetch : Fetch} (hf : fetch ∈ c.outstanding) {n : Node}
    (hn : c.browser.node? fetch.node = some n) : fetch.question.Suits c.browser.facets n := by
  obtain ⟨m, hm, -, hq⟩ := h.suits hf
  obtain rfl := Option.some.inj (hn.symm.trans hm)
  exact hq

section Grown

variable {n : Node} {stage : Stage} {children : List Node}

theorem Sound.levelled_grown (h : c.Sound) (hn : c.browser.node? n.id = some n)
    (hg : Growth n c.browser.tree.nodes.length stage children)
    (hself : Node.Levelled c.browser.facets { n with stage := stage }) {i : Nat} {m : Node}
    (hm : (c.browser.grown n stage children).node? i = some m) :
    m.Levelled c.browser.facets := by
  rcases Tree.node?_grow_cases (Tree.lt_of_node? hn) hm with
    ⟨rfl, rfl⟩ | ⟨-, hm⟩ | ⟨k, -, hk⟩
  · exact hself
  · exact h.levelled hm
  · obtain ⟨-, -, hd, hc⟩ := hg.child hk
    obtain ⟨listing, hb⟩ := hg.branch (List.ne_nil_of_mem (List.mem_of_getElem? hk))
    have hlevel : n.depth < c.browser.facets.chosen.length := hself.branch_lt hb
    have hm' : m = { m with stage := .collapsed } := by rw [← hc]
    rw [hm']
    exact .of_plain (hd ▸ hlevel) (by simp) (by simp)

theorem Sound.suits_grown (h : c.Sound) {fetch : Fetch} (hf : fetch ∈ c.outstanding)
    (hne : fetch.node ≠ n.id) : ∃ m,
      (c.browser.grown n stage children).node? fetch.node = some m ∧ m.stage = .loading ∧
        fetch.question.Suits c.browser.facets m := by
  obtain ⟨m, hm, hl, hq⟩ := h.suits hf
  exact ⟨m, Tree.node?_grow_old hne hm, hl, hq⟩

end Grown

theorem sound_activate (h : c.Sound) {id : Nat} {n : Node} (hn : c.browser.node? id = some n)
    (hs : n.stage = .collapsed) :
    Sound ⟨c.browser.grown n .loading [],
      c.outstanding ++ [⟨id, .ofNode c.browser.facets n⟩]⟩ := by
  obtain rfl : n.id = id := h.tree.id_eq hn
  have hlt := Tree.lt_of_node? hn
  have h0 : n.id ≠ 0 := fun h0 => (h.root (h0 ▸ hn)).1 hs
  have hnot : n.id ∉ c.outstanding.map (·.node) := h.not_mem_of_stage hn (by simp [hs])
  refine ⟨?_, ?_, ?_, ?_, ?_, ?_⟩
  · exact Tree.wellFormed_grow h.tree hn (by simp [hs]) (.loading n _)
  · intro i m hm
    exact h.levelled_grown hn (.loading n _)
      (.of_plain (h.levelled hn).depth_le (by simp) (by simp)) hm
  · intro m hm
    rcases Tree.node?_grow_cases hlt hm with ⟨hi, -⟩ | ⟨-, hm⟩ | ⟨k, -, hk⟩
    · exact absurd hi.symm h0
    · exact h.root hm
    · simp at hk
  · rw [List.map_append]
    exact List.nodup_append.mpr ⟨h.nodup, by simp, by simpa using hnot⟩
  · intro i m hm
    rw [List.map_append, List.mem_append]
    rcases Tree.node?_grow_cases hlt hm with ⟨rfl, rfl⟩ | ⟨hi, hm⟩ | ⟨k, rfl, hk⟩
    · simp [h0]
    · rw [← h.awaited hm]
      simp [hi, Browser.grown]
    · simp at hk
  · intro fetch hf
    rcases List.mem_append.mp hf with hf | hf
    · exact h.suits_grown hf fun he => hnot (he ▸ List.mem_map_of_mem hf)
    · obtain rfl := List.mem_singleton.mp hf
      exact ⟨_, Tree.node?_grow_self hlt, rfl, Question.suits_ofNode (Or.inr h0)⟩

theorem mem_regroupings {b : Browser} {facet : String} {fetch : Fetch} :
    fetch ∈ b.regroupings facet ↔ ∃ i n, b.node? i = some n ∧
      Browser.isOutdated (b.facets.extended facet) n = true ∧
        fetch = ⟨n.id, .ofNode (b.facets.extended facet) n⟩ := by
  simp only [Browser.regroupings, List.mem_map, List.mem_filter, Tree.mem_nodes_iff]
  constructor
  · rintro ⟨n, ⟨⟨i, hi⟩, ho⟩, rfl⟩
    exact ⟨i, n, hi, ho, rfl⟩
  · rintro ⟨i, n, hi, ho, rfl⟩
    exact ⟨n, ⟨⟨i, hi⟩, ho⟩, rfl⟩

theorem nodup_ids {t : Tree} (h : t.WellFormed) : (t.nodes.map (·.id)).Nodup := by
  have hr : t.nodes.map (·.id) = List.range t.nodes.length := by
    apply List.ext_getElem (by simp)
    intro i hi _
    rw [List.getElem_map, List.getElem_range]
    exact h.id_eq (List.getElem?_eq_getElem (by simpa using hi))
  rw [hr]
  exact List.nodup_range

section Regrouped

theorem Sound.mem_nodes_regroupings (h : c.Sound) {facet : String} {i : Nat} :
    i ∈ (c.browser.regroupings facet).map (·.node) ↔ ∃ n, c.browser.node? i = some n ∧
      Browser.isOutdated (c.browser.facets.extended facet) n = true := by
  simp only [List.mem_map, mem_regroupings]
  constructor
  · rintro ⟨_, ⟨j, n, hn, ho, rfl⟩, rfl⟩
    exact ⟨n, (h.tree.id_eq hn).symm ▸ hn, ho⟩
  · rintro ⟨n, hn, ho⟩
    exact ⟨_, ⟨i, n, hn, ho, rfl⟩, h.tree.id_eq hn⟩

theorem Sound.levelled_regrouped (h : c.Sound) {facet : String} {i : Nat} {m : Node}
    (hm : (c.browser.regrouped facet).node? i = some m) :
    m.Levelled (c.browser.facets.extended facet) := by
  rcases Tree.node?_regroup_cases hm with ⟨ho, hm⟩ | ⟨n, -, hn, rfl⟩
  · exact (h.levelled hm).extended ho
  · refine .of_plain ?_ (by simp) (by simp)
    rw [Facets.length_extended]
    exact Nat.le_succ_of_le (h.levelled hn).depth_le

theorem Sound.nodup_regrouped (h : c.Sound) (facet : String) :
    ((c.outstanding ++ c.browser.regroupings facet).map (·.node)).Nodup := by
  rw [List.map_append]
  refine List.nodup_append.mpr ⟨h.nodup, ?_, ?_⟩
  · have hs : ((c.browser.regroupings facet).map (·.node)).Sublist
        (c.browser.tree.nodes.map (·.id)) := by
      simp only [Browser.regroupings, List.map_map]
      exact List.filter_sublist.map _
    exact (nodup_ids h.tree).sublist hs
  · intro i hi j hj hij
    subst hij
    obtain ⟨n, hn, ho⟩ := h.mem_nodes_regroupings.mp hj
    obtain ⟨listing, hleaf⟩ := Tree.leaf_of_isOutdated ho
    exact h.not_mem_of_stage hn (by simp [hleaf]) hi

theorem Sound.awaited_regrouped (h : c.Sound) {facet : String} {i : Nat} {m : Node}
    (hm : (c.browser.regrouped facet).node? i = some m) :
    ((m.stage = .loading ∧ (i = 0 → c.browser.seeded = true)) ↔
      i ∈ (c.outstanding ++ c.browser.regroupings facet).map (·.node)) := by
  rw [List.map_append, List.mem_append]
  rcases Tree.node?_regroup_cases hm with ⟨ho, hm⟩ | ⟨n, ho, hn, rfl⟩
  · have hnot : i ∉ (c.browser.regroupings facet).map (·.node) := by
      rw [h.mem_nodes_regroupings]
      rintro ⟨n, hn, hn'⟩
      obtain rfl := Option.some.inj (hm.symm.trans hn)
      rw [ho] at hn'
      cases hn'
    rw [or_iff_left hnot]
    exact h.awaited hm
  · obtain ⟨listing, hleaf⟩ := Tree.leaf_of_isOutdated ho
    refine ⟨fun _ => Or.inr (h.mem_nodes_regroupings.mpr ⟨n, hn, ho⟩), fun _ => ⟨rfl, ?_⟩⟩
    rintro rfl
    by_contra hseed
    have hl := (h.root hn).2 (Bool.eq_false_iff.mpr hseed)
    rw [hleaf] at hl
    cases hl

theorem Sound.suits_regrouped (h : c.Sound) {facet : String} {fetch : Fetch}
    (hf : fetch ∈ c.outstanding ++ c.browser.regroupings facet) : ∃ n,
      (c.browser.regrouped facet).node? fetch.node = some n ∧ n.stage = .loading ∧
        fetch.question.Suits (c.browser.facets.extended facet) n := by
  rcases List.mem_append.mp hf with hf | hf
  · obtain ⟨n, hn, hl, hq⟩ := h.suits hf
    refine ⟨n, Tree.node?_regroup_kept hn ?_, hl, hq.extended facet⟩
    simp [Browser.isOutdated, Stage.isLeaf, hl]
  · obtain ⟨i, n, hn, ho, rfl⟩ := mem_regroupings.mp hf
    have hd : n.depth < (c.browser.facets.extended facet).chosen.length := by
      simp only [Browser.isOutdated, Bool.and_eq_true, decide_eq_true_eq] at ho
      exact ho.2
    have hn' : c.browser.node? n.id = some n := (h.tree.id_eq hn).symm ▸ hn
    exact ⟨_, Tree.node?_regroup_outdated hn' ho, rfl, Question.suits_ofNode (Or.inl hd)⟩

theorem sound_choose (h : c.Sound) (facet : String) :
    Sound ⟨c.browser.regrouped facet, c.outstanding ++ c.browser.regroupings facet⟩ where
  tree := Tree.wellFormed_regroup h.tree _
  levelled := h.levelled_regrouped
  root := by
    intro m hm
    rcases Tree.node?_regroup_cases hm with ⟨-, hm⟩ | ⟨n, -, hn, rfl⟩
    · exact h.root hm
    · exact ⟨by simp, fun _ => rfl⟩
  nodup := h.nodup_regrouped facet
  awaited := h.awaited_regrouped
  suits := h.suits_regrouped

end Regrouped

theorem sound_stale (h : c.Sound) {fetch : Fetch} {n : Node} {s : Sample}
    (hf : fetch ∈ c.outstanding) (hn : c.browser.node? fetch.node = some n)
    (hl : n.stage = .loading) (hs : n.isStale c.browser.facets (.ok (.sample s)) = true) :
    Sound ⟨c.browser,
      c.outstanding.erase fetch ++ [⟨fetch.node, .ofNode c.browser.facets n⟩]⟩ := by
  have hp : ((c.outstanding.erase fetch ++
      [Fetch.mk fetch.node (.ofNode c.browser.facets n)]).map (·.node)).Perm
        (c.outstanding.map (·.node)) := by
    rw [List.map_append]
    exact List.perm_append_comm.trans (nodes_perm_erase hf).symm
  refine ⟨h.tree, h.levelled, h.root, hp.nodup_iff.mpr h.nodup, ?_, ?_⟩
  · intro i m hm
    rw [hp.mem_iff]
    exact h.awaited hm
  · intro g hg
    rcases List.mem_append.mp hg with hg | hg
    · exact h.suits (List.mem_of_mem_erase hg)
    · obtain rfl := List.mem_singleton.mp hg
      exact ⟨n, hn, hl, Question.suits_ofNode (Or.inl (of_decide_eq_true hs))⟩

theorem sound_fresh (h : c.Sound) {fetch : Fetch} {n : Node} {a : Except SourceError Answer}
    (hf : fetch ∈ c.outstanding) (ha : fetch.question.Admits a)
    (hn : c.browser.node? fetch.node = some n) (hl : n.stage = .loading)
    (hs : n.isStale c.browser.facets a = false) :
    Sound ⟨c.browser.grown n (n.expanded c.browser.tree.nodes.length a).1
      (n.expanded c.browser.tree.nodes.length a).2, c.outstanding.erase fetch⟩ := by
  have hid : n.id = fetch.node := h.tree.id_eq hn
  have hn' : c.browser.node? n.id = some n := hid ▸ hn
  have hlt := Tree.lt_of_node? hn'
  have hg := n.growth_expanded c.browser.tree.nodes.length a
  obtain ⟨hnot, hnodup⟩ := h.nodup_erase hf
  refine ⟨Tree.wellFormed_grow h.tree hn' (by simp [hl]) hg, ?_, ?_, hnodup, ?_, ?_⟩
  · intro i m hm
    exact h.levelled_grown hn' hg
      (Node.levelled_expanded _ (h.levelled hn).depth_le ha (h.suits_node hf hn) hs) hm
  · intro m hm
    rcases Tree.node?_grow_cases hlt hm with ⟨hi, rfl⟩ | ⟨-, hm⟩ | ⟨k, hi, -⟩
    · refine ⟨n.expanded_ne_collapsed _ a, fun hseed => ?_⟩
      have hseeded := ((h.awaited hn).mpr (List.mem_map_of_mem hf)).2 (hid ▸ hi.symm)
      cases (show c.browser.seeded = false from hseed).symm.trans hseeded
    · exact h.root hm
    · omega
  · intro i m hm
    rcases Tree.node?_grow_cases hlt hm with ⟨rfl, rfl⟩ | ⟨hi, hm⟩ | ⟨k, rfl, hk⟩
    · exact ⟨fun hw => absurd hw.1 (n.expanded_ne_loading _ a), fun hi => absurd hi (hid ▸ hnot)⟩
    · have hmem : i ∈ (c.outstanding.erase fetch).map (·.node) ↔
          i ∈ c.outstanding.map (·.node) := by
        rw [(nodes_perm_erase hf).mem_iff, List.mem_cons, or_iff_right (hid ▸ hi)]
      rw [hmem]
      exact h.awaited hm
    · refine ⟨fun hw => ?_, fun hi => ?_⟩
      · rw [(hg.child hk).2.2.2] at hw
        cases hw.1
      · have hin := (nodes_perm_erase hf).mem_iff.mpr (List.mem_cons_of_mem _ hi)
        have := h.lt_of_mem hin
        omega
  · intro g hg'
    exact h.suits_grown (List.mem_of_mem_erase hg')
      fun he => hnot (hid ▸ he ▸ List.mem_map_of_mem hg')

theorem Sound.step (h : c.Sound) (hs : Step Question.Admits c m c') : c'.Sound := by
  cases hs with
  | seeded | unknown | ignore | refuse => exact h
  | seed hseed => exact sound_seed h hseed
  | activate hn hc => exact sound_activate h hn hc
  | choose hf => exact sound_choose h _
  | drop hf hdrop =>
    obtain ⟨n, hn, hl, -⟩ := h.suits hf
    exact absurd hl (hdrop n hn)
  | @stale fetch a n hf ha hn hl hstale =>
    match a, hstale with
    | .ok (.sample s), hstale => exact sound_stale h hf hn hl hstale
  | fresh hf ha hn hl hfresh => exact sound_fresh h hf ha hn hl hfresh

theorem sound_run {facets : Facets} {ms : List Move}
    (h : (new facets).Permits Question.Admits ms) : ((new facets).run ms).Sound :=
  h.invariant (P := fun _ c => c.Sound) (sound_new facets) fun hc hm => hc.step hm.step

end FacetBrowser.Course
