import FacetBrowser.Proofs.Regrouping

namespace FacetBrowser

def Question.isGroup : Question → Bool
  | .group _ _ => true
  | _ => false

theorem Question.Admits.branch_or_failed {q : Question} {a : Except SourceError Answer}
    (ha : q.Admits a) (hq : q.isGroup = true) (n : Node) (start : Nat) :
    (∃ listing, (n.expanded start a).1 = .branch listing) ∨
      ∃ failure, (n.expanded start a).1 = .failed failure := by
  rcases n.expanded_cases start a with ⟨listing, _, _, hs, -⟩ | ⟨_, s, -, rfl⟩ | ⟨failure, hs⟩
  · exact Or.inl ⟨listing, hs⟩
  · cases ha <;> cases hq
  · exact Or.inr ⟨failure, hs⟩

namespace Node

variable {facets : Facets} {n : Node} {a : Except SourceError Answer}

theorem isGroup_of_isStale {q : Question} (ha : q.Admits a) (hs : n.isStale facets a = true) :
    q.isGroup = false := by
  cases ha with
  | root s | sample query s => rfl
  | error | group => cases hs

theorem ofNode_of_isStale (hs : n.isStale facets a = true) :
    ∃ facet, Question.ofNode facets n = .group n.query facet := by
  match a, hs with
  | .ok (.sample s), hs =>
    exact ⟨_, Question.ofNode_eq_group (List.getElem?_eq_getElem (of_decide_eq_true hs))⟩

end Node

namespace Course

def issued (c : Course) : Move → List Fetch
  | .seed => c.browser.seed.2.toList
  | .activate id =>
    match c.browser.activate id with
    | .error _ => []
    | .ok (_, fetch) => fetch.toList
  | .choose facet =>
    match c.browser.choose facet with
    | .error _ => []
    | .ok (_, fetches) => fetches
  | .complete fetch answer => (c.browser.receive ⟨fetch.node, answer⟩).2.followUp.toList

def kept (c : Course) : Move → List Fetch
  | .complete fetch _ => c.outstanding.erase fetch
  | _ => c.outstanding

theorem outstanding_after (c : Course) (m : Move) :
    (c.after m).outstanding = c.kept m ++ c.issued m := by
  cases m with
  | seed => rfl
  | activate id =>
    simp only [after, kept, issued]
    cases c.browser.activate id <;> simp
  | choose facet =>
    simp only [after, kept, issued]
    cases c.browser.choose facet <;> simp
  | complete fetch answer => rfl

inductive Occasion (c : Course) : Fetch → Prop
  | seed : c.browser.seeded = false → Occasion c ⟨0, .root⟩
  | opened {i : Nat} {n : Node} : c.browser.node? i = some n → n.stage = .collapsed →
      Occasion c ⟨i, .ofNode c.browser.facets n⟩
  | regrouped {i : Nat} {n : Node} {listing : Listing} {facet : String} :
      c.browser.node? i = some n → n.stage = .leaf listing →
      Occasion c ⟨i, .group n.query facet⟩
  | replanned {fetch : Fetch} {n : Node} {facet : String} : fetch ∈ c.outstanding →
      fetch.question.isGroup = false → c.browser.node? fetch.node = some n →
      n.stage = .loading → Occasion c ⟨fetch.node, .group n.query facet⟩

-- once asked for its groups a node is never a leaf again; every step keeps this
def Grouped (c : Course) (i : Nat) : Prop :=
  ∃ n, c.browser.node? i = some n ∧ ((∃ listing, n.stage = .branch listing) ∨
    (∃ failure, n.stage = .failed failure) ∨
    ∃ fetch ∈ c.outstanding, fetch.node = i ∧ fetch.question.isGroup = true)

variable {answers : Question → Except SourceError Answer → Prop} {c c' : Course} {m : Move}
  {fetches : List Fetch} {fetch : Fetch} {i : Nat} {n : Node}

theorem Step.occasion (hs : Step Question.Admits c m c') (hc : c.Sound)
    (hnew : c'.outstanding = c.kept m ++ fetches) (hf : fetch ∈ fetches) : c.Occasion fetch := by
  cases hs with
  | seeded | unknown | ignore | refuse | drop | fresh =>
    obtain rfl := List.append_right_eq_self.mp hnew.symm
    cases hf
  | seed hseed =>
    obtain rfl := List.append_cancel_left hnew
    obtain rfl := List.mem_singleton.mp hf
    exact .seed hseed
  | activate hn hcollapsed =>
    obtain rfl := List.append_cancel_left hnew
    obtain rfl := List.mem_singleton.mp hf
    exact .opened hn hcollapsed
  | @choose facet hoffered =>
    obtain rfl := List.append_cancel_left hnew
    rw [regroupings_eq hc] at hf
    obtain ⟨n, hn, rfl⟩ := List.mem_map.mp hf
    obtain ⟨hmem, hleaf⟩ := List.mem_filter.mp hn
    cases hl : n.stage with
    | leaf listing => exact .regrouped (hc.tree.node?_id hmem) hl
    | _ => simp [hl, Stage.isLeaf] at hleaf
  | @stale landed a n hlanded ha hn hl hstale =>
    obtain rfl := List.append_cancel_left hnew
    obtain ⟨facet, hgroup⟩ := Node.ofNode_of_isStale hstale
    rw [List.mem_singleton, hgroup] at hf
    exact hf ▸ .replanned hlanded (Node.isGroup_of_isStale ha hstale) hn hl

theorem Step.seeded_mono (hs : Step answers c m c') (h : c.browser.seeded = true) :
    c'.browser.seeded = true := by
  cases hs with
  | seed => rfl
  | _ => exact h

theorem Step.extends (hs : Step answers c m c') (hc : c.Sound) :
    c.browser.tree.Extends c'.browser.tree := by
  cases hs with
  | seeded | seed | unknown | ignore | refuse | drop | stale => exact fun hn => ⟨_, hn⟩
  | activate hn | fresh _ _ hn => exact Tree.extends_grow ((hc.tree.id_eq hn).symm ▸ hn)
  | choose => exact Tree.extends_regroup _ _

theorem Sound.eq_of_node_eq (h : c.Sound) {fetch' : Fetch} (hf : fetch ∈ c.outstanding)
    (hf' : fetch' ∈ c.outstanding) (hnode : fetch.node = fetch'.node) : fetch = fetch' :=
  List.inj_on_of_nodup_map h.nodup hf hf' hnode

theorem Sound.nodup_issued (h : c.Sound) {kept : List Fetch}
    (hnew : c.outstanding = kept ++ fetches) : (fetches.map (·.node)).Nodup := by
  have hall := h.nodup
  rw [hnew, List.map_append] at hall
  exact (List.nodup_append.mp hall).2.1

theorem Sound.loading_of_mem (h : c.Sound) (hf : fetch ∈ c.outstanding)
    (hn : c.browser.node? fetch.node = some n) : n.stage = .loading :=
  ((h.awaited hn).mpr (List.mem_map_of_mem hf)).1

namespace Grouped

theorem of_outstanding (hc : c.Sound) (hf : fetch ∈ c.outstanding)
    (hq : fetch.question.isGroup = true) : c.Grouped fetch.node := by
  obtain ⟨n, hn, -⟩ := hc.suits hf
  exact ⟨n, hn, Or.inr (Or.inr ⟨fetch, hf, rfl, hq⟩)⟩

theorem of_regrouped (hc : c.Sound) {facet : String}
    (hi : i ∈ (c.browser.regroupings facet).map (·.node)) :
    Grouped ⟨c.browser.regrouped facet, c.outstanding ++ c.browser.regroupings facet⟩ i := by
  obtain ⟨fetch, hf, rfl⟩ := List.mem_map.mp hi
  refine of_outstanding (sound_choose hc facet) (List.mem_append_right _ hf) ?_
  rw [regroupings_eq hc] at hf
  obtain ⟨n, -, rfl⟩ := List.mem_map.mp hf
  rfl

theorem stage_cases (h : c.Grouped i) (hc : c.Sound) (hn : c.browser.node? i = some n) :
    (∃ listing, n.stage = .branch listing) ∨ (∃ failure, n.stage = .failed failure) ∨
      n.stage = .loading := by
  obtain ⟨n', hn', hb | hf | ⟨fetch, hf, rfl, -⟩⟩ := h
  · exact Or.inl (Option.some.inj (hn'.symm.trans hn) ▸ hb)
  · exact Or.inr (Or.inl (Option.some.inj (hn'.symm.trans hn) ▸ hf))
  · exact Or.inr (Or.inr (hc.loading_of_mem hf hn))

theorem isGroup (h : c.Grouped fetch.node) (hc : c.Sound) (hf : fetch ∈ c.outstanding) :
    fetch.question.isGroup = true := by
  obtain ⟨n, hn, ⟨listing, hb⟩ | ⟨failure, hfailed⟩ | ⟨fetch', hf', hnode, hq⟩⟩ := h
  · cases hb.symm.trans (hc.loading_of_mem hf hn)
  · cases hfailed.symm.trans (hc.loading_of_mem hf hn)
  · exact hc.eq_of_node_eq hf' hf hnode ▸ hq

theorem of_kept (h : c.Grouped i) (hnode : c'.browser.node? i = c.browser.node? i)
    (hkept : ∀ fetch ∈ c.outstanding, fetch.node = i → fetch.question.isGroup = true →
      fetch ∈ c'.outstanding) : c'.Grouped i := by
  obtain ⟨n, hn, hb | hf | ⟨fetch, hf, hfi, hq⟩⟩ := h
  · exact ⟨n, hnode.trans hn, Or.inl hb⟩
  · exact ⟨n, hnode.trans hn, Or.inr (Or.inl hf)⟩
  · exact ⟨n, hnode.trans hn, Or.inr (Or.inr ⟨fetch, hkept fetch hf hfi hq, hfi, hq⟩)⟩

end Grouped

theorem node?_grown_ne (hi : i ≠ n.id)
    (hold : ∃ n', c.browser.node? i = some n') {stage : Stage} {children : List Node} :
    (c.browser.grown n stage children).node? i = c.browser.node? i := by
  obtain ⟨n', hn'⟩ := hold
  rw [hn']
  exact Tree.node?_grow_old hi hn'

theorem Step.grouped (hs : Step Question.Admits c m c') (hc : c.Sound) (h : c.Grouped i) :
    c'.Grouped i := by
  have hold : ∃ n, c.browser.node? i = some n := by
    obtain ⟨n, hn, -⟩ := h
    exact ⟨n, hn⟩
  cases hs with
  | seeded | unknown | ignore | refuse => exact h
  | seed => exact h.of_kept rfl fun _ hf _ _ => List.mem_append_left _ hf
  | @activate id n hn hcollapsed =>
    obtain rfl := hc.tree.id_eq hn
    have hi : i ≠ n.id := by
      rintro rfl
      rcases h.stage_cases hc hn with ⟨_, hs⟩ | ⟨_, hs⟩ | hs <;> cases hcollapsed.symm.trans hs
    exact h.of_kept (node?_grown_ne hi hold) fun _ hf _ _ => List.mem_append_left _ hf
  | choose =>
    refine h.of_kept ?_ fun _ hf _ _ => List.mem_append_left _ hf
    obtain ⟨n, hn⟩ := hold
    rw [hn]
    refine Tree.node?_regroup_kept hn (Bool.eq_false_iff.mpr fun ho => ?_)
    obtain ⟨_, hl⟩ := Tree.leaf_of_isOutdated ho
    rcases h.stage_cases hc hn with ⟨_, hs⟩ | ⟨_, hs⟩ | hs <;> cases hl.symm.trans hs
  | drop hf hdrop =>
    obtain ⟨n, hn, hl, -⟩ := hc.suits hf
    exact absurd hl (hdrop n hn)
  | @stale landed a n _ ha _ _ hstale =>
    refine h.of_kept rfl fun fetch hf _ hq => List.mem_append_left _ ?_
    refine (List.mem_erase_of_ne ?_).mpr hf
    rintro rfl
    cases hq.symm.trans (Node.isGroup_of_isStale ha hstale)
  | @fresh landed a n hlanded ha hn =>
    have hid : n.id = landed.node := hc.tree.id_eq hn
    rw [← hid] at hn
    by_cases hi : i = n.id
    · subst hi
      have hq := Grouped.isGroup (hid ▸ h) hc hlanded
      refine ⟨_, Tree.node?_grow_self (Tree.lt_of_node? hn), ?_⟩
      rcases ha.branch_or_failed hq n c.browser.tree.nodes.length with hb | hf
      · exact Or.inl hb
      · exact Or.inr (Or.inl hf)
    · refine h.of_kept (node?_grown_ne hi hold) fun fetch hf hfi _ => ?_
      refine (List.mem_erase_of_ne ?_).mpr hf
      rintro rfl
      exact hi (hfi.symm.trans hid.symm)

end Course
end FacetBrowser
