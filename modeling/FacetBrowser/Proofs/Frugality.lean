import FacetBrowser.Proofs.History
import FacetBrowser.Proofs.Issued

namespace FacetBrowser.Course

structure Frugal (fetches : List Fetch) (c : Course) : Prop where
  apart : fetches.Pairwise fun f g => f.node = g.node →
    f.question.isGroup = false ∧ g.question.isGroup = true
  grouped : ∀ f ∈ fetches, f.question.isGroup = true → c.Grouped f.node
  begun : ∀ f ∈ fetches, ∃ n, c.browser.node? f.node = some n ∧ n.stage ≠ .collapsed ∧
    (f.node = 0 → c.browser.seeded = true)

variable {c c' : Course} {m : Move} {fetches more : List Fetch}

theorem frugal_new (facets : Facets) : Frugal [] (new facets) :=
  ⟨.nil, by simp, by simp⟩

theorem Frugal.apart_occasion (h : Frugal fetches c) (hc : c.Sound) {f g : Fetch}
    (hf : f ∈ fetches) (hg : c.Occasion g) (hnode : f.node = g.node) :
    f.question.isGroup = false ∧ g.question.isGroup = true := by
  obtain ⟨n, hn, hopen, hseeded⟩ := h.begun f hf
  have hstage (hq : f.question.isGroup = true) := (h.grouped f hf hq).stage_cases hc hn
  cases hg with
  | seed hseed => cases hseed.symm.trans (hseeded hnode)
  | opened hn' hcollapsed =>
    obtain rfl := Option.some.inj ((hnode ▸ hn).symm.trans hn')
    exact absurd hcollapsed hopen
  | regrouped hn' hleaf =>
    obtain rfl := Option.some.inj ((hnode ▸ hn).symm.trans hn')
    refine ⟨Bool.eq_false_iff.mpr fun hq => ?_, rfl⟩
    rcases hstage hq with ⟨_, hs⟩ | ⟨_, hs⟩ | hs <;> cases hleaf.symm.trans hs
  | replanned hfetch hsample hn' hl =>
    refine ⟨Bool.eq_false_iff.mpr fun hq => ?_, rfl⟩
    cases hsample.symm.trans (Grouped.isGroup (hnode ▸ h.grouped f hf hq) hc hfetch)

theorem Step.begun (hs : Step Question.Admits c m c') (hc : c.Sound) {i : Nat} {n : Node}
    (hn : c.browser.node? i = some n) (hopen : n.stage ≠ .collapsed) :
    ∃ n', c'.browser.node? i = some n' ∧ n'.stage ≠ .collapsed := by
  obtain ⟨stage, hn'⟩ := hs.extends hc hn
  refine ⟨_, hn', ?_⟩
  rcases hs.opens hc hn' with ⟨m, hm, hiff⟩ | ⟨hnone, -⟩
  · obtain rfl := Option.some.inj (hn.symm.trans hm)
    exact hiff.mpr (Or.inl hopen)
  · cases hnone.symm.trans hn

theorem Frugal.step (h : Frugal fetches c) (hc : c.Sound) (hc' : c'.Sound)
    (hs : Step Question.Admits c m c') (hnew : c'.outstanding = c.kept m ++ more) :
    Frugal (fetches ++ more) c' where
  apart := by
    refine List.pairwise_append.mpr ⟨h.apart, ?_, ?_⟩
    · exact (List.pairwise_map.mp (hc'.nodup_issued hnew)).imp fun hne hnode => absurd hnode hne
    · intro f hf g hg
      exact h.apart_occasion hc hf (hs.occasion hc hnew hg)
  grouped := by
    intro f hf hq
    rcases List.mem_append.mp hf with hf | hf
    · exact hs.grouped hc (h.grouped f hf hq)
    · exact .of_outstanding hc' (hnew ▸ List.mem_append_right _ hf) hq
  begun := by
    intro f hf
    rcases List.mem_append.mp hf with hf | hf
    · obtain ⟨n, hn, hopen, hseeded⟩ := h.begun f hf
      obtain ⟨n', hn', hopen'⟩ := hs.begun hc hn hopen
      exact ⟨n', hn', hopen', fun h0 => hs.seeded_mono (hseeded h0)⟩
    · have hout : f ∈ c'.outstanding := hnew ▸ List.mem_append_right _ hf
      obtain ⟨n, hn, hl, -⟩ := hc'.suits hout
      exact ⟨n, hn, by simp [hl], ((hc'.awaited hn).mpr (List.mem_map_of_mem hout)).2⟩

theorem frugal_run {facets : Facets} {ms : List Move}
    (h : (new facets).Permits Question.Admits ms) :
    Frugal ((new facets).collect issued ms) ((new facets).run ms) := by
  have hrun : ((new facets).run ms).Sound ∧
      Frugal ((new facets).collect issued ms) ((new facets).run ms) := by
    refine h.induction (P := fun ms => ((new facets).run ms).Sound ∧
      Frugal ((new facets).collect issued ms) ((new facets).run ms))
      ⟨sound_new facets, frugal_new facets⟩ ?_
    intro ms m ⟨hsound, hfrugal⟩ hm
    have hsound' := hsound.step hm.step
    rw [run_append, collect_concat]
    exact ⟨hsound', hfrugal.step hsound hsound' hm.step (outstanding_after _ m)⟩
  exact hrun.2

theorem Occasion.open_stage {fetch : Fetch} (h : c.Occasion fetch) (hc : c.Sound) :
    ∃ n, c.browser.node? fetch.node = some n ∧ (∀ listing, n.stage ≠ .branch listing) ∧
      ∀ failure, n.stage ≠ .failed failure := by
  cases h with
  | seed hseed =>
    obtain ⟨stage, hroot⟩ := hc.tree.root
    obtain rfl : stage = .loading := (hc.root hroot).2 hseed
    exact ⟨_, hroot, by simp, by simp⟩
  | opened hn hs => exact ⟨_, hn, by simp [hs], by simp [hs]⟩
  | regrouped hn hs => exact ⟨_, hn, by simp [hs], by simp [hs]⟩
  | replanned _ _ hn hs => exact ⟨_, hn, by simp [hs], by simp [hs]⟩

theorem countP_le_one_of_pairwise {α : Type} {p : α → Bool} {l : List α}
    (h : l.Pairwise fun a b => ¬ (p a = true ∧ p b = true)) : l.countP p ≤ 1 := by
  induction l with
  | nil => exact Nat.zero_le 1
  | cons a l ih =>
    obtain ⟨ha, hl⟩ := List.pairwise_cons.mp h
    rw [List.countP_cons]
    split
    · rename_i hpa
      have hnone : l.countP p = 0 := List.countP_eq_zero.mpr fun b hb hpb => ha b hb ⟨hpa, hpb⟩
      omega
    · exact ih hl

theorem fetched_once_each_way {facets : Facets} {ms : List Move}
    (h : (new facets).Permits Question.Admits ms) :
    let fetches := (new facets).collect issued ms
    (∀ i, fetches.countP (fun f => f.node = i ∧ f.question.isGroup = false) ≤ 1 ∧
      fetches.countP (fun f => f.node = i ∧ f.question.isGroup = true) ≤ 1) ∧
    (fetches.Pairwise fun f g => f.node = g.node → f.question.isGroup = true →
      g.question.isGroup = true) ∧
    ∀ before m after, ms = before ++ m :: after →
      ∀ fetch ∈ ((new facets).run before).issued m, ∃ n,
        ((new facets).run before).browser.node? fetch.node = some n ∧
        (∀ listing, n.stage ≠ .branch listing) ∧ ∀ failure, n.stage ≠ .failed failure := by
  intro fetches
  have hapart := (frugal_run h).apart
  refine ⟨fun i => ⟨?_, ?_⟩, hapart.imp fun hfg hnode _ => (hfg hnode).2, ?_⟩
  · refine countP_le_one_of_pairwise (hapart.imp fun {f g} hfg hboth => ?_)
    simp only [decide_eq_true_eq] at hboth
    obtain ⟨⟨hf, -⟩, hg, hsample⟩ := hboth
    cases hsample.symm.trans (hfg (hf.trans hg.symm)).2
  · refine countP_le_one_of_pairwise (hapart.imp fun {f g} hfg hboth => ?_)
    simp only [decide_eq_true_eq] at hboth
    obtain ⟨⟨hf, hgroup⟩, hg, -⟩ := hboth
    cases hgroup.symm.trans (hfg (hf.trans hg.symm)).1
  · rintro before m after rfl fetch hfetch
    obtain ⟨hbefore, hm, -⟩ := permits_append.mp h
    have hsound := sound_run hbefore
    exact (hm.step.occasion hsound (outstanding_after _ m) hfetch).open_stage hsound

theorem root_fetched_once_each_way :
    let sample := Answer.sample ⟨4, []⟩
    let groups := Answer.group "type" ⟨4, [⟨"csv", 4⟩], ⟨0, []⟩⟩
    let ms := [Move.seed, .seed, .activate 0, .choose "type", .complete ⟨0, .root⟩ (.ok sample),
      .activate 0, .complete ⟨0, .group .all "type"⟩ (.ok groups), .activate 1, .activate 1,
      .choose "lab"]
    let c := new ⟨[], ["type", "lab"], 0⟩
    c.Permits Question.Admits ms ∧
      c.collect issued ms = [⟨0, .root⟩, ⟨0, .group .all "type"⟩,
        ⟨1, .sample (.equals "type" "csv")⟩] ∧
      (c.collect issued ms).countP (fun f => f.node = 0 ∧ f.question.isGroup = false) ≤ 1 ∧
      (c.collect issued ms).countP (fun f => f.node = 0 ∧ f.question.isGroup = true) ≤ 1 := by
  intro sample groups ms c
  have h : c.Permits Question.Admits ms := by
    refine ⟨trivial, trivial, trivial, trivial, ⟨?_, .root _⟩, trivial, ⟨?_, .group _ _ _⟩,
      trivial, trivial, trivial, trivial⟩ <;> decide +kernel
  exact ⟨h, by decide +kernel, (fetched_once_each_way h).1 0⟩

end FacetBrowser.Course
