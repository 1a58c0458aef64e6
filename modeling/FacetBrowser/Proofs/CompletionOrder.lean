import FacetBrowser.Proofs.Landing

namespace FacetBrowser.Course

variable {o : Oracle} {c d : Course} {done : List Fetch}

theorem Landed.untouched (h : Landed o c done d) {i : Nat} {n : Node}
    (hn : c.browser.node? i = some n) (hi : i ∉ c.outstanding.map (·.node)) :
    d.browser.node? i = some n := by
  rcases h.kept hn with hd | ⟨f, hf, rfl, -⟩
  · exact hd
  · exact absurd (List.mem_map_of_mem hf) hi

theorem Landed.filled (h : Landed o c done d) (hc : c.Sound) (hdone : d.outstanding = [])
    {f : Fetch} {n : Node} (hf : f ∈ c.outstanding) (hn : c.browser.node? f.node = some n) :
    ∃ stage start, c.browser.tree.nodes.length ≤ start ∧
      d.browser.node? f.node = some { n with stage := stage } ∧
        d.browser.tree.Fills { n with stage := stage } start
          (o.answer (o.last c.browser f).question) := by
  have hin : f.node ∈ c.outstanding.map (·.node) := List.mem_map_of_mem hf
  rcases h.kept hn with hd | ⟨f', hf', hff, hfill⟩
  · have hw := (hc.awaited hn).mpr hin
    rw [← h.seeded, h.sound.awaited hd, hdone] at hw
    cases hw
  · obtain rfl := List.inj_on_of_nodup_map hc.nodup hf' hf hff
    exact hfill

theorem Landed.leads (h : Landed o c done d) (hc : c.Sound) {path : List Nat} {i : Nat}
    (hl : c.browser.tree.Leads path i) : d.browser.tree.Leads path i := by
  induction hl with
  | root => exact .root
  | child _ hm hk ih =>
    refine .child ih (h.untouched hm fun hin => ?_) hk
    obtain ⟨⟨listing, hb⟩, -⟩ := hc.tree.child hm hk
    have hload := ((hc.awaited hm).mpr hin).1
    rw [hb] at hload
    cases hload

theorem Landed.alike_cases {done' : List Fetch} {d' : Course} (hc : c.Sound)
    (h : Landed o c done d) (h' : Landed o c done' d') (hdone : d.outstanding = [])
    (hdone' : d'.outstanding = []) {path : List Nat} {i j : Nat}
    (hi : d.browser.tree.Leads path i) (hj : d'.browser.tree.Leads path j) :
    (i = j ∧ ∃ n, c.browser.node? i = some n) ∨
      ∃ n m, d.browser.node? i = some n ∧ d'.browser.node? j = some m ∧
        n.stage = .collapsed ∧ m.stage = .collapsed ∧ n.shape = m.shape := by
  induction hi generalizing j with
  | root =>
    cases hj
    obtain ⟨stage, hroot⟩ := hc.tree.root
    exact Or.inl ⟨rfl, _, hroot⟩
  | @child path p k i q hp hq hk ih =>
    cases hj with
    | @child _ p' _ _ q' hp' hq' hk' =>
      rcases ih hp' with ⟨rfl, n, hn⟩ | ⟨n, m, hn, -, hs, -⟩
      · by_cases hin : p ∈ c.outstanding.map (·.node)
        · obtain ⟨f, hf, rfl⟩ := List.mem_map.mp hin
          obtain ⟨stage, start, hle, hd, hfill⟩ := h.filled hc hdone hf hn
          obtain ⟨stage', start', hle', hd', hfill'⟩ := h'.filled hc hdone' hf hn
          obtain rfl := Option.some.inj (hd.symm.trans hq)
          obtain rfl := Option.some.inj (hd'.symm.trans hq')
          obtain ⟨rfl, m, s, hm, hnode⟩ := hfill.exists_child hk
          obtain ⟨rfl, m', s', hm', hnode'⟩ := hfill'.exists_child hk'
          obtain rfl := h.added (by omega) hnode
          obtain rfl := h'.added (by omega) hnode'
          exact Or.inr ⟨_, _, hnode, hnode', rfl, rfl,
            Node.shape_restage (Tree.Fills.shape_child rfl rfl hm hm') rfl⟩
        · have hd := h.untouched hn hin
          have hd' := h'.untouched hn hin
          obtain rfl := Option.some.inj (hd.symm.trans hq)
          obtain rfl := Option.some.inj (hd'.symm.trans hq')
          obtain rfl := Row.child.inj (Option.some.inj (hk.symm.trans hk'))
          obtain ⟨-, m, hm, -⟩ := hc.tree.child hn hk
          exact Or.inl ⟨rfl, m, hm⟩
      · obtain rfl := Option.some.inj (hn.symm.trans hq)
        rw [hs] at hk
        cases hk

theorem Landed.alike {done' : List Fetch} {d' : Course} (hc : c.Sound) (h : Landed o c done d)
    (h' : Landed o c done' d') (hdone : d.outstanding = []) (hdone' : d'.outstanding = []) :
    d.browser.tree.Alike d'.browser.tree := by
  intro path i j n m hi hj hn hm
  rcases h.alike_cases hc h' hdone hdone' hi hj with
    ⟨rfl, q, hq⟩ | ⟨n', m', hn', hm', -, -, hshape⟩
  · by_cases hin : i ∈ c.outstanding.map (·.node)
    · obtain ⟨f, hf, rfl⟩ := List.mem_map.mp hin
      obtain ⟨stage, start, -, hd, hfill⟩ := h.filled hc hdone hf hq
      obtain ⟨stage', start', -, hd', hfill'⟩ := h'.filled hc hdone' hf hq
      obtain rfl := Option.some.inj (hd.symm.trans hn)
      obtain rfl := Option.some.inj (hd'.symm.trans hm)
      exact Node.shape_restage (n := q) (m := q) rfl (hfill.shape_stage hfill')
    · obtain rfl := Option.some.inj ((h.untouched hq hin).symm.trans hn)
      obtain rfl := Option.some.inj ((h'.untouched hq hin).symm.trans hm)
      rfl
  · obtain rfl := Option.some.inj (hn'.symm.trans hn)
    obtain rfl := Option.some.inj (hm'.symm.trans hm)
    exact hshape

theorem Landed.calls_eq (h : Landed o c done d) (hdone : d.outstanding = []) :
    done.Perm (c.outstanding.flatMap (o.script c.browser)) := by
  have hp := h.calls
  rwa [hdone, List.flatMap_nil, List.append_nil] at hp

theorem completion_order_irrelevant {facets : Facets} {ms : List Move}
    (h : (new facets).Permits Question.Admits ms) (o : Oracle) (fetches fetches' : List Fetch) :
    let c := (new facets).run ms
    let d := c.run (o.landings fetches)
    let d' := c.run (o.landings fetches')
    c.Permits Question.Admits (o.landings fetches) → d.outstanding = [] →
    c.Permits Question.Admits (o.landings fetches') → d'.outstanding = [] →
    (∀ template, Outline.lines template d'.browser = Outline.lines template d.browser) ∧
    d'.browser.facets = d.browser.facets ∧
    (fetches.map (·.question)).Perm (fetches'.map (·.question)) ∧
    ∃ σ : Nat → Nat, Function.Bijective σ ∧
      (∀ i < c.browser.tree.nodes.length, σ i = i) ∧
      d.browser.tree.Renumbers σ d'.browser.tree := by
  intro c d d' hp hdone hp' hdone'
  have hc : c.Sound := sound_run h
  have hl : Landed o c fetches d := landed_run hc hp
  have hl' : Landed o c fetches' d' := landed_run hc hp'
  have halike : d.browser.tree.Alike d'.browser.tree := hl.alike hc hl' hdone hdone'
  have hfacets : d'.browser.facets = d.browser.facets := hl'.facets.trans hl.facets.symm
  refine ⟨?_, hfacets, ?_, ?_⟩
  · intro template
    exact Tree.lines_of_alike hl.sound.tree hl'.sound.tree halike (by rw [hfacets]) template
  · exact ((hl.calls_eq hdone).trans (hl'.calls_eq hdone').symm).map _
  · obtain ⟨σ, hbij, hren, hσ⟩ := Tree.exists_renumbering hl.sound.tree hl'.sound.tree halike
    refine ⟨σ, hbij, ?_, hren⟩
    intro i hi
    obtain ⟨path, hpath⟩ := Tree.exists_leads hc.tree (List.getElem?_eq_getElem hi)
    exact Tree.leads_functional (hσ (hl.leads hc hpath)) (hl'.leads hc hpath)

theorem lines_two_stale_samples_in_either_order :
    let o := Oracle.uniform ⟨4, []⟩ fun _ => ⟨4, [⟨"a", 2⟩, ⟨"b", 2⟩], ⟨0, []⟩⟩
    let query (value : String) := Query.all.and (.equals "type" value)
    let ms := [.seed, .choose "type", .complete ⟨0, .root⟩ (o.answer .root),
      .complete ⟨0, .group .all "type"⟩ (o.answer (.group .all "type")), .activate 1,
      .activate 2, .choose "lab"]
    let c := (new ⟨[], ["type", "lab"], 0⟩).run ms
    let first := Fetch.mk 1 (.sample (query "a"))
    let first' := Fetch.mk 1 (.group (query "a") "lab")
    let second := Fetch.mk 2 (.sample (query "b"))
    let second' := Fetch.mk 2 (.group (query "b") "lab")
    c.Permits Question.Admits (o.landings [first, first', second, second']) ∧
    c.Permits Question.Admits (o.landings [second, first, second', first']) ∧
    Outline.lines Outline.defaultTemplate
        (c.run (o.landings [second, first, second', first'])).browser =
      Outline.lines Outline.defaultTemplate
        (c.run (o.landings [first, first', second, second'])).browser := by
  intro o query ms c first first' second second'
  have h : (new ⟨[], ["type", "lab"], 0⟩).Permits Question.Admits ms := by
    refine ⟨trivial, trivial, ⟨?_, o.admits_answer _⟩, ⟨?_, o.admits_answer _⟩, trivial,
      trivial, trivial, trivial⟩ <;> decide +kernel
  have hp : c.Permits Question.Admits (o.landings [first, first', second, second']) := by
    refine ⟨⟨?_, o.admits_answer _⟩, ⟨?_, o.admits_answer _⟩, ⟨?_, o.admits_answer _⟩,
      ⟨?_, o.admits_answer _⟩, trivial⟩ <;> decide +kernel
  have hp' : c.Permits Question.Admits (o.landings [second, first, second', first']) := by
    refine ⟨⟨?_, o.admits_answer _⟩, ⟨?_, o.admits_answer _⟩, ⟨?_, o.admits_answer _⟩,
      ⟨?_, o.admits_answer _⟩, trivial⟩ <;> decide +kernel
  have hdone : (c.run (o.landings [first, first', second, second'])).outstanding = [] := by
    decide +kernel
  have hdone' : (c.run (o.landings [second, first, second', first'])).outstanding = [] := by
    decide +kernel
  exact ⟨hp, hp', (completion_order_irrelevant h o _ _ hp hdone hp' hdone').1 _⟩

end FacetBrowser.Course
