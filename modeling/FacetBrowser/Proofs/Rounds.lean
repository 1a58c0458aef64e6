import FacetBrowser.Proofs.Current
import FacetBrowser.Proofs.History
import FacetBrowser.Proofs.Selection
import FacetBrowser.Proofs.Settlement

namespace FacetBrowser

namespace Stage.IsSettled

variable {s : Stage}

theorem ne_collapsed (h : s.IsSettled) : s ≠ .collapsed := by
  rintro rfl
  rcases h with ⟨_, h⟩ | ⟨_, h⟩ | ⟨_, h⟩ <;> cases h

theorem ne_loading (h : s.IsSettled) : s ≠ .loading := by
  rintro rfl
  rcases h with ⟨_, h⟩ | ⟨_, h⟩ | ⟨_, h⟩ <;> cases h

end Stage.IsSettled

theorem ok_of_bind_ok {ε α β : Type} {x : Except ε α} {f : α → Except ε β} {b : β}
    (h : (x >>= f) = .ok b) : ∃ a, x = .ok a ∧ f a = .ok b := by
  cases x with
  | error e => cases h
  | ok a => exact ⟨a, rfl, h⟩

theorem Browser.of_activateAll_cons {b last : Browser} {id : Nat} {ids : List Nat}
    {fetches : List Fetch} (h : b.activateAll (id :: ids) = .ok (last, fetches)) :
    ∃ next fetch more, b.activate id = .ok (next, fetch) ∧
      next.activateAll ids = .ok (last, more) ∧ fetches = fetch.toList ++ more := by
  obtain ⟨⟨next, fetch⟩, hid, htail⟩ := ok_of_bind_ok h
  obtain ⟨⟨last, more⟩, hrest, hlast⟩ := ok_of_bind_ok htail
  cases hlast
  exact ⟨next, fetch, more, hid, hrest, rfl⟩

namespace Course

variable {c : Course} {landed : List (Fetch × Except SourceError Answer)}

theorem collapsed_of_landed (h : c.Sound)
    (hp : c.Permits Question.Admits (landed.map Move.landing)) {i : Nat} {n : Node}
    (hnone : c.browser.node? i = none)
    (hn : (c.run (landed.map Move.landing)).browser.node? i = some n) : n.stage = .collapsed := by
  induction landed using List.reverseRecOn generalizing n with
  | nil => cases hnone.symm.trans hn
  | append_singleton landed l ih =>
    rw [List.map_append] at hp hn
    obtain ⟨hbefore, hl, -⟩ := permits_append.mp hp
    have hstart : Sound ⟨c.browser, c.outstanding ++ []⟩ := by rwa [List.append_nil]
    have hsound := (settling_run hstart hbefore).sound
    rw [List.append_nil] at hsound
    rw [run_append] at hn
    rcases hl.step.opens hsound hn with ⟨m, hm, hiff⟩ | ⟨-, hcollapsed⟩
    · have hm' := ih hbefore hm
      by_contra hopen
      rcases hiff.mp hopen with hopen | hactivate
      · exact hopen hm'
      · cases hactivate
    · exact hcollapsed

theorem run_activates {b last : Browser} {ids : List Nat} {fetches : List Fetch}
    (h : b.activateAll ids = .ok (last, fetches)) (out : List Fetch) :
    Course.run ⟨b, out⟩ (ids.map .activate) = ⟨last, out ++ fetches⟩ := by
  induction ids generalizing b out fetches with
  | nil =>
    cases h
    simp [run]
  | cons id ids ih =>
    obtain ⟨next, fetch, more, hid, hrest, rfl⟩ := Browser.of_activateAll_cons h
    rw [List.map_cons, run, List.foldl_cons, ← List.append_assoc]
    simp only [after, hid]
    exact ih hrest (out ++ fetch.toList)

theorem Sound.run_activates (h : c.Sound) (ids : List Nat) :
    (c.run (ids.map .activate)).Sound := by
  induction ids generalizing c with
  | nil => exact h
  | cons id ids ih => exact ih (h.step (step_activate c id))

theorem Sound.activateAll {b last : Browser} {ids : List Nat} {fetches : List Fetch}
    (h : Sound ⟨b, []⟩) (ha : b.activateAll ids = .ok (last, fetches)) :
    Sound ⟨last, fetches⟩ := by
  have hrun := h.run_activates ids
  rwa [Course.run_activates ha, List.nil_append] at hrun

end Course

namespace Browser

variable {b next last : Browser} {fetches : List Fetch} {s : Settled} {k depth rounds : Nat}
  {options facets : List String} {source : Source}

theorem node?_activateAll {ids : List Nat} (hid : ∀ {i n}, b.node? i = some n → n.id = i)
    (hnodup : ids.Nodup) (hcollapsed : ∀ i ∈ ids, ∃ n, b.node? i = some n ∧ n.stage = .collapsed) :
    ∃ last fetches, b.activateAll ids = .ok (last, fetches) ∧ fetches.map (·.node) = ids ∧
      last.facets = b.facets ∧ ∀ i, last.node? i =
        (b.node? i).map fun n => if i ∈ ids then { n with stage := .loading } else n := by
  induction ids generalizing b with
  | nil => exact ⟨b, [], rfl, rfl, rfl, by simp⟩
  | cons id ids ih =>
    obtain ⟨hnot, htail⟩ := List.nodup_cons.mp hnodup
    obtain ⟨⟨n, hn, hs⟩, hothers⟩ := List.forall_mem_cons.mp hcollapsed
    obtain rfl := hid hn
    have hself : (b.grown n .loading []).node? n.id = some { n with stage := .loading } :=
      Tree.node?_grow_self (Tree.lt_of_node? hn)
    have hother {i : Nat} (hi : i ≠ n.id) : (b.grown n .loading []).node? i = b.node? i :=
      Tree.node?_grow_childless hi
    have hid' : ∀ {i m}, (b.grown n .loading []).node? i = some m → m.id = i := by
      intro i m hm
      by_cases hi : i = n.id
      · subst hi
        obtain rfl := Option.some.inj (hself.symm.trans hm)
        rfl
      · exact hid (hother hi ▸ hm)
    obtain ⟨last, fetches, hrest, hnodes, hfacets, hnode⟩ := ih hid' htail fun i hi => by
      obtain ⟨m, hm⟩ := hothers i hi
      exact ⟨m, (hother (ne_of_mem_of_not_mem hi hnot)).symm ▸ hm⟩
    refine ⟨last, ⟨n.id, .ofNode b.facets n⟩ :: fetches, ?_, ?_, hfacets, fun i => ?_⟩
    · rw [activateAll, activate_collapsed hn hs]
      simp only [bind, Except.bind, hrest]
      rfl
    · rw [List.map_cons, hnodes]
    rw [hnode]
    by_cases hi : i = n.id
    · subst hi
      rw [hself, hn]
      simp [hnot]
    · rw [hother hi]
      simp [hi]

structure OpenTo (k : Nat) (b : Browser) : Prop where
  sound : Course.Sound ⟨b, []⟩
  stages : ∀ {i : Nat} {n : Node}, b.node? i = some n →
    n.stage = .collapsed ∧ n.depth = k + 1 ∨ n.stage.IsSettled ∧ n.depth ≤ k

theorem Settles.settling (h : Course.Sound ⟨b, fetches⟩) (hs : b.Settles fetches s) :
    ∃ landed, Course.Settling ⟨b, fetches⟩ [] landed s.changed ⟨s.browser, []⟩ := by
  obtain ⟨landed, hlands⟩ := hs
  exact ⟨landed, hlands.settling (by rwa [List.append_nil])⟩

theorem Settles.of_asked (h : Course.Sound ⟨b, fetches⟩) (hs : b.Settles fetches s) {i : Nat}
    {m n : Node} (hold : b.node? i = some m) (hi : i ∈ fetches.map (·.node))
    (hn : s.browser.node? i = some n) : n.stage.IsSettled ∧ n.depth = m.depth := by
  obtain ⟨landed, hsettling⟩ := hs.settling h
  have hnodes := hsettling.nodes
  rw [List.map_nil, List.append_nil] at hnodes
  obtain ⟨told, htold, rfl⟩ := List.mem_map.mp (hnodes.mem_iff.mpr hi)
  obtain ⟨hstage, htold⟩ := hsettling.settled told htold
  obtain rfl := Option.some.inj (htold.symm.trans hn)
  obtain ⟨stage, hm⟩ := hsettling.extend hold
  obtain rfl := Option.some.inj (hm.symm.trans hn)
  exact ⟨hstage, rfl⟩

theorem Settles.of_new (h : Course.Sound ⟨b, fetches⟩) (hs : b.Settles fetches s) {i : Nat}
    {n : Node} (hold : b.node? i = none) (hn : s.browser.node? i = some n) :
    n.stage = .collapsed ∧
      ∃ p m, b.node? p = some m ∧ p ∈ fetches.map (·.node) ∧ n.depth = m.depth + 1 := by
  obtain ⟨landed, hsettling⟩ := hs.settling h
  have hborn {i : Nat} {n : Node} (hnone : b.node? i = none) (hn : s.browser.node? i = some n) :
      n.stage = .collapsed := by
    obtain ⟨landed, hlands⟩ := hs
    refine Course.collapsed_of_landed h hlands.permits hnone ?_
    rwa [hlands.run]
  have hi : i ≠ 0 := by
    rintro rfl
    obtain ⟨stage, hroot⟩ := h.tree.root
    cases hold.symm.trans hroot
  obtain ⟨p, m, row, -, -, hm, hdepth, hrow⟩ := hsettling.sound.tree.parent hn hi
  refine ⟨hborn hold hn, ?_⟩
  cases hparent : b.node? p with
  | none =>
    have hcollapsed := hborn hparent hm
    simp [hcollapsed, Stage.rows, Stage.listing?] at hrow
  | some m' =>
    obtain ⟨stage, hm'⟩ := hsettling.extend hparent
    obtain rfl := Option.some.inj (hm'.symm.trans hm)
    by_cases hp : p ∈ fetches.map (·.node)
    · exact ⟨p, m', hparent, hp, hdepth⟩
    · have hkept := Option.some.inj ((hsettling.kept hparent hp).symm.trans hm)
      rw [← hkept] at hrow
      obtain ⟨-, n', hn', -⟩ := h.tree.child hparent hrow
      cases hold.symm.trans hn'

theorem Settles.openTo (h : Course.Sound ⟨b, fetches⟩) (hs : b.Settles fetches s)
    (hasked : ∀ {i n}, b.node? i = some n → i ∈ fetches.map (·.node) → n.depth = k)
    (hothers : ∀ {i n}, b.node? i = some n → i ∉ fetches.map (·.node) →
      n.stage = .collapsed ∧ n.depth = k + 1 ∨ n.stage.IsSettled ∧ n.depth ≤ k) :
    s.browser.facets = b.facets ∧ OpenTo k s.browser := by
  obtain ⟨landed, hsettling⟩ := hs.settling h
  refine ⟨hsettling.facets, hsettling.sound, fun {i n} hn => ?_⟩
  cases hold : b.node? i with
  | some m =>
    by_cases hi : i ∈ fetches.map (·.node)
    · obtain ⟨hstage, hdepth⟩ := hs.of_asked h hold hi hn
      exact Or.inr ⟨hstage, Nat.le_of_eq (hdepth.trans (hasked hold hi))⟩
    · obtain rfl := Option.some.inj ((hsettling.kept hold hi).symm.trans hn)
      exact hothers hold hi
  | none =>
    obtain ⟨hcollapsed, p, m, hm, hp, hdepth⟩ := hs.of_new h hold hn
    exact Or.inl ⟨hcollapsed, by rw [hdepth, hasked hm hp]⟩

theorem OpenTo.of_seed (hs : (Browser.new (.ofOptions options)).seed.1.Settles [⟨0, .root⟩] s) :
    s.browser.facets = .ofOptions options ∧ OpenTo 0 s.browser := by
  have hroot {i : Nat} {n : Node}
      (hn : (Browser.new (.ofOptions options)).seed.1.node? i = some n) : i = 0 ∧ n = .root :=
    Tree.node?_seedling hn
  refine hs.openTo (Course.sound_start (.ofOptions options)) ?_ ?_
  · intro i n hn _
    obtain ⟨-, rfl⟩ := hroot hn
    rfl
  · intro i n hn hi
    obtain ⟨rfl, -⟩ := hroot hn
    exact absurd (List.mem_singleton.mpr rfl) hi

theorem OpenTo.choose {facet : String} (h : OpenTo 0 b)
    (hs : (b.regrouped facet).Settles (b.regroupings facet) s) :
    s.browser.facets = b.facets.extended facet ∧ OpenTo 0 s.browser := by
  refine hs.openTo (Course.sound_choose h.sound facet) ?_ ?_
  · intro i n hn hi
    obtain ⟨m, hm, ho⟩ := h.sound.mem_nodes_regroupings.mp hi
    obtain rfl := Option.some.inj ((Tree.node?_regroup_outdated hm ho).symm.trans hn)
    obtain ⟨listing, hleaf⟩ := Tree.leaf_of_isOutdated ho
    rcases h.stages hm with ⟨hcollapsed, -⟩ | ⟨-, hdepth⟩
    · cases hleaf.symm.trans hcollapsed
    · exact Nat.le_zero.mp hdepth
  · intro i n hn hi
    rcases Tree.node?_regroup_cases hn with ⟨-, hn⟩ | ⟨m, ho, hm, -⟩
    · exact h.stages hn
    · exact absurd (h.sound.mem_nodes_regroupings.mpr ⟨m, hm, ho⟩) hi

theorem mem_collapsedWithin (h : OpenTo k b) (hk : k < depth) {i : Nat} :
    i ∈ b.collapsedWithin depth ↔ ∃ n, b.node? i = some n ∧ n.stage = .collapsed := by
  simp only [collapsedWithin, List.mem_map, List.mem_filter, Bool.and_eq_true, decide_eq_true_eq,
    Tree.mem_nodes_iff]
  constructor
  · rintro ⟨n, ⟨⟨j, hn⟩, hcollapsed, -⟩, rfl⟩
    obtain rfl := h.sound.tree.id_eq hn
    refine ⟨n, hn, ?_⟩
    cases hs : n.stage <;> simp [hs, Stage.isCollapsed] at hcollapsed ⊢
  · rintro ⟨n, hn, hs⟩
    refine ⟨n, ⟨⟨i, hn⟩, by rw [hs]; rfl, ?_⟩, h.sound.tree.id_eq hn⟩
    rcases h.stages hn with ⟨-, hdepth⟩ | ⟨-, hdepth⟩ <;> omega

theorem OpenTo.exists_activateAll (h : OpenTo k b) (hk : k < depth) :
    ∃ next fetches, b.activateAll (b.collapsedWithin depth) = .ok (next, fetches) ∧
      fetches.map (·.node) = b.collapsedWithin depth ∧ next.facets = b.facets ∧
      ∀ i, next.node? i = (b.node? i).map fun n =>
        if i ∈ b.collapsedWithin depth then { n with stage := .loading } else n := by
  have hnodup : (b.collapsedWithin depth).Nodup :=
    (Course.nodup_ids h.sound.tree).sublist (List.filter_sublist.map _)
  exact node?_activateAll h.sound.tree.id_eq hnodup fun i => (mem_collapsedWithin h hk).mp

theorem OpenTo.round (h : OpenTo k b) (hk : k < depth)
    (ha : b.activateAll (b.collapsedWithin depth) = .ok (next, fetches))
    (hs : next.Settles fetches s) :
    s.browser.facets = b.facets ∧ OpenTo (k + 1) s.browser := by
  obtain ⟨_, _, hall, hnodes, hfacets, hnode⟩ := h.exists_activateAll hk
  cases ha.symm.trans hall
  rw [← hfacets]
  refine hs.openTo (h.sound.activateAll ha) ?_ ?_
  · intro i n hn hi
    rw [hnodes] at hi
    obtain ⟨m, hm, hcollapsed⟩ := (mem_collapsedWithin h hk).mp hi
    rw [hnode, hm, Option.map_some, if_pos hi] at hn
    obtain rfl := Option.some.inj hn
    rcases h.stages hm with ⟨-, hdepth⟩ | ⟨hsettled, -⟩
    · exact hdepth
    · exact absurd hcollapsed hsettled.ne_collapsed
  · intro i n hn hi
    rw [hnodes] at hi
    cases hm : b.node? i with
    | none => simp [hnode, hm] at hn
    | some m =>
      rw [hnode, hm, Option.map_some, if_neg hi] at hn
      obtain rfl := Option.some.inj hn
      rcases h.stages hm with ⟨hcollapsed, -⟩ | ⟨hsettled, hdepth⟩
      · exact absurd ((mem_collapsedWithin h hk).mpr ⟨_, hm, hcollapsed⟩) hi
      · exact Or.inr ⟨hsettled, Nat.le_succ_of_le hdepth⟩

theorem OpenTo.all_settled (h : OpenTo k b) (hk : k < depth)
    (hnone : b.collapsedWithin depth = []) {i : Nat} {n : Node} (hn : b.node? i = some n) :
    n.stage.IsSettled ∧ n.depth ≤ k := by
  rcases h.stages hn with ⟨hcollapsed, -⟩ | hsettled
  · have hi := (mem_collapsedWithin h hk).mpr ⟨n, hn, hcollapsed⟩
    rw [hnone] at hi
    cases hi
  · exact hsettled

inductive Chooses : Browser → List String → Browser → Prop
  | done (b : Browser) : Chooses b [] b
  | choose {b next last : Browser} {facet : String} {fetches : List Fetch} {s : Settled}
      {facets : List String} : b.choose facet = .ok (next, fetches) → next.Settles fetches s →
      Chooses s.browser facets last → Chooses b (facet :: facets) last

inductive Deepens (depth : Nat) : Nat → Browser → Browser → Prop
  | done (b : Browser) : Deepens depth 0 b b
  | stop {b : Browser} (rounds : Nat) : b.collapsedWithin depth = [] →
      Deepens depth (rounds + 1) b b
  | round {b next last : Browser} {rounds : Nat} {fetches : List Fetch} {s : Settled} :
      b.collapsedWithin depth ≠ [] →
      b.activateAll (b.collapsedWithin depth) = .ok (next, fetches) → next.Settles fetches s →
      Deepens depth rounds s.browser last → Deepens depth (rounds + 1) b last

def Browses (options facets : List String) (depth rounds : Nat) (last : Browser) : Prop :=
  ∃ s start, (Browser.new (.ofOptions options)).seed.1.Settles [⟨0, .root⟩] s ∧
    s.browser.Chooses facets start ∧ start.Deepens depth rounds last

theorem Chooses.openTo (hc : b.Chooses facets last) (h : OpenTo 0 b) :
    OpenTo 0 last ∧ last.facets.chosen = b.facets.chosen ++ facets := by
  induction hc with
  | done b => exact ⟨h, (List.append_nil _).symm⟩
  | @choose b next last facet fetches s facets hchoose hs _ ih =>
    by_cases hf : facet ∈ b.facets.offered
    · rw [choose_offered hf] at hchoose
      cases hchoose
      obtain ⟨hfacets, hopen⟩ := h.choose hs
      obtain ⟨hlast, hchosen⟩ := ih hopen
      refine ⟨hlast, ?_⟩
      rw [hchosen, hfacets, Facets.extended, List.append_assoc]
      rfl
    · rw [choose_refused hf] at hchoose
      cases hchoose

theorem Deepens.openTo (hd : b.Deepens depth rounds last) (h : OpenTo k b)
    (hk : k + rounds ≤ depth) : last.facets = b.facets ∧ OpenTo (k + rounds) last := by
  induction hd generalizing k with
  | done b => exact ⟨rfl, h⟩
  | stop rounds hnone =>
    refine ⟨rfl, h.sound, fun hn => ?_⟩
    obtain ⟨hsettled, hdepth⟩ := h.all_settled (by omega) hnone hn
    exact Or.inr ⟨hsettled, Nat.le_add_right_of_le hdepth⟩
  | @round b next last rounds fetches s _ ha hs _ ih =>
    obtain ⟨hfacets, hopen⟩ := h.round (by omega) ha hs
    obtain ⟨hlast, hrounds⟩ := ih hopen (by omega)
    refine ⟨hlast.trans hfacets, ?_⟩
    rwa [Nat.succ_add_eq_add_succ] at hrounds

theorem Browses.openTo (hb : Browses options facets depth rounds last) (hr : rounds ≤ depth) :
    OpenTo rounds last ∧ last.facets.chosen = facets := by
  obtain ⟨s, start, hseed, hchoose, hdeepen⟩ := hb
  obtain ⟨hfacets, hroot⟩ := OpenTo.of_seed hseed
  obtain ⟨hstart, hchosen⟩ := hchoose.openTo hroot
  obtain ⟨hlast, hopen⟩ := hdeepen.openTo hstart (by omega)
  rw [Nat.zero_add] at hopen
  refine ⟨hopen, ?_⟩
  rw [hlast, hchosen, hfacets]
  rfl

theorem chooseAll_cons {facet : String} (hf : facet ∈ b.facets.offered) :
    b.chooseAll source (facet :: facets) =
      ((b.regrouped facet).settle source (b.regroupings facet)).browser.chooseAll
        source facets := by
  simp only [chooseAll, chooseAndSettle, choose_offered hf, bind, Except.bind]

theorem chooseAll_refused {facet : String} (hf : facet ∉ b.facets.offered) :
    b.chooseAll source (facet :: facets) = .error ⟨facet⟩ := by
  simp only [chooseAll, chooseAndSettle, choose_refused hf, bind, Except.bind]

theorem chooses_chooseAll (h : b.chooseAll source facets = .ok last) : b.Chooses facets last := by
  induction facets generalizing b with
  | nil =>
    obtain rfl := Except.ok.inj h
    exact .done b
  | cons facet facets ih =>
    by_cases hf : facet ∈ b.facets.offered
    · rw [chooseAll_cons hf] at h
      exact .choose (choose_offered hf) (settles_settle _ source _) (ih h)
    · rw [chooseAll_refused hf] at h
      cases h

theorem exists_chooseAll_iff (source : Source) (facets : List String) (h : OpenTo 0 b)
    (hc : Facets.Consistent options b.facets) :
    (∃ last, b.chooseAll source facets = .ok last) ↔
      facets.Nodup ∧ ∀ facet ∈ facets, facet ∈ b.facets.offered := by
  induction facets generalizing b with
  | nil => simp [chooseAll]
  | cons facet facets ih =>
    by_cases hf : facet ∈ b.facets.offered
    · have hs := (b.regrouped facet).settles_settle source (b.regroupings facet)
      obtain ⟨hfacets, hopen⟩ := h.choose hs
      have hc' := hc.extended hf
      rw [← hfacets] at hc'
      have hoffered {x : String} : x ∈ ((b.regrouped facet).settle source
          (b.regroupings facet)).browser.facets.offered ↔ x ∈ b.facets.offered ∧ x ≠ facet := by
        rw [hc'.mem_offered, hc.mem_offered, hfacets]
        simp [Facets.extended, and_assoc]
      rw [chooseAll_cons hf, ih hopen hc', List.nodup_cons, List.forall_mem_cons]
      constructor
      · rintro ⟨hnodup, hall⟩
        exact ⟨⟨fun hmem => (hoffered.mp (hall facet hmem)).2 rfl, hnodup⟩, hf,
          fun x hx => (hoffered.mp (hall x hx)).1⟩
      · rintro ⟨⟨hnot, hnodup⟩, -, hall⟩
        exact ⟨hnodup, fun x hx => hoffered.mpr ⟨hall x hx, ne_of_mem_of_not_mem hx hnot⟩⟩
    · simp [chooseAll_refused hf, hf]

theorem expand_of_ne_nil (source : Source) (rounds : Nat)
    (hsome : b.collapsedWithin depth ≠ []) : expand source depth (rounds + 1) b =
      b.activateAll (b.collapsedWithin depth) >>= fun result =>
        expand source depth rounds (result.1.settle source result.2).browser := by
  rw [expand]
  split
  · rename_i hnone
    exact absurd hnone hsome
  · rfl

theorem deepens_expand (h : expand source depth rounds b = .ok last) :
    b.Deepens depth rounds last := by
  induction rounds generalizing b with
  | zero =>
    cases h
    exact .done _
  | succ rounds ih =>
    by_cases hnone : b.collapsedWithin depth = []
    · rw [expand, hnone] at h
      cases h
      exact .stop rounds hnone
    · rw [expand_of_ne_nil source rounds hnone] at h
      obtain ⟨⟨next, fetches⟩, ha, hrest⟩ := ok_of_bind_ok h
      exact .round hnone ha (settles_settle next source fetches) (ih hrest)

theorem OpenTo.exists_expand (source : Source) (h : OpenTo k b) (hk : k + rounds ≤ depth) :
    ∃ last, expand source depth rounds b = .ok last := by
  induction rounds generalizing b k with
  | zero => exact ⟨b, rfl⟩
  | succ rounds ih =>
    by_cases hnone : b.collapsedWithin depth = []
    · exact ⟨b, by rw [expand, hnone]⟩
    · obtain ⟨next, fetches, ha, -⟩ := h.exists_activateAll (show k < depth by omega)
      have hround := h.round (by omega) ha (settles_settle next source fetches)
      rw [expand_of_ne_nil source rounds hnone, ha]
      exact ih hround.2 (by omega)

theorem browse_eq_ok_iff : browse source options facets depth = .ok last ↔ ∃ chosen,
    ((Browser.new (.ofOptions options)).seed.1.settle source [⟨0, .root⟩]).browser.chooseAll
      source facets = .ok chosen ∧ expand source depth depth chosen = .ok last := by
  simp only [browse, seedAndSettle, seed, new, bind, Except.bind, Bool.false_eq_true, if_false,
    Option.toList_some]
  generalize Browser.chooseAll source _ facets = chosen
  cases chosen with
  | error e => simp [Except.mapError]
  | ok chosen => cases hlast : expand source depth depth chosen <;> simp [Except.mapError, hlast]

theorem browse_opens_to_depth (options facets : List String) (depth : Nat) :
    (∀ source, (∃ b, browse source options facets depth = .ok b) ↔
      facets.Nodup ∧ ∀ facet ∈ facets, facet ∈ options) ∧
    (∀ source b, browse source options facets depth = .ok b →
      Browses options facets depth depth b) ∧
    (∀ b, Browses options facets depth depth b → b.facets.chosen = facets ∧
      (∀ n ∈ b.tree.nodes, n.stage ≠ .loading ∧ (n.depth ≤ depth → n.stage.IsSettled) ∧
        (n.stage = .collapsed → n.depth = depth + 1)) ∧
      (facets.length ≤ depth → ∀ n ∈ b.tree.nodes, n.stage ≠ .collapsed)) ∧
    ∀ rounds < depth, ∀ b, Browses options facets depth rounds b →
      b.collapsedWithin depth = [] → ∀ n ∈ b.tree.nodes, n.stage.IsSettled := by
  have hseed (source : Source) :=
    (Browser.new (.ofOptions options)).seed.1.settles_settle source [⟨0, .root⟩]
  refine ⟨fun source => ?_, fun source b hb => ?_, fun b hb => ?_, ?_⟩
  · obtain ⟨hfacets, hroot⟩ := OpenTo.of_seed (hseed source)
    have hconsistent := Facets.consistent_ofOptions options
    have hoffered {x : String} : x ∈ (Facets.ofOptions options).offered ↔ x ∈ options :=
      hconsistent.mem_offered.trans (and_iff_left List.not_mem_nil)
    have hchoose := exists_chooseAll_iff source facets hroot (hfacets ▸ hconsistent)
    simp only [hfacets, hoffered] at hchoose
    rw [← hchoose]
    constructor
    · rintro ⟨b, hb⟩
      obtain ⟨chosen, hchosen, -⟩ := browse_eq_ok_iff.mp hb
      exact ⟨chosen, hchosen⟩
    · rintro ⟨chosen, hchosen⟩
      have hopen := ((chooses_chooseAll hchosen).openTo hroot).1
      obtain ⟨b, hb⟩ := hopen.exists_expand source (Nat.zero_add depth).le
      exact ⟨b, browse_eq_ok_iff.mpr ⟨chosen, hchosen, hb⟩⟩
  · obtain ⟨chosen, hchosen, hlast⟩ := browse_eq_ok_iff.mp hb
    exact ⟨_, chosen, hseed source, chooses_chooseAll hchosen, deepens_expand hlast⟩
  · obtain ⟨hopen, hchosen⟩ := hb.openTo (Nat.le_refl depth)
    refine ⟨hchosen, fun n hn => ?_, fun hle n hn hcollapsed => ?_⟩
    · obtain ⟨i, hn⟩ := Tree.mem_nodes_iff.mp hn
      rcases hopen.stages hn with ⟨hcollapsed, hdepth⟩ | ⟨hsettled, -⟩
      · exact ⟨by simp [hcollapsed], fun hle => by omega, fun _ => hdepth⟩
      · exact ⟨hsettled.ne_loading, fun _ => hsettled,
          fun hcollapsed => absurd hcollapsed hsettled.ne_collapsed⟩
    · obtain ⟨i, hn⟩ := Tree.mem_nodes_iff.mp hn
      have hlevel := (hopen.sound.levelled hn).depth_le
      rw [hchosen] at hlevel
      rcases hopen.stages hn with ⟨-, hdepth⟩ | ⟨hsettled, -⟩
      · omega
      · exact hsettled.ne_collapsed hcollapsed
  · intro rounds hr b hb hnone n hn
    obtain ⟨i, hn⟩ := Tree.mem_nodes_iff.mp hn
    exact ((hb.openTo (Nat.le_of_lt hr)).1.all_settled hr hnone hn).1

theorem groups_opened_beside_failure :
    let source : Source := ⟨fun _ => .ok ⟨3, []⟩, fun q facet =>
      if facet = "type" then .ok ⟨3, [⟨"csv", 2⟩, ⟨"pdf", 1⟩], ⟨0, []⟩⟩
      else if q = .equals "type" "pdf" then .error (.transport "no answer")
      else .ok ⟨2, [⟨"x", 2⟩], ⟨0, []⟩⟩⟩
    ∃ b, browse source ["type", "lab"] ["type", "lab"] 1 = .ok b ∧
      b.tree.nodes.map (fun n => (n.depth, n.stage.isCollapsed)) =
        [(0, false), (1, false), (1, false), (2, true)] ∧
      ∀ n ∈ b.tree.nodes, n.stage ≠ .loading ∧ (n.depth ≤ 1 → n.stage.IsSettled) ∧
        (n.stage = .collapsed → n.depth = 2) := by
  intro source
  obtain ⟨haccepts, hbrowses, hopen, -⟩ := browse_opens_to_depth ["type", "lab"] ["type", "lab"] 1
  obtain ⟨b, hb⟩ := (haccepts source).mpr ⟨by decide, by decide⟩
  have hnodes : (browse source ["type", "lab"] ["type", "lab"] 1).toOption.map
      (fun b => b.tree.nodes.map fun n => (n.depth, n.stage.isCollapsed)) =
        some [(0, false), (1, false), (1, false), (2, true)] := by
    decide +kernel
  rw [hb] at hnodes
  exact ⟨b, hb, Option.some.inj hnodes, (hopen b (hbrowses source b hb)).2.1⟩

end Browser
end FacetBrowser
