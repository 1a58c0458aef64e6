import FacetBrowser.Proofs.Filling
import FacetBrowser.Proofs.Sound

namespace FacetBrowser

def Tree.Shows (t : Tree) (answers : Question → Except SourceError Answer → Prop)
    (facets : Facets) (n : Node) : Prop :=
  ∃ q a start, q.Suits facets n ∧ answers q a ∧ t.Fills n start a

theorem Question.Suits.restage {q : Question} {facets : Facets} {n : Node}
    (h : q.Suits facets n) (stage : Stage) : q.Suits facets { n with stage := stage } := by
  cases q <;> exact h

theorem Tree.Shows.mono {t t' : Tree} {answers : Question → Except SourceError Answer → Prop}
    {facets facets' : Facets} {n : Node} (h : t.Shows answers facets n) (ht : t.Extends t')
    (hf : ∀ {q : Question}, q.Suits facets n → q.Suits facets' n) :
    t'.Shows answers facets' n := by
  obtain ⟨q, a, start, hq, ha, hfill⟩ := h
  exact ⟨q, a, start, hf hq, ha, hfill.mono ht⟩

namespace Course

def Accounted (answers : Question → Except SourceError Answer → Prop) (c : Course) : Prop :=
  ∀ i n, c.browser.node? i = some n → n.stage = .collapsed ∨ n.stage = .loading ∨
    c.browser.tree.Shows answers c.browser.facets n

variable {answers : Question → Except SourceError Answer → Prop} {c c' : Course} {m : Move}

theorem accounted_new (answers : Question → Except SourceError Answer → Prop)
    (facets : Facets) : (new facets).Accounted answers := by
  intro i n hn
  obtain ⟨rfl, rfl⟩ := Tree.node?_seedling hn
  exact Or.inr (Or.inl rfl)

theorem Accounted.grown (h : c.Accounted answers) {n : Node} {stage : Stage}
    {children : List Node} {rest : List Fetch} (hn : c.browser.node? n.id = some n)
    (hg : Growth n c.browser.tree.nodes.length stage children)
    (hself : stage = .loading ∨
      (c.browser.tree.grow n stage children).Shows answers c.browser.facets
        { n with stage := stage }) :
    Accounted answers ⟨c.browser.grown n stage children, rest⟩ := by
  intro i m hm
  rcases Tree.node?_grow_cases (Tree.lt_of_node? hn) hm with
    ⟨rfl, rfl⟩ | ⟨-, hm⟩ | ⟨k, rfl, hk⟩
  · exact Or.inr hself
  · rcases h i m hm with hc | hl | hr
    · exact Or.inl hc
    · exact Or.inr (Or.inl hl)
    · exact Or.inr (Or.inr (hr.mono (Tree.extends_grow hn) id))
  · exact Or.inl (hg.child hk).2.2.2

theorem Accounted.regrouped (h : c.Accounted answers) (facet : String) {rest : List Fetch} :
    Accounted answers ⟨c.browser.regrouped facet, rest⟩ := by
  intro i m hm
  rcases Tree.node?_regroup_cases hm with ⟨-, hm⟩ | ⟨n, -, -, rfl⟩
  · rcases h i m hm with hc | hl | hr
    · exact Or.inl hc
    · exact Or.inr (Or.inl hl)
    · exact Or.inr (Or.inr (hr.mono (Tree.extends_regroup _ _) (·.extended facet)))
  · exact Or.inr (Or.inl rfl)

theorem Accounted.step (h : c.Accounted answers) (hc : c.Sound) (hs : Step answers c m c') :
    c'.Accounted answers := by
  cases hs with
  | seeded | unknown | ignore | refuse | seed | drop | stale => exact h
  | activate hn _ =>
    obtain rfl := hc.tree.id_eq hn
    exact h.grown hn (.loading _ _) (Or.inl rfl)
  | choose hf => exact h.regrouped _
  | @fresh fetch a n hf ha hn hl hfresh =>
    have hq := hc.suits_node hf hn
    have hid : n.id = fetch.node := hc.tree.id_eq hn
    rw [← hid] at hn
    exact h.grown hn (n.growth_expanded _ _) (Or.inr ⟨fetch.question, a, _, hq.restage _, ha,
      Tree.fills_grow (Tree.lt_of_node? hn) _⟩)

theorem accounted_run {facets : Facets} {ms : List Move}
    (h : (new facets).Permits answers ms) (hle : ∀ {q a}, answers q a → q.Admits a) :
    ((new facets).run ms).Sound ∧ ((new facets).run ms).Accounted answers := by
  refine h.invariant (P := fun _ c => c.Sound ∧ c.Accounted answers)
    ⟨sound_new facets, accounted_new answers facets⟩ ?_
  intro ms c m ⟨hsound, haccounted⟩ hm
  exact ⟨hsound.step (hm.mono hle).step, haccounted.step hsound hm.step⟩

end Course
end FacetBrowser
