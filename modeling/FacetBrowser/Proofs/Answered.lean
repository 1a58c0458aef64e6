import FacetBrowser.Proofs.Accounted

namespace FacetBrowser

def Tree.Reflects (t : Tree) (o : Oracle) (facets : Facets) (n : Node) : Prop :=
  ∃ q start, q.Suits facets n ∧ t.Fills n start (o.answer q)

namespace Course

def Answered (o : Oracle) (c : Course) : Prop :=
  ∀ i n, c.browser.node? i = some n →
    n.stage = .collapsed ∨ n.stage = .loading ∨ c.browser.tree.Reflects o c.browser.facets n

variable {o : Oracle} {c : Course}

theorem Accounted.answered (h : c.Accounted o.Gives) : c.Answered o := by
  intro i n hn
  rcases h i n hn with hc | hl | ⟨q, a, start, hq, ha, hfill⟩
  · exact Or.inl hc
  · exact Or.inr (Or.inl hl)
  · obtain rfl : a = o.answer q := ha
    exact Or.inr (Or.inr ⟨q, start, hq, hfill⟩)

theorem answered_run {facets : Facets} {ms : List Move}
    (h : (new facets).Permits o.Gives ms) :
    ((new facets).run ms).Sound ∧ ((new facets).run ms).Answered o := by
  obtain ⟨hsound, haccounted⟩ := accounted_run h Oracle.admits_of_gives
  exact ⟨hsound, haccounted.answered⟩

end Course
end FacetBrowser
