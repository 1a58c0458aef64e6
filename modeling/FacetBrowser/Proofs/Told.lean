import FacetBrowser.Proofs.Issued

namespace FacetBrowser

theorem Tree.node?_grow_childless {t : Tree} {n : Node} {stage : Stage} {i : Nat}
    (hi : i ≠ n.id) : (t.grow n stage []).node? i = t.node? i := by
  simp only [Tree.node?, Tree.grow, Tree.set, List.append_nil,
    List.getElem?_set_ne (Ne.symm hi)]

namespace Course

def told (c : Course) : Move → List Node
  | .complete fetch answer => (c.browser.receive ⟨fetch.node, answer⟩).2.changed.toList
  | m => (c.issued m).filterMap fun fetch => (c.after m).browser.node? fetch.node

inductive Turns (c c' : Course) (i : Nat) : List Node → Prop
  | kept : c'.browser.node? i = c.browser.node? i → Turns c c' i []
  | born {n : Node} : c.browser.node? i = none → c'.browser.node? i = some n →
      n.stage = .collapsed → Turns c c' i []
  | begun {n : Node} : c.browser.node? i = some n →
      n.stage = .collapsed ∨ (∃ listing, n.stage = .leaf listing) ∧ c'.Grouped i →
      c'.browser.node? i = some { n with stage := .loading } →
      Turns c c' i [{ n with stage := .loading }]
  | settled {n : Node} {stage : Stage} : c.browser.node? i = some n → n.stage = .loading →
      stage ≠ .collapsed → stage ≠ .loading →
      c'.browser.node? i = some { n with stage := stage } →
      Turns c c' i [{ n with stage := stage }]

variable {c c' : Course} {m : Move} {fetches : List Fetch} {i : Nat}

theorem filter_nodes {b : Browser} (hid : ∀ {i n}, b.node? i = some n → n.id = i)
    (hnodup : (fetches.map (·.node)).Nodup) (i : Nat) :
    (fetches.filterMap fun fetch => b.node? fetch.node).filter (·.id = i) =
      if i ∈ fetches.map (·.node) then (b.node? i).toList else [] := by
  induction fetches with
  | nil => rfl
  | cons fetch fetches ih =>
    obtain ⟨hnot, hnodup⟩ := List.nodup_cons.mp hnodup
    have hrest := ih hnodup
    by_cases hi : i = fetch.node
    · subst hi
      rw [if_neg hnot] at hrest
      cases hn : b.node? fetch.node with
      | none => simp [hn, hrest]
      | some n => simp [hn, hrest, hid hn]
    · cases hn : b.node? fetch.node with
      | none => simp [hn, hrest, hi]
      | some n => simp [hn, hrest, hi, hid hn, Ne.symm hi]

theorem Turns.of_issued (hc' : c'.Sound) (hnodup : (fetches.map (·.node)).Nodup)
    (hkept : i ∉ fetches.map (·.node) → c'.browser.node? i = c.browser.node? i)
    (hbegun : i ∈ fetches.map (·.node) → ∃ n, c.browser.node? i = some n ∧
      (n.stage = .collapsed ∨ (∃ listing, n.stage = .leaf listing) ∧ c'.Grouped i) ∧
      c'.browser.node? i = some { n with stage := .loading }) :
    Turns c c' i
      ((fetches.filterMap fun fetch => c'.browser.node? fetch.node).filter (·.id = i)) := by
  rw [filter_nodes hc'.tree.id_eq hnodup]
  split
  · rename_i hi
    obtain ⟨n, hn, hstage, hn'⟩ := hbegun hi
    rw [hn']
    exact .begun hn hstage hn'
  · rename_i hi
    exact .kept (hkept hi)

theorem turns_activate (hc : c.Sound) {id : Nat} {n : Node} (hn : c.browser.node? id = some n)
    (hcollapsed : n.stage = .collapsed) (i : Nat) :
    let c' : Course := ⟨c.browser.grown n .loading [],
      c.outstanding ++ [⟨id, .ofNode c.browser.facets n⟩]⟩
    Turns c c' i (([⟨id, .ofNode c.browser.facets n⟩].filterMap fun (fetch : Fetch) =>
      c'.browser.node? fetch.node).filter (·.id = i)) := by
  intro c'
  obtain rfl := hc.tree.id_eq hn
  refine .of_issued (sound_activate hc hn hcollapsed) (List.nodup_singleton _) ?_ ?_
  · intro hi
    exact Tree.node?_grow_childless fun h => hi (List.mem_singleton.mpr h)
  · intro hi
    obtain rfl := List.mem_singleton.mp hi
    exact ⟨n, hn, Or.inl hcollapsed, Tree.node?_grow_self (Tree.lt_of_node? hn)⟩

theorem turns_choose (hc : c.Sound) (facet : String) (i : Nat) :
    let c' : Course := ⟨c.browser.regrouped facet, c.outstanding ++ c.browser.regroupings facet⟩
    Turns c c' i (((c.browser.regroupings facet).filterMap fun fetch =>
      c'.browser.node? fetch.node).filter (·.id = i)) := by
  intro c'
  have hc' : c'.Sound := sound_choose hc facet
  refine .of_issued hc' (hc'.nodup_issued rfl) ?_ ?_
  · intro hi
    rw [hc.mem_nodes_regroupings] at hi
    cases hn : c.browser.node? i with
    | none =>
      have hnone : c.browser.tree.node? i = none := hn
      simp only [c', Browser.node?, Browser.regrouped, Tree.node?_regroup, hnone, Option.map_none]
    | some n =>
      exact Tree.node?_regroup_kept hn (Bool.eq_false_iff.mpr fun ho => hi ⟨n, hn, ho⟩)
  · intro hi
    obtain ⟨n, hn, ho⟩ := hc.mem_nodes_regroupings.mp hi
    exact ⟨n, hn, Or.inr ⟨Tree.leaf_of_isOutdated ho, .of_regrouped hc hi⟩,
      Tree.node?_regroup_outdated hn ho⟩

theorem turns_fresh (hc : c.Sound) {fetch : Fetch} {a : Except SourceError Answer} {n : Node}
    (hn : c.browser.node? fetch.node = some n) (hl : n.stage = .loading)
    {outstanding : List Fetch} (i : Nat) :
    let grown := n.expanded c.browser.tree.nodes.length a
    Turns c ⟨c.browser.grown n grown.1 grown.2, outstanding⟩ i
      ([{ n with stage := grown.1 }].filter (·.id = i)) := by
  intro grown
  have hlt : n.id < c.browser.tree.nodes.length := hc.tree.id_eq hn ▸ Tree.lt_of_node? hn
  by_cases hi : n.id = i
  · subst hi
    rw [List.filter_cons_of_pos (by simp)]
    exact .settled (hc.tree.id_eq hn ▸ hn) hl (n.expanded_ne_collapsed _ a)
      (n.expanded_ne_loading _ a) (Tree.node?_grow_self hlt)
  · rw [List.filter_cons_of_neg (by simpa using hi)]
    cases hold : c.browser.node? i with
    | some m => exact .kept (node?_grown_ne (Ne.symm hi) ⟨m, hold⟩)
    | none =>
      cases hnew : (c.browser.grown n grown.1 grown.2).node? i with
      | none => exact .kept (hnew.trans hold.symm)
      | some m =>
        rcases Tree.node?_grow_cases hlt hnew with ⟨rfl, -⟩ | ⟨-, hm⟩ | ⟨k, -, hk⟩
        · exact absurd rfl hi
        · cases hold.symm.trans hm
        · exact .born hold hnew ((n.growth_expanded _ a).child hk).2.2.2

theorem Allows.turns (hm : c.Allows Question.Admits m) (hc : c.Sound)
    (hseeded : c.browser.seeded = true) (i : Nat) :
    Turns c (c.after m) i ((c.told m).filter (·.id = i)) := by
  cases m with
  | seed =>
    have hnone : c.browser.seed = (c.browser, none) := by simp [Browser.seed, hseeded]
    simp only [told, issued, hnone]
    exact .kept (by simp only [after, hnone])
  | activate id =>
    simp only [told, issued, after]
    cases hn : c.browser.node? id with
    | none =>
      simp only [Browser.activate_unknown hn]
      exact .kept rfl
    | some n =>
      by_cases hcollapsed : n.stage = .collapsed
      · simp only [Browser.activate_collapsed hn hcollapsed]
        exact turns_activate hc hn hcollapsed i
      · simp only [Browser.activate_open hn hcollapsed]
        exact .kept rfl
  | choose facet =>
    simp only [told, issued, after]
    by_cases hf : facet ∈ c.browser.facets.offered
    · simp only [Browser.choose_offered hf]
      exact turns_choose hc facet i
    · simp only [Browser.choose_refused hf]
      exact .kept rfl
  | complete fetch a =>
    obtain ⟨n, hn, hl, -⟩ := hc.suits hm.1
    simp only [told, after]
    cases hs : n.isStale c.browser.facets a with
    | true =>
      rw [Browser.receive_stale (r := ⟨fetch.node, a⟩) hn hl hs]
      exact .kept rfl
    | false =>
      rw [Browser.receive_fresh (r := ⟨fetch.node, a⟩) hn hl hs]
      exact turns_fresh hc hn hl i

end Course
end FacetBrowser
