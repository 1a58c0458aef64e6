import FacetBrowser.Proofs.Course

namespace FacetBrowser

def Stage.rows (s : Stage) : List Row :=
  match s.listing? with
  | some listing => listing.rows
  | none => []

namespace Node

def expanded (n : Node) (start : Nat) : Except SourceError Answer → Stage × List Node
  | .error e => (.failed (.source e), [])
  | .ok (.sample s) =>
    match s.unlisted with
    | .error mismatch => (.failed (.inconsistent mismatch), [])
    | .ok unlisted => (.leaf ⟨s.count, s.items.map .item ++ Browser.moreRows unlisted⟩, [])
  | .ok (.group facet g) =>
    match g.unlisted with
    | .error mismatch => (.failed (.inconsistent mismatch), [])
    | .ok unlisted =>
      match g.ungrouped.unlisted with
      | .error mismatch => (.failed (.inconsistent mismatch), [])
      | .ok ungrouped =>
        let children := Browser.childrenOf n facet start g.groups
        (.branch ⟨g.count, children.map (.child ·.id) ++ Browser.moreRows unlisted
          ++ g.ungrouped.items.map .item ++ Browser.moreRows ungrouped⟩, children)

def isStale (facets : Facets) (n : Node) : Except SourceError Answer → Bool
  | .ok (.sample _) => n.depth < facets.chosen.length
  | _ => false

end Node

namespace Tree

variable {t : Tree} {n m : Node} {stage : Stage} {children : List Node}

def grow (t : Tree) (n : Node) (stage : Stage) (children : List Node) : Tree :=
  (Tree.mk (t.nodes ++ children)).set { n with stage := stage }

def regroup (t : Tree) (facets : Facets) : Tree :=
  ⟨t.nodes.map fun n => if Browser.isOutdated facets n then { n with stage := .loading } else n⟩

theorem lt_of_node? {i : Nat} (h : t.node? i = some n) : i < t.nodes.length :=
  (List.getElem?_eq_some_iff.mp h).1

theorem rows_of_node? {i : Nat} (h : t.node? i = some n) : t.rows i = n.stage.rows := by
  simp only [rows, listing?, h, Option.bind_some]
  rfl

theorem mem_nodes_iff : n ∈ t.nodes ↔ ∃ i, t.node? i = some n :=
  List.mem_iff_getElem?

theorem length_grow (t : Tree) (n : Node) (stage : Stage) (children : List Node) :
    (t.grow n stage children).nodes.length = t.nodes.length + children.length := by
  simp [grow, set]

theorem node?_grow_self (h : n.id < t.nodes.length) :
    (t.grow n stage children).node? n.id = some { n with stage := stage } := by
  have hlt : n.id < (t.nodes ++ children).length := by
    rw [List.length_append]
    omega
  simp only [node?, grow, set, List.getElem?_set_self hlt]

theorem node?_grow_old {i : Nat} (hi : i ≠ n.id) (h : t.node? i = some m) :
    (t.grow n stage children).node? i = some m := by
  simp only [node?, grow, set, List.getElem?_set_ne (Ne.symm hi),
    List.getElem?_append_left (lt_of_node? h)]
  exact h

theorem node?_grow_new (h : n.id < t.nodes.length) (k : Nat) :
    (t.grow n stage children).node? (t.nodes.length + k) = children[k]? := by
  have hne : n.id ≠ t.nodes.length + k := by omega
  simp only [node?, grow, set, List.getElem?_set_ne hne]
  rw [List.getElem?_append_right (Nat.le_add_right _ _), Nat.add_sub_cancel_left]

theorem node?_grow_cases (hn : n.id < t.nodes.length) {i : Nat}
    (h : (t.grow n stage children).node? i = some m) :
    (i = n.id ∧ m = { n with stage := stage }) ∨ (i ≠ n.id ∧ t.node? i = some m) ∨
      ∃ k, i = t.nodes.length + k ∧ children[k]? = some m := by
  by_cases hi : i = n.id
  · subst hi
    rw [node?_grow_self hn] at h
    exact Or.inl ⟨rfl, (Option.some.inj h).symm⟩
  · right
    by_cases hlt : i < t.nodes.length
    · left
      have hold : t.node? i = some t.nodes[i] := List.getElem?_eq_getElem hlt
      rw [node?_grow_old hi hold] at h
      exact ⟨hi, hold.trans h⟩
    · right
      obtain ⟨k, rfl⟩ := Nat.exists_eq_add_of_le (Nat.le_of_not_lt hlt)
      exact ⟨k, rfl, (node?_grow_new hn k).symm.trans h⟩

theorem node?_regroup (t : Tree) (facets : Facets) (i : Nat) :
    (t.regroup facets).node? i = (t.node? i).map fun n =>
      if Browser.isOutdated facets n then { n with stage := .loading } else n := by
  simp only [node?, regroup, List.getElem?_map]

end Tree

def Facets.extended (f : Facets) (facet : String) : Facets :=
  ⟨f.chosen ++ [facet], f.offered.erase facet, f.revision + 1⟩

namespace Browser

variable {b : Browser} {n : Node} {id : Nat}

def grown (b : Browser) (n : Node) (stage : Stage) (children : List Node) : Browser :=
  { b with tree := b.tree.grow n stage children }

def regrouped (b : Browser) (facet : String) : Browser :=
  { b with
    facets := b.facets.extended facet
    tree := b.tree.regroup (b.facets.extended facet) }

def regroupings (b : Browser) (facet : String) : List Fetch :=
  (b.tree.nodes.filter (isOutdated (b.facets.extended facet))).map fun n =>
    ⟨n.id, .ofNode (b.facets.extended facet) n⟩

theorem set_eq_grown (b : Browser) (n : Node) (stage : Stage) :
    b.set { n with stage := stage } = b.grown n stage [] := by
  simp [set, grown, Tree.grow]

theorem activate_unknown (h : b.node? id = none) : b.activate id = .error ⟨id⟩ := by
  simp only [activate, h]

theorem activate_open (h : b.node? id = some n) (hs : n.stage ≠ .collapsed) :
    b.activate id = .ok (b, none) := by
  simp only [activate, h]

theorem activate_collapsed (h : b.node? id = some n) (hs : n.stage = .collapsed) :
    b.activate id = .ok (b.grown n .loading [], some ⟨id, .ofNode b.facets n⟩) := by
  simp only [activate, h, hs, ← set_eq_grown]

theorem choose_offered {facet : String} (h : facet ∈ b.facets.offered) :
    b.choose facet = .ok (b.regrouped facet, b.regroupings facet) := by
  simp only [choose, Facets.choose, if_pos h]
  rfl

theorem choose_refused {facet : String} (h : facet ∉ b.facets.offered) :
    b.choose facet = .error ⟨facet⟩ := by
  simp only [choose, Facets.choose, if_neg h]

theorem receive_unknown {r : Reply} (h : b.node? r.node = none) :
    b.receive r = (b, .nothing) := by
  simp only [receive, h]

theorem receive_idle {r : Reply} (h : b.node? r.node = some n)
    (hs : n.stage ≠ .loading) : b.receive r = (b, .nothing) := by
  simp only [receive, h]

theorem receive_stale {r : Reply} (h : b.node? r.node = some n)
    (hs : n.stage = .loading) (hstale : n.isStale b.facets r.answer = true) :
    b.receive r = (b, ⟨none, some ⟨r.node, .ofNode b.facets n⟩⟩) := by
  obtain ⟨id, answer⟩ := r
  match answer, hstale with
  | .ok (.sample s), hstale =>
    have hd : n.depth < b.facets.chosen.length := of_decide_eq_true hstale
    simp only [receive, h, hs, if_pos hd]

theorem receive_fresh {r : Reply} (h : b.node? r.node = some n)
    (hs : n.stage = .loading) (hstale : n.isStale b.facets r.answer = false) :
    b.receive r =
      (b.grown n (n.expanded b.tree.nodes.length r.answer).1
          (n.expanded b.tree.nodes.length r.answer).2,
        ⟨some { n with stage := (n.expanded b.tree.nodes.length r.answer).1 }, none⟩) := by
  obtain ⟨id, answer⟩ := r
  match answer, hstale with
  | .error e, _ => simp only [receive, h, hs, fail, put, Node.expanded, set_eq_grown]
  | .ok (.sample s), hstale =>
    have hd : ¬ n.depth < b.facets.chosen.length := of_decide_eq_false hstale
    simp only [receive, h, hs, if_neg hd, putLeaf, Node.expanded]
    cases s.unlisted <;> simp only [fail, put, set_eq_grown]
  | .ok (.group facet g), _ =>
    simp only [receive, h, hs, putBranch, Node.expanded]
    cases g.unlisted with
    | error mismatch => simp only [fail, put, set_eq_grown]
    | ok unlisted =>
      cases g.ungrouped.unlisted with
      | error mismatch => simp only [fail, put, set_eq_grown]
      | ok ungrouped => rfl

end Browser

namespace Course

variable {answers : Question → Except SourceError Answer → Prop} {c : Course}

inductive Step (answers : Question → Except SourceError Answer → Prop) (c : Course) :
    Move → Course → Prop
  | seeded : c.browser.seeded = true → Step answers c .seed c
  | seed : c.browser.seeded = false →
      Step answers c .seed ⟨{ c.browser with seeded := true }, c.outstanding ++ [⟨0, .root⟩]⟩
  | unknown {id : Nat} : c.browser.node? id = none → Step answers c (.activate id) c
  | ignore {id : Nat} {n : Node} : c.browser.node? id = some n → n.stage ≠ .collapsed →
      Step answers c (.activate id) c
  | activate {id : Nat} {n : Node} : c.browser.node? id = some n → n.stage = .collapsed →
      Step answers c (.activate id)
        ⟨c.browser.grown n .loading [], c.outstanding ++ [⟨id, .ofNode c.browser.facets n⟩]⟩
  | refuse {facet : String} : facet ∉ c.browser.facets.offered → Step answers c (.choose facet) c
  | choose {facet : String} : facet ∈ c.browser.facets.offered →
      Step answers c (.choose facet)
        ⟨c.browser.regrouped facet, c.outstanding ++ c.browser.regroupings facet⟩
  | drop {fetch : Fetch} {a : Except SourceError Answer} : fetch ∈ c.outstanding →
      (∀ n, c.browser.node? fetch.node = some n → n.stage ≠ .loading) →
      Step answers c (.complete fetch a) ⟨c.browser, c.outstanding.erase fetch⟩
  | stale {fetch : Fetch} {a : Except SourceError Answer} {n : Node} : fetch ∈ c.outstanding →
      answers fetch.question a → c.browser.node? fetch.node = some n → n.stage = .loading →
      n.isStale c.browser.facets a = true →
      Step answers c (.complete fetch a)
        ⟨c.browser, c.outstanding.erase fetch ++ [⟨fetch.node, .ofNode c.browser.facets n⟩]⟩
  | fresh {fetch : Fetch} {a : Except SourceError Answer} {n : Node} : fetch ∈ c.outstanding →
      answers fetch.question a → c.browser.node? fetch.node = some n → n.stage = .loading →
      n.isStale c.browser.facets a = false →
      Step answers c (.complete fetch a)
        ⟨c.browser.grown n (n.expanded c.browser.tree.nodes.length a).1
          (n.expanded c.browser.tree.nodes.length a).2, c.outstanding.erase fetch⟩

theorem step_seed (c : Course) : Step answers c .seed (c.after .seed) := by
  cases h : c.browser.seeded with
  | true =>
    have hc : c.after .seed = c := by simp [after, Browser.seed, h]
    rw [hc]
    exact .seeded h
  | false =>
    simp only [after, Browser.seed, h, Bool.false_eq_true, if_false, Option.toList_some]
    exact .seed h

theorem step_activate (c : Course) (id : Nat) :
    Step answers c (.activate id) (c.after (.activate id)) := by
  cases hn : c.browser.node? id with
  | none =>
    simp only [after, Browser.activate_unknown hn]
    exact .unknown hn
  | some n =>
    by_cases hs : n.stage = .collapsed
    · simp only [after, Browser.activate_collapsed hn hs, Option.toList_some]
      exact .activate hn hs
    · have hc : c.after (.activate id) = c := by simp [after, Browser.activate_open hn hs]
      rw [hc]
      exact .ignore hn hs

theorem step_choose (c : Course) (facet : String) :
    Step answers c (.choose facet) (c.after (.choose facet)) := by
  by_cases h : facet ∈ c.browser.facets.offered
  · simp only [after, Browser.choose_offered h]
    exact .choose h
  · simp only [after, Browser.choose_refused h]
    exact .refuse h

theorem step_complete {fetch : Fetch} {a : Except SourceError Answer}
    (hf : fetch ∈ c.outstanding) (ha : answers fetch.question a) :
    Step answers c (.complete fetch a) (c.after (.complete fetch a)) := by
  cases hn : c.browser.node? fetch.node with
  | none =>
    rw [after, Browser.receive_unknown (r := ⟨fetch.node, a⟩) hn]
    simp only [Outcome.nothing, Option.toList_none, List.append_nil]
    exact .drop hf (by simp [hn])
  | some n =>
    by_cases hs : n.stage = .loading
    · cases hstale : n.isStale c.browser.facets a with
      | true =>
        rw [after, Browser.receive_stale (r := ⟨fetch.node, a⟩) hn hs hstale]
        exact .stale hf ha hn hs hstale
      | false =>
        rw [after, Browser.receive_fresh (r := ⟨fetch.node, a⟩) hn hs hstale]
        simp only [Option.toList_none, List.append_nil]
        exact .fresh hf ha hn hs hstale
    · rw [after, Browser.receive_idle (r := ⟨fetch.node, a⟩) hn hs]
      simp only [Outcome.nothing, Option.toList_none, List.append_nil]
      exact .drop hf (by simp [hn, hs])

theorem Allows.step {m : Move} (h : c.Allows answers m) : Step answers c m (c.after m) := by
  cases m with
  | seed => exact step_seed c
  | activate id => exact step_activate c id
  | choose facet => exact step_choose c facet
  | complete fetch a => exact step_complete h.1 h.2

end Course

end FacetBrowser
