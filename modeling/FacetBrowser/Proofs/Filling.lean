import FacetBrowser.Proofs.Alike
import FacetBrowser.Proofs.Level

namespace FacetBrowser

namespace Node

theorem shape_restage {n m : Node} {s s' : Stage} (h : n.shape = m.shape)
    (hs : s.shape = s'.shape) :
    Node.shape { n with stage := s } = Node.shape { m with stage := s' } :=
  congrArg₂ (fun (n : Node) stage => { n with stage := stage }) h hs

theorem shape_child {n m : Node} (hq : n.query = m.query) (hd : n.depth = m.depth)
    (facet : String) (i j : Nat) (group : Group) :
    (n.child facet i group).shape = (m.child facet j group).shape := by
  simp only [child, shape, renumber, hq, hd, Option.map_some]

theorem shape_childrenOf {n m : Node} (hq : n.query = m.query) (hd : n.depth = m.depth)
    (facet : String) (start start' : Nat) (groups : List Group) :
    (Browser.childrenOf n facet start groups).map shape =
      (Browser.childrenOf m facet start' groups).map shape := by
  apply List.ext_getElem?
  intro k
  rw [List.getElem?_map, List.getElem?_map, getElem?_childrenOf, getElem?_childrenOf,
    Option.map_map, Option.map_map]
  congr 1
  funext group
  exact shape_child hq hd facet _ _ group

theorem rows_childrenOf (n m : Node) (facet : String) (start start' : Nat)
    (groups : List Group) :
    ((Browser.childrenOf n facet start groups).map (Row.child ·.id)).map Row.shape =
      ((Browser.childrenOf m facet start' groups).map (Row.child ·.id)).map Row.shape := by
  simp only [Browser.childrenOf, List.map_map]
  apply List.ext_getElem?
  intro k
  simp only [List.getElem?_map, List.getElem?_mapIdx, Option.map_map]
  rfl

theorem shape_expanded (n m : Node) (start start' : Nat) (a : Except SourceError Answer) :
    (n.expanded start a).1.shape = (m.expanded start' a).1.shape := by
  match a with
  | .error e => rfl
  | .ok (.sample s) => simp only [expanded]
  | .ok (.group facet g) =>
    simp only [expanded]
    cases g.unlisted with
    | error mismatch => rfl
    | ok unlisted =>
      cases g.ungrouped.unlisted with
      | error mismatch => rfl
      | ok ungrouped =>
        simp only [Stage.shape, Stage.renumber, List.map_append]
        rw [show ∀ rows : List Row, rows.map (·.renumber fun _ => 0) = rows.map Row.shape from
          fun _ => rfl, rows_childrenOf n m facet start start' g.groups]
        rfl

theorem shape_expanded_children {n m : Node} (hq : n.query = m.query) (hd : n.depth = m.depth)
    (start start' : Nat) (a : Except SourceError Answer) :
    (n.expanded start a).2.map shape = (m.expanded start' a).2.map shape := by
  match a with
  | .error e => rfl
  | .ok (.sample s) => simp only [expanded]
  | .ok (.group facet g) =>
    simp only [expanded]
    cases g.unlisted with
    | error mismatch => rfl
    | ok unlisted =>
      cases g.ungrouped.unlisted with
      | error mismatch => rfl
      | ok ungrouped => exact shape_childrenOf hq hd facet start start' g.groups

end Node

namespace Tree

variable {t t' : Tree} {n m : Node} {start : Nat} {a : Except SourceError Answer}

structure Fills (t : Tree) (n : Node) (start : Nat) (a : Except SourceError Answer) : Prop where
  stage : n.stage = (n.expanded start a).1
  child : ∀ {k : Nat} {m : Node}, (n.expanded start a).2[k]? = some m →
    ∃ stage, t.node? (start + k) = some { m with stage := stage }

theorem Fills.mono (h : t.Fills n start a) (ht : t.Extends t') : t'.Fills n start a where
  stage := h.stage
  child := by
    intro k m hm
    obtain ⟨stage, hk⟩ := h.child hm
    obtain ⟨stage', hk'⟩ := ht hk
    exact ⟨stage', hk'⟩

theorem fills_grow (hn : n.id < t.nodes.length) (a : Except SourceError Answer) :
    (t.grow n (n.expanded t.nodes.length a).1 (n.expanded t.nodes.length a).2).Fills
      { n with stage := (n.expanded t.nodes.length a).1 } t.nodes.length a where
  stage := rfl
  child := by
    intro k m hm
    refine ⟨m.stage, ?_⟩
    rw [node?_grow_new hn]
    exact hm

theorem Fills.exists_child (h : t.Fills n start a) {k i : Nat}
    (hk : n.stage.rows[k]? = some (.child i)) : i = start + k ∧
      ∃ m stage, (n.expanded start a).2[k]? = some m ∧
        t.node? i = some { m with stage := stage } := by
  rw [h.stage] at hk
  obtain ⟨hlen, rfl⟩ := (n.growth_expanded start a).lists.mp hk
  have hm : (n.expanded start a).2[k]? = some (n.expanded start a).2[k] :=
    List.getElem?_eq_getElem hlen
  obtain ⟨stage, hc⟩ := h.child hm
  exact ⟨rfl, _, stage, hm, hc⟩

theorem Fills.shape_stage {start' : Nat} (h : t.Fills n start a) (h' : t'.Fills m start' a) :
    n.stage.shape = m.stage.shape := by
  rw [h.stage, h'.stage]
  exact Node.shape_expanded n m start start' a

theorem Fills.shape_child {start' : Nat} {k : Nat} {c c' : Node} (hq : n.query = m.query)
    (hd : n.depth = m.depth) (hc : (n.expanded start a).2[k]? = some c)
    (hc' : (m.expanded start' a).2[k]? = some c') : c.shape = c'.shape := by
  have := congrArg (·[k]?) (Node.shape_expanded_children hq hd start start' a)
  simp only [List.getElem?_map, hc, hc', Option.map_some, Option.some.injEq] at this
  exact this

end Tree
end FacetBrowser
