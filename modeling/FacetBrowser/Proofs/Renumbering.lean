import FacetBrowser.Outline
import FacetBrowser.Proofs.Transition

namespace FacetBrowser

def Row.renumber (σ : Nat → Nat) : Row → Row
  | .child id => .child (σ id)
  | row => row

def Stage.renumber (σ : Nat → Nat) : Stage → Stage
  | .branch listing => .branch ⟨listing.total, listing.rows.map (·.renumber σ)⟩
  | .leaf listing => .leaf ⟨listing.total, listing.rows.map (·.renumber σ)⟩
  | stage => stage

def Node.renumber (σ : Nat → Nat) (n : Node) : Node :=
  { n with id := σ n.id, parent := n.parent.map σ, stage := n.stage.renumber σ }

def Tree.Renumbers (σ : Nat → Nat) (t t' : Tree) : Prop :=
  ∀ i, t'.node? (σ i) = (t.node? i).map (·.renumber σ)

theorem Stage.rows_renumber (σ : Nat → Nat) (s : Stage) :
    (s.renumber σ).rows = s.rows.map (·.renumber σ) := by
  cases s <;> rfl

theorem Node.count_renumber (σ : Nat → Nat) (n : Node) : (n.renumber σ).count = n.count := by
  cases hs : n.stage <;> simp [Node.count, Node.renumber, hs, Stage.renumber, Stage.listing?]

namespace Tree

variable {σ : Nat → Nat} {t t' : Tree}

theorem rows_renumbers (h : t.Renumbers σ t') (i : Nat) :
    t'.rows (σ i) = (t.rows i).map (·.renumber σ) := by
  cases hn : t.node? i with
  | none =>
    have hn' : t'.node? (σ i) = none := by rw [h i, hn]; rfl
    simp [rows, listing?, hn, hn']
  | some n =>
    have hn' : t'.node? (σ i) = some (n.renumber σ) := by rw [h i, hn]; rfl
    rw [rows_of_node? hn, rows_of_node? hn']
    exact Stage.rows_renumber σ n.stage

theorem walkFrom_renumbers (h : t.Renumbers σ t') (fuel level i : Nat) :
    t'.walkFrom fuel level (σ i) =
      (t.walkFrom fuel level i).map fun (level, row) => (level, row.renumber σ) := by
  induction fuel generalizing level i with
  | zero => rfl
  | succ fuel ih =>
    simp only [walkFrom, rows_renumbers h, List.flatMap_map, List.map_flatMap, List.map_cons]
    congr 1
    funext row
    cases row with
    | child id => simp only [Row.renumber, ih]
    | _ => rfl

end Tree

namespace Outline

variable {σ : Nat → Nat} {t t' : Tree}

theorem nodeLine_renumber (σ : Nat → Nat) (n : Node) (depth : Nat) :
    nodeLine (n.renumber σ) depth = nodeLine n depth := by
  have hr : remark (n.renumber σ).stage = remark n.stage := by
    cases hs : n.stage <;> simp [Node.renumber, hs, Stage.renumber, remark]
  simp only [nodeLine, Node.count_renumber, hr]
  rfl

theorem rowLine_renumbers (h : t.Renumbers σ t') (template : String) (depth : Nat) (row : Row) :
    rowLine template t' depth (row.renumber σ) = rowLine template t depth row := by
  cases row with
  | child id =>
    simp only [Row.renumber, rowLine, h id, Option.map_map]
    congr 1
    funext n
    exact nodeLine_renumber σ n depth
  | _ => rfl

theorem lines_renumbers {b b' : Browser} (h : b.tree.Renumbers σ b'.tree) (h0 : σ 0 = 0)
    (hlen : b'.tree.nodes.length = b.tree.nodes.length)
    (hf : b'.facets.chosen = b.facets.chosen) (template : String) :
    lines template b' = lines template b := by
  have hheader : header b'.facets = header b.facets := by simp only [header, hf]
  have hroot : b'.node? 0 = (b.node? 0).map (·.renumber σ) := by
    have := h 0
    rwa [h0] at this
  have hwalk : b'.tree.walk 0 =
      (b.tree.walk 0).map fun (level, row) => (level, row.renumber σ) := by
    have := Tree.walkFrom_renumbers h b.tree.nodes.length 0 0
    rw [h0] at this
    rw [Tree.walk, Tree.walk, hlen]
    exact this
  simp only [lines, hheader, hroot, hwalk, List.filterMap_map]
  congr 1
  · cases b.node? 0 with
    | none => rfl
    | some n => simp [nodeLine_renumber]
  · congr 1
    funext ⟨level, row⟩
    exact rowLine_renumbers h template (level + 1) row

end Outline

end FacetBrowser
