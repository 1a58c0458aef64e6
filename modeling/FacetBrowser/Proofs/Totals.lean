import FacetBrowser.Proofs.Balance
import FacetBrowser.Proofs.Walk

namespace FacetBrowser

namespace Row

def isItem : Row → Bool
  | .item _ => true
  | _ => false

def elided : Row → Nat
  | .more count => count.toNat
  | _ => 0

end Row

namespace Listing

variable (listing : Listing)

theorem length_items : listing.items.length = listing.rows.countP Row.isItem := by
  rw [items, List.length_filterMap_eq_countP]
  refine List.countP_congr fun row _ => ?_
  cases row <;> simp [Row.isItem]

theorem sum_elisions :
    (listing.elisions.map (·.toNat)).sum = (listing.rows.map Row.elided).sum := by
  rw [elisions]
  induction listing.rows with
  | nil => rfl
  | cons row rows ih => cases row <;> simp [Row.elided, ih]

end Listing

namespace Node

def isPending (n : Node) : Bool :=
  n.stage.listing?.isNone

def amount (n : Node) : Nat :=
  (n.count.getD 0).toNat

def pending (n : Node) : Nat :=
  if n.isPending then n.amount else 0

def own (n : Node) : Nat :=
  n.stage.rows.countP Row.isItem + (n.stage.rows.map Row.elided).sum + n.pending

theorem sum_pending {nodes : List Node} {counts : List UInt64}
    (h : (nodes.filter isPending).map count = counts.map some) :
    (nodes.map pending).sum = (counts.map (·.toNat)).sum := by
  induction nodes generalizing counts with
  | nil =>
    obtain rfl := List.map_eq_nil_iff.mp h.symm
    rfl
  | cons n nodes ih =>
    by_cases hn : n.isPending
    · rw [List.filter_cons_of_pos hn, List.map_cons] at h
      cases counts with
      | nil => cases h
      | cons count counts =>
        obtain ⟨hcount, h⟩ := List.cons.inj h
        simp [pending, amount, hn, hcount, ← ih h]
    · rw [List.filter_cons_of_neg hn] at h
      simp [pending, hn, ← ih h]

end Node

namespace Tree

variable {t : Tree} {n : Node} {listing : Listing}

theorem children_of_listing {i : Nat} (h : t.listing? i = some listing) :
    t.children i = listing.children.filterMap t.node? := by
  rw [children, rows, h, Listing.children, List.filterMap_filterMap]
  refine List.filterMap_congr fun row _ => ?_
  cases row <;> rfl

theorem map_groupCount {ids : List Nat} {counts : List UInt64}
    (h : ids.map (fun i => (t.node? i).bind (·.groupCount)) = counts.map some) :
    (ids.filterMap t.node?).map (·.groupCount) = counts.map some := by
  induction ids generalizing counts with
  | nil => exact h
  | cons i ids ih =>
    cases counts with
    | nil => cases h
    | cons count counts =>
      obtain ⟨hi, h⟩ := List.cons.inj h
      obtain ⟨m, hm, hcount⟩ := Option.bind_eq_some_iff.mp hi
      simp [hm, hcount, ih h]

theorem Balances.amount_eq (hb : t.Balances listing) (hn : t.node? n.id = some n)
    (hs : n.stage.listing? = some listing)
    (hagree : ∀ m ∈ t.children n.id, m.count = m.groupCount) :
    n.amount = n.own + ((t.children n.id).map Node.amount).sum := by
  obtain ⟨counts, hmap, htotal⟩ := hb.total
  have hlisting : t.listing? n.id = some listing := by rw [listing?, hn, Option.bind_some, hs]
  have hchildren : (t.children n.id).map Node.amount = counts.map (·.toNat) := by
    calc (t.children n.id).map Node.amount
        = ((t.children n.id).map (·.groupCount)).map fun count => (count.getD 0).toNat := by
          rw [List.map_map]
          exact List.map_congr_left fun m hm => by simp [Node.amount, hagree m hm]
      _ = counts.map (·.toNat) := by
          rw [children_of_listing hlisting, map_groupCount hmap, List.map_map]
          rfl
  have hrows : n.stage.rows = listing.rows := by rw [Stage.rows, hs]
  rw [hchildren, Node.own, hrows, ← listing.length_items, ← listing.sum_elisions]
  simp only [Node.amount, Node.count, Node.pending, Node.isPending, hs, Option.getD_some,
    Option.isNone_some, Bool.false_eq_true, if_false]
  omega

theorem amount_eq_own (hn : t.node? n.id = some n) (hs : n.stage.listing? = none) :
    n.amount = n.own + ((t.children n.id).map Node.amount).sum := by
  have hlisting : t.listing? n.id = none := by rw [listing?, hn, Option.bind_some, hs]
  simp [Node.own, Node.pending, Node.isPending, Stage.rows, children, rows, hlisting, hs]

theorem sum_own (h : t.WellFormed) : (t.nodes.map Node.own).sum =
    (t.walk 0).countP (·.2.isItem) + ((t.walk 0).map (·.2.elided)).sum +
      (t.nodes.map Node.pending).sum := by
  have hitems : (t.nodes.map fun n => n.stage.rows.countP Row.isItem).sum =
      (t.walk 0).countP (·.2.isItem) := by
    rw [(walk_perm h).countP_eq, List.countP_flatMap]
    refine congrArg List.sum (List.map_congr_left fun n _ => ?_)
    simp [List.countP_map, Function.comp_def]
  have helided : (t.nodes.map fun n => (n.stage.rows.map Row.elided).sum).sum =
      ((t.walk 0).map (·.2.elided)).sum := by
    rw [((walk_perm h).map _).sum_eq, List.map_flatMap, List.flatMap_def, List.sum_flatten,
      List.map_map]
    refine congrArg List.sum (List.map_congr_left fun n _ => ?_)
    simp [Function.comp_def]
  rw [← hitems, ← helided, ← List.sum_map_add, ← List.sum_map_add]
  rfl

theorem amount_root (h : t.WellFormed)
    (hb : ∀ n ∈ t.nodes, ∀ listing, n.stage.listing? = some listing → t.Balances listing)
    (hagree : ∀ n ∈ t.nodes, n.id ≠ 0 → n.count = n.groupCount) {root : Node}
    (hroot : t.node? 0 = some root) {counts : List UInt64}
    (hcounts : (t.nodes.filter Node.isPending).map Node.count = counts.map some) :
    root.amount = (t.walk 0).countP (·.2.isItem) + ((t.walk 0).map (·.2.elided)).sum +
      (counts.map (·.toNat)).sum := by
  rw [← Node.sum_pending hcounts, ← sum_own h]
  refine root_eq_sum h (fun n hmem => ?_) hroot
  have hn := h.node?_id hmem
  cases hs : n.stage.listing? with
  | none => exact amount_eq_own hn hs
  | some listing =>
    refine (hb n hmem listing hs).amount_eq hn hs fun m hm => ?_
    obtain ⟨hm, hp⟩ := (mem_children h).mp hm
    exact hagree m (mem_nodes_iff.mpr ⟨_, hm⟩) (ne_zero_of_parent h hm hp)

end Tree
end FacetBrowser
