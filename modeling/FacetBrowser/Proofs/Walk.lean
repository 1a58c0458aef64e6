import FacetBrowser.Proofs.Sound
import Mathlib.Algebra.BigOperators.Group.List.Basic
import Mathlib.Algebra.GroupWithZero.Nat
import Mathlib.Data.List.Flatten

namespace FacetBrowser

def Row.child? : Row → Option Nat
  | .child id => some id
  | _ => none

theorem Row.child?_eq_some {row : Row} {id : Nat} : row.child? = some id ↔ row = .child id := by
  cases row <;> simp [child?]

namespace Tree

variable {t : Tree} {n m : Node} {row : Row} {i c fuel level : Nat}

theorem children_eq (t : Tree) (i : Nat) :
    t.children i = (t.rows i).filterMap fun row => row.child?.bind t.node? := by
  refine List.filterMap_congr fun row _ => ?_
  cases row <;> rfl

theorem walkFrom_succ (t : Tree) (fuel level i : Nat) :
    t.walkFrom (fuel + 1) level i = (t.rows i).flatMap fun row =>
      (level, row) :: row.child?.toList.flatMap (t.walkFrom fuel (level + 1)) := by
  rw [walkFrom]
  refine List.flatMap_congr fun row _ => ?_
  cases row <;> simp [Row.child?]

theorem ne_zero_of_parent (h : t.WellFormed) (hm : t.node? c = some m)
    (hp : m.parent = some i) : c ≠ 0 := by
  rintro rfl
  rw [h.root_eq hm] at hp
  cases hp

theorem exists_of_parent (h : t.WellFormed) (hm : t.node? c = some m)
    (hp : m.parent = some i) : i < c ∧ ∃ n, t.node? i = some n ∧ m.depth = n.depth + 1 ∧
      .child c ∈ n.stage.rows := by
  obtain ⟨p, n, k, hp', hlt, hn, hd, hk⟩ := h.parent hm (ne_zero_of_parent h hm hp)
  obtain rfl := Option.some.inj (hp.symm.trans hp')
  exact ⟨hlt, n, hn, hd, List.mem_of_getElem? hk⟩

theorem exists_of_row (h : t.WellFormed) (hrow : .child c ∈ t.rows i) :
    i < c ∧ ∃ n m, t.node? i = some n ∧ t.node? c = some m ∧ m.parent = some i ∧
      m.depth = n.depth + 1 := by
  cases hn : t.node? i with
  | none => simp [rows, listing?, hn] at hrow
  | some n =>
    rw [rows_of_node? hn] at hrow
    obtain ⟨k, hk⟩ := List.mem_iff_getElem?.mp hrow
    obtain ⟨-, m, hm, hp⟩ := h.child hn hk
    obtain ⟨hlt, n', hn', hd, -⟩ := exists_of_parent h hm hp
    obtain rfl := Option.some.inj (hn.symm.trans hn')
    exact ⟨hlt, n, m, rfl, hm, hp, hd⟩

theorem eq_child_of_bind (h : t.WellFormed) (hm : row.child?.bind t.node? = some m) :
    row = .child m.id ∧ t.node? m.id = some m := by
  obtain ⟨c, hc, hm⟩ := Option.bind_eq_some_iff.mp hm
  obtain rfl := h.id_eq hm
  exact ⟨Row.child?_eq_some.mp hc, hm⟩

theorem mem_children (h : t.WellFormed) :
    m ∈ t.children i ↔ t.node? m.id = some m ∧ m.parent = some i := by
  rw [children_eq, List.mem_filterMap]
  constructor
  · rintro ⟨row, hrow, hm⟩
    obtain ⟨rfl, hm⟩ := eq_child_of_bind h hm
    obtain ⟨-, _, m', -, hm', hp, -⟩ := exists_of_row h hrow
    obtain rfl := Option.some.inj (hm.symm.trans hm')
    exact ⟨hm, hp⟩
  · rintro ⟨hm, hp⟩
    obtain ⟨-, n, hn, -, hrow⟩ := exists_of_parent h hm hp
    rw [rows_of_node? hn]
    exact ⟨_, hrow, hm⟩

theorem nodup_children (h : t.WellFormed) (i : Nat) : (t.children i).Nodup := by
  rw [children_eq, List.Nodup, List.pairwise_filterMap, List.pairwise_iff_getElem]
  intro j k hj hk hjk m hm m' hm' heq
  subst heq
  have hrow {l : Nat} (hl : l < (t.rows i).length)
      (hm : (t.rows i)[l].child?.bind t.node? = some m) :
      (t.rows i)[l]? = some (.child m.id) := by
    rw [List.getElem?_eq_getElem hl, (eq_child_of_bind h hm).1]
  obtain ⟨-, n, -, hn, -⟩ := exists_of_row h (List.mem_of_getElem? (hrow hj hm))
  have hj' := hrow hj hm
  have hk' := hrow hk hm'
  rw [rows_of_node? hn] at hj' hk'
  exact absurd (h.once hn hj' hk') (Nat.ne_of_lt hjk)

theorem nodes_eq_root_cons (h : t.WellFormed) :
    ∃ root, t.node? 0 = some root ∧ t.nodes = root :: t.nodes.tail := by
  obtain ⟨stage, hroot⟩ := h.root
  refine ⟨_, hroot, ?_⟩
  rw [node?, ← List.head?_eq_getElem?] at hroot
  exact (List.cons_head?_tail hroot).symm

theorem flatMap_children_perm (h : t.WellFormed) :
    (t.nodes.flatMap fun n => t.children n.id).Perm t.nodes.tail := by
  have hnodup : t.nodes.Nodup := (Course.nodup_ids h).of_map _
  refine (List.perm_ext_iff_of_nodup ?_ hnodup.tail).mpr fun m => ?_
  · refine List.nodup_flatMap.mpr ⟨fun n _ => nodup_children h n.id, ?_⟩
    refine (List.pairwise_map.mp (Course.nodup_ids h)).imp fun {n n'} hne m hm hm' => hne ?_
    exact Option.some.inj (((mem_children h).mp hm).2.symm.trans ((mem_children h).mp hm').2)
  · obtain ⟨root, hroot, hnodes⟩ := nodes_eq_root_cons h
    simp only [List.mem_flatMap, mem_children h]
    constructor
    · rintro ⟨n, -, hm, hp⟩
      have hmem : m ∈ t.nodes := mem_nodes_iff.mpr ⟨_, hm⟩
      rw [hnodes] at hmem
      rcases List.mem_cons.mp hmem with rfl | hmem
      · exact absurd rfl (ne_zero_of_parent h hroot hp)
      · exact hmem
    · intro hmem
      have hm := h.node?_id (List.mem_of_mem_tail hmem)
      have hne : m.id ≠ 0 := by
        intro h0
        rw [h0, hroot] at hm
        obtain rfl := Option.some.inj hm
        rw [hnodes] at hnodup
        exact (List.nodup_cons.mp hnodup).1 hmem
      obtain ⟨p, n, -, hp, -, hn, -⟩ := h.parent hm hne
      obtain rfl := h.id_eq hn
      exact ⟨n, mem_nodes_iff.mpr ⟨_, hn⟩, hm, hp⟩

theorem root_eq_sum (h : t.WellFormed) {f own : Node → Nat}
    (hf : ∀ n ∈ t.nodes, f n = own n + ((t.children n.id).map f).sum) {root : Node}
    (hroot : t.node? 0 = some root) : f root = (t.nodes.map own).sum := by
  -- each node but the root is a child once, so that all values but the root's cancel
  have hall : (t.nodes.map f).sum = (t.nodes.map own).sum + (t.nodes.tail.map f).sum := by
    calc (t.nodes.map f).sum
        = (t.nodes.map fun n => own n + ((t.children n.id).map f).sum).sum :=
          congrArg List.sum (List.map_congr_left hf)
      _ = (t.nodes.map own).sum + (t.nodes.map fun n => ((t.children n.id).map f).sum).sum :=
          List.sum_map_add
      _ = (t.nodes.map own).sum + ((t.nodes.flatMap fun n => t.children n.id).map f).sum := by
          rw [List.map_flatMap, List.flatMap_def, List.sum_flatten, List.map_map]
          rfl
      _ = (t.nodes.map own).sum + (t.nodes.tail.map f).sum := by
          rw [((flatMap_children_perm h).map f).sum_eq]
  obtain ⟨root', hroot', hnodes⟩ := nodes_eq_root_cons h
  obtain rfl := Option.some.inj (hroot.symm.trans hroot')
  have hcons : (t.nodes.map f).sum = f root + (t.nodes.tail.map f).sum := by
    conv_lhs => rw [hnodes]
    rw [List.map_cons, List.sum_cons]
  omega

theorem rows_of_length_le (h : t.nodes.length ≤ i) : t.rows i = [] := by
  have hn : t.node? i = none := List.getElem?_eq_none_iff.mpr h
  simp [rows, listing?, hn]

theorem walkFrom_of_length_le (h : t.nodes.length ≤ i) : t.walkFrom fuel level i = [] := by
  cases fuel with
  | zero => rfl
  | succ fuel => simp [walkFrom, rows_of_length_le h]

theorem walkFrom_fuel (h : t.WellFormed) {fuel' : Nat} (hf : t.nodes.length ≤ i + fuel)
    (hf' : t.nodes.length ≤ i + fuel') : t.walkFrom fuel level i = t.walkFrom fuel' level i := by
  induction fuel generalizing fuel' level i with
  | zero =>
    have hle : t.nodes.length ≤ i := hf
    rw [walkFrom_of_length_le hle, walkFrom_of_length_le hle]
  | succ fuel ih =>
    cases fuel' with
    | zero =>
      have hle : t.nodes.length ≤ i := hf'
      rw [walkFrom_of_length_le hle, walkFrom_of_length_le hle]
    | succ fuel' =>
      rw [walkFrom_succ, walkFrom_succ]
      refine List.flatMap_congr fun row hrow => congrArg (List.cons _) ?_
      refine List.flatMap_congr fun c hc => ?_
      obtain rfl := Row.child?_eq_some.mp (Option.mem_toList.mp hc)
      have hlt := (exists_of_row h hrow).1
      exact ih (by omega) (by omega)

def below (t : Tree) (n : Node) : List (Nat × Row) :=
  t.walkFrom t.nodes.length n.depth n.id

theorem flatMap_filterMap {α β γ : Type} {f : α → Option β} {g : β → List γ}
    {sub : α → List γ} {l : List α} (h : ∀ a ∈ l, (f a).toList.flatMap g = sub a) :
    (l.filterMap f).flatMap g = l.flatMap sub := by
  induction l with
  | nil => rfl
  | cons a l ih =>
    obtain ⟨ha, hl⟩ := List.forall_mem_cons.mp h
    rw [List.flatMap_cons, ← ha, ← ih hl, List.filterMap_cons]
    cases f a <;> simp

theorem below_perm (h : t.WellFormed) (hn : t.node? n.id = some n) :
    (t.below n).Perm
      (n.stage.rows.map (n.depth, ·) ++ (t.children n.id).flatMap t.below) := by
  obtain ⟨fuel, hfuel⟩ := Nat.exists_eq_add_of_lt (lt_of_node? hn)
  have hchildren : (t.children n.id).flatMap t.below = (t.rows n.id).flatMap fun row =>
      row.child?.toList.flatMap (t.walkFrom (n.id + fuel) (n.depth + 1)) := by
    rw [children_eq]
    refine flatMap_filterMap fun row hrow => ?_
    cases hc : row.child? with
    | none => rfl
    | some c =>
      obtain rfl := Row.child?_eq_some.mp hc
      obtain ⟨hlt, n', m, hn', hm, -, hd⟩ := exists_of_row h hrow
      obtain rfl := Option.some.inj (hn.symm.trans hn')
      have hwalk : t.below m = t.walkFrom (n.id + fuel) (n.depth + 1) c := by
        rw [below, hd, h.id_eq hm]
        exact walkFrom_fuel h (Nat.le_add_left _ _) (by omega)
      simp [hm, hwalk]
  rw [below, hfuel, walkFrom_succ, hchildren, rows_of_node? hn]
  exact (List.map_append_flatMap_perm _ _ _).symm

theorem walk_perm (h : t.WellFormed) :
    (t.walk 0).Perm (t.nodes.flatMap fun n => n.stage.rows.map (n.depth, ·)) := by
  refine List.perm_iff_count.mpr fun a => ?_
  obtain ⟨stage, hroot⟩ := h.root
  rw [List.count_flatMap]
  refine root_eq_sum (f := fun n => (t.below n).count a) h (fun n hmem => ?_) hroot
  rw [(below_perm h (h.node?_id hmem)).count_eq, List.count_append, List.count_flatMap]
  rfl

end Tree
end FacetBrowser
