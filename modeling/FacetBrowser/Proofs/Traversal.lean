import FacetBrowser.Outline
import FacetBrowser.Proofs.Lifecycle
import FacetBrowser.Proofs.Lineage
import FacetBrowser.Proofs.Totals
import Mathlib.Algebra.Order.BigOperators.Group.Finset

namespace FacetBrowser

namespace Row

def isMore : Row → Bool
  | .more _ => true
  | _ => false

theorem length_eq (rows : List Row) :
    rows.length = rows.countP (·.child?.isSome) + rows.countP isItem + rows.countP isMore := by
  induction rows with
  | nil => rfl
  | cons row rows ih =>
    have hkind : (if row.child?.isSome then 1 else 0) + (if row.isItem then 1 else 0) +
        (if row.isMore then 1 else 0) = 1 := by
      cases row <;> rfl
    simp only [List.length_cons, List.countP_cons, ih]
    omega

end Row

structure Visit where
  owner : Nat
  level : Nat
  row : Row
  deriving DecidableEq

def Visit.line (v : Visit) : Nat × Row :=
  (v.level, v.row)

namespace Tree

inductive Tours (t : Tree) : Nat → Nat → List Row → List Visit → Prop
  | done {i level : Nat} : Tours t i level [] []
  | child {i level c : Nat} {rows : List Row} {below visits : List Visit} :
      Tours t c (level + 1) (t.rows c) below → Tours t i level rows visits →
      Tours t i level (.child c :: rows) (⟨i, level, .child c⟩ :: (below ++ visits))
  | plain {i level : Nat} {row : Row} {rows : List Row} {visits : List Visit} :
      row.child? = none → Tours t i level rows visits →
      Tours t i level (row :: rows) (⟨i, level, row⟩ :: visits)

variable {t : Tree} {n m : Node} {i level : Nat} {rows : List Row} {visits : List Visit}

theorem exists_tour_rows {fuel : Nat}
    (h : ∀ c level, .child c ∈ rows → ∃ below, t.Tours c level (t.rows c) below ∧
      below.map Visit.line = t.walkFrom fuel level c) :
    ∃ visits, t.Tours i level rows visits ∧ visits.map Visit.line = rows.flatMap fun row =>
      (level, row) :: row.child?.toList.flatMap (t.walkFrom fuel (level + 1)) := by
  induction rows with
  | nil => exact ⟨[], .done, rfl⟩
  | cons row rows ih =>
    obtain ⟨visits, hvisits, hmap⟩ := ih fun c level hc => h c level (List.mem_cons_of_mem _ hc)
    cases hrow : row.child? with
    | none => exact ⟨_, .plain hrow hvisits, by simp [Visit.line, hrow, hmap]⟩
    | some c =>
      obtain rfl := Row.child?_eq_some.mp hrow
      obtain ⟨below, hbelow, hwalk⟩ := h c (level + 1) List.mem_cons_self
      exact ⟨_, .child hbelow hvisits, by simp [Visit.line, hrow, hmap, hwalk]⟩

theorem exists_tour (h : t.WellFormed) {fuel : Nat} (hf : t.nodes.length ≤ i + fuel)
    (level : Nat) : ∃ visits, t.Tours i level (t.rows i) visits ∧
      visits.map Visit.line = t.walkFrom fuel level i := by
  induction fuel generalizing i level with
  | zero =>
    rw [rows_of_length_le (i := i) hf]
    exact ⟨[], .done, rfl⟩
  | succ fuel ih =>
    rw [walkFrom_succ]
    refine exists_tour_rows fun c level hc => ih ?_ level
    have hlt := (exists_of_row h hc).1
    omega

theorem mem_ids (h : t.WellFormed) : i ∈ t.nodes.map (·.id) ↔ ∃ n, t.node? i = some n := by
  rw [List.mem_map]
  constructor
  · rintro ⟨n, hmem, rfl⟩
    exact ⟨n, h.node?_id hmem⟩
  · rintro ⟨n, hn⟩
    exact ⟨n, mem_nodes_iff.mpr ⟨i, hn⟩, h.id_eq hn⟩

theorem exists_of_mem_rows {row : Row} (hrow : row ∈ t.rows i) : ∃ n, t.node? i = some n := by
  cases hn : t.node? i with
  | none => simp [Tree.rows, listing?, hn] at hrow
  | some n => exact ⟨n, rfl⟩

namespace Tours

theorem owner (h : t.WellFormed) (hv : t.Tours i level rows visits) (hrows : rows ⊆ t.rows i) :
    ∀ v ∈ visits, i ≤ v.owner ∧ v.row ∈ t.rows v.owner := by
  induction hv with
  | done => simp
  | @child i level c rows below visits _ _ ihbelow ih =>
    obtain ⟨hc, hrows⟩ := List.cons_subset.mp hrows
    have hlt := (exists_of_row h hc).1
    intro v hv
    rcases List.mem_cons.mp hv with rfl | hv
    · exact ⟨Nat.le_refl _, hc⟩
    · rcases List.mem_append.mp hv with hv | hv
      · obtain ⟨hle, hrow⟩ := ihbelow (List.Subset.refl _) v hv
        exact ⟨Nat.le_trans (Nat.le_of_lt hlt) hle, hrow⟩
      · exact ih hrows v hv
  | plain _ _ ih =>
    obtain ⟨hrow, hrows⟩ := List.cons_subset.mp hrows
    intro v hv
    rcases List.mem_cons.mp hv with rfl | hv
    · exact ⟨Nat.le_refl _, hrow⟩
    · exact ih hrows v hv

theorem own_rows (h : t.WellFormed) (hv : t.Tours i level rows visits) (hrows : rows ⊆ t.rows i) :
    visits.filter (·.owner = i) = rows.map (⟨i, level, ·⟩) := by
  induction hv with
  | done => rfl
  | @child i level c rows below visits hbelow _ _ ih =>
    obtain ⟨hc, hrows⟩ := List.cons_subset.mp hrows
    have hlt := (exists_of_row h hc).1
    have hnone : below.filter (·.owner = i) = [] := by
      rw [List.filter_eq_nil_iff]
      intro v hv hi
      have hle := (hbelow.owner h (List.Subset.refl _) v hv).1
      have hi := of_decide_eq_true hi
      omega
    rw [List.filter_cons_of_pos (by simp), List.filter_append, hnone, ih hrows]
    rfl
  | plain _ _ ih =>
    obtain ⟨-, hrows⟩ := List.cons_subset.mp hrows
    rw [List.filter_cons_of_pos (by simp), ih hrows]
    rfl

theorem exists_below (hv : t.Tours i level rows visits) {c : Nat} (hc : .child c ∈ rows) :
    ∃ before below after, visits = before ++ ⟨i, level, .child c⟩ :: (below ++ after) ∧
      t.Tours c (level + 1) (t.rows c) below := by
  induction hv with
  | done => cases hc
  | @child i level c' rows below visits hbelow _ _ ih =>
    rcases List.mem_cons.mp hc with hc | hc
    · obtain rfl := Row.child.inj hc
      exact ⟨[], below, visits, rfl, hbelow⟩
    · obtain ⟨before, below', after, rfl, hbelow'⟩ := ih hc
      exact ⟨⟨i, level, .child c'⟩ :: (below ++ before), below', after, by simp, hbelow'⟩
  | @plain i level row rows visits hrow _ ih =>
    rcases List.mem_cons.mp hc with rfl | hc
    · cases hrow
    · obtain ⟨before, below, after, rfl, hbelow⟩ := ih hc
      exact ⟨⟨i, level, row⟩ :: before, below, after, rfl, hbelow⟩

theorem functional {visits' : List Visit} (hv : t.Tours i level rows visits)
    (hv' : t.Tours i level rows visits') : visits = visits' := by
  induction hv generalizing visits' with
  | done =>
    cases hv'
    rfl
  | child _ _ ihbelow ih =>
    cases hv' with
    | child hbelow' hvisits' => rw [ihbelow hbelow', ih hvisits']
    | plain hrow => cases hrow
  | plain hrow _ ih =>
    cases hv' with
    | child => cases hrow
    | plain _ hvisits' => rw [ih hvisits']

section Whole

variable (h : t.WellFormed) (hv : t.Tours 0 0 (t.rows 0) visits)
include h hv

theorem exists_part (hn : t.node? i = some n) : ∃ before below after,
    visits = before ++ below ++ after ∧ t.Tours i n.depth (t.rows i) below ∧
      (i ≠ 0 → ∃ p level, n.parent = some p ∧ n.depth = level + 1 ∧
        before.getLast? = some ⟨p, level, .child i⟩) := by
  induction i using Nat.strongRecOn generalizing n with
  | ind i ih =>
    by_cases hi : i = 0
    · subst hi
      obtain ⟨stage, hroot⟩ := h.root
      obtain rfl := Option.some.inj (hn.symm.trans hroot)
      exact ⟨[], visits, [], by simp, hv, fun h0 => absurd rfl h0⟩
    · obtain ⟨p, m, k, hp, hpi, hm, hd, hk⟩ := h.parent hn hi
      obtain ⟨before, below, after, rfl, hbelow, -⟩ := ih p hpi hm
      have hrow : .child i ∈ t.rows p := by
        rw [rows_of_node? hm]
        exact List.mem_of_getElem? hk
      obtain ⟨before', below', after', rfl, hbelow'⟩ := hbelow.exists_below hrow
      refine ⟨before ++ before' ++ [⟨p, m.depth, .child i⟩], below', after' ++ after, by simp,
        hd ▸ hbelow', fun _ => ⟨p, m.depth, hp, hd, by simp⟩⟩

theorem length_rows_le (hn : t.node? i = some n) :
    (t.rows i).length ≤ (visits.map (·.owner)).count i := by
  obtain ⟨before, below, after, rfl, hbelow, -⟩ := exists_part h hv hn
  have hown : (below.map (·.owner)).count i = (t.rows i).length := by
    rw [List.count, List.countP_map, List.countP_eq_length_filter]
    exact (congrArg List.length (hbelow.own_rows h (List.Subset.refl _))).trans (by simp)
  simp only [List.map_append, List.count_append]
  omega

theorem map_line : visits.map Visit.line = t.walk 0 := by
  obtain ⟨visits', hv', hmap⟩ := exists_tour h (Nat.le_add_left t.nodes.length 0) 0
  rw [hv.functional hv', hmap]
  rfl

theorem length_eq : visits.length = ((t.nodes.map (·.id)).map fun i => (t.rows i).length).sum := by
  calc visits.length
      = (t.walk 0).length := by rw [← map_line h hv, List.length_map]
    _ = (t.nodes.map fun n => n.stage.rows.length).sum := by
        rw [(walk_perm h).length_eq, List.length_flatMap]
        simp only [List.length_map]
    _ = ((t.nodes.map (·.id)).map fun i => (t.rows i).length).sum := by
        rw [List.map_map]
        refine congrArg List.sum (List.map_congr_left fun n hmem => ?_)
        exact congrArg List.length (rows_of_node? (h.node?_id hmem)).symm

theorem count_owner (hn : t.node? i = some n) :
    (visits.map (·.owner)).count i = (t.rows i).length := by
  let ids := (t.nodes.map (·.id)).toFinset
  have hids {i : Nat} : i ∈ ids ↔ ∃ n, t.node? i = some n := by
    rw [List.mem_toFinset]
    exact mem_ids h
  have hle : ∀ i ∈ ids, (t.rows i).length ≤ (visits.map (·.owner)).count i := by
    intro i hi
    obtain ⟨n, hn⟩ := hids.mp hi
    exact length_rows_le h hv hn
  have hall : ∀ i ∈ (visits.map (·.owner) : Multiset Nat), i ∈ ids := by
    intro i hi
    obtain ⟨v, hmem, rfl⟩ := List.mem_map.mp (Multiset.mem_coe.mp hi)
    exact hids.mpr (exists_of_mem_rows (hv.owner h (List.Subset.refl _) v hmem).2)
  have hsum : ids.sum (fun i => (t.rows i).length) =
      ids.sum fun i => (visits.map (·.owner)).count i := by
    calc ids.sum (fun i => (t.rows i).length)
        = visits.length := by
          rw [List.sum_toFinset _ (Course.nodup_ids h), length_eq h hv]
      _ = (visits.map (·.owner) : Multiset Nat).card := by
          rw [Multiset.coe_card, List.length_map]
      _ = ids.sum fun i => (visits.map (·.owner)).count i := by
          rw [← Multiset.sum_count_eq_card hall]
          simp only [Multiset.coe_count]
  exact ((Finset.sum_eq_sum_iff_of_le hle).mp hsum i (hids.mpr ⟨n, hn⟩)).symm

theorem filter_owner (hn : t.node? i = some n) :
    visits.filter (·.owner = i) = (t.rows i).map (⟨i, n.depth, ·⟩) := by
  have hcount := count_owner h hv hn
  obtain ⟨before, below, after, rfl, hbelow, -⟩ := exists_part h hv hn
  have hown := hbelow.own_rows h (List.Subset.refl _)
  rw [List.count, List.countP_map, List.countP_eq_length_filter] at hcount
  change ((before ++ below ++ after).filter (·.owner = i)).length = _ at hcount
  rw [List.filter_append, List.filter_append, hown] at hcount ⊢
  simp only [List.length_append, List.length_map] at hcount
  have hbefore : before.filter (·.owner = i) = [] := List.eq_nil_of_length_eq_zero (by omega)
  have hafter : after.filter (·.owner = i) = [] := List.eq_nil_of_length_eq_zero (by omega)
  rw [hbefore, hafter, List.nil_append, List.append_nil]

theorem filter_child (hn : t.node? i = some n) (hi : i ≠ 0) : 0 < n.depth ∧
    visits.filter (·.row = .child i) = [⟨n.parent.getD 0, n.depth - 1, .child i⟩] := by
  obtain ⟨p, m, k, hp, -, hm, hd, hk⟩ := h.parent hn hi
  have howner : visits.filter (·.row = .child i) =
      (visits.filter (·.owner = p)).filter (·.row = .child i) := by
    rw [List.filter_filter]
    refine List.filter_congr fun v hmem => ?_
    by_cases hrow : v.row = .child i
    · have hin := (hv.owner h (List.Subset.refl _) v hmem).2
      rw [hrow] at hin
      obtain ⟨-, -, n', -, hn', hp', -⟩ := exists_of_row h hin
      obtain rfl := Option.some.inj (hn.symm.trans hn')
      simp [hrow, Option.some.inj (hp'.symm.trans hp)]
    · simp [hrow]
  have honce : (t.rows p).filter (· = .child i) = [.child i] := by
    rw [List.filter_eq, count_child h hm hk, if_pos rfl, List.replicate_one]
  refine ⟨by omega, ?_⟩
  rw [howner, filter_owner h hv hm, List.filter_map, hp, hd]
  exact congrArg (List.map _) honce

theorem child_behind (hm : t.node? m.id = some m) (hn : t.node? n.id = some n)
    (hp : n.parent = some m.id) (h0 : m.id ≠ 0) :
    [(m.depth - 1, .child m.id), (n.depth - 1, .child n.id)].Sublist (visits.map Visit.line) := by
  obtain ⟨-, m', hm', hd, hrow⟩ := exists_of_parent h hn hp
  obtain rfl := Option.some.inj (hm.symm.trans hm')
  obtain ⟨before, below, after, rfl, hbelow, hlast⟩ := exists_part h hv hm
  obtain ⟨p, level, -, hlevel, hbefore⟩ := hlast h0
  have hown : Visit.mk m.id m.depth (.child n.id) ∈ below := by
    refine List.mem_of_mem_filter (p := (·.owner = m.id)) ?_
    rw [hbelow.own_rows h (List.Subset.refl _), rows_of_node? hm]
    exact List.mem_map_of_mem hrow
  have hfirst : [Visit.mk p level (.child m.id)].Sublist before :=
    List.singleton_sublist.mpr (List.mem_of_getLast? hbefore)
  have hsecond : [Visit.mk m.id m.depth (.child n.id)].Sublist (below ++ after) :=
    List.singleton_sublist.mpr (List.mem_append_left after hown)
  rw [show m.depth - 1 = level by omega, show n.depth - 1 = m.depth by omega, List.append_assoc]
  exact (hfirst.append hsecond).map Visit.line

end Whole

end Tours

theorem countP_child (h : t.WellFormed) :
    (t.nodes.flatMap (·.stage.rows)).countP (·.child?.isSome) + 1 = t.nodes.length := by
  obtain ⟨root, -, hnodes⟩ := nodes_eq_root_cons h
  have hchildren : (t.nodes.flatMap fun n => t.children n.id).length =
      (t.nodes.flatMap (·.stage.rows)).countP (·.child?.isSome) := by
    rw [List.length_flatMap, List.countP_flatMap]
    refine congrArg List.sum (List.map_congr_left fun n hmem => ?_)
    have hn := h.node?_id hmem
    rw [children_eq, List.length_filterMap_eq_countP, rows_of_node? hn]
    refine List.countP_congr fun row hrow => ?_
    cases hc : row.child? with
    | none => rfl
    | some c =>
      obtain rfl := Row.child?_eq_some.mp hc
      rw [← rows_of_node? hn] at hrow
      obtain ⟨-, -, m, -, hm, -⟩ := exists_of_row h hrow
      simp [hm]
  rw [← hchildren, (flatMap_children_perm h).length_eq]
  conv_rhs => rw [hnodes]
  rfl

theorem length_walk (h : t.WellFormed) : (t.walk 0).length + 1 = t.nodes.length +
    (t.nodes.flatMap (·.stage.rows)).countP Row.isItem +
    (t.nodes.flatMap (·.stage.rows)).countP Row.isMore := by
  have hlength : (t.walk 0).length = (t.nodes.flatMap (·.stage.rows)).length := by
    rw [(walk_perm h).length_eq, List.length_flatMap, List.length_flatMap]
    simp only [List.length_map]
  have hkinds := Row.length_eq (t.nodes.flatMap (·.stage.rows))
  have hchildren := countP_child h
  omega

end Tree

namespace Outline

variable {b : Browser}

theorem exists_rowLine (template : String) {t : Tree} (h : t.WellFormed) {e : Nat × Row}
    (he : e ∈ t.walk 0) : ∃ line, rowLine template t (e.1 + 1) e.2 = some line := by
  obtain ⟨n, hmem, hrows⟩ := List.mem_flatMap.mp ((Tree.walk_perm h).mem_iff.mp he)
  obtain ⟨row, hrow, rfl⟩ := List.mem_map.mp hrows
  rw [← Tree.rows_of_node? (h.node?_id hmem)] at hrow
  cases row with
  | child c =>
    obtain ⟨-, -, m, -, hm, -⟩ := Tree.exists_of_row h hrow
    exact ⟨nodeLine m (n.depth + 1), by simp only [rowLine, hm, Option.map_some]⟩
  | item item => exact ⟨_, rfl⟩
  | more count => exact ⟨_, rfl⟩

theorem map_some_filterMap {α β : Type} {f : α → Option β} {l : List α}
    (h : ∀ a ∈ l, ∃ b, f a = some b) : (l.filterMap f).map some = l.map f := by
  induction l with
  | nil => rfl
  | cons a l ih =>
    obtain ⟨⟨b, hb⟩, hl⟩ := List.forall_mem_cons.mp h
    rw [List.filterMap_cons_some hb, List.map_cons, List.map_cons, hb, ih hl]

theorem map_lines (template : String) (h : b.tree.WellFormed) {root : Node}
    (hroot : b.node? 0 = some root) :
    (lines template b).map some = some (header b.facets) :: some (nodeLine root 0) ::
      (b.tree.walk 0).map fun e => rowLine template b.tree (e.1 + 1) e.2 := by
  rw [lines, hroot, List.map_append, map_some_filterMap fun e he => exists_rowLine template h he]
  rfl

theorem length_lines (template : String) (h : b.tree.WellFormed) : (lines template b).length =
    1 + b.tree.nodes.length + (b.tree.nodes.flatMap (·.stage.rows)).countP Row.isItem +
      (b.tree.nodes.flatMap (·.stage.rows)).countP Row.isMore := by
  obtain ⟨stage, hroot⟩ := h.root
  have hlength := congrArg List.length (map_lines template h hroot)
  simp only [List.length_map, List.length_cons] at hlength
  have hwalk := Tree.length_walk h
  omega

theorem nodeLine_toList (n : Node) (depth : Nat) :
    (nodeLine n depth).toList = List.replicate (2 * depth) ' ' ++ (nodeLine n 0).toList := by
  simp [nodeLine, margin, String.toList_append]

end Outline
namespace Course

theorem rendering_complete (facets : Facets) (ms : List Move) (template : String) :
    let b := ((new facets).run ms).browser
    let t := b.tree
    let lines := Outline.lines template b
    ∃ visits, t.Tours 0 0 (t.rows 0) visits ∧ visits.map Visit.line = t.walk 0 ∧
      (∀ v ∈ visits, ∃ n, t.node? v.owner = some n) ∧
      (∀ n ∈ t.nodes, visits.filter (·.owner = n.id) = n.stage.rows.map (⟨n.id, n.depth, ·⟩)) ∧
      (∀ n ∈ t.nodes, n.id ≠ 0 → 0 < n.depth ∧
        (t.walk 0).filter (·.2 = .child n.id) = [(n.depth - 1, .child n.id)] ∧
        Outline.rowLine template t n.depth (.child n.id) = some (Outline.nodeLine n n.depth)) ∧
      (∀ m ∈ t.nodes, ∀ n ∈ t.nodes, n.parent = some m.id → m.id ≠ 0 →
        [(m.depth - 1, .child m.id), (n.depth - 1, .child n.id)].Sublist (t.walk 0)) ∧
      (∀ n ∈ t.nodes, (Outline.nodeLine n n.depth).toList =
        List.replicate (2 * n.depth) ' ' ++ (Outline.nodeLine n 0).toList) ∧
      (∃ root, t.node? 0 = some root ∧ lines.map some =
        some (Outline.header b.facets) :: some (Outline.nodeLine root 0) ::
          (t.walk 0).map fun e => Outline.rowLine template t (e.1 + 1) e.2) ∧
      lines.length = 1 + t.nodes.length + (t.nodes.flatMap (·.stage.rows)).countP Row.isItem +
        (t.nodes.flatMap (·.stage.rows)).countP Row.isMore := by
  intro b t lines
  have h : t.WellFormed := wellFormed_run Tree.seedling_wellFormed ms
  obtain ⟨visits, hv, hline⟩ := Tree.exists_tour h (Nat.le_add_left t.nodes.length 0) 0
  obtain ⟨stage, hroot⟩ := h.root
  refine ⟨visits, hv, hline, ?_, ?_, ?_, ?_, ?_,
    ⟨_, hroot, Outline.map_lines template h hroot⟩, Outline.length_lines template h⟩
  · intro v hmem
    exact Tree.exists_of_mem_rows (hv.owner h (List.Subset.refl _) v hmem).2
  · intro n hmem
    have hn := h.node?_id hmem
    rw [hv.filter_owner h hn, Tree.rows_of_node? hn]
  · intro n hmem h0
    have hn := h.node?_id hmem
    obtain ⟨hpos, hchild⟩ := hv.filter_child h hn h0
    refine ⟨hpos, ?_, by simp only [Outline.rowLine, hn, Option.map_some]⟩
    rw [← hv.map_line h, List.filter_map]
    exact congrArg (List.map Visit.line) hchild
  · intro m hm n hn hp h0
    rw [← hv.map_line h]
    exact hv.child_behind h (h.node?_id hm) (h.node?_id hn) hp h0
  · exact fun n _ => Outline.nodeLine_toList n n.depth

theorem later_children_listed_first :
    let types : Answer := .group "type" ⟨6, [⟨"csv", 3⟩, ⟨"json", 2⟩], ⟨1, [⟨"7", "/x.nwb"⟩]⟩⟩
    let ms := [.seed, .choose "type", .complete ⟨0, .root⟩ (.ok (.sample ⟨6, []⟩)),
      .complete ⟨0, .group .all "type"⟩ (.ok types), .choose "lab", .activate 1, .activate 2,
      .complete ⟨2, .group (.equals "type" "json") "lab"⟩
        (.ok (.group "lab" ⟨2, [⟨"smith", 1⟩], ⟨1, []⟩⟩)),
      .complete ⟨1, .group (.equals "type" "csv") "lab"⟩
        (.ok (.group "lab" ⟨3, [⟨"jones", 3⟩], ⟨0, []⟩⟩))]
    let b := ((new ⟨[], ["type", "lab"], 0⟩).run ms).browser
    (b.tree.walk 0).filterMap (·.2.child?) = [1, 4, 2, 3] ∧
      [(0, .child 1), (1, .child 4)].Sublist (b.tree.walk 0) ∧
      (Outline.lines Outline.defaultTemplate b).length = 1 + 5 + 1 + 1 := by
  intro types ms b
  obtain ⟨-, -, -, -, -, -, hbehind, -, -, hlength⟩ :=
    rendering_complete ⟨[], ["type", "lab"], 0⟩ ms Outline.defaultTemplate
  have hm : b.tree.node? 1 = some ⟨1, some 0, some "csv", .equals "type" "csv", 1, some 3,
      .branch ⟨3, [.child 4]⟩⟩ := by
    decide +kernel
  have hn : b.tree.node? 4 = some ⟨4, some 1, some "jones",
      (Query.equals "type" "csv").and (.equals "lab" "jones"), 2, some 3, .collapsed⟩ := by
    decide +kernel
  refine ⟨by decide +kernel, ?_, ?_⟩
  · exact hbehind _ (List.mem_of_getElem? hm) _ (List.mem_of_getElem? hn) rfl (by decide)
  · rw [hlength]
    decide +kernel

end Course
end FacetBrowser
