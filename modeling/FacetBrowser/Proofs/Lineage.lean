import FacetBrowser.Proofs.Expansion
import Mathlib.Data.List.NodupEquivFin

namespace FacetBrowser

theorem Listing.OfGrouping.child_mem_iff {g : Grouping} {ids : List Nat} {listing : Listing}
    (h : listing.OfGrouping g ids) {i : Nat} : .child i ∈ listing.rows ↔ i ∈ ids := by
  obtain ⟨unlisted, hidden, -, -, rfl⟩ := h
  simp

theorem Tree.Holds.exists_group {t : Tree} {n : Node} {facet : String} {groups : List Group}
    {ids : List Nat} (h : t.Holds n facet groups ids) {i : Nat} (hi : i ∈ ids) :
    ∃ m, t.node? i = some m ∧ ∃ group ∈ groups, n.IsGroup facet group m := by
  induction h with
  | nil => cases hi
  | @cons id group ids groups hid _ ih =>
    rcases List.mem_cons.mp hi with rfl | hi
    · obtain ⟨m, hm, hg⟩ := hid
      exact ⟨m, hm, group, List.mem_cons_self, hg⟩
    · obtain ⟨m, hm, group', hmem, hg⟩ := ih hi
      exact ⟨m, hm, group', List.mem_cons_of_mem _ hmem, hg⟩

theorem zipWith_concat {α β γ : Type} (f : α → β → γ) {xs : List α} {x : α} (ys : List β)
    (y : β) (h : xs[ys.length]? = some x) :
    List.zipWith f xs (ys ++ [y]) = List.zipWith f xs ys ++ [f x y] := by
  induction ys generalizing xs with
  | nil =>
    cases xs with
    | nil => cases h
    | cons x' xs =>
      obtain rfl := Option.some.inj h
      simp
  | cons y' ys ih =>
    cases xs with
    | nil => cases h
    | cons x' xs => exact congrArg (List.cons (f x' y')) (ih h)

namespace Tree

inductive Line (t : Tree) : List Node → Node → Prop
  | root {n : Node} : t.node? 0 = some n → Line t [] n
  | child {line : List Node} {m n : Node} : Line t line m → n.parent = some m.id →
      t.node? n.id = some n → Line t (line ++ [n]) n

variable {t : Tree} {n : Node} {line : List Node}

theorem Line.node?_end (h : t.Line line n) : ∃ i, t.node? i = some n := by
  cases h with
  | root hn => exact ⟨_, hn⟩
  | child _ _ hn => exact ⟨_, hn⟩

theorem Line.depths (h : t.WellFormed) (hline : t.Line line n) :
    line.map (·.depth) = List.range' 1 n.depth := by
  induction hline with
  | root hn =>
    rw [h.root_eq hn]
    rfl
  | @child line m n hline hp hn ih =>
    obtain ⟨i, hm⟩ := hline.node?_end
    obtain rfl := h.id_eq hm
    have h0 : n.id ≠ 0 := by
      intro h0
      rw [h0] at hn
      rw [h.root_eq hn] at hp
      cases hp
    obtain ⟨p, m', _, hp', -, hm', hd, -⟩ := h.parent hn h0
    obtain rfl := Option.some.inj (hp'.symm.trans hp)
    obtain rfl := Option.some.inj (hm.symm.trans hm')
    rw [List.map_append, ih, hd, List.range'_concat]
    simp [hd, Nat.add_comm]

theorem count_child {t : Tree} (h : t.WellFormed) {p k i : Nat} {m : Node} (hm : t.node? p = some m)
    (hk : m.stage.rows[k]? = some (.child i)) (q : Nat) :
    (t.rows q).count (.child i) = if q = p then 1 else 0 := by
  split
  · rename_i hq
    rw [hq, rows_of_node? hm]
    refine Nat.le_antisymm ?_ (List.count_pos_iff.mpr (List.mem_of_getElem? hk))
    by_contra hlt
    obtain ⟨j, l, hjl, hj, hl⟩ := List.duplicate_iff_exists_distinct_get.mp
      (List.duplicate_iff_two_le_count.mpr (Nat.lt_of_not_le hlt))
    refine absurd (h.once hm (List.getElem?_eq_some_iff.mpr ⟨j.isLt, hj.symm⟩)
      (List.getElem?_eq_some_iff.mpr ⟨l.isLt, hl.symm⟩)) (Nat.ne_of_lt hjl)
  · rename_i hq
    refine List.count_eq_zero_of_not_mem fun hmem => hq ?_
    obtain ⟨-, n, hn, hp⟩ := h.child hm hk
    cases hr : t.node? q with
    | none => simp [rows, listing?, hr] at hmem
    | some r =>
      rw [rows_of_node? hr] at hmem
      obtain ⟨j, hj⟩ := List.mem_iff_getElem?.mp hmem
      obtain ⟨-, n', hn', hp'⟩ := h.child hr hj
      obtain rfl := Option.some.inj (hn.symm.trans hn')
      exact Option.some.inj (hp'.symm.trans hp)

end Tree

namespace Course

variable {answers : Question → Except SourceError Answer → Prop} {c : Course} {n : Node}
  {i : Nat}

theorem Accounted.shows (h : c.Accounted answers) (hn : c.browser.node? i = some n)
    (hc : n.stage ≠ .collapsed) (hl : n.stage ≠ .loading) :
    c.browser.tree.Shows answers c.browser.facets n := by
  rcases h i n hn with hs | hs | hs
  · exact absurd hs hc
  · exact absurd hs hl
  · exact hs

theorem Accounted.exists_parent (h : c.Accounted answers) (hc : c.Sound)
    (hle : ∀ {q a}, answers q a → q.Admits a) (hn : c.browser.node? i = some n) (hi : i ≠ 0) :
    ∃ m facet g group, m.id < i ∧ c.browser.node? m.id = some m ∧
      (∃ listing, m.stage = .branch listing) ∧ c.browser.facets.at? m.depth = some facet ∧
      answers (.group m.query facet) (.ok (.group facet g)) ∧ group ∈ g.groups ∧
      m.IsGroup facet group n := by
  obtain ⟨p, m, k, -, hpi, hm, -, hk⟩ := hc.tree.parent hn hi
  obtain rfl := hc.tree.id_eq hm
  obtain ⟨⟨listing, hb⟩, -⟩ := hc.tree.child hm hk
  obtain ⟨facet, g, ids, hat, ha, hlisting, hholds⟩ :=
    (h.shows hm (by simp [hb]) (by simp [hb])).branch hle hb
  have hmem : .child i ∈ listing.rows := by
    simpa [hb, Stage.rows, Stage.listing?] using List.mem_of_getElem? hk
  obtain ⟨n', hn', group, hgroup, hg⟩ := hholds.exists_group (hlisting.child_mem_iff.mp hmem)
  obtain rfl := Option.some.inj (hn.symm.trans hn')
  exact ⟨m, facet, g, group, hpi, hm, ⟨listing, hb⟩, hat, ha, hgroup, hg⟩

theorem Accounted.exists_line (h : c.Accounted answers) (hc : c.Sound)
    (hle : ∀ {q a}, answers q a → q.Admits a) (hn : c.browser.node? i = some n) :
    ∃ line labels, c.browser.tree.Line line n ∧ line.map (·.label) = labels.map some ∧
      labels.length ≤ c.browser.facets.chosen.length ∧
      n.query = (List.zipWith Query.equals c.browser.facets.chosen labels).foldl .and .all := by
  induction i using Nat.strongRecOn generalizing n with
  | ind i ih =>
    by_cases hi : i = 0
    · subst hi
      rw [hc.tree.root_eq hn]
      exact ⟨[], [], hc.tree.root_eq hn ▸ .root hn, rfl, Nat.zero_le _, by simp [Node.root]⟩
    · obtain ⟨m, facet, g, group, hmi, hm, -, hat, -, -, hg⟩ := h.exists_parent hc hle hn hi
      obtain ⟨line, labels, hline, hlabel, hlen, hquery⟩ := ih m.id hmi hm
      obtain rfl := hc.tree.id_eq hn
      have hlabels : labels.length = m.depth := by
        have hl := congrArg List.length hlabel
        have hd := congrArg List.length (hline.depths hc.tree)
        simp only [List.length_map, List.length_range'] at hl hd
        omega
      refine ⟨line ++ [n], labels ++ [group.value], .child hline hg.parent hn, ?_, ?_, ?_⟩
      · simp [hlabel, hg.label]
      · have := Facets.lt_of_at? hat
        simp only [List.length_append, List.length_singleton]
        omega
      · rw [zipWith_concat Query.equals labels group.value (hlabels ▸ hat), List.foldl_append,
          ← hquery]
        exact hg.query

theorem arena_wellFormed {facets : Facets} {ms : List Move}
    (h : (new facets).Permits Question.Admits ms) :
    let b := ((new facets).run ms).browser
    (∀ i n, b.node? i = some n → n.id = i ∧ (n.parent = none ↔ i = 0)) ∧
    (∃ n, b.node? 0 = some n ∧ n.query = .all ∧ n.depth = 0) ∧
    (∀ i n, b.node? i = some n → i ≠ 0 → ∃ m listing, n.parent = some m.id ∧ m.id < i ∧
      b.node? m.id = some m ∧ m.stage = .branch listing ∧ n.depth = m.depth + 1 ∧
      ∀ q, (b.tree.rows q).count (.child i) = if q = m.id then 1 else 0) ∧
    (∀ p i, .child i ∈ b.tree.rows p → ∃ n, b.node? i = some n) ∧
    ∀ i n, b.node? i = some n → ∃ line labels, b.tree.Line line n ∧
      line.map (·.depth) = List.range' 1 n.depth ∧ line.map (·.label) = labels.map some ∧
      labels.length ≤ b.facets.chosen.length ∧
      n.query = (List.zipWith Query.equals b.facets.chosen labels).foldl .and .all := by
  intro b
  obtain ⟨hc, ha⟩ := accounted_run h id
  refine ⟨?_, ?_, ?_, ?_, ?_⟩
  · intro i n hn
    refine ⟨hc.tree.id_eq hn, fun hp => ?_, ?_⟩
    · by_contra hi
      obtain ⟨p, _, _, hpar, -⟩ := hc.tree.parent hn hi
      cases hp.symm.trans hpar
    · rintro rfl
      rw [hc.tree.root_eq hn]
      rfl
  · obtain ⟨stage, hroot⟩ := hc.tree.root
    exact ⟨_, hroot, rfl, rfl⟩
  · intro i n hn hi
    obtain ⟨p, m, k, hpar, hpi, hm, hd, hk⟩ := hc.tree.parent hn hi
    obtain rfl := hc.tree.id_eq hm
    obtain ⟨⟨listing, hb⟩, -⟩ := hc.tree.child hm hk
    exact ⟨m, listing, hpar, hpi, hm, hb, hd, Tree.count_child hc.tree hm hk⟩
  · intro p i hmem
    obtain ⟨m, hm⟩ : ∃ m, b.node? p = some m := by
      by_contra hnone
      have hnode : b.tree.node? p = none :=
        Option.eq_none_iff_forall_ne_some.mpr fun m hm => hnone ⟨m, hm⟩
      simp [Tree.rows, Tree.listing?, hnode] at hmem
    rw [Tree.rows_of_node? hm] at hmem
    obtain ⟨k, hk⟩ := List.mem_iff_getElem?.mp hmem
    obtain ⟨-, n, hn, -⟩ := hc.tree.child hm hk
    exact ⟨n, hn⟩
  · intro i n hn
    obtain ⟨line, labels, hline, hrest⟩ := ha.exists_line hc id hn
    exact ⟨line, labels, hline, hline.depths hc.tree, hrest⟩

theorem query_two_levels_down :
    let facets : Facets := ⟨[], ["type", "lab"], 0⟩
    let ms := [Move.seed, .choose "type", .choose "lab",
      .complete ⟨0, .root⟩ (.ok (.sample ⟨3, []⟩)),
      .complete ⟨0, .group .all "type"⟩ (.ok (.group "type" ⟨3, [⟨"csv", 2⟩], ⟨1, []⟩⟩)),
      .activate 1,
      .complete ⟨1, .group (.equals "type" "csv") "lab"⟩
        (.ok (.group "lab" ⟨2, [⟨"smith", 2⟩], ⟨0, []⟩⟩))]
    (new facets).Permits Question.Admits ms ∧
      ∃ n, ((new facets).run ms).browser.node? 2 = some n ∧
        ∃ line labels, ((new facets).run ms).browser.tree.Line line n ∧
          line.map (·.depth) = List.range' 1 n.depth ∧ line.map (·.label) = labels.map some ∧
          labels.length ≤ ((new facets).run ms).browser.facets.chosen.length ∧
          n.query = (List.zipWith Query.equals
            ((new facets).run ms).browser.facets.chosen labels).foldl .and .all := by
  intro facets ms
  have h : (new facets).Permits Question.Admits ms := by
    refine ⟨trivial, trivial, trivial, ⟨?_, .root _⟩, ⟨?_, .group _ _ _⟩, trivial,
      ⟨?_, .group _ _ _⟩, trivial⟩ <;> decide +kernel
  have hsome : (((new facets).run ms).browser.node? 2).isSome = true := by decide +kernel
  obtain ⟨n, hn⟩ := Option.isSome_iff_exists.mp hsome
  exact ⟨h, n, hn, (arena_wellFormed h).2.2.2.2 2 n hn⟩

end Course
end FacetBrowser
