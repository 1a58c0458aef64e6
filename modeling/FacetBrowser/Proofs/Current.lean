import FacetBrowser.Proofs.Lineage

namespace FacetBrowser

theorem ok_of_map_ok {ε α β : Type} {f : α → β} {x : Except ε α} {y : β} (h : x.map f = .ok y) :
    ∃ a, x = .ok a ∧ f a = y := by
  cases x with
  | error e => cases h
  | ok a => exact ⟨a, rfl, Except.ok.inj h⟩

namespace Source

variable {source : Source} {facets : Facets} {n : Node} {q : Question}

def oracle (source : Source) : Oracle :=
  { source with root := source.sample .all }

theorem answer_suits (hq : q.Suits facets n) (hroot : n.id = 0 → n.query = .all) :
    source.oracle.answer q = (source.sample n.query).map .sample ∨
      ∃ facet, facets.at? n.depth = some facet ∧
        source.oracle.answer q = (source.group n.query facet).map (.group facet) := by
  cases q with
  | root => exact Or.inl (by rw [hroot hq]; rfl)
  | sample query =>
    obtain ⟨rfl, -⟩ := hq
    exact Or.inl rfl
  | group query facet =>
    obtain ⟨rfl, hat⟩ := hq
    exact Or.inr ⟨facet, hat, rfl⟩

theorem sample_of_suits {s : Sample} (hq : q.Suits facets n) (hroot : n.id = 0 → n.query = .all)
    (ha : source.oracle.answer q = .ok (.sample s)) : source.sample n.query = .ok s := by
  rcases answer_suits hq hroot with h | ⟨facet, -, h⟩
  · obtain ⟨s', hs, hanswer⟩ := ok_of_map_ok (h.symm.trans ha)
    rw [hs, Answer.sample.inj hanswer]
  · obtain ⟨g, -, hanswer⟩ := ok_of_map_ok (h.symm.trans ha)
    cases hanswer

theorem group_of_gives {query : Query} {facet : String} {g : Grouping}
    (ha : source.oracle.Gives (.group query facet) (.ok (.group facet g))) :
    source.group query facet = .ok g := by
  have ha' : (source.group query facet).map (Answer.group facet) = .ok (.group facet g) :=
    ha.symm
  obtain ⟨g', hg, hanswer⟩ := ok_of_map_ok ha'
  rw [hg, (Answer.group.inj hanswer).2]

end Source

namespace Course

variable {source : Source} {c : Course} {n : Node} {i : Nat}

theorem Sound.query_root (h : c.Sound) (hn : c.browser.node? i = some n) (h0 : n.id = 0) :
    n.query = .all := by
  obtain rfl := h.tree.id_eq hn
  rw [h0] at hn
  rw [h.tree.root_eq hn]
  rfl

theorem shown_data_current (source : Source) {facets : Facets} {ms : List Move}
    (h : (new facets).Permits source.oracle.Gives ms) :
    let b := ((new facets).run ms).browser
    ∀ n ∈ b.tree.nodes,
      (∀ listing, n.stage = .branch listing → ∃ facet g ids,
        b.facets.chosen[n.depth]? = some facet ∧ source.group n.query facet = .ok g ∧
        listing.OfGrouping g ids ∧ b.tree.Holds n facet g.groups ids) ∧
      (∀ listing, n.stage = .leaf listing → b.facets.chosen[n.depth]? = none ∧
        ∃ s, source.sample n.query = .ok s ∧ listing.OfSample s) ∧
      ∀ failure, n.stage = .failed failure →
        failure.Of ((source.sample n.query).map .sample) ∨
        ∃ facet, b.facets.chosen[n.depth]? = some facet ∧
          failure.Of ((source.group n.query facet).map (.group facet)) := by
  intro b n hmem
  obtain ⟨hc, ha⟩ := accounted_run h Oracle.admits_of_gives
  obtain ⟨i, hn⟩ := Tree.mem_nodes_iff.mp hmem
  refine ⟨?_, ?_, ?_⟩
  · intro listing hs
    obtain ⟨facet, g, ids, hat, hg, hlisting, hholds⟩ :=
      (ha.shows hn (by simp [hs]) (by simp [hs])).branch Oracle.admits_of_gives hs
    exact ⟨facet, g, ids, hat, Source.group_of_gives hg, hlisting, hholds⟩
  · intro listing hs
    obtain ⟨q, s, hq, hanswer, hlisting⟩ :=
      (ha.shows hn (by simp [hs]) (by simp [hs])).leaf hs
    exact ⟨List.getElem?_eq_none_iff.mpr ((hc.levelled hn).leaf_le hs), s,
      Source.sample_of_suits hq (hc.query_root hn) hanswer.symm, hlisting⟩
  · intro failure hs
    obtain ⟨q, a, hq, hanswer, hf⟩ :=
      (ha.shows hn (by simp [hs]) (by simp [hs])).failed hs
    obtain rfl : a = source.oracle.answer q := hanswer
    rcases Source.answer_suits hq (hc.query_root hn) with hsample | ⟨facet, hat, hgroup⟩
    · exact Or.inl (hsample ▸ hf)
    · exact Or.inr ⟨facet, hat, hgroup ▸ hf⟩

theorem branch_current_after_late_facet :
    let source : Source := ⟨fun _ => .ok ⟨3, []⟩, fun _ facet => .ok ⟨3, [⟨facet, 2⟩], ⟨1, []⟩⟩⟩
    let land (i : Nat) (q : Question) := Move.complete ⟨i, q⟩ (source.oracle.answer q)
    let ms := [.seed, .choose "type", land 0 .root, .choose "lab", land 0 (.group .all "type")]
    let c := new ⟨[], ["type", "lab"], 0⟩
    c.Permits source.oracle.Gives ms ∧ ∃ n ∈ (c.run ms).browser.tree.nodes,
      ∃ listing, n.stage = .branch listing ∧ ∃ facet g ids,
        (c.run ms).browser.facets.chosen[n.depth]? = some facet ∧
        source.group n.query facet = .ok g ∧ listing.OfGrouping g ids ∧
        (c.run ms).browser.tree.Holds n facet g.groups ids := by
  intro source land ms c
  have h : c.Permits source.oracle.Gives ms := by
    refine ⟨trivial, trivial, ⟨?_, rfl⟩, trivial, ⟨?_, rfl⟩, trivial⟩ <;> decide +kernel
  have hn : Node.mk 0 none none .all 0 none (.branch ⟨3, [.child 1, .more 1]⟩) ∈
      (c.run ms).browser.tree.nodes := by decide +kernel
  exact ⟨h, _, hn, _, rfl, (shown_data_current source h _ hn).1 _ rfl⟩

end Course
end FacetBrowser
