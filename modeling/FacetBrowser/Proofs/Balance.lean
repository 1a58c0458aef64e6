import FacetBrowser.Proofs.Lineage

namespace FacetBrowser

theorem sum_elision? (count : UInt64) :
    ((elision? count).toList.map (·.toNat)).sum = count.toNat := by
  simp only [elision?]
  split
  · rename_i h
    rw [h]
    rfl
  · simp

theorem pos_of_mem_elision? {count rest : UInt64} (h : rest ∈ (elision? count).toList) :
    0 < rest := by
  simp only [elision?] at h
  split at h
  · cases h
  · rename_i hne
    obtain rfl := List.mem_singleton.mp h
    exact UInt64.pos_iff_ne_zero.mpr hne

namespace Listing

variable {listing : Listing} {ids : List Nat} {listed : List Item}
  {before after : Option UInt64} {s : Sample} {g : Grouping}

def Arranged (listing : Listing) (ids : List Nat) (before : Option UInt64) (listed : List Item)
    (after : Option UInt64) : Prop :=
  listing.rows = ids.map .child ++ before.toList.map .more ++ listed.map .item
    ++ after.toList.map .more

theorem Arranged.children (h : listing.Arranged ids before listed after) :
    listing.children = ids := by
  rw [Arranged] at h
  simp [Listing.children, h]

theorem Arranged.items (h : listing.Arranged ids before listed after) :
    listing.items = listed := by
  rw [Arranged] at h
  simp [Listing.items, h]

theorem Arranged.elisions (h : listing.Arranged ids before listed after) :
    listing.elisions = before.toList ++ after.toList := by
  rw [Arranged] at h
  simp [Listing.elisions, h]

theorem OfSample.arranged (h : listing.OfSample s) : ∃ hidden, s.unlisted = .ok hidden ∧
    listing.total = s.count ∧ listing.Arranged [] none s.items (elision? hidden) := by
  obtain ⟨hidden, hh, rfl⟩ := h
  exact ⟨hidden, hh, rfl, rfl⟩

theorem OfGrouping.arranged (h : listing.OfGrouping g ids) : ∃ unlisted hidden,
    g.unlisted = .ok unlisted ∧ g.ungrouped.unlisted = .ok hidden ∧ listing.total = g.count ∧
    listing.Arranged ids (elision? unlisted) g.ungrouped.items (elision? hidden) := by
  obtain ⟨unlisted, hidden, hu, hh, rfl⟩ := h
  exact ⟨unlisted, hidden, hu, hh, rfl, rfl⟩

end Listing

namespace Tree

variable {t : Tree} {n : Node} {listing : Listing}

structure Balances (t : Tree) (listing : Listing) : Prop where
  total : ∃ counts : List UInt64,
    listing.children.map (fun i => (t.node? i).bind (·.groupCount)) = counts.map some ∧
    (counts.map (·.toNat)).sum + listing.items.length + (listing.elisions.map (·.toNat)).sum =
      listing.total.toNat
  pos : ∀ count ∈ listing.elisions, 0 < count

theorem Holds.groupCounts {facet : String} {groups : List Group} {ids : List Nat}
    (h : t.Holds n facet groups ids) :
    ids.map (fun i => (t.node? i).bind (·.groupCount)) = (groups.map (·.count)).map some := by
  induction h with
  | nil => rfl
  | cons hid _ ih =>
    obtain ⟨m, hm, hg⟩ := hid
    simp only [List.map_cons, ih, hm, Option.bind_some, hg.groupCount]

theorem Holds.balances {facet : String} {g : Grouping} {ids : List Nat}
    (h : t.Holds n facet g.groups ids) (hl : listing.OfGrouping g ids) :
    t.Balances listing ∧ ∃ before after,
      listing.Arranged listing.children before listing.items after := by
  obtain ⟨unlisted, hidden, hu, hh, htotal, harranged⟩ := hl.arranged
  refine ⟨⟨⟨g.groups.map (·.count), ?_, ?_⟩, ?_⟩, elision? unlisted, elision? hidden, ?_⟩
  · rw [harranged.children]
    exact h.groupCounts
  · have hcount := Grouping.unlisted_eq_ok.mp hu
    have hungrouped := Sample.unlisted_eq_ok.mp hh
    rw [harranged.items, harranged.elisions, List.map_append, List.sum_append, sum_elision?,
      sum_elision?, List.map_map, htotal]
    simp only [Grouping.claimed] at hcount
    show (g.groups.map (·.count.toNat)).sum + _ + _ = g.count.toNat
    omega
  · intro count hmem
    rw [harranged.elisions] at hmem
    exact (List.mem_append.mp hmem).elim pos_of_mem_elision? pos_of_mem_elision?
  · rw [harranged.children, harranged.items]
    exact harranged

theorem balances_sample {s : Sample} (t : Tree) (hl : listing.OfSample s) :
    t.Balances listing ∧ ∃ rest, listing.Arranged [] none listing.items rest := by
  obtain ⟨hidden, hh, htotal, harranged⟩ := hl.arranged
  refine ⟨⟨⟨[], ?_, ?_⟩, ?_⟩, elision? hidden, ?_⟩
  · rw [harranged.children]
    rfl
  · rw [harranged.items, harranged.elisions, htotal]
    simpa [sum_elision?] using Sample.unlisted_eq_ok.mp hh
  · intro count hmem
    rw [harranged.elisions] at hmem
    exact pos_of_mem_elision? (by simpa using hmem)
  · rw [harranged.items]
    exact harranged

end Tree

namespace Node

variable {n : Node} {start : Nat}

theorem failed_sample_iff {s : Sample} :
    (∃ mismatch, (n.expanded start (.ok (.sample s))).1 = .failed (.inconsistent mismatch)) ↔
      ¬ s.Fits := by
  rw [← Sample.exists_unlisted_iff]
  simp only [expanded]
  cases s.unlisted with
  | error mismatch => simp
  | ok hidden => simp

theorem failed_group_iff {facet : String} {g : Grouping} :
    (∃ mismatch,
      (n.expanded start (.ok (.group facet g))).1 = .failed (.inconsistent mismatch)) ↔
      ¬ g.Fits := by
  rw [Grouping.fits_iff]
  simp only [expanded]
  cases g.unlisted with
  | error mismatch => simp
  | ok unlisted => cases g.ungrouped.unlisted <;> simp

end Node

namespace Course

variable {c : Course} {n : Node} {i : Nat}

theorem received_stage (h : c.Sound) (hn : c.browser.node? i = some n) (hl : n.stage = .loading)
    {a : Except SourceError Answer} (hfresh : n.isStale c.browser.facets a = false)
    (stage : Stage) :
    (c.browser.receive ⟨i, a⟩).1.node? i = some { n with stage := stage } ↔
      (n.expanded c.browser.tree.nodes.length a).1 = stage := by
  obtain rfl := h.tree.id_eq hn
  rw [Browser.receive_fresh (r := ⟨n.id, a⟩) hn hl hfresh, Browser.node?, Browser.grown,
    Tree.node?_grow_self (Tree.lt_of_node? hn)]
  constructor
  · intro he
    exact congrArg Node.stage (Option.some.inj he)
  · rintro rfl
    rfl

section Balancing

variable {answers : Question → Except SourceError Answer → Prop} {listing : Listing}

theorem Accounted.balances_branch (h : c.Accounted answers)
    (hle : ∀ {q a}, answers q a → q.Admits a) (hn : c.browser.node? i = some n)
    (hs : n.stage = .branch listing) : c.browser.tree.Balances listing ∧
      ∃ before after, listing.Arranged listing.children before listing.items after := by
  obtain ⟨_, _, _, -, -, hlisting, hholds⟩ :=
    (h.shows hn (by simp [hs]) (by simp [hs])).branch hle hs
  exact hholds.balances hlisting

theorem Accounted.balances_leaf (h : c.Accounted answers) (hn : c.browser.node? i = some n)
    (hs : n.stage = .leaf listing) : c.browser.tree.Balances listing ∧
      ∃ rest, listing.Arranged [] none listing.items rest := by
  obtain ⟨_, _, -, -, hlisting⟩ := (h.shows hn (by simp [hs]) (by simp [hs])).leaf hs
  exact Tree.balances_sample _ hlisting

theorem Accounted.balances (h : c.Accounted answers)
    (hle : ∀ {q a}, answers q a → q.Admits a) (hn : c.browser.node? i = some n)
    (hs : n.stage.listing? = some listing) : c.browser.tree.Balances listing := by
  cases hstage : n.stage with
  | branch listing' =>
    rw [hstage] at hs
    obtain rfl := Option.some.inj hs
    exact (h.balances_branch hle hn hstage).1
  | leaf listing' =>
    rw [hstage] at hs
    obtain rfl := Option.some.inj hs
    exact (h.balances_leaf hn hstage).1
  | _ =>
    rw [hstage] at hs
    cases hs

end Balancing

theorem listings_balance {facets : Facets} {ms : List Move}
    (h : (new facets).Permits Question.Admits ms) :
    let b := ((new facets).run ms).browser
    (∀ n ∈ b.tree.nodes,
      (∀ listing, n.stage = .branch listing → b.tree.Balances listing ∧
        ∃ before after, listing.Arranged listing.children before listing.items after) ∧
      ∀ listing, n.stage = .leaf listing → b.tree.Balances listing ∧
        ∃ rest, listing.Arranged [] none listing.items rest) ∧
    ∀ i n, b.node? i = some n → n.stage = .loading →
      (∀ facet g, (∃ mismatch, (b.receive ⟨i, .ok (.group facet g)⟩).1.node? i =
        some { n with stage := .failed (.inconsistent mismatch) }) ↔ ¬ g.Fits) ∧
      (b.facets.chosen.length ≤ n.depth → ∀ s,
        (∃ mismatch, (b.receive ⟨i, .ok (.sample s)⟩).1.node? i =
          some { n with stage := .failed (.inconsistent mismatch) }) ↔ ¬ s.Fits) := by
  intro b
  obtain ⟨hc, ha⟩ := accounted_run h id
  refine ⟨?_, ?_⟩
  · intro n hmem
    obtain ⟨i, hn⟩ := Tree.mem_nodes_iff.mp hmem
    exact ⟨fun _ hs => ha.balances_branch id hn hs, fun _ hs => ha.balances_leaf hn hs⟩
  · intro i n hn hl
    refine ⟨fun facet g => ?_, fun hdepth s => ?_⟩
    · exact (exists_congr fun _ => received_stage hc hn hl rfl _).trans Node.failed_group_iff
    · have hfresh : n.isStale b.facets (.ok (.sample s)) = false :=
        decide_eq_false (Nat.not_lt.mpr hdepth)
      exact (exists_congr fun _ => received_stage hc hn hl hfresh _).trans
        Node.failed_sample_iff

theorem balance_near_greatest_count :
    let facets : Facets := ⟨[], ["type", "lab"], 0⟩
    let big : UInt64 := 18446744073709551615
    let ms := [Move.seed, .choose "type", .complete ⟨0, .root⟩ (.ok (.sample ⟨3, []⟩)),
      .complete ⟨0, .group .all "type"⟩
        (.ok (.group "type" ⟨big, [⟨"csv", big - 9⟩], ⟨5, [⟨"7", "/x.nwb"⟩]⟩⟩)), .activate 1]
    let b := ((new facets).run ms).browser
    (new facets).Permits Question.Admits ms ∧
      (∃ n ∈ b.tree.nodes, ∃ listing, n.stage = .branch listing ∧ b.tree.Balances listing ∧
        ∃ before after, listing.Arranged listing.children before listing.items after) ∧
      ∃ n, b.node? 1 = some n ∧ ∃ mismatch,
        (b.receive ⟨1, .ok (.group "lab" ⟨1, [⟨"smith", big⟩], ⟨1, []⟩⟩)⟩).1.node? 1 =
          some { n with stage := .failed (.inconsistent mismatch) } := by
  intro facets big ms b
  have h : (new facets).Permits Question.Admits ms := by
    refine ⟨trivial, trivial, ⟨?_, .root _⟩, ⟨?_, .group _ _ _⟩, trivial, trivial⟩ <;>
      decide +kernel
  obtain ⟨hlistings, hfailed⟩ := listings_balance h
  have hroot : Node.mk 0 none none .all 0 none
      (.branch ⟨big, [.child 1, .more 4, .item ⟨"7", "/x.nwb"⟩, .more 4]⟩) ∈ b.tree.nodes := by
    decide +kernel
  have hchild : b.node? 1 = some ⟨1, some 0, some "csv", .equals "type" "csv", 1,
      some (big - 9), .loading⟩ := by
    decide +kernel
  have hover : ¬ Grouping.Fits ⟨1, [⟨"smith", big⟩], ⟨1, []⟩⟩ := fun hfits =>
    absurd hfits.claimed_le (by decide +kernel)
  exact ⟨h, ⟨_, hroot, _, rfl, (hlistings _ hroot).1 _ rfl⟩, _, hchild,
    ((hfailed 1 _ hchild rfl).1 "lab" _).mpr hover⟩

end Course
end FacetBrowser
