import FacetBrowser.Proofs.Issued
import FacetBrowser.Proofs.Lifecycle
import FacetBrowser.Proofs.Walk

namespace FacetBrowser

def Move.reply? : Move → Option Reply
  | .complete fetch answer => some ⟨fetch.node, answer⟩
  | _ => none

structure Relay where
  course : Course
  delivered : List Reply

inductive Delivery where
  | move (m : Move)
  | again (reply : Reply)

def Delivery.asMove : Delivery → Move
  | .move m => m
  | .again reply => .complete ⟨reply.node, .root⟩ reply.answer

namespace Tree

variable {t : Tree} {n m : Node} {listing : Listing} {i j : Nat}

theorem listed_eq (listing : Listing) :
    listing.children = listing.rows.filterMap Row.child? := by
  refine List.filterMap_congr fun row _ => ?_
  cases row <;> rfl

theorem WellFormed.mem_listed_iff (h : t.WellFormed) (hn : t.node? i = some n)
    (hs : n.stage = .branch listing) (hm : t.node? j = some m) :
    j ∈ listing.children ↔ m.parent = some i := by
  have hrows : n.stage.rows = listing.rows := by simp [Stage.rows, Stage.listing?, hs]
  simp only [listed_eq, List.mem_filterMap, Row.child?_eq_some, exists_eq_right, ← hrows]
  constructor
  · intro hrow
    obtain ⟨k, hk⟩ := List.mem_iff_getElem?.mp hrow
    obtain ⟨-, m', hm', hp⟩ := h.child hn hk
    exact Option.some.inj (hm.symm.trans hm') ▸ hp
  · intro hp
    obtain ⟨-, n', hn', -, hrow⟩ := exists_of_parent h hm hp
    exact Option.some.inj (hn'.symm.trans hn) ▸ hrow

theorem WellFormed.nodup_listed (h : t.WellFormed) (hn : t.node? i = some n)
    (hs : n.stage = .branch listing) : listing.children.Nodup := by
  have hrows : n.stage.rows = listing.rows := by simp [Stage.rows, Stage.listing?, hs]
  rw [listed_eq, List.Nodup, List.pairwise_filterMap, List.pairwise_iff_getElem, ← hrows]
  intro j k hj hk hjk c hc c' hc' heq
  subst heq
  have hrow {l : Nat} (hl : l < n.stage.rows.length) (hc : n.stage.rows[l].child? = some c) :
      n.stage.rows[l]? = some (.child c) := by
    rw [List.getElem?_eq_getElem hl, Row.child?_eq_some.mp hc]
  exact absurd (h.once hn (hrow hj hc) (hrow hk hc')) (Nat.ne_of_lt hjk)

end Tree

theorem Question.Admits.isFinal {q : Question} {a : Except SourceError Answer}
    (ha : q.Admits a) (hq : q.isGroup = true) (n : Node) (start : Nat) :
    (n.expanded start a).1.IsFinal := by
  rcases ha.branch_or_failed hq n start with ⟨_, hs⟩ | ⟨_, hs⟩ <;> simp [hs, Stage.IsFinal]

namespace Course

variable {c c' : Course} {reply : Reply} {n : Node}

-- what a reply that has come still finds of its node: one that no reply opens any more, or else the
-- reply is a sample, and the node is either a leaf or waits for its groups
inductive Spent (c : Course) (reply : Reply) (n : Node) : Prop
  | final : n.stage.IsFinal → Spent c reply n
  | leaf {s : Sample} {listing : Listing} : reply.answer = .ok (.sample s) →
      n.stage = .leaf listing → Spent c reply n
  | awaiting {s : Sample} {facet : String} : reply.answer = .ok (.sample s) →
      n.stage = .loading → c.browser.facets.at? n.depth = some facet →
      ⟨reply.node, .group n.query facet⟩ ∈ c.outstanding → Spent c reply n

theorem Spent.ne_collapsed (h : c.Spent reply n) : n.stage ≠ .collapsed := by
  cases h with
  | final hf =>
    intro hs
    simp [hs, Stage.IsFinal] at hf
  | leaf _ hs => simp [hs]
  | awaiting _ hs => simp [hs]

theorem Spent.mono (h : c.Spent reply n)
    (hfacets : ∀ {depth facet}, c.browser.facets.at? depth = some facet →
      c'.browser.facets.at? depth = some facet)
    (hout : n.stage = .loading → ∀ f ∈ c.outstanding, f.node = reply.node →
      f.question.isGroup = true → f ∈ c'.outstanding) : c'.Spent reply n := by
  cases h with
  | final hf => exact .final hf
  | leaf ha hs => exact .leaf ha hs
  | awaiting ha hs hat hf => exact .awaiting ha hs (hfacets hat) (hout hs _ hf rfl rfl)

theorem spent_expanded (c : Course) (reply : Reply) (n : Node) (start : Nat) :
    c.Spent reply { n with stage := (n.expanded start reply.answer).1 } := by
  rcases n.expanded_cases start reply.answer with ⟨_, _, _, hs, -⟩ | ⟨_, s, hs, ha⟩ | ⟨_, hs⟩
  · exact .final (by simp [hs, Stage.IsFinal])
  · exact .leaf ha hs
  · exact .final (by simp [hs, Stage.IsFinal])

end Course

namespace Relay

def new (facets : Facets) : Relay :=
  ⟨.new facets, []⟩

def after (r : Relay) : Delivery → Relay
  | .move m => ⟨r.course.after m, r.delivered ++ m.reply?.toList⟩
  | .again reply =>
    let (b, outcome) := r.course.browser.receive reply
    ⟨⟨b, r.course.outstanding ++ outcome.followUp.toList⟩, r.delivered⟩

def run (r : Relay) (ds : List Delivery) : Relay :=
  ds.foldl after r

def Allows (r : Relay) : Delivery → Prop
  | .move m => r.course.Allows Question.Admits m
  | .again reply => reply ∈ r.delivered

def Permits : Relay → List Delivery → Prop
  | _, [] => True
  | r, d :: ds => r.Allows d ∧ (r.after d).Permits ds

structure Tidy (r : Relay) : Prop where
  tree : r.course.browser.tree.WellFormed
  unseeded : r.course.browser.seeded = false →
    (∃ n, r.course.browser.node? 0 = some n ∧ n.stage = .loading) ∧
      (∀ f ∈ r.course.outstanding, f.node ≠ 0) ∧ ∀ reply ∈ r.delivered, reply.node ≠ 0
  apart : r.course.outstanding.Pairwise fun f g => f.node = g.node →
    f.question.isGroup = true ∧ g.question.isGroup = true
  waits : ∀ f ∈ r.course.outstanding, ∃ n, r.course.browser.node? f.node = some n ∧
    (n.stage = .loading ∨ f.question.isGroup = true ∧ n.stage.IsFinal)
  grouped : ∀ reply ∈ r.delivered, ∀ f ∈ r.course.outstanding, f.node = reply.node →
    f.question.isGroup = true
  spent : ∀ reply ∈ r.delivered, ∃ n, r.course.browser.node? reply.node = some n ∧
    r.course.Spent reply n

variable {r : Relay} {b : Browser} {fetches : List Fetch} {fetch : Fetch} {n : Node} {i : Nat}
  {a : Except SourceError Answer}

theorem tidy_new (facets : Facets) : (new facets).Tidy where
  tree := Tree.seedling_wellFormed
  unseeded := fun _ => ⟨⟨_, rfl, rfl⟩, by simp [new, Course.new], by simp [new]⟩
  apart := .nil
  waits := by simp [new, Course.new]
  grouped := by simp [new]
  spent := by simp [new]

namespace Tidy

theorem ne_of_collapsed (h : r.Tidy) (hn : r.course.browser.node? i = some n)
    (hs : n.stage = .collapsed) :
    (∀ f ∈ r.course.outstanding, f.node ≠ i) ∧ ∀ reply ∈ r.delivered, reply.node ≠ i := by
  refine ⟨fun f hf hi => ?_, fun reply hreply hi => ?_⟩
  · obtain ⟨m, hm, hstage⟩ := h.waits f hf
    obtain rfl := Option.some.inj (hn.symm.trans (hi ▸ hm))
    simp [hs, Stage.IsFinal] at hstage
  · obtain ⟨m, hm, hspent⟩ := h.spent reply hreply
    obtain rfl := Option.some.inj (hn.symm.trans (hi ▸ hm))
    exact hspent.ne_collapsed hs

theorem ne_of_leaf (h : r.Tidy) (hn : r.course.browser.node? i = some n) {listing : Listing}
    (hs : n.stage = .leaf listing) : ∀ f ∈ r.course.outstanding, f.node ≠ i := by
  intro f hf hi
  obtain ⟨m, hm, hstage⟩ := h.waits f hf
  obtain rfl := Option.some.inj (hn.symm.trans (hi ▸ hm))
  simp [hs, Stage.IsFinal] at hstage

theorem isGroup_of_erase (h : r.Tidy) (hf : fetch ∈ r.course.outstanding) :
    ∀ g ∈ r.course.outstanding.erase fetch, g.node = fetch.node →
      g.question.isGroup = true ∧ fetch.question.isGroup = true := by
  intro g hg hnode
  have hapart := ((List.perm_cons_erase hf).pairwise_iff
    fun {f g} hfg hnode => (hfg hnode.symm).symm).mp h.apart
  exact ((List.pairwise_cons.mp hapart).1 g hg hnode.symm).symm

theorem begin (h : r.Tidy) (htree : b.tree.WellFormed)
    (hseeded : b.seeded = false → r.course.browser.seeded = false ∧ ∀ g ∈ fetches, g.node ≠ 0)
    (hnodup : (fetches.map (·.node)).Nodup)
    (hidle : ∀ g ∈ fetches, ∀ f ∈ r.course.outstanding, f.node ≠ g.node)
    (hbegun : ∀ g ∈ fetches, ∃ n, b.node? g.node = some n ∧ n.stage = .loading)
    (hkept : ∀ {i n}, i ∉ fetches.map (·.node) → r.course.browser.node? i = some n →
      b.node? i = some n)
    (hfacets : ∀ {depth facet}, r.course.browser.facets.at? depth = some facet →
      b.facets.at? depth = some facet)
    (hspent : ∀ reply ∈ r.delivered, ∀ g ∈ fetches, g.node = reply.node →
      g.question.isGroup = true ∧ ∃ n, b.node? reply.node = some n ∧
        Course.Spent ⟨b, r.course.outstanding ++ fetches⟩ reply n) :
    Tidy ⟨⟨b, r.course.outstanding ++ fetches⟩, r.delivered⟩ where
  tree := htree
  unseeded hs := by
    obtain ⟨hs, hfetches⟩ := hseeded hs
    obtain ⟨⟨n, hn, hl⟩, hout, hdelivered⟩ := h.unseeded hs
    refine ⟨⟨n, hkept ?_ hn, hl⟩, fun f hf => ?_, hdelivered⟩
    · simpa using hfetches
    · exact (List.mem_append.mp hf).elim (hout f) (hfetches f)
  apart := by
    refine List.pairwise_append.mpr ⟨h.apart, ?_, fun f hf g hg hnode => ?_⟩
    · exact (List.pairwise_map.mp hnodup).imp fun hne hnode => absurd hnode hne
    · exact absurd hnode (hidle g hg f hf)
  waits f hf := by
    rcases List.mem_append.mp hf with hf | hf
    · obtain ⟨n, hn, hstage⟩ := h.waits f hf
      refine ⟨n, hkept ?_ hn, hstage⟩
      rintro hmem
      obtain ⟨g, hg, hnode⟩ := List.mem_map.mp hmem
      exact hidle g hg f hf hnode.symm
    · obtain ⟨n, hn, hl⟩ := hbegun f hf
      exact ⟨n, hn, Or.inl hl⟩
  grouped reply hreply f hf hnode := by
    rcases List.mem_append.mp hf with hf | hf
    · exact h.grouped reply hreply f hf hnode
    · exact (hspent reply hreply f hf hnode).1
  spent reply hreply := by
    by_cases hmem : reply.node ∈ fetches.map (·.node)
    · obtain ⟨g, hg, hnode⟩ := List.mem_map.mp hmem
      exact (hspent reply hreply g hg hnode).2
    · obtain ⟨n, hn, hs⟩ := h.spent reply hreply
      exact ⟨n, hkept hmem hn,
        hs.mono hfacets fun _ f hf _ _ => List.mem_append_left _ hf⟩

theorem erase (h : r.Tidy)
    (hdone : fetch.question.isGroup = true → ∀ n, r.course.browser.node? fetch.node = some n →
      n.stage ≠ .loading) :
    Tidy ⟨⟨r.course.browser, r.course.outstanding.erase fetch⟩, r.delivered⟩ where
  tree := h.tree
  unseeded hs := by
    obtain ⟨hroot, hout, hdelivered⟩ := h.unseeded hs
    exact ⟨hroot, fun f hf => hout f (List.mem_of_mem_erase hf), hdelivered⟩
  apart := h.apart.sublist List.erase_sublist
  waits f hf := h.waits f (List.mem_of_mem_erase hf)
  grouped reply hreply f hf := h.grouped reply hreply f (List.mem_of_mem_erase hf)
  spent reply hreply := by
    obtain ⟨n, hn, hs⟩ := h.spent reply hreply
    refine ⟨n, hn, hs.mono id fun hl f hf hnode hq => (List.mem_erase_of_ne ?_).mpr hf⟩
    rintro rfl
    exact hdone hq n (hnode ▸ hn) hl

theorem deliver (h : r.Tidy) {reply : Reply}
    (hseeded : r.course.browser.seeded = false → reply.node ≠ 0)
    (hgrouped : ∀ f ∈ r.course.outstanding, f.node = reply.node → f.question.isGroup = true)
    (hspent : ∃ n, r.course.browser.node? reply.node = some n ∧ r.course.Spent reply n) :
    Tidy ⟨r.course, r.delivered ++ [reply]⟩ where
  tree := h.tree
  unseeded hs := by
    obtain ⟨hroot, hout, hdelivered⟩ := h.unseeded hs
    exact ⟨hroot, hout, List.forall_mem_append.mpr
      ⟨hdelivered, List.forall_mem_singleton.mpr (hseeded hs)⟩⟩
  apart := h.apart
  waits := h.waits
  grouped := List.forall_mem_append.mpr ⟨h.grouped, List.forall_mem_singleton.mpr hgrouped⟩
  spent := List.forall_mem_append.mpr ⟨h.spent, List.forall_mem_singleton.mpr hspent⟩

theorem replan (h : r.Tidy) (hn : r.course.browser.node? i = some n) (hl : n.stage = .loading)
    (hseeded : r.course.browser.seeded = false → i ≠ 0)
    (hgrouped : ∀ f ∈ r.course.outstanding, f.node = i → f.question.isGroup = true)
    (facet : String) :
    Tidy ⟨⟨r.course.browser, r.course.outstanding ++ [⟨i, .group n.query facet⟩]⟩,
      r.delivered⟩ where
  tree := h.tree
  unseeded hs := by
    obtain ⟨hroot, hout, hdelivered⟩ := h.unseeded hs
    exact ⟨hroot, List.forall_mem_append.mpr
      ⟨hout, List.forall_mem_singleton.mpr (hseeded hs)⟩, hdelivered⟩
  apart := by
    refine List.pairwise_append.mpr ⟨h.apart, List.pairwise_singleton _ _, ?_⟩
    intro f hf g hg hnode
    obtain rfl := List.mem_singleton.mp hg
    exact ⟨hgrouped f hf hnode, rfl⟩
  waits := List.forall_mem_append.mpr
    ⟨h.waits, List.forall_mem_singleton.mpr ⟨n, hn, Or.inl hl⟩⟩
  grouped reply hreply := List.forall_mem_append.mpr
    ⟨h.grouped reply hreply, List.forall_mem_singleton.mpr fun _ => rfl⟩
  spent reply hreply := by
    obtain ⟨m, hm, hs⟩ := h.spent reply hreply
    exact ⟨m, hm, hs.mono id fun _ f hf _ _ => List.mem_append_left _ hf⟩

theorem seed (h : r.Tidy) (hs : r.course.browser.seeded = false) :
    Tidy ⟨⟨{ r.course.browser with seeded := true }, r.course.outstanding ++ [⟨0, .root⟩]⟩,
      r.delivered⟩ := by
  obtain ⟨⟨n, hn, hl⟩, hout, hdelivered⟩ := h.unseeded hs
  refine h.begin (b := { r.course.browser with seeded := true }) h.tree (by simp)
    (List.nodup_singleton _) (by simpa using hout) (by simpa using ⟨n, hn, hl⟩)
    (fun _ hn => hn) id ?_
  intro reply hreply g hg hnode
  obtain rfl := List.mem_singleton.mp hg
  exact absurd hnode.symm (hdelivered reply hreply)

theorem activate (h : r.Tidy) (hn : r.course.browser.node? i = some n)
    (hs : n.stage = .collapsed) :
    Tidy ⟨⟨r.course.browser.grown n .loading [],
      r.course.outstanding ++ [⟨i, .ofNode r.course.browser.facets n⟩]⟩, r.delivered⟩ := by
  obtain rfl := h.tree.id_eq hn
  obtain ⟨hout, hdelivered⟩ := h.ne_of_collapsed hn hs
  refine h.begin (Tree.wellFormed_grow h.tree hn (by simp [hs]) (.loading _ _)) ?_
    (List.nodup_singleton _) (by simpa using hout) ?_ ?_ id ?_
  · intro hseed
    refine ⟨hseed, List.forall_mem_singleton.mpr fun h0 => ?_⟩
    obtain ⟨⟨root, hroot, hl⟩, -⟩ := h.unseeded hseed
    obtain rfl := Option.some.inj (hn.symm.trans (h0 ▸ hroot))
    cases hs.symm.trans hl
  · exact List.forall_mem_singleton.mpr ⟨_, Tree.node?_grow_self (Tree.lt_of_node? hn), rfl⟩
  · intro j m hj hm
    exact Tree.node?_grow_old (by simpa using hj) hm
  · intro reply hreply g hg hnode
    obtain rfl := List.mem_singleton.mp hg
    exact absurd hnode.symm (hdelivered reply hreply)

theorem choose (h : r.Tidy) (facet : String) :
    Tidy ⟨⟨r.course.browser.regrouped facet,
      r.course.outstanding ++ r.course.browser.regroupings facet⟩, r.delivered⟩ := by
  have hleaf {g : Fetch} (hg : g ∈ r.course.browser.regroupings facet) : ∃ n listing facet',
      r.course.browser.node? g.node = some n ∧ n.stage = .leaf listing ∧
        (r.course.browser.regrouped facet).node? g.node = some { n with stage := .loading } ∧
          (r.course.browser.facets.extended facet).at? n.depth = some facet' ∧
            g = ⟨g.node, .group n.query facet'⟩ := by
    obtain ⟨j, m, hm, ho, rfl⟩ := Course.mem_regroupings.mp hg
    obtain rfl := h.tree.id_eq hm
    obtain ⟨listing, hs⟩ := Tree.leaf_of_isOutdated ho
    have hd : m.depth < (r.course.browser.facets.extended facet).chosen.length := by
      simp only [Browser.isOutdated, Bool.and_eq_true, decide_eq_true_eq] at ho
      exact ho.2
    have hat := List.getElem?_eq_getElem hd
    exact ⟨m, listing, _, hm, hs, Tree.node?_regroup_outdated hm ho, hat,
      congrArg (Fetch.mk m.id) (Question.ofNode_eq_group hat)⟩
  refine h.begin (Tree.wellFormed_regroup h.tree _) ?_ ?_ ?_ ?_ ?_ ?_ ?_
  · intro hseed
    refine ⟨hseed, fun g hg h0 => ?_⟩
    obtain ⟨m, listing, _, hm, hs, -⟩ := hleaf hg
    obtain ⟨⟨root, hroot, hl⟩, -⟩ := h.unseeded hseed
    obtain rfl := Option.some.inj (hm.symm.trans (h0 ▸ hroot))
    cases hs.symm.trans hl
  · refine (Course.nodup_ids h.tree).sublist ?_
    simp only [Browser.regroupings, List.map_map]
    exact List.filter_sublist.map _
  · intro g hg
    obtain ⟨m, listing, _, hm, hs, -⟩ := hleaf hg
    exact h.ne_of_leaf hm hs
  · intro g hg
    obtain ⟨m, _, _, -, -, hm', -⟩ := hleaf hg
    exact ⟨_, hm', rfl⟩
  · intro j m hj hm
    refine Tree.node?_regroup_kept hm (Bool.eq_false_iff.mpr fun ho => hj ?_)
    obtain rfl := h.tree.id_eq hm
    exact List.mem_map.mpr ⟨_, Course.mem_regroupings.mpr ⟨_, m, hm, ho, rfl⟩, rfl⟩
  · exact fun hat => Facets.at?_extended hat facet
  · intro reply hreply g hg hnode
    obtain ⟨m, listing, facet', hm, hs, hm', hat, heq⟩ := hleaf hg
    obtain ⟨m₀, hm₀, hspent⟩ := h.spent reply hreply
    obtain rfl := Option.some.inj (hm.symm.trans (hnode ▸ hm₀))
    refine ⟨heq ▸ rfl, _, hnode ▸ hm', ?_⟩
    cases hspent with
    | final hf => simp [hs, Stage.IsFinal] at hf
    | leaf ha => exact .awaiting ha rfl hat (List.mem_append_right _ (hnode ▸ heq ▸ hg))
    | awaiting _ hl => cases hs.symm.trans hl

theorem drop (h : r.Tidy) (hf : fetch ∈ r.course.outstanding)
    (hdrop : ∀ n, r.course.browser.node? fetch.node = some n → n.stage ≠ .loading) :
    Tidy ⟨⟨r.course.browser, r.course.outstanding.erase fetch⟩,
      r.delivered ++ [⟨fetch.node, a⟩]⟩ := by
  obtain ⟨n, hn, hl | ⟨-, hfinal⟩⟩ := h.waits fetch hf
  · exact absurd hl (hdrop n hn)
  · exact (h.erase fun _ => hdrop).deliver (fun hs => (h.unseeded hs).2.1 fetch hf)
      (fun g hg hnode => (h.isGroup_of_erase hf g hg hnode).1) ⟨n, hn, .final hfinal⟩

theorem stale (h : r.Tidy) (hf : fetch ∈ r.course.outstanding) (ha : fetch.question.Admits a)
    (hn : r.course.browser.node? fetch.node = some n) (hl : n.stage = .loading)
    (hs : n.isStale r.course.browser.facets a = true) :
    Tidy ⟨⟨r.course.browser, r.course.outstanding.erase fetch ++
      [⟨fetch.node, .ofNode r.course.browser.facets n⟩]⟩, r.delivered ++ [⟨fetch.node, a⟩]⟩ := by
  have hq := Node.isGroup_of_isStale ha hs
  match a, hs with
  | .ok (.sample s), hs =>
    have hat := List.getElem?_eq_getElem (of_decide_eq_true hs)
    have hseeded (hs : r.course.browser.seeded = false) := (h.unseeded hs).2.1 fetch hf
    have hgrouped := fun g hg hnode => (h.isGroup_of_erase hf g hg hnode).1
    rw [Question.ofNode_eq_group hat]
    refine ((h.erase (by simp [hq])).replan hn hl hseeded hgrouped _).deliver hseeded ?_
      ⟨n, hn, .awaiting rfl hl hat (List.mem_append_right _ List.mem_cons_self)⟩
    exact List.forall_mem_append.mpr ⟨hgrouped, List.forall_mem_singleton.mpr fun _ => rfl⟩

theorem fresh (h : r.Tidy) (hf : fetch ∈ r.course.outstanding) (ha : fetch.question.Admits a)
    (hn : r.course.browser.node? fetch.node = some n) (hl : n.stage = .loading) :
    Tidy ⟨⟨r.course.browser.grown n (n.expanded r.course.browser.tree.nodes.length a).1
      (n.expanded r.course.browser.tree.nodes.length a).2, r.course.outstanding.erase fetch⟩,
        r.delivered ++ [⟨fetch.node, a⟩]⟩ := by
  have hid : n.id = fetch.node := h.tree.id_eq hn
  have hn' : r.course.browser.node? n.id = some n := hid ▸ hn
  have hself : (r.course.browser.grown n (n.expanded r.course.browser.tree.nodes.length a).1
      (n.expanded r.course.browser.tree.nodes.length a).2).node? fetch.node =
        some { n with stage := (n.expanded r.course.browser.tree.nodes.length a).1 } := by
    rw [← hid]
    exact Tree.node?_grow_self (Tree.lt_of_node? hn')
  refine ⟨?_, fun hs => ?_, h.apart.sublist List.erase_sublist, fun f hf' => ?_, ?_, ?_⟩
  · exact Tree.wellFormed_grow h.tree hn' (by simp [hl]) (n.growth_expanded _ a)
  · obtain ⟨⟨root, hroot, hloading⟩, hout, hdelivered⟩ := h.unseeded hs
    refine ⟨⟨root, ?_, hloading⟩, fun g hg => hout g (List.mem_of_mem_erase hg),
      List.forall_mem_append.mpr ⟨hdelivered, List.forall_mem_singleton.mpr (hout fetch hf)⟩⟩
    exact Tree.node?_grow_old (hid ▸ (hout fetch hf).symm) hroot
  · by_cases hnode : f.node = fetch.node
    · obtain ⟨hq, hq'⟩ := h.isGroup_of_erase hf f hf' hnode
      exact ⟨_, hnode ▸ hself, Or.inr ⟨hq, ha.isFinal hq' n _⟩⟩
    · obtain ⟨m, hm, hstage⟩ := h.waits f (List.mem_of_mem_erase hf')
      exact ⟨m, Tree.node?_grow_old (hid ▸ hnode) hm, hstage⟩
  · exact List.forall_mem_append.mpr
      ⟨fun reply hreply f hf' => h.grouped reply hreply f (List.mem_of_mem_erase hf'),
        List.forall_mem_singleton.mpr fun f hf' hnode => (h.isGroup_of_erase hf f hf' hnode).1⟩
  · refine List.forall_mem_append.mpr ⟨fun reply hreply => ?_,
      List.forall_mem_singleton.mpr ⟨_, hself, Course.spent_expanded _ ⟨fetch.node, a⟩ n _⟩⟩
    by_cases hnode : fetch.node = reply.node
    · have hq := h.grouped reply hreply fetch hf hnode
      exact ⟨_, hnode ▸ hself, .final (ha.isFinal hq n _)⟩
    · obtain ⟨m, hm, hspent⟩ := h.spent reply hreply
      refine ⟨m, Tree.node?_grow_old (hid ▸ Ne.symm hnode) hm, hspent.mono id ?_⟩
      rintro - f hf' hmine -
      refine (List.mem_erase_of_ne ?_).mpr hf'
      rintro rfl
      exact hnode hmine

theorem receive (h : r.Tidy) {reply : Reply} (hreply : reply ∈ r.delivered) :
    r.course.browser.receive reply = (r.course.browser, .nothing) ∨
    ∃ n facet, r.course.browser.node? reply.node = some n ∧ n.stage = .loading ∧
      ⟨reply.node, .group n.query facet⟩ ∈ r.course.outstanding ∧
        r.course.browser.receive reply =
          (r.course.browser, ⟨none, some ⟨reply.node, .group n.query facet⟩⟩) := by
  obtain ⟨n, hn, hspent⟩ := h.spent reply hreply
  cases hspent with
  | final hf =>
    refine Or.inl (Browser.receive_idle hn fun hl => ?_)
    simp [hl, Stage.IsFinal] at hf
  | leaf _ hs => exact Or.inl (Browser.receive_idle hn (by simp [hs]))
  | @awaiting s facet ha hl hat hf =>
    have hstale : n.isStale r.course.browser.facets reply.answer = true := by
      rw [ha]
      exact decide_eq_true (Facets.lt_of_at? hat)
    refine Or.inr ⟨n, facet, hn, hl, hf, ?_⟩
    rw [Browser.receive_stale hn hl hstale, Question.ofNode_eq_group hat]

theorem step (h : r.Tidy) {d : Delivery} (hd : r.Allows d) : (r.after d).Tidy := by
  cases d with
  | move m =>
    have hs : Course.Step Question.Admits r.course m (r.course.after m) := Course.Allows.step hd
    rw [after]
    generalize r.course.after m = c' at hs
    cases hs with
    | seeded | unknown | ignore | refuse => simpa [Move.reply?] using h
    | seed hseed => simpa [Move.reply?] using h.seed hseed
    | activate hn hs => simpa [Move.reply?] using h.activate hn hs
    | choose => simpa [Move.reply?] using h.choose _
    | drop hf hdrop => exact h.drop hf hdrop
    | stale hf ha hn hl hs => exact h.stale hf ha hn hl hs
    | fresh hf ha hn hl => exact h.fresh hf ha hn hl
  | again reply =>
    have hreply : reply ∈ r.delivered := hd
    rcases h.receive hreply with heq | ⟨n, facet, hn, hl, -, heq⟩
    · simpa [after, heq, Outcome.nothing] using h
    · simp only [after, heq, Option.toList_some]
      exact h.replan hn hl (fun hs => (h.unseeded hs).2.2 reply hreply)
        (h.grouped reply hreply) facet

theorem run (h : r.Tidy) {ds : List Delivery} (hds : r.Permits ds) : (r.run ds).Tidy := by
  induction ds generalizing r with
  | nil => exact h
  | cons d ds ih => exact ih (h.step hds.1) hds.2

end Tidy

theorem run_append (r : Relay) (ds es : List Delivery) :
    r.run (ds ++ es) = (r.run ds).run es :=
  List.foldl_append

theorem permits_append {ds es : List Delivery} :
    r.Permits (ds ++ es) ↔ r.Permits ds ∧ (r.run ds).Permits es := by
  induction ds generalizing r with
  | nil => simp [Permits, run]
  | cons d ds ih =>
    simp only [List.cons_append, Permits, ih, and_assoc]
    rfl

theorem browser_after (r : Relay) (d : Delivery) :
    (r.after d).course.browser = (r.course.after d.asMove).browser := by
  cases d <;> rfl

theorem Tidy.kept_run (h : r.Tidy) {ds : List Delivery} (hds : r.Permits ds)
    (hn : r.course.browser.node? i = some n) (hf : n.stage.IsFinal) :
    (r.run ds).course.browser.node? i = some n := by
  induction ds generalizing r with
  | nil => exact hn
  | cons d ds ih =>
    obtain ⟨stage, hn', hstage⟩ := Course.kept_run h.tree [d.asMove] hn
    obtain rfl := hstage hf
    exact ih (h.step hds.1) hds.2 (r.browser_after d ▸ hn')

theorem redelivery_harmless {facets : Facets} {ds : List Delivery}
    (h : (new facets).Permits ds) :
    let r := (new facets).run ds
    (∀ reply ∈ r.delivered,
      (r.course.browser.receive reply).1 = r.course.browser ∧
      (r.course.browser.receive reply).2.changed = none ∧
      ∀ fetch, (r.course.browser.receive reply).2.followUp = some fetch →
        fetch.node = reply.node ∧ fetch.question.isGroup = true ∧ fetch ∈ r.course.outstanding ∧
          ∃ n, r.course.browser.node? reply.node = some n ∧ n.stage = .loading) ∧
    ∀ before more, ds = before ++ more → ∀ i n listing,
      ((new facets).run before).course.browser.node? i = some n → n.stage = .branch listing →
      r.course.browser.node? i = some n ∧ listing.children.Nodup ∧
        ∀ j m, r.course.browser.node? j = some m → (m.parent = some i ↔ j ∈ listing.children) := by
  intro r
  have hr : r.Tidy := (tidy_new facets).run h
  refine ⟨fun reply hreply => ?_, ?_⟩
  · rcases hr.receive hreply with heq | ⟨n, facet, hn, hl, hf, heq⟩
    · simp [heq, Outcome.nothing]
    · simp only [heq, Option.some.injEq, true_and]
      rintro _ rfl
      exact ⟨rfl, rfl, hf, n, hn, hl⟩
  · rintro before more rfl i n listing hn hs
    obtain ⟨hbefore, hmore⟩ := permits_append.mp h
    have hn' : r.course.browser.node? i = some n := by
      simp only [r, run_append]
      exact ((tidy_new facets).run hbefore).kept_run hmore hn (by simp [hs, Stage.IsFinal])
    refine ⟨hn', hr.tree.nodup_listed hn' hs, fun j m hm => ?_⟩
    exact (hr.tree.mem_listed_iff hn' hs hm).symm

theorem sample_redelivered_between_groupings :
    let reply : Reply := ⟨0, .ok (.sample ⟨4, []⟩)⟩
    let groups := Answer.group "type" ⟨4, [⟨"csv", 4⟩], ⟨0, []⟩⟩
    let grouped := Move.complete ⟨0, .group .all "type"⟩ (.ok groups)
    let before := [.move .seed, .move (.complete ⟨0, .root⟩ reply.answer), .move (.choose "type"),
      .again reply]
    let between := before ++ [.move grouped]
    let ds := between ++ [.again reply, .move grouped, .again ⟨0, .ok groups⟩]
    (new ⟨[], ["type"], 0⟩).Permits ds ∧
      reply ∈ ((new ⟨[], ["type"], 0⟩).run before).delivered ∧
      (((new ⟨[], ["type"], 0⟩).run before).course.browser.receive reply).1 =
        ((new ⟨[], ["type"], 0⟩).run before).course.browser ∧
      (((new ⟨[], ["type"], 0⟩).run before).course.browser.receive reply).2 =
        ⟨none, some ⟨0, .group .all "type"⟩⟩ ∧
      ∀ j m, ((new ⟨[], ["type"], 0⟩).run ds).course.browser.node? j = some m →
        (m.parent = some 0 ↔ j ∈ [1]) := by
  intro reply groups grouped before between ds
  have h : (new ⟨[], ["type"], 0⟩).Permits ds := by
    refine ⟨trivial, ⟨?_, .root _⟩, trivial, List.mem_cons_self, ⟨?_, .group _ _ _⟩,
      List.mem_cons_self, ⟨?_, .group _ _ _⟩, .tail _ List.mem_cons_self, trivial⟩ <;>
      decide +kernel
  have hbefore : (new ⟨[], ["type"], 0⟩).Permits before :=
    (permits_append.mp (permits_append.mp h).1).1
  have hreply : reply ∈ ((new ⟨[], ["type"], 0⟩).run before).delivered :=
    List.mem_cons_self
  have hn : ((new ⟨[], ["type"], 0⟩).run between).course.browser.node? 0 =
      some { Node.root with stage := .branch ⟨4, [.child 1]⟩ } := by
    decide +kernel
  exact ⟨h, hreply, ((redelivery_harmless hbefore).1 reply hreply).1, by decide +kernel,
    ((redelivery_harmless h).2 between _ rfl 0 _ _ hn rfl).2.2⟩

end Relay
end FacetBrowser
