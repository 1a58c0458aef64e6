import FacetBrowser.Proofs.Answered
import FacetBrowser.Proofs.Awaited
import FacetBrowser.Proofs.History
import FacetBrowser.Proofs.Reconciliation

namespace FacetBrowser

structure Oracle.SamplesFit (o : Oracle) : Prop where
  root : ∃ s, o.root = .ok s ∧ s.Fits
  sample : ∀ query, ∃ s, o.sample query = .ok s ∧ s.Fits

theorem Stage.ne_collapsed_of_row {s : Stage} {k : Nat} {row : Row} (h : s.rows[k]? = some row) :
    s ≠ .collapsed := by
  rintro rfl
  cases h

namespace Node

variable {n m : Node}

def frame (n : Node) : Node :=
  Node.shape { n with stage := .collapsed }

theorem frame_restage (h : n.shape = m.shape) (s s' : Stage) :
    Node.frame { n with stage := s } = Node.frame { m with stage := s' } :=
  shape_restage (n := n) (m := m) h rfl

theorem shape_of_frame (h : n.frame = m.frame) (hs : n.stage.shape = m.stage.shape) :
    n.shape = m.shape :=
  shape_restage (n := { n with stage := .collapsed }) (m := { m with stage := .collapsed }) h hs

theorem query_of_frame (h : n.frame = m.frame) : n.query = m.query := by
  have hq : n.frame.query = m.frame.query := by rw [h]
  exact hq

theorem depth_of_frame (h : n.frame = m.frame) : n.depth = m.depth := by
  have hd : n.frame.depth = m.frame.depth := by rw [h]
  exact hd

theorem expanded_fitting {s : Sample} (h : s.Fits) (n : Node) (start : Nat) :
    ∃ listing, (n.expanded start (.ok (.sample s))).1 = .leaf listing := by
  have hu : s.unlisted = .ok (s.count - UInt64.ofNat s.items.length) := if_pos h
  simp only [expanded, hu]
  exact ⟨_, rfl⟩

end Node

namespace Question

variable {facets facets' : Facets} {n m : Node}

def due (facets : Facets) (n : Node) : Question :=
  if n.id = 0 ∧ facets.at? n.depth = none then .root else ofNode facets n

theorem due_eq_of_frame (hf : facets.chosen = facets'.chosen) (h : n.frame = m.frame)
    (h0 : n.id = 0 ↔ m.id = 0) : due facets n = due facets' m := by
  have hat : facets.at? n.depth = facets'.at? m.depth := by
    simp only [Facets.at?, hf, Node.depth_of_frame h]
  have hnode : ofNode facets n = ofNode facets' m := by
    simp only [ofNode, hat, Node.query_of_frame h]
  rw [due, due, hat, hnode]
  exact if_congr (and_congr_left fun _ => h0) rfl rfl

theorem eq_due {o : Oracle} (ho : o.SamplesFit) {t : Tree} {q : Question} {start : Nat}
    (hq : q.Suits facets n) (hfill : t.Fills n start (o.answer q)) (hl : n.Levelled facets) :
    q = due facets n := by
  have hnone {s : Sample} (hs : s.Fits) (ha : o.answer q = .ok (.sample s)) :
      facets.at? n.depth = none := by
    obtain ⟨listing, hleaf⟩ := n.expanded_fitting hs start
    rw [← ha, ← hfill.stage] at hleaf
    exact List.getElem?_eq_none_iff.mpr (hl.leaf_le hleaf)
  cases q with
  | root =>
    obtain ⟨s, hs, hfit⟩ := ho.root
    have hat := hnone hfit (by simp [Oracle.answer, hs, Except.map])
    rw [due, if_pos ⟨hq, hat⟩]
  | sample query =>
    obtain ⟨s, hs, hfit⟩ := ho.sample query
    have hat := hnone hfit (by simp [Oracle.answer, answer, hs, Except.map])
    rw [due, if_neg fun h => hq.2 h.1, ofNode, hat, hq.1]
  | group query facet =>
    obtain ⟨rfl, hat⟩ := hq
    rw [due, if_neg (by simp [hat]), ofNode_eq_group hat]

end Question

namespace Course

structure Quiet (o : Oracle) (opened : List Nat → Prop) (c : Course) : Prop where
  sound : c.Sound
  answered : c.Answered o
  opened : Opened opened c
  seeded : c.browser.seeded = true
  idle : c.outstanding = []

variable {o : Oracle} {opened : List Nat → Prop} {c c' : Course} {path : List Nat} {i j : Nat}
  {n m : Node}

theorem quiet_run {facets : Facets} {ms : List Move} (h : (new facets).Permits o.Gives ms)
    (hseed : .seed ∈ ms) (hidle : ((new facets).run ms).outstanding = []) :
    Quiet o ((new facets).Activates · ms) ((new facets).run ms) := by
  obtain ⟨hsound, hanswered⟩ := answered_run h
  have hadmits := h.mono Oracle.admits_of_gives
  exact ⟨hsound, hanswered, opened_run hadmits, (seeded_iff_mem_seed hadmits).mpr hseed, hidle⟩

theorem Quiet.fills (h : Quiet o opened c) (ho : o.SamplesFit) (hn : c.browser.node? i = some n)
    (hs : n.stage ≠ .collapsed) :
    ∃ start, c.browser.tree.Fills n start (o.answer (.due c.browser.facets n)) := by
  rcases h.answered i n hn with hc | hl | ⟨q, start, hq, hfill⟩
  · exact absurd hc hs
  · have hw := (h.sound.awaited hn).mp ⟨hl, fun _ => h.seeded⟩
    rw [h.idle] at hw
    cases hw
  · rw [← Question.eq_due ho hq hfill (h.sound.levelled hn)]
    exact ⟨start, hfill⟩

theorem Quiet.due_eq (h : Quiet o opened c) (h' : Quiet o opened c')
    (hf : c.browser.facets.chosen = c'.browser.facets.chosen)
    (hi : c.browser.tree.Leads path i) (hj : c'.browser.tree.Leads path j)
    (hn : c.browser.node? i = some n) (hm : c'.browser.node? j = some m)
    (hframe : n.frame = m.frame) :
    Question.due c.browser.facets n = Question.due c'.browser.facets m := by
  refine Question.due_eq_of_frame hf hframe ?_
  rw [h.sound.tree.id_eq hn, h'.sound.tree.id_eq hm, Tree.leads_iff_zero h.sound.tree hi,
    Tree.leads_iff_zero h'.sound.tree hj]

theorem Quiet.frame_eq (h : Quiet o opened c) (h' : Quiet o opened c') (ho : o.SamplesFit)
    (hf : c.browser.facets.chosen = c'.browser.facets.chosen)
    (hi : c.browser.tree.Leads path i) (hj : c'.browser.tree.Leads path j)
    (hn : c.browser.node? i = some n) (hm : c'.browser.node? j = some m) :
    n.frame = m.frame := by
  induction hi generalizing j n m with
  | root =>
    cases hj
    rw [h.sound.tree.root_eq hn, h'.sound.tree.root_eq hm]
    rfl
  | @child path p k i q hp hq hk ih =>
    cases hj with
    | @child _ p' _ _ q' hp' hq' hk' =>
      have hframe := ih hp' hq hq'
      obtain ⟨start, hfill⟩ := h.fills ho hq (Stage.ne_collapsed_of_row hk)
      obtain ⟨start', hfill'⟩ := h'.fills ho hq' (Stage.ne_collapsed_of_row hk')
      rw [h.due_eq h' hf hp hp' hq hq' hframe] at hfill
      obtain ⟨-, d, s, hd, hnode⟩ := hfill.exists_child hk
      obtain ⟨-, d', s', hd', hnode'⟩ := hfill'.exists_child hk'
      obtain rfl := Option.some.inj (hnode.symm.trans hn)
      obtain rfl := Option.some.inj (hnode'.symm.trans hm)
      exact Node.frame_restage (Tree.Fills.shape_child (Node.query_of_frame hframe)
        (Node.depth_of_frame hframe) hd hd') s s'

theorem Quiet.collapsed_iff (h : Quiet o opened c) (h' : Quiet o opened c')
    (hi : c.browser.tree.Leads path i) (hj : c'.browser.tree.Leads path j)
    (hn : c.browser.node? i = some n) (hm : c'.browser.node? j = some m) :
    n.stage = .collapsed ↔ m.stage = .collapsed := by
  cases path with
  | nil =>
    obtain rfl := (Tree.leads_iff_zero h.sound.tree hi).mpr rfl
    obtain rfl := (Tree.leads_iff_zero h'.sound.tree hj).mpr rfl
    exact iff_of_false (h.sound.root hn).1 (h'.sound.root hm).1
  | cons k path =>
    have hp : k :: path ≠ [] := List.cons_ne_nil _ _
    exact not_iff_not.mp ((h.opened.iff hi hn hp).trans (h'.opened.iff hj hm hp).symm)

theorem Quiet.alike (h : Quiet o opened c) (h' : Quiet o opened c') (ho : o.SamplesFit)
    (hf : c.browser.facets.chosen = c'.browser.facets.chosen) :
    c.browser.tree.Alike c'.browser.tree := by
  intro path i j n m hi hj hn hm
  have hframe := h.frame_eq h' ho hf hi hj hn hm
  refine Node.shape_of_frame hframe ?_
  by_cases hc : n.stage = .collapsed
  · rw [hc, (h.collapsed_iff h' hi hj hn hm).mp hc]
  · obtain ⟨start, hfill⟩ := h.fills ho hn hc
    obtain ⟨start', hfill'⟩ := h'.fills ho hm (mt (h.collapsed_iff h' hi hj hn hm).mpr hc)
    rw [h.due_eq h' hf hi hj hn hm hframe] at hfill
    exact hfill.shape_stage hfill'

theorem lines_of_same_choices (facets : Facets) (o : Oracle) (ho : o.SamplesFit)
    (ms ms' : List Move) (h : (new facets).Permits o.Gives ms)
    (h' : (new facets).Permits o.Gives ms') (hseed : .seed ∈ ms) (hseed' : .seed ∈ ms')
    (hselected : (new facets).collect selected ms = (new facets).collect selected ms')
    (hactivated : ∀ path, (new facets).Activates path ms ↔ (new facets).Activates path ms')
    (hidle : ((new facets).run ms).outstanding = [])
    (hidle' : ((new facets).run ms').outstanding = []) (template : String) :
    Outline.lines template ((new facets).run ms).browser =
      Outline.lines template ((new facets).run ms').browser := by
  have hq := quiet_run h hseed hidle
  have hq' := quiet_run h' hseed' hidle'
  rw [← funext fun path => propext (hactivated path)] at hq'
  have hf : ((new facets).run ms).browser.facets.chosen =
      ((new facets).run ms').browser.facets.chosen := by
    rw [chosen_run h, chosen_run h', hselected]
  exact (Tree.lines_of_alike hq.sound.tree hq'.sound.tree (hq.alike hq' ho hf) hf.symm
    template).symm

theorem lines_facet_late_eq_early :
    let c := new ⟨[], ["type", "lab"], 0⟩
    let o := Oracle.uniform ⟨2, []⟩ fun facet => ⟨2, [⟨facet, 2⟩], ⟨0, []⟩⟩
    let query := Query.all.and (.equals "type" "type")
    let land (i : Nat) (q : Question) := Move.complete ⟨i, q⟩ (o.answer q)
    let late := [.seed, land 0 .root, .choose "type", land 0 (.group .all "type"), .activate 1,
      .choose "lab", land 1 (.sample query), land 1 (.group query "lab")]
    let early := [.seed, .choose "type", .choose "lab", land 0 .root,
      land 0 (.group .all "type"), .activate 1, land 1 (.group query "lab")]
    c.Permits o.Gives late ∧ c.Permits o.Gives early ∧
      Outline.lines Outline.defaultTemplate (c.run late).browser =
        Outline.lines Outline.defaultTemplate (c.run early).browser := by
  intro c o query land late early
  have h : c.Permits o.Gives late := by
    refine ⟨trivial, ⟨?_, rfl⟩, trivial, ⟨?_, rfl⟩, trivial, trivial, ⟨?_, rfl⟩, ⟨?_, rfl⟩,
      trivial⟩ <;> decide +kernel
  have h' : c.Permits o.Gives early := by
    refine ⟨trivial, trivial, trivial, ⟨?_, rfl⟩, ⟨?_, rfl⟩, trivial, ⟨?_, rfl⟩, trivial⟩ <;>
      decide +kernel
  have ho : o.SamplesFit := ⟨⟨_, rfl, Nat.zero_le _⟩, fun _ => ⟨_, rfl, Nat.zero_le _⟩⟩
  have hactivated (path : List Nat) : c.Activates path late ↔ c.Activates path early := by
    simp only [late, early, Activates, Targets, false_or, or_false]
    refine iff_of_eq (congrArg (Tree.Leads · path 1) ?_)
    decide +kernel
  have hselected : c.collect selected late = c.collect selected early := by decide +kernel
  have hidle : (c.run late).outstanding = [] := by decide +kernel
  have hidle' : (c.run early).outstanding = [] := by decide +kernel
  exact ⟨h, h', lines_of_same_choices _ o ho late early h h' List.mem_cons_self
    List.mem_cons_self hselected hactivated hidle hidle' _⟩

end Course
end FacetBrowser
