import FacetBrowser.Proofs.Filling
import FacetBrowser.Proofs.Sound

namespace FacetBrowser

namespace Oracle

variable {o : Oracle} {b : Browser} {f : Fetch} {n : Node}

def landings (o : Oracle) (fetches : List Fetch) : List Move :=
  fetches.map fun f => .complete f (o.answer f.question)

def followUp? (o : Oracle) (b : Browser) (f : Fetch) : Option Fetch :=
  (b.receive ⟨f.node, o.answer f.question⟩).2.followUp

def script (o : Oracle) (b : Browser) (f : Fetch) : List Fetch :=
  f :: (o.followUp? b f).toList

def last (o : Oracle) (b : Browser) (f : Fetch) : Fetch :=
  (o.followUp? b f).getD f

theorem followUp?_stale (hn : b.node? f.node = some n) (hl : n.stage = .loading)
    (hs : n.isStale b.facets (o.answer f.question) = true) :
    o.followUp? b f = some ⟨f.node, .ofNode b.facets n⟩ := by
  rw [followUp?, Browser.receive_stale (r := ⟨f.node, o.answer f.question⟩) hn hl hs]

theorem followUp?_fresh (hn : b.node? f.node = some n) (hl : n.stage = .loading)
    (hs : n.isStale b.facets (o.answer f.question) = false) : o.followUp? b f = none := by
  rw [followUp?, Browser.receive_fresh (r := ⟨f.node, o.answer f.question⟩) hn hl hs]

theorem isStale_group (o : Oracle) (facets : Facets) (n : Node) (query : Query)
    (facet : String) : n.isStale facets (o.answer (.group query facet)) = false := by
  have ha := o.admits_answer (.group query facet)
  generalize o.answer (.group query facet) = a at ha
  cases ha <;> rfl

theorem lt_of_isStale {facets : Facets} {a : Except SourceError Answer}
    (h : n.isStale facets a = true) : n.depth < facets.chosen.length := by
  match a, h with
  | .ok (.sample s), h => exact of_decide_eq_true h

theorem followUp?_followUp {g : Fetch} (hn : b.node? f.node = some n) (hl : n.stage = .loading)
    (hg : o.followUp? b f = some g) : g.node = f.node ∧
      n.isStale b.facets (o.answer g.question) = false ∧ o.followUp? b g = none := by
  cases hs : n.isStale b.facets (o.answer f.question) with
  | false =>
    rw [followUp?_fresh hn hl hs] at hg
    cases hg
  | true =>
    rw [followUp?_stale hn hl hs] at hg
    obtain rfl := Option.some.inj hg
    obtain ⟨facet, hf⟩ : ∃ facet, b.facets.at? n.depth = some facet :=
      ⟨_, List.getElem?_eq_getElem (lt_of_isStale hs)⟩
    have hfresh : n.isStale b.facets (o.answer (.ofNode b.facets n)) = false := by
      rw [Question.ofNode_eq_group hf]
      exact o.isStale_group b.facets n n.query facet
    exact ⟨rfl, hfresh, followUp?_fresh (f := ⟨f.node, _⟩) hn hl hfresh⟩

theorem eq_of_stale {g : Fetch} (hn : b.node? f.node = some n) (hl : n.stage = .loading)
    (hg : g = f ∨ o.followUp? b f = some g)
    (hs : n.isStale b.facets (o.answer g.question) = true) : g = f := by
  rcases hg with rfl | hfollow
  · rfl
  · obtain ⟨-, hfresh, -⟩ := followUp?_followUp hn hl hfollow
    rw [hs] at hfresh
    cases hfresh

theorem last_of_fresh {g : Fetch} (hn : b.node? f.node = some n) (hl : n.stage = .loading)
    (hg : g = f ∨ o.followUp? b f = some g)
    (hs : n.isStale b.facets (o.answer g.question) = false) :
    o.last b f = g ∧ o.followUp? b g = none := by
  rcases hg with rfl | hfollow
  · have hnone := followUp?_fresh hn hl hs
    exact ⟨by rw [last, hnone]; rfl, hnone⟩
  · obtain ⟨-, -, hnone⟩ := followUp?_followUp hn hl hfollow
    exact ⟨by rw [last, hfollow]; rfl, hnone⟩

end Oracle

namespace Course

structure Landed (o : Oracle) (c : Course) (done : List Fetch) (d : Course) : Prop where
  sound : d.Sound
  facets : d.browser.facets = c.browser.facets
  seeded : d.browser.seeded = c.browser.seeded
  length_le : c.browser.tree.nodes.length ≤ d.browser.tree.nodes.length
  kept : ∀ {i : Nat} {n : Node}, c.browser.node? i = some n → d.browser.node? i = some n ∨
    ∃ f ∈ c.outstanding, f.node = i ∧ ∃ stage start, c.browser.tree.nodes.length ≤ start ∧
      d.browser.node? i = some { n with stage := stage } ∧
        d.browser.tree.Fills { n with stage := stage } start
          (o.answer (o.last c.browser f).question)
  added : ∀ {i : Nat} {n : Node}, c.browser.tree.nodes.length ≤ i →
    d.browser.node? i = some n → n.stage = .collapsed
  pending : ∀ {g : Fetch}, g ∈ d.outstanding → ∃ f ∈ c.outstanding, g.node = f.node ∧
    (g = f ∨ o.followUp? c.browser f = some g)
  calls : (done ++ d.outstanding.flatMap (o.script c.browser)).Perm
    (c.outstanding.flatMap (o.script c.browser))

variable {o : Oracle} {c d : Course} {done : List Fetch}

theorem landed_refl (o : Oracle) (h : c.Sound) : Landed o c [] c where
  sound := h
  facets := rfl
  seeded := rfl
  length_le := Nat.le_refl _
  kept := Or.inl
  added := fun hle hn => absurd (Tree.lt_of_node? hn) (Nat.not_lt.mpr hle)
  pending := fun hg => ⟨_, hg, rfl, Or.inl rfl⟩
  calls := .refl _

theorem Landed.node_eq (h : Landed o c done d) (hc : c.Sound) {g : Fetch}
    (hg : g ∈ d.outstanding) : ∃ n, c.browser.node? g.node = some n ∧
      d.browser.node? g.node = some n ∧ n.stage = .loading := by
  obtain ⟨f, hf, hfg, -⟩ := h.pending hg
  obtain ⟨n, hn, hl, -⟩ := hc.suits hf
  rw [← hfg] at hn
  refine ⟨n, hn, ?_, hl⟩
  rcases h.kept hn with hd | ⟨_, _, _, stage, start, _, hd, hfill⟩
  · exact hd
  · obtain ⟨m, hm, hlm, -⟩ := h.sound.suits hg
    obtain rfl := Option.some.inj (hd.symm.trans hm)
    exact absurd (hfill.stage.symm.trans hlm) (Node.expanded_ne_loading _ _ _)

theorem calls_perm {α : Type} {script : α → List α} [BEq α] [LawfulBEq α]
    (done : List α) {fetches extra : List α} {g : α} (hg : g ∈ fetches)
    (hs : script g = g :: extra.flatMap script) :
    (done ++ [g] ++ (fetches.erase g ++ extra).flatMap script).Perm
      (done ++ fetches.flatMap script) := by
  rw [List.append_assoc, List.flatMap_append]
  refine List.Perm.append_left done (.trans ?_ ((List.perm_cons_erase hg).flatMap_right _).symm)
  rw [List.flatMap_cons, hs, List.singleton_append, List.cons_append]
  exact List.perm_append_comm.cons g

theorem Landed.stale (h : Landed o c done d) (hc : c.Sound) {g : Fetch} {n : Node}
    (hg : g ∈ d.outstanding) (hn : d.browser.node? g.node = some n) (hl : n.stage = .loading)
    (hs : n.isStale d.browser.facets (o.answer g.question) = true)
    (hsound : Sound ⟨d.browser,
      d.outstanding.erase g ++ [⟨g.node, .ofNode d.browser.facets n⟩]⟩) :
    Landed o c (done ++ [g]) ⟨d.browser,
      d.outstanding.erase g ++ [⟨g.node, .ofNode d.browser.facets n⟩]⟩ := by
  obtain ⟨m, hm, hm', -⟩ := h.node_eq hc hg
  obtain rfl := Option.some.inj (hn.symm.trans hm')
  rw [h.facets] at hs hsound ⊢
  obtain ⟨f, hf, hgf, hcase⟩ := h.pending hg
  obtain rfl := Oracle.eq_of_stale (hgf ▸ hm) hl hcase hs
  have hfollow := Oracle.followUp?_stale hm hl hs
  obtain ⟨-, -, hnone⟩ := Oracle.followUp?_followUp hm hl hfollow
  refine ⟨hsound, h.facets, h.seeded, h.length_le, h.kept, h.added, ?_, ?_⟩
  · intro g' hg'
    rcases List.mem_append.mp hg' with hg' | hg'
    · exact h.pending (List.mem_of_mem_erase hg')
    · obtain rfl := List.mem_singleton.mp hg'
      exact ⟨g, hf, rfl, Or.inr hfollow⟩
  · exact .trans (calls_perm done hg (by simp [Oracle.script, hfollow, hnone])) h.calls

theorem Landed.fresh (h : Landed o c done d) (hc : c.Sound) {g : Fetch} {n : Node}
    (hg : g ∈ d.outstanding) (hn : d.browser.node? g.node = some n) (hl : n.stage = .loading)
    (hs : n.isStale d.browser.facets (o.answer g.question) = false)
    (hsound : Sound ⟨d.browser.grown n
        (n.expanded d.browser.tree.nodes.length (o.answer g.question)).1
        (n.expanded d.browser.tree.nodes.length (o.answer g.question)).2,
      d.outstanding.erase g⟩) :
    Landed o c (done ++ [g]) ⟨d.browser.grown n
        (n.expanded d.browser.tree.nodes.length (o.answer g.question)).1
        (n.expanded d.browser.tree.nodes.length (o.answer g.question)).2,
      d.outstanding.erase g⟩ := by
  obtain ⟨m, hm, hm', -⟩ := h.node_eq hc hg
  obtain rfl := Option.some.inj (hn.symm.trans hm')
  have hid : n.id = g.node := h.sound.tree.id_eq hn
  have hn' : d.browser.tree.node? n.id = some n := hid ▸ hn
  have hlt := Tree.lt_of_node? hn'
  have hlen := h.length_le
  obtain ⟨f, hf, hgf, hcase⟩ := h.pending hg
  rw [h.facets] at hs
  obtain ⟨hlast, hnone⟩ := Oracle.last_of_fresh (hgf ▸ hm) hl hcase hs
  refine ⟨hsound, h.facets, h.seeded, ?_, ?_, ?_, ?_, ?_⟩
  · show _ ≤ (d.browser.tree.grow n _ _).nodes.length
    rw [Tree.length_grow]
    omega
  · intro i q hq
    by_cases hi : i = n.id
    · subst hi
      have hq' : c.browser.node? n.id = some n := hid ▸ hm
      obtain rfl := Option.some.inj (hq'.symm.trans hq)
      refine Or.inr ⟨f, hf, hgf ▸ hid.symm, _, _, hlen, Tree.node?_grow_self hlt, ?_⟩
      rw [hlast]
      exact Tree.fills_grow hlt _
    · rcases h.kept hq with hd | ⟨f', hf', hfi, stage, start, hstart, hd, hfill⟩
      · exact Or.inl (Tree.node?_grow_old hi hd)
      · exact Or.inr ⟨f', hf', hfi, stage, start, hstart, Tree.node?_grow_old hi hd,
          hfill.mono (Tree.extends_grow hn')⟩
  · intro i q hle hq
    rcases Tree.node?_grow_cases hlt hq with ⟨hi, -⟩ | ⟨-, hq⟩ | ⟨k, rfl, hk⟩
    · have := Tree.lt_of_node? hm
      omega
    · exact h.added hle hq
    · exact ((n.growth_expanded _ _).child hk).2.2.2
  · exact fun hg' => h.pending (List.mem_of_mem_erase hg')
  · have hscript : o.script c.browser g = g :: [].flatMap (o.script c.browser) := by
      simp [Oracle.script, hnone]
    have hcalls := calls_perm done hg hscript
    rw [List.append_nil] at hcalls
    exact hcalls.trans h.calls

theorem run_landings_append (c : Course) (o : Oracle) (fetches : List Fetch) (g : Fetch) :
    c.run (o.landings (fetches ++ [g])) =
      (c.run (o.landings fetches)).after (.complete g (o.answer g.question)) := by
  rw [Oracle.landings, List.map_append, run_append]
  rfl

theorem Landed.step (h : Landed o c done d) (hc : c.Sound) {g : Fetch}
    (hg : d.Allows Question.Admits (.complete g (o.answer g.question))) :
    Landed o c (done ++ [g]) (d.after (.complete g (o.answer g.question))) := by
  have hstep := hg.step
  have hsound := h.sound.step hstep
  generalize d.after (.complete g (o.answer g.question)) = d' at hstep hsound ⊢
  cases hstep with
  | drop hf hdrop =>
    obtain ⟨n, hn, hl, -⟩ := h.sound.suits hf
    exact absurd hl (hdrop n hn)
  | stale hf _ hn hl hs => exact h.stale hc hf hn hl hs hsound
  | fresh hf _ hn hl hs => exact h.fresh hc hf hn hl hs hsound

theorem landed_run (hc : c.Sound) {fetches : List Fetch}
    (h : c.Permits Question.Admits (o.landings fetches)) :
    Landed o c fetches (c.run (o.landings fetches)) := by
  induction fetches using List.reverseRecOn with
  | nil => exact landed_refl o hc
  | append_singleton fetches g ih =>
    rw [run_landings_append]
    rw [Oracle.landings, List.map_append] at h
    obtain ⟨hms, hm, -⟩ := permits_append.mp h
    exact (ih hms).step hc hm

end Course
end FacetBrowser
