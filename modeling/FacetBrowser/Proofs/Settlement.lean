import FacetBrowser.Browser.Settle
import FacetBrowser.Proofs.Budget
import FacetBrowser.Proofs.Told

namespace FacetBrowser

def Stage.IsSettled (s : Stage) : Prop :=
  (∃ listing, s = .branch listing) ∨ (∃ listing, s = .leaf listing) ∨ ∃ failure, s = .failed failure

theorem Node.isSettled_expanded (n : Node) (start : Nat) (a : Except SourceError Answer) :
    (n.expanded start a).1.IsSettled := by
  rcases n.expanded_cases start a with ⟨listing, _, _, hs, -⟩ | ⟨listing, _, hs, -⟩ | ⟨failure, hs⟩
  · exact Or.inl ⟨listing, hs⟩
  · exact Or.inr (Or.inl ⟨listing, hs⟩)
  · exact Or.inr (Or.inr ⟨failure, hs⟩)

theorem Node.sample_of_isStale {facets : Facets} {n : Node} {a : Except SourceError Answer}
    (h : n.isStale facets a = true) : ∃ s, a = .ok (.sample s) := by
  cases a with
  | error e => cases h
  | ok answer =>
    cases answer with
    | sample s => exact ⟨s, rfl⟩
    | group facet g => cases h

def Move.landing (l : Fetch × Except SourceError Answer) : Move :=
  .complete l.1 l.2

def Fetch.costAt (p : Nat → Bool) (fetches : List Fetch) : Nat :=
  (fetches.map fun fetch => if p fetch.node then fetch.question.cost else 0).sum

namespace Fetch

variable {p : Nat → Bool} {fetches : List Fetch} {fetch : Fetch}

theorem costAt_append (p : Nat → Bool) (fetches more : List Fetch) :
    costAt p (fetches ++ more) = costAt p fetches + costAt p more := by
  simp only [costAt, List.map_append, List.sum_append]

theorem costAt_erase (p : Nat → Bool) (hf : fetch ∈ fetches) :
    (if p fetch.node then fetch.question.cost else 0) + costAt p (fetches.erase fetch) =
      costAt p fetches :=
  List.sum_map_erase (fun f : Fetch => if p f.node then f.question.cost else 0) hf

theorem countP_le_costAt (p : Nat → Bool) (fetches : List Fetch) :
    fetches.countP (p ·.node) ≤ costAt p fetches := by
  induction fetches with
  | nil => exact Nat.le_refl 0
  | cons fetch fetches ih =>
    have hpos := fetch.question.cost_pos
    simp only [costAt] at ih
    simp only [costAt, List.countP_cons, List.map_cons, List.sum_cons]
    split <;> omega

theorem costAt_le (p : Nat → Bool) (fetches : List Fetch) :
    costAt p fetches ≤ 2 * fetches.countP (p ·.node) := by
  induction fetches with
  | nil => exact Nat.le_refl 0
  | cons fetch fetches ih =>
    have hle := fetch.question.cost_le
    simp only [costAt] at ih
    simp only [costAt, List.countP_cons, List.map_cons, List.sum_cons]
    split <;> omega

end Fetch

namespace Course

variable {b : Browser} {c d : Course} {rest fetches : List Fetch} {fetch : Fetch} {n : Node}
  {a : Except SourceError Answer} {landed : List (Fetch × Except SourceError Answer)}
  {told : List Node}

theorem Sound.perm {more : List Fetch} (h : Sound ⟨b, fetches⟩) (hp : fetches.Perm more) :
    Sound ⟨b, more⟩ where
  tree := h.tree
  levelled := h.levelled
  root := h.root
  nodup := (hp.map (·.node)).nodup_iff.mp h.nodup
  awaited := fun hn => (h.awaited hn).trans (hp.map (·.node)).mem_iff
  suits := fun hf => h.suits (hp.mem_iff.mpr hf)

theorem sound_after_beside (h : Sound ⟨d.browser, d.outstanding ++ rest⟩)
    (hf : fetch ∈ d.outstanding) (ha : fetch.question.Admits a) :
    Sound ⟨(d.after (.complete fetch a)).browser,
      (d.after (.complete fetch a)).outstanding ++ rest⟩ := by
  have hall : Sound ⟨(d.after (.complete fetch a)).browser,
      (d.outstanding ++ rest).erase fetch ++ d.issued (.complete fetch a)⟩ :=
    h.step (step_complete (List.mem_append_left rest hf) ha)
  refine hall.perm ?_
  simp only [outstanding_after, kept, List.erase_append_left rest hf, List.append_assoc]
  exact List.perm_append_comm.append_left _

theorem landing_cases (h : Sound ⟨d.browser, d.outstanding ++ rest⟩) (hf : fetch ∈ d.outstanding)
    (a : Except SourceError Answer) :
    ∃ n, d.browser.node? fetch.node = some n ∧ n.stage = .loading ∧
      (n.isStale d.browser.facets a = true ∧ d.told (.complete fetch a) = [] ∧
        d.after (.complete fetch a) =
          ⟨d.browser, d.outstanding.erase fetch ++ [⟨fetch.node, .ofNode d.browser.facets n⟩]⟩ ∨
      ∃ stage children, stage.IsSettled ∧ d.told (.complete fetch a) = [{ n with stage := stage }] ∧
        d.after (.complete fetch a) =
          ⟨d.browser.grown n stage children, d.outstanding.erase fetch⟩) := by
  obtain ⟨n, hn, hl, -⟩ := h.suits (List.mem_append_left rest hf)
  refine ⟨n, hn, hl, ?_⟩
  simp only [Course.told, after]
  cases hs : n.isStale d.browser.facets a with
  | true =>
    rw [Browser.receive_stale (r := ⟨fetch.node, a⟩) hn hl hs]
    exact Or.inl ⟨rfl, rfl, rfl⟩
  | false =>
    rw [Browser.receive_fresh (r := ⟨fetch.node, a⟩) hn hl hs]
    rw [Option.toList_none, List.append_nil]
    exact Or.inr ⟨_, _, n.isSettled_expanded _ a, rfl, rfl⟩

structure Settling (c : Course) (rest : List Fetch)
    (landed : List (Fetch × Except SourceError Answer)) (told : List Node) (d : Course) : Prop where
  sound : Sound ⟨d.browser, d.outstanding ++ rest⟩
  facets : d.browser.facets = c.browser.facets
  extend : c.browser.tree.Extends d.browser.tree
  settled : ∀ n ∈ told, n.stage.IsSettled ∧ d.browser.node? n.id = some n
  nodes : (told.map (·.id) ++ d.outstanding.map (·.node)).Perm (c.outstanding.map (·.node))
  kept : ∀ {i : Nat} {n : Node}, c.browser.node? i = some n → i ∉ c.outstanding.map (·.node) →
    d.browser.node? i = some n
  calls : ∀ p : Nat → Bool, landed.countP (p ·.1.node) + Fetch.costAt p d.outstanding ≤
    Fetch.costAt p c.outstanding

theorem settling_refl (h : Sound ⟨c.browser, c.outstanding ++ rest⟩) : Settling c rest [] [] c where
  sound := h
  facets := rfl
  extend := fun hn => ⟨_, hn⟩
  settled := by simp
  nodes := .refl _
  kept := fun hn _ => hn
  calls := by simp

namespace Settling

theorem stale (h : Settling c rest landed told d) (hf : fetch ∈ d.outstanding)
    (ha : fetch.question.Admits a) (hs : n.isStale d.browser.facets a = true)
    (hsound : Sound ⟨d.browser, (d.outstanding.erase fetch ++
      [⟨fetch.node, .ofNode d.browser.facets n⟩]) ++ rest⟩) :
    Settling c rest (landed ++ [(fetch, a)]) told ⟨d.browser,
      d.outstanding.erase fetch ++ [⟨fetch.node, .ofNode d.browser.facets n⟩]⟩ := by
  refine ⟨hsound, h.facets, h.extend, h.settled, ?_, h.kept, fun p => ?_⟩
  · refine .trans (List.Perm.append_left _ ?_) h.nodes
    rw [List.map_append]
    exact List.perm_append_comm.trans (nodes_perm_erase hf).symm
  · -- the follow-up asks for groups, so it costs one call less than the sample it stands in for
    obtain ⟨facet, hgroup⟩ := Node.ofNode_of_isStale hs
    have hcost : fetch.question.cost = 2 := by
      simp [Question.cost, Node.isGroup_of_isStale ha hs]
    have hone : (Question.group n.query facet).cost = 1 := rfl
    have hcalls := h.calls p
    rw [← Fetch.costAt_erase p hf, hcost] at hcalls
    rw [hgroup, Fetch.costAt_append, List.countP_append, List.countP_singleton]
    simp only [Fetch.costAt, List.map_cons, List.map_nil, List.sum_cons, List.sum_nil,
      hone] at hcalls ⊢
    cases hp : p fetch.node with
    | true =>
      simp only [hp, if_true] at hcalls ⊢
      omega
    | false =>
      simp only [hp, Bool.false_eq_true, if_false] at hcalls ⊢
      omega

theorem fresh (h : Settling c rest landed told d) (hf : fetch ∈ d.outstanding)
    (hn : d.browser.node? fetch.node = some n) (hl : n.stage = .loading) {stage : Stage}
    {children : List Node} (hs : stage.IsSettled)
    (hsound : Sound ⟨d.browser.grown n stage children, d.outstanding.erase fetch ++ rest⟩) :
    Settling c rest (landed ++ [(fetch, a)]) (told ++ [{ n with stage := stage }])
      ⟨d.browser.grown n stage children, d.outstanding.erase fetch⟩ := by
  have hid : n.id = fetch.node := h.sound.tree.id_eq hn
  have hn' : d.browser.tree.node? n.id = some n := hid ▸ hn
  refine ⟨hsound, h.facets, ?_, ?_, ?_, ?_, fun p => ?_⟩
  · intro i m hm
    obtain ⟨_, hm'⟩ := h.extend hm
    obtain ⟨stage', hm''⟩ := Tree.extends_grow hn' hm'
    exact ⟨stage', hm''⟩
  · intro m hm
    rcases List.mem_append.mp hm with hm | hm
    · obtain ⟨hsettled, hm⟩ := h.settled m hm
      refine ⟨hsettled, Tree.node?_grow_old ?_ hm⟩
      intro hi
      obtain rfl := Option.some.inj (hm.symm.trans (hi ▸ hn'))
      rcases hsettled with ⟨_, hm⟩ | ⟨_, hm⟩ | ⟨_, hm⟩ <;> cases hl.symm.trans hm
    · obtain rfl := List.mem_singleton.mp hm
      exact ⟨hs, Tree.node?_grow_self (Tree.lt_of_node? hn')⟩
  · refine .trans ?_ h.nodes
    rw [List.map_append, List.append_assoc]
    refine List.Perm.append_left _ ?_
    show (n.id :: (d.outstanding.erase fetch).map (·.node)).Perm _
    rw [hid]
    exact (nodes_perm_erase hf).symm
  · intro i m hm hi
    have hfi : i ≠ n.id := by
      rintro rfl
      exact hi (h.nodes.mem_iff.mp (List.mem_append_right _ (hid ▸ List.mem_map_of_mem hf)))
    exact Tree.node?_grow_old hfi (h.kept hm hi)
  · have hpos := fetch.question.cost_pos
    have hcalls := h.calls p
    rw [← Fetch.costAt_erase p hf] at hcalls
    rw [List.countP_append, List.countP_singleton]
    cases hp : p fetch.node with
    | true =>
      simp only [hp, if_true] at hcalls ⊢
      omega
    | false =>
      simp only [hp, Bool.false_eq_true, if_false] at hcalls ⊢
      omega

theorem step (h : Settling c rest landed told d) (hf : fetch ∈ d.outstanding)
    (ha : fetch.question.Admits a) :
    Settling c rest (landed ++ [(fetch, a)]) (told ++ d.told (.complete fetch a))
      (d.after (.complete fetch a)) := by
  have hsound := sound_after_beside h.sound hf ha
  obtain ⟨n, hn, hl, ⟨hs, htold, hafter⟩ | ⟨stage, children, hs, htold, hafter⟩⟩ :=
    landing_cases h.sound hf a
  · rw [hafter] at hsound ⊢
    rw [htold, List.append_nil]
    exact h.stale hf ha hs hsound
  · rw [hafter] at hsound ⊢
    rw [htold]
    exact h.fresh hf hn hl hs hsound

end Settling

theorem settling_run (hc : Sound ⟨c.browser, c.outstanding ++ rest⟩)
    (h : c.Permits Question.Admits (landed.map .landing)) :
    Settling c rest landed (c.collect Course.told (landed.map .landing))
      (c.run (landed.map .landing)) := by
  induction landed using List.reverseRecOn with
  | nil => exact settling_refl hc
  | append_singleton landed l ih =>
    rw [List.map_append] at h ⊢
    obtain ⟨hms, ⟨hf, ha⟩, -⟩ := permits_append.mp h
    rw [run_append]
    exact (collect_concat Course.told c _ (.landing l)) ▸ (ih hms).step hf ha

theorem Settling.calls_le (h : Settling c rest landed told d) (p : Nat → Bool) :
    landed.countP (p ·.1.node) + d.outstanding.countP (p ·.node) ≤
      2 * c.outstanding.countP (p ·.node) := by
  have hcalls := h.calls p
  have hleft := Fetch.countP_le_costAt p d.outstanding
  have hstart := Fetch.costAt_le p c.outstanding
  omega

theorem Settling.calls_length_le (h : Settling c rest landed told d) :
    landed.length + d.outstanding.length ≤ 2 * c.outstanding.length := by
  have hcalls := h.calls_le fun _ => true
  simp only [List.countP_true] at hcalls
  exact hcalls

theorem Settling.ends (h : Settling c rest landed told d) (o : Oracle) :
    ∃ more : List (Fetch × Except SourceError Answer),
      d.Permits Question.Admits (more.map .landing) ∧ (d.run (more.map .landing)).outstanding = [] ∧
        ∀ l ∈ more, o.Gives l.1.question l.2 := by
  induction hk : Fetch.costAt (fun _ => true) c.outstanding - landed.length using
    Nat.strongRecOn generalizing landed told d with
  | ind k ih =>
    subst hk
    cases hout : d.outstanding with
    | nil => exact ⟨[], trivial, hout, by simp⟩
    | cons fetch fetches =>
      have hf : fetch ∈ d.outstanding := hout ▸ List.mem_cons_self
      have ha := o.admits_answer fetch.question
      have hnext := h.step hf ha
      have hlt : landed.length < Fetch.costAt (fun _ => true) c.outstanding := by
        have hcalls := hnext.calls fun _ => true
        rw [List.countP_true, List.length_append, List.length_singleton] at hcalls
        omega
      have hless : Fetch.costAt (fun _ => true) c.outstanding -
          (landed ++ [(fetch, o.answer fetch.question)]).length <
            Fetch.costAt (fun _ => true) c.outstanding - landed.length := by
        rw [List.length_append, List.length_singleton]
        omega
      obtain ⟨more, hmore, hend, hgives⟩ := ih _ hless hnext rfl
      exact ⟨(fetch, o.answer fetch.question) :: more, ⟨⟨hf, ha⟩, hmore⟩, hend,
        List.forall_mem_cons.mpr ⟨rfl, hgives⟩⟩

structure Lands (c : Course) (landed : List (Fetch × Except SourceError Answer)) (s : Settled)
    (left : List Fetch) : Prop where
  permits : c.Permits Question.Admits (landed.map .landing)
  run : c.run (landed.map .landing) = ⟨s.browser, left⟩
  changed : c.collect Course.told (landed.map .landing) = s.changed
  asked : landed.map (·.1.question) = s.asked

theorem Lands.append {s s' : Settled} {left left' : List Fetch}
    {more : List (Fetch × Except SourceError Answer)} (h : c.Lands landed s left)
    (h' : Lands ⟨s.browser, left⟩ more s' left') :
    c.Lands (landed ++ more) ⟨s'.browser, s.changed ++ s'.changed, s.asked ++ s'.asked⟩ left' where
  permits := by
    rw [List.map_append]
    exact permits_append.mpr ⟨h.permits, h.run ▸ h'.permits⟩
  run := by
    rw [List.map_append, run_append, h.run]
    exact h'.run
  changed := by
    rw [List.map_append, collect_append, h.run, h.changed, h'.changed]
  asked := by
    rw [List.map_append, h.asked, h'.asked]

theorem Lands.of_permits (h : c.Permits Question.Admits (landed.map .landing)) :
    ∃ s, c.Lands landed s (c.run (landed.map .landing)).outstanding :=
  ⟨⟨_, _, _⟩, h, rfl, rfl, rfl⟩

theorem Lands.settling {s : Settled} {left : List Fetch} (h : c.Lands landed s left)
    (hc : Sound ⟨c.browser, c.outstanding ++ rest⟩) :
    Settling c rest landed s.changed ⟨s.browser, left⟩ := by
  rw [← h.changed, ← h.run]
  exact settling_run hc h.permits

end Course

namespace Question

theorem admits_answer_source (q : Question) (source : Source) : q.Admits (q.answer source) := by
  have ha := (Oracle.mk source (source.sample .all)).admits_answer q
  cases q <;> exact ha

end Question

namespace Browser

variable {b : Browser} {fetches : List Fetch}

theorem isGroup_followUp {r : Reply} {fetch : Fetch}
    (h : (b.receive r).2.followUp = some fetch) :
    fetch.question.isGroup = true ∧ ∃ s, r.answer = .ok (.sample s) := by
  cases hn : b.node? r.node with
  | none => simp [receive_unknown hn, Outcome.nothing] at h
  | some n =>
    by_cases hl : n.stage = .loading
    · cases hs : n.isStale b.facets r.answer with
      | false => simp [receive_fresh hn hl hs] at h
      | true =>
        rw [receive_stale hn hl hs] at h
        obtain rfl := Option.some.inj h
        obtain ⟨facet, hgroup⟩ := Node.ofNode_of_isStale hs
        exact ⟨by simp only [hgroup, Question.isGroup], Node.sample_of_isStale hs⟩
    · simp [receive_idle hn hl, Outcome.nothing] at h

theorem isGroup_runAll (source : Source) : ∀ (fetches : List Fetch) (b : Browser),
    ∀ fetch ∈ (b.runAll source fetches).2, fetch.question.isGroup = true
  | [], b, fetch, hf => by cases hf
  | next :: fetches, b, fetch, hf => by
    simp only [runAll, List.mem_append, Option.mem_toList] at hf
    rcases hf with hf | hf
    · exact (isGroup_followUp hf).1
    · exact isGroup_runAll source fetches _ fetch hf

theorem runAll_groups (source : Source) : ∀ (fetches : List Fetch) (b : Browser),
    (∀ fetch ∈ fetches, fetch.question.isGroup = true) → (b.runAll source fetches).2 = []
  | [], _, _ => rfl
  | fetch :: fetches, b, h => by
    obtain ⟨hq, hrest⟩ := List.forall_mem_cons.mp h
    have hnone : (b.receive (fetch.run source)).2.followUp = none := by
      refine Option.eq_none_iff_forall_ne_some.mpr fun g hg => ?_
      obtain ⟨-, s, hs⟩ := isGroup_followUp hg
      have ha := fetch.question.admits_answer_source source
      rw [show fetch.question.answer source = _ from hs] at ha
      cases hfq : fetch.question with
      | root => simp [hfq, Question.isGroup] at hq
      | sample query => simp [hfq, Question.isGroup] at hq
      | group query facet =>
        rw [hfq] at ha
        cases ha
    simp only [runAll, hnone, Option.toList_none, List.nil_append]
    exact runAll_groups source fetches _ hrest

theorem runAll_lands (source : Source) : ∀ (fetches extra : List Fetch) (b : Browser),
    Course.Lands ⟨b, fetches ++ extra⟩
      (fetches.map fun fetch => (fetch, fetch.question.answer source))
      (b.runAll source fetches).1 (extra ++ (b.runAll source fetches).2)
  | [], extra, b => ⟨trivial, by simp [Course.run, runAll], rfl, rfl⟩
  | fetch :: fetches, extra, b => by
    have hafter : Course.after ⟨b, fetch :: fetches ++ extra⟩
        (.complete fetch (fetch.question.answer source)) = ⟨(b.receive (fetch.run source)).1,
          fetches ++ (extra ++ (b.receive (fetch.run source)).2.followUp.toList)⟩ := by
      simp only [Course.after, Fetch.run, List.cons_append, List.erase_cons_head,
        List.append_assoc]
    have hrest := runAll_lands source fetches
      (extra ++ (b.receive (fetch.run source)).2.followUp.toList) (b.receive (fetch.run source)).1
    rw [← hafter] at hrest
    constructor
    · exact ⟨⟨List.mem_cons_self, fetch.question.admits_answer_source source⟩, hrest.permits⟩
    · refine hrest.run.trans ?_
      simp only [runAll, List.append_assoc]
    · exact congrArg ((b.receive (fetch.run source)).2.changed.toList ++ ·) hrest.changed
    · exact congrArg (fetch.question :: ·) hrest.asked

def Settles (b : Browser) (fetches : List Fetch) (s : Settled) : Prop :=
  ∃ landed, Course.Lands ⟨b, fetches⟩ landed s []

theorem settles_settle (b : Browser) (source : Source) (fetches : List Fetch) :
    b.Settles fetches (b.settle source fetches) := by
  rcases hfirst : b.runAll source fetches with ⟨first, followUps⟩
  rcases hsecond : first.browser.runAll source followUps with ⟨second, later⟩
  have hlater : later = [] := by
    have hgroups := isGroup_runAll source fetches b
    rw [hfirst] at hgroups
    exact (congrArg Prod.snd hsecond).symm.trans (runAll_groups source followUps _ hgroups)
  have hlands := runAll_lands source fetches [] b
  have hlands' := runAll_lands source followUps [] first.browser
  rw [List.append_nil, List.nil_append, hfirst] at hlands
  rw [List.append_nil, List.nil_append, hsecond, hlater] at hlands'
  simp only [settle, hfirst, hsecond]
  exact ⟨_, hlands.append hlands'⟩

theorem settles_chooseAndSettle {b' : Browser} {facet : String}
    (h : b.choose facet = .ok (b', fetches)) (source : Source) :
    ∃ s, b.chooseAndSettle source facet = .ok s ∧ b'.Settles fetches s := by
  refine ⟨b'.settle source fetches, ?_, b'.settles_settle source fetches⟩
  simp only [chooseAndSettle, h, bind, Except.bind]

end Browser

namespace Course

variable {b : Browser} {c : Course} {fetches rest : List Fetch}

theorem Sound.beside (h : c.Sound) (hsub : fetches.Subperm c.outstanding) :
    ∃ rest, Sound ⟨c.browser, fetches ++ rest⟩ := by
  obtain ⟨kept, hkept, hsub⟩ := hsub
  obtain ⟨rest, hrest⟩ := hsub.exists_perm_append
  exact ⟨rest, h.perm (hrest.trans (hkept.append_right rest))⟩

theorem Sound.nodup_beside (h : Sound ⟨b, fetches ++ rest⟩) : (fetches.map (·.node)).Nodup :=
  (h.perm List.perm_append_comm).nodup_issued rfl

theorem Sound.countP_node_le (h : Sound ⟨b, fetches ++ rest⟩) (i : Nat) :
    fetches.countP (·.node = i) ≤ 1 := by
  have hle := List.nodup_iff_count_le_one.mp h.nodup_beside i
  rw [List.count, List.countP_map] at hle
  exact hle

theorem regrouped_settled (h : c.Sound) {facet : String} {s : Settled}
    (hs : (c.browser.regrouped facet).Settles (c.browser.regroupings facet) s) {n : Node}
    (hn : n ∈ c.browser.tree.nodes) (hleaf : n.stage.isLeaf = true) :
    ∃ n', s.browser.node? n.id = some n' ∧
      ((∃ listing, n'.stage = .branch listing) ∨ ∃ failure, n'.stage = .failed failure) := by
  obtain ⟨landed, hlands⟩ := hs
  have hsettling := hlands.settling ((sound_choose h facet).perm List.perm_append_comm)
  have hn := h.tree.node?_id hn
  have hout : Browser.isOutdated (c.browser.facets.extended facet) n = true := by
    rw [isOutdated_extended h hn, hleaf]
  have hnodes := hsettling.nodes
  rw [List.map_nil, List.append_nil] at hnodes
  obtain ⟨m, hm, hid⟩ := List.mem_map.mp
    (hnodes.mem_iff.mpr (h.mem_nodes_regroupings.mpr ⟨n, hn, hout⟩))
  obtain ⟨hstage, hm⟩ := hsettling.settled m hm
  rw [hid] at hm
  refine ⟨m, hm, ?_⟩
  rcases hstage with hb | ⟨listing, hl⟩ | hf
  · exact Or.inl hb
  · obtain ⟨stage, hm'⟩ := hsettling.extend (Tree.node?_regroup_outdated hn hout)
    obtain rfl := Option.some.inj (hm'.symm.trans hm)
    obtain ⟨_, hleaf⟩ := Tree.leaf_of_isOutdated hout
    have hdepth := leaf_depth_eq h hn hleaf
    have hle := (hsettling.sound.levelled hm).leaf_le hl
    rw [show s.browser.facets = _ from hsettling.facets] at hle
    simp only [Browser.regrouped, Facets.length_extended] at hle
    omega
  · exact Or.inr hf

theorem settle_finishes_each_once {facets : Facets} {ms : List Move}
    (h : (new facets).Permits Question.Admits ms)
    (hsub : fetches.Subperm ((new facets).run ms).outstanding) :
    let b := ((new facets).run ms).browser
    (∀ landed s left, Lands ⟨b, fetches⟩ landed s left →
      landed.length + left.length ≤ 2 * fetches.length ∧
      (∀ i, landed.countP (·.1.node = i) + left.countP (·.node = i) ≤ 2) ∧
      ∀ o : Oracle, ∃ more s', Lands ⟨b, fetches⟩ (landed ++ more) s' [] ∧
        ∀ l ∈ more, o.Gives l.1.question l.2) ∧
    (∀ source, b.Settles fetches (b.settle source fetches)) ∧
    (∀ s, b.Settles fetches s →
      s.asked.length ≤ 2 * fetches.length ∧
      (s.changed.map (·.id)).Perm (fetches.map (·.node)) ∧ (s.changed.map (·.id)).Nodup ∧
      (∀ n ∈ s.changed, n.stage.IsSettled ∧ s.browser.node? n.id = some n) ∧
      ∀ i n, b.node? i = some n → i ∉ fetches.map (·.node) → s.browser.node? i = some n) ∧
    ∀ facet b' fetches', b.choose facet = .ok (b', fetches') →
      (∀ source, ∃ s, b.chooseAndSettle source facet = .ok s ∧ b'.Settles fetches' s) ∧
      ∀ s, b'.Settles fetches' s → ∀ n ∈ b.tree.nodes, n.stage.isLeaf = true →
        ∃ n', s.browser.node? n.id = some n' ∧
          ((∃ listing, n'.stage = .branch listing) ∨ ∃ failure, n'.stage = .failed failure) := by
  intro b
  have hc : ((new facets).run ms).Sound := sound_run h
  obtain ⟨rest, hsound⟩ := hc.beside hsub
  refine ⟨?_, fun source => b.settles_settle source fetches, ?_, ?_⟩
  · intro landed s left hlands
    have hsettling := hlands.settling hsound
    refine ⟨hsettling.calls_length_le, fun i => ?_, fun o => ?_⟩
    · exact Nat.le_trans (hsettling.calls_le (· = i))
        (Nat.mul_le_mul_left 2 (hsound.countP_node_le i))
    · obtain ⟨more, hmore, hend, hgives⟩ := hsettling.ends o
      obtain ⟨s', hlands'⟩ := Lands.of_permits hmore
      rw [hend] at hlands'
      exact ⟨more, _, hlands.append hlands', hgives⟩
  · rintro s ⟨landed, hlands⟩
    have hsettling := hlands.settling hsound
    have hnodes := hsettling.nodes
    rw [List.map_nil, List.append_nil] at hnodes
    have hnodup := hnodes.nodup_iff.mpr hsound.nodup_beside
    refine ⟨?_, hnodes, hnodup, hsettling.settled, fun i n => hsettling.kept⟩
    have hasked := congrArg List.length hlands.asked
    rw [List.length_map] at hasked
    exact hasked ▸ hsettling.calls_length_le
  · intro facet b' fetches' hchoose
    refine ⟨Browser.settles_chooseAndSettle hchoose, ?_⟩
    by_cases hf : facet ∈ b.facets.offered
    · rw [Browser.choose_offered hf] at hchoose
      cases hchoose
      exact fun s hs n => regrouped_settled hc hs
    · rw [Browser.choose_refused hf] at hchoose
      cases hchoose

theorem stale_sample_settled_by_groups :
    let ms := [Move.seed, .choose "type"]
    let fetches : List Fetch := [⟨0, .root⟩]
    let o := Oracle.uniform ⟨3, []⟩ fun _ => ⟨3, [⟨"csv", 2⟩], ⟨1, [⟨"7", "/x.nwb"⟩]⟩⟩
    let b := ((new ⟨[], ["type", "lab"], 0⟩).run ms).browser
    let s := b.settle o.toSource fetches
    (new ⟨[], ["type", "lab"], 0⟩).Permits Question.Admits ms ∧
      fetches.Subperm ((new ⟨[], ["type", "lab"], 0⟩).run ms).outstanding ∧
      s.asked = [.root, .group .all "type"] ∧ (s.changed.map (·.id)).Perm [0] ∧
      ∀ n ∈ s.changed, n.stage.IsSettled ∧ s.browser.node? n.id = some n := by
  intro ms fetches o b s
  have h : (new ⟨[], ["type", "lab"], 0⟩).Permits Question.Admits ms := ⟨trivial, trivial, trivial⟩
  have hsub : fetches.Subperm ((new ⟨[], ["type", "lab"], 0⟩).run ms).outstanding := .refl _
  obtain ⟨-, hsettle, hsettled, -⟩ := settle_finishes_each_once h hsub
  obtain ⟨-, hnodes, -, hstages, -⟩ := hsettled s (hsettle o.toSource)
  exact ⟨h, hsub, by decide +kernel, hnodes, hstages⟩

end Course
end FacetBrowser
