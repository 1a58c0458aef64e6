import FacetBrowser.Proofs.History

namespace FacetBrowser

def Stage.IsFinal : Stage → Prop
  | .branch _ => True
  | .failed _ => True
  | _ => False

namespace Course

inductive Passes (b : Browser) (i : Nat) : Move → Stage → Stage → Prop
  | begun : Passes b i (.activate i) .collapsed .loading
  | regrouped {facet : String} {listing : Listing} :
      (∃ next, b.choose facet = .ok next) →
      Passes b i (.choose facet) (.leaf listing) .loading
  | branch {fetch : Fetch} {a : Except SourceError Answer} {listing : Listing} :
      fetch.node = i → Passes b i (.complete fetch a) .loading (.branch listing)
  | leaf {fetch : Fetch} {a : Except SourceError Answer} {listing : Listing} :
      fetch.node = i → Passes b i (.complete fetch a) .loading (.leaf listing)
  | failed {fetch : Fetch} {a : Except SourceError Answer} {failure : Failure} :
      fetch.node = i → Passes b i (.complete fetch a) .loading (.failed failure)

variable {answers : Question → Except SourceError Answer → Prop} {c c' : Course} {m : Move}
  {b : Browser} {i : Nat} {n : Node}

theorem Passes.not_final {s s' : Stage} (h : Passes b i m s s') : ¬ s.IsFinal := by
  cases h <;> exact id

theorem passes_expanded {fetch : Fetch} (hf : fetch.node = i) (n : Node) (start : Nat)
    (a : Except SourceError Answer) :
    Passes b i (.complete fetch a) .loading (n.expanded start a).1 := by
  rcases n.expanded_cases start a with ⟨_, _, _, hs, -⟩ | ⟨_, _, hs, -⟩ | ⟨_, hs⟩
  · exact hs ▸ .branch hf
  · exact hs ▸ .leaf hf
  · exact hs ▸ .failed hf

theorem exists_step (c : Course) (m : Move) : ∃ fetches c',
    Step (fun _ _ => True) ⟨c.browser, fetches⟩ m c' ∧ c'.browser = (c.after m).browser := by
  cases m with
  | seed => exact ⟨_, _, step_seed c, rfl⟩
  | activate id => exact ⟨_, _, step_activate c id, rfl⟩
  | choose facet => exact ⟨_, _, step_choose c facet, rfl⟩
  | complete fetch a => exact ⟨[fetch], _, step_complete List.mem_cons_self trivial, rfl⟩

theorem Step.wellFormed (hs : Step answers c m c') (h : c.browser.tree.WellFormed) :
    c'.browser.tree.WellFormed := by
  cases hs with
  | seeded | seed | unknown | ignore | refuse | drop | stale => exact h
  | activate hn hcollapsed =>
    obtain rfl := h.id_eq hn
    exact Tree.wellFormed_grow h hn (by simp [hcollapsed]) (.loading _ _)
  | choose => exact Tree.wellFormed_regroup h _
  | fresh _ _ hn hl =>
    rw [← h.id_eq hn] at hn
    exact Tree.wellFormed_grow h hn (by simp [hl]) (Node.growth_expanded _ _ _)

theorem Step.passes (hs : Step answers c m c') (h : c.browser.tree.WellFormed)
    (hn : c.browser.node? i = some n) :
    ∃ stage, c'.browser.node? i = some { n with stage := stage } ∧
      (stage = n.stage ∨ Passes c.browser i m n.stage stage) := by
  cases hs with
  | seeded | seed | unknown | ignore | refuse | drop | stale => exact ⟨_, hn, Or.inl rfl⟩
  | @activate id n' hn' hcollapsed =>
    obtain rfl := h.id_eq hn'
    by_cases hi : i = n'.id
    · subst hi
      obtain rfl := Option.some.inj (hn.symm.trans hn')
      exact ⟨_, Tree.node?_grow_self (Tree.lt_of_node? hn'), Or.inr (hcollapsed ▸ .begun)⟩
    · exact ⟨_, Tree.node?_grow_old hi hn, Or.inl rfl⟩
  | @choose facet hoffered =>
    cases ho : Browser.isOutdated (c.browser.facets.extended facet) n with
    | true =>
      obtain ⟨listing, hleaf⟩ := Tree.leaf_of_isOutdated ho
      refine ⟨_, Tree.node?_regroup_outdated hn ho, Or.inr (hleaf ▸ .regrouped ?_)⟩
      exact ⟨_, Browser.choose_offered hoffered⟩
    | false => exact ⟨_, Tree.node?_regroup_kept hn ho, Or.inl rfl⟩
  | @fresh fetch a n' _ _ hn' hl =>
    have hid : n'.id = fetch.node := h.id_eq hn'
    rw [← hid] at hn'
    by_cases hi : i = n'.id
    · subst hi
      obtain rfl := Option.some.inj (hn.symm.trans hn')
      exact ⟨_, Tree.node?_grow_self (Tree.lt_of_node? hn'),
        Or.inr (hl ▸ passes_expanded hid.symm n _ a)⟩
    · exact ⟨_, Tree.node?_grow_old hi hn, Or.inl rfl⟩

theorem Step.born (hs : Step answers c m c') (h : c.browser.tree.WellFormed)
    (hold : c.browser.node? i = none) (hn : c'.browser.node? i = some n) :
    n.stage = .collapsed := by
  cases hs with
  | seeded | seed | unknown | ignore | refuse | drop | stale => cases hold.symm.trans hn
  | @activate id n' hn' hcollapsed =>
    obtain rfl := h.id_eq hn'
    rcases Tree.node?_grow_cases (Tree.lt_of_node? hn') hn with ⟨rfl, -⟩ | ⟨-, hn⟩ | ⟨k, -, hk⟩
    · cases hold.symm.trans hn'
    · cases hold.symm.trans hn
    · simp at hk
  | choose =>
    rcases Tree.node?_regroup_cases hn with ⟨-, hn⟩ | ⟨_, -, hn, -⟩ <;> cases hold.symm.trans hn
  | @fresh fetch a n' _ _ hn' =>
    rw [← h.id_eq hn'] at hn'
    rcases Tree.node?_grow_cases (Tree.lt_of_node? hn') hn with ⟨rfl, -⟩ | ⟨-, hn⟩ | ⟨k, -, hk⟩
    · cases hold.symm.trans hn'
    · cases hold.symm.trans hn
    · exact ((n'.growth_expanded _ a).child hk).2.2.2

theorem wellFormed_run (h : c.browser.tree.WellFormed) (ms : List Move) :
    (c.run ms).browser.tree.WellFormed := by
  induction ms generalizing c with
  | nil => exact h
  | cons m ms ih =>
    obtain ⟨_, c', hs, hb⟩ := c.exists_step m
    exact ih (hb ▸ hs.wellFormed h)

theorem after_cases (h : c.browser.tree.WellFormed) (m : Move) (i : Nat) :
    (∀ n, c.browser.node? i = some n → ∃ stage,
      (c.after m).browser.node? i = some { n with stage := stage } ∧
        (stage = n.stage ∨ Passes c.browser i m n.stage stage)) ∧
    ∀ n, c.browser.node? i = none → (c.after m).browser.node? i = some n →
      n.stage = .collapsed := by
  obtain ⟨fetches, c', hs, hb⟩ := c.exists_step m
  rw [← hb]
  exact ⟨fun n => hs.passes h, fun n => hs.born h⟩

theorem kept_run (h : c.browser.tree.WellFormed) (ms : List Move)
    (hn : c.browser.node? i = some n) : ∃ stage,
      (c.run ms).browser.node? i = some { n with stage := stage } ∧
        (n.stage.IsFinal → stage = n.stage) := by
  induction ms generalizing c n with
  | nil => exact ⟨_, hn, fun _ => rfl⟩
  | cons m ms ih =>
    obtain ⟨stage, hn', hstage⟩ := (after_cases h m i).1 n hn
    obtain ⟨last, hlast, hfinal⟩ := ih (wellFormed_run h [m]) hn'
    refine ⟨last, hlast, fun hf => ?_⟩
    rcases hstage with rfl | hp
    · exact hfinal hf
    · exact absurd hf hp.not_final

theorem chosen_isPrefix_run (c : Course) (ms : List Move) :
    c.browser.facets.chosen <+: (c.run ms).browser.facets.chosen := by
  induction ms generalizing c with
  | nil => exact List.prefix_rfl
  | cons m ms ih =>
    obtain ⟨fetches, c', hs, hb⟩ := c.exists_step m
    have hm : c.browser.facets.chosen <+: (c.after m).browser.facets.chosen := by
      rw [← hb, hs.chosen_eq]
      exact List.prefix_append _ _
    exact hm.trans (ih _)

theorem stages_follow_lifecycle (facets : Facets) (ms : List Move) :
    let c := (new facets).run ms
    (∀ m i,
      (∀ n, c.browser.node? i = some n → ∃ stage,
        (c.after m).browser.node? i = some { n with stage := stage } ∧
          (stage = n.stage ∨ Passes c.browser i m n.stage stage)) ∧
      ∀ n, c.browser.node? i = none → (c.after m).browser.node? i = some n →
        n.stage = .collapsed) ∧
    ∀ more, c.browser.facets.chosen <+: (c.run more).browser.facets.chosen ∧
      ∀ i n, c.browser.node? i = some n → ∃ stage,
        (c.run more).browser.node? i = some { n with stage := stage } ∧
          (n.stage.IsFinal → stage = n.stage) := by
  intro c
  have hc : c.browser.tree.WellFormed := wellFormed_run Tree.seedling_wellFormed ms
  exact ⟨after_cases hc, fun more => ⟨c.chosen_isPrefix_run more, fun i n => kept_run hc more⟩⟩

theorem branch_kept_despite_forged_replies :
    let groups : Answer := .group "lab" ⟨3, [⟨"smith", 2⟩], ⟨1, []⟩⟩
    let forged (i : Nat) (a : Except SourceError Answer) := Move.complete ⟨i, .root⟩ a
    let c := (new ⟨[], ["type"], 0⟩).run [forged 7 (.ok groups), forged 0 (.ok groups)]
    let more := [.activate 0, forged 0 (.ok groups), .seed, .activate 1, .choose "type",
      forged 0 (.error (.decode "")), forged 1 (.ok (.sample ⟨2, []⟩)), forged 1 (.ok groups)]
    ∃ n, c.browser.node? 0 = some n ∧
      n.stage = .branch ⟨3, [.child 1, .more 1]⟩ ∧ (c.run more).browser.node? 0 = some n ∧
      (c.run more).browser.facets.chosen = ["type"] := by
  intro groups forged c more
  have hn : c.browser.node? 0 = some
      { Node.root with stage := .branch ⟨3, [.child 1, .more 1]⟩ } := by
    decide +kernel
  obtain ⟨-, hkept⟩ := stages_follow_lifecycle ⟨[], ["type"], 0⟩
    [forged 7 (.ok groups), forged 0 (.ok groups)]
  obtain ⟨stage, hlast, hfinal⟩ := (hkept more).2 0 _ hn
  obtain rfl := hfinal trivial
  exact ⟨_, hn, rfl, hlast, by decide +kernel⟩

end Course
end FacetBrowser
