import FacetBrowser.Proofs.Path
import FacetBrowser.Proofs.Sound

namespace FacetBrowser.Course

def Targets (path : List Nat) (c : Course) : Move → Prop
  | .activate id => c.browser.tree.Leads path id
  | _ => False

def Activates (path : List Nat) : Course → List Move → Prop
  | _, [] => False
  | c, m :: ms => c.Targets path m ∨ (c.after m).Activates path ms

variable {answers : Question → Except SourceError Answer → Prop} {c c' : Course} {m : Move}
  {ms : List Move}

theorem Step.chosen_eq (hs : Step answers c m c') :
    c'.browser.facets.chosen = c.browser.facets.chosen ++ c.selected m := by
  cases hs with
  | choose hf =>
    simp only [selected, Browser.choose_offered hf]
    rfl
  | refuse hf => simp [selected, Browser.choose_refused hf]
  | _ => simp [selected, Browser.grown]

theorem chosen_run (h : c.Permits answers ms) :
    (c.run ms).browser.facets.chosen =
      c.browser.facets.chosen ++ c.collect selected ms := by
  induction ms generalizing c with
  | nil => exact (List.append_nil _).symm
  | cons m ms ih =>
    obtain ⟨hm, hms⟩ := h
    calc
      _ = (c.after m).browser.facets.chosen ++ (c.after m).collect selected ms := ih hms
      _ = _ := by rw [hm.step.chosen_eq, List.append_assoc, collect]

theorem Step.leads (hs : Step answers c m c') (h : c.Sound) {path : List Nat} {i : Nat}
    (hl : c.browser.tree.Leads path i) : c'.browser.tree.Leads path i := by
  cases hs with
  | seeded | unknown | ignore | refuse | seed | drop | stale => exact hl
  | activate hn hc =>
    obtain rfl := h.tree.id_eq hn
    exact Tree.leads_grow h.tree hn (by simp [hc]) hl
  | choose hf => exact Tree.leads_regroup h.tree _ hl
  | fresh _ _ hn hw =>
    rw [← h.tree.id_eq hn] at hn
    exact Tree.leads_grow h.tree hn (by simp [hw]) hl

theorem Step.leads_iff (hs : Step answers c m c') (h : c.Sound) (h' : c'.Sound)
    {path : List Nat} {i : Nat} {n : Node} (hn : c.browser.node? i = some n) :
    c'.browser.tree.Leads path i ↔ c.browser.tree.Leads path i := by
  refine ⟨fun hl => ?_, hs.leads h⟩
  obtain ⟨path', hl'⟩ := Tree.exists_leads h.tree hn
  rwa [Tree.leads_unique h'.tree hl (hs.leads h hl')]

theorem Step.opens (hs : Step answers c m c') (h : c.Sound) {i : Nat} {n' : Node}
    (hn' : c'.browser.node? i = some n') :
    (∃ n, c.browser.node? i = some n ∧
      (n'.stage ≠ .collapsed ↔ n.stage ≠ .collapsed ∨ m = .activate i)) ∨
    c.browser.node? i = none ∧ n'.stage = .collapsed := by
  cases hs with
  | seeded | seed | refuse | drop | stale => exact Or.inl ⟨n', hn', by simp⟩
  | @unknown id hn =>
    refine Or.inl ⟨n', hn', ?_⟩
    have hne : id ≠ i := by
      rintro rfl
      rw [hn] at hn'
      cases hn'
    simp [hne]
  | @ignore id n hn hc =>
    refine Or.inl ⟨n', hn', ?_⟩
    by_cases hi : id = i
    · subst hi
      obtain rfl := Option.some.inj (hn.symm.trans hn')
      simp [hc]
    · simp [hi]
  | @activate id n hn hc =>
    obtain rfl := h.tree.id_eq hn
    rcases Tree.node?_grow_cases (Tree.lt_of_node? hn) hn' with
      ⟨rfl, rfl⟩ | ⟨hi, hn'⟩ | ⟨k, -, hk⟩
    · exact Or.inl ⟨n, hn, by simp⟩
    · exact Or.inl ⟨n', hn', by simp [Ne.symm hi]⟩
    · simp at hk
  | choose hf =>
    rcases Tree.node?_regroup_cases hn' with ⟨-, hn'⟩ | ⟨n, ho, hn, rfl⟩
    · exact Or.inl ⟨n', hn', by simp⟩
    · obtain ⟨listing, hl⟩ := Tree.leaf_of_isOutdated ho
      exact Or.inl ⟨n, hn, by simp [hl]⟩
  | @fresh fetch a n _ _ hn hl =>
    rw [← h.tree.id_eq hn] at hn
    rcases Tree.node?_grow_cases (Tree.lt_of_node? hn) hn' with
      ⟨rfl, rfl⟩ | ⟨-, hn'⟩ | ⟨k, rfl, hk⟩
    · exact Or.inl ⟨n, hn, by simp [hl, n.expanded_ne_collapsed]⟩
    · exact Or.inl ⟨n', hn', by simp⟩
    · exact Or.inr ⟨List.getElem?_eq_none_iff.mpr (Nat.le_add_right _ _),
        ((n.growth_expanded _ _).child hk).2.2.2⟩

structure Opened (opened : List Nat → Prop) (c : Course) : Prop where
  leads : ∀ {path : List Nat}, opened path → ∃ i, c.browser.tree.Leads path i
  iff : ∀ {path : List Nat} {i : Nat} {n : Node}, c.browser.tree.Leads path i →
    c.browser.node? i = some n → path ≠ [] → (n.stage ≠ .collapsed ↔ opened path)

variable {opened : List Nat → Prop}

theorem opened_new (facets : Facets) : Opened (fun _ => False) (new facets) where
  leads := False.elim
  iff := by
    intro path i n hl hn hp
    obtain ⟨rfl, rfl⟩ := Tree.node?_seedling hn
    exact absurd ((Tree.leads_iff_zero Tree.seedling_wellFormed hl).mp rfl) hp

theorem Opened.step (ho : Opened opened c) (h : c.Sound) (h' : c'.Sound)
    (hs : Step answers c m c') :
    Opened (fun path => opened path ∨ c.Targets path m) c' where
  leads := by
    rintro path (hp | hp)
    · obtain ⟨i, hl⟩ := ho.leads hp
      exact ⟨i, hs.leads h hl⟩
    · cases m with
      | activate id => exact ⟨id, hs.leads h hp⟩
      | _ => cases hp
  iff := by
    intro path i n' hl' hn' hp
    rcases hs.opens h hn' with ⟨n, hn, hiff⟩ | ⟨hnone, hcollapsed⟩
    · have hl : c.browser.tree.Leads path i := (hs.leads_iff h h' hn).mp hl'
      have htarget : m = .activate i ↔ c.Targets path m := by
        constructor
        · rintro rfl
          exact hl
        · intro ht
          cases m with
          | activate id => rw [Tree.leads_functional ht hl]
          | _ => cases ht
      rw [hiff, ho.iff hl hn hp, htarget]
    · have hnew {j : Nat} : ¬ c.browser.tree.Leads path j := by
        intro hl
        obtain ⟨n, hn⟩ := Tree.node?_of_leads h.tree hl
        rw [Tree.leads_functional (hs.leads h hl) hl'] at hn
        cases hnone.symm.trans hn
      refine ⟨fun hne => absurd hcollapsed hne, ?_⟩
      rintro (hopen | ht)
      · obtain ⟨j, hl⟩ := ho.leads hopen
        exact absurd hl hnew
      · cases m with
        | activate id => exact absurd ht hnew
        | _ => cases ht

theorem Opened.run (ho : Opened opened c) (h : c.Sound)
    (hp : c.Permits Question.Admits ms) :
    Opened (fun path => opened path ∨ c.Activates path ms) (c.run ms) := by
  induction ms generalizing c opened with
  | nil => simpa only [run, List.foldl_nil, Activates, or_false] using ho
  | cons m ms ih =>
    obtain ⟨hm, hms⟩ := hp
    have hsound := h.step hm.step
    have hrest := ih (ho.step h hsound hm.step) hsound hms
    simp only [or_assoc] at hrest
    exact hrest

theorem opened_run {facets : Facets} (h : (new facets).Permits Question.Admits ms) :
    Opened ((new facets).Activates · ms) ((new facets).run ms) := by
  simpa only [false_or] using (opened_new facets).run (sound_new facets) h

end FacetBrowser.Course
