import FacetBrowser.Proofs.Heard
import FacetBrowser.Proofs.Reached

namespace FacetBrowser.Loop

open Course (heardOf Heard Introduces)

variable {facets : Facets} {events : List Event} {history : List (Browser × Event)} {l : Loop}

theorem Reaches.heard (h : Reaches facets events history l) :
    Heard l.changes l.session.course := by
  have hall : Heard l.changes l.session.course ∧ l.session.course.Sound ∧
      l.session.course.browser.seeded = true := by
    refine h.induction (P := fun told c => Heard told c ∧ c.Sound ∧ c.browser.seeded = true)
      ⟨Course.heard_start facets, Course.sound_start facets, rfl⟩ ?_
    intro told c m ⟨hheard, hc, hseeded⟩ hm
    exact ⟨hheard.step hc hseeded hm, hc.step hm.step, hm.step.seeded_mono hseeded⟩
  exact hall.1

theorem listener_sees_tree (h : Reaches facets events history l) :
    (∀ i n, (heardOf l.changes i).getLast? = some n → l.session.browser.node? i = some n) ∧
    (∀ i n, l.session.browser.node? i = some n → heardOf l.changes i = [] →
      n.stage = .collapsed) ∧
    (∀ i, Stage.Orderly ((heardOf l.changes i).map (·.stage))) ∧
    ∀ (k : Nat) n, l.changes[k]? = some n → n.id ≠ 0 →
      ∃ j < k, ∃ p, l.changes[j]? = some p ∧ Introduces p n := by
  have hheard := h.heard
  refine ⟨fun _ _ => hheard.latest, ?_, ?_, fun _ _ => hheard.introduced⟩
  · intro i n hn hsilent
    by_contra hopen
    exact (hheard.stages hn).ne_nil hopen (by rw [hsilent, List.map_nil])
  · intro i
    cases hn : l.session.browser.node? i with
    | none =>
      rw [hheard.silent hn]
      exact (Stage.Tells.silent : Stage.Tells True _ _).orderly
    | some n => exact (hheard.stages hn).orderly

theorem child_heard_after_root :
    let events := [Event.choose "type", .activate 1]
    let groups := Answer.group "type" ⟨4, [⟨"csv", 4⟩], ⟨0, []⟩⟩
    let seeded := start (.new ⟨[], ["type"], 0⟩) events
    let regrouping := (seeded.after (.reply ⟨0, .root⟩ (.ok (.sample ⟨4, []⟩)))).after .inbox
    let grouped := regrouping.after (.reply ⟨0, .group .all "type"⟩ (.ok groups))
    let l := grouped.after .inbox
    (∃ history, Reaches ⟨[], ["type"], 0⟩ events history l) ∧
      l.changes.map (·.id) = [0, 0, 0, 0, 1] ∧
      Stage.Orderly ((heardOf l.changes 0).map (·.stage)) ∧
      ∃ j < 4, ∃ p, l.changes[j]? = some p ∧ ∃ n, l.changes[4]? = some n ∧ Introduces p n := by
  intro events groups seeded regrouping grouped l
  have hregrouping : Reaches ⟨[], ["type"], 0⟩ events _ regrouping :=
    .event (.reply .start (by decide +kernel) (.root _)) (by decide +kernel)
      (show _ = .choose "type" :: [.activate 1] by decide +kernel)
  have hgrouped : Reaches ⟨[], ["type"], 0⟩ events _ grouped :=
    .reply hregrouping (by decide +kernel) (.group _ _ _)
  have h : Reaches ⟨[], ["type"], 0⟩ events _ l :=
    .event hgrouped (by decide +kernel) (show _ = .activate 1 :: [] by decide +kernel)
  obtain ⟨-, -, horderly, hintroduced⟩ := listener_sees_tree h
  obtain ⟨n, hn, hi⟩ : ∃ n, l.changes[4]? = some n ∧ n.id ≠ 0 := ⟨_, rfl, by decide +kernel⟩
  obtain ⟨j, hj, p, hp, hpn⟩ := hintroduced 4 n hn hi
  exact ⟨⟨_, h⟩, by decide +kernel, horderly 0, j, hj, p, hp, n, hn, hpn⟩

end FacetBrowser.Loop
