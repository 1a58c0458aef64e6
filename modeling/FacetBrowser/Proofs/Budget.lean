import FacetBrowser.Proofs.Reached
import Mathlib.Algebra.BigOperators.Group.List.Basic
import Mathlib.Algebra.GroupWithZero.Nat

namespace FacetBrowser

namespace Question

def cost (q : Question) : Nat :=
  if q.isGroup then 1 else 2

theorem cost_pos (q : Question) : 0 < q.cost := by
  simp only [cost]
  split <;> decide

theorem cost_le (q : Question) : q.cost ≤ 2 := by
  simp only [cost]
  split <;> decide

end Question

namespace Tree

variable {t : Tree} {n : Node} {stage : Stage} {children : List Node}

def leaves (t : Tree) : Nat :=
  t.nodes.countP (·.stage.isLeaf)

theorem leaves_grow (hn : t.node? n.id = some n) (hs : n.stage.isLeaf = false)
    (hg : Growth n t.nodes.length stage children) :
    (t.grow n stage children).leaves = t.leaves + if stage.isLeaf then 1 else 0 := by
  have hall : (t.nodes ++ children)[n.id]? = some n := by
    rw [List.getElem?_append_left (lt_of_node? hn)]
    exact hn
  obtain ⟨hlt, hget⟩ := List.getElem?_eq_some_iff.mp hall
  have hchildren : children.countP (·.stage.isLeaf) = 0 := by
    rw [List.countP_eq_zero]
    intro m hm
    obtain ⟨k, hk⟩ := List.mem_iff_getElem?.mp hm
    rw [(hg.child hk).2.2.2]
    decide
  simp only [leaves, grow, set]
  rw [List.countP_set hlt, hget, List.countP_append, hchildren, hs]
  simp

end Tree

namespace Course

variable {c c' : Course} {m : Move}

def owed (c : Course) : Nat :=
  (c.outstanding.map (·.question.cost)).sum + c.browser.tree.leaves

theorem cost_add_erase {fetch : Fetch} (hf : fetch ∈ c.outstanding) :
    fetch.question.cost + ((c.outstanding.erase fetch).map (·.question.cost)).sum =
      (c.outstanding.map (·.question.cost)).sum :=
  List.sum_map_erase (fun f : Fetch => f.question.cost) hf

theorem sum_regroupings (hc : c.Sound) (facet : String) :
    ((c.browser.regroupings facet).map (·.question.cost)).sum = c.browser.tree.leaves := by
  rw [regroupings_eq hc, List.map_map, Tree.leaves, List.countP_eq_length_filter]
  change ((c.browser.tree.nodes.filter (·.stage.isLeaf)).map fun _ => 1).sum = _
  simp

theorem leaves_regrouped (hc : c.Sound) (facet : String) :
    (c.browser.regrouped facet).tree.leaves = 0 := by
  rw [Tree.leaves, List.countP_eq_zero]
  intro n hn hleaf
  cases hl : n.stage with
  | leaf listing => exact not_leaf_regrouped hc facet hn listing hl
  | _ => simp [hl, Stage.isLeaf] at hleaf

theorem owed_handled (hc : c.Sound) (event : Event) :
    (c.after event.move).owed ≤ c.owed + 2 := by
  have hs : Step Question.Admits c event.move (c.after event.move) := (event.allows_move c).step
  generalize c.after event.move = c' at hs
  cases event with
  | activate id =>
    cases hs with
    | unknown | ignore => exact Nat.le_add_right _ _
    | @activate _ n hn hcollapsed =>
      obtain rfl := hc.tree.id_eq hn
      have hleaves : (c.browser.tree.grow n .loading []).leaves = c.browser.tree.leaves :=
        Tree.leaves_grow hn (by simp [hcollapsed, Stage.isLeaf]) (.loading n _)
      have hcost := (Question.ofNode c.browser.facets n).cost_le
      simp only [owed, Browser.grown, hleaves, List.map_append, List.sum_append, List.map_cons,
        List.map_nil, List.sum_cons, List.sum_nil]
      omega
  | choose facet =>
    cases hs with
    | refuse => exact Nat.le_add_right _ _
    | choose hf =>
      simp only [owed, List.map_append, List.sum_append, sum_regroupings hc, leaves_regrouped hc]
      omega

theorem owed_completed (hc : c.Sound) {fetch : Fetch} {a : Except SourceError Answer}
    (hf : fetch ∈ c.outstanding) (ha : fetch.question.Admits a) :
    (c.after (.complete fetch a)).owed < c.owed := by
  have hs : Step Question.Admits c (.complete fetch a) (c.after (.complete fetch a)) :=
    step_complete hf ha
  have herase := cost_add_erase hf
  have hpos := fetch.question.cost_pos
  generalize c.after (.complete fetch a) = c' at hs
  cases hs with
  | drop =>
    simp only [owed]
    omega
  | @stale _ _ n _ _ hn hl hstale =>
    obtain ⟨facet, hgroup⟩ := Node.ofNode_of_isStale hstale
    have hcost : fetch.question.cost = 2 := by
      simp [Question.cost, Node.isGroup_of_isStale ha hstale]
    simp only [owed, hgroup, List.map_append, List.sum_append, List.map_cons, List.map_nil,
      List.sum_cons, List.sum_nil]
    have hone : (Question.group n.query facet).cost = 1 := rfl
    omega
  | @fresh _ _ n _ _ hn hl hfresh =>
    rw [← hc.tree.id_eq hn] at hn
    have hleaves := Tree.leaves_grow hn (by simp [hl, Stage.isLeaf])
      (n.growth_expanded c.browser.tree.nodes.length a)
    have hleaf : (n.expanded c.browser.tree.nodes.length a).1.isLeaf = true →
        fetch.question.cost = 2 := by
      intro hleaf
      cases hq : fetch.question.isGroup with
      | false => simp [Question.cost, hq]
      | true =>
        rcases ha.branch_or_failed hq n c.browser.tree.nodes.length with ⟨_, hs⟩ | ⟨_, hs⟩ <;>
          cases hs ▸ hleaf
    simp only [owed, Browser.grown, hleaves]
    split
    · rename_i h
      have := hleaf h
      omega
    · omega

end Course

namespace Loop

variable {facets : Facets} {events : List Event} {history : List (Browser × Event)} {l : Loop}

def remaining (l : Loop) : Nat :=
  3 * l.inbox.length + l.isOpen.toNat + l.session.course.owed

theorem remaining_start (facets : Facets) (events : List Event) :
    (start (.new facets) events).remaining = 3 * events.length + 3 :=
  rfl

theorem Reaches.remaining_lt (h : Reaches facets events history l) {w : Wake}
    (hw : l.waitsFor w = true) (ha : w.Admissible) : (l.after w).remaining < l.remaining := by
  cases w with
  | inbox =>
    have hopen : l.isOpen = true := hw
    cases hinbox : l.inbox with
    | nil =>
      rw [after_close hinbox]
      simp [remaining, hinbox, hopen]
    | cons event rest =>
      have howed := Course.owed_handled h.sound.1 event
      rw [after_event hinbox]
      simp only [remaining, take, Session.course_handle, hinbox, hopen, List.length_cons]
      omega
  | reply fetch a =>
    have howed := Course.owed_completed h.sound.1 (of_decide_eq_true hw) ha
    simp only [remaining, after, take, Session.course_land]
    omega

def Wakes : Loop → List Wake → Prop
  | _, [] => True
  | l, w :: ws => (l.waitsFor w = true ∧ w.Admissible) ∧ (l.after w).Wakes ws

theorem Reaches.length_le_remaining {ws : List Wake} (h : Reaches facets events history l)
    (hws : l.Wakes ws) : ws.length ≤ l.remaining := by
  induction ws generalizing history l with
  | nil => exact Nat.zero_le _
  | cons w ws ih =>
    obtain ⟨⟨hw, ha⟩, hws⟩ := hws
    obtain ⟨more, hnext⟩ := h.wake hw ha
    exact Nat.succ_le_of_lt (Nat.lt_of_le_of_lt (ih hnext hws) (h.remaining_lt hw ha))

theorem wakes_le {ws : List Wake} (hws : (start (.new facets) events).Wakes ws) :
    ws.length ≤ 3 * events.length + 3 := by
  rw [← remaining_start facets events]
  exact Reaches.start.length_le_remaining hws

theorem Reaches.ends (h : Reaches facets events history l) :
    ∃ more l', Reaches facets events (history ++ more) l' ∧ l'.isOver = true := by
  induction hk : l.remaining using Nat.strongRecOn generalizing history l with
  | ind k ih =>
    subst hk
    cases hover : l.isOver with
    | true => exact ⟨[], l, by rwa [List.append_nil], hover⟩
    | false =>
      obtain ⟨w, ha, hw⟩ : ∃ w : Wake, w.Admissible ∧ l.waitsFor w = true := by
        simpa using mt isOver_iff.mpr (by simp [hover])
      obtain ⟨more, hnext⟩ := h.wake hw ha
      obtain ⟨later, l', hl', hover'⟩ := ih _ (h.remaining_lt hw ha) hnext rfl
      exact ⟨more ++ later, l', by rwa [← List.append_assoc], hover'⟩

end Loop
end FacetBrowser
