import FacetBrowser.Proofs.Issued
import FacetBrowser.Proofs.Told
import FacetBrowser.Session

namespace FacetBrowser

def Event.move : Event → Move
  | .activate id => .activate id
  | .choose facet => .choose facet

theorem Event.allows_move {answers : Question → Except SourceError Answer → Prop} (event : Event)
    (c : Course) : c.Allows answers event.move := by
  cases event <;> exact trivial

def Notice.node? : Notice → Option Node
  | .changed n => some n
  | _ => none

def Wake.Admissible : Wake → Prop
  | .inbox => True
  | .reply fetch answer => fetch.question.Admits answer

namespace Session

def course (s : Session) : Course :=
  ⟨s.browser, s.inFlight⟩

theorem announce_nodes (b : Browser) (fetches : List Fetch) :
    (announce b fetches).filterMap Notice.node? =
      fetches.filterMap fun fetch => b.node? fetch.node := by
  rw [announce, List.filterMap_filterMap]
  congr 1
  funext fetch
  cases b.node? fetch.node <;> rfl

theorem course_handle (s : Session) (event : Event) :
    (s.handle event).session.course = s.course.after event.move := by
  cases event with
  | activate id =>
    simp only [handle, Event.move, Course.after, course]
    cases s.browser.activate id <;> rfl
  | choose facet =>
    simp only [handle, Event.move, Course.after, course]
    cases s.browser.choose facet <;> rfl

theorem nodes_handle (s : Session) (event : Event) :
    (s.handle event).notices.filterMap Notice.node? = s.course.told event.move := by
  cases event with
  | activate id =>
    simp only [handle, Event.move, Course.told, Course.issued, Course.after, course]
    cases s.browser.activate id with
    | error e => rfl
    | ok result => exact announce_nodes _ _
  | choose facet =>
    simp only [handle, Event.move, Course.told, Course.issued, Course.after, course]
    cases s.browser.choose facet with
    | error e => rfl
    | ok result => exact announce_nodes _ _

theorem course_land (s : Session) (fetch : Fetch) (a : Except SourceError Answer) :
    (s.land fetch ⟨fetch.node, a⟩).session.course = s.course.after (.complete fetch a) :=
  rfl

theorem nodes_land (s : Session) (fetch : Fetch) (a : Except SourceError Answer) :
    (s.land fetch ⟨fetch.node, a⟩).notices.filterMap Notice.node? =
      s.course.told (.complete fetch a) := by
  simp only [land, launch, Course.told, course]
  cases (s.browser.receive ⟨fetch.node, a⟩).2.changed <;> rfl

end Session

theorem Course.sound_start (facets : Facets) : ((Course.new facets).after .seed).Sound :=
  (Course.sound_new facets).step (Course.step_seed _)

namespace Loop

def changes (l : Loop) : List Node :=
  l.outbox.filterMap Notice.node?

theorem changes_take (l : Loop) (turn : Turn) :
    (l.take turn).changes = l.changes ++ turn.notices.filterMap Notice.node? :=
  List.filterMap_append

theorem isOver_iff {l : Loop} : l.isOver = true ↔ ∀ w, w.Admissible → l.waitsFor w = false := by
  simp only [isOver, Bool.and_eq_true, Bool.not_eq_true', List.isEmpty_iff]
  constructor
  · rintro ⟨hclosed, hidle⟩ (_ | ⟨fetch, a⟩) -
    · exact hclosed
    · simp [waitsFor, hidle]
  · intro h
    refine ⟨h .inbox trivial, List.eq_nil_iff_forall_not_mem.mpr fun fetch hf => ?_⟩
    have hidle := h (.reply fetch (.error (.decode ""))) (.error _ _)
    simp [waitsFor, hf] at hidle

inductive Reaches (facets : Facets) (events : List Event) :
    List (Browser × Event) → Loop → Prop
  | start : Reaches facets events [] (.start (.new facets) events)
  | event {history : List (Browser × Event)} {l : Loop} {event : Event} {rest : List Event} :
      Reaches facets events history l → l.waitsFor .inbox = true → l.inbox = event :: rest →
      Reaches facets events (history ++ [(l.session.browser, event)]) (l.after .inbox)
  | close {history : List (Browser × Event)} {l : Loop} :
      Reaches facets events history l → l.waitsFor .inbox = true → l.inbox = [] →
      Reaches facets events history (l.after .inbox)
  | reply {history : List (Browser × Event)} {l : Loop} {fetch : Fetch}
      {a : Except SourceError Answer} :
      Reaches facets events history l → l.waitsFor (.reply fetch a) = true →
      fetch.question.Admits a → Reaches facets events history (l.after (.reply fetch a))

variable {facets : Facets} {events : List Event} {history : List (Browser × Event)} {l : Loop}

theorem after_event {event : Event} {rest : List Event} (h : l.inbox = event :: rest) :
    l.after .inbox = { l with inbox := rest }.take (l.session.handle event) := by
  simp only [after, h]

theorem after_close (h : l.inbox = []) : l.after .inbox = { l with isOpen := false } := by
  simp only [after, h]

theorem Reaches.wake (h : Reaches facets events history l) {w : Wake}
    (hw : l.waitsFor w = true) (ha : w.Admissible) :
    ∃ more, Reaches facets events (history ++ more) (l.after w) := by
  cases w with
  | inbox =>
    cases hinbox : l.inbox with
    | nil => exact ⟨[], by simpa only [List.append_nil] using h.close hw hinbox⟩
    | cons event rest => exact ⟨_, h.event hw hinbox⟩
  | reply fetch a => exact ⟨[], by simpa only [List.append_nil] using h.reply hw ha⟩

theorem Reaches.induction {P : List Node → Course → Prop}
    (start : P [.root] ((Course.new facets).after .seed))
    (step : ∀ {told c m}, P told c → c.Allows Question.Admits m →
      P (told ++ c.told m) (c.after m))
    (h : Reaches facets events history l) : P l.changes l.session.course := by
  induction h with
  | start => exact start
  | @event history l event rest _ _ hinbox ih =>
    have hstep := step ih (event.allows_move _)
    rw [← Session.course_handle] at hstep
    rw [after_event hinbox, changes_take, Session.nodes_handle]
    exact hstep
  | close _ _ hinbox ih =>
    rw [after_close hinbox]
    exact ih
  | @reply history l fetch a _ hw ha ih =>
    simp only [after, changes_take, Session.nodes_land]
    exact step ih ⟨of_decide_eq_true hw, ha⟩

theorem Reaches.sound (h : Reaches facets events history l) :
    l.session.course.Sound ∧ l.session.browser.seeded = true := by
  refine h.induction (P := fun _ c => c.Sound ∧ c.browser.seeded = true) ?_ ?_
  · exact ⟨Course.sound_start facets, rfl⟩
  · intro told c m ⟨hc, hseeded⟩ hm
    exact ⟨hc.step hm.step, hm.step.seeded_mono hseeded⟩

end Loop
end FacetBrowser
