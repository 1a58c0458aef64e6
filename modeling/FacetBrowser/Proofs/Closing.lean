import FacetBrowser.Proofs.Budget

namespace FacetBrowser

def Event.due (b : Browser) : Event → List Notice
  | .activate id => if (b.node? id).isSome then [] else [.unknown ⟨id⟩]
  | .choose facet =>
    if facet ∈ b.facets.offered then
      let facets := b.facets.extended facet
      [.facets facets.chosen facets.offered facets.isExhausted]
    else [.rejected ⟨facet⟩]

namespace Session

theorem filter_announce (b : Browser) (fetches : List Fetch) :
    (announce b fetches).filter (·.node?.isNone) = [] := by
  rw [List.filter_eq_nil_iff]
  intro notice hmem
  obtain ⟨fetch, -, hnotice⟩ := List.mem_filterMap.mp hmem
  obtain ⟨n, -, rfl⟩ := Option.map_eq_some_iff.mp hnotice
  simp [Notice.node?]

theorem due_handle (s : Session) (event : Event) :
    (s.handle event).notices.filter (·.node?.isNone) = event.due s.browser := by
  cases event with
  | activate id =>
    simp only [handle, Event.due]
    cases hn : s.browser.node? id with
    | none =>
      rw [Browser.activate_unknown hn]
      rfl
    | some n =>
      by_cases hs : n.stage = .collapsed
      · rw [Browser.activate_collapsed hn hs]
        exact filter_announce _ _
      · rw [Browser.activate_open hn hs]
        exact filter_announce _ _
  | choose facet =>
    simp only [handle, Event.due]
    by_cases hf : facet ∈ s.browser.facets.offered
    · rw [Browser.choose_offered hf, if_pos hf]
      exact congrArg (_ :: ·) (filter_announce _ _)
    · rw [Browser.choose_refused hf, if_neg hf]
      rfl

theorem filter_land (s : Session) (fetch : Fetch) (reply : Reply) :
    (s.land fetch reply).notices.filter (·.node?.isNone) = [] := by
  simp only [land, launch]
  cases (s.browser.receive reply).2.changed <;> rfl

end Session

namespace Course

theorem grouped_choose {c : Course} (hc : c.Sound) {facet : String} {n : Node}
    {listing : Listing} (hf : facet ∈ c.browser.facets.offered)
    (hn : n ∈ c.browser.tree.nodes) (hl : n.stage = .leaf listing) :
    (c.after (.choose facet)).Grouped n.id := by
  have hid : c.browser.node? n.id = some n := hc.tree.node?_id hn
  have ho : Browser.isOutdated (c.browser.facets.extended facet) n = true := by
    rw [isOutdated_extended hc hid, hl]
    rfl
  simp only [after, Browser.choose_offered hf]
  exact .of_regrouped hc (hc.mem_nodes_regroupings.mpr ⟨n, hid, ho⟩)

end Course

namespace Loop

variable {facets : Facets} {events : List Event} {history : List (Browser × Event)} {l : Loop}

structure Accounts (events : List Event) (history : List (Browser × Event)) (l : Loop) : Prop where
  taken : history.map Prod.snd ++ l.inbox = events
  closed : l.isOpen = false → l.inbox = []
  due : l.outbox.filter (·.node?.isNone) = history.flatMap fun (b, event) => event.due b
  regrouped : ∀ {b : Browser} {facet : String} {n : Node} {listing : Listing},
    (b, Event.choose facet) ∈ history → facet ∈ b.facets.offered → n ∈ b.tree.nodes →
    n.stage = .leaf listing → l.session.course.Grouped n.id

theorem accounts_start (facets : Facets) (events : List Event) :
    Accounts events [] (.start (.new facets) events) :=
  ⟨rfl, nofun, rfl, nofun⟩

namespace Accounts

theorem event (h : Accounts events history l) (hc : l.session.course.Sound) {event : Event}
    {rest : List Event} (hopen : l.isOpen = true) (hinbox : l.inbox = event :: rest) :
    Accounts events (history ++ [(l.session.browser, event)]) (l.after .inbox) where
  taken := by
    rw [after_event hinbox, ← h.taken, hinbox, List.map_append, List.append_assoc]
    rfl
  closed := by
    rw [after_event hinbox]
    exact fun hclosed => absurd (hopen.symm.trans hclosed) (by decide)
  due := by
    rw [after_event hinbox, take, List.filter_append, h.due, Session.due_handle,
      List.flatMap_append]
    simp
  regrouped := by
    intro b facet n listing hmem hf hn hl
    rw [after_event hinbox, take, Session.course_handle]
    rcases List.mem_append.mp hmem with hmem | hmem
    · exact ((event.allows_move _).step).grouped hc (h.regrouped hmem hf hn hl)
    · cases List.mem_singleton.mp hmem
      exact Course.grouped_choose hc hf hn hl

theorem close (h : Accounts events history l) (hinbox : l.inbox = []) :
    Accounts events history (l.after .inbox) := by
  rw [after_close hinbox]
  exact ⟨h.taken, fun _ => hinbox, h.due, h.regrouped⟩

theorem reply (h : Accounts events history l) (hc : l.session.course.Sound) {fetch : Fetch}
    {a : Except SourceError Answer} (hf : fetch ∈ l.session.inFlight)
    (ha : fetch.question.Admits a) : Accounts events history (l.after (.reply fetch a)) where
  taken := h.taken
  closed := h.closed
  due := by
    rw [after, take, List.filter_append, Session.filter_land, List.append_nil]
    exact h.due
  regrouped := by
    intro b facet n listing hmem hoffered hn hl
    have hm : l.session.course.Allows Question.Admits (.complete fetch a) := ⟨hf, ha⟩
    exact hm.step.grouped hc (h.regrouped hmem hoffered hn hl)

end Accounts

theorem Reaches.accounts (h : Reaches facets events history l) : Accounts events history l := by
  induction h with
  | start => exact accounts_start facets events
  | event h hopen hinbox ih => exact ih.event h.sound.1 hopen hinbox
  | close _ _ hinbox ih => exact ih.close hinbox
  | reply h hw ha ih => exact ih.reply h.sound.1 (of_decide_eq_true hw) ha

theorem session_ends_complete (h : Reaches facets events history l) :
    (∃ more l', Reaches facets events (history ++ more) l' ∧ l'.isOver = true) ∧
    (∀ ws, (start (.new facets) events).Wakes ws → ws.length ≤ 3 * events.length + 3) ∧
    (l.isOver = true →
      history.map Prod.snd = events ∧
      l.outbox.filter (·.node?.isNone) = history.flatMap (fun (b, event) => event.due b) ∧
      l.session.inFlight = [] ∧
      (∀ n ∈ l.session.browser.tree.nodes, n.stage ≠ .loading) ∧
      ∀ b facet, (b, Event.choose facet) ∈ history → facet ∈ b.facets.offered →
        ∀ n ∈ b.tree.nodes, ∀ listing, n.stage = .leaf listing →
          ∃ n', l.session.browser.node? n.id = some n' ∧
            ((∃ listing, n'.stage = .branch listing) ∨
              ∃ failure, n'.stage = .failed failure)) := by
  refine ⟨h.ends, fun _ => wakes_le, fun hover => ?_⟩
  obtain ⟨hclosed, hidle⟩ : l.isOpen = false ∧ l.session.inFlight = [] := by
    simpa [isOver] using hover
  obtain ⟨hc, hseeded⟩ := h.sound
  have hacc := h.accounts
  refine ⟨?_, hacc.due, hidle, ?_, ?_⟩
  · have htaken := hacc.taken
    rwa [hacc.closed hclosed, List.append_nil] at htaken
  · intro n hn hl
    have hid : l.session.course.browser.node? n.id = some n := hc.tree.node?_id hn
    have hmem := (hc.awaited hid).mp ⟨hl, fun _ => hseeded⟩
    rw [Session.course, hidle] at hmem
    cases hmem
  · intro b facet hmem hf n hn listing hl
    obtain ⟨n', hn', hb | hfailed | ⟨fetch, hfetch, -⟩⟩ := hacc.regrouped hmem hf hn hl
    · exact ⟨n', hn', Or.inl hb⟩
    · exact ⟨n', hn', Or.inr hfailed⟩
    · rw [Session.course, hidle] at hfetch
      cases hfetch

theorem session_ends_with_root_grouped :
    let events := [Event.choose "type", .choose "lab", .activate 7]
    let sampled := (start (.new ⟨[], ["type"], 0⟩) events).after
      (.reply ⟨0, .root⟩ (.ok (.sample ⟨4, []⟩)))
    let handled := ((sampled.after .inbox).after .inbox).after .inbox
    let l := (handled.after .inbox).after
      (.reply ⟨0, .group .all "type"⟩ (.ok (.group "type" ⟨4, [⟨"csv", 4⟩], ⟨0, []⟩⟩)))
    l.isOver = true ∧
      (∃ history, Reaches ⟨[], ["type"], 0⟩ events history l ∧ history.map Prod.snd = events ∧
        l.outbox.filter (·.node?.isNone) = history.flatMap fun (b, event) => event.due b) ∧
      l.outbox.filter (·.node?.isNone) =
        [.facets ["type"] [] true, .rejected ⟨"lab"⟩, .unknown ⟨7⟩] ∧
      ∃ n, l.session.browser.node? 0 = some n ∧
        ((∃ listing, n.stage = .branch listing) ∨ ∃ failure, n.stage = .failed failure) := by
  intro events sampled handled l
  have hsampled : Reaches ⟨[], ["type"], 0⟩ events _ sampled :=
    .reply .start (by decide +kernel) (.root _)
  have hhandled : Reaches ⟨[], ["type"], 0⟩ events _ handled :=
    .event (.event (.event hsampled (by decide +kernel)
      (show _ = .choose "type" :: [.choose "lab", .activate 7] by decide +kernel))
      (by decide +kernel) (show _ = .choose "lab" :: [.activate 7] by decide +kernel))
      (by decide +kernel) (show _ = .activate 7 :: [] by decide +kernel)
  have h : Reaches ⟨[], ["type"], 0⟩ events _ l :=
    .reply (.close hhandled (by decide +kernel) (by decide +kernel)) (by decide +kernel)
      (.group _ _ _)
  have hover : l.isOver = true := by decide +kernel
  obtain ⟨hevents, hdue, -, -, hgrouped⟩ := (session_ends_complete h).2.2 hover
  refine ⟨hover, ⟨_, h, hevents, hdue⟩, by decide +kernel, ?_⟩
  exact hgrouped sampled.session.browser "type" (by simp) (by decide +kernel) _
    (List.mem_singleton.mpr rfl) ⟨4, [.more 4]⟩ (by decide +kernel)

end Loop
end FacetBrowser
