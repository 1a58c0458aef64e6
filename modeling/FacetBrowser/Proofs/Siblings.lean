import FacetBrowser.Proofs.Assembly
import FacetBrowser.Proofs.Current
import FacetBrowser.Proofs.Decoded
import FacetBrowser.Proofs.Totals

namespace FacetBrowser

namespace Json.Value

variable {v w : Value}

def shown : Value → String
  | .string text => text
  | v => String.ofList v.compact

def Spells (v w : Value) : Prop :=
  v = .string (String.ofList w.compact) ∧ ∀ text, w ≠ .string text

theorem shown_eq (h : ∀ text, v ≠ .string text) : v.shown = String.ofList v.compact := by
  cases v with
  | string text => exact absurd rfl (h text)
  | _ => rfl

theorem Spells.shown_eq (h : v.Spells w) : v.shown = w.shown := by
  rw [h.1, Value.shown_eq h.2]
  rfl

theorem shown_eq_iff (hv : v.Proper) (hw : w.Proper) :
    v.shown = w.shown ↔ v = w ∨ v.Spells w ∨ w.Spells v := by
  constructor
  · intro h
    by_cases hs : ∃ text, v = .string text
    · obtain ⟨text, rfl⟩ := hs
      by_cases ht : ∃ text, w = .string text
      · obtain ⟨text', rfl⟩ := ht
        exact .inl (congrArg Value.string h)
      · have hnot := not_exists.mp ht
        rw [Value.shown_eq hnot] at h
        exact .inr (.inl ⟨congrArg Value.string h, hnot⟩)
    · have hnot := not_exists.mp hs
      rw [Value.shown_eq hnot] at h
      by_cases ht : ∃ text, w = .string text
      · obtain ⟨text, rfl⟩ := ht
        exact .inr (.inr ⟨congrArg Value.string h.symm, hnot⟩)
      · rw [Value.shown_eq (not_exists.mp ht)] at h
        exact .inl (compact_injective hv hw (String.ofList_injective h))
  · rintro (rfl | h | h)
    · rfl
    · exact h.shown_eq
    · exact h.shown_eq.symm

theorem Spells.ne (h : v.Spells w) : v ≠ w :=
  fun heq => h.2 _ (heq.symm.trans h.1)

end Json.Value

namespace FacetRow

theorem value_group (row : FacetRow) : row.group.value = row.value.shown := by
  obtain ⟨value, count⟩ := row
  cases value <;> rfl

def Spelled (rows : List FacetRow) : Prop :=
  ∃ r ∈ rows, ∃ r' ∈ rows, r.value.Spells r'.value

variable {rows : List FacetRow}

theorem nodup_groups_iff (hproper : ∀ row ∈ rows, row.value.Proper)
    (hrows : (rows.map (·.value)).Nodup) :
    ((rows.map (·.group)).map (·.value)).Nodup ↔ ¬ Spelled rows := by
  have hshown : (rows.map (·.group)).map (·.value) = rows.map (·.value.shown) := by
    rw [List.map_map]
    exact List.map_congr_left fun row _ => row.value_group
  rw [hshown]
  constructor
  · rintro hnodup ⟨r, hr, r', hr', hspells⟩
    have heq : r = r' := List.inj_on_of_nodup_map hnodup hr hr' hspells.shown_eq
    exact hspells.ne (congrArg FacetRow.value heq)
  · intro hnot
    refine hrows.of_map.map_on fun r hr r' hr' h => ?_
    rcases (Json.Value.shown_eq_iff (hproper r hr) (hproper r' hr')).mp h with h | h | h
    · exact List.inj_on_of_nodup_map hrows hr hr' h
    · exact absurd ⟨r, hr, r', hr', h⟩ hnot
    · exact absurd ⟨r', hr', r, hr, h⟩ hnot

end FacetRow

namespace Query

theorem equals_ne_all (facet value : String) : equals facet value ≠ .all := by
  intro h
  have htext := congrArg (·.text.toList) h
  simp [equals, all, String.toList_append] at htext

theorem equals_injective (facet : String) : Function.Injective (equals facet) := by
  intro v w h
  have htext := congrArg (·.text.toList) h
  simp only [equals, String.toList_append, List.append_cancel_left_eq,
    List.append_cancel_right_eq] at htext
  exact String.toList_injective htext

theorem and_equals_injective (q : Query) (facet : String) :
    Function.Injective fun value => q.and (.equals facet value) := by
  intro v w h
  apply equals_injective facet
  by_cases hq : q = .all
  · simpa only [hq, all_and] using h
  · have htext := congrArg (·.text.toList) h
    simp only [and_eq_mk hq (equals_ne_all _ _), String.toList_append,
      List.append_cancel_left_eq] at htext
    exact congrArg mk (String.toList_injective htext)

theorem nodup_queries_iff (q : Query) (facet : String) (groups : List Group) :
    (groups.map fun group => q.and (.equals facet group.value)).Nodup ↔
      (groups.map (·.value)).Nodup := by
  rw [← List.nodup_map_iff (q.and_equals_injective facet), List.map_map]
  rfl

end Query

namespace Tree

theorem Holds.queries {t : Tree} {n : Node} {facet : String} {groups : List Group}
    {ids : List Nat} (h : t.Holds n facet groups ids) :
    (ids.filterMap t.node?).map (·.query) =
      groups.map fun group => n.query.and (.equals facet group.value) := by
  induction h with
  | nil => rfl
  | cons hid _ ih =>
    obtain ⟨m, hm, hgroup⟩ := hid
    rw [List.filterMap_cons_some hm, List.map_cons, List.map_cons, hgroup.query, ih]

theorem Holds.queries_children {t : Tree} {n : Node} {facet : String} {g : Grouping}
    {ids : List Nat} {listing : Listing} (h : t.Holds n facet g.groups ids)
    (hn : t.node? n.id = some n) (hs : n.stage = .branch listing)
    (hlisting : listing.OfGrouping g ids) :
    (t.children n.id).map (·.query) =
      g.groups.map fun group => n.query.and (.equals facet group.value) := by
  obtain ⟨_, _, -, -, -, harranged⟩ := hlisting.arranged
  have hlist : t.listing? n.id = some listing := by rw [listing?, hn, Option.bind_some, hs]; rfl
  rw [children_of_listing hlist, harranged.children, h.queries]

end Tree

namespace Remote

def Replies (service : Service) (during : Question → Exchange) (q : Question)
    (a : Except SourceError Answer) : Prop :=
  (source service (during q)).oracle.Gives q a

variable {service : Service} {exchange : Exchange} {q : Query} {facet : String}
  {values : Page FacetRow} {g : Grouping}

theorem Receives.exists_run {α : Type} {reader : Json.Reader α}
    {answer : Except String Response} {a : α} (h : Receives reader answer (.ok a)) :
    ∃ text, reader.run text = .ok a := by
  cases h with
  | read _ hread => exact ⟨_, hread⟩

theorem proper_of_gives (h : GivesValues service exchange q facet (.ok values)) :
    ∀ row ∈ values.rows, row.value.Proper := by
  obtain ⟨text, hread⟩ := h.exists_run
  exact Json.of_run (Page.yields FacetRow.yields) hread

theorem groups_eq (hv : GivesValues service exchange q facet (.ok values))
    (hg : group service exchange q facet = .ok g) :
    g.groups = (values.rows.filter (·.isKept)).map (·.group) := by
  obtain ⟨_, total, ungrouped, -, ht, hu⟩ := exists_pages hg
  obtain ⟨-, rfl⟩ := (group_eq_ok_iff hv ht hu).mp hg
  rfl

theorem groups_apart_iff (hv : GivesValues service exchange q facet (.ok values))
    (hg : group service exchange q facet = .ok g) (hrows : (values.rows.map (·.value)).Nodup) :
    (g.groups.map (·.value)).Nodup ↔ ¬ FacetRow.Spelled (values.rows.filter (·.isKept)) := by
  rw [groups_eq hv hg]
  refine FacetRow.nodup_groups_iff (fun row hrow => ?_) (hrows.sublist ?_)
  · exact proper_of_gives hv row (List.mem_filter.mp hrow).1
  · exact List.filter_sublist.map _

theorem siblings_apart_unless_spelled (service : Service) :
    (∀ exchange q facet values g, GivesValues service exchange q facet (.ok values) →
      group service exchange q facet = .ok g →
      (∀ r ∈ values.rows, ∀ r' ∈ values.rows, r.group.value = r'.group.value ↔
        r.value = r'.value ∨ r.value.Spells r'.value ∨ r'.value.Spells r.value) ∧
      ((values.rows.map (·.value)).Nodup → ((g.groups.map (·.value)).Nodup ↔
        ¬ FacetRow.Spelled (values.rows.filter (·.isKept))))) ∧
    ∀ during facets ms, (Course.new facets).Permits (Replies service during) ms →
      let b := ((Course.new facets).run ms).browser
      ∀ n ∈ b.tree.nodes, ∀ listing, n.stage = .branch listing → ∃ facet values g,
        let exchange := during (.group n.query facet)
        let queries := (b.tree.children n.id).map (·.query)
        b.facets.at? n.depth = some facet ∧
          GivesValues service exchange n.query facet (.ok values) ∧
          group service exchange n.query facet = .ok g ∧
          queries = g.groups.map (fun group => n.query.and (.equals facet group.value)) ∧
          ((values.rows.map (·.value)).Nodup →
            (queries.Nodup ↔ ¬ FacetRow.Spelled (values.rows.filter (·.isKept)))) := by
  refine ⟨fun exchange q facet values g hv hg => ⟨fun r hr r' hr' => ?_, ?_⟩, ?_⟩
  · have hproper := proper_of_gives hv
    rw [r.value_group, r'.value_group]
    exact Json.Value.shown_eq_iff (hproper r hr) (hproper r' hr')
  · exact groups_apart_iff hv hg
  · intro during facets ms h b n hmem listing hs
    obtain ⟨hsound, haccounted⟩ := Course.accounted_run h Oracle.admits_of_gives
    have hn : b.tree.node? n.id = some n := hsound.tree.node?_id hmem
    obtain ⟨facet, g, ids, hat, hgives, hlisting, hholds⟩ :=
      (haccounted.shows hn (by simp [hs]) (by simp [hs])).branch Oracle.admits_of_gives hs
    have hg := Source.group_of_gives hgives
    obtain ⟨values, -, -, hv, -, -⟩ := exists_pages hg
    have hqueries := hholds.queries_children hn hs hlisting
    refine ⟨facet, values, g, hat, hv, hg, hqueries, fun hrows => ?_⟩
    rw [hqueries, Query.nodup_queries_iff]
    exact groups_apart_iff hv hg hrows

set_option maxRecDepth 1000 in
theorem siblings_apart_beside_dropped_spelling :
    let service : Service := ⟨"http://localhost", .plainText, 2, 9, 30⟩
    let exchange : Exchange := fun request =>
      if request.path = facetPath then .ok ⟨200, "\x7b\"results\":[" ++
        "\x7b\"facet\":\"1\",\"count\":0\x7d,\x7b\"facet\":1,\"count\":2\x7d," ++
        "\x7b\"facet\":\"[ 1]\",\"count\":1\x7d,\x7b\"facet\":[1],\"count\":1\x7d]," ++
        "\"count\":4\x7d"⟩
      else if request.path = itemsPath then .ok ⟨200, "\x7b\"count\":4\x7d"⟩
      else .ok ⟨200, "\x7b\"count\":0\x7d"⟩
    let one : Json.Value := .number (.integer 1)
    let values : Page FacetRow :=
      ⟨4, [⟨.string "1", 0⟩, ⟨one, 2⟩, ⟨.string "[ 1]", 1⟩, ⟨.array [one], 1⟩]⟩
    let g : Grouping := ⟨4, [⟨"1", 2⟩, ⟨"[ 1]", 1⟩, ⟨"[1]", 1⟩], ⟨0, []⟩⟩
    let facets : Facets := ⟨[], ["type"], 0⟩
    let answers := Replies service fun _ => exchange
    let ms := [.seed, .choose "type", .complete ⟨0, .root⟩ (.ok (.sample ⟨4, []⟩)),
      .complete ⟨0, .group .all "type"⟩ (.ok (.group "type" g))]
    let b := ((Course.new facets).run ms).browser
    GivesValues service exchange .all "type" (.ok values) ∧
    group service exchange .all "type" = .ok g ∧
    (values.rows.map (·.value)).Nodup ∧
    ¬ FacetRow.Spelled (values.rows.filter (·.isKept)) ∧
    (g.groups.map (·.value)).Nodup ∧
    (Course.new facets).Permits answers ms ∧
    ((b.tree.children 0).map (·.query)).Nodup := by
  intro service exchange one values g facets answers ms b
  have hv : GivesValues service exchange .all "type" (.ok values) :=
    .read (by decide) (by rfl)
  have hg : group service exchange .all "type" = .ok g := by decide +kernel
  have hrows : (values.rows.map (·.value)).Nodup := by simp [values, one]
  have hnot : ¬ FacetRow.Spelled (values.rows.filter (·.isKept)) := by
    have hkept : values.rows.filter (·.isKept) =
        [⟨one, 2⟩, ⟨.string "[ 1]", 1⟩, ⟨.array [one], 1⟩] := rfl
    rw [hkept]
    rintro ⟨r, hr, r', hr', hspells⟩
    simp only [List.mem_cons, List.not_mem_nil, or_false] at hr hr'
    rcases hr with rfl | rfl | rfl
    · cases hspells.1
    · have htext := Json.Value.string.inj hspells.1
      rcases hr' with rfl | rfl | rfl
      · exact absurd htext (by decide)
      · exact hspells.2 _ rfl
      · exact absurd htext (by decide)
    · cases hspells.1
  have hroot : answers .root (.ok (.sample ⟨4, []⟩)) :=
    (by decide +kernel : _ = (source service exchange).oracle.answer .root)
  have hgroup : answers (.group .all "type") (.ok (.group "type" g)) :=
    (congrArg (Except.map (Answer.group "type")) hg).symm
  have h : (Course.new facets).Permits answers ms := by
    refine ⟨trivial, trivial, ⟨?_, hroot⟩, ⟨?_, hgroup⟩, trivial⟩ <;> decide +kernel
  have hn : Node.mk 0 none none .all 0 none (.branch ⟨4, [.child 1, .child 2, .child 3]⟩) ∈
      ((Course.new facets).run ms).browser.tree.nodes := by
    decide +kernel
  have hchosen : ((Course.new facets).run ms).browser.facets.at? 0 = some "type" := by
    decide +kernel
  obtain ⟨hgroups, hsiblings⟩ := siblings_apart_unless_spelled service
  refine ⟨hv, hg, hrows, hnot, ((hgroups _ _ _ _ _ hv hg).2 hrows).mpr hnot, h, ?_⟩
  obtain ⟨facet, values', -, hat, hv', -, -, hqueries⟩ :=
    hsiblings (fun _ => exchange) facets ms h _ hn _ rfl
  obtain rfl : "type" = facet := Option.some.inj (hchosen.symm.trans hat)
  obtain rfl : values = values' := Except.ok.inj (hv.ask_eq.symm.trans hv'.ask_eq)
  exact (hqueries hrows).mpr hnot

theorem number_grouped_beside_its_spelling :
    let service : Service := ⟨"http://localhost", .plainText, 2, 9, 30⟩
    let exchange : Exchange := fun request =>
      if request.path = facetPath then .ok ⟨200, "\x7b\"results\":[" ++
        "\x7b\"facet\":\"1\",\"count\":2\x7d,\x7b\"facet\":1,\"count\":1\x7d]," ++
        "\"count\":2\x7d"⟩
      else if request.path = itemsPath then .ok ⟨200, "\x7b\"count\":3\x7d"⟩
      else .ok ⟨200, "\x7b\"count\":0\x7d"⟩
    let values : Page FacetRow := ⟨2, [⟨.string "1", 2⟩, ⟨.number (.integer 1), 1⟩]⟩
    let g : Grouping := ⟨3, [⟨"1", 2⟩, ⟨"1", 1⟩], ⟨0, []⟩⟩
    let ms := [.seed, .choose "type", .complete ⟨0, .root⟩ (.ok (.sample ⟨3, []⟩)),
      .complete ⟨0, .group .all "type"⟩ (.ok (.group "type" g))]
    let b := ((Course.new ⟨[], ["type"], 0⟩).run ms).browser
    GivesValues service exchange .all "type" (.ok values) ∧
    (values.rows.map (·.value)).Nodup ∧
    group service exchange .all "type" = .ok g ∧
    ¬ (g.groups.map (·.value)).Nodup ∧
    (Course.new ⟨[], ["type"], 0⟩).Permits (Replies service fun _ => exchange) ms ∧
    (b.tree.children 0).map (·.query) = [.equals "type" "1", .equals "type" "1"] := by
  intro service exchange values g ms b
  have hg : group service exchange .all "type" = .ok g := by decide +kernel
  have hroot : Replies service (fun _ => exchange) .root (.ok (.sample ⟨3, []⟩)) :=
    (by decide +kernel : _ = (source service exchange).oracle.answer .root)
  have hgroup : Replies service (fun _ => exchange) (.group .all "type") (.ok (.group "type" g)) :=
    (congrArg (Except.map (Answer.group "type")) hg).symm
  refine ⟨.read (by decide) (by rfl), by simp [values], hg, by decide,
    ⟨trivial, trivial, ⟨?_, hroot⟩, ⟨?_, hgroup⟩, trivial⟩, ?_⟩ <;> decide +kernel

end Remote

end FacetBrowser
