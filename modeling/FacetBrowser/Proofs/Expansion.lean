import FacetBrowser.Proofs.Accounted
import FacetBrowser.Proofs.Reconciliation

namespace FacetBrowser

inductive Failure.Of : Except SourceError Answer → Failure → Prop
  | source (error : SourceError) : Of (.error error) (.source error)
  | sample {s : Sample} {mismatch : CountMismatch} : s.unlisted = .error mismatch →
      Of (.ok (.sample s)) (.inconsistent mismatch)
  | groups {facet : String} {g : Grouping} {mismatch : CountMismatch} :
      g.unlisted = .error mismatch → Of (.ok (.group facet g)) (.inconsistent mismatch)
  | ungrouped {facet : String} {g : Grouping} {unlisted : UInt64} {mismatch : CountMismatch} :
      g.unlisted = .ok unlisted → g.ungrouped.unlisted = .error mismatch →
      Of (.ok (.group facet g)) (.inconsistent mismatch)

def elision? (count : UInt64) : Option UInt64 :=
  if count = 0 then none else some count

theorem moreRows_eq (count : UInt64) :
    Browser.moreRows count = (elision? count).toList.map .more := by
  simp only [Browser.moreRows, elision?]
  split <;> rfl

namespace Listing

def OfSample (s : Sample) (listing : Listing) : Prop :=
  ∃ hidden, s.unlisted = .ok hidden ∧
    listing = ⟨s.count, s.items.map .item ++ (elision? hidden).toList.map .more⟩

def OfGrouping (g : Grouping) (ids : List Nat) (listing : Listing) : Prop :=
  ∃ unlisted hidden, g.unlisted = .ok unlisted ∧ g.ungrouped.unlisted = .ok hidden ∧
    listing = ⟨g.count, ids.map .child ++ (elision? unlisted).toList.map .more
      ++ g.ungrouped.items.map .item ++ (elision? hidden).toList.map .more⟩

end Listing

namespace Node

variable {n : Node} {start : Nat} {a : Except SourceError Answer}

inductive Expands (n : Node) (start : Nat) :
    Except SourceError Answer → Stage → List Node → Prop
  | failed {a : Except SourceError Answer} {failure : Failure} : failure.Of a →
      Expands n start a (.failed failure) []
  | leaf {s : Sample} {listing : Listing} : listing.OfSample s →
      Expands n start (.ok (.sample s)) (.leaf listing) []
  | branch {facet : String} {g : Grouping} {listing : Listing} :
      listing.OfGrouping g ((Browser.childrenOf n facet start g.groups).map (·.id)) →
      Expands n start (.ok (.group facet g)) (.branch listing)
        (Browser.childrenOf n facet start g.groups)

theorem expands (n : Node) (start : Nat) (a : Except SourceError Answer) :
    n.Expands start a (n.expanded start a).1 (n.expanded start a).2 := by
  match a with
  | .error e => exact .failed (.source e)
  | .ok (.sample s) =>
    simp only [expanded]
    cases hs : s.unlisted with
    | error mismatch => exact .failed (.sample hs)
    | ok hidden => exact .leaf ⟨hidden, hs, by rw [moreRows_eq]⟩
  | .ok (.group facet g) =>
    simp only [expanded]
    cases hg : g.unlisted with
    | error mismatch => exact .failed (.groups hg)
    | ok unlisted =>
      cases hs : g.ungrouped.unlisted with
      | error mismatch => exact .failed (.ungrouped hg hs)
      | ok hidden =>
        refine .branch ⟨unlisted, hidden, hg, hs, ?_⟩
        rw [moreRows_eq, moreRows_eq, List.map_map]
        rfl

structure IsGroup (n : Node) (facet : String) (group : Group) (m : Node) : Prop where
  parent : m.parent = some n.id
  label : m.label = some group.value
  query : m.query = n.query.and (.equals facet group.value)
  depth : m.depth = n.depth + 1
  groupCount : m.groupCount = some group.count

theorem isGroup_child (n : Node) (facet : String) (id : Nat) (group : Group) (stage : Stage) :
    n.IsGroup facet group { n.child facet id group with stage := stage } :=
  ⟨rfl, rfl, rfl, rfl, rfl⟩

end Node

namespace Tree

variable {t : Tree} {answers : Question → Except SourceError Answer → Prop} {facets : Facets}
  {n : Node} {listing : Listing} {start : Nat}

def Holds (t : Tree) (n : Node) (facet : String) (groups : List Group) (ids : List Nat) :
    Prop :=
  List.Forall₂ (fun id group => ∃ m, t.node? id = some m ∧ n.IsGroup facet group m) ids groups

theorem Fills.holds {facet : String} {g : Grouping}
    (h : t.Fills n start (.ok (.group facet g)))
    (hc : (n.expanded start (.ok (.group facet g))).2 =
      Browser.childrenOf n facet start g.groups) :
    t.Holds n facet g.groups ((Browser.childrenOf n facet start g.groups).map (·.id)) := by
  rw [Holds, List.forall₂_map_left_iff, List.forall₂_iff_get]
  have hlen : (Browser.childrenOf n facet start g.groups).length = g.groups.length := by
    simp [Browser.childrenOf]
  refine ⟨hlen, fun k hk hk' => ?_⟩
  have hchild : (Browser.childrenOf n facet start g.groups)[k]? =
      some (n.child facet (start + k) g.groups[k]) := by
    rw [Node.getElem?_childrenOf, List.getElem?_eq_getElem hk']
    rfl
  obtain ⟨stage, hm⟩ := h.child (hc ▸ hchild)
  have hget : (Browser.childrenOf n facet start g.groups).get ⟨k, hk⟩ =
      n.child facet (start + k) g.groups[k] :=
    Option.some.inj ((List.getElem?_eq_getElem hk).symm.trans hchild)
  rw [hget]
  exact ⟨_, hm, n.isGroup_child facet _ _ stage⟩

theorem Shows.branch (h : t.Shows answers facets n)
    (hle : ∀ {q a}, answers q a → q.Admits a) (hs : n.stage = .branch listing) :
    ∃ facet g ids, facets.at? n.depth = some facet ∧
      answers (.group n.query facet) (.ok (.group facet g)) ∧
      listing.OfGrouping g ids ∧ t.Holds n facet g.groups ids := by
  obtain ⟨q, a, start, hq, ha, hfill⟩ := h
  have hx := n.expands start a
  rw [← hfill.stage, hs] at hx
  generalize hc : (n.expanded start a).2 = children at hx
  cases hx with
  | @branch facet g _ hlisting =>
    obtain ⟨query, rfl⟩ : ∃ query, q = .group query facet := by
      cases hle ha
      exact ⟨_, rfl⟩
    obtain ⟨rfl, hat⟩ := hq
    exact ⟨facet, g, _, hat, ha, hlisting, hfill.holds hc⟩

theorem Shows.leaf (h : t.Shows answers facets n) (hs : n.stage = .leaf listing) :
    ∃ q s, q.Suits facets n ∧ answers q (.ok (.sample s)) ∧ listing.OfSample s := by
  obtain ⟨q, a, start, hq, ha, hfill⟩ := h
  have hx := n.expands start a
  rw [← hfill.stage, hs] at hx
  generalize (n.expanded start a).2 = children at hx
  cases hx with
  | leaf hlisting => exact ⟨q, _, hq, ha, hlisting⟩

theorem Shows.failed {failure : Failure} (h : t.Shows answers facets n)
    (hs : n.stage = .failed failure) :
    ∃ q a, q.Suits facets n ∧ answers q a ∧ failure.Of a := by
  obtain ⟨q, a, start, hq, ha, hfill⟩ := h
  have hx := n.expands start a
  rw [← hfill.stage, hs] at hx
  generalize (n.expanded start a).2 = children at hx
  cases hx with
  | failed hf => exact ⟨q, a, hq, ha, hf⟩

end Tree
end FacetBrowser
