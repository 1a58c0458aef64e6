import FacetBrowser.Proofs.Conjunction
import FacetBrowser.Proofs.Reconciliation
import FacetBrowser.Remote.Source

namespace FacetBrowser

open Json (Reader)

instance decidableEqResult {ε α : Type} [DecidableEq ε] [DecidableEq α] :
    DecidableEq (Except ε α)
  | .error e, .error e' => decidable_of_iff (e = e') (Except.error.injEq e e').symm.to_iff
  | .ok a, .ok a' => decidable_of_iff (a = a') (Except.ok.injEq a a').symm.to_iff
  | .error _, .ok _ => isFalse nofun
  | .ok _, .error _ => isFalse nofun

namespace FacetRow

def isKept (row : FacetRow) : Bool :=
  match row.value with
  | .null => false
  | _ => row.count ≠ 0

def group (row : FacetRow) : Group :=
  match row.value with
  | .string text => ⟨text, row.count⟩
  | value => ⟨String.ofList value.compact, row.count⟩

theorem group?_eq (row : FacetRow) : row.group? = if row.isKept then some row.group else none := by
  obtain ⟨value, count⟩ := row
  cases value <;> by_cases h : count = 0 <;> simp [group?, isKept, group, h]

theorem filterMap_group?_eq (rows : List FacetRow) :
    rows.filterMap group? = (rows.filter (·.isKept)).map (·.group) := by
  rw [← List.filterMap_eq_map, List.filterMap_filter]
  exact List.filterMap_congr fun row _ => row.group?_eq

theorem count_group (row : FacetRow) : row.group.count = row.count := by
  obtain ⟨value, count⟩ := row
  cases value <;> rfl

end FacetRow

namespace Query

theorem absent_ne_all (facet : String) : absent facet ≠ .all := by
  intro h
  have htext := congrArg (·.text.toList) h
  simp [absent, all, String.toList_append] at htext

theorem and_absent_ne_all (q : Query) (facet : String) : q.and (.absent facet) ≠ .all := by
  by_cases hq : q = .all
  · rw [hq, all_and]
    exact absent_ne_all facet
  · exact and_ne_all hq

theorem and_absent_ne (q : Query) (facet : String) : q.and (.absent facet) ≠ q := by
  by_cases hq : q = .all
  · rw [hq]
    exact and_absent_ne_all .all facet
  · intro h
    rw [and_eq_mk hq (absent_ne_all facet)] at h
    have hlength := congrArg (·.text.length) h
    simp only [String.length_append] at hlength
    have hand : " and ".length = 5 := rfl
    omega

end Query

namespace Remote

inductive Receives {α : Type} (reader : Reader α) :
    Except String Response → Except SourceError α → Prop
  | unsent (reason : String) : Receives reader (.error reason) (.error (.transport reason))
  | refused {response : Response} : ¬ (200 ≤ response.status ∧ response.status < 300) →
      Receives reader (.ok response)
        (.error (.transport ("HTTP " ++ response.statusText ++ ": " ++ response.text)))
  | garbled {response : Response} {fault : Json.Fault} :
      200 ≤ response.status ∧ response.status < 300 → reader.run response.text = .error fault →
      Receives reader (.ok response) (.error (.decode fault.message))
  | read {response : Response} {a : α} :
      200 ≤ response.status ∧ response.status < 300 → reader.run response.text = .ok a →
      Receives reader (.ok response) (.ok a)

section Asking

variable {α : Type} {exchange : Exchange} {request : Request} {reader : Reader α}

theorem isSuccess_iff {response : Response} :
    response.isSuccess = true ↔ 200 ≤ response.status ∧ response.status < 300 := by
  simp [Response.isSuccess]

theorem receives_ask (exchange : Exchange) (request : Request) (reader : Reader α) :
    Receives reader (exchange request) (ask exchange request reader) := by
  rw [ask]
  cases exchange request with
  | error reason => exact .unsent reason
  | ok response =>
    by_cases hs : response.isSuccess = true
    · simp only [hs, if_true]
      cases hr : reader.run response.text with
      | error fault => exact .garbled (isSuccess_iff.mp hs) hr
      | ok a => exact .read (isSuccess_iff.mp hs) hr
    · simp only [hs]
      exact .refused (mt isSuccess_iff.mpr hs)

theorem Receives.ask_eq {a : Except SourceError α} (h : Receives reader (exchange request) a) :
    ask exchange request reader = a := by
  rw [ask]
  generalize exchange request = answer at h
  cases h with
  | unsent reason => rfl
  | refused hs => exact if_neg (mt isSuccess_iff.mp hs)
  | garbled hs hr => simp only [if_pos (isSuccess_iff.mpr hs), hr, Except.mapError]
  | read hs hr => simp only [if_pos (isSuccess_iff.mpr hs), hr, Except.mapError]

end Asking

theorem requests_nodup (service : Service) (q : Query) (facet : String) :
    [facetRequest service q facet, sampleRequest service q 1,
      sampleRequest service (q.and (.absent facet)) service.sampleSize].Nodup := by
  have hfacet : (facetRequest service q facet).path = facetPath := by
    rw [facetRequest]
    split <;> rfl
  have hsample (p : Query) (size : UInt64) : (sampleRequest service p size).path ≠ facetPath := by
    have hitems : itemsPath ≠ facetPath := by decide
    have hfilter : filterPath ≠ facetPath := by decide
    rw [sampleRequest]
    split
    · exact hitems
    · exact hfilter
  have hne (p : Query) (size : UInt64) :
      facetRequest service q facet ≠ sampleRequest service p size :=
    fun h => hsample p size (h ▸ hfacet)
  have hapart : sampleRequest service q 1 ≠
      sampleRequest service (q.and (.absent facet)) service.sampleSize := by
    intro h
    have habsent := mt Query.isAll_iff.mp (q.and_absent_ne_all facet)
    simp only [sampleRequest, if_neg habsent] at h
    by_cases hq : q.isAll = true
    · simp [hq] at h
    · rw [if_neg hq] at h
      exact q.and_absent_ne facet (congrArg Query.mk (congrArg Request.body h).symm)
  simp [hne, hapart]

def assembled (values : Page FacetRow) (total ungrouped : Page Item) : Grouping :=
  ⟨total.count, (values.rows.filter (·.isKept)).map (·.group), ⟨ungrouped.count, ungrouped.rows⟩⟩

theorem claimed_assembled (values : Page FacetRow) (total ungrouped : Page Item) :
    (assembled values total ungrouped).claimed = ungrouped.count.toNat +
      ((values.rows.filter (·.isKept)).map (·.count.toNat)).sum := by
  simp only [Grouping.claimed, assembled, List.map_map]
  congr 3
  funext row
  exact congrArg UInt64.toNat row.count_group

section Grouped

variable {service : Service} {exchange : Exchange} {q : Query} {facet : String}
  {values : Page FacetRow} {total ungrouped : Page Item}

abbrev GivesValues (service : Service) (exchange : Exchange) (q : Query) (facet : String) :
    Except SourceError (Page FacetRow) → Prop :=
  Receives (Page.shape FacetRow.shape.reader).reader (exchange (facetRequest service q facet))

abbrev GivesItems (service : Service) (exchange : Exchange) (q : Query) (size : UInt64) :
    Except SourceError (Page Item) → Prop :=
  Receives (Page.shape itemRow.reader).reader (exchange (sampleRequest service q size))

theorem askGroups_eq {a : Except SourceError (Page FacetRow)}
    (h : GivesValues service exchange q facet a) : askGroups service exchange q facet =
      a.map fun page => (page.rows.filter (·.isKept)).map (·.group) := by
  simp only [askGroups, h.ask_eq, FacetRow.filterMap_group?_eq]

theorem askSample_eq {size : UInt64} {a : Except SourceError (Page Item)}
    (h : GivesItems service exchange q size a) : askSample service exchange q size =
      a.map fun page => ⟨page.count, page.rows⟩ := by
  rw [askSample, h.ask_eq]

theorem group_eq {a : Except SourceError (Page FacetRow)} {b c : Except SourceError (Page Item)}
    (ha : GivesValues service exchange q facet a) (hb : GivesItems service exchange q 1 b)
    (hc : GivesItems service exchange (q.and (.absent facet)) service.sampleSize c) :
    group service exchange q facet = (do
      let grouping := assembled (← a) (← b) (← c)
      match grouping.unlisted with
      | .ok _ => .ok grouping
      | .error mismatch => .error (.decode ("facet " ++ facet ++ ": " ++ mismatch.message))) := by
  rw [group, askGroups_eq ha, askSample_eq hb, askSample_eq hc]
  cases a <;> cases b <;> cases c <;> rfl

theorem exists_pages {g : Grouping} (h : group service exchange q facet = .ok g) :
    ∃ values total ungrouped, GivesValues service exchange q facet (.ok values) ∧
      GivesItems service exchange q 1 (.ok total) ∧
      GivesItems service exchange (q.and (.absent facet)) service.sampleSize (.ok ungrouped) := by
  obtain ⟨a, ha⟩ : ∃ a, GivesValues service exchange q facet a := ⟨_, receives_ask _ _ _⟩
  obtain ⟨b, hb⟩ : ∃ b, GivesItems service exchange q 1 b := ⟨_, receives_ask _ _ _⟩
  obtain ⟨c, hc⟩ : ∃ c, GivesItems service exchange (q.and (.absent facet)) service.sampleSize c :=
    ⟨_, receives_ask _ _ _⟩
  rw [group_eq ha hb hc] at h
  match a, b, c with
  | .ok values, .ok total, .ok ungrouped => exact ⟨values, total, ungrouped, ha, hb, hc⟩
  | .error e, _, _ => cases h
  | .ok _, .error e, _ => cases h
  | .ok _, .ok _, .error e => cases h

section Pages

variable (hv : GivesValues service exchange q facet (.ok values))
  (ht : GivesItems service exchange q 1 (.ok total))
  (hu : GivesItems service exchange (q.and (.absent facet)) service.sampleSize (.ok ungrouped))
include hv ht hu

theorem group_of_fitting (hle : (assembled values total ungrouped).claimed ≤ total.count.toNat) :
    group service exchange q facet = .ok (assembled values total ungrouped) := by
  obtain ⟨unlisted, hunlisted⟩ := Grouping.exists_unlisted_iff.mpr hle
  refine (group_eq hv ht hu).trans ?_
  simp only [bind, Except.bind, hunlisted]

theorem group_of_excess (hlt : total.count.toNat < (assembled values total ungrouped).claimed) :
    group service exchange q facet = .error (.decode ("facet " ++ facet ++ ": " ++
      (assembled values total ungrouped).excess.message)) := by
  have hunlisted := Grouping.unlisted_eq_error.mpr
    ⟨show (assembled values total ungrouped).count.toNat < _ from hlt, rfl⟩
  refine (group_eq hv ht hu).trans ?_
  simp only [bind, Except.bind, hunlisted]

theorem group_eq_ok_iff {g : Grouping} : group service exchange q facet = .ok g ↔
    (assembled values total ungrouped).claimed ≤ total.count.toNat ∧
      g = assembled values total ungrouped := by
  rcases Nat.lt_or_ge total.count.toNat (assembled values total ungrouped).claimed with hlt | hle
  · simp [group_of_excess hv ht hu hlt, Nat.not_le.mpr hlt]
  · simp [group_of_fitting hv ht hu hle, hle, eq_comm]

end Pages

end Grouped

theorem group_accepts_reconcilable (service : Service) (exchange : Exchange) (q : Query)
    (facet : String) :
    let ValuesAre := GivesValues service exchange q facet
    let TotalIs := GivesItems service exchange q 1
    let UngroupedAre := GivesItems service exchange (q.and (.absent facet)) service.sampleSize
    let grouping := group service exchange q facet
    [facetRequest service q facet, sampleRequest service q 1,
      sampleRequest service (q.and (.absent facet)) service.sampleSize].Nodup ∧
    (∀ g, grouping = .ok g ↔ ∃ values total ungrouped,
      ValuesAre (.ok values) ∧ TotalIs (.ok total) ∧ UngroupedAre (.ok ungrouped) ∧
      ((values.rows.filter (·.isKept)).map (·.count.toNat)).sum + ungrouped.count.toNat ≤
        total.count.toNat ∧
      g = ⟨total.count, (values.rows.filter (·.isKept)).map (·.group),
        ⟨ungrouped.count, ungrouped.rows⟩⟩) ∧
    (∀ values total ungrouped,
      ValuesAre (.ok values) → TotalIs (.ok total) → UngroupedAre (.ok ungrouped) →
      total.count.toNat < ((values.rows.filter (·.isKept)).map (·.count.toNat)).sum +
        ungrouped.count.toNat → ∃ mismatch : CountMismatch, mismatch.total = total.count ∧
          grouping = .error (.decode ("facet " ++ facet ++ ": " ++ mismatch.message))) ∧
    (∀ e total ungrouped, ValuesAre (.error e) → TotalIs (.ok total) →
      UngroupedAre (.ok ungrouped) → grouping = .error e) ∧
    (∀ e values ungrouped, ValuesAre (.ok values) → TotalIs (.error e) →
      UngroupedAre (.ok ungrouped) → grouping = .error e) ∧
    ∀ e values total, ValuesAre (.ok values) → TotalIs (.ok total) →
      UngroupedAre (.error e) → grouping = .error e := by
  intro ValuesAre TotalIs UngroupedAre grouping
  refine ⟨requests_nodup service q facet, ?_, ?_, ?_, ?_, ?_⟩
  · intro g
    constructor
    · intro hg
      obtain ⟨values, total, ungrouped, hv, ht, hu⟩ := exists_pages hg
      obtain ⟨hle, rfl⟩ := (group_eq_ok_iff hv ht hu).mp hg
      rw [claimed_assembled, Nat.add_comm] at hle
      exact ⟨values, total, ungrouped, hv, ht, hu, hle, rfl⟩
    · rintro ⟨values, total, ungrouped, hv, ht, hu, hle, rfl⟩
      rw [Nat.add_comm, ← claimed_assembled values total ungrouped] at hle
      exact group_of_fitting hv ht hu hle
  · intro values total ungrouped hv ht hu hlt
    rw [Nat.add_comm, ← claimed_assembled values total ungrouped] at hlt
    exact ⟨_, rfl, group_of_excess hv ht hu hlt⟩
  · exact fun e total ungrouped hv ht hu => group_eq hv ht hu
  · exact fun e values ungrouped hv ht hu => group_eq hv ht hu
  · exact fun e values total hv ht hu => group_eq hv ht hu

theorem reconciled_up_to_the_last_count :
    let service : Service := ⟨"http://localhost", .plainText, 2, 9, 30⟩
    let exchange (ungrouped : String) : Exchange := fun request =>
      if request.path = facetPath then .ok ⟨200, "\x7b\"results\":[" ++
        "\x7b\"facet\":null,\"count\":5\x7d," ++
        "\x7b\"facet\":[1],\"count\":18446744073709551614\x7d],\"count\":2\x7d"⟩
      else if request.path = itemsPath then .ok ⟨299, "\x7b\"count\":18446744073709551615\x7d"⟩
      else .ok ⟨200, ungrouped⟩
    let upTo := exchange "\x7b\"count\":1\x7d"
    let beyond := exchange "\x7b\"count\":2\x7d"
    (∃ values total ungrouped, GivesValues service upTo .all "type" (.ok values) ∧
      GivesItems service upTo .all 1 (.ok total) ∧
      GivesItems service upTo (.absent "type") 2 (.ok ungrouped) ∧
      ((values.rows.filter (·.isKept)).map (·.count.toNat)).sum + ungrouped.count.toNat ≤
        total.count.toNat) ∧
    group service upTo .all "type" =
      .ok ⟨18446744073709551615, [⟨"[1]", 18446744073709551614⟩], ⟨1, []⟩⟩ ∧
    group service beyond .all "type" = .error (.decode ("facet type: result accounts for " ++
      "18446744073709551615 items but reports a total of 18446744073709551615")) := by
  intro service exchange upTo beyond
  have hgroup : group service upTo .all "type" =
      .ok ⟨18446744073709551615, [⟨"[1]", 18446744073709551614⟩], ⟨1, []⟩⟩ := by
    decide +kernel
  obtain ⟨-, haccepts, -⟩ := group_accepts_reconcilable service upTo .all "type"
  obtain ⟨values, total, ungrouped, hv, ht, hu, hle, -⟩ := (haccepts _).mp hgroup
  exact ⟨⟨values, total, ungrouped, hv, ht, hu, hle⟩, hgroup, by decide +kernel⟩

end Remote
end FacetBrowser
