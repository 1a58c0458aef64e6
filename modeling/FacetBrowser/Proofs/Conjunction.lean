import FacetBrowser.Proofs.Extension

namespace FacetBrowser

namespace Filter

variable {filter filter' : Filter} {text tail : List Char}

theorem stops_skipSpaces (cs : List Char) : Stops isSpace (skipSpaces cs) := by
  intro c hc
  have hstop := List.head?_dropWhile_not isSpace cs
  rw [skipSpaces, Option.mem_def] at hc
  rw [hc] at hstop
  simpa using hstop

theorem derives_of_readMore_joined {fuel : Nat} {after left : List Char} {more : Filter}
    (hafter : Spaces after) (hleft : Spaces left)
    (h : readMore fuel (after ++ ' ' :: (['a', 'n', 'd', ' '] ++ tail)) = .ok (more, left)) :
    more ≠ [] ∧ Derives more tail := by
  have hunread : after ++ ' ' :: (['a', 'n', 'd', ' '] ++ tail) ≠ left := by
    rintro rfl
    exact not_spaces_of_mem (c := 'a') (by simp) rfl hleft
  cases fuel with
  | zero => exact absurd (Prod.mk.inj (Except.ok.inj h)).2 hunread
  | succ fuel =>
    obtain ⟨blanks, hblanks, htail⟩ := exists_spaces tail
    have hword : ['a', 'n', 'd'].map Char.toLower = ['a', 'n', 'd'] := rfl
    have hconjunction := conjunction?_append (by simp) (hafter.append spaces_blank) hword
      (List.cons_ne_nil ' ' blanks) (spaces_blank.append hblanks) (stops_skipSpaces tail)
    have hjoint : after ++ [' '] ++ (['a', 'n', 'd'] ++ (' ' :: blanks ++ skipSpaces tail)) =
        after ++ ' ' :: (['a', 'n', 'd', ' '] ++ tail) := by
      simp [← htail]
    rw [hjoint] at hconjunction
    rw [readMore, hconjunction] at h
    simp only at h
    split at h
    · split at h
      · cases h
      · exact absurd (Prod.mk.inj (Except.ok.inj h)).2 hunread
    · rename_i clause rest hclause
      split at h
      · cases h
      · rename_i clauses rest' hmore
        obtain ⟨rfl, rfl⟩ := Prod.mk.inj (Except.ok.inj h)
        obtain ⟨spelled, hspelled, hskip⟩ := spells_of_readClause hclause
        obtain ⟨further, hfurther, rfl⟩ := continues_of_readMore hmore
        rw [htail, hskip]
        exact ⟨List.cons_ne_nil _ _, .clauses hblanks hspelled hfurther hleft⟩

theorem Derives.exists_readMore (h : Derives filter text) (hne : filter ≠ [])
    (hread : read (text ++ ' ' :: tail) = .ok filter') :
    ∃ fuel after more left, Spaces after ∧ Spaces left ∧
      readMore fuel (after ++ ' ' :: tail) = .ok (more, left) ∧ filter' = filter ++ more := by
  cases h with
  | all => exact absurd rfl hne
  | @clauses clause clauses before spelled rest after hbefore hspelled hmore hafter =>
    have hblank : continuesWord (' ' :: tail) = false := Space.not_isAlphanumeric (.inl rfl)
    have htail := continuesWord_spaces hafter hblank
    obtain ⟨fuel, hsplit⟩ := read_clauses hbefore hspelled hmore htail
    have happend : before ++ (spelled ++ (rest ++ after)) ++ ' ' :: tail =
        before ++ (spelled ++ (rest ++ (after ++ ' ' :: tail))) := by
      simp only [List.append_assoc]
    rw [happend, hsplit] at hread
    split at hread
    · cases hread
    · rename_i more left hmore'
      split at hread
      · rename_i hleft
        obtain rfl := Except.ok.inj hread
        exact ⟨fuel, after, more, left, hafter, skipSpaces_eq_nil_iff.mp hleft, hmore', rfl⟩
      · cases hread

theorem Derives.conjoin_iff (h : Derives filter text) (hne : filter ≠ []) :
    Derives filter' (text ++ ([' ', 'a', 'n', 'd', ' '] ++ tail)) ↔
      ∃ more, more ≠ [] ∧ Derives more tail ∧ filter' = filter ++ more := by
  constructor
  · intro h'
    obtain ⟨fuel, after, more, left, hafter, hleft, hmore, rfl⟩ :=
      h.exists_readMore hne (read_derived h')
    obtain ⟨hne', hderives⟩ := derives_of_readMore_joined hafter hleft hmore
    exact ⟨more, hne', hderives, rfl⟩
  · rintro ⟨more, hne', hmore, rfl⟩
    exact h.conjoin hmore hne hne'

theorem holds_append (filter filter' : Filter) (attributes : Attributes) :
    holds (filter ++ filter') attributes = (filter.holds attributes && filter'.holds attributes) :=
  List.all_append

theorem holds_perm (h : filter.Perm filter') (attributes : Attributes) :
    filter.holds attributes = filter'.holds attributes :=
  h.all_eq

end Filter

namespace Query

variable {p q : Query} {filter filter' : Filter}

theorem isAll_iff : q.isAll = true ↔ q = .all := by
  rw [isAll, decide_eq_true_iff]
  exact ⟨fun h => congrArg Query.mk h, fun h => congrArg Query.text h⟩

theorem all_and (q : Query) : Query.all.and q = q :=
  if_pos rfl

theorem and_all (p : Query) : p.and .all = p := by
  rw [Query.and]
  split
  · rename_i hp
    exact (isAll_iff.mp hp).symm
  · exact if_pos rfl

theorem and_eq_mk (hp : p ≠ .all) (hq : q ≠ .all) : p.and q = ⟨p.text ++ " and " ++ q.text⟩ := by
  rw [Query.and, if_neg fun h => hp (isAll_iff.mp h), if_neg fun h => hq (isAll_iff.mp h)]

theorem and_ne_all (hp : p ≠ .all) : p.and q ≠ .all := by
  by_cases hq : q = .all
  · rw [hq, and_all]
    exact hp
  · intro h
    have htext := congrArg (·.text.toList) ((and_eq_mk hp hq).symm.trans h)
    simp [String.toList_append, Query.all] at htext

theorem and_assoc (p q r : Query) : (p.and q).and r = p.and (q.and r) := by
  by_cases hp : p = .all
  · rw [hp, all_and, all_and]
  by_cases hq : q = .all
  · rw [hq, and_all, all_and]
  by_cases hr : r = .all
  · rw [hr, and_all, and_all]
  rw [and_eq_mk (and_ne_all hp) hr, and_eq_mk hp (and_ne_all hq), and_eq_mk hp hq, and_eq_mk hq hr]
  simp only [String.append_assoc]

theorem Means.conjoin (hp : p.Means filter) (hq : q.Means filter') :
    (p.and q).Means (filter ++ filter') := by
  by_cases hne : filter' = []
  · rw [hne, List.append_nil, hq.all hne, and_all]
    exact hp
  · exact ⟨Filter.derives_and hp.derives hq.derives hp.all hne,
      fun h => absurd (List.append_eq_nil_iff.mp h).2 hne⟩

theorem Means.derives_and_iff (hp : p.Means filter) (hq : ¬ Filter.Spaces q.text.toList) :
    Filter.Derives filter' (p.and q).text.toList ↔
      ∃ more, Filter.Derives more q.text.toList ∧ filter' = filter ++ more := by
  have hqall : q ≠ .all := by
    rintro rfl
    exact hq Filter.spaces_nil
  by_cases hne : filter = []
  · rw [hp.all hne, hne, all_and]
    simp
  · have hpall : p ≠ .all := by
      rintro rfl
      exact hne hp.derives.eq_nil
    have htext : (p.and q).text.toList =
        p.text.toList ++ ([' ', 'a', 'n', 'd', ' '] ++ q.text.toList) := by
      rw [and_eq_mk hpall hqall]
      simp [String.toList_append]
    rw [htext, hp.derives.conjoin_iff hne]
    refine exists_congr fun more => ⟨fun h => h.2, fun h => ⟨?_, h⟩⟩
    rintro rfl
    cases h.1 with
    | all hspaces => exact hq hspaces

def allOf (qs : List Query) : Query :=
  qs.foldr Query.and .all

theorem allOf_append (ps qs : List Query) : allOf (ps ++ qs) = (allOf ps).and (allOf qs) := by
  induction ps with
  | nil => exact (all_and _).symm
  | cons p ps ih =>
    simp only [allOf, List.cons_append, List.foldr_cons] at ih ⊢
    rw [ih, and_assoc]

theorem means_allOf {qs : List Query} {filters : Query → Filter}
    (h : ∀ q ∈ qs, q.Means (filters q)) : (allOf qs).Means (qs.flatMap filters) := by
  induction qs with
  | nil => exact .everything
  | cons q qs ih =>
    obtain ⟨hq, hqs⟩ := List.forall_mem_cons.mp h
    exact hq.conjoin (ih hqs)

inductive Chain where
  | one (q : Query)
  | and (left right : Chain)

namespace Chain

def query : Chain → Query
  | one q => q
  | and left right => left.query.and right.query

def links : Chain → List Query
  | one q => [q]
  | and left right => left.links ++ right.links

theorem query_eq (c : Chain) : c.query = allOf c.links := by
  induction c with
  | one q => exact (and_all q).symm
  | and left right ihl ihr => rw [query, links, allOf_append, ihl, ihr]

end Chain
end Query

namespace Collection

variable {filter filter' : Filter}

theorem matching_perm (coll : Collection) (h : filter.Perm filter') :
    coll.matching filter = coll.matching filter' :=
  List.filter_congr fun r _ => Filter.holds_perm h r.attributes

theorem matching_append (coll : Collection) (filter filter' : Filter) :
    coll.matching (filter ++ filter') =
      coll.records.filter fun r => filter.holds r.attributes && filter'.holds r.attributes :=
  List.filter_congr fun r _ => Filter.holds_append filter filter' r.attributes

theorem select_chain_perm (coll : Collection) {c c' : Query.Chain} (h : c.links.Perm c'.links)
    (hlinks : ∀ q ∈ c.links, q.Built ∧ ∃ filter, Filter.parse q.text = .ok filter) :
    ∃ found, coll.select c.query = .ok found ∧ coll.select c'.query = .ok found := by
  choose! filters hfilters using fun q hq => (hlinks q hq).2
  have hmeans : ∀ q ∈ c.links, q.Means (filters q) := fun q hq =>
    (hlinks q hq).1.means (hfilters q hq)
  have hmeans' : ∀ q ∈ c'.links, q.Means (filters q) := fun q hq =>
    hmeans q (h.mem_iff.mpr hq)
  rw [c.query_eq, c'.query_eq, select_eq (Query.means_allOf hmeans),
    select_eq (Query.means_allOf hmeans'), coll.matching_perm (h.flatMap_right filters)]
  exact ⟨_, rfl, rfl⟩

end Collection

namespace Query

variable {p q : Query} {filter filter' : Filter}

theorem conjunction_reads_in_order (hp : p.Built) (hq : q.Built)
    (hread : Filter.parse p.text = .ok filter) (hread' : Filter.parse q.text = .ok filter') :
    Filter.parse (p.and q).text = .ok (filter ++ filter') ∧
    (∀ attributes, Filter.holds (filter ++ filter') attributes =
      (filter.holds attributes && filter'.holds attributes)) ∧
    (∀ coll : Collection, ∃ found, coll.select (p.and q) = .ok found ∧
      coll.select (q.and p) = .ok found ∧
      found = coll.records.filter fun r =>
        filter.holds r.attributes && filter'.holds r.attributes) ∧
    (∀ c c' : Chain, c.links = c'.links → c.query = c'.query) ∧
    ∀ c c' : Chain, c.links.Perm c'.links →
      (∀ link ∈ c.links, link.Built ∧ ∃ filter, Filter.parse link.text = .ok filter) →
      ∀ coll : Collection, ∃ found, coll.select c.query = .ok found ∧
        coll.select c'.query = .ok found := by
  have hmeans := (hp.means hread).conjoin (hq.means hread')
  have hmeans' := (hq.means hread').conjoin (hp.means hread)
  refine ⟨Filter.read_derived hmeans.derives, Filter.holds_append filter filter', fun coll => ?_,
    fun c c' hlinks => ?_, fun c c' hperm hlinks coll => coll.select_chain_perm hperm hlinks⟩
  · refine ⟨_, Collection.select_eq hmeans, ?_, coll.matching_append filter filter'⟩
    rw [Collection.select_eq hmeans', coll.matching_perm List.perm_append_comm]
  · rw [c.query_eq, c'.query_eq, hlinks]

theorem conjunction_of_quoted_and_absent :
    let p := Query.ofText "\tlab=\"O'Brien\" "
    let q := (Query.equals "Type" "csv").and (.ofText "\nnull = NuLL")
    let filter : Filter := [.equals "lab" "O'Brien"]
    let filter' : Filter := [.equals "Type" "csv", .absent "null"]
    let c : Chain := .and (.and (.one p) (.one .all)) (.one q)
    let c' : Chain := .and (.one q) (.and (.one .all) (.one p))
    let coll : Collection := ⟨[⟨"1", "/a", [("lab", "o'brien"), ("Type", "CSV"), ("null", "")]⟩,
      ⟨"2", "/b", [("Type", "Csv"), ("lab", "O'BRIEN")]⟩, ⟨"3", "/c", [("lab", "O'Brien")]⟩], 1, 1⟩
    p.Built ∧ q.Built ∧ Filter.parse p.text = .ok filter ∧ Filter.parse q.text = .ok filter' ∧
    Filter.parse (p.and q).text = .ok (filter ++ filter') ∧ c.links.Perm c'.links ∧
    (∀ link ∈ c.links, link.Built ∧ ∃ filter, Filter.parse link.text = .ok filter) ∧
    coll.select c.query = .ok [⟨"2", "/b", [("Type", "Csv"), ("lab", "O'BRIEN")]⟩] ∧
    ∃ found, coll.select c.query = .ok found ∧ coll.select c'.query = .ok found := by
  intro p q filter filter' c c' coll
  have hp : p.Built := .ofText _
  have hq : q.Built := .and (.equals _ _) (.ofText _)
  have hread : Filter.parse p.text = .ok filter := by decide +kernel
  have hread' : Filter.parse q.text = .ok filter' := by decide +kernel
  have hlinks : ∀ link ∈ c.links, link.Built ∧ ∃ filter, Filter.parse link.text = .ok filter := by
    simp only [c, Chain.links, List.cons_append, List.nil_append, List.forall_mem_cons]
    exact ⟨⟨hp, _, hread⟩, ⟨.all, [], by decide +kernel⟩, ⟨hq, _, hread'⟩, by simp⟩
  have hperm : c.links.Perm c'.links := by decide +kernel
  obtain ⟨hand, -, -, -, hchain⟩ := conjunction_reads_in_order hp hq hread hread'
  exact ⟨hp, hq, hread, hread', hand, hperm, hlinks, by decide +kernel,
    hchain c c' hperm hlinks coll⟩

end Query
end FacetBrowser
