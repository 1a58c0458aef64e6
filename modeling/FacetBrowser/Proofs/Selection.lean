import FacetBrowser.Proofs.Level
import Mathlib.Data.List.Nodup

namespace FacetBrowser

section Distinct

variable {options : List String}

theorem eraseDups_concat (options : List String) (x : String) :
    (options ++ [x]).eraseDups =
      if x ∈ options then options.eraseDups else options.eraseDups ++ [x] := by
  rw [List.eraseDups_append]
  by_cases h : x ∈ options <;> simp [List.removeAll, h, List.eraseDups_cons]

theorem pairwise_eraseDups (options : List String) :
    options.eraseDups.Pairwise (options.idxOf · < options.idxOf ·) := by
  induction options using List.reverseRecOn with
  | nil => exact .nil
  | append_singleton options x ih =>
    have hold : options.eraseDups.Pairwise fun a b =>
        (options ++ [x]).idxOf a < (options ++ [x]).idxOf b := by
      refine ih.imp_of_mem fun ha hb hlt => ?_
      rw [List.mem_eraseDups] at ha hb
      rwa [List.idxOf_append_of_mem ha, List.idxOf_append_of_mem hb]
    rw [eraseDups_concat]
    split
    · exact hold
    · rename_i hx
      refine List.pairwise_append.mpr ⟨hold, List.pairwise_singleton _ x, fun a ha b hb => ?_⟩
      obtain rfl := List.mem_singleton.mp hb
      rw [List.mem_eraseDups] at ha
      rw [List.idxOf_append_of_mem ha, List.idxOf_append_of_notMem hx]
      exact Nat.lt_add_right _ (List.idxOf_lt_length_of_mem ha)

theorem nodup_eraseDups (options : List String) : options.eraseDups.Nodup :=
  (pairwise_eraseDups options).imp fun {a b} hlt (heq : a = b) => Nat.lt_irrefl _ (heq ▸ hlt)

end Distinct

namespace Facets

theorem distinct_eq (options : List String) : distinct options = options.eraseDups := by
  induction options using List.reverseRecOn with
  | nil => rfl
  | append_singleton options x ih =>
    rw [distinct] at ih
    rw [distinct, List.foldl_concat, ih, eraseDups_concat]
    simp only [List.mem_eraseDups]

def after (f : Facets) (text : String) : Facets :=
  match f.choose text with
  | .error _ => f
  | .ok (_, next) => next

def chooseEach (f : Facets) (texts : List String) : Facets :=
  texts.foldl after f

def taken : Facets → List String → List String
  | _, [] => []
  | f, text :: texts =>
    match f.choose text with
    | .error _ => f.taken texts
    | .ok (_, next) => text :: next.taken texts

variable {f : Facets} {options : List String} {text : String}

theorem choose_of_mem (h : text ∈ f.offered) :
    f.choose text = .ok (f.chosen.length, f.extended text) :=
  if_pos h

theorem choose_of_not_mem (h : text ∉ f.offered) : f.choose text = .error ⟨text⟩ :=
  if_neg h

theorem chosen_chooseEach (f : Facets) (texts : List String) :
    (f.chooseEach texts).chosen = f.chosen ++ f.taken texts := by
  induction texts generalizing f with
  | nil => exact (List.append_nil _).symm
  | cons text texts ih =>
    have hnext := ih (f.after text)
    by_cases h : text ∈ f.offered
    · simp only [after, choose_of_mem h] at hnext
      simp only [chooseEach, List.foldl_cons, after, taken, choose_of_mem h]
      exact hnext.trans (by simp [extended])
    · simp only [after, choose_of_not_mem h] at hnext
      simp only [chooseEach, List.foldl_cons, after, taken, choose_of_not_mem h]
      exact hnext

structure Consistent (options : List String) (f : Facets) : Prop where
  nodup : f.chosen.Nodup
  among : ∀ x ∈ f.chosen, x ∈ options
  offered : f.offered = options.eraseDups.filter (· ∉ f.chosen)
  revision : f.revision = f.chosen.length

theorem consistent_ofOptions (options : List String) : Consistent options (ofOptions options) where
  nodup := List.nodup_nil
  among := by simp [ofOptions]
  offered := by simp [ofOptions, distinct_eq]
  revision := rfl

namespace Consistent

theorem mem_offered (h : Consistent options f) {x : String} :
    x ∈ f.offered ↔ x ∈ options ∧ x ∉ f.chosen := by
  simp [h.offered]

theorem extended (h : Consistent options f) (ht : text ∈ f.offered) :
    Consistent options (f.extended text) where
  nodup := by
    refine List.nodup_append.mpr ⟨h.nodup, List.nodup_singleton text, fun x hx y hy => ?_⟩
    exact List.mem_singleton.mp hy ▸ ne_of_mem_of_not_mem hx (h.mem_offered.mp ht).2
  among := by
    intro x hx
    rcases List.mem_append.mp hx with hx | hx
    · exact h.among x hx
    · exact List.mem_singleton.mp hx ▸ (h.mem_offered.mp ht).1
  offered := by
    have herase : f.offered.erase text = f.offered.filter (· != text) :=
      (h.offered ▸ (nodup_eraseDups options).filter _ : f.offered.Nodup).erase_eq_filter text
    rw [Facets.extended, herase, h.offered, List.filter_filter]
    refine List.filter_congr fun x _ => ?_
    by_cases hx : x = text <;> simp [hx]
  revision := by
    rw [length_extended, ← h.revision]
    rfl

theorem after (h : Consistent options f) (text : String) : Consistent options (f.after text) := by
  by_cases ht : text ∈ f.offered
  · rw [Facets.after, choose_of_mem ht]
    exact h.extended ht
  · rw [Facets.after, choose_of_not_mem ht]
    exact h

theorem chooseEach (h : Consistent options f) (texts : List String) :
    Consistent options (f.chooseEach texts) := by
  induction texts generalizing f with
  | nil => exact h
  | cons text texts ih => exact ih (h.after text)

theorem nodup_views (h : Consistent options f) : (f.chosen ++ f.offered).Nodup := by
  refine List.nodup_append.mpr ⟨h.nodup, h.offered ▸ (nodup_eraseDups options).filter _, ?_⟩
  rintro x hx _ hy rfl
  exact (h.mem_offered.mp hy).2 hx

theorem count_views (h : Consistent options f) (x : String) :
    (f.chosen ++ f.offered).count x = if x ∈ options then 1 else 0 := by
  have hmem : x ∈ f.chosen ++ f.offered ↔ x ∈ options := by
    rw [List.mem_append, h.mem_offered]
    have := h.among x
    tauto
  rw [h.nodup_views.count]
  simp only [hmem]

theorem depth?_eq_some_iff (h : Consistent options f) {d : Nat} :
    f.depth? text = some d ↔ f.at? d = some text := by
  rw [depth?, at?, List.idxOf?_eq_some_iff, List.getElem?_eq_some_iff]
  constructor
  · rintro ⟨hd, htext, -⟩
    exact ⟨hd, htext⟩
  · rintro ⟨hd, htext⟩
    refine ⟨hd, htext, fun i hi heq => ?_⟩
    exact absurd ((List.getElem_inj h.nodup).mp (heq.trans htext.symm)) (Nat.ne_of_lt hi)

end Consistent

theorem choices_agree {options texts : List String} {f : Facets}
    (hf : (ofOptions options).chooseEach texts = f) :
    (∀ x, (f.chosen ++ f.offered).count x = if x ∈ options then 1 else 0) ∧
    f.offered = options.eraseDups.filter (· ∉ f.chosen) ∧
    f.offered.Pairwise (options.idxOf · < options.idxOf ·) ∧
    f.chosen = (ofOptions options).taken texts ∧ f.revision = f.chosen.length ∧
    (∀ text d, f.depth? text = some d ↔ f.at? d = some text) ∧
    (∀ text ∈ f.offered, ∃ next, f.choose text = .ok (f.chosen.length, next) ∧
      f.after text = next ∧ next.depth? text = some f.chosen.length ∧
      ∀ d < f.chosen.length, next.at? d = f.at? d) ∧
    ∀ text, text ∉ f.offered → f.choose text = .error ⟨text⟩ ∧ f.after text = f := by
  have h : Consistent options f := hf ▸ (consistent_ofOptions options).chooseEach texts
  refine ⟨h.count_views, h.offered, ?_, hf ▸ chosen_chooseEach _ texts, h.revision,
    fun text d => h.depth?_eq_some_iff, ?_, ?_⟩
  · rw [h.offered]
    exact (pairwise_eraseDups options).filter _
  · intro text ht
    have hchoose := choose_of_mem ht
    refine ⟨f.extended text, hchoose, by rw [Facets.after, hchoose], ?_, ?_⟩
    · rw [(h.extended ht).depth?_eq_some_iff, at?, Facets.extended, List.getElem?_concat_length]
    · intro d hd
      exact List.getElem?_append_left hd
  · intro text ht
    have hchoose := choose_of_not_mem ht
    exact ⟨hchoose, by rw [Facets.after, hchoose]⟩

theorem repeated_option_chosen_once :
    ∃ f, (ofOptions ["type", "lab", "type"]).chooseEach ["type", "colour", "type"] = f ∧
      "lab" ∈ f.offered ∧ "type" ∉ f.offered ∧
      (∃ next, f.choose "lab" = .ok (1, next) ∧ next.depth? "lab" = some 1 ∧
        next.at? 0 = some "type") ∧
      f.choose "type" = .error ⟨"type"⟩ ∧ f.after "type" = f := by
  refine ⟨_, rfl, ?_⟩
  have hf : (ofOptions ["type", "lab", "type"]).chooseEach ["type", "colour", "type"] = _ := rfl
  obtain ⟨-, -, -, -, -, -, htake, hrefuse⟩ := choices_agree hf
  obtain ⟨next, hchoose, -, hdepth, hkept⟩ := htake "lab" (by decide)
  exact ⟨by decide, by decide, ⟨next, hchoose, hdepth, hkept 0 (by decide)⟩,
    hrefuse "type" (by decide)⟩

end Facets
end FacetBrowser
