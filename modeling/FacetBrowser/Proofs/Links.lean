import FacetBrowser.Proofs.Overrides

namespace FacetBrowser

namespace Outline

variable {template a b : List Char}

def places : List Char → Nat
  | '\x7b' :: 'i' :: 'd' :: '\x7d' :: cs => places cs + 1
  | _ :: cs => places cs
  | [] => 0

theorem places_pos (h : hasPlace template = true) : 0 < places template := by
  fun_induction hasPlace template with
  | case1 cs => exact Nat.succ_pos _
  | case2 c cs hplace ih =>
    rw [places]
    · exact ih h
    · exact hplace
  | case3 => cases h

theorem length_fill (id template : List Char) :
    (fill id template).length + 4 * places template =
      template.length + places template * id.length := by
  fun_induction fill id template with
  | case1 cs ih =>
    simp only [places, List.length_append, List.length_cons, Nat.add_one_mul]
    omega
  | case2 c cs hplace ih =>
    rw [places]
    · simp only [List.length_cons]
      omega
    · exact hplace
  | case3 => simp [places]

theorem length_eq_of_fill_eq (h : hasPlace template = true)
    (hab : fill a template = fill b template) : a.length = b.length := by
  have ha := length_fill a template
  have hb := length_fill b template
  rw [← hab] at hb
  exact Nat.eq_of_mul_eq_mul_left (places_pos h) (by omega)

theorem eq_of_fill_eq (h : hasPlace template = true)
    (hab : fill a template = fill b template) : a = b := by
  have hlength := length_eq_of_fill_eq h hab
  fun_induction hasPlace template with
  | case1 cs => exact List.append_inj_left hab hlength
  | case2 c cs hplace ih =>
    rw [fill, fill] at hab
    · exact ih h (List.cons.inj hab).2
    · exact hplace
    · exact hplace
  | case3 => cases h

theorem fill_of_no_place (id : List Char) (h : hasPlace template = false) :
    fill id template = template := by
  fun_induction hasPlace template with
  | case1 cs => cases h
  | case2 c cs hplace ih =>
    rw [fill, ih h]
    exact hplace
  | case3 => rfl

theorem link_injective_iff {template : String} :
    Function.Injective (link template) ↔ hasPlace template.toList = true := by
  constructor
  · intro h
    by_contra hplace
    have hkept (id : String) : link template id = template := by
      rw [link, fill_of_no_place _ (Bool.eq_false_iff.mpr hplace), String.ofList_toList]
    exact absurd (h ((hkept "").trans (hkept "0").symm)) (by decide)
  · intro h a b hab
    exact String.toList_inj.mp (eq_of_fill_eq h (String.ofList_injective hab))

end Outline

theorem item_links_apart {s : Settings} (h : s.fault? = none) :
    "\x7bid\x7d".toList <:+: s.itemLink.toList ∧
      ∀ a b : String, a ≠ b → Outline.link s.itemLink a ≠ Outline.link s.itemLink b := by
  have hplace := (Settings.fault?_eq_none_iff.mp h).itemLink
  exact ⟨hplace, fun _ _ =>
    (Outline.link_injective_iff.mpr ((Outline.hasPlace_iff _).mpr hplace)).ne⟩

theorem placeholder_id_linked_apart :
    let s : Settings := { Settings.standard with itemLink := "\x7b\x7bid\x7d/\x7bid\x7d\x7d" }
    s.fault? = none ∧ "\x7bid\x7d" ≠ "id" ∧
      Outline.link s.itemLink "\x7bid\x7d" = s.itemLink ∧
      Outline.link s.itemLink "\x7bid\x7d" ≠ Outline.link s.itemLink "id" := by
  intro s
  have h : s.fault? = none := by decide +kernel
  have hne : "\x7bid\x7d" ≠ "id" := by decide
  exact ⟨h, hne, by decide +kernel, (item_links_apart h).2 _ _ hne⟩

end FacetBrowser
