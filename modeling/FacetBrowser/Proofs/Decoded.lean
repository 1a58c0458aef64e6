import FacetBrowser.Proofs.Spelling
import FacetBrowser.Remote.Page

namespace FacetBrowser

namespace Json

def Yields {α : Type} (P : α → Prop) (result : Except Fault (α × List Char)) : Prop :=
  ∀ a rest, result = .ok (a, rest) → P a

section Yields

variable {α β : Type} {P : α → Prop} {a : α} {rest : List Char}

theorem yields_error (fault : Fault) : Yields P (.error fault) := nofun

theorem yields_ok (h : P a) : Yields P (.ok (a, rest)) := by
  intro b rest' heq
  cases heq
  exact h

theorem yields_bind {result : Except Fault β} {next : β → Except Fault (α × List Char)}
    (h : ∀ b, result = .ok b → Yields P (next b)) : Yields P (result >>= next) := by
  cases result with
  | error fault => exact yields_error fault
  | ok b => exact h b rfl

theorem Yields.then {Q : β → Prop} {result : Except Fault (β × List Char)}
    {next : β × List Char → Except Fault (α × List Char)} (h : Yields Q result)
    (hnext : ∀ b rest, Q b → Yields P (next (b, rest))) : Yields P (result >>= next) :=
  yields_bind fun read heq => hnext read.1 read.2 (h read.1 read.2 heq)

theorem yields_reject (wanted : String) (cs : List Char) : Yields P (reject wanted cs) := by
  rw [reject.eq_def]
  repeat' split
  all_goals
    first
      | exact yields_error _
      | exact yields_bind fun _ _ => yields_error _

end Yields

section Numbers

variable {negative : Bool} {significand : Nat} {exponent : Int} {cs : List Char}

theorem yields_floatNumber :
    Yields Number.Proper (floatNumber negative significand exponent cs) := by
  rw [floatNumber]
  split
  · rename_i size hsize
    exact yields_ok (.float negative (Decimal.Binary.normal_ofScientific hsize))
  · exact yields_error _

theorem yields_wholeNumber : Yields Number.Proper (wholeNumber negative significand cs) := by
  rw [wholeNumber]
  split
  · exact yields_ok (.integer _)
  split
  · exact yields_floatNumber
  · exact yields_ok (.integer _)

theorem yields_scanExponent :
    Yields Number.Proper (scanExponent negative significand exponent cs) := by
  rw [scanExponent.eq_def]
  split
  split
  · exact yields_error _
  split
  · exact yields_floatNumber
  · exact yields_error _

theorem yields_scanExponentOrEnd :
    Yields Number.Proper (scanExponentOrEnd negative significand exponent cs) := by
  rw [scanExponentOrEnd.eq_def]
  split
  · split
    · exact yields_scanExponent
    · exact yields_floatNumber
  · exact yields_floatNumber

theorem yields_scanFraction :
    Yields Number.Proper (scanFraction negative significand exponent cs) := by
  rw [scanFraction]
  simp only
  split
  · exact yields_scanExponentOrEnd
  split
  · split <;> exact yields_error _
  · exact yields_scanExponentOrEnd

theorem yields_scanAfterWhole :
    Yields Number.Proper (scanAfterWhole negative significand cs) := by
  rw [scanAfterWhole.eq_def]
  split
  · exact yields_scanFraction
  · split
    · exact yields_scanExponent
    · exact yields_wholeNumber
  · exact yields_wholeNumber

theorem yields_scanAfterLong {dropped : Nat} :
    Yields Number.Proper (scanAfterLong negative significand dropped cs) := by
  rw [scanAfterLong.eq_def]
  split
  · exact yields_scanFraction
  · exact yields_scanExponentOrEnd

theorem yields_scanNumber : Yields Number.Proper (scanNumber negative cs) := by
  rw [scanNumber.eq_def]
  split
  · exact yields_error _
  split
  · split
    · exact yields_error _
    · exact yields_scanAfterWhole
  split
  · simp only
    split
    · exact yields_scanAfterLong
    · exact yields_scanAfterWhole
  · exact yields_error _

end Numbers

section Lists

variable {α : Type} {P : α → Prop} {item : List Char → Except Fault (α × List Char)}

theorem yields_items (hitem : ∀ cs, Yields P (item cs)) (first : Bool) (fuel cs : List Char) :
    Yields (∀ a ∈ ·, P a) (items item first fuel cs) := by
  induction fuel generalizing first cs with
  | nil => exact yields_error _
  | cons _ fuel ih =>
    rw [items]
    refine yields_bind ?_
    rintro ⟨more, cs⟩ -
    simp only
    split
    · refine (hitem cs).then fun a cs ha => ?_
      refine (ih false cs).then fun as cs has => ?_
      exact yields_ok (List.forall_mem_cons.mpr ⟨ha, has⟩)
    · exact yields_bind fun rest _ => yields_ok (List.forall_mem_nil _)

theorem mem_insertField {name : String} {a : α} {fields : List (String × α)} :
    ∀ field ∈ insertField name a fields, field = (name, a) ∨ field ∈ fields := by
  induction fields with
  | nil => simp [insertField]
  | cons known fields ih =>
    intro field hfield
    rw [insertField] at hfield
    split at hfield
    · simpa using hfield
    split at hfield
    · rcases List.mem_cons.mp hfield with rfl | hfield
      · exact .inl rfl
      · exact .inr (List.mem_cons_of_mem _ hfield)
    · rcases List.mem_cons.mp hfield with rfl | hfield
      · exact .inr List.mem_cons_self
      · exact (ih field hfield).imp_right (List.mem_cons_of_mem _)

theorem yields_entries (hitem : ∀ cs, Yields P (item cs)) (first : Bool) (fuel : List Char)
    {known : List (String × α)} (hknown : ∀ field ∈ known, P field.2) (cs : List Char) :
    Yields (∀ field ∈ ·, P (Prod.snd field)) (entries item first fuel known cs) := by
  induction fuel generalizing first known cs with
  | nil => exact yields_error _
  | cons _ fuel ih =>
    rw [entries]
    refine yields_bind ?_
    rintro ⟨key, cs⟩ -
    cases key with
    | none => exact yields_ok hknown
    | some key =>
      refine yields_bind fun cs _ => (hitem cs).then fun a cs ha => ih false ?_ cs
      intro field hfield
      rcases mem_insertField field hfield with rfl | hfield
      · exact ha
      · exact hknown field hfield

theorem yields_list {reader : Reader α} (h : ∀ depth cs, Yields P (reader depth cs)) (depth : Nat)
    (cs : List Char) : Yields (∀ a ∈ ·, P a) (list reader depth cs) := by
  rw [list.eq_def]
  split
  · exact yields_error _
  · exact yields_items (h _) true _ _
  · exact yields_reject _ _

end Lists

theorem yields_value (depth : Nat) (cs : List Char) : Yields Value.Proper (value depth cs) := by
  induction depth using Nat.strongRecOn generalizing cs with
  | ind depth ih =>
    rw [value.eq_def]
    split
    case h_1 => exact yields_error _
    case h_2 => exact yields_bind fun _ _ => yields_ok .null
    case h_3 => exact yields_bind fun _ _ => yields_ok (.bool true)
    case h_4 => exact yields_bind fun _ _ => yields_ok (.bool false)
    case h_5 => exact yields_bind fun read _ => yields_ok (.string read.1)
    case h_6 => exact yields_scanNumber.then fun n cs hn => yields_ok (.number hn)
    case h_7 =>
      split
      · exact yields_error _
      · rename_i depth
        exact (yields_items (ih depth (Nat.lt_succ_self depth)) true _ _).then
          fun items cs hitems => yields_ok (.array hitems)
    case h_8 =>
      split
      · exact yields_error _
      · rename_i depth
        have hvalue := ih depth (Nat.lt_succ_self depth)
        exact (yields_entries hvalue true _ (List.forall_mem_nil _) _).then
          fun fields cs hfields => yields_ok (.object hfields)
    case h_9 =>
      split
      · exact yields_scanNumber.then fun n cs hn => yields_ok (.number hn)
      · exact yields_error _

section Structures

variable {δ α : Type} {shape : Shape δ α} {I : δ → Prop} {P : α → Prop}

def Field.Keeps (I : δ → Prop) (field : Field δ) : Prop :=
  ∀ draft depth cs, I draft → Yields I (field.read draft depth cs)

theorem keeps_slot {β : Type} {Q : β → Prop} {reader : Reader β}
    (hreader : ∀ depth cs, Yields Q (reader depth cs)) (name : String) (get : δ → Option β)
    {set : δ → β → δ} (hset : ∀ draft b, I draft → Q b → I (set draft b)) (optional : Bool) :
    (Field.slot name reader get set optional).Keeps I :=
  fun draft depth cs hdraft =>
    (hreader depth cs).then fun b _ hb => yields_ok (hset draft b hdraft hb)

section Reading

variable (hfields : ∀ field ∈ shape.fields, field.Keeps I)
include hfields

theorem yields_objectFields (depth : Nat) (first : Bool) (fuel : List Char) {draft : δ}
    (hdraft : I draft) (cs : List Char) :
    Yields I (shape.objectFields depth first fuel draft cs) := by
  induction fuel generalizing first draft cs with
  | nil => exact yields_error _
  | cons _ fuel ih =>
    rw [Shape.objectFields]
    refine yields_bind ?_
    rintro ⟨key, cs⟩ -
    cases key with
    | none => exact yields_ok hdraft
    | some key =>
      simp only
      split
      · exact yields_bind fun _ _ => yields_bind fun cs _ => ih false hdraft cs
      · rename_i field hfind
        split
        · exact yields_error _
        · have hkeeps := hfields field (List.mem_of_find?_eq_some hfind)
          exact yields_bind fun cs _ => (hkeeps draft depth cs hdraft).then
            fun next cs hnext => ih false hnext cs

theorem yields_listFields (depth position : Nat) {draft : δ} (hdraft : I draft) (cs : List Char)
    {fields : List (Field δ)} (hsub : fields ⊆ shape.fields) :
    Yields I (shape.listFields depth fields position draft cs) := by
  induction fields generalizing position draft cs with
  | nil => exact yields_bind fun _ _ => yields_ok hdraft
  | cons field fields ih =>
    obtain ⟨hfield, hsub⟩ := List.cons_subset.mp hsub
    rw [Shape.listFields]
    refine yields_bind ?_
    rintro ⟨more, cs⟩ -
    simp only
    split
    · exact (hfields field hfield draft depth cs hdraft).then
        fun next cs hnext => ih (position + 1) hnext cs hsub
    split
    · exact ih (position + 1) hdraft cs hsub
    · exact yields_error _

theorem yields_shape (hblank : I shape.blank)
    (hfinish : ∀ draft a, I draft → shape.finish draft = .ok a → P a) (depth : Nat)
    (cs : List Char) : Yields P (shape.reader depth cs) := by
  rw [Shape.reader.eq_def]
  split
  · exact yields_error _
  · exact yields_error _
  · exact (yields_listFields hfields _ 0 hblank _ (List.Subset.refl _)).then
      fun draft _ hdraft => yields_bind fun a ha => yields_ok (hfinish draft a hdraft ha)
  · exact (yields_objectFields hfields _ true _ hblank _).then
      fun draft _ hdraft => yields_bind fun a ha => yields_ok (hfinish draft a hdraft ha)
  · exact yields_reject _ _

end Reading

end Structures

theorem of_required {α β : Type} {name : String} {given : Option α} {next : α → Except Fault β}
    {b : β} (h : (required name given >>= next) = .ok b) :
    ∃ a, given = some a ∧ next a = .ok b := by
  cases given with
  | none => cases h
  | some a => exact ⟨a, rfl, h⟩

theorem of_run {α : Type} {P : α → Prop} {reader : Reader α} {text : String} {a : α}
    (hreader : ∀ depth cs, Yields P (reader depth cs)) (h : reader.run text = .ok a) : P a := by
  rw [Reader.run] at h
  cases hread : reader depthLimit text.toList with
  | error fault =>
    rw [hread] at h
    cases h
  | ok result =>
    rw [hread] at h
    simp only [bind, Except.bind] at h
    split at h
    · cases h
      exact hreader _ _ _ _ hread
    · cases h

end Json

open Json (Yields yields_value yields_list yields_shape keeps_slot)

theorem FacetRow.yields (depth : Nat) (cs : List Char) :
    Yields (fun row => row.value.Proper) (FacetRow.shape.reader depth cs) := by
  have hfields : ∀ field ∈ FacetRow.shape.fields,
      field.Keeps fun draft => ∀ v ∈ draft.value, v.Proper := by
    refine List.forall_mem_cons.mpr ⟨keeps_slot yields_value _ _ ?_ _, ?_⟩
    · rintro draft v - hv _ ⟨rfl⟩
      exact hv
    · refine List.forall_mem_singleton.mpr (keeps_slot (Q := fun _ => True) ?_ _ _ ?_ _)
      · exact fun _ _ _ _ _ => trivial
      · exact fun draft _ hdraft _ => hdraft
  refine yields_shape hfields nofun ?_ depth cs
  intro draft row hdraft hrow
  obtain ⟨count, -, hrow⟩ := Json.of_required hrow
  cases hrow
  cases hvalue : draft.value with
  | none => exact .null
  | some v => exact hdraft v hvalue

theorem Page.yields {α : Type} {P : α → Prop} {row : Json.Reader α}
    (hrow : ∀ depth cs, Yields P (row depth cs)) (depth : Nat) (cs : List Char) :
    Yields (fun page => ∀ a ∈ page.rows, P a) ((Page.shape row).reader depth cs) := by
  have hfields : ∀ field ∈ (Page.shape row).fields,
      field.Keeps fun draft => ∀ rows ∈ draft.rows, ∀ a ∈ rows, P a := by
    refine List.forall_mem_cons.mpr ⟨keeps_slot (Q := fun _ => True) ?_ _ _ ?_ _, ?_⟩
    · exact fun _ _ _ _ _ => trivial
    · exact fun draft _ hdraft _ => hdraft
    · refine List.forall_mem_singleton.mpr (keeps_slot (yields_list hrow) _ _ ?_ _)
      rintro draft rows - hrows _ ⟨rfl⟩
      exact hrows
  refine yields_shape hfields nofun ?_ depth cs
  intro draft page hdraft hpage
  obtain ⟨count, -, hpage⟩ := Json.of_required hpage
  cases hpage
  cases hrows : draft.rows with
  | none => exact List.forall_mem_nil _
  | some rows => exact hdraft rows hrows

end FacetBrowser
