import FacetBrowser.Proofs.NumberText
import FacetBrowser.Proofs.Written

namespace FacetBrowser.Json

open Text (ne_of_isDigit)

variable {r s : List Char}

def Ends {α : Type} (text : α → List Char) (a b : α) : Prop :=
  ∀ r s, Closes r → Closes s → text a ++ r = text b ++ s → a = b ∧ r = s

section Numbers

def isClosing (c : Char) : Bool := c = ',' || c = ']' || c = '\x7d'

theorem isClosing_of_isDigit {c : Char} (h : c.isDigit = true) : isClosing c = false := by
  refine Bool.eq_false_iff.mpr fun hclosing => ?_
  have hc : (c = ',' ∨ c = ']') ∨ c = '\x7d' := by simpa [isClosing] using hclosing
  rcases hc with (rfl | rfl) | rfl <;> cases h

theorem takeWhile_closes (h : Closes r) : r.takeWhile (!isClosing ·) = [] := by
  cases h <;> rfl

theorem append_closes_inj {text text' : List Char} (h : ∀ c ∈ text, isClosing c = false)
    (h' : ∀ c ∈ text', isClosing c = false) (hr : Closes r) (hs : Closes s)
    (heq : text ++ r = text' ++ s) : text = text' ∧ r = s := by
  have hnot {cs : List Char} (h : ∀ c ∈ cs, isClosing c = false) :
      ∀ c ∈ cs, (!isClosing c) = true :=
    fun c hc => by rw [h c hc]; rfl
  have htake := congrArg (List.takeWhile (!isClosing ·)) heq
  rw [List.takeWhile_append_of_pos (hnot h), List.takeWhile_append_of_pos (hnot h'),
    takeWhile_closes hr, takeWhile_closes hs, List.append_nil, List.append_nil] at htake
  subst htake
  exact ⟨rfl, List.append_cancel_left heq⟩

theorem Significand.not_closing {text : List Char} {x : ℚ} (h : Significand text x) :
    ∀ c ∈ text, isClosing c = false := by
  cases h with
  | whole h => exact fun c hc => isClosing_of_isDigit (h.isDigit c hc)
  | point h hf _ =>
    refine List.forall_mem_append.mpr ⟨fun c hc => isClosing_of_isDigit (h.isDigit c hc), ?_⟩
    exact List.forall_mem_cons.mpr ⟨rfl, fun c hc => isClosing_of_isDigit (hf c hc)⟩

theorem FloatForm.not_closing {text : List Char} {x : ℚ} (h : FloatForm text x) :
    ∀ c ∈ text, isClosing c = false := by
  cases h with
  | fixed h _ => exact h.not_closing
  | scaled power h =>
    refine List.forall_mem_append.mpr ⟨h.not_closing, List.forall_mem_cons.mpr ⟨rfl, ?_⟩⟩
    refine List.forall_mem_cons.mpr ⟨by split <;> rfl, fun c hc => ?_⟩
    exact isClosing_of_isDigit (Text.isDigit_toDigits _ c hc)

theorem Number.not_closing {n : Number} (hn : n.Proper) : ∀ c ∈ n.text, isClosing c = false := by
  have hsign : ∀ c ∈ if n.isMinus then ['-'] else [], isClosing c = false := by
    split
    · exact List.forall_mem_singleton.mpr rfl
    · exact List.forall_mem_nil _
  rw [text_eq]
  refine List.forall_mem_append.mpr ⟨hsign, ?_⟩
  cases hn with
  | integer value => exact fun c hc => isClosing_of_isDigit (Text.isDigit_toDigits _ c hc)
  | float negative h => exact (form_floatText h).not_closing

theorem ends_number {m n : Number} (hm : m.Proper) (hn : n.Proper) : Ends Number.text m n := by
  intro r s hr hs h
  obtain ⟨htext, hrest⟩ := append_closes_inj (Number.not_closing hm) (Number.not_closing hn) hr hs h
  exact ⟨Number.text_injective hm hn htext, hrest⟩

end Numbers

theorem stringText_append_inj {a b : String} (h : stringText a ++ r = stringText b ++ s) :
    a = b ∧ r = s := by
  rw [stringText_append, stringText_append] at h
  have hread := scanString_escaped a r
  rw [(List.cons.inj h).2, scanString_escaped] at hread
  exact (Prod.mk.inj (Except.ok.inj hread)).imp Eq.symm Eq.symm

section Lists

variable {α : Type} {text : α → List Char} {c : Char}

theorem following_ne (hc : c = ']' ∨ c = '\x7d') (first : Bool) {a : α}
    (ha : ∃ d cs, text a = d :: cs ∧ d ≠ c) (as : List α) (rest : List Char) :
    following first ((a :: as).map text) ++ rest ≠ c :: s := by
  obtain ⟨d, cs, htext, hd⟩ := ha
  rw [List.map_cons, following, htext]
  cases first with
  | true => exact fun h => hd (List.cons.inj h).1
  | false =>
    intro h
    have hcomma : ',' = c := (List.cons.inj h).1
    rcases hc with rfl | rfl <;> cases hcomma

theorem following_append_inj (hc : c = ']' ∨ c = '\x7d') {as bs : List α}
    (has : ∀ a ∈ as, ∃ d cs, text a = d :: cs ∧ d ≠ c)
    (hbs : ∀ b ∈ bs, ∃ d cs, text b = d :: cs ∧ d ≠ c)
    (hends : ∀ a ∈ as, ∀ b ∈ bs, Ends text a b) (first : Bool)
    (h : following first (as.map text) ++ c :: r = following first (bs.map text) ++ c :: s) :
    as = bs ∧ r = s := by
  induction as generalizing bs first with
  | nil =>
    cases bs with
    | nil => exact ⟨rfl, (List.cons.inj h).2⟩
    | cons b bs => exact absurd h.symm (following_ne hc first (hbs b List.mem_cons_self) bs _)
  | cons a as ih =>
    cases bs with
    | nil => exact absurd h (following_ne hc first (has a List.mem_cons_self) as _)
    | cons b bs =>
      obtain ⟨-, has⟩ := List.forall_mem_cons.mp has
      obtain ⟨-, hbs⟩ := List.forall_mem_cons.mp hbs
      obtain ⟨hhead, hmore⟩ := List.forall_mem_cons.mp hends
      simp only [List.map_cons, following, List.append_assoc] at h
      obtain ⟨hab, htail⟩ := hhead b List.mem_cons_self _ _ (closes_following _ hc r)
        (closes_following _ hc s) (List.append_cancel_left h)
      obtain ⟨habs, hrest⟩ :=
        ih has hbs (fun x hx y hy => hmore x hx y (List.mem_cons_of_mem _ hy)) false htail
      exact ⟨congrArg₂ List.cons hab habs, hrest⟩

end Lists

namespace Value

inductive Proper : Value → Prop
  | null : Proper .null
  | bool (value : Bool) : Proper (.bool value)
  | number {value : Number} : value.Proper → Proper (.number value)
  | string (value : String) : Proper (.string value)
  | array {items : List Value} : (∀ item ∈ items, item.Proper) → Proper (.array items)
  | object {fields : List (String × Value)} :
      (∀ field ∈ fields, field.2.Proper) → Proper (.object fields)

def start : Value → Char
  | .null => 'n'
  | .bool _ => 't'
  | .number _ => '0'
  | .string _ => '"'
  | .array _ => '['
  | .object _ => '\x7b'

def kindOf (c : Char) : Char :=
  if c.isDigit || c = '-' then '0' else if c = 'f' then 't' else c

variable {v w : Value}

theorem exists_start (hv : v.Proper) : ∃ c cs, v.compact = c :: cs ∧ kindOf c = v.start := by
  cases hv with
  | null => exact ⟨_, _, rfl, rfl⟩
  | bool value => cases value <;> exact ⟨_, _, rfl, rfl⟩
  | @number n hn =>
    obtain ⟨c, cs, hc, hdigit⟩ := Number.unsigned_head hn
    rw [compact, Number.text_eq, hc]
    cases n.isMinus with
    | true => exact ⟨_, _, rfl, rfl⟩
    | false => exact ⟨c, cs, rfl, by simp [kindOf, start, hdigit]⟩
  | string value => exact ⟨_, _, by rw [compact, stringText]; rfl, rfl⟩
  | array _ => exact ⟨_, _, by rw [compact]; rfl, rfl⟩
  | object _ => exact ⟨_, _, by rw [compact]; rfl, rfl⟩

theorem start_eq (hv : v.Proper) (hw : w.Proper) (h : v.compact ++ r = w.compact ++ s) :
    v.start = w.start := by
  obtain ⟨c, cs, hc, hkind⟩ := exists_start hv
  obtain ⟨d, ds, hd, hkind'⟩ := exists_start hw
  rw [hc, hd] at h
  rw [← hkind, ← hkind', (List.cons.inj h).1]

theorem start_ne (v : Value) : v.start ≠ ']' ∧ v.start ≠ '\x7d' := by
  cases v <;> simp [start]

theorem exists_head (hv : v.Proper) {c : Char} (hc : c = ']' ∨ c = '\x7d') :
    ∃ d cs, v.compact = d :: cs ∧ d ≠ c := by
  obtain ⟨d, cs, hd, hkind⟩ := exists_start hv
  refine ⟨d, cs, hd, ?_⟩
  rintro rfl
  rcases hc with rfl | rfl
  · exact v.start_ne.1 hkind.symm
  · exact v.start_ne.2 hkind.symm

theorem ends_bool (a b : Bool) : Ends compact (.bool a) (.bool b) := by
  intro r s _ _ h
  cases a <;> cases b
  · exact ⟨rfl, List.append_cancel_left h⟩
  · cases (List.cons.inj h).1
  · cases (List.cons.inj h).1
  · exact ⟨rfl, List.append_cancel_left h⟩

theorem ends_array {items others : List Value} (hitems : ∀ item ∈ items, item.Proper)
    (hothers : ∀ item ∈ others, item.Proper)
    (h : ∀ a ∈ items, ∀ b ∈ others, Ends compact a b) :
    Ends compact (.array items) (.array others) := by
  intro r s _ _ heq
  simp only [compact, compactItems_eq, List.cons_append, List.append_assoc] at heq
  obtain ⟨hlist, hrest⟩ := following_append_inj (.inl rfl)
    (fun a ha => exists_head (hitems a ha) (.inl rfl))
    (fun b hb => exists_head (hothers b hb) (.inl rfl)) h true (List.cons.inj heq).2
  exact ⟨congrArg array hlist, hrest⟩

theorem ends_field {a b : String × Value} (h : Ends compact a.2 b.2) : Ends fieldText a b := by
  intro r s hr hs heq
  simp only [fieldText, List.append_assoc] at heq
  obtain ⟨hname, hvalue⟩ := stringText_append_inj heq
  obtain ⟨hvalue, hrest⟩ := h r s hr hs (List.cons.inj hvalue).2
  exact ⟨Prod.ext hname hvalue, hrest⟩

theorem ends_object {fields others : List (String × Value)}
    (h : ∀ a ∈ fields, ∀ b ∈ others, Ends compact a.2 b.2) :
    Ends compact (.object fields) (.object others) := by
  have hhead (field : String × Value) : ∃ d cs, fieldText field = d :: cs ∧ d ≠ '\x7d' :=
    ⟨'"', _, rfl, by decide⟩
  intro r s _ _ heq
  simp only [compact, compactFields_eq, List.cons_append, List.append_assoc] at heq
  obtain ⟨hlist, hrest⟩ := following_append_inj (.inr rfl) (fun a _ => hhead a)
    (fun b _ => hhead b) (fun a ha b hb => ends_field (h a ha b hb)) true (List.cons.inj heq).2
  exact ⟨congrArg object hlist, hrest⟩

-- induction on the first of two values; their first characters rule out values of two kinds
theorem ends (hv : v.Proper) (hw : w.Proper) : Ends compact v w := by
  intro r s hr hs h
  have hstart := start_eq hv hw h
  induction hv generalizing w r s with
  | null =>
    cases hw with
    | null => exact ⟨rfl, List.append_cancel_left h⟩
    | _ => cases hstart
  | bool value =>
    cases hw with
    | bool other => exact ends_bool value other r s hr hs h
    | _ => cases hstart
  | number hm =>
    cases hw with
    | number hn => exact (ends_number hm hn r s hr hs h).imp_left (congrArg number)
    | _ => cases hstart
  | string value =>
    cases hw with
    | string other => exact (stringText_append_inj h).imp_left (congrArg string)
    | _ => cases hstart
  | array hitems ih =>
    cases hw with
    | array hothers =>
      refine ends_array hitems hothers (fun a ha b hb r s hr hs h => ?_) r s hr hs h
      exact ih a ha (hothers b hb) r s hr hs h (start_eq (hitems a ha) (hothers b hb) h)
    | _ => cases hstart
  | object hfields ih =>
    cases hw with
    | object hothers =>
      refine ends_object (fun a ha b hb r s hr hs h => ?_) r s hr hs h
      exact ih a ha (hothers b hb) r s hr hs h (start_eq (hfields a ha) (hothers b hb) h)
    | _ => cases hstart

theorem compact_injective (hv : v.Proper) (hw : w.Proper) (h : v.compact = w.compact) : v = w :=
  (ends hv hw [] [] .text .text (congrArg (· ++ []) h)).1

end Value

end FacetBrowser.Json
