import FacetBrowser.Proofs.Numerals
import FacetBrowser.Remote.WireFormat
import Mathlib.Data.List.TakeWhile

namespace FacetBrowser

namespace Text

structure Trims (raw core : String) : Prop where
  padded : ∃ before after, raw.toList = before ++ core.toList ++ after ∧
    (∀ c ∈ before, isBlank c = true) ∧ ∀ c ∈ after, isBlank c = true
  starts : ∀ c ∈ core.toList.head?, isBlank c = false
  ends : ∀ c ∈ core.toList.getLast?, isBlank c = false

theorem dropWhile_of_head? {p : Char → Bool} {cs : List Char}
    (h : ∀ c ∈ cs.head?, p c = false) : cs.dropWhile p = cs := by
  cases cs with
  | nil => rfl
  | cons c cs => exact List.dropWhile_cons_of_neg (Bool.eq_false_iff.mp (h c rfl))

theorem head?_dropWhile (p : Char → Bool) (cs : List Char) :
    ∀ c ∈ (cs.dropWhile p).head?, p c = false := by
  intro c hc
  have h := List.head?_dropWhile_not p cs
  rw [Option.mem_def.mp hc] at h
  exact h

theorem trimStart_append (core : List Char) {before : List Char}
    (h : ∀ c ∈ before, isBlank c = true) : trimStart (before ++ core) = trimStart core :=
  List.dropWhile_append_of_pos h

theorem trimEnd_append (core : List Char) {after : List Char}
    (h : ∀ c ∈ after, isBlank c = true) : trimEnd (core ++ after) = trimEnd core := by
  rw [trimEnd, List.reverse_append,
    List.dropWhile_append_of_pos fun c hc => h c (List.mem_reverse.mp hc), trimEnd]

theorem Trims.eq {raw core : String} (h : Trims raw core) : core = trim raw := by
  obtain ⟨before, after, hraw, hbefore, hafter⟩ := h.padded
  have hend : trimEnd core.toList = core.toList := by
    rw [trimEnd, dropWhile_of_head? (by rw [List.head?_reverse]; exact h.ends),
      List.reverse_reverse]
  rw [trim, hraw, List.append_assoc, trimStart_append _ hbefore]
  cases hcore : core.toList with
  | nil =>
    rw [List.nil_append, trimStart, List.dropWhile_eq_nil_iff.mpr hafter]
    exact String.toList_inj.mp hcore
  | cons c cs =>
    rw [hcore] at hend
    rw [trimStart, List.cons_append, List.dropWhile_cons_of_neg, ← List.cons_append,
      trimEnd_append _ hafter, hend, ← hcore, String.ofList_toList]
    exact Bool.eq_false_iff.mp (h.starts c (by rw [hcore]; rfl))

theorem trims_trim (raw : String) : Trims raw (trim raw) := by
  have hlist : (trim raw).toList = trimEnd (trimStart raw.toList) := String.toList_ofList
  have hsplit : trimStart raw.toList = trimEnd (trimStart raw.toList) ++
      ((trimStart raw.toList).reverse.takeWhile isBlank).reverse := by
    rw [trimEnd, ← List.reverse_append, List.takeWhile_append_dropWhile, List.reverse_reverse]
  refine ⟨⟨raw.toList.takeWhile isBlank,
    ((trimStart raw.toList).reverse.takeWhile isBlank).reverse, ?_, ?_, ?_⟩, ?_, ?_⟩
  · rw [hlist, List.append_assoc, ← hsplit, trimStart, List.takeWhile_append_dropWhile]
  · exact fun c hc => List.mem_takeWhile_imp hc
  · exact fun c hc => List.mem_takeWhile_imp (List.mem_reverse.mp hc)
  · intro c hc
    rw [hlist] at hc
    refine head?_dropWhile isBlank raw.toList c ?_
    change c ∈ (trimStart raw.toList).head?
    rw [hsplit, List.head?_append, Option.mem_def.mp hc]
    rfl
  · intro c hc
    rw [hlist, trimEnd, List.getLast?_reverse] at hc
    exact head?_dropWhile isBlank _ c hc

theorem trims_iff {raw core : String} : Trims raw core ↔ core = trim raw :=
  ⟨Trims.eq, fun h => h ▸ trims_trim raw⟩

def NumberIn (raw : String) (n : UInt64) : Prop :=
  ∃ core, Trims raw core ∧ Numeral core n.toNat

theorem readNumeral_trim_iff {raw : String} {n : UInt64} :
    readNumeral (trim raw) = .ok n ↔ NumberIn raw n := by
  simp only [readNumeral_iff, NumberIn, trims_iff, exists_eq_left]

theorem NumberIn.unique {raw : String} {m n : UInt64} (hm : NumberIn raw m)
    (hn : NumberIn raw n) : m = n := by
  have h := (readNumeral_trim_iff.mpr hm).symm.trans (readNumeral_trim_iff.mpr hn)
  cases h
  rfl

theorem isAllBlank_eq_false (text : String) :
    isAllBlank text = false ↔ ∃ c ∈ text.toList, isBlank c = false := by
  rw [isAllBlank, List.all_eq_false]
  simp only [Bool.not_eq_true]

end Text

namespace WireFormat

def names : WireFormat → List String
  | .plainText => ["plain_text", "plain-text", "text"]
  | .json => ["json"]

def CalledIn (raw : String) (format : WireFormat) : Prop :=
  ∃ core, Text.Trims raw core ∧ Text.lower core ∈ format.names

theorem ofText_iff {raw : String} {format : WireFormat} :
    ofText raw = .ok format ↔ CalledIn raw format := by
  simp only [CalledIn, Text.trims_iff, exists_eq_left, ofText]
  generalize Text.lower (Text.trim raw) = plain
  constructor
  · intro h
    split at h
    · rename_i hplain
      cases h
      simpa [names] using hplain
    · split at h
      · rename_i hjson
        cases h
        exact List.mem_singleton.mpr hjson
      · cases h
  · intro h
    cases format with
    | plainText => exact if_pos (by simpa [names] using h)
    | json =>
      obtain rfl := List.mem_singleton.mp h
      rfl

theorem CalledIn.unique {raw : String} {f g : WireFormat} (hf : CalledIn raw f)
    (hg : CalledIn raw g) : f = g := by
  have h := (ofText_iff.mpr hf).symm.trans (ofText_iff.mpr hg)
  cases h
  rfl

end WireFormat
end FacetBrowser
