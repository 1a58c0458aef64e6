import FacetBrowser.Json.Reader
import FacetBrowser.Proofs.Numerals
import Mathlib.Tactic.SplitIfs

namespace FacetBrowser

namespace Json

open Text (exists_toDigits ne_of_isDigit)

def Reader.Reads {α : Type} (reader : Reader α) (depth : Nat) (text : List Char) (a : α) : Prop :=
  ∀ rest, Closes rest → reader depth (text ++ rest) = .ok (a, rest)

theorem skipBlanks_cons {c : Char} (h : isBlank c = false) (cs : List Char) :
    skipBlanks (c :: cs) = c :: cs :=
  List.dropWhile_cons_of_neg (by simp [h])

section Strings

def codeText (n : Nat) : List Char :=
  if n < 16 then ['0', '0', '0'] ++ Text.hex n else ['0', '0'] ++ Text.hex n

theorem codeText_read : ∀ n < 32, (codeText n).length = 4 ∧ Text.byteCount (codeText n) = 4 ∧
    Text.numberIn? 16 (codeText n) = some n := by
  decide

theorem scanHex_codeText {n : Nat} (hn : n < 32) (rest : List Char) :
    scanHex (codeText n ++ rest) = .ok (n, rest) := by
  obtain ⟨hlength, hbytes, hread⟩ := codeText_read n hn
  generalize codeText n = code at *
  match code, hlength with
  | [a, b, c, d], _ => simp [scanHex, hbytes, hread]

theorem scanUnicode_codeText {c : Char} (hc : c.toNat < 32) (rest : List Char) :
    scanUnicode (codeText c.toNat ++ rest) = .ok (c, rest) := by
  have hleading : isLeading c.toNat = false := by simp [isLeading]; omega
  have htrailing : isTrailing c.toNat = false := by simp [isTrailing]; omega
  simp [scanUnicode, scanHex_codeText hc, bind, Except.bind, hleading, htrailing]

theorem escaped_cases (c : Char) :
    (∃ e, escaped c = ['\\', e] ∧ e ≠ 'u' ∧ simpleEscape? e = some c) ∨
      (escaped c = '\\' :: 'u' :: codeText c.toNat ∧ c.toNat < 32) ∨
      (escaped c = [c] ∧ c ≠ '"' ∧ c ≠ '\\' ∧ ¬c.toNat < 32) := by
  generalize htext : escaped c = text
  rw [escaped] at htext
  split_ifs at htext with hself hb hf hn hr ht hlow hcontrol <;> subst htext
  · have hc : c = '"' ∨ c = '\\' := by simpa using hself
    rcases hc with rfl | rfl <;> exact Or.inl ⟨_, rfl, by decide, rfl⟩
  · exact Or.inl ⟨'b', rfl, by decide, hb ▸ rfl⟩
  · exact Or.inl ⟨'f', rfl, by decide, hf ▸ rfl⟩
  · exact Or.inl ⟨'n', rfl, by decide, hn ▸ rfl⟩
  · exact Or.inl ⟨'r', rfl, by decide, hr ▸ rfl⟩
  · exact Or.inl ⟨'t', rfl, by decide, ht ▸ rfl⟩
  · refine Or.inr (Or.inl ⟨?_, by omega⟩)
    rw [codeText, if_pos hlow]
    rfl
  · refine Or.inr (Or.inl ⟨?_, hcontrol⟩)
    rw [codeText, if_neg hlow]
    rfl
  · have hc : ¬c = '"' ∧ ¬c = '\\' := by simpa using hself
    exact Or.inr (Or.inr ⟨rfl, hc.1, hc.2, hcontrol⟩)

theorem scanEscape_simple {e c : Char} (hu : e ≠ 'u') (h : simpleEscape? e = some c)
    (rest : List Char) : scanEscape (e :: rest) = .ok (c, rest) := by
  rw [scanEscape, h]
  exact hu

theorem scanStringBody_escaped {c : Char} (x : Char) {fuel text body rest : List Char}
    (h : scanStringBody fuel text = .ok (body, rest)) :
    scanStringBody (x :: fuel) (escaped c ++ text) = .ok (c :: body, rest) := by
  rcases escaped_cases c with ⟨e, he, hu, hc⟩ | ⟨he, hc⟩ | ⟨he, hquote, hslash, hc⟩
  · simp [he, scanStringBody, scanEscape_simple hu hc, h, bind, Except.bind]
  · simp [he, scanStringBody, scanEscape, scanUnicode_codeText hc, h, bind, Except.bind]
  · simp [he, scanStringBody, hquote, hslash, hc, h, bind, Except.bind]

theorem scanStringBody_flatMap (text fuel rest : List Char) (hfuel : text.length < fuel.length) :
    scanStringBody fuel (text.flatMap escaped ++ '"' :: rest) = .ok (text, rest) := by
  induction text generalizing fuel with
  | nil =>
    obtain ⟨x, fuel, rfl⟩ := List.exists_cons_of_length_pos hfuel
    rfl
  | cons c text ih =>
    obtain ⟨x, fuel, rfl⟩ := List.exists_cons_of_length_pos (Nat.zero_lt_of_lt hfuel)
    rw [List.flatMap_cons, List.append_assoc]
    exact scanStringBody_escaped x (ih fuel (Nat.lt_of_succ_lt_succ hfuel))

theorem length_le_flatMap_escaped (text : List Char) :
    text.length ≤ (text.flatMap escaped).length := by
  induction text with
  | nil => exact Nat.le_refl _
  | cons c text ih =>
    have hc : 0 < (escaped c).length := by
      rcases escaped_cases c with ⟨_, h, -⟩ | ⟨h, -⟩ | ⟨h, -⟩ <;> simp [h]
    rw [List.flatMap_cons, List.length_append, List.length_cons]
    omega

theorem scanString_escaped (s : String) (rest : List Char) :
    scanString (s.toList.flatMap escaped ++ '"' :: rest) = .ok (s, rest) := by
  have hfuel := length_le_flatMap_escaped s.toList
  have hbody := scanStringBody_flatMap s.toList (s.toList.flatMap escaped ++ '"' :: rest) rest
    (by rw [List.length_append, List.length_cons]; omega)
  simp [scanString, hbody, bind, Except.bind]

theorem stringText_append (s : String) (rest : List Char) :
    stringText s ++ rest = '"' :: (s.toList.flatMap escaped ++ '"' :: rest) := by
  simp [stringText]

theorem reads_string (s : String) (depth : Nat) :
    string.Reads depth (Value.string s).compact s := by
  intro rest _
  rw [Value.compact, stringText_append]
  exact scanString_escaped s rest

theorem reads_value_string (s : String) (depth : Nat) :
    value.Reads depth (Value.string s).compact (.string s) := by
  intro rest _
  rw [Value.compact, stringText_append, value, skipBlanks_cons rfl]
  simp [scanString_escaped, bind, Except.bind]

end Strings

theorem compact_ofNat (n : Nat) : (Value.ofNat n).compact = Nat.toDigits 10 n := by
  simp [Value.ofNat, Value.compact, Number.text, integerText]

theorem reads_count (n : UInt64) (depth : Nat) :
    count.Reads depth (Value.ofNat n.toNat).compact n := by
  intro rest h
  rw [compact_ofNat]
  obtain ⟨c, cs, hcs, hc⟩ := exists_toDigits n.toNat
  have hminus : c ≠ '-' := ne_of_isDigit hc rfl
  have hscan := scanNumber_toDigits n.toNat_lt h
  rw [hcs, List.cons_append] at hscan ⊢
  rw [count, skipBlanks_cons (isBlank_of_isDigit hc)]
  simp [hc, hscan, bind, Except.bind, countOf]

def Opens (text : List Char) : Prop :=
  ∃ c cs, text = c :: cs ∧ isBlank c = false ∧ c ≠ ']'

theorem opens_object (fields : List (String × Value)) : Opens (Value.object fields).compact :=
  ⟨'\x7b', _, by rw [Value.compact]; rfl, rfl, by decide⟩

def following : Bool → List (List Char) → List Char
  | _, [] => []
  | first, text :: texts => (if first then [] else [',']) ++ text ++ following false texts

def fieldText (field : String × Value) : List Char :=
  stringText field.1 ++ ':' :: field.2.compact

theorem compactItems_eq (items : List Value) :
    compactItems items = following true (items.map Value.compact) := by
  induction items with
  | nil => rfl
  | cons item items ih =>
    cases items with
    | nil => simp [compactItems, following]
    | cons next items => simpa [compactItems, following] using ih

theorem compactFields_eq (fields : List (String × Value)) :
    compactFields fields = following true (fields.map fieldText) := by
  induction fields with
  | nil => rfl
  | cons field fields ih =>
    cases fields with
    | nil => simp [compactFields, following, fieldText]
    | cons next fields => simpa [compactFields, following, fieldText] using ih

theorem closes_following (texts : List (List Char)) {c : Char} (hc : c = ']' ∨ c = '\x7d')
    (rest : List Char) : Closes (following false texts ++ c :: rest) := by
  cases texts with
  | nil => rcases hc with rfl | rfl <;> constructor
  | cons text texts => exact .item _

section Lists

variable {α : Type} {as : List α}

theorem nextItem_opens {text : List Char} (h : Opens text) (first : Bool) (rest : List Char) :
    nextItem first ((if first then [] else [',']) ++ text ++ rest) = .ok (true, text ++ rest) := by
  obtain ⟨c, cs, rfl, hblank, hclose⟩ := h
  cases first with
  | true => simp [nextItem, skipBlanks_cons hblank]
  | false => simp [nextItem, skipBlanks_cons (c := ',') rfl, skipBlanks_cons hblank, hclose]

-- each turn of a reader takes a character of the fuel, and here reads one item or one field
theorem items_following {item : List Char → Except Fault (α × List Char)}
    {text : α → List Char} (hopens : ∀ a ∈ as, Opens (text a))
    (hitem : ∀ a ∈ as, ∀ rest, Closes rest → item (text a ++ rest) = .ok (a, rest))
    (first : Bool) {fuel : List Char} (hfuel : as.length < fuel.length) (rest : List Char) :
    items item first fuel (following first (as.map text) ++ ']' :: rest) = .ok (as, rest) := by
  induction as generalizing first fuel with
  | nil =>
    obtain ⟨x, fuel, rfl⟩ := List.exists_cons_of_length_pos hfuel
    cases first <;> rfl
  | cons a as ih =>
    obtain ⟨x, fuel, rfl⟩ := List.exists_cons_of_length_pos (Nat.zero_lt_of_lt hfuel)
    obtain ⟨ha, has⟩ := List.forall_mem_cons.mp hopens
    obtain ⟨hread, hreads⟩ := List.forall_mem_cons.mp hitem
    have htail := ih has hreads false (Nat.lt_of_succ_lt_succ hfuel)
    have hclose := closes_following (as.map text) (Or.inl rfl) rest
    simp only [List.map_cons, following, items]
    rw [List.append_assoc, nextItem_opens ha]
    simp [hread _ hclose, htail, bind, Except.bind]

theorem length_le_following {texts : List (List Char)} (h : ∀ text ∈ texts, text ≠ [])
    (first : Bool) : texts.length ≤ (following first texts).length := by
  induction texts generalizing first with
  | nil => exact Nat.le_refl _
  | cons text texts ih =>
    obtain ⟨hne, hnes⟩ := List.forall_mem_cons.mp h
    have htext := List.length_pos_iff.mpr hne
    have htexts := ih hnes false
    rw [following, List.length_append, List.length_append, List.length_cons]
    omega

theorem reads_list {reader : Reader α} {depth : Nat} {write : α → Value}
    (hopens : ∀ a ∈ as, Opens (write a).compact)
    (hread : ∀ a ∈ as, reader.Reads depth (write a).compact a) :
    (list reader).Reads (depth + 1) (Value.array (as.map write)).compact as := by
  intro rest _
  have htexts : ∀ text ∈ as.map (Value.compact ∘ write), text ≠ [] := by
    intro text htext
    obtain ⟨a, ha, rfl⟩ := List.mem_map.mp htext
    obtain ⟨c, cs, h, -⟩ := hopens a ha
    exact List.ne_nil_of_length_eq_add_one (congrArg List.length h)
  have hlength := length_le_following htexts true
  rw [List.length_map] at hlength
  rw [Value.compact, compactItems_eq, List.map_map]
  simp only [List.cons_append, List.append_assoc, List.nil_append, list,
    skipBlanks_cons (c := '[') rfl]
  refine items_following hopens hread true ?_ rest
  rw [List.length_append, List.length_cons]
  omega

end Lists

theorem nextKey_following (first : Bool) (name : String) (v : Value) (texts : List (List Char))
    (rest : List Char) :
    nextKey first (following first (fieldText (name, v) :: texts) ++ rest) =
      .ok (some name, ':' :: (v.compact ++ (following false texts ++ rest))) := by
  rw [following, fieldText]
  simp only [List.append_assoc, stringText_append]
  cases first <;> simp [nextKey, skipBlanks_cons (c := ',') rfl, skipBlanks_cons (c := '"') rfl,
    scanString_escaped, bind, Except.bind]

theorem colon_cons (cs : List Char) : colon (':' :: cs) = .ok cs := rfl

theorem length_fields_lt (fields : List (String × Value)) (first : Bool) (rest : List Char) :
    fields.length < (following first (fields.map fieldText) ++ '\x7d' :: rest).length := by
  have htexts : ∀ text ∈ fields.map fieldText, text ≠ [] := by
    intro text htext
    obtain ⟨f, -, rfl⟩ := List.mem_map.mp htext
    simp [fieldText]
  have hlength := length_le_following htexts first
  rw [List.length_map] at hlength
  rw [List.length_append, List.length_cons]
  omega

def Skips (v : Value) : Prop :=
  ∀ rest, Closes rest → skipValue (v.compact ++ rest) = .ok rest

theorem skips_null : Skips .null := by
  intro rest _
  rfl

theorem skips_ofNat (n : Nat) : Skips (.ofNat n) := by
  intro rest h
  rw [compact_ofNat]
  have hskip := skipNumber_toDigits n h
  obtain ⟨c, cs, hcs, hc⟩ := exists_toDigits n
  rw [hcs, List.cons_append] at hskip ⊢
  rw [skipValue, skipWithin, skipBlanks_cons (isBlank_of_isDigit hc)]
  split
  case h_9 =>
    rename_i heq
    obtain ⟨rfl, rfl⟩ := List.cons.inj heq
    simp [hc, hskip, bind, Except.bind, skipAfter]
  all_goals
    rename_i heq
    cases heq <;> cases hc

section Structures

variable {δ α : Type} {shape : Shape δ α} {depth : Nat}

theorem reads_slot {β : Type} {reader : Reader β} {text : List Char} {b : β}
    (h : reader.Reads depth text b) (name : String) (get : δ → Option β) (set : δ → β → δ)
    (optional : Bool) (draft : δ) :
    ((Field.slot name reader get set optional).read draft).Reads depth text (set draft b) := by
  intro rest hrest
  simp [Field.slot, h rest hrest, bind, Except.bind]

inductive Shape.Gathers (shape : Shape δ α) (depth : Nat) : δ → List (String × Value) → δ → Prop
  | done (draft : δ) : Gathers shape depth draft [] draft
  | known {draft next last : δ} {name : String} {v : Value} {field : Field δ}
      {fields : List (String × Value)} :
      shape.fields.find? (·.name = name) = some field → field.given draft = false →
      (field.read draft).Reads depth v.compact next → Gathers shape depth next fields last →
      Gathers shape depth draft ((name, v) :: fields) last
  | unknown {draft last : δ} {name : String} {v : Value} {fields : List (String × Value)} :
      shape.fields.find? (·.name = name) = none → Skips v → Gathers shape depth draft fields last →
      Gathers shape depth draft ((name, v) :: fields) last

theorem Shape.Gathers.objectFields {draft last : δ} {fields : List (String × Value)}
    (h : shape.Gathers depth draft fields last) (first : Bool) {fuel : List Char}
    (hfuel : fields.length < fuel.length) (rest : List Char) :
    shape.objectFields depth first fuel draft
      (following first (fields.map fieldText) ++ '\x7d' :: rest) = .ok (last, rest) := by
  induction h generalizing first fuel with
  | done draft =>
    obtain ⟨x, fuel, rfl⟩ := List.exists_cons_of_length_pos hfuel
    cases first <;> rfl
  | @known draft next last name v field fields hfind hgiven hread _ ih =>
    obtain ⟨x, fuel, rfl⟩ := List.exists_cons_of_length_pos (Nat.zero_lt_of_lt hfuel)
    have htail := ih false (Nat.lt_of_succ_lt_succ hfuel)
    have hclose := closes_following (fields.map fieldText) (Or.inr rfl) rest
    rw [List.map_cons, Shape.objectFields, nextKey_following]
    simp [colon_cons, hfind, hgiven, hread _ hclose, htail, bind, Except.bind]
  | @unknown draft last name v fields hfind hskip _ ih =>
    obtain ⟨x, fuel, rfl⟩ := List.exists_cons_of_length_pos (Nat.zero_lt_of_lt hfuel)
    have htail := ih false (Nat.lt_of_succ_lt_succ hfuel)
    have hclose := closes_following (fields.map fieldText) (Or.inr rfl) rest
    rw [List.map_cons, Shape.objectFields, nextKey_following]
    simp [colon_cons, hfind, hskip _ hclose, htail, bind, Except.bind]

theorem Shape.Gathers.reads {fields : List (String × Value)} {draft : δ} {a : α}
    (h : shape.Gathers depth shape.blank fields draft) (hfinish : shape.finish draft = .ok a) :
    shape.reader.Reads (depth + 1) (Value.object fields).compact a := by
  intro rest _
  rw [Value.compact, compactFields_eq]
  simp only [List.cons_append, List.append_assoc, List.nil_append, Shape.reader,
    skipBlanks_cons (c := '\x7b') rfl]
  rw [h.objectFields true (length_fields_lt fields true rest)]
  simp [hfinish, bind, Except.bind]

end Structures

theorem entries_following {item : List Char → Except Fault (Value × List Char)}
    {fields : List (String × Value)}
    (hitem : ∀ f ∈ fields, ∀ rest, Closes rest → item (f.2.compact ++ rest) = .ok (f.2, rest))
    (first : Bool) {fuel : List Char} (hfuel : fields.length < fuel.length)
    (known : List (String × Value)) (rest : List Char) :
    entries item first fuel known (following first (fields.map fieldText) ++ '\x7d' :: rest) =
      .ok (fields.foldl (fun known f => insertField f.1 f.2 known) known, rest) := by
  induction fields generalizing first fuel known with
  | nil =>
    obtain ⟨x, fuel, rfl⟩ := List.exists_cons_of_length_pos hfuel
    cases first <;> rfl
  | cons f fields ih =>
    obtain ⟨x, fuel, rfl⟩ := List.exists_cons_of_length_pos (Nat.zero_lt_of_lt hfuel)
    obtain ⟨hread, hreads⟩ := List.forall_mem_cons.mp hitem
    have htail := ih hreads false (Nat.lt_of_succ_lt_succ hfuel) (insertField f.1 f.2 known)
    have hclose := closes_following (fields.map fieldText) (Or.inr rfl) rest
    rw [List.map_cons, entries, nextKey_following]
    simp [colon_cons, hread _ hclose, htail, bind, Except.bind]

theorem reads_value_object {fields : List (String × Value)} {depth : Nat}
    (h : ∀ f ∈ fields, value.Reads depth f.2.compact f.2) :
    value.Reads (depth + 1) (Value.object fields).compact
      (.object (fields.foldl (fun known f => insertField f.1 f.2 known) [])) := by
  intro rest _
  rw [Value.compact, compactFields_eq]
  simp only [List.cons_append, List.append_assoc, List.nil_append, value,
    skipBlanks_cons (c := '\x7b') rfl]
  rw [entries_following h true (length_fields_lt fields true rest)]
  rfl

theorem Reader.Reads.run {α : Type} {reader : Reader α} {text : List Char} {a : α}
    (h : reader.Reads depthLimit text a) : reader.run (String.ofList text) = .ok a := by
  have hread := h [] .text
  rw [List.append_nil] at hread
  rw [Reader.run, String.toList_ofList, hread]
  rfl

end Json
end FacetBrowser
