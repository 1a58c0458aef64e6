import FacetBrowser.Interchange
import FacetBrowser.Proofs.Written
import Mathlib.Algebra.Group.Int.Defs

namespace FacetBrowser

open Json

theorem toOption_eq_some {ε α : Type} {x : Except ε α} {a : α} :
    x.toOption = some a ↔ x = .ok a := by
  cases x <;> simp [Except.toOption]

variable {depth : Nat}

theorem reads_id_string (id : String) (depth : Nat) :
    itemId.Reads depth (Value.string id).compact id := by
  intro rest _
  rw [Value.compact, stringText_append]
  exact scanString_escaped id rest

theorem reads_id_natural {n : Nat} (hsize : n < UInt64.size) (depth : Nat) :
    itemId.Reads depth (Nat.toDigits 10 n) (String.ofList (Nat.toDigits 10 n)) := by
  intro rest h
  obtain ⟨c, cs, hcs, hc⟩ := Text.exists_toDigits n
  have hscan := scanNumber_toDigits hsize h
  have htext : integerText n = c :: cs := by
    rw [integerText, if_neg (by omega), Int.natAbs_natCast, hcs]
  rw [hcs, List.cons_append] at hscan ⊢
  unfold itemId
  rw [skipBlanks_cons (isBlank_of_isDigit hc)]
  split
  case h_5 =>
    rename_i heq _ _
    obtain ⟨rfl, rfl⟩ := List.cons.inj heq
    simp [hc, hscan, bind, Except.bind, idOfNumber, htext]
  all_goals
    rename_i heq
    cases heq <;> cases hc

theorem reads_id_negative {n : Nat} (hpos : 0 < n) (hsize : 2 * n ≤ UInt64.size) (depth : Nat) :
    itemId.Reads depth ('-' :: Nat.toDigits 10 n) (String.ofList ('-' :: Nat.toDigits 10 n)) := by
  intro rest h
  have htext : integerText (-n) = '-' :: Nat.toDigits 10 n := by
    rw [integerText, if_pos (by omega), Int.natAbs_neg, Int.natAbs_natCast]
  rw [List.cons_append]
  unfold itemId
  rw [skipBlanks_cons rfl]
  simp [scanNumber_negated hpos hsize h, bind, Except.bind, idOfNumber, htext]

theorem reads_id_integer {value : Int} (hlow : -2 ^ 63 ≤ value) (hhigh : value < 2 ^ 64)
    (depth : Nat) :
    itemId.Reads depth (Value.number (.integer value)).compact
      (String.ofList (integerText value)) := by
  rw [Value.compact, Number.text, integerText]
  split
  · exact reads_id_negative (by omega) (by simp [UInt64.size]; omega) depth
  · exact reads_id_natural (by simp [UInt64.size]; omega) depth

theorem Item.reads_toJson (item : Item) :
    Item.shape.reader.Reads (depth + 1) item.toJson.compact item := by
  have h : Item.shape.Gathers depth Item.shape.blank
      [("id", .string item.id), ("display_path", .string item.path)]
      ⟨some item.id, some item.path⟩ := by
    refine .known rfl rfl (reads_slot (reads_id_string item.id depth) _ _ _ _ _) ?_
    exact .known rfl rfl (reads_slot (reads_string item.path depth) _ _ _ _ _) (.done _)
  exact h.reads rfl

theorem Sample.reads_toJson (s : Sample) :
    Sample.shape.reader.Reads (depth + 3) s.toJson.compact s := by
  have hitems : (list Item.shape.reader).Reads (depth + 2)
      (Value.array (s.items.map Item.toJson)).compact s.items :=
    reads_list (fun _ _ => opens_object _) fun item _ => item.reads_toJson
  have h : Sample.shape.Gathers (depth + 2) Sample.shape.blank
      [("count", .ofNat s.count.toNat), ("items", .array (s.items.map Item.toJson))]
      ⟨some s.count, some s.items⟩ := by
    refine .known rfl rfl (reads_slot (reads_count s.count _) _ _ _ _ _) ?_
    exact .known rfl rfl (reads_slot hitems _ _ _ _ _) (.done _)
  exact h.reads rfl

theorem Group.reads_toJson (g : Group) :
    Group.shape.reader.Reads (depth + 1) g.toJson.compact g := by
  have h : Group.shape.Gathers depth Group.shape.blank
      [("value", .string g.value), ("count", .ofNat g.count.toNat)]
      ⟨some g.value, some g.count⟩ := by
    refine .known rfl rfl (reads_slot (reads_string g.value depth) _ _ _ _ _) ?_
    exact .known rfl rfl (reads_slot (reads_count g.count depth) _ _ _ _ _) (.done _)
  exact h.reads rfl

theorem Grouping.reads_toJson (g : Grouping) :
    Grouping.shape.reader.Reads (depth + 4) g.toJson.compact g := by
  have hgroups : (list Group.shape.reader).Reads (depth + 3)
      (Value.array (g.groups.map Group.toJson)).compact g.groups :=
    reads_list (fun _ _ => opens_object _) fun group _ => group.reads_toJson
  have h : Grouping.shape.Gathers (depth + 3) Grouping.shape.blank
      [("count", .ofNat g.count.toNat), ("groups", .array (g.groups.map Group.toJson)),
        ("leaf_sample", g.ungrouped.toJson)]
      ⟨some g.count, some g.groups, some g.ungrouped⟩ := by
    refine .known rfl rfl (reads_slot (reads_count g.count _) _ _ _ _ _) ?_
    refine .known rfl rfl (reads_slot hgroups _ _ _ _ _) ?_
    exact .known rfl rfl (reads_slot g.ungrouped.reads_toJson _ _ _ _ _) (.done _)
  exact h.reads rfl

theorem results_survive_writing :
    (∀ s : Sample, Sample.shape.reader.run (String.ofList s.toJson.compact) = .ok s) ∧
    (∀ g : Grouping, Grouping.shape.reader.run (String.ofList g.toJson.compact) = .ok g) ∧
    (∀ text s, Sample.shape.reader.run text = .ok s →
      Sample.shape.reader.run (String.ofList s.toJson.compact) = .ok s) ∧
    (∀ text g, Grouping.shape.reader.run text = .ok g →
      Grouping.shape.reader.run (String.ofList g.toJson.compact) = .ok g) ∧
    ∀ value : Int, -2 ^ 63 ≤ value → value < 2 ^ 64 →
      itemId.run (String.ofList (Value.number (.integer value)).compact) =
        .ok (String.ofList (integerText value)) := by
  have hsample (s : Sample) : Sample.shape.reader.Reads depthLimit s.toJson.compact s :=
    s.reads_toJson
  have hgrouping (g : Grouping) : Grouping.shape.reader.Reads depthLimit g.toJson.compact g :=
    g.reads_toJson
  refine ⟨fun s => (hsample s).run, fun g => (hgrouping g).run, fun _ s _ => (hsample s).run,
    fun _ g _ => (hgrouping g).run, fun value hlow hhigh => ?_⟩
  exact (reads_id_integer hlow hhigh depthLimit).run

theorem positional_grouping_survives_writing :
    let text := "\x7b\"leaf_sample\":[1,[[-7,\"/x.nwb\"]]],\"note\":[null,1e999]," ++
      "\"groups\":[\x7b\"count\":2,\"value\":\"a\\\"\\u0001\"\x7d],\"count\":3\x7d"
    let g : Grouping := ⟨3, [⟨"a\"\u0001", 2⟩], ⟨1, [⟨"-7", "/x.nwb"⟩]⟩⟩
    Grouping.shape.reader.run text = .ok g ∧
      Grouping.shape.reader.run (String.ofList g.toJson.compact) = .ok g ∧
      itemId.run (String.ofList (Value.number (.integer (-7))).compact) = .ok "-7" := by
  intro text g
  have hread := toOption_eq_some.mp
    (show (Grouping.shape.reader.run text).toOption = some g by decide +kernel)
  obtain ⟨-, -, -, hgrouping, hinteger⟩ := results_survive_writing
  exact ⟨hread, hgrouping text g hread, hinteger (-7) (by decide) (by decide)⟩

end FacetBrowser
