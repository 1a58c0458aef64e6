import FacetBrowser.Browser.Basic
import Mathlib.Data.List.Induction

namespace FacetBrowser

structure Oracle extends Source where
  root : Except SourceError Sample

namespace Question

inductive Admits : Question → Except SourceError Answer → Prop
  | error (q : Question) (e : SourceError) : Admits q (.error e)
  | root (s : Sample) : Admits .root (.ok (.sample s))
  | sample (query : Query) (s : Sample) : Admits (.sample query) (.ok (.sample s))
  | group (query : Query) (facet : String) (g : Grouping) :
      Admits (.group query facet) (.ok (.group facet g))

end Question

namespace Oracle

def answer (o : Oracle) : Question → Except SourceError Answer
  | .root => o.root.map .sample
  | q => q.answer o.toSource

def Gives (o : Oracle) (q : Question) (a : Except SourceError Answer) : Prop :=
  a = o.answer q

def uniform (s : Sample) (g : String → Grouping) : Oracle :=
  ⟨⟨fun _ => .ok s, fun _ facet => .ok (g facet)⟩, .ok s⟩

theorem admits_answer (o : Oracle) (q : Question) : q.Admits (o.answer q) := by
  cases q with
  | root =>
    cases h : o.root with
    | error e => simpa [answer, h, Except.map] using Question.Admits.error .root e
    | ok x => simpa [answer, h, Except.map] using Question.Admits.root x
  | sample query =>
    cases h : o.sample query with
    | error e =>
      simpa [answer, Question.answer, h, Except.map] using Question.Admits.error (.sample query) e
    | ok x => simpa [answer, Question.answer, h, Except.map] using Question.Admits.sample query x
  | group query facet =>
    cases h : o.group query facet with
    | error e =>
      simpa [answer, Question.answer, h, Except.map] using
        Question.Admits.error (.group query facet) e
    | ok g =>
      simpa [answer, Question.answer, h, Except.map] using Question.Admits.group query facet g

theorem admits_of_gives {o : Oracle} {q : Question} {a : Except SourceError Answer}
    (h : o.Gives q a) : q.Admits a := by
  rw [h]
  exact o.admits_answer q

end Oracle

structure Course where
  browser : Browser
  outstanding : List Fetch

inductive Move where
  | seed
  | activate (id : Nat)
  | choose (facet : String)
  | complete (fetch : Fetch) (answer : Except SourceError Answer)

namespace Course

variable {answers : Question → Except SourceError Answer → Prop} {α : Type}

def new (facets : Facets) : Course :=
  ⟨.new facets, []⟩

def after (c : Course) : Move → Course
  | .seed => ⟨c.browser.seed.1, c.outstanding ++ c.browser.seed.2.toList⟩
  | .activate id =>
    match c.browser.activate id with
    | .error _ => c
    | .ok (b, fetch) => ⟨b, c.outstanding ++ fetch.toList⟩
  | .choose facet =>
    match c.browser.choose facet with
    | .error _ => c
    | .ok (b, fetches) => ⟨b, c.outstanding ++ fetches⟩
  | .complete fetch answer =>
    let (b, outcome) := c.browser.receive ⟨fetch.node, answer⟩
    ⟨b, c.outstanding.erase fetch ++ outcome.followUp.toList⟩

def run (c : Course) (moves : List Move) : Course :=
  moves.foldl after c

def Allows (answers : Question → Except SourceError Answer → Prop) (c : Course) : Move → Prop
  | .complete fetch answer => fetch ∈ c.outstanding ∧ answers fetch.question answer
  | _ => True

def Permits (answers : Question → Except SourceError Answer → Prop) : Course → List Move → Prop
  | _, [] => True
  | c, m :: ms => c.Allows answers m ∧ (c.after m).Permits answers ms

def collect (f : Course → Move → List α) : Course → List Move → List α
  | _, [] => []
  | c, m :: ms => f c m ++ (c.after m).collect f ms

def selected (c : Course) : Move → List String
  | .choose facet =>
    match c.browser.choose facet with
    | .error _ => []
    | .ok _ => [facet]
  | _ => []

theorem run_append (c : Course) (ms ns : List Move) : c.run (ms ++ ns) = (c.run ms).run ns :=
  List.foldl_append

theorem collect_append (f : Course → Move → List α) (c : Course) (ms ns : List Move) :
    c.collect f (ms ++ ns) = c.collect f ms ++ (c.run ms).collect f ns := by
  induction ms generalizing c with
  | nil => rfl
  | cons m ms ih => simp only [List.cons_append, collect, ih, List.append_assoc, run, List.foldl]

theorem collect_concat (f : Course → Move → List α) (c : Course) (ms : List Move) (m : Move) :
    c.collect f (ms ++ [m]) = c.collect f ms ++ f (c.run ms) m := by
  rw [collect_append, collect, collect, List.append_nil]

theorem permits_append {c : Course} {ms ns : List Move} :
    c.Permits answers (ms ++ ns) ↔ c.Permits answers ms ∧ (c.run ms).Permits answers ns := by
  induction ms generalizing c with
  | nil => simp [Permits, run]
  | cons m ms ih =>
    simp only [List.cons_append, Permits, ih, and_assoc]
    rfl

theorem Permits.induction {c : Course} {P : List Move → Prop} (start : P [])
    (step : ∀ {ms m}, P ms → (c.run ms).Allows answers m → P (ms ++ [m]))
    {ms : List Move} (h : c.Permits answers ms) : P ms := by
  induction ms using List.reverseRecOn with
  | nil => exact start
  | append_singleton ms m ih =>
    obtain ⟨hms, hm, -⟩ := permits_append.mp h
    exact step (ih hms) hm

theorem Permits.invariant {c : Course} {P : List Move → Course → Prop} (start : P [] c)
    (step : ∀ {ms c' m}, P ms c' → c'.Allows answers m → P (ms ++ [m]) (c'.after m))
    {ms : List Move} (h : c.Permits answers ms) : P ms (c.run ms) := by
  refine h.induction (P := fun ms => P ms (c.run ms)) start fun hP hm => ?_
  rw [run_append]
  exact step hP hm

theorem Allows.mono {answers' : Question → Except SourceError Answer → Prop}
    (hle : ∀ {q a}, answers q a → answers' q a) {c : Course} {m : Move}
    (h : c.Allows answers m) : c.Allows answers' m := by
  cases m with
  | complete fetch answer => exact ⟨h.1, hle h.2⟩
  | _ => exact h

theorem Permits.mono {answers' : Question → Except SourceError Answer → Prop}
    (hle : ∀ {q a}, answers q a → answers' q a) {c : Course} {ms : List Move}
    (h : c.Permits answers ms) : c.Permits answers' ms := by
  induction ms generalizing c with
  | nil => trivial
  | cons m ms ih => exact ⟨h.1.mono hle, ih h.2⟩

end Course
end FacetBrowser
