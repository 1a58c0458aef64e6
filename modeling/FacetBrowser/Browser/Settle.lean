import FacetBrowser.Browser.Basic

namespace FacetBrowser

structure Settled where
  browser : Browser
  changed : List Node
  asked : List Question

inductive Refusal where
  | facet (error : NotOffered)
  | node (error : UnknownNode)
  deriving DecidableEq, Repr

def Refusal.message : Refusal → String
  | .facet error => error.message
  | .node error => error.message

namespace Browser

def runAll (source : Source) : Browser → List Fetch → Settled × List Fetch
  | b, [] => (⟨b, [], []⟩, [])
  | b, fetch :: fetches =>
    let (next, outcome) := b.receive (fetch.run source)
    let (rest, followUps) := next.runAll source fetches
    (⟨rest.browser, outcome.changed.toList ++ rest.changed, fetch.question :: rest.asked⟩,
      outcome.followUp.toList ++ followUps)

def settle (b : Browser) (source : Source) (fetches : List Fetch) : Settled :=
  let (first, followUps) := b.runAll source fetches
  let (second, _) := first.browser.runAll source followUps
  ⟨second.browser, first.changed ++ second.changed, first.asked ++ second.asked⟩

def seedAndSettle (b : Browser) (source : Source) : Settled :=
  let (b, fetch) := b.seed
  b.settle source fetch.toList

def activateAndSettle (b : Browser) (source : Source) (id : Nat) : Except UnknownNode Settled := do
  let (b, fetch) ← b.activate id
  .ok (b.settle source fetch.toList)

def chooseAndSettle (b : Browser) (source : Source) (facet : String) :
    Except NotOffered Settled := do
  let (b, fetches) ← b.choose facet
  .ok (b.settle source fetches)

def activateAll : Browser → List Nat → Except UnknownNode (Browser × List Fetch)
  | b, [] => .ok (b, [])
  | b, id :: ids => do
    let (next, fetch) ← b.activate id
    let (last, fetches) ← next.activateAll ids
    .ok (last, fetch.toList ++ fetches)

def collapsedWithin (b : Browser) (depth : Nat) : List Nat :=
  (b.tree.nodes.filter fun n => n.stage.isCollapsed && n.depth ≤ depth).map (·.id)

def expand (source : Source) (depth : Nat) : Nat → Browser → Except UnknownNode Browser
  | 0, b => .ok b
  | rounds + 1, b =>
    match b.collapsedWithin depth with
    | [] => .ok b
    | ids => do
      let (next, fetches) ← b.activateAll ids
      expand source depth rounds (next.settle source fetches).browser

def chooseAll (source : Source) : Browser → List String → Except NotOffered Browser
  | b, [] => .ok b
  | b, facet :: facets => do
    let settled ← b.chooseAndSettle source facet
    settled.browser.chooseAll source facets

def browse (source : Source) (options facets : List String) (depth : Nat) :
    Except Refusal Browser := do
  let seeded := ((Browser.new (.ofOptions options)).seedAndSettle source).browser
  let chosen ← (seeded.chooseAll source facets).mapError .facet
  (expand source depth depth chosen).mapError .node

end Browser
end FacetBrowser
