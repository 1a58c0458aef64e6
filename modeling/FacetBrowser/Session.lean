import FacetBrowser.Browser.Basic

namespace FacetBrowser

inductive Event where
  | activate (node : Nat)
  | choose (facet : String)
  deriving DecidableEq, Repr

inductive Notice where
  | changed (node : Node)
  | facets (chosen offered : List String) (exhausted : Bool)
  | rejected (error : NotOffered)
  | unknown (error : UnknownNode)
  deriving DecidableEq, Repr

structure Session where
  browser : Browser
  inFlight : List Fetch
  deriving DecidableEq, Repr

structure Turn where
  session : Session
  notices : List Notice
  begun : List Fetch
  deriving DecidableEq, Repr

namespace Session

def announce (b : Browser) (fetches : List Fetch) : List Notice :=
  fetches.filterMap fun fetch => (b.node? fetch.node).map .changed

def launch (s : Session) (b : Browser) (notices : List Notice) (fetches : List Fetch) : Turn :=
  ⟨⟨b, s.inFlight ++ fetches⟩, notices, fetches⟩

def start (b : Browser) : Turn :=
  let (b, fetch) := b.seed
  ⟨⟨b, fetch.toList⟩, announce b fetch.toList, fetch.toList⟩

def handle (s : Session) : Event → Turn
  | .activate id =>
    match s.browser.activate id with
    | .error e => ⟨s, [.unknown e], []⟩
    | .ok (b, fetch) => s.launch b (announce b fetch.toList) fetch.toList
  | .choose facet =>
    match s.browser.choose facet with
    | .error e => ⟨s, [.rejected e], []⟩
    | .ok (b, fetches) =>
      let notice := .facets b.facets.chosen b.facets.offered b.facets.isExhausted
      s.launch b (notice :: announce b fetches) fetches

def land (s : Session) (fetch : Fetch) (reply : Reply) : Turn :=
  let (b, outcome) := s.browser.receive reply
  let rest : Session := ⟨b, s.inFlight.erase fetch⟩
  rest.launch b (outcome.changed.toList.map .changed) outcome.followUp.toList

end Session

inductive Wake where
  | inbox
  | reply (fetch : Fetch) (answer : Except SourceError Answer)

structure Loop where
  session : Session
  inbox : List Event
  isOpen : Bool
  outbox : List Notice
  deriving DecidableEq, Repr

namespace Loop

def take (l : Loop) (turn : Turn) : Loop :=
  { l with session := turn.session, outbox := l.outbox ++ turn.notices }

def start (b : Browser) (inbox : List Event) : Loop :=
  let turn := Session.start b
  ⟨turn.session, inbox, true, turn.notices⟩

def waitsFor (l : Loop) : Wake → Bool
  | .inbox => l.isOpen
  | .reply fetch _ => fetch ∈ l.session.inFlight

def after (l : Loop) : Wake → Loop
  | .inbox =>
    match l.inbox with
    | [] => { l with isOpen := false }
    | event :: events => { l with inbox := events }.take (l.session.handle event)
  | .reply fetch answer => l.take (l.session.land fetch ⟨fetch.node, answer⟩)

def isOver (l : Loop) : Bool :=
  !l.isOpen && l.session.inFlight.isEmpty

end Loop
end FacetBrowser
