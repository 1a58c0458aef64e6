import FacetBrowser.Browser.Settle
import FacetBrowser.Collection
import FacetBrowser.CommandLine.Arguments
import FacetBrowser.Remote.Source
import FacetBrowser.Settings.Dotenv
import FacetBrowser.Settings.File

namespace FacetBrowser.CommandLine

open Json (Value)

structure World where
  file : String → Except String String
  inherited : Environment
  exchange : Exchange

structure Result where
  exit : Nat
  out : String
  err : String
  deriving DecidableEq, Repr

inductive Failure where
  | configUnread (path reason : String)
  | configWrong (path : String) (fault : Settings.FileFault)
  | settings (fault : SettingsFault)
  | fixture (path : String) (error : SourceError)
  | browse (error : Refusal)

def Failure.message : Failure → String
  | .configUnread path reason => "reading config " ++ path ++ ": " ++ reason
  | .configWrong path fault => "parsing config " ++ path ++ ": " ++ fault.message
  | .settings fault => fault.message
  | .fixture path error => "loading fixture " ++ path ++ ": " ++ error.message
  | .browse error => error.message

def readConfig (world : World) : Option String → Except Failure Settings
  | none => .ok .standard
  | some path => do
    let text ← (world.file path).mapError (.configUnread path)
    (Settings.ofText text).mapError (.configWrong path)

def dotenvPath : String := ".env"

def environment (world : World) : Environment :=
  match world.file dotenvPath with
  | .ok text => Dotenv.extend world.inherited text
  | .error _ => world.inherited

def loadSettings (world : World) (config : Option String) : Except Failure Settings := do
  let settings ← readConfig world config
  match settings.override (environment world) with
  | (settings, none) => .ok settings
  | (_, some fault) => .error (.settings fault)

def loadFixture (world : World) (service : Service) (path : String) :
    Except SourceError Collection := do
  let text ← (world.file path).mapError fun reason =>
    .transport ("cannot read fixture " ++ path ++ ": " ++ reason)
  let collection ← Collection.ofJson text
  .ok { collection with sampleSize := service.sampleSize, groupPageSize := service.groupPageSize }

def openSource (world : World) (service : Service) : Option String → Except Failure Source
  | some path => do
    let collection ← (loadFixture world service path).mapError (.fixture path)
    .ok collection.source
  | none => .ok (Remote.source service world.exchange.addressed)

def textList (texts : List String) : Value :=
  .array (texts.map .string)

def document (value : Value) : String :=
  String.ofList (value.pretty 0) ++ "\n"

def linesOf (texts : List String) : String :=
  String.join (texts.map (· ++ "\n"))

def printAttributes (format : Format) (settings : Settings) : String :=
  match format with
  | .json => document (textList settings.attributes)
  | .text => linesOf settings.attributes

def printTree (format : Format) (settings : Settings) (b : Browser) : String :=
  let lines := Outline.lines settings.itemLink b
  match format with
  | .json => document (.object [
      ("facets", textList b.facets.chosen),
      ("lines", textList lines),
      ("nodes", .ofNat b.tree.nodes.length),
      ("remaining", textList b.facets.offered)])
  | .text => linesOf lines

def execute (world : World) (i : Invocation) : Except Failure String := do
  let settings ← loadSettings world i.config
  match i.command with
  | .attributes => .ok (printAttributes i.format settings)
  | .browse fixture facets depth =>
    let source ← openSource world settings.service fixture
    let b ← (Browser.browse source settings.attributes facets depth.toNat).mapError .browse
    .ok (printTree i.format settings b)

def versionText : String := "facet_tree 0.1.0"

def usage : String :=
  "Usage: facet_tree [--config FILE] [--format text|json] [--quiet] COMMAND\n\n"
    ++ "Commands:\n"
    ++ "  attributes  List the facet options offered for grouping\n"
    ++ "  browse      Build the tree and print it\n"
    ++ "              [--fixture FILE] [--facet NAME]... [--expand DEPTH]\n"

def report (format : Format) (failure : Failure) : Result :=
  match format with
  | .json =>
    let error := Value.object [("error", .string failure.message)]
    ⟨1, String.ofList error.compact ++ "\n", ""⟩
  | .text => ⟨1, "", "error: " ++ failure.message ++ "\n"⟩

def run (world : World) (words : List String) : Result :=
  match read world.inherited words with
  | .version => ⟨0, versionText ++ "\n", ""⟩
  | .help => ⟨0, usage, ""⟩
  | .refused => ⟨2, "", usage⟩
  | .run invocation =>
    match execute world invocation with
    | .ok out => ⟨0, out, ""⟩
    | .error failure => report invocation.format failure

end FacetBrowser.CommandLine
