import FacetBrowser.CommandLine.DiskFault
import FacetBrowser.CommandLine.Run

namespace FacetBrowser.CommandLine

def reason (number : UInt32) (details : String) : String :=
  let n := (if 0x80000000 ≤ number then 0 - number else number).toNat
  match DiskFault.ofNumber? n with
  | some fault => fault.message
  | none => DiskFault.numbered details n

def readText (path : String) : IO (String × Except String String) := do
  try
    let text ← IO.FS.readFile path
    return (path, .ok text)
  catch
    | .noFileOrDirectory _ number details | .inappropriateType _ number details
    | .invalidArgument _ number details | .permissionDenied _ number details =>
      return (path, .error (reason number details))
    | e => return (path, .error e.toString)

def namesIn (text : String) : List String :=
  let isNameChar (c : Char) : Bool := c.isAlphanum || c = '_' || c = '.'
  (text.toList.splitBy fun a b => isNameChar a && isNameChar b).map String.ofList

def readValues (names : List String) : IO (List (String × String)) :=
  names.filterMapM fun name => do
    return (← IO.getEnv name).map (name, ·)

def filesOf : Instruction → List String
  | .run ⟨.browse fixture _ _, config, _⟩ => config.toList ++ fixture.toList
  | .run ⟨_, config, _⟩ => config.toList
  | _ => []

def readWorld (words : List String) : IO World := do
  let dotenv ← readText dotenvPath
  let mentioned := match dotenv.2 with
    | .ok text => namesIn text
    | .error _ => []
  let values ← readValues (Settings.keys ++ mentioned)
  let inherited : Environment := fun name => values.lookup name
  let files ← (filesOf (read inherited words)).mapM readText
  let file (path : String) : Except String String :=
    ((dotenv :: files).lookup path).getD (.error DiskFault.missing.message)
  return ⟨file, inherited, Remote.unreachable⟩

end FacetBrowser.CommandLine

def main (words : List String) : IO UInt32 := do
  let world ← FacetBrowser.CommandLine.readWorld words
  let result := FacetBrowser.CommandLine.run world words
  IO.print result.out
  IO.eprint result.err
  return result.exit.toUInt32
