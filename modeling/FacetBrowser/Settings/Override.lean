import FacetBrowser.Settings.Basic

namespace FacetBrowser

abbrev Environment := String → Option String

namespace Settings

def configKey : String := "FACET_TREE_CONFIG"

def baseUrlKey : String := "FACET_TREE_BASE_URL"

def sampleSizeKey : String := "FACET_TREE_SAMPLE_SIZE"

def groupPageSizeKey : String := "FACET_TREE_GROUP_PAGE_SIZE"

def timeoutSecsKey : String := "FACET_TREE_TIMEOUT_SECS"

def keys : List String :=
  [configKey, baseUrlKey, SettingsFault.wireFormatKey, sampleSizeKey, groupPageSizeKey,
    timeoutSecsKey]

def readNumber (key raw : String) : Except SettingsFault UInt64 :=
  (Text.readNumeral (Text.trim raw)).mapError (.number key raw)

def readWireFormat (raw : String) : Except SettingsFault WireFormat :=
  (WireFormat.ofText raw).mapError .wireFormat

def overrideWith {α : Type} (env : Environment) (key : String)
    (read : String → Except SettingsFault α) (set : Service → α → Service) (s : Settings) :
    Settings × Option SettingsFault :=
  match env key with
  | none => (s, none)
  | some raw =>
    match read raw with
    | .ok value => ({ s with service := set s.service value }, none)
    | .error fault => (s, some fault)

def andThen (r : Settings × Option SettingsFault)
    (next : Settings → Settings × Option SettingsFault) : Settings × Option SettingsFault :=
  match r.2 with
  | some _ => r
  | none => next r.1

def override (env : Environment) (s : Settings) : Settings × Option SettingsFault :=
  let baseUrl := overrideWith env baseUrlKey .ok fun service x => { service with baseUrl := x }
  let wireFormat := overrideWith env SettingsFault.wireFormatKey readWireFormat
    fun service x => { service with wireFormat := x }
  let sampleSize := overrideWith env sampleSizeKey (readNumber sampleSizeKey)
    fun service x => { service with sampleSize := x }
  let groupPageSize := overrideWith env groupPageSizeKey (readNumber groupPageSizeKey)
    fun service x => { service with groupPageSize := x }
  let timeoutSecs := overrideWith env timeoutSecsKey (readNumber timeoutSecsKey)
    fun service x => { service with timeoutSecs := x }
  let read := andThen (andThen (andThen (andThen (baseUrl s) wireFormat) sampleSize)
    groupPageSize) timeoutSecs
  andThen read fun s => (s, s.fault?)

end Settings
end FacetBrowser
