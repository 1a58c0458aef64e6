import FacetBrowser.Outline
import FacetBrowser.Remote.WireFormat
import FacetBrowser.Text.Numeral
import FacetBrowser.Text.Quoted

namespace FacetBrowser

structure Service where
  baseUrl : String
  wireFormat : WireFormat
  sampleSize : UInt64
  groupPageSize : UInt64
  timeoutSecs : UInt64
  deriving DecidableEq, Repr

def Service.standard : Service :=
  ⟨"http://localhost:8000", .plainText, 25, 25, 30⟩

structure Settings where
  service : Service
  attributes : List String
  itemLink : String
  deriving DecidableEq, Repr

inductive SettingsFault where
  | wireFormat (error : UnknownWireFormat)
  | number (key raw : String) (fault : Text.NumeralFault)
  | blankBaseUrl
  | zero (field : String)
  | noPlaceForId
  deriving DecidableEq, Repr

namespace SettingsFault

def wireFormatKey : String := "FACET_TREE_WIRE_FORMAT"

def message : SettingsFault → String
  | .wireFormat error => "invalid " ++ wireFormatKey ++ ": " ++ error.message
  | .number key raw fault => "invalid " ++ key ++ ": " ++ Text.quoted raw ++ ": " ++ fault.message
  | .blankBaseUrl => "gateway.base_url must not be empty"
  | .zero field => "gateway." ++ field ++ " must be at least 1"
  | .noPlaceForId => "item_link_template must contain \x7bid\x7d"

end SettingsFault

namespace Settings

def standard : Settings where
  service := .standard
  attributes := ["keyword", "lab", "institution", "doi", "experimenter", "units", "electrodes"]
  itemLink := Outline.defaultTemplate

def fault? (s : Settings) : Option SettingsFault :=
  if Text.isAllBlank s.service.baseUrl then some .blankBaseUrl
  else if s.service.sampleSize = 0 then some (.zero "sample_size")
  else if s.service.groupPageSize = 0 then some (.zero "group_page_size")
  else if s.service.timeoutSecs = 0 then some (.zero "timeout_secs")
  else if !Outline.hasPlace s.itemLink.toList then some .noPlaceForId
  else none

end Settings
end FacetBrowser
