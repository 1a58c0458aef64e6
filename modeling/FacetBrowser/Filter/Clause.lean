import FacetBrowser.Text.Lowercase

namespace FacetBrowser

abbrev Attributes := List (String × String)

inductive Clause where
  | equals (name value : String)
  | absent (name : String)
  deriving DecidableEq, Repr

namespace Clause

def holds (attributes : Attributes) : Clause → Bool
  | .equals name value =>
    match attributes.lookup name with
    | some actual => Text.lower actual = Text.lower value
    | none => false
  | .absent name => (attributes.lookup name).isNone

end Clause

abbrev Filter := List Clause

def Filter.holds (filter : Filter) (attributes : Attributes) : Bool :=
  filter.all (·.holds attributes)

end FacetBrowser
