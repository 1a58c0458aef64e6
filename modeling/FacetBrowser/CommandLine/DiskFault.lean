namespace FacetBrowser.CommandLine

inductive DiskFault where
  | missing
  | forbidden
  | notDirectory
  | isDirectory
  | nameTooLong
  deriving DecidableEq, Repr

namespace DiskFault

def all : List DiskFault :=
  [.missing, .forbidden, .notDirectory, .isDirectory, .nameTooLong]

def number : DiskFault → Nat
  | .missing => 2
  | .forbidden => 13
  | .notDirectory => 20
  | .isDirectory => 21
  | .nameTooLong => 36

def ofNumber? (n : Nat) : Option DiskFault :=
  all.find? (·.number = n)

def text : DiskFault → String
  | .missing => "No such file or directory"
  | .forbidden => "Permission denied"
  | .notDirectory => "Not a directory"
  | .isDirectory => "Is a directory"
  | .nameTooLong => "File name too long"

def numbered (text : String) (n : Nat) : String :=
  text ++ " (os error " ++ toString n ++ ")"

def message (f : DiskFault) : String :=
  numbered f.text f.number

end DiskFault

end FacetBrowser.CommandLine
