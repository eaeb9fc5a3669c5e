namespace SqlTemplate.CommandLine

inductive FileError where
  | notFound
  | denied
  | notDirectory
  | isDirectory
  | nameTooLong
  | notText
  | other (description : String)
deriving DecidableEq, Repr

namespace FileError

def numbered : List (Nat × FileError) :=
  [(2, notFound), (13, denied), (20, notDirectory), (21, isDirectory), (36, nameTooLong)]

def ofNumber? (number : Nat) : Option FileError := numbered.lookup number

def message : FileError → String
  | notFound => "No such file or directory (os error 2)"
  | denied => "Permission denied (os error 13)"
  | notDirectory => "Not a directory (os error 20)"
  | isDirectory => "Is a directory (os error 21)"
  | nameTooLong => "File name too long (os error 36)"
  | notText => "stream did not contain valid UTF-8"
  | other description => description

end FileError
end SqlTemplate.CommandLine
