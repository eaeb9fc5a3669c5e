import SqlTemplate.Text.Blank
import SqlTemplate.Text.Pieces

namespace SqlTemplate

inductive LikeMode where
  | atStart
  | atEnd
  | anywhere
deriving DecidableEq, Repr

structure Options where
  nullable : Bool := false
  like : Option LikeMode := none
  notEscape : Bool := false
deriving DecidableEq, Repr

inductive OptionError where
  | unknown (name : String)
  | conflicting (name : String)
deriving DecidableEq, Repr

def OptionError.message : OptionError → String
  | unknown name => "unknown option '" ++ name ++ "'"
  | conflicting name => "conflicting like option '" ++ name ++ "'"

namespace Options

def likeMode? (name : String) : Option LikeMode :=
  [("likePrefix", LikeMode.atStart), ("likeSuffix", .atEnd), ("likeContain", .anywhere)].lookup name

def add (o : Options) (name : String) : Except OptionError Options :=
  if name = "nullable" then .ok { o with nullable := true }
  else if name = "notEscape" then .ok { o with notEscape := true }
  else
    match likeMode? name with
    | none => .error (.unknown name)
    | some mode =>
      if o.like.isSome then .error (.conflicting name) else .ok { o with like := some mode }

def parse (text : List Char) : Except OptionError Options :=
  ((Text.pieces '|' text).map fun name => String.ofList (Text.trim name)).foldlM add {}

end Options
end SqlTemplate
