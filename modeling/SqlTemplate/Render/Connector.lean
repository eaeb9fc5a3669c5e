import SqlTemplate.Settings
import SqlTemplate.Text.WordCharacter

namespace SqlTemplate.Connector

/-- Letters that differ only in case have the same fold. Two characters outside of ASCII fold to
ASCII letters: the Kelvin sign and the long s. -/
def fold (c : Char) : Char :=
  if c = '\u212a' then 'k' else if c = '\u017f' then 's' else c.toLower

def dropWord? : (word text : List Char) → Option (List Char)
  | [], text => some text
  | _ :: _, [] => none
  | w :: word, c :: text => if fold w = fold c then dropWord? word text else none

def atBoundary (text : List Char) : Bool := !(text.head?.any Text.isWordCharacter)

def dropWhole? (text : List Char) (word : String) : Option (List Char) :=
  (dropWord? word.toList text).filter atBoundary

def strip (words : List String) (text : List Char) : List Char :=
  let lead := text.takeWhile Text.isBlank
  match words.findSome? (dropWhole? (text.dropWhile Text.isBlank)) with
  | some rest => lead ++ Text.trimStart rest
  | none => text

end SqlTemplate.Connector

namespace SqlTemplate

def Settings.strip (s : Settings) (sql : String) : String :=
  String.ofList (Connector.strip s.connectors sql.toList)

end SqlTemplate
