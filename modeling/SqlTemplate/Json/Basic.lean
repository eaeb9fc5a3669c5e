namespace SqlTemplate

inductive Json where
  | null
  | bool (b : Bool)
  | number (text : String)
  | string (s : String)
  | array (items : List Json)
  | object (members : List (String × Json))
  /-- Something well formed that denotes nothing, since a string in it has half a surrogate pair. -/
  | meaningless

namespace Json

mutual

def depth : Json → Nat
  | array items => 1 + depthItems items
  | object members => 1 + depthMembers members
  | _ => 0

def depthItems : List Json → Nat
  | [] => 0
  | j :: js => max j.depth (depthItems js)

def depthMembers : List (String × Json) → Nat
  | [] => 0
  | (_, j) :: js => max j.depth (depthMembers js)

end

end Json
end SqlTemplate
