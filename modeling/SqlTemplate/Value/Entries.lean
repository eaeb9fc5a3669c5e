namespace SqlTemplate

abbrev Entries (α : Type) := List (String × α)

namespace Entries

variable {α : Type}

def insert (name : String) (a : α) : Entries α → Entries α
  | [] => [(name, a)]
  | (key, b) :: rest =>
    if name < key then (name, a) :: (key, b) :: rest
    else if name = key then (name, a) :: rest
    else (key, b) :: insert name a rest

def find? (name : String) (entries : Entries α) : Option α := entries.lookup name

def ofList (pairs : List (String × α)) : Entries α :=
  pairs.foldl (fun entries p => insert p.1 p.2 entries) []

def Sorted (entries : Entries α) : Prop := (entries.map Prod.fst).Pairwise (· < ·)

end Entries
end SqlTemplate
