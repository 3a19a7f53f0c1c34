/-!
Mappings that keep the order in which their keys first arrived.
-/

namespace CurlScript

abbrev Entries (κ α : Type) := List (κ × α)

namespace Entries

variable {κ α : Type} [BEq κ]

def insert (key : κ) (value : α) : Entries κ α → Entries κ α
  | [] => [(key, value)]
  | entry :: rest =>
    if entry.1 == key then (entry.1, value) :: rest else entry :: insert key value rest

def insertAll (new entries : Entries κ α) : Entries κ α :=
  new.foldl (fun current entry => insert entry.1 entry.2 current) entries

def ofList (entries : List (κ × α)) : Entries κ α :=
  insertAll entries []

end Entries

end CurlScript
