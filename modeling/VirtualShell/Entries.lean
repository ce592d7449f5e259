import VirtualShell.Text.Basic
/-
  Keyed entries in the order in which their keys came.

  Putting a value under a key that is there keeps the place of the key; a new key
  goes to the end. What is looked up under a key is the first entry for it, and as
  long as entries are made with `put` there is no second one.
-/

namespace VirtualShell

/-- Values under text keys, in order. -/
abbrev Entries (α : Type) := List (Text × α)

namespace Entries

variable {α : Type}

/-- The keys in order. -/
def keys (entries : Entries α) : List Text := entries.map (·.1)

/-- The value under a key. -/
def get? (key : Text) : Entries α → Option α
  | [] => none
  | (k, v) :: rest => if k = key then some v else get? key rest

/-- Whether there is an entry under the key. -/
def has (key : Text) (entries : Entries α) : Bool := (entries.get? key).isSome

/-- The entries with `value` under `key`. -/
def put (key : Text) (value : α) : Entries α → Entries α
  | [] => [(key, value)]
  | (k, v) :: rest => if k = key then (k, value) :: rest else (k, v) :: put key value rest

/-- The entries with the value under `key`, if any, changed by `f`. -/
def modify (key : Text) (f : α → α) : Entries α → Entries α
  | [] => []
  | (k, v) :: rest => if k = key then (k, f v) :: rest else (k, v) :: modify key f rest

/-- The entries without the one under `key`. -/
def erase (key : Text) : Entries α → Entries α
  | [] => []
  | (k, v) :: rest => if k = key then rest else (k, v) :: erase key rest

/-- The entries made by putting pairs one after another. -/
def ofPairs (pairs : List (Text × α)) : Entries α :=
  pairs.foldl (fun entries p => entries.put p.1 p.2) []

end Entries

end VirtualShell
