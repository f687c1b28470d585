namespace RelayRoster

/-- Which endpoint is registered under which address. The entries are in no particular order; what
readers see is the list published last, sorted by address. -/
structure Registry where
  entries : List (String × Nat) := []
  published : List (String × Nat) := []
  deriving DecidableEq, Repr

namespace Registry

def byAddress (entries : List (String × Nat)) : List (String × Nat) :=
  entries.mergeSort fun a b => a.1 ≤ b.1

def ofEntries (entries : List (String × Nat)) : Registry := ⟨entries, byAddress entries⟩

def insert (r : Registry) (address : String) (id : Nat) : Registry :=
  ofEntries ((address, id) :: r.entries)

def erase (r : Registry) (address : String) : Registry :=
  ofEntries (r.entries.filter (·.1 ≠ address))

def taken (r : Registry) (address : String) : Bool := r.entries.any (·.1 = address)

def get? (r : Registry) (address : String) : Option Nat := r.published.lookup address

def contains (r : Registry) (address : String) : Bool := (r.get? address).isSome

def addresses (r : Registry) : List String := r.published.map (·.1)

def size (r : Registry) : Nat := r.published.length

end Registry
end RelayRoster
