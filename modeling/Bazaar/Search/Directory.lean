import Bazaar.Search.Query
import Bazaar.Transaction

/-!
The directory of services: the descriptions that each agent has registered.
-/

namespace Bazaar.Search

/-- The descriptions of each agent, in the order of registration, by the agent's address. -/
structure Directory where
  listings : SortedMap (List Description)

namespace Directory

/-- The directory with no descriptions. -/
def empty : Directory := ⟨.empty⟩

/-- The descriptions of an agent. -/
def descriptions (r : Directory) (a : Address) : List Description := r.listings.getD a []

/-- Registers a description, unless the agent has an equal one; also whether it was registered. -/
def register (r : Directory) (a : Address) (d : Description) : Directory × Bool :=
  let ds := r.descriptions a
  if ds.any (·.equal d) then (r, false) else (⟨r.listings.insert a (ds ++ [d])⟩, true)

/-- Withdraws the descriptions of an agent that are equal to a given one; also whether there were
any. -/
def withdraw (r : Directory) (a : Address) (d : Description) : Directory × Bool :=
  let ds := r.descriptions a
  let kept := ds.filter (!·.equal d)
  (⟨if kept.isEmpty then r.listings.erase a else r.listings.insert a kept⟩,
    decide (kept.length < ds.length))

/-- Withdraws all descriptions of an agent; also how many there were. -/
def withdrawAll (r : Directory) (a : Address) : Directory × Nat :=
  (⟨r.listings.erase a⟩, (r.descriptions a).length)

/-- The addresses, in ascending order, of the agents with a description that meets a query. -/
def search [Trigonometry] (r : Directory) (q : Query) : List Address :=
  (r.listings.entries.filter (·.2.any q.holds)).map (·.1)

/-- The number of agents with a description. -/
def size (r : Directory) : Nat := r.listings.size

/-- Whether nothing is registered. -/
def isEmpty (r : Directory) : Bool := r.listings.isEmpty

end Directory

end Bazaar.Search
