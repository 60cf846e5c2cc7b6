namespace Parsing

-- The latest registration comes first.
structure Registry (α : Type) where
  entries : List (String × α)

namespace Registry

def register (r : Registry α) (className : String) (entry : α) : Registry α :=
  ⟨(className, entry) :: r.entries⟩

-- What is registered for the first class of the chain that has a registration.
def find? (r : Registry α) (chain : List String) : Option α :=
  chain.findSome? fun className => r.entries.lookup className

end Registry

end Parsing
