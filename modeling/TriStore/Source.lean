/-!
The three places an element may be kept.
-/
namespace TriStore

/-- The store on this machine, the user's own repository, and the catalogue shared by all users, which is only
read. -/
inductive Source where
  | home
  | remote
  | registry
  deriving DecidableEq, Repr, Inhabited

namespace Source

def all : List Source := [.home, .remote, .registry]

def label : Source → String
  | .home => "local"
  | .remote => "remote"
  | .registry => "registry"

def title : Source → String
  | .home => "Local Portfolio"
  | .remote => "Remote Portfolio"
  | .registry => "Community Registry"

def constantName : Source → String
  | .home => "LOCAL"
  | .remote => "REMOTE"
  | .registry => "REGISTRY"

def ofLabel? (s : String) : Option Source := all.find? (·.label == s)

theorem ofLabel?_label (s : Source) : ofLabel? s.label = some s := by
  cases s <;> decide

end Source

end TriStore
