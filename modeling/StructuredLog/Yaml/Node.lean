import StructuredLog.Yaml.Scalar.Basic

/-!
YAML nodes, and the one that an alias stands for.
-/

namespace StructuredLog.Yaml

/-- What a node says of itself: the name of its type, and the number that aliases refer to. -/
structure Properties where
  tag : Option String := none
  anchor : Option Nat := none
  deriving DecidableEq, Repr

inductive Node where
  | alias (anchor : Nat)
  | scalar (properties : Properties) (scalar : Scalar)
  | sequence (properties : Properties) (items : List Node)
  | mapping (properties : Properties) (entries : List (Node × Node))

namespace Node

/-- What stands where no node is written. -/
def empty : Node := .scalar {} .empty

def properties : Node → Properties
  | .alias _ => {}
  | .scalar p _ => p
  | .sequence p _ => p
  | .mapping p _ => p

mutual

/-- A node and those inside of it, in the order in which they begin. -/
def nodes : Node → List Node
  | .alias n => [.alias n]
  | .scalar p s => [.scalar p s]
  | .sequence p items => .sequence p items :: nodesOfItems items
  | .mapping p entries => .mapping p entries :: nodesOfEntries entries

def nodesOfItems : List Node → List Node
  | [] => []
  | n :: ns => nodes n ++ nodesOfItems ns

def nodesOfEntries : List (Node × Node) → List Node
  | [] => []
  | (k, v) :: es => nodes k ++ nodes v ++ nodesOfEntries es

end

/-- The node that begins last of those with an anchor. -/
def anchored? (root : Node) (anchor : Nat) : Option Node :=
  (nodes root).reverse.find? (·.properties.anchor = some anchor)

/-- The node that one inside of a tree stands for. -/
def target (root : Node) : Node → Node
  | .alias n => (root.anchored? n).getD (.alias n)
  | n => n

end Node

end StructuredLog.Yaml
