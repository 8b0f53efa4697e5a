import RegistrySync.Yaml.Layout

/-!
The nodes of a YAML document.

A node may have an anchor, and an alias stands for the node with its anchor. Names of anchors are
numbered as they are met; a name that is given again takes the next number, and of nodes with one
number the last one counts.
-/

namespace RegistrySync.Yaml

structure Scalar where
  text : String
  style : Style
  tag : Option String
  deriving DecidableEq, Repr

mutual

inductive Node where
  | alias (anchor : Nat)
  | scalar (anchor : Option Nat) (s : Scalar)
  | list (anchor : Option Nat) (items : Nodes)
  | record (anchor : Option Nat) (members : Members)

inductive Nodes where
  | nil
  | cons (node : Node) (rest : Nodes)

inductive Members where
  | nil
  | cons (key value : Node) (rest : Members)

end

def Nodes.toList : Nodes → List Node
  | .nil => []
  | .cons n rest => n :: rest.toList

def Members.toList : Members → List (Node × Node)
  | .nil => []
  | .cons k v rest => (k, v) :: rest.toList

/-- What stands where nothing is written. -/
def Scalar.empty : Scalar := ⟨"", .plain, none⟩

def Node.empty : Node := .scalar none .empty

/-! Counting and finding. -/

mutual

/-- Marks that a node is made of: one for a scalar or alias, two around a list or record. -/
def Node.size : Node → Nat
  | .alias _ => 1
  | .scalar _ _ => 1
  | .list _ items => items.size + 2
  | .record _ members => members.size + 2

def Nodes.size : Nodes → Nat
  | .nil => 0
  | .cons n rest => n.size + rest.size

def Members.size : Members → Nat
  | .nil => 0
  | .cons k v rest => k.size + v.size + rest.size

end

def Node.anchor? : Node → Option Nat
  | .alias _ => none
  | .scalar a _ => a
  | .list a _ => a
  | .record a _ => a

mutual

/-- The last node that starts with the anchor of this number. -/
def Node.find? (anchor : Nat) (n : Node) : Option Node :=
  let inside : Option Node := match n with
    | .alias _ => none
    | .scalar _ _ => none
    | .list _ items => items.find? anchor
    | .record _ members => members.find? anchor
  inside <|> if n.anchor? = some anchor then some n else none

def Nodes.find? (anchor : Nat) : Nodes → Option Node
  | .nil => none
  | .cons n rest => rest.find? anchor <|> n.find? anchor

def Members.find? (anchor : Nat) : Members → Option Node
  | .nil => none
  | .cons k v rest => rest.find? anchor <|> v.find? anchor <|> k.find? anchor

end

end RegistrySync.Yaml
