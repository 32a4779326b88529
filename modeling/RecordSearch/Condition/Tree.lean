import RecordSearch.Condition.Lookup
import RecordSearch.Value

namespace RecordSearch

inductive Connector where
  | and
  | or
  deriving DecidableEq, Repr

def Connector.text : Connector → String
  | and => "AND"
  | or => "OR"

mutual

inductive Condition where
  | node (connector : Connector) (negated : Bool) (children : List Child)

inductive Child where
  | node (condition : Condition)
  | leaf (expression : String) (value : Value)

end

namespace Condition

/-- The field name that stands for the text of a document, whatever its field is called. -/
def contentKey : String := "@content"

def connector : Condition → Connector
  | node connector _ _ => connector

def isNegated : Condition → Bool
  | node _ negated _ => negated

def children : Condition → List Child
  | node _ _ children => children

def empty : Condition := node .and false []

instance : Inhabited Condition := ⟨empty⟩

instance : Inhabited Child := ⟨.node empty⟩

def size (c : Condition) : Nat := c.children.length

def isEmpty (c : Condition) : Bool := c.children.isEmpty

def lookup (expression : String) (v : Value) : Condition :=
  node .and false [.leaf (Lookup.prepareKey expression) v]

def ofPairs (pairs : List (String × Value)) : Condition :=
  node .and false (pairs.map fun pair => .leaf (Lookup.prepareKey pair.1) pair.2)

def content (v : Value) : Condition := node .and false [.leaf contentKey v]

mutual

def beq : Condition → Condition → Bool
  | node c n children, node c' n' children' => c == c' && n == n' && beqChildren children children'

def beqChild : Child → Child → Bool
  | .node a, .node b => beq a b
  | .leaf e v, .leaf e' v' => e == e' && v == v'
  | _, _ => false

def beqChildren : List Child → List Child → Bool
  | [], [] => true
  | a :: as, b :: bs => beqChild a b && beqChildren as bs
  | _, _ => false

end

instance : BEq Child := ⟨beqChild⟩

/-- Whether a node takes in the children of another instead of the other as a whole. -/
def absorbs (connector : Connector) : Condition → Bool
  | node c negated children => !negated && (c == connector || children.length == 1)

/-- Adds a child. A child that is there already is left out; children under another connector move
one level down. -/
def addChild (parent : Condition) (child : Child) (connector : Connector) : Condition :=
  if connector == parent.connector && parent.children.contains child then parent
  else if connector == parent.connector || parent.size < 2 then
    match child with
    | .node inner =>
      if absorbs connector inner then
        node connector parent.isNegated (parent.children ++ inner.children)
      else node connector parent.isNegated (parent.children ++ [child])
    | .leaf _ _ => node connector parent.isNegated (parent.children ++ [child])
  else node connector false [.node parent, child]

def add (parent other : Condition) (connector : Connector) : Condition :=
  parent.addChild (.node other) connector

/-- The node that stands for the opposite; the node itself becomes its only child. -/
def negate : Condition → Condition
  | node connector negated children => node .and false [.node (node connector (!negated) children)]

def combine (a b : Condition) (connector : Connector) : Condition :=
  if b.isEmpty then a
  else if a.isEmpty then b
  else (empty.add a connector).add b connector

def inverted (c : Condition) : Condition := (empty.add c .and).negate

/-- The node to which a group under `connector` can be appended. -/
def openGroup (parent : Condition) (connector : Connector) : Condition :=
  match parent with
  | node c negated children =>
    if children.length = 1 then node connector negated children
    else if c != connector && !children.isEmpty then node connector false [.node parent]
    else parent

def closeGroup (parent group : Condition) : Condition :=
  node parent.connector parent.isNegated
    (parent.children ++ [.node (node group.connector false group.children)])

mutual

def leaves : Condition → List (String × Value)
  | node _ _ children => childrenLeaves children

def childrenLeaves : List Child → List (String × Value)
  | [] => []
  | .node inner :: rest => leaves inner ++ childrenLeaves rest
  | .leaf expression v :: rest => (expression, v) :: childrenLeaves rest

end

end Condition

end RecordSearch
