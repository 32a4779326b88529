import RecordSearch.Condition.Tree

namespace RecordSearch.Condition

/-- Whether a condition has to be a group of its own, so that those before it keep their meaning. -/
def needsGroup (root : Condition) (join connector : Connector) (count : Nat) : Bool :=
  !root.isEmpty && connector != join && 1 < count

mutual

def extend (root : Condition) (join : Connector) : Condition → Condition
  | node connector negated children =>
    let grouped := needsGroup root join connector children.length
    let filled := extendBy (if grouped then empty else root) join connector children
    let group := if negated then filled.negate else filled
    if grouped then (root.openGroup join).closeGroup group else group

/-- The root with children joined to it, the first by `join` and the others by `connector`. -/
def extendBy (root : Condition) (join connector : Connector) : List Child → Condition
  | [] => root
  | .node inner :: rest =>
    extendBy ((root.openGroup join).closeGroup (extend empty .and inner)) connector connector rest
  | .leaf expression v :: rest =>
    extendBy (root.addChild (.leaf expression v) join) connector connector rest

end

end RecordSearch.Condition
