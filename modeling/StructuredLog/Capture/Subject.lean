import StructuredLog.Capture.Host

/-!
A host whose values are written out: trees of looks, with links to objects that lie outside the
tree. A link may occur among the members of its own object, which makes the object cyclic.
-/

namespace StructuredLog.Capture

inductive Subject where
  | node (look : Look Subject)
  | link (n : Int)

/-- An object that links lead to. -/
structure Linked where
  type : TypeDesc
  registeredAs : String
  ownText? : Option String := none
  members : List (Member Subject)

namespace Subject

/-- A value whose type is registered by its own name. -/
def plain (typeName : String) (shape : Shape Subject) : Subject :=
  .node { shape, type := ⟨typeName, false, false⟩, registeredAs := typeName }

def look (objects : Int → Linked) : Subject → Look Subject
  | node l => l
  | link n =>
    let o := objects n
    ⟨.object o.members, o.type, o.registeredAs, o.ownText?⟩

def wraps : Subject → Nat
  | node ⟨.wrapper inner, _, _, _⟩ => inner.wraps + 1
  | _ => 0

def host (objects : Int → Linked) : Host Subject where
  look := look objects
  wraps := wraps
  wraps_lt := by
    intro a b h
    match a with
    | .node ⟨shape, _, _, _⟩ =>
      simp only [look] at h
      subst h
      simp [wraps]
    | .link _ => simp [look] at h

end Subject

end StructuredLog.Capture
