/-!
# Semantic models

A semantic model is the session in which a tree was bound, one for each bound
document.  Opening a document again makes another model, so models are told apart
by the order in which they were opened and not by their paths.

## Main definitions

* `Model` — a semantic model
-/

namespace BoundTree

/-- The session in which a document was bound. -/
structure Model where
  /-- The number of models opened before this one. -/
  id : Nat
  /-- The path of the document. -/
  path : String
  deriving DecidableEq

end BoundTree
