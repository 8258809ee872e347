import Polystore.Template.Referent

/-!
What is left to the runtime: how deep the lists and objects of a cached text may be nested before
reading it is given up, and which attributes values have besides those that are known.
-/

namespace Polystore

structure Runtime where
  nesting : Nat
  objects : Template.Objects

end Polystore
