/-!
# Hosts

An annotation is expanded by the compiler, or by a program on its own that takes the
same steps. They read the same types, but such a program knows few expressions
and leaves the others as they are.
-/

namespace ByteMachine.Tagging

/-- What expands an annotation. -/
inductive Host where
  | compiler | standalone
  deriving DecidableEq, Repr

def Host.knowsAll (host : Host) : Bool :=
  host = .compiler

end ByteMachine.Tagging
