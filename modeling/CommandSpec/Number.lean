/-!
# Numbers

Powers are those of the core library also where a module sees a library with powers of its own, so
that a definition means the same in every module.
-/

-- Without these priorities the instances of an algebra library would be tried first.
attribute [default_instance 20000, instance (2000)] instPowNat

namespace CommandSpec

/-- The sum of some numbers. -/
def sumOf (ns : List Nat) : Nat :=
  ns.foldl (· + ·) 0

end CommandSpec
