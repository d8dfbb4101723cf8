/-!
# Powers of whole numbers

A module may see other ways to read a power than the modules that it imports, and the two readings
are not the same term.
-/

namespace Concord

/-- The power that a type defines for itself is read before any other, so a power in a definition is
the power in what is proved about it. -/
@[default_instance 20000]
instance (priority := 2000) instPowOfNatPow {α : Type _} [NatPow α] : Pow α Nat :=
  instPowNat

end Concord
