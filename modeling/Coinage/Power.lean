/-!
# Powers of natural numbers

A library of algebra has a power of its own for natural numbers, and where it is in
scope it would be found first.  The definitions of this library are about the power
that comes with the language, whatever else is in scope; they open this namespace to
say so.
-/

namespace Coinage.Power

attribute [scoped instance (2000)] instPowNat

end Coinage.Power
