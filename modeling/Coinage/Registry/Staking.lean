import Coinage.Registry

/-!
# The staking token

One registration that is ready made: a million `uatom` are one `atom`.
-/

namespace Coinage.Registry

/-- The name of the staking token. -/
def stakingDenom : String := "atom"

/-- The name of the base of the staking token. -/
def stakingBase : String := "uatom"

/-- The unit size of the staking token. -/
def stakingUnit : Decimal := .finite ⟨false, 1, 0⟩

/-- The unit size of the base of the staking token. -/
def stakingBaseUnit : Decimal := .finite ⟨false, 1, -6⟩

/-- Register the staking token with its base. -/
def registerStaking (registry : Registry) : Outcome Unit :=
  registry.register (.text stakingDenom) (.decimal stakingUnit)
    (.text stakingBase) (.decimal stakingBaseUnit)

end Coinage.Registry
