/-!
Powers and sums of whole numbers. The powers are those of the core library, in whatever company a
module is read.
-/

namespace ChartManifests

@[default_instance 20001]
instance (priority := 20001) naturalPower : Pow Nat Nat := instPowNat

@[default_instance 20000]
instance (priority := 20000) integerPower : Pow Int Nat := instPowNat

def totalOf (numbers : List Nat) : Nat := numbers.foldr (· + ·) 0

end ChartManifests
