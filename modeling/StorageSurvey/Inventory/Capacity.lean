/-!
# Capacity

Used and total bytes of a pool, a node or a cluster.  Sums stop at the largest word instead of
wrapping around.
-/

namespace StorageSurvey.Inventory

/-- The sum of two words, or the largest word if that is less. -/
def saturatingAdd (x y : UInt64) : UInt64 :=
  UInt64.ofNat (min (x.toNat + y.toNat) (UInt64.size - 1))

theorem toNat_saturatingAdd (x y : UInt64) :
    (saturatingAdd x y).toNat = min (x.toNat + y.toNat) (UInt64.size - 1) := by
  unfold saturatingAdd
  rw [UInt64.toNat_ofNat_of_lt']
  have : 0 < UInt64.size := by decide
  omega

/-- Used and total bytes. -/
structure Capacity where
  used : UInt64
  total : UInt64
  deriving DecidableEq, Repr

namespace Capacity

def zero : Capacity :=
  ⟨0, 0⟩

def add (c d : Capacity) : Capacity :=
  ⟨saturatingAdd c.used d.used, saturatingAdd c.total d.total⟩

/-- The sum of several capacities. -/
def sum (capacities : List Capacity) : Capacity :=
  capacities.foldl add zero

end Capacity

end StorageSurvey.Inventory
