/-! Unified ideographs of the first block. They are the plainest of characters: each stands
for itself, takes no part in compositions and runs from left to right, so that no table has
to be searched for them. -/

namespace Liveness.Unicode

def isIdeograph (c : Char) : Bool := 0x4E00 ≤ c.toNat && c.toNat ≤ 0x9FFF

end Liveness.Unicode
