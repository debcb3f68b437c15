/-!
Character classes given as tables of closed ranges of code points.
-/

namespace Codeweave.Text

def inRanges (table : List (Nat × Nat)) (c : Char) : Bool :=
  table.any fun (low, high) => low ≤ c.toNat && c.toNat ≤ high

end Codeweave.Text
