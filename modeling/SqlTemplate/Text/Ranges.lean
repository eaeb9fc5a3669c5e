namespace SqlTemplate.Text

abbrev Ranges := List (Nat × Nat)

def inRanges : Ranges → Nat → Bool
  | [], _ => false
  | (lo, hi) :: ranges, n => if n < lo then false else n ≤ hi || inRanges ranges n

end SqlTemplate.Text
