namespace TurnTaking.Text

structure Span where
  first : Nat
  last : Nat

namespace Span

def contains (s : Span) (n : Nat) : Bool :=
  decide (s.first ≤ n) && decide (n ≤ s.last)

theorem contains_iff (s : Span) (n : Nat) : s.contains n = true ↔ s.first ≤ n ∧ n ≤ s.last := by
  simp [contains]

end Span

structure Stride where
  first : Nat
  last : Nat
  stride : Nat

namespace Stride

def contains (s : Stride) (n : Nat) : Bool :=
  decide (s.first ≤ n) && decide (n ≤ s.last) && (n - s.first) % s.stride == 0

theorem contains_iff (s : Stride) (n : Nat) :
    s.contains n = true ↔ s.first ≤ n ∧ n ≤ s.last ∧ (n - s.first) % s.stride = 0 := by
  simp [contains, and_assoc]

end Stride

def inSpans (spans : List Span) (c : Char) : Bool :=
  spans.any fun s => s.contains c.toNat

def inStrides (strides : List Stride) (c : Char) : Bool :=
  strides.any fun s => s.contains c.toNat

end TurnTaking.Text
