namespace Ticker.Unicode

structure Interval where
  first : Nat
  last : Nat

def Interval.contains (i : Interval) (c : Char) : Bool :=
  i.first ≤ c.toNat && c.toNat ≤ i.last

def covers (table : List Interval) (c : Char) : Bool := table.any (·.contains c)

theorem covers_iff {table : List Interval} {c : Char} :
    covers table c = true ↔ ∃ i ∈ table, i.first ≤ c.toNat ∧ c.toNat ≤ i.last := by
  simp [covers, Interval.contains]

end Ticker.Unicode
