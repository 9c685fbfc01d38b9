/-! Look-up in a table sorted by the code point at which each entry starts. -/
namespace QueryLint.Text
set_option autoImplicit false

/-- The number of entries of `table` that start at or before `n`, given that it lies between `low`
and `high`; each round halves what is left, so `rounds` need not exceed the bits of the size. -/
def countStarting {α : Type} (table : Array α) (start : α → Nat) (n : Nat) :
    (rounds low high : Nat) → Nat
  | 0, low, _ => low
  | rounds + 1, low, high =>
    if low < high then
      let middle := low + (high - low) / 2
      match table[middle]? with
      | none => low
      | some entry =>
        if start entry ≤ n then countStarting table start n rounds (middle + 1) high
        else countStarting table start n rounds low middle
    else low

def lastStarting? {α : Type} (table : Array α) (start : α → Nat) (n : Nat) : Option α :=
  match countStarting table start n (table.size.log2 + 1) 0 table.size with
  | 0 => none
  | k + 1 => table[k]?

/-- Whether `n` lies in one of the runs, each given by its first and last code point. -/
def inRuns (runs : Array (Nat × Nat)) (n : Nat) : Bool :=
  match lastStarting? runs Prod.fst n with
  | none => false
  | some (_, last) => n ≤ last

end QueryLint.Text
