/-!
# Powers of two and ten

The powers that binary and decimal notation are made of.
-/

namespace AccessorSchema

/-- `2 ^ k`, as a call of `Nat.pow`. -/
def powerOfTwo (k : Nat) : Nat := Nat.pow 2 k

/-- `10 ^ k`, as a call of `Nat.pow`. -/
def powerOfTen (k : Nat) : Nat := Nat.pow 10 k

end AccessorSchema
