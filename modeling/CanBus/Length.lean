/-!
# Length — payload lengths that a length code can name

Codes 0 to 8 name their own length; above, lengths grow in steps up to 64 bytes.
-/

namespace CanBus.Length

/-- The lengths by code. -/
def table : List Nat := [0, 1, 2, 3, 4, 5, 6, 7, 8, 12, 16, 20, 24, 32, 48, 64]

/-- The largest payload lengths that an adapter may offer. -/
def offered : List Nat := [8, 12, 16, 20, 24, 32, 48, 64]

/-- The length that a code names. -/
def ofCode? (code : Nat) : Option Nat := table[code]?

/-- The least code whose length holds `length` bytes. -/
def code? (length : Nat) : Option Nat := table.findIdx? (length ≤ ·)

/-- The bytes missing to the next length that a code names. -/
def padding? (length : Nat) : Option Nat :=
  (code? length).bind fun code => (ofCode? code).map (· - length)

end CanBus.Length
