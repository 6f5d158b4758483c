/-! # Numbers of so many bits

* `Limit.bits16` and so on — the first number that does not fit. -/

namespace Switchboard.Limit

def bits16 : Nat := 65536

def bits31 : Nat := 2147483648

def bits32 : Nat := 4294967296

/-- Numbers of 63 bits lie below this, and those of 64 bits with sign as far below zero. -/
def bits63 : Nat := 9223372036854775808

def bits64 : Nat := 18446744073709551616

end Switchboard.Limit
