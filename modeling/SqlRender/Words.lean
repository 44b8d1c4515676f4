/-!
# Words — how many values machine words have

Signed words have as many values as unsigned ones, half of them below zero.
-/

namespace SqlRender

/-- The number of values of 32 bits. -/
def halfWordSize : Nat := 4294967296

/-- The number of values of 64 bits. -/
def wordSize : Nat := 18446744073709551616

/-- The number of values of 128 bits. -/
def doubleWordSize : Nat := 340282366920938463463374607431768211456

end SqlRender
