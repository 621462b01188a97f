import Mathlib.Tactic

/-!
# The largest machine integers

Where the source saturates, overflows or refuses a number, it does so at one of these
bounds.  Sizes are those of a 64-bit target.
-/

namespace TupoProxy

def u8Max : ℕ := 2 ^ 8 - 1
def u16Max : ℕ := 2 ^ 16 - 1
def u32Max : ℕ := 2 ^ 32 - 1
def u64Max : ℕ := 2 ^ 64 - 1
def usizeMax : ℕ := 2 ^ 64 - 1
def i64Max : ℕ := 2 ^ 63 - 1

end TupoProxy
