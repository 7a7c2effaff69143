import Mathlib.Algebra.Ring.Int.Defs
import Mathlib.Algebra.Ring.Nat
import Mathlib.Data.Int.Order.Basic
import Mathlib.Tactic.Common

/-!
# Constants of the C environment
-/

namespace GNUWeebBot

/-! ### `errno` values, as on Linux -/

def EINTR : ℤ := 4
def EPERM : ℤ := 1
def EAGAIN : ℤ := 11
def ENOMEM : ℤ := 12
def EINVAL : ℤ := 22
def E2BIG : ℤ := 7
def EOVERFLOW : ℤ := 75
def EBADMSG : ℤ := 74
def ENETDOWN : ℤ := 100
def EINPROGRESS : ℤ := 115
def ECANCELED : ℤ := 125

/-! ### Sizes of `gwbot.h` and `server.c` -/

def CHPKT_DATA_BUFSIZ : ℕ := 0x6000

/-- `offsetof(struct chan_pkt, data)`. -/
def offsetofData : ℕ := 2

/-- `sizeof(struct chan_pkt)`, the size of `raw_buf` too. -/
def sizeofRawBuf : ℕ := offsetofData + CHPKT_DATA_BUFSIZ

def EPL_MAP_TO_NOP : ℕ := 0
def EPL_MAP_SHIFT : ℕ := 1
def EPL_MAP_SIZE : ℕ := 0xffff

/-- `a - b` in `size_t` (LP64). -/
def sizeSub (a b : ℕ) : ℕ := (a + 2 ^ 64 - b) % 2 ^ 64

lemma sizeSub_of_le {a b : ℕ} (hab : b ≤ a) (ha : a < 2 ^ 64) : sizeSub a b = a - b := by
  unfold sizeSub
  omega

end GNUWeebBot
