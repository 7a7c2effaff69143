import GNUWeebBot.Lib.Buffer

/-!
# Functions on C strings

`escapeshellarg`, `trim_len`, `trim_len_cpy`, `trim` and `trim_cpy` of `string.c` on the
memory that holds the string. Pointers are offsets.
-/

namespace GNUWeebBot

/-- `strlen`, where the string ends within `fuel` bytes. -/
def strlenAt (b : Buf) (fuel str : ℕ) : ℕ := (b.cstr str fuel).length

lemma strlenAt_eq {b : Buf} {fuel str : ℕ} {s : List UInt8} (h : b.StringAt str s) (hfuel : s.length < fuel) :
    strlenAt b fuel str = s.length := by
  rw [strlenAt, h.cstr hfuel]

/-- The loop of `escapeshellarg` on the bytes of `str`, as it is built for POSIX: `cmd` and `y`. -/
def escapeLoop : List UInt8 → (cmd : Buf) → (y : ℕ) → Buf × ℕ
  | [], cmd, y => (cmd, y)
  | c :: str, cmd, y =>
    if c = 39 then
      let cmd := ((cmd.put y [39]).put (y + 1) [92]).put (y + 2) [39]
      escapeLoop str (cmd.put (y + 3) [c]) (y + 4)
    else escapeLoop str (cmd.put y [c]) (y + 1)

/-- The bytes of `str` that are escaped. -/
def shellArgLen (b : Buf) (fuel str len : ℕ) : ℕ := if len > 0 then len else strlenAt b fuel str

/-- The size of the buffer that `escapeshellarg` allocates where it is given none. -/
def shellArgSize (l : ℕ) : ℕ := l * 4 + 1

/-- `escapeshellarg` into the buffer `cmd`, with `*res_len`. -/
def escapeshellarg (cmd b : Buf) (fuel str len : ℕ) : Buf × ℕ :=
  let l := shellArgLen b fuel str len
  let cmd := cmd.put 0 [39]
  let (cmd, y) := escapeLoop (b.read str l) cmd 1
  let cmd := cmd.put y [39]
  let y := y + 1
  (cmd.put y [0], y)

/-- `HEQ(' ') || HEQ('\n') || HEQ('\r') || HEQ('\v')`, and the same for `tail` -/
def isTrimmed (c : UInt8) : Bool := c == 32 || c == 10 || c == 13 || c == 11

/-- The buffer, the returned pointer and `*res_len`. -/
structure TrimRet where
  buf : Buf
  ptr : ℕ
  resLen : ℕ

/-- The loop on `head`: `head`, `len` and whether `head` was moved. -/
def skipHead (b : Buf) : (head len : ℕ) → (moveH : Bool) → ℕ × ℕ × Bool
  | head, 0, moveH => (head, 0, moveH)
  | head, len + 1, moveH =>
    if isTrimmed (b.mem head) then skipHead b (head + 1) len true else (head, len + 1, moveH)

/-- The loop on `tail`. -/
def skipTail (b : Buf) : (tail len : ℕ) → (moveT : Bool) → ℕ × ℕ × Bool
  | tail, 0, moveT => (tail, 0, moveT)
  | tail, len + 1, moveT =>
    if isTrimmed (b.mem tail) then skipTail b (tail - 1) len true else (tail, len + 1, moveT)

/-- `tail` is not read where the length is zero. -/
def trimLen (b : Buf) (head len : ℕ) : TrimRet :=
  let tail := head + len - 1
  let (head, len, _) := skipHead b head len false
  let (tail, len, moveT) := skipTail b tail len false
  let b := if len > 0 && moveT then b.put (tail + 1) [0] else b
  ⟨b, head, len⟩

def trimLenCpy (b : Buf) (head len : ℕ) : TrimRet :=
  let start := head
  let tail := head + len - 1
  let (head, len, moveH) := skipHead b head len false
  let (_, len, _) := skipTail b tail len false
  if moveH then
    let b := if len > 0 then b.put start (b.read head len) else b
    ⟨b.put (start + len) [0], start, len⟩
  else ⟨b, start, len⟩

def trim (b : Buf) (fuel str : ℕ) : TrimRet := trimLen b str (strlenAt b fuel str)

def trimCpy (b : Buf) (fuel str : ℕ) : TrimRet := trimLenCpy b str (strlenAt b fuel str)

end GNUWeebBot
