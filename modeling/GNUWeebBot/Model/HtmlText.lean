import GNUWeebBot.Lib.Buffer
import GNUWeebBot.Model.Json

/-!
# Text that is composed in a buffer

`snprintf`, `htmlspecialchars` of `string.c` and the parts of the moderation replies of
`admin.c`. Offsets are exact integers. The counters of the remaining space are of the type
`size_t` and wrap.
-/

namespace GNUWeebBot

/-- `a + b` in `size_t`, where `b` is a difference. -/
def sizeAdd (a : ℕ) (b : ℤ) : ℕ := ((a + b) % 2 ^ 64).toNat

/-- `snprintf` of a text at an offset, which has `size` bytes of space. -/
def snprintf (b : Buf) (off size : ℕ) (text : List UInt8) : Buf :=
  if size = 0 then b else b.put off (text.take (size - 1) ++ [0])

def htmlMap (c : UInt8) : List UInt8 :=
  if c = 60 then ascii "&lt;"
  else if c = 62 then ascii "&gt;"
  else if c = 34 then ascii "&quot;"
  else if c = 38 then ascii "&amp;"
  else [c]

/-- The loop of `htmlspecialchars`: the buffer, `j` and the last `len`, also of a character that
did not fit. -/
def htmlLoop (off outlen : ℕ) : List UInt8 → Buf → ℕ → ℕ → Buf × ℕ × ℕ
  | [], b, j, len => (b, j, len)
  | c :: input, b, j, _ =>
    let mapTo := htmlMap c
    if j + mapTo.length - 1 ≥ outlen then (b, j, mapTo.length)
    else htmlLoop off outlen input (b.put (off + j) mapTo) (j + mapTo.length) mapTo.length

/-- `j` before the terminator is written, where the loop has left `j` and `len`. It is an exact integer;
the one of the code wraps below zero. -/
def htmlRollBack (outlen j len : ℕ) : ℤ := if j + 1 > outlen then (j : ℤ) - len else j

/-- `htmlspecialchars` to an offset of a buffer, with what it returns. -/
def htmlspecialchars (b : Buf) (off outlen : ℕ) (input : List UInt8) : Buf × ℤ :=
  let (b, j, len) := htmlLoop off outlen input b 0 0
  if outlen > 0 then
    let j : ℤ := if j + 1 > outlen then (j : ℤ) - len else j
    (b.put (off + (j + 1)).toNat [0], j + 1)
  else (b, j)

/-- The text before a name. -/
def linkText (id : ℕ) : List UInt8 := ascii "<a href=\"tg://user?id=" ++ ascii (toString id) ++ ascii "\">"

/-- `gen_name_link` for a first name that is not `NULL`: the buffer and the length. -/
def genNameLink (b : Buf) (sps id : ℕ) (first : List UInt8) (last : CharPtr) : Buf × ℕ :=
  if sps < 32 then (b, 0)
  else
    let sps := sizeSub sps 5
    let link := linkText id
    let b := snprintf b 0 sps link
    let ret := link.length
    let sps := sizeSub sps link.length
    let name := htmlspecialchars b ret sps (first.take 0xff)
    let b := name.1
    let ret := (ret + (name.2 - 1)).toNat
    let sps := sizeAdd sps name.2
    match last with
    | none => (b.put ret (ascii "</a>" ++ [0]), ret + 4)
    | some last =>
      let b := b.put ret (ascii " ")
      let ret := ret + 1
      let name := htmlspecialchars b ret sps (last.take 0xff)
      let b := name.1
      let ret := (ret + (name.2 - 1)).toNat
      (b.put ret (ascii "</a>" ++ [0]), ret + 4)

/-- The reason after the text of a moderation reply that ends at `pos`. -/
def putReason (b : Buf) (pos sps : ℕ) (reason : CharPtr) : Buf :=
  match reason with
  | none => b
  | some reason =>
    let b := b.put pos (ascii "\n<b>Message:</b> " ++ [0])
    let pos := pos + 17
    let sps := sizeSub sps 18
    let escaped := htmlspecialchars b pos sps (reason.take sps)
    escaped.1.put (pos + escaped.2 - 1).toNat [0]

end GNUWeebBot
