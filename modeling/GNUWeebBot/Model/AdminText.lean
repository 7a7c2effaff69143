import GNUWeebBot.Model.Admin

/-!
# The text of a command in memory

The entry of `003_admin` up to `out_run`, and what it calls, as they read the text: through pointers,
byte by byte, with the words copied into `yx`. `parseCommand` is the same on lists.
-/

namespace GNUWeebBot

open Fill

/-- A read behind the terminator of the text. -/
inductive TextFault
  | overread
  deriving DecidableEq, Repr

/-- `*tx`, where `tx` points `i` bytes into the text. -/
def byteAt {σ : Type} (text : List UInt8) (i : ℕ) : Fill TextFault σ UInt8 :=
  if i ≤ text.length then pure (text.getD i 0) else crash .overread

/-- A turn of the loop of `strtolower_cp`, which fills `dest`: whether the word has ended. -/
def copyByte (text : List UInt8) (src i : ℕ) : Fill TextFault Buf Bool := do
  let c ← byteAt text (src + i)
  if c = 0 ∨ isWs c then
    modify fun dest => dest.put i [0]
    pure true
  else
    modify fun dest => dest.put i [toLower c]
    pure false

/-- The loop from `i` on, where `dst_len` is `left + 1` more. -/
def strtolowerCpLoop (text : List UInt8) (src : ℕ) : (left i : ℕ) → Fill TextFault Buf Bool
  | 0, i => copyByte text src i
  | left + 1, i => do
    let ended ← copyByte text src i
    if ended then pure true else strtolowerCpLoop text src left (i + 1)

def strtolowerCpAt (text : List UInt8) (src dstLen : ℕ) : Fill TextFault Buf Bool :=
  strtolowerCpLoop text src (dstLen - 1) 0

/-- `!strncmp(keyword, yx, strlen(keyword))`. -/
def startsWith (keyword : List UInt8) (yx : Buf) : Bool := yx.read 0 keyword.length == keyword

def isAnAdminMentionAt (text : List UInt8) (tx : ℕ) : Fill TextFault Buf Bool := do
  let c ← byteAt text tx
  if c ≠ 64 then pure false
  else
    let copied ← strtolowerCpAt text (tx + 1) 9
    if !copied then pure false
    else
      let yx ← read id
      if !startsWith (ascii "admin") yx then pure false
      else
        let tx := tx + 1 + 5
        let c ← byteAt text tx
        let tx := if c = 115 then tx + 1 else tx
        let c ← byteAt text tx
        pure (!(c ≠ 0 ∧ !isWs c))

/-- `while (is_ws(*tx)) tx++;`, with the bytes that are left. -/
def skipWsAt {σ : Type} (text : List UInt8) : (left tx : ℕ) → Fill TextFault σ ℕ
  | 0, _ => crash .overread
  | left + 1, tx => do
    let c ← byteAt text tx
    if isWs c then skipWsAt text left (tx + 1) else pure tx

/-- The entry before it looks at a replied-to message: the command, where the reason is, and whether
the text is a mention. The state is `yx`, here or in `is_an_admin_mention`. -/
def parseCommandAt (text : List UInt8) : Fill TextFault Buf (Option (ModCmd × Option ℕ × Bool)) := do
  let c ← byteAt text 0
  if c ≠ 33 ∧ c ≠ 47 ∧ c ≠ 46 ∧ c ≠ 126 then
    let mention ← isAnAdminMentionAt text 0
    pure (if mention then some (.report, none, true) else none)
  else
    let copied ← strtolowerCpAt text 1 9
    if !copied then pure none
    else
      let yx ← read id
      match keywords.find? (fun k => startsWith (ascii k.1) yx) with
      | none => pure none
      | some (keyword, cmd) =>
        let tx := 1 + keyword.length
        let c ← byteAt text tx
        if c = 0 then pure (some (cmd, none, false))
        else if !isWs c then pure none
        else
          let reason ← skipWsAt text (text.length + 1 - tx) tx
          pure (some (cmd, some reason, false))

end GNUWeebBot
