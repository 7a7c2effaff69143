import GNUWeebBot.Model.FormBody

/-!
# The command of the translate module

`parse_command` of `translate.c`. The text is a C string, so the end of the list is its
terminator; `payload` is written to as the parser goes, also where it gives up in the end. An
event is whatever `tge_get_reply_to` and `tge_get_text` are applied to.
-/

namespace GNUWeebBot.Translate

def CODE_BUFFER_SIZE : ℕ := 0x20
def TEXT_BUFFER_SIZE : ℕ := 0x8000

/-- The size of `payload` in `do_translate`. -/
def payloadSize : ℕ := TEXT_BUFFER_SIZE + CODE_BUFFER_SIZE * 2

def myTolower (c : UInt8) : UInt8 := if 65 ≤ c ∧ c ≤ 90 then c + 32 else c

def isWs (c : UInt8) : Bool := c == 32 || c == 10 || c == 9 || c == 13

/-- The end of a string that starts at an offset of the payload. -/
def strlen (b : Buf) (off : ℕ) : ℕ := (b.cstr off payloadSize).length

/-- What the parser writes through its pointers. -/
structure Out (E : Type) where
  payload : Buf
  payloadLen : ℕ
  evt : E

/-- The loop that takes a language code: the code and what follows, `none` where it is too long. -/
def takeCode (rcx : ℕ) : List UInt8 → Option (List UInt8 × List UInt8)
  | [] => some ([], [])
  | c :: text =>
    if isWs c then some ([], c :: text)
    else if rcx + 1 ≥ CODE_BUFFER_SIZE then none
    else (takeCode (rcx + 1) text).map (fun code => (c :: code.1, code.2))

def skipWs (text : List UInt8) : List UInt8 := text.dropWhile isWs

/-- The optional byte before the name. -/
def skipMark : List UInt8 → List UInt8
  | [] => []
  | c :: text => if c = 33 ∨ c = 46 ∨ c = 47 ∨ c = 126 then text else c :: text

/-- The command name: what follows it, `none` where it is another one. -/
def takeName (text : List UInt8) : Option (List UInt8) :=
  match skipMark text with
  | t :: r :: rest =>
    if myTolower t ≠ 116 then none
    else if myTolower r ≠ 114 ∧ myTolower r ≠ 108 then none
    else some rest
  | _ => none

section Parse

variable {E : Type} (getReplyTo : E → Option E) (getText : E → CharPtr)

/-- The label `out_replied_2_arg`. -/
def outReplied2Arg (out : Out E) (ptr : ℕ) : ℤ × Out E :=
  match getReplyTo out.evt with
  | none => (-ECANCELED, out)
  | some replyTo =>
    match getText replyTo with
    | none => (-ECANCELED, out)
    | some rtText =>
      if rtText.length > TEXT_BUFFER_SIZE / 4 - 1 then (-ECANCELED, out)
      else
        let payload := out.payload.put ptr (ascii "&text=" ++ [0, 0])
        let ptr := ptr + 6
        let payload := urlencode payload ptr rtText true
        (0, { payload, payloadLen := ptr + strlen payload ptr, evt := replyTo })

/-- The label `out_replied_1_arg`. -/
def outReplied1Arg (out : Out E) (ptr : ℕ) : ℤ × Out E :=
  outReplied2Arg getReplyTo getText { out with payload := out.payload.put ptr (ascii "&fr=auto") } (ptr + 8)

/-- The label `out_replied_0_arg`. -/
def outReplied0Arg (out : Out E) (ptr : ℕ) : ℤ × Out E :=
  outReplied1Arg getReplyTo getText { out with payload := out.payload.put ptr (ascii "to=en" ++ [0, 0, 0]) } (ptr + 5)

/-- The target language and what follows. -/
def parseTarget (out : Out E) (ptr : ℕ) (text : List UInt8) : ℤ × Out E :=
  match takeCode 0 text with
  | none => (-ECANCELED, out)
  | some (code, text) =>
    let payload := out.payload.put ptr (ascii "&to=")
    let ptr := ptr + 4
    let payload := urlencode payload ptr code true
    let ptr := ptr + strlen payload ptr
    let out := { out with payload }
    match skipWs text with
    | [] => outReplied2Arg getReplyTo getText out ptr
    | c :: rest =>
      let payload := out.payload.put ptr (ascii "&text=" ++ [0, 0])
      let ptr := ptr + 6
      let payload := urlencode payload ptr (c :: rest) true
      let ptr := ptr + strlen payload ptr
      (0, { out with payload, payloadLen := ptr })

/-- The arguments, after the white space that follows the name. -/
def parseSource (out : Out E) (text : List UInt8) : ℤ × Out E :=
  match takeCode 0 text with
  | none => (-ECANCELED, out)
  | some (code, text) =>
    let payload := out.payload.put 0 (ascii "fr=" ++ [0])
    let ptr := 3
    let payload := urlencode payload ptr code true
    let ptr := ptr + strlen payload ptr
    match skipWs text with
    | [] => outReplied1Arg getReplyTo getText { out with payload := payload.put 0 (ascii "to") } ptr
    | c :: rest => parseTarget getReplyTo getText { out with payload } ptr (c :: rest)

def parseCommand (text : List UInt8) (out : Out E) : ℤ × Out E :=
  if text.length > TEXT_BUFFER_SIZE / 4 - 1 then (-ECANCELED, out)
  else
    match takeName text with
    | none => (-ECANCELED, out)
    | some [] => outReplied0Arg getReplyTo getText out 0
    | some (c :: rest) =>
      if !isWs c then (-ECANCELED, out)
      else
        match skipWs rest with
        | [] => outReplied0Arg getReplyTo getText out 0
        | c :: rest => parseSource getReplyTo getText out (c :: rest)

end Parse

end GNUWeebBot.Translate
