import GNUWeebBot.Lib.Buffer
import GNUWeebBot.Model.HtmlText

/-!
# The response of a request

`tg_api_post` with the buffer that `write_callback` fills. What `malloc` and `realloc` return is the content
of the memory, or `none`; curl is a function of what it is given, and its transfer is the chunks it
passes to the callback and whether it went well.
-/

namespace GNUWeebBot

/-- A `tga_res_t` that has a body. The zeroed one is `none` in a handle. -/
structure TgaRes where
  body : Buf
  len : ℕ
  allocated : ℕ

/-- `data` are the `size * nmemb` bytes. -/
def writeCallback (res : TgaRes) (data : List UInt8) (realloc : Option (ℕ → UInt8)) : ℕ × TgaRes :=
  let addLen := data.length
  if (addLen + res.len + 2) % 2 ^ 64 ≥ res.allocated then
    let allocated := (res.allocated * 2 + addLen) % 2 ^ 64
    match realloc with
    | none => (0, res)
    | some junk =>
      let body := res.body.resize (min res.allocated allocated) junk
      (addLen, ⟨(body.put res.len data).put (res.len + addLen) [0], res.len + addLen, allocated⟩)
  else
    (addLen, { res with
      body := (res.body.put res.len data).put (res.len + addLen) [0]
      len := res.len + addLen })

inductive AllocatedRes
  | ok (res : TgaRes)
  | noMemory
  | panicked

def tgApiAllocateRes (res : Option TgaRes) (malloc : Option (ℕ → UInt8)) : AllocatedRes :=
  match res with
  | none =>
    match malloc with
    | none => .noMemory
    | some junk => .ok ⟨Buf.fresh junk, 0, 0x1000⟩
  | some res => if res.allocated = 0 then .panicked else .ok { res with len := 0 }

inductive ContentType
  | appXWwwFormUrlencoded
  | appJson

structure TgaHandle where
  token : CharPtr
  method : CharPtr
  body : CharPtr
  contentType : ContentType
  res : Option TgaRes

/-- `tga_screate`. -/
def tgaScreate (token : CharPtr) : TgaHandle := ⟨token, none, none, .appXWwwFormUrlencoded, none⟩

/-! ### The URL -/

/-- `sizeof(url)`. -/
def urlSize : ℕ := 512

/-- One of the two loops; the second part says that it found no more room. -/
def appendUrl (url : List UInt8) : List UInt8 → List UInt8 × Bool
  | [] => (url, false)
  | c :: s => if (url ++ [c]).length ≥ urlSize - 2 then (url ++ [c], true) else appendUrl (url ++ [c]) s

def postUrl (token method : List UInt8) : List UInt8 :=
  let (url, full) := appendUrl (ascii "https://api.telegram.org/bot") token
  if full then url else (appendUrl (url ++ [47]) method).1

/-! ### The transfer -/

structure Transfer where
  chunks : List (List UInt8 × Option (ℕ → UInt8)) -- with the memory that `realloc` would return
  ok : Bool

/-- What `malloc` and curl do; `curl` is `none` where `curl_easy_init` fails. -/
structure PostEnv where
  malloc : Option (ℕ → UInt8)
  curl : List UInt8 → CharPtr → ContentType → Option Transfer

/-- curl ends the transfer at a chunk that the callback does not take as a whole. -/
def passChunks (res : TgaRes) : List (List UInt8 × Option (ℕ → UInt8)) → Bool × TgaRes
  | [] => (true, res)
  | (data, realloc) :: chunks =>
    let taken := writeCallback res data realloc
    if taken.1 = data.length then passChunks taken.2 chunks else (false, taken.2)

def curlEasyPerform (res : TgaRes) (transfer : Transfer) : Bool × TgaRes :=
  let passed := passChunks res transfer.chunks
  (passed.1 && transfer.ok, passed.2)

/-- `none` is the `panic`. -/
def tgApiPost (handle : TgaHandle) (env : PostEnv) : Option (ℤ × TgaHandle) :=
  match handle.method, handle.token with
  | none, _ => some (-EINVAL, handle)
  | some _, none | some _, some [] => some (-EINVAL, handle)
  | some method, some (c :: token) =>
    match tgApiAllocateRes handle.res env.malloc with
    | .panicked => none
    | .noMemory => some (-ENOMEM, { handle with res := none })
    | .ok res =>
      match env.curl (postUrl (c :: token) method) handle.body handle.contentType with
      | none => some (-ENOMEM, { handle with res := some res })
      | some transfer =>
        let performed := curlEasyPerform res transfer
        some (if performed.1 then 0 else -EBADMSG, { handle with res := some performed.2 })

end GNUWeebBot
