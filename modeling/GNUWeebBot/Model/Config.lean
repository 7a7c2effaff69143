import GNUWeebBot.Lib.Buffer
import GNUWeebBot.Model.Inih

/-!
# The configuration and its arena

`gwbot_cfg_parse` with the arena that holds the strings of the configuration, as the release build has it:
`TASSERT` is empty. A pointer into the arena is its offset. `blocks` records what `ar_strndup` returned,
with the bytes it copied; no branch reads it.
-/

namespace GNUWeebBot

structure Arena where
  addr : Buf
  size : ℕ
  pos : ℕ
  blocks : List (ℕ × List UInt8)

def arInit (ar : Buf) (size : ℕ) : Arena := ⟨ar, size, 0, []⟩

def arUnusedSize (a : Arena) : ℕ := sizeSub a.size a.pos

def internalArAlloc (a : Arena) (len : ℕ) : ℕ × Arena := (a.pos, { a with pos := (a.pos + len) % 2 ^ 64 })

def arStrndup (a : Arena) (str : List UInt8) (inlen : ℕ) : ℕ × Arena :=
  let len := min str.length inlen
  let ret := a.pos
  let a := (internalArAlloc a (len + 1)).2
  (ret, { a with
    addr := (a.addr.put (ret + len) [0]).put ret (str.take len)
    blocks := (ret, str.take len) :: a.blocks })

/-! ### The handler -/

structure MysqlCfg where
  host : Option ℕ
  user : Option ℕ
  pass : Option ℕ
  db : Option ℕ
  port : ℕ
  unixSock : Option ℕ

structure GwbotCfg where
  token : Option ℕ
  bindAddr : Option ℕ
  backlog : ℤ
  bindPort : ℕ
  threadC : ℕ
  mysql : MysqlCfg
  useDb : Bool

/-- The digits at the front. -/
def digitsValue (acc : ℕ) : List UInt8 → ℕ
  | [] => acc
  | c :: s => if 48 ≤ c ∧ c ≤ 57 then digitsValue (acc * 10 + (c.toNat - 48)) s else acc

/-- `strtol` in base ten, with its clamping. -/
def strtol (s : List UInt8) : ℤ :=
  match Inih.lskip s with
  | 45 :: s => max (-(digitsValue 0 s : ℤ)) (-2 ^ 63)
  | 43 :: s => min (digitsValue 0 s) (2 ^ 63 - 1)
  | s => min (digitsValue 0 s) (2 ^ 63 - 1)

/-- `atoi`, which is `(int) strtol`. -/
def atoi (s : List UInt8) : ℤ := Int.bmod (strtol s) (2 ^ 32)

/-- The cast to `uint16_t`. -/
def toU16 (n : ℤ) : ℕ := (n % 2 ^ 16).toNat

structure ParseStruct where
  exec : Bool
  cfg : GwbotCfg
  arena : Arena

def ParseStruct.fail (ctx : ParseStruct) : Bool × ParseStruct := (false, { ctx with exec := false })

/-- A value goes into the arena, and its address into the configuration. -/
def ParseStruct.dup (ctx : ParseStruct) (value : List UInt8) (set : GwbotCfg → Option ℕ → GwbotCfg) : Bool × ParseStruct :=
  let dup := arStrndup ctx.arena value 255
  (true, { ctx with cfg := set ctx.cfg (some dup.1), arena := dup.2 })

def ParseStruct.set (ctx : ParseStruct) (cfg : GwbotCfg) : Bool × ParseStruct := (true, { ctx with cfg := cfg })

def parserHandler (ctx : ParseStruct) (call : Inih.Call) : Bool × ParseStruct :=
  let cfg := ctx.cfg
  if call.sect = ascii "credential" then
    if call.name = ascii "token" then ctx.dup call.value (fun cfg p => { cfg with token := p })
    else ctx.fail
  else if call.sect = ascii "storage" then (true, ctx)
  else if call.sect = ascii "mysql" then
    if call.name = ascii "use_db" then ctx.set { cfg with useDb := atoi call.value != 0 }
    else if call.name = ascii "host" then
      ctx.dup call.value (fun cfg p => { cfg with mysql := { cfg.mysql with host := p } })
    else if call.name = ascii "port" then ctx.set { cfg with mysql := { cfg.mysql with port := toU16 (atoi call.value) } }
    else if call.name = ascii "user" then
      ctx.dup call.value (fun cfg p => { cfg with mysql := { cfg.mysql with user := p } })
    else if call.name = ascii "pass" then
      ctx.dup call.value (fun cfg p => { cfg with mysql := { cfg.mysql with pass := p } })
    else if call.name = ascii "dbname" then
      ctx.dup call.value (fun cfg p => { cfg with mysql := { cfg.mysql with db := p } })
    else if call.name = ascii "unix_sock" then
      ctx.dup call.value (fun cfg p => { cfg with mysql := { cfg.mysql with unixSock := p } })
    else ctx.fail
  else if call.sect = ascii "socket" then
    if call.name = ascii "bind_addr" then ctx.dup call.value (fun cfg p => { cfg with bindAddr := p })
    else if call.name = ascii "bind_port" then ctx.set { cfg with bindPort := toU16 (atoi call.value) }
    else if call.name = ascii "backlog" then ctx.set { cfg with backlog := atoi call.value }
    else ctx.fail
  else if call.sect = ascii "worker" then
    if call.name = ascii "thread_c" then ctx.set { cfg with threadC := toU16 (atoi call.value) }
    else ctx.fail
  else ctx.fail

/-! ### The file -/

/-- `gwbot_cfg_parse`: `fopen` fails with an error or opens the bytes of the file. -/
def gwbotCfgParse (cfgFile : CharPtr) (fopen : List UInt8 → Except ℤ (List UInt8)) (cfg : GwbotCfg) (arena : Arena) :
    ℤ × GwbotCfg × Arena :=
  match cfgFile with
  | none | some [] => (0, cfg, arena)
  | some (c :: name) =>
    match fopen (c :: name) with
    | .error err => (-err, cfg, arena)
    | .ok file =>
      -- `ini_parse_file` returns a line number, never something negative
      let st := Inih.iniParseFile parserHandler file ⟨true, cfg, arena⟩
      (if st.user.exec then 0 else -EINVAL, st.user.cfg, st.user.arena)

end GNUWeebBot
