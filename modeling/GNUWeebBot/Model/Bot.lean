import GNUWeebBot.Model.Modules
import GNUWeebBot.Model.Server

/-!
# The bot

The server, and the handler of every worker that has an event. A handler makes its calls one by one, while the main thread
and the other workers go on. A fault in a handler ends the process.
-/

namespace GNUWeebBot

open Fill

/-- The packet of a worker that is in `gwbot_event_handler`: its ticket and its string. -/
def Pool.handling (p : Pool) (tid : ℕ) : Option (ℕ × List UInt8) :=
  match p.workers tid with
  | some ⟨idx, .running⟩ => some ((p.threads idx).ticket, (p.threads idx).jsonStr)
  | _ => none

/-- `made` counts the calls that the handler of a worker has made, and `sent` is every call with the ticket of its packet. -/
structure Bot where
  server : Server
  made : ℕ → ℕ
  sent : List (ℕ × BotCall)
  crashed : Bool

def initBot (threadC tcpFd : ℕ) (chanJunk threadJunk : ℕ → ℕ → UInt8) : Bot where
  server := initServer threadC tcpFd chanJunk threadJunk
  made _ := 0
  sent := []
  crashed := false

inductive BotAct
  | server (act : ServerAct)
  | call (tid : ℕ)
  | crash (tid : ℕ)

/-- The worker that tests whether it has an event. -/
def ServerAct.woken : ServerAct → Option ℕ
  | .pool (.start tid) | .pool (.wake tid _) => some tid
  | _ => none

/-- The worker whose handler returns. -/
def ServerAct.finished : ServerAct → Option ℕ
  | .pool (.finish tid) => some tid
  | _ => none

section Handlers

/-! `worlds` is what a handler finds for the packet of a ticket: the answers to its calls and the memory of its buffers. -/

variable (jsonTokenerParse : List UInt8 → Json) (tokener : List UInt8 → Option Json)
  (misread : TgevPhoto Tgev → Fill Fault BotWorld ℤ) (worlds : ℕ → BotWorld)

def handlerRun (ticket : ℕ) (jsonStr : List UInt8) : Outcome Fault BotWorld ℤ :=
  gwbotEventHandler jsonTokenerParse tokener misread jsonStr { worlds ticket with calls := [] }

def handlerCalls (ticket : ℕ) (jsonStr : List UInt8) : List BotCall :=
  match handlerRun jsonTokenerParse tokener misread worlds ticket jsonStr with
  | .fault _ w | .ret _ w | .next _ w => w.calls

def handlerFaults (ticket : ℕ) (jsonStr : List UInt8) : Bool :=
  match handlerRun jsonTokenerParse tokener misread worlds ticket jsonStr with
  | .fault _ _ => true
  | .ret _ _ | .next _ _ => false

/-- The worker has made all its calls. -/
def Bot.spent (b : Bot) (tid : ℕ) (packet : ℕ × List UInt8) : Bool :=
  (handlerCalls jsonTokenerParse tokener misread worlds packet.1 packet.2).length ≤ b.made tid

/-- The handlers that return with this action can return. -/
def Bot.mayReturn (b : Bot) (act : ServerAct) : Bool :=
  act.finished.all fun tid => (b.server.pool.handling tid).all fun packet =>
    b.spent jsonTokenerParse tokener misread worlds tid packet &&
      !handlerFaults jsonTokenerParse tokener misread worlds packet.1 packet.2

def botStep (b : Bot) (act : BotAct) : Option Bot :=
  if b.crashed then none
  else match act with
    | .server act =>
      if b.mayReturn jsonTokenerParse tokener misread worlds act then
        (serverStep b.server act).map fun server =>
          { b with server, made := act.woken.elim b.made (fun tid => Function.update b.made tid 0) }
      else none
    | .call tid =>
      match b.server.pool.handling tid with
      | none => none
      | some (ticket, jsonStr) =>
        ((handlerCalls jsonTokenerParse tokener misread worlds ticket jsonStr)[b.made tid]?).map fun call =>
          { b with sent := b.sent ++ [(ticket, call)], made := Function.update b.made tid (b.made tid + 1) }
    | .crash tid =>
      match b.server.pool.handling tid with
      | none => none
      | some packet =>
        if b.spent jsonTokenerParse tokener misread worlds tid packet &&
            handlerFaults jsonTokenerParse tokener misread worlds packet.1 packet.2 then
          some { b with crashed := true }
        else none

end Handlers

end GNUWeebBot
