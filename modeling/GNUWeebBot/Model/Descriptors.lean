import GNUWeebBot.Model.Server

/-!
# Descriptors of any size

`epl_map` has `EPL_MAP_SIZE` elements and is indexed with descriptors, which the process
limit alone bounds. Here `accept` may return any descriptor that is not open, and the
elements of `epl_map` that a step reads or writes are listed.
-/

namespace GNUWeebBot

/-- `serverStep` without a bound on the descriptors of `accept`. -/
def serverStepAnyFd (s : Server) (act : ServerAct) : Option Server :=
  match act with
  | .tcpEvent env =>
    if s.panicked = true ∨ s.pool.aborted = true then none
    else
      match s.batch with
      | (fd, errMask) :: rest =>
        if s.mainFree ∧ fd = s.net.tcpFd ∧ AcceptNew s.net env then
          let (ret, net) := handleTcpEvent s.net errMask env
          some (s.afterTcpEvent rest ret net)
        else none
      | [] => none
  | act => serverStep s act

/-- The `i` in `state->epl_map[i]` of `run_acceptor`. -/
def acceptIndices (net : Net) (env : AcceptEnv) : List ℕ :=
  match env.accept with
  | .error _ => []
  | .ok chanFd =>
    if env.addrLen > sizeofSockaddrIn ∨ env.inetNtop.isNone = true then []
    else
      let popRet := (tssPop net.chanStk).1
      if popRet = -1 then []
      else if popRet.toNat + EPL_MAP_SHIFT ≥ EPL_MAP_SIZE then []
      else if env.gettimeofday.isOk = true ∧ env.epollAdd.isNone = true then [chanFd]
      else []

/-- The same of `handle_client_event`, and of the label `out_close` behind `submit_to_thread`. -/
def mapIndices (s : Server) : ServerAct → List ℕ
  | .epollWait _ => []
  | .tcpEvent env =>
    match s.batch with
    | (_, errMask) :: _ => if errMask then [] else acceptIndices s.net env
    | [] => []
  | .clientEvent _ _ => (s.batch.head?.map Prod.fst).toList
  | .pool (.submitToThread _) => (s.pending.map Prod.fst).toList
  | .pool _ => []

end GNUWeebBot
