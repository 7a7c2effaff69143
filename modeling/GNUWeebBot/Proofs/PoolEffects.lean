import GNUWeebBot.Lib.Transition
import GNUWeebBot.Model.Pool

/-!
# What one action of the pool can do

`PoolEffect p act p'` lists the outcomes of an action with the guards under which the
code takes them. Every invariant of the pool is a case analysis over this list.
-/

namespace GNUWeebBot.Proofs

/-- The record of a new call of `submit_event`. -/
def withTicket (p : Pool) (fdataLen : ℕ) (chanPkt : Buf) : Pool :=
  { p with
    nextTicket := p.nextTicket + 1
    payload := Function.update p.payload p.nextTicket (chanPkt.read offsetofData fdataLen) }

def sqeNodeOf (chanPkt : Buf) (cpyLen ticket : ℕ) (junk : ℕ → UInt8) : QueNode :=
  ⟨cpyLen, ((Buf.fresh junk).put 0 (chanPkt.read 0 cpyLen)).put cpyLen [0], ticket⟩

/-- The slot after its event was handled and the SQE node, if any, was freed. -/
def finishedThread (th : Thread) : Thread :=
  if th.evFromSqe then { th with sqeNode := none } else th

def freedTickets (th : Thread) : List ℕ :=
  if th.evFromSqe then (th.sqeNode.map QueNode.ticket).toList else []

inductive PoolEffect (p : Pool) : PoolAct → Pool → Prop
  | enqueueFail (n : ℕ) (b : Buf) (alloc : Option (ℕ → UInt8)) (hmain : p.main = .idle)
      (hstk : p.threadStk.toList = []) :
      PoolEffect p (.submitEvent n b alloc) (withTicket p n b)
  | enqueue (n : ℕ) (b : Buf) (junk : ℕ → UInt8) (hmain : p.main = .idle)
      (hstk : p.threadStk.toList = []) :
      PoolEffect p (.submitEvent n b (some junk)) { withTicket p n b with
        sqes := p.sqes.push (sqeNodeOf b (offsetofData + n) p.nextTicket junk)
        accepted := p.nextTicket :: p.accepted }
  | popSubmit (n : ℕ) (b : Buf) (alloc : Option (ℕ → UInt8)) (i : ℕ) (stk : Tstack)
      (hmain : p.main = .idle) (hstk : p.threadStk.toList = i :: stk.toList) (hok : stk.Ok)
      (hcap : stk.capacity = p.threadStk.capacity) :
      PoolEffect p (.submitEvent n b alloc) { withTicket p n b with
        threadStk := stk
        main := .submit i (offsetofData + n) b p.nextTicket }
  | submitOnline (i cpyLen : ℕ) (b : Buf) (ticket create : ℕ)
      (hmain : p.main = .submit i cpyLen b ticket) (hfree : p.evLockFree i = true)
      (hon : (p.threads i).isOnline = true) :
      PoolEffect p (.submitToThread create) { p with
        threads := Function.update p.threads i (submitStore (p.threads i) b cpyLen ticket)
        main := .idle
        accepted := ticket :: p.accepted }
  | submitSpawn (i cpyLen : ℕ) (b : Buf) (ticket : ℕ)
      (hmain : p.main = .submit i cpyLen b ticket) (hfree : p.evLockFree i = true)
      (hoff : (p.threads i).isOnline = false) :
      PoolEffect p (.submitToThread 0) { p with
        threads := Function.update p.threads i (submitStore (p.threads i) b cpyLen ticket)
        main := .idle
        workers := Function.update p.workers p.nextTid (some ⟨i, .spawned⟩)
        nextTid := p.nextTid + 1
        accepted := ticket :: p.accepted }
  | submitNoThread (i cpyLen : ℕ) (b : Buf) (ticket create : ℕ)
      (hmain : p.main = .submit i cpyLen b ticket) (hfree : p.evLockFree i = true)
      (hoff : (p.threads i).isOnline = false) (hcreate : create ≠ 0) :
      PoolEffect p (.submitToThread create) { p with
        threads := Function.update p.threads i (submitStore (p.threads i) b cpyLen ticket)
        main := .idle }
  | dispatchBusy (hmain : p.main = .idle) (hstk : p.threadStk.toList = []) :
      PoolEffect p .dispatchPop p
  | popDispatch (i : ℕ) (stk : Tstack) (hmain : p.main = .idle) (hque : p.sqes.items ≠ [])
      (hstk : p.threadStk.toList = i :: stk.toList) (hok : stk.Ok)
      (hcap : stk.capacity = p.threadStk.capacity) :
      PoolEffect p .dispatchPop { p with threadStk := stk, main := .dispatch i }
  | dispatchOnline (i create : ℕ) (node : QueNode) (que : Fifo QueNode)
      (hmain : p.main = .dispatch i) (hfree : p.evLockFree i = true)
      (hque : p.sqes.items = node :: que.items) (hon : (p.threads i).isOnline = true) :
      PoolEffect p (.dispatchSqe create) { p with
        sqes := que
        threads := Function.update p.threads i (dispatchStore (p.threads i) node)
        main := .idle }
  | dispatchSpawn (i : ℕ) (node : QueNode) (que : Fifo QueNode)
      (hmain : p.main = .dispatch i) (hfree : p.evLockFree i = true)
      (hque : p.sqes.items = node :: que.items) (hoff : (p.threads i).isOnline = false) :
      PoolEffect p (.dispatchSqe 0) { p with
        sqes := que
        threads := Function.update p.threads i (dispatchStore (p.threads i) node)
        main := .idle
        workers := Function.update p.workers p.nextTid (some ⟨i, .spawned⟩)
        nextTid := p.nextTid + 1 }
  | dispatchNoThread (i create : ℕ) (node : QueNode) (que : Fifo QueNode)
      (hmain : p.main = .dispatch i) (hfree : p.evLockFree i = true)
      (hque : p.sqes.items = node :: que.items) (hoff : (p.threads i).isOnline = false)
      (hcreate : create ≠ 0) :
      PoolEffect p (.dispatchSqe create) { p with
        sqes := que
        threads := Function.update p.threads i (dispatchStore (p.threads i) node)
        main := .idle }
  | dispatchPanic (i create : ℕ) (hmain : p.main = .dispatch i) (hque : p.sqes.items = []) :
      PoolEffect p (.dispatchSqe create) { p with aborted := true }
  | startRun (tid idx : ℕ) (old : Phase) (hw : p.workers tid = some ⟨idx, old⟩)
      (hold : old = .spawned ∨ old = .again) (hfree : p.evLockFree idx = true)
      (hev : (p.threads idx).hasEvent = true) :
      PoolEffect p (.start tid) { p with
        threads := Function.update p.threads idx { p.threads idx with isOnline := true }
        workers := Function.update p.workers tid (some ⟨idx, .running⟩)
        handled := ((p.threads idx).ticket, (p.threads idx).jsonStr) :: p.handled }
  | startWait (tid idx : ℕ) (old : Phase) (hw : p.workers tid = some ⟨idx, old⟩)
      (hold : old = .spawned ∨ old = .again) (hfree : p.evLockFree idx = true)
      (hev : (p.threads idx).hasEvent = false) :
      PoolEffect p (.start tid) { p with
        threads := Function.update p.threads idx { p.threads idx with isOnline := true }
        workers := Function.update p.workers tid (some ⟨idx, .waiting 0⟩) }
  | wakeLeave (tid idx counter : ℕ) (ret : ℤ) (hw : p.workers tid = some ⟨idx, .waiting counter⟩)
      (hfree : p.evLockFree idx = true) (hout : (ret ≠ 0 ∧ counter = 300) ∨ p.stopEl = true) :
      PoolEffect p (.wake tid ret) { p with
        workers := Function.update p.workers tid (some ⟨idx, .leaving⟩) }
  | wakeRun (tid idx counter : ℕ) (ret : ℤ) (hw : p.workers tid = some ⟨idx, .waiting counter⟩)
      (hfree : p.evLockFree idx = true) (hstay : ¬((ret ≠ 0 ∧ counter = 300) ∨ p.stopEl = true))
      (hev : (p.threads idx).hasEvent = true) :
      PoolEffect p (.wake tid ret) { p with
        workers := Function.update p.workers tid (some ⟨idx, .running⟩)
        handled := ((p.threads idx).ticket, (p.threads idx).jsonStr) :: p.handled }
  | wakeWait (tid idx counter next : ℕ) (ret : ℤ) (hw : p.workers tid = some ⟨idx, .waiting counter⟩)
      (hfree : p.evLockFree idx = true) (hstay : ¬((ret ≠ 0 ∧ counter = 300) ∨ p.stopEl = true))
      (hev : (p.threads idx).hasEvent = false) :
      PoolEffect p (.wake tid ret) { p with
        workers := Function.update p.workers tid (some ⟨idx, .waiting next⟩) }
  | finishLeave (tid idx : ℕ) (hw : p.workers tid = some ⟨idx, .running⟩) (hstop : p.stopEl = true) :
      PoolEffect p (.finish tid) { p with
        threads := Function.update p.threads idx (finishedThread (p.threads idx))
        workers := Function.update p.workers tid (some ⟨idx, .leaving⟩)
        destroyed := freedTickets (p.threads idx) ++ p.destroyed }
  | finishClear (tid idx : ℕ) (hw : p.workers tid = some ⟨idx, .running⟩) (hgo : p.stopEl = false) :
      PoolEffect p (.finish tid) { p with
        threads := Function.update p.threads idx { finishedThread (p.threads idx) with hasEvent := false }
        workers := Function.update p.workers tid (some ⟨idx, .cleared⟩)
        destroyed := freedTickets (p.threads idx) ++ p.destroyed }
  | push (tid idx : ℕ) (hw : p.workers tid = some ⟨idx, .cleared⟩) :
      PoolEffect p (.push tid) { p with
        workers := Function.update p.workers tid (some ⟨idx, .pushed⟩)
        threadStk := (tssPush p.threadStk (p.threads idx).threadIdx).2 }
  | unlock (tid idx : ℕ) (hw : p.workers tid = some ⟨idx, .pushed⟩) :
      PoolEffect p (.unlock tid) { p with
        workers := Function.update p.workers tid (some ⟨idx, .again⟩) }
  | reset (tid idx : ℕ) (hw : p.workers tid = some ⟨idx, .leaving⟩) :
      PoolEffect p (.reset tid) { p with
        threads := Function.update p.threads idx
          (resetThread (p.threads idx) (p.threads idx).threadIdx)
        workers := Function.update p.workers tid none }
  | interrupt : PoolEffect p .interrupt { p with stopEl := true }

section

variable {p p' : Pool}

lemma submitEvent_effect (hok : p.threadStk.Ok) (hmain : p.main = .idle) (n : ℕ) (b : Buf)
    (alloc : Option (ℕ → UInt8)) :
    PoolEffect p (.submitEvent n b alloc) (submitEvent p n b alloc).2 := by
  unfold submitEvent
  rcases Tstack.tssPop_cases hok with ⟨hl, hp⟩ | ⟨i, stk, hl, hp, hok', hcap⟩
  · simp only [hp, if_true, enqueueToSqe, queEnqueue]
    cases p.sqes.isFull with
    | true => exact .enqueueFail n b alloc hmain hl
    | false =>
      cases alloc with
      | none => exact .enqueueFail n b none hmain hl
      | some junk =>
        have he := PoolEffect.enqueue n b junk hmain hl
        simp only [Bool.false_eq_true, if_false, Buf.read_length]
        exact he
  · have hne : (i : ℤ) ≠ -1 := by omega
    simp only [hp, if_neg hne, Int.toNat_natCast]
    exact .popSubmit n b alloc i stk hmain hl hok' hcap

lemma submitToThread_effect {i cpyLen ticket : ℕ} {b : Buf} (hmain : p.main = .submit i cpyLen b ticket)
    (hfree : p.evLockFree i = true) (create : ℕ) :
    PoolEffect p (.submitToThread create) (submitToThread p i cpyLen b ticket create).2 := by
  unfold submitToThread spawnThread
  cases hon : (p.threads i).isOnline with
  | true =>
    simp only [hon, if_true]
    exact .submitOnline i cpyLen b ticket create hmain hfree hon
  | false =>
    by_cases hc : create = 0
    · subst hc
      simp only [hon, Bool.false_eq_true, if_false, if_true]
      exact .submitSpawn i cpyLen b ticket hmain hfree hon
    · have hne : -(create : ℤ) ≠ 0 := by omega
      simp only [hon, Bool.false_eq_true, if_false, if_neg hc, if_neg hne]
      exact .submitNoThread i cpyLen b ticket create hmain hfree hon hc

lemma dispatchPop_effect (hok : p.threadStk.Ok) (hmain : p.main = .idle) (hque : p.sqes.items ≠ []) :
    PoolEffect p .dispatchPop (dispatchPop p) := by
  unfold dispatchPop
  rcases Tstack.tssPop_cases hok with ⟨hl, hp⟩ | ⟨i, stk, hl, hp, hok', hcap⟩
  · simp only [hp, if_true]
    exact .dispatchBusy hmain hl
  · have hne : (i : ℤ) ≠ -1 := by omega
    simp only [hp, if_neg hne, Int.toNat_natCast]
    exact .popDispatch i stk hmain hque hl hok' hcap

lemma dispatchSqe_effect {i : ℕ} (hmain : p.main = .dispatch i) (hfree : p.evLockFree i = true)
    (create : ℕ) : PoolEffect p (.dispatchSqe create) (dispatchSqe p i create) := by
  unfold dispatchSqe spawnThread
  cases hd : p.sqes.dequeue with
  | none => exact .dispatchPanic i create hmain (Fifo.dequeue_eq_none.mp hd)
  | some nq =>
    obtain ⟨node, que⟩ := nq
    have hque := Fifo.items_of_dequeue hd
    cases hon : (p.threads i).isOnline with
    | true =>
      simp only [hon, if_true]
      exact .dispatchOnline i create node que hmain hfree hque hon
    | false =>
      by_cases hc : create = 0
      · subst hc
        simp only [hon, Bool.false_eq_true, if_false, if_true]
        exact .dispatchSpawn i node que hmain hfree hque hon
      · simp only [hon, Bool.false_eq_true, if_false, if_neg hc]
        exact .dispatchNoThread i create node que hmain hfree hque hon hc

lemma workerStart_effect {tid idx : ℕ} {old : Phase} (hw : p.workers tid = some ⟨idx, old⟩)
    (hold : old = .spawned ∨ old = .again) (hfree : p.evLockFree idx = true) :
    PoolEffect p (.start tid) (workerStart p tid idx) := by
  unfold workerStart
  dsimp only
  by_cases hev : (p.threads idx).hasEvent = true
  · rw [if_pos hev]
    have hs := PoolEffect.startRun tid idx old hw hold hfree hev
    simp only [Pool.enterHandler, Pool.setThread, Pool.moveWorker, Function.update_self]
    exact hs
  · rw [if_neg hev]
    exact .startWait tid idx old hw hold hfree (by simpa using hev)

lemma workerWake_effect {tid idx counter : ℕ} (hw : p.workers tid = some ⟨idx, .waiting counter⟩)
    (hfree : p.evLockFree idx = true) (ret : ℤ) :
    PoolEffect p (.wake tid ret) (workerWake p tid idx counter ret) := by
  unfold workerWake
  by_cases hout : (ret ≠ 0 ∧ counter = 300) ∨ p.stopEl = true
  · rw [if_pos hout]
    exact .wakeLeave tid idx counter ret hw hfree hout
  · rw [if_neg hout]
    cases hev : (p.threads idx).hasEvent with
    | true =>
      rw [if_pos rfl]
      exact .wakeRun tid idx counter ret hw hfree hout hev
    | false =>
      rw [if_neg Bool.false_ne_true]
      exact .wakeWait tid idx counter _ ret hw hfree hout hev

lemma workerFinish_effect {tid idx : ℕ} (hw : p.workers tid = some ⟨idx, .running⟩) :
    PoolEffect p (.finish tid) (workerFinish p tid idx) := by
  unfold workerFinish
  dsimp only
  by_cases hstop : p.stopEl = true
  · rw [if_pos hstop]
    exact .finishLeave tid idx hw hstop
  · rw [if_neg hstop]
    exact .finishClear tid idx hw (by simpa using hstop)

/-- Every step of the pool has one of the listed effects. -/
theorem poolStep_effect (hok : p.threadStk.Ok) {act : PoolAct} (h : poolStep p act = some p') :
    PoolEffect p act p' := by
  unfold poolStep at h
  split at h
  · cases h
  · cases act with
    | submitEvent n b alloc =>
      simp only at h
      split at h
      · rename_i hmain
        cases h
        exact submitEvent_effect hok hmain n b alloc
      · cases h
    | submitToThread create =>
      simp only at h
      split at h
      · rename_i hmain
        split at h
        · rename_i hfree
          cases h
          exact submitToThread_effect hmain hfree create
        · cases h
      · cases h
    | dispatchPop =>
      simp only at h
      split at h
      · rename_i hmain
        split at h
        · cases h
        · rename_i hlen
          cases h
          exact dispatchPop_effect hok hmain (fun he => hlen (by rw [he, List.length_nil]))
      · cases h
    | dispatchSqe create =>
      simp only at h
      split at h
      · rename_i hmain
        split at h
        · rename_i hfree
          cases h
          exact dispatchSqe_effect hmain hfree create
        · cases h
      · cases h
    | start tid =>
      simp only at h
      split at h
      · rename_i hw
        split at h
        · rename_i hfree
          cases h
          exact workerStart_effect hw (Or.inl rfl) hfree
        · cases h
      · rename_i hw
        split at h
        · rename_i hfree
          cases h
          exact workerStart_effect hw (Or.inr rfl) hfree
        · cases h
      · cases h
    | wake tid ret =>
      simp only at h
      split at h
      · rename_i hw
        split at h
        · rename_i hfree
          cases h
          exact workerWake_effect hw hfree ret
        · cases h
      · cases h
    | finish tid =>
      simp only at h
      split at h
      · rename_i hw
        cases h
        exact workerFinish_effect hw
      · cases h
    | push tid =>
      simp only at h
      split at h
      · rename_i hw
        cases h
        exact .push tid _ hw
      · cases h
    | unlock tid =>
      simp only at h
      split at h
      · rename_i hw
        cases h
        exact .unlock tid _ hw
      · cases h
    | reset tid =>
      simp only at h
      split at h
      · rename_i hw
        cases h
        exact .reset tid _ hw
      · cases h
    | interrupt =>
      cases h
      exact .interrupt

end

lemma poolEffect_stopEl {p p' : Pool} {act : PoolAct} (he : PoolEffect p act p') (hact : act ≠ .interrupt) :
    p'.stopEl = p.stopEl := by
  cases he with
  | interrupt => exact absurd rfl hact
  | _ => rfl

end GNUWeebBot.Proofs
