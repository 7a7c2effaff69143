import GNUWeebBot.Lib.Drain
import GNUWeebBot.Proofs.Framing

/-!
# The server comes to rest after a signal

Once `stop_el` is set the main thread handles what is left of its batch and every worker leaves. The
number of steps this takes, in any order, is bounded by the number of workers, and no order of steps
gets stuck before.
-/

namespace GNUWeebBot.Proofs
open Transition

/-! ### How much is left to do -/

/-- The steps of a worker in a phase until it is gone, where it finds `stop_el` set. -/
def phaseWork : Phase → ℕ
  | .cleared => 5
  | .pushed => 4
  | .spawned | .again => 3
  | .waiting _ | .running => 2
  | .leaving => 1

def workerWork (w : Option Worker) : ℕ := (w.map (fun w => phaseWork w.phase)).getD 0

def workersWork (workers : ℕ → Option Worker) (n : ℕ) : ℕ := ∑ t ∈ Finset.range n, workerWork (workers t)

/-- A popped index may still become a worker. -/
def mainWork : MainPc → ℕ
  | .idle => 0
  | .submit _ _ _ _ | .dispatch _ => 4

def poolWork (p : Pool) : ℕ := mainWork p.main + workersWork p.workers p.nextTid

/-- An event that is left may still become a popped index. -/
def serverWork (s : Server) : ℕ := 5 * s.batch.length + poolWork s.pool

/-- Everything but another signal. -/
def isWork : ServerAct → Bool
  | .pool .interrupt => false
  | _ => true

/-- Nothing is left of the batch, and no worker is alive. -/
def AtRest (s : Server) : Prop := s.batch = [] ∧ s.mainFree ∧ ∀ tid, s.pool.workers tid = none

lemma phaseWork_le (ph : Phase) : phaseWork ph ≤ 5 := by
  cases ph <;> simp [phaseWork]

lemma workersWork_move (workers : ℕ → Option Worker) {tid n : ℕ} (htid : tid < n) (x : Option Worker) :
    workersWork (Function.update workers tid x) n + workerWork (workers tid) = workersWork workers n + workerWork x := by
  have h := sum_range_change (f := fun t => workerWork (workers t))
    (g := fun t => workerWork (Function.update workers tid x t)) htid (by
      intro t ht
      simp only [Function.update_of_ne ht])
  simp only [Function.update_self] at h
  exact h

lemma workersWork_spawn (workers : ℕ → Option Worker) (n : ℕ) (x : Option Worker) :
    workersWork (Function.update workers n x) (n + 1) = workersWork workers n + workerWork x := by
  unfold workersWork
  rw [Finset.sum_range_succ, Function.update_self]
  congr 1
  apply Finset.sum_congr rfl
  intro t ht
  rw [Function.update_of_ne (Nat.ne_of_lt (Finset.mem_range.mp ht))]

/-- There are as many workers as slots at most. -/
lemma sum_alive_le {p : Pool} (hp : PoolInv p) {f : Option Worker → ℕ} {k : ℕ} (hf : ∀ w, f w ≤ if w.isSome then k else 0) :
    ∑ t ∈ Finset.range p.nextTid, f (p.workers t) ≤ k * p.threadC := by
  let alive := (Finset.range p.nextTid).filter (fun t => (p.workers t).isSome)
  have hsum : ∑ t ∈ Finset.range p.nextTid, f (p.workers t) ≤ ∑ _t ∈ alive, k := by
    rw [Finset.sum_filter]
    exact Finset.sum_le_sum (fun t _ => hf _)
  have hcard : alive.card ≤ (Finset.range p.threadC).card := by
    apply Finset.card_le_card_of_injOn (fun t => ((p.workers t).map Worker.idx).getD 0)
    · intro t ht
      obtain ⟨w, hw⟩ := Option.isSome_iff_exists.mp (Finset.mem_filter.mp ht).2
      simpa [hw] using (hp.tidLt t w hw).2
    · intro t ht t' ht' heq
      obtain ⟨w, hw⟩ := Option.isSome_iff_exists.mp (Finset.mem_filter.mp ht).2
      obtain ⟨w', hw'⟩ := Option.isSome_iff_exists.mp (Finset.mem_filter.mp ht').2
      simp only [hw, hw', Option.map_some, Option.getD_some] at heq
      exact hp.unique t t' w w' hw hw' heq
  rw [Finset.sum_const, smul_eq_mul] at hsum
  rw [Finset.card_range] at hcard
  calc ∑ t ∈ Finset.range p.nextTid, f (p.workers t) ≤ alive.card * k := hsum
    _ ≤ p.threadC * k := Nat.mul_le_mul_right k hcard
    _ = k * p.threadC := Nat.mul_comm ..

lemma workersWork_le {p : Pool} (hp : PoolInv p) : workersWork p.workers p.nextTid ≤ 5 * p.threadC := by
  apply sum_alive_le hp
  intro w
  cases w with
  | none => exact Nat.le_refl 0
  | some w => exact phaseWork_le w.phase

/-! ### Every step is one less -/

variable {p p' : Pool} {s s' : Server}

lemma workersWork_step (hp : PoolInv p) {tid : ℕ} {w : Worker} (hw : p.workers tid = some w) (x : Option Worker)
    (hlt : workerWork x < phaseWork w.phase) :
    workersWork (Function.update p.workers tid x) p.nextTid < workersWork p.workers p.nextTid := by
  have hmove := workersWork_move p.workers (hp.tidLt tid w hw).1 x
  rw [hw, show workerWork (some w) = phaseWork w.phase from rfl] at hmove
  omega

lemma poolEffect_work (hp : PoolInv p) (hstop : p.stopEl = true) {act : PoolAct} (he : PoolEffect p act p')
    (hpop : act ≠ .dispatchPop) (hsubmit : ∀ n b alloc, act ≠ .submitEvent n b alloc) (hint : act ≠ .interrupt) :
    poolWork p' < poolWork p := by
  have hspawn : ∀ i, workersWork (Function.update p.workers p.nextTid (some ⟨i, .spawned⟩)) (p.nextTid + 1) =
      workersWork p.workers p.nextTid + 3 := fun i => workersWork_spawn _ _ _
  unfold poolWork
  cases he with
  | enqueueFail n b alloc | enqueue n b | popSubmit n b alloc => exact absurd rfl (hsubmit _ _ _)
  | dispatchBusy | popDispatch => exact absurd rfl hpop
  | interrupt => exact absurd rfl hint
  | submitOnline i cpyLen b ticket create hmain | submitNoThread i cpyLen b ticket create hmain =>
    simp only [hmain, mainWork]
    omega
  | dispatchOnline i create node que hmain | dispatchNoThread i create node que hmain =>
    simp only [hmain, mainWork]
    omega
  | submitSpawn i cpyLen b ticket hmain =>
    simp only [hmain, mainWork, hspawn]
    omega
  | dispatchSpawn i node que hmain =>
    simp only [hmain, mainWork, hspawn]
    omega
  | dispatchPanic i create hmain hque => exact absurd hque (hp.queued i hmain)
  | startRun tid idx old hw hold | startWait tid idx old hw hold =>
    have hlt := workersWork_step hp hw
    have hthree : phaseWork old = 3 := by
      rcases hold with rfl | rfl <;> rfl
    simp only [hthree] at hlt
    simpa using hlt _ (by simp [workerWork, phaseWork])
  | wakeLeave tid idx counter ret hw | finishLeave tid idx hw | push tid idx hw | unlock tid idx hw
  | reset tid idx hw =>
    simpa using workersWork_step hp hw _ (by simp [workerWork, phaseWork])
  | wakeRun tid idx counter ret hw hfree hstay | wakeWait tid idx counter next ret hw hfree hstay =>
    exact absurd (Or.inr hstop) hstay
  | finishClear tid idx hw hgo =>
    rw [hstop] at hgo
    cases hgo

/-- A submission pops an index at most. -/
lemma submitEvent_work {n : ℕ} {b : Buf} {alloc : Option (ℕ → UInt8)} (he : PoolEffect p (.submitEvent n b alloc) p') :
    poolWork p' ≤ poolWork p + 4 := by
  unfold poolWork
  cases he with
  | enqueueFail | enqueue => exact Nat.le_add_right _ _
  | popSubmit i stk hmain =>
    simp only [withTicket, mainWork]
    omega

/-- `submit_to_thread` is under way exactly where its channel is known. -/
def Matched (s : Server) : Prop := s.pending.isSome = true ↔ ∃ i cpyLen b ticket, s.pool.main = .submit i cpyLen b ticket

lemma poolEffect_submit {act : PoolAct} (he : PoolEffect p act p') (hsubmit : ∀ n b alloc, act ≠ .submitEvent n b alloc)
    (hstore : ∀ create, act ≠ .submitToThread create) :
    (∃ i cpyLen b ticket, p'.main = .submit i cpyLen b ticket) ↔ ∃ i cpyLen b ticket, p.main = .submit i cpyLen b ticket := by
  cases he with
  | enqueueFail n b alloc | enqueue n b | popSubmit n b alloc => exact absurd rfl (hsubmit _ _ _)
  | submitOnline i cpyLen b ticket create | submitNoThread i cpyLen b ticket create => exact absurd rfl (hstore create)
  | submitSpawn => exact absurd rfl (hstore 0)
  | popDispatch i stk hmain => simp [hmain]
  | dispatchOnline i create node que hmain | dispatchNoThread i create node que hmain => simp [hmain]
  | dispatchSpawn i node que hmain => simp [hmain]
  | _ => exact Iff.rfl

lemma submitToThread_idle {create : ℕ} (he : PoolEffect p (.submitToThread create) p') : p'.main = .idle := by
  cases he <;> rfl

lemma submitEvent_main {n : ℕ} {b : Buf} {alloc : Option (ℕ → UInt8)} (he : PoolEffect p (.submitEvent n b alloc) p') :
    p'.main = .idle ∨ ∃ i cpyLen b ticket, p'.main = .submit i cpyLen b ticket := by
  cases he with
  | enqueueFail _ _ _ hmain | enqueue _ _ _ hmain => exact .inl hmain
  | popSubmit => exact .inr ⟨_, _, _, _, rfl⟩

lemma matched_effect (h : Matched s) (hf : FullInv s) {act : ServerAct} (he : ServerEffect s act s') : Matched s' := by
  unfold Matched at h ⊢
  cases he with
  | wait | tcp | panic | client => exact h
  | enqueue recv alloc fd errMask rest n net pool hmain hbatch hfd hrecv hmap heff hpool hidle =>
    simp [hmain.1, hidle]
  | store recv alloc fd errMask rest n net pool hmain hbatch hfd hrecv hmap heff hpool hpop =>
    rcases submitEvent_main (poolStep_effect hf.pool.stkOk hpool) with hidle | hsub
    · simp [hidle, MainPc.popped] at hpop
    · simp [hsub]
  | submitted create fd j pool hpend hpool =>
    simp [submitToThread_idle (poolStep_effect hf.pool.stkOk hpool)]
  | other act pool hsubmit hstore hpool =>
    rw [poolEffect_submit (poolStep_effect hf.pool.stkOk hpool) hsubmit hstore]
    exact h

/-! ### Somebody can go on -/

/-- What a worker does. -/
def isWorkerAct : PoolAct → Bool
  | .start _ | .wake _ _ | .finish _ | .push _ | .unlock _ | .reset _ => true
  | _ => false

lemma worker_holding {tid idx : ℕ} {ph : Phase} (hab : p.aborted = false) (hw : p.workers tid = some ⟨idx, ph⟩)
    (hph : ph.holdsEvLock = true) : ∃ act p', isWorkerAct act = true ∧ poolStep p act = some p' := by
  cases ph with
  | running => exact ⟨.finish tid, _, rfl, by simp only [poolStep, hab, hw]; rfl⟩
  | cleared => exact ⟨.push tid, _, rfl, by simp only [poolStep, hab, hw]; rfl⟩
  | pushed => exact ⟨.unlock tid, _, rfl, by simp only [poolStep, hab, hw]; rfl⟩
  | spawned | again | waiting | leaving => cases hph

/-- Who waits for `ev_lock` waits for somebody that can go on. -/
lemma evLock_wait {i : ℕ} (hab : p.aborted = false) (hlock : p.evLockFree i = false) :
    ∃ act p', isWorkerAct act = true ∧ poolStep p act = some p' := by
  unfold Pool.evLockFree at hlock
  rw [List.all_eq_false] at hlock
  obtain ⟨t, _, ht⟩ := hlock
  cases hw : p.workers t with
  | none => simp [hw] at ht
  | some w =>
    obtain ⟨idx, ph⟩ := w
    simp only [hw, Bool.or_eq_true, Bool.not_eq_true', not_or, Bool.not_eq_false] at ht
    exact worker_holding hab hw ht.2

lemma worker_progress {tid : ℕ} {w : Worker} (hab : p.aborted = false) (hw : p.workers tid = some w) :
    ∃ act p', isWorkerAct act = true ∧ poolStep p act = some p' := by
  obtain ⟨idx, ph⟩ := w
  by_cases hlock : p.evLockFree idx = true
  · cases ph with
    | spawned => exact ⟨.start tid, _, rfl, by simp only [poolStep, hab, hw, hlock]; rfl⟩
    | again => exact ⟨.start tid, _, rfl, by simp only [poolStep, hab, hw, hlock]; rfl⟩
    | waiting counter => exact ⟨.wake tid 0, _, rfl, by simp only [poolStep, hab, hw, hlock]; rfl⟩
    | leaving => exact ⟨.reset tid, _, rfl, by simp only [poolStep, hab, hw]; rfl⟩
    | running | cleared | pushed => exact worker_holding hab hw rfl
  · exact evLock_wait hab (Bool.not_eq_true _ ▸ hlock)

/-- A step of a worker is a step of the server. -/
lemma serverStep_worker {act : PoolAct} (hf : FullInv s) (hact : isWorkerAct act = true)
    (hstep : poolStep s.pool act = some p') : serverStep s (.pool act) = some { s with pool := p' } := by
  have hgo : ¬(s.panicked = true ∨ s.pool.aborted = true) := by
    simp [hf.server.notPanicked, hf.pool.notAborted]
  cases act with
  | submitEvent | submitToThread | dispatchPop | dispatchSqe | interrupt => cases hact
  | start | wake | finish | push | unlock | reset => simp only [serverStep, if_neg hgo, poolPart, hstep, Option.map_some]

lemma worker_step_exists (hf : FullInv s) (h : ∃ act p', isWorkerAct act = true ∧ poolStep s.pool act = some p') :
    ∃ act s', isWork act = true ∧ serverStep s act = some s' := by
  obtain ⟨act, p', hact, hstep⟩ := h
  refine ⟨.pool act, _, ?_, serverStep_worker hf hact hstep⟩
  cases act <;> first | rfl | cases hact

/-- The main thread, or a worker it waits for. -/
lemma main_progress (hf : FullInv s) (hm : Matched s) (hbusy : s.pool.main ≠ .idle) :
    ∃ act s', isWork act = true ∧ serverStep s act = some s' := by
  have hgo : ¬(s.panicked = true ∨ s.pool.aborted = true) := by
    simp [hf.server.notPanicked, hf.pool.notAborted]
  cases hmain : s.pool.main with
  | idle => exact absurd hmain hbusy
  | submit i cpyLen b ticket =>
    by_cases hlock : s.pool.evLockFree i = true
    · obtain ⟨⟨fd, j⟩, hpend⟩ := Option.isSome_iff_exists.mp (hm.mpr ⟨i, cpyLen, b, ticket, hmain⟩)
      exact ⟨.pool (.submitToThread 0), _, rfl, by simp only [serverStep, if_neg hgo, poolPart, hpend, hmain, if_pos hlock]; rfl⟩
    · exact worker_step_exists hf (evLock_wait hf.pool.notAborted (Bool.not_eq_true _ ▸ hlock))
  | dispatch i =>
    by_cases hlock : s.pool.evLockFree i = true
    · refine ⟨.pool (.dispatchSqe 0), { s with pool := dispatchSqe s.pool i 0 }, rfl, ?_⟩
      have hstep : poolStep s.pool (.dispatchSqe 0) = some (dispatchSqe s.pool i 0) := by
        simp only [poolStep, hf.pool.notAborted, hmain, if_pos hlock, Bool.false_eq_true, if_false]
      simp only [serverStep, if_neg hgo, poolPart, hstep, Option.map_some]
    · exact worker_step_exists hf (evLock_wait hf.pool.notAborted (Bool.not_eq_true _ ▸ hlock))

/-- An environment in which the system calls have nothing. -/
def againEnv : AcceptEnv := ⟨.error EAGAIN, 0, 0, none, .error 0, none⟩

lemma batch_progress (hf : FullInv s) (hmain : s.mainFree) {fd : ℕ} {errMask : Bool} {rest : List (ℕ × Bool)}
    (hbatch : s.batch = (fd, errMask) :: rest) : ∃ act s', isWork act = true ∧ serverStep s act = some s' := by
  have hgo : ¬(s.panicked = true ∨ s.pool.aborted = true) := by
    simp [hf.server.notPanicked, hf.pool.notAborted]
  by_cases hfd : fd = s.net.tcpFd
  · have hok : AcceptOk s.net againEnv := by
      intro k hk
      cases hk
    have hguard : s.mainFree ∧ fd = s.net.tcpFd ∧ AcceptOk s.net againEnv := ⟨hmain, hfd, hok⟩
    exact ⟨.tcpEvent againEnv, _, rfl, by simp only [serverStep, if_neg hgo, hbatch, if_pos hguard]; rfl⟩
  · have hok : RecvOk s.net fd (.error EAGAIN) := by
      intro bytes hbytes
      cases hbytes
    have hguard : s.mainFree ∧ fd ≠ s.net.tcpFd ∧ RecvOk s.net fd (.error EAGAIN) := ⟨hmain, hfd, hok⟩
    exact ⟨.clientEvent (.error EAGAIN) none, _, rfl, by simp only [serverStep, if_neg hgo, hbatch, if_pos hguard]; rfl⟩

lemma server_progress (hf : FullInv s) (hm : Matched s) (hrest : ¬AtRest s) :
    ∃ act s', isWork act = true ∧ serverStep s act = some s' := by
  by_cases hmain : s.pool.main = .idle
  · have hfree : s.mainFree := by
      refine ⟨?_, by rw [hmain]; rfl⟩
      rw [← Option.not_isSome_iff_eq_none]
      intro hsome
      obtain ⟨i, cpyLen, b, ticket, hsub⟩ := hm.mp hsome
      rw [hmain] at hsub
      cases hsub
    cases hbatch : s.batch with
    | cons e rest => exact batch_progress hf hfree hbatch
    | nil =>
      have halive : ∃ tid, s.pool.workers tid ≠ none := by
        by_contra hnone
        exact hrest ⟨hbatch, hfree, by simpa using hnone⟩
      obtain ⟨tid, htid⟩ := halive
      obtain ⟨w, hw⟩ := Option.ne_none_iff_exists'.mp htid
      exact worker_step_exists hf (worker_progress hf.pool.notAborted hw)
  · exact main_progress hf hm hmain

/-! ### Whole runs -/

/-- What holds after a signal. -/
structure StopInv (s : Server) : Prop where
  full : FullInv s
  matched : Matched s
  stopped : s.pool.stopEl = true

lemma stopEl_effect (hf : FullInv s) (hstop : s.pool.stopEl = true) {act : ServerAct} (he : ServerEffect s act s') :
    s'.pool.stopEl = true := by
  have hpool : ∀ {act p'}, PoolEffect s.pool act p' → p'.stopEl = true := by
    intro act p' hpe
    by_cases hint : act = .interrupt
    · subst hint
      cases hpe
      rfl
    · rw [poolEffect_stopEl hpe hint, hstop]
  cases he with
  | wait | panic | client => exact hstop
  | tcp env errMask rest batch ret net stop hmain hbatch hacc heff hrest hor =>
    rcases hor with rfl | rfl
    · exact hstop
    · rfl
  | enqueue recv alloc fd errMask rest n net pool _ _ _ _ _ _ hp | store recv alloc fd errMask rest n net pool _ _ _ _ _ _ hp
  | submitted create fd j pool _ hp | other act pool _ _ hp => exact hpool (poolStep_effect hf.pool.stkOk hp)

/-- After a signal `epoll_wait` and `dispatch_sqe` are not called again. -/
lemma not_atTop_of_stop {act : ServerAct} (hstop : s.pool.stopEl = true) (hstep : serverStep s act = some s') :
    (∀ events, act ≠ .epollWait events) ∧ act ≠ .pool .dispatchPop := by
  have htop : ¬s.atTop := by
    rintro ⟨-, -, hgo⟩
    rw [hstop] at hgo
    cases hgo
  unfold serverStep at hstep
  split at hstep
  · cases hstep
  · constructor
    · rintro events rfl
      simp only [htop, false_and, if_false] at hstep
      cases hstep
    · rintro rfl
      simp only [poolPart, if_neg htop] at hstep
      cases hstep

lemma serverStep_work (h : StopInv s) {act : ServerAct} (hact : isWork act = true) (hstep : serverStep s act = some s') :
    serverWork s' < serverWork s := by
  obtain ⟨hwait, hpop⟩ := not_atTop_of_stop h.stopped hstep
  have hsub : ∀ {n b alloc pool}, poolStep s.pool (.submitEvent n b alloc) = some pool → poolWork pool ≤ poolWork s.pool + 4 :=
    fun hp => submitEvent_work (poolStep_effect h.full.pool.stkOk hp)
  unfold serverWork
  cases h.full.server.toEffect hstep with
  | wait events => exact absurd rfl (hwait events)
  | tcp env errMask rest batch ret net stop hmain hbatch hacc heff hrest =>
    have hlen : batch.length < s.batch.length := by
      rw [hbatch, List.length_cons]
      rcases hrest with rfl | rfl <;> simp
    have hpool : poolWork { s.pool with stopEl := stop } = poolWork s.pool := rfl
    simp only [hpool]
    omega
  | panic recv alloc fd errMask rest hbatch hfd hmap => exact absurd hmap (h.full.server.head_mapped hbatch hfd)
  | client recv alloc fd errMask rest net hmain hbatch =>
    simp only [hbatch, List.length_cons]
    omega
  | enqueue recv alloc fd errMask rest n net pool hmain hbatch hfd hrecv hmap heff hp
  | store recv alloc fd errMask rest n net pool hmain hbatch hfd hrecv hmap heff hp =>
    have hle := hsub hp
    simp only [hbatch, List.length_cons]
    omega
  | submitted create fd j pool hpend hp =>
    have hlt := poolEffect_work h.full.pool h.stopped (poolStep_effect h.full.pool.stkOk hp) (by simp) (by simp) (by simp)
    simp only
    omega
  | other act pool hsubmit hstore hp =>
    have hne : act ≠ .dispatchPop := fun heq => hpop (heq ▸ rfl)
    have hint : act ≠ .interrupt := by
      rintro rfl
      cases hact
    have hlt := poolEffect_work h.full.pool h.stopped (poolStep_effect h.full.pool.stkOk hp) hne hsubmit hint
    simp only
    omega

lemma serverStep_interrupt (h : FullInv s) (hstep : serverStep s (.pool .interrupt) = some s') : serverWork s' = serverWork s := by
  cases h.server.toEffect hstep with
  | other act pool hsubmit hstore hp =>
    cases poolStep_effect h.pool.stkOk hp
    rfl

lemma server_drains : Drains serverStep StopInv AtRest (fun _ _ => True) (fun _ => isWork) serverWork where
  inv s act s' h _ hstep := by
    have he := h.full.server.toEffect hstep
    exact ⟨h.full.step hstep, matched_effect h.matched h.full he, stopEl_effect h.full h.stopped he⟩
  lowers s act s' h _ hact hstep := serverStep_work h hact hstep
  keeps s act s' h _ hact hstep := by
    cases act with
    | pool act =>
      cases act with
      | interrupt => exact Nat.le_of_eq (serverStep_interrupt h.full hstep)
      | _ => cases hact
    | _ => cases hact
  progress s h hrest := by
    obtain ⟨act, s', hact, hstep⟩ := server_progress h.full h.matched hrest
    exact ⟨act, s', trivial, hact, hstep⟩

/-- Where the server is at rest there is nothing left to do. -/
lemma atRest_final (h : StopInv s) (hrest : AtRest s) {act : ServerAct} (hstep : serverStep s act = some s') :
    isWork act = false := by
  by_contra hact
  have hlt := serverStep_work h (by simpa using hact) hstep
  have hzero : serverWork s = 0 := by
    obtain ⟨hbatch, ⟨-, hpop⟩, hgone⟩ := hrest
    have hmain : s.pool.main = .idle := idle_of_popped hpop
    simp [serverWork, poolWork, hbatch, hmain, mainWork, workersWork, hgone, workerWork]
  omega

lemma matched_of_reachable {threadC tcpFd : ℕ} {chanJunk threadJunk : ℕ → ℕ → UInt8} (hc : threadC ≤ 0xffff)
    (hreach : Reachable serverStep (initServer threadC tcpFd chanJunk threadJunk) s) :
    FullInv s ∧ Matched s ∧ s.batch.length ≤ 32 ∧ s.pool.threadC = threadC := by
  refine reachable_preserves (fun q => FullInv q ∧ Matched q ∧ q.batch.length ≤ 32 ∧ q.pool.threadC = threadC) ?_ ?_ hreach
  · rintro q act q' ⟨hf, hm, hlen, hthread⟩ hstep
    have he := hf.server.toEffect hstep
    refine ⟨hf.step hstep, matched_effect hm hf he, ?_, ?_⟩
    · have hrest : ∀ {e rest}, q.batch = e :: rest → rest.length ≤ 32 := by
        intro e rest hbatch
        rw [hbatch, List.length_cons] at hlen
        omega
      cases he with
      | wait events hmain hbatch hok => exact hok.1
      | tcp env errMask rest batch ret net stop hmain hbatch hacc heff hor =>
        rcases hor with rfl | rfl
        · exact hrest hbatch
        · simp
      | client _ _ _ _ _ _ _ hbatch | enqueue _ _ _ _ _ _ _ _ _ hbatch | store _ _ _ _ _ _ _ _ _ hbatch => exact hrest hbatch
      | panic | submitted | other => exact hlen
    · rcases serverEffect_pool hf.pool he with hs | ⟨pact, -, hpe⟩
      · rw [hs]
        exact hthread
      · rw [poolEffect_threadC hpe, hthread]
  · exact ⟨FullInv.init tcpFd chanJunk threadJunk hc, by simp [Matched, initServer, initPool], by simp [initServer], rfl⟩

/-- A worker is created, and the signal comes before it runs. -/
def signalledRun : List ServerAct :=
  [.epollWait [(3, false)], .tcpEvent (acceptEnv 5), .epollWait [(5, false)],
    .clientEvent (.ok [0, 1, 65]) none, .pool (.submitToThread 0), .pool .interrupt]

end GNUWeebBot.Proofs
