import GNUWeebBot.Model.EventLoop
import GNUWeebBot.Proofs.Framing

/-!
# Why the event loop ends

The loop ends for a reason of its own, a signal, an error of the listening socket or of `epoll_wait`,
exactly as long as no client makes `run_acceptor` return an error other than `EAGAIN`.
-/

namespace GNUWeebBot.Proofs
open Transition

/-- The errors after which the loop goes on. -/
def Harmless (err : ℤ) : Prop := err = 0 ∨ err = EAGAIN

/-- No system call fails for the new client, or it has no slot. -/
def AcceptFine (net : Net) (env : AcceptEnv) : Prop :=
  match env.accept with
  | .error err => Harmless err
  | .ok _ => env.addrLen ≤ sizeofSockaddrIn ∧ env.inetNtop ≠ none ∧
    ((tssPop net.chanStk).1 = -1 ∨ EPL_MAP_SIZE ≤ (tssPop net.chanStk).1.toNat + EPL_MAP_SHIFT ∨
      match env.gettimeofday with
      | .error err => Harmless err
      | .ok _ => ∀ err ∈ env.epollAdd, Harmless err)

/-- The listening socket is handled without an error, and the client that connects is fine; other steps
have no condition. A step after a cause has none either. -/
def FineStep (l : EventLoop) (act : LoopAct) : Prop :=
  ∀ env, act = .server (.tcpEvent env) →
    l.caused = true ∨ isCause l.server (.tcpEvent env) = true ∨ AcceptFine l.server.net env

/-- The loop has ended or is about to. -/
def Stopped (l : EventLoop) : Prop :=
  l.left = true ∨ l.server.pool.stopEl = true ∨ l.server.panicked = true ∨ l.server.pool.aborted = true

/-- The loop has a reason of its own to end. -/
def Justified (l : EventLoop) : Prop := Stopped l → l.caused = true

lemma harmless_iff (err : ℤ) : (-err = 0 ∨ -err = -EAGAIN) ↔ Harmless err := by
  unfold Harmless
  omega

/-- When `run_acceptor` lets the loop go on. -/
lemma runAcceptor_fine (net : Net) (env : AcceptEnv) :
    ((runAcceptor net env).1 = 0 ∨ (runAcceptor net env).1 = -EAGAIN) ↔ AcceptFine net env := by
  have hoverflow : ¬(-EOVERFLOW = 0 ∨ -EOVERFLOW = -EAGAIN) := by decide
  have hinval : ¬(-EINVAL = 0 ∨ -EINVAL = -EAGAIN) := by decide
  unfold runAcceptor AcceptFine
  cases env.accept with
  | error err => exact harmless_iff err
  | ok fd =>
    dsimp only
    by_cases hlen : env.addrLen > sizeofSockaddrIn
    · rw [if_pos hlen]
      exact iff_of_false hoverflow (fun h => absurd h.1 (by omega))
    rw [if_neg hlen]
    have hle : env.addrLen ≤ sizeofSockaddrIn := by omega
    cases env.inetNtop with
    | none => exact iff_of_false hinval (fun h => h.2.1 rfl)
    | some srcIp =>
      dsimp only
      by_cases hempty : (tssPop net.chanStk).1 = -1
      · rw [if_pos hempty]
        exact iff_of_true (.inr rfl) ⟨hle, by simp, .inl hempty⟩
      rw [if_neg hempty]
      by_cases hbig : (tssPop net.chanStk).1.toNat + EPL_MAP_SHIFT ≥ EPL_MAP_SIZE
      · rw [if_pos hbig]
        exact iff_of_true (.inr rfl) ⟨hle, by simp, .inr (.inl hbig)⟩
      rw [if_neg hbig]
      have hrest : ∀ P : Prop, (env.addrLen ≤ sizeofSockaddrIn ∧ some srcIp ≠ none ∧
          ((tssPop net.chanStk).1 = -1 ∨ EPL_MAP_SIZE ≤ (tssPop net.chanStk).1.toNat + EPL_MAP_SHIFT ∨ P)) ↔ P := by
        intro P
        simp [hle, hempty, hbig]
      rw [hrest]
      cases env.gettimeofday with
      | error err => exact harmless_iff err
      | ok tvSec =>
        dsimp only
        cases env.epollAdd with
        | some err => simpa using harmless_iff err
        | none => simp

section Step

variable {s s' : Server} {act : ServerAct}

/-- Only a signal and the listening socket stop the loop. -/
lemma serverStep_stopEl (h : FullInv s) (hstep : serverStep s act = some s')
    (hpool : act ≠ .pool .interrupt) (htcp : ∀ env, act ≠ .tcpEvent env) : s'.pool.stopEl = s.pool.stopEl := by
  cases h.server.toEffect hstep with
  | wait events hmain hbatch hok => rfl
  | tcp env errMask rest batch ret net stop hmain hbatch hacc heff hrest hstop => exact absurd rfl (htcp env)
  | panic recv alloc fd errMask rest hbatch hfd hmap => rfl
  | client recv alloc fd errMask rest net hmain hbatch hfd hrecv hmap heff => rfl
  | enqueue recv alloc fd errMask rest n net pool hmain hbatch hfd hrecv hmap heff hp hidle =>
    exact poolEffect_stopEl (poolStep_effect h.pool.stkOk hp) (by simp)
  | store recv alloc fd errMask rest n net pool hmain hbatch hfd hrecv hmap heff hp hpop =>
    exact poolEffect_stopEl (poolStep_effect h.pool.stkOk hp) (by simp)
  | submitted create fd j pool hpend hp => exact poolEffect_stopEl (poolStep_effect h.pool.stkOk hp) (by simp)
  | other act pool hsubmit hstore hp =>
    exact poolEffect_stopEl (poolStep_effect h.pool.stkOk hp) (fun he => hpool (congrArg ServerAct.pool he))

/-- The listening socket stops the loop where its result is an error. -/
lemma tcpEvent_stopEl {env : AcceptEnv} (hstep : serverStep s (.tcpEvent env) = some s')
    (hcause : isCause s (.tcpEvent env) = false) (hgo : s.pool.stopEl = false) :
    s'.pool.stopEl = false ↔ AcceptFine s.net env := by
  unfold serverStep at hstep
  split at hstep
  · cases hstep
  dsimp only at hstep
  split at hstep
  · rename_i fd errMask rest hbatch
    rw [isCause, hbatch, List.head?_cons, Option.any_some] at hcause
    split at hstep
    · dsimp only at hcause
      rw [← runAcceptor_fine, ← Option.some_inj.mp hstep, hcause]
      simp only [handleTcpEvent, Bool.false_eq_true, if_false]
      unfold Server.afterTcpEvent
      by_cases hzero : (runAcceptor s.net env).1 = 0
      · rw [if_pos hzero]
        exact iff_of_true hgo (.inl hzero)
      · by_cases hagain : (runAcceptor s.net env).1 = -EAGAIN
        · rw [if_neg hzero, if_pos hagain]
          exact iff_of_true hgo (.inr hagain)
        · rw [if_neg hzero, if_neg hagain]
          exact iff_of_false (by simp) (by tauto)
    · cases hstep
  · cases hstep

end Step

lemma stopped_iff {l : EventLoop} (h : FullInv l.server) (hleft : l.left = false) :
    Stopped l ↔ l.server.pool.stopEl = true := by
  unfold Stopped
  simp [hleft, h.server.notPanicked, h.pool.notAborted]

/-- One step: the reason is kept exactly where the step is fine. -/
lemma loopStep_justified {l l' : EventLoop} {act : LoopAct} (h : FullInv l.server) (hgood : Justified l)
    (hstep : loopStep l act = some l') : Justified l' ↔ FineStep l act := by
  unfold loopStep at hstep
  split at hstep
  · cases hstep
  rename_i hleft
  rw [Bool.not_eq_true] at hleft
  cases act with
  | epollFail err =>
    dsimp only at hstep
    split at hstep
    · refine iff_of_true ?_ (fun env he => by cases he)
      split at hstep
      · obtain rfl := Option.some_inj.mp hstep
        exact hgood
      · obtain rfl := Option.some_inj.mp hstep
        exact fun _ => rfl
    · cases hstep
  | server act =>
    obtain ⟨s', hs, rfl⟩ := Option.map_eq_some_iff.mp hstep
    have hstopped := stopped_iff (l := { l with server := s', caused := l.caused || isCause l.server act })
      (h.step hs) hleft
    unfold Justified at hgood ⊢
    rw [stopped_iff h hleft] at hgood
    rw [hstopped]
    dsimp only
    cases hc : l.caused with
    | true => exact iff_of_true (fun _ => by simp) (fun env _ => .inl hc)
    | false =>
      have hgo : l.server.pool.stopEl = false := by
        rw [hc] at hgood
        simpa using hgood
      cases hcause : isCause l.server act with
      | true =>
        refine iff_of_true (fun _ => by simp) (fun env he => .inr (.inl ?_))
        rw [← LoopAct.server.inj he]
        exact hcause
      | false =>
        by_cases htcp : ∃ env, act = .tcpEvent env
        · obtain ⟨env, rfl⟩ := htcp
          have hiff := tcpEvent_stopEl hs hcause hgo
          simp [FineStep, hc, hcause, ← hiff]
        · rw [not_exists] at htcp
          have hpool : act ≠ .pool .interrupt := by
            rintro rfl
            cases hcause
          have hsame := serverStep_stopEl h hs hpool htcp
          refine iff_of_true (fun hstop => ?_) (fun env he => absurd (LoopAct.server.inj he) (htcp env))
          rw [hsame, hgo] at hstop
          cases hstop

/-- In a run of the event loop every end has a reason of its own exactly when, up to that reason, every
client that connects is fine. -/
theorem loop_justified_iff (threadC tcpFd : ℕ) (chanJunk threadJunk : ℕ → ℕ → UInt8) (hc : threadC ≤ 0xffff)
    (acts : List LoopAct) (l : EventLoop)
    (hrun : run loopStep (initLoop threadC tcpFd chanJunk threadJunk) acts = some l) :
    Always loopStep Justified (initLoop threadC tcpFd chanJunk threadJunk) acts ↔
      EachStep loopStep FineStep (initLoop threadC tcpFd chanJunk threadJunk) acts := by
  refine always_iff_eachStep_of_inv (fun l => FullInv l.server) ?_ ?_ ?_ ?_ hrun
  · intro l act l' h hstep
    unfold loopStep at hstep
    split at hstep
    · cases hstep
    cases act with
    | epollFail err =>
      dsimp only at hstep
      split at hstep
      · split at hstep <;> (obtain rfl := Option.some_inj.mp hstep; exact h)
      · cases hstep
    | server act =>
      obtain ⟨s', hs, rfl⟩ := Option.map_eq_some_iff.mp hstep
      exact h.step hs
  · exact fun l act l' h hgood hstep => loopStep_justified h hgood hstep
  · exact FullInv.init tcpFd chanJunk threadJunk hc
  · rintro (h | h | h | h) <;> cases h

/-- A client connects, `epoll_wait` is interrupted by a signal, and the loop ends. -/
def signalRun : List LoopAct :=
  [.server (.epollWait [(3, false)]), .server (.tcpEvent (acceptEnv 5)), .server (.pool .interrupt)]

theorem loop_justified_signalRun : Always loopStep Justified (initLoop 1 3 (fun _ _ => 0) (fun _ _ => 0)) signalRun := by
  refine (loop_justified_iff 1 3 (fun _ _ => 0) (fun _ _ => 0) (by decide) signalRun _ rfl).mpr ?_
  have hother : ∀ l act, (∀ env, act ≠ .server (.tcpEvent env)) → FineStep l act :=
    fun l act hact env he => absurd he (hact env)
  refine ⟨hother _ _ (by simp), fun l₁ h₁ => ⟨?_, fun l₂ _ => ⟨hother _ _ (by simp), fun _ _ => trivial⟩⟩⟩
  intro env he
  cases he
  obtain rfl := Option.some_inj.mp h₁
  refine .inr (.inr ⟨by decide, by simp [acceptEnv], .inr (.inr ?_)⟩)
  intro err herr
  cases herr

def ECONNABORTED : ℤ := 103

/-- A client that is gone before it was accepted. -/
def abortedRun : List LoopAct :=
  [.server (.epollWait [(3, false)]), .server (.tcpEvent { acceptEnv 5 with accept := .error ECONNABORTED })]

theorem aborted_client_stops_loop : ∃ l, run loopStep (initLoop 1 3 (fun _ _ => 0) (fun _ _ => 0)) abortedRun = some l ∧
    ¬Justified l := by
  refine ⟨_, rfl, fun h => ?_⟩
  have hcaused := h (.inr (.inl rfl))
  cases hcaused

end GNUWeebBot.Proofs
