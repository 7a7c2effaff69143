import GNUWeebBot.Lib.Drain
import GNUWeebBot.Model.Lifecycle
import GNUWeebBot.Proofs.Framing

/-!
# The end of the server

`wait_for_threads` reads how many threads have counted themselves. When it reads zero and the state is
freed, every thread that is left was created but has not counted itself yet, and there are runs with such
a thread.
-/

namespace GNUWeebBot.Proofs
open Transition

/-- How many threads there are between their `atomic_fetch_add` and their `atomic_fetch_sub`, the workers
among the first `n`. -/
def countedThreads (l : Life) (n : ℕ) : ℕ := ∑ tid ∈ Finset.range n, (l.counted tid).toNat + l.logger.toNat

structure LifeInv (l : Life) : Prop where
  full : FullInv l.server
  counter : ∀ n, l.server.pool.nextTid ≤ n → l.onlineThread = countedThreads l n
  created : ∀ tid, l.counted tid = true → tid < l.server.pool.nextTid
  started : ∀ tid w, l.server.pool.workers tid = some w → w.phase ≠ .spawned → l.counted tid = true
  zero : l.shutdown = .freed false → l.onlineThread = 0

/-- A worker starts by the action that takes its first lock, and only by that. -/
lemma poolEffect_started {p p' : Pool} {act : PoolAct} (he : PoolEffect p act p') {tid : ℕ} {w' : Worker}
    (hw' : p'.workers tid = some w') (hstarted : w'.phase ≠ .spawned) :
    act = .start tid ∨ ∃ w, p.workers tid = some w ∧ w.phase ≠ .spawned := by
  have hmove : ∀ {t idx : ℕ} {old : Phase} {x : Option Worker}, p.workers t = some ⟨idx, old⟩ →
      old ≠ .spawned → Function.update p.workers t x tid = some w' →
      ∃ w, p.workers tid = some w ∧ w.phase ≠ .spawned := by
    intro t idx old x hw hold hnew
    by_cases ht : tid = t
    · exact ⟨_, ht ▸ hw, hold⟩
    · rw [Function.update_of_ne ht] at hnew
      exact ⟨w', hnew, hstarted⟩
  have hspawn : ∀ {n i : ℕ}, Function.update p.workers n (some ⟨i, .spawned⟩) tid = some w' →
      ∃ w, p.workers tid = some w ∧ w.phase ≠ .spawned := by
    intro n i hnew
    by_cases ht : tid = n
    · subst ht
      rw [Function.update_self, Option.some_inj] at hnew
      exact absurd (hnew ▸ rfl) hstarted
    · rw [Function.update_of_ne ht] at hnew
      exact ⟨w', hnew, hstarted⟩
  have hstart : ∀ {t : ℕ} {x : Option Worker}, Function.update p.workers t x tid = some w' →
      PoolAct.start t = .start tid ∨ ∃ w, p.workers tid = some w ∧ w.phase ≠ .spawned := by
    intro t x hnew
    by_cases ht : tid = t
    · exact Or.inl (ht ▸ rfl)
    · rw [Function.update_of_ne ht] at hnew
      exact Or.inr ⟨w', hnew, hstarted⟩
  cases he with
  | submitSpawn i cpyLen b ticket hmain hfree hoff => exact Or.inr (hspawn hw')
  | dispatchSpawn i node que hmain hfree hque hoff => exact Or.inr (hspawn hw')
  | startRun t idx old hw hold hfree hev => exact hstart hw'
  | startWait t idx old hw hold hfree hev => exact hstart hw'
  | wakeLeave t idx counter ret hw hfree hout => exact Or.inr (hmove hw (by simp) hw')
  | wakeRun t idx counter ret hw hfree hstay hev => exact Or.inr (hmove hw (by simp) hw')
  | wakeWait t idx counter next ret hw hfree hstay hev => exact Or.inr (hmove hw (by simp) hw')
  | finishLeave t idx hw hstop => exact Or.inr (hmove hw (by simp) hw')
  | finishClear t idx hw hgo => exact Or.inr (hmove hw (by simp) hw')
  | push t idx hw => exact Or.inr (hmove hw (by simp) hw')
  | unlock t idx hw => exact Or.inr (hmove hw (by simp) hw')
  | reset t idx hw => exact Or.inr (hmove hw (by simp) hw')
  | _ => exact Or.inr ⟨w', hw', hstarted⟩

lemma poolEffect_nextTid {p p' : Pool} {act : PoolAct} (he : PoolEffect p act p') : p.nextTid ≤ p'.nextTid := by
  cases he with
  | submitSpawn i cpyLen b ticket hmain hfree hoff => exact Nat.le_succ _
  | dispatchSpawn i node que hmain hfree hque hoff => exact Nat.le_succ _
  | _ => exact Nat.le_refl _

lemma serverStep_started {s s' : Server} (hf : FullInv s) {act : ServerAct} (hstep : serverStep s act = some s') :
    s.pool.nextTid ≤ s'.pool.nextTid ∧
      ∀ tid w', s'.pool.workers tid = some w' → w'.phase ≠ .spawned →
        act = .pool (.start tid) ∨ ∃ w, s.pool.workers tid = some w ∧ w.phase ≠ .spawned := by
  have hpool : ∀ {pact : PoolAct} {p' : Pool}, PoolEffect s.pool pact p' → (∀ tid, pact ≠ .start tid) →
      s.pool.nextTid ≤ p'.nextTid ∧
        ∀ tid w', p'.workers tid = some w' → w'.phase ≠ .spawned →
          act = .pool (.start tid) ∨ ∃ w, s.pool.workers tid = some w ∧ w.phase ≠ .spawned := by
    intro pact p' he hne
    refine ⟨poolEffect_nextTid he, fun tid w' hw' hst => Or.inr ?_⟩
    exact (poolEffect_started he hw' hst).resolve_left (hne tid)
  cases hf.server.toEffect hstep with
  | enqueue recv alloc fd errMask rest n net pool hmain hbatch hfd hrecv hmap heff hp hidle =>
    exact hpool (poolStep_effect hf.pool.stkOk hp) (fun tid => by simp)
  | store recv alloc fd errMask rest n net pool hmain hbatch hfd hrecv hmap heff hp hpop =>
    exact hpool (poolStep_effect hf.pool.stkOk hp) (fun tid => by simp)
  | submitted create fd j pool hpend hp => exact hpool (poolStep_effect hf.pool.stkOk hp) (fun tid => by simp)
  | other pact pool hsubmit hstore hp =>
    have he := poolStep_effect hf.pool.stkOk hp
    refine ⟨poolEffect_nextTid he, fun tid w' hw' hst => ?_⟩
    exact (poolEffect_started he hw' hst).imp_left (congrArg ServerAct.pool)
  | _ => exact ⟨Nat.le_refl _, fun tid w' hw' hst => Or.inr ⟨w', hw', hst⟩⟩

namespace LifeInv

variable {l l' : Life}

lemma init {threadC : ℕ} (tcpFd : ℕ) (chanJunk threadJunk : ℕ → ℕ → UInt8) (hc : threadC ≤ 0xffff) :
    LifeInv (initLife threadC tcpFd chanJunk threadJunk) where
  full := FullInv.init tcpFd chanJunk threadJunk hc
  counter := by
    intro n _
    simp [initLife, countedThreads]
  created := by
    intro tid h
    cases h
  started := by
    intro tid w hw
    cases hw
  zero := by
    intro h
    cases h

lemma serverAct (h : LifeInv l) {act : ServerAct} {server : Server} (hstart : ∀ tid, act = .pool (.start tid) → l.counted tid = true)
    (hstep : serverStep l.server act = some server) (hlive : l.shutdown.isFreed = false) :
    LifeInv { l with server := server } := by
  obtain ⟨hnext, hworkers⟩ := serverStep_started h.full hstep
  refine ⟨h.full.step hstep, fun n hn => h.counter n (hnext.trans hn), fun tid hc => (h.created tid hc).trans_le hnext,
    fun tid w hw hst => ?_, fun hfreed => ?_⟩
  · rcases hworkers tid w hw hst with hact | ⟨w₀, hw₀, hst₀⟩
    · exact hstart tid hact
    · exact h.started tid w₀ hw₀ hst₀
  · simp only at hfreed
    rw [hfreed] at hlive
    cases hlive

lemma countedThreads_update (counted : ℕ → Bool) (logger b : Bool) {tid n : ℕ} (htid : tid < n) :
    ∑ t ∈ Finset.range n, (Function.update counted tid b t).toNat + (counted tid).toNat =
      ∑ t ∈ Finset.range n, (counted t).toNat + b.toNat := by
  have hsum := sum_range_change (f := fun t => (counted t).toNat) (g := fun t => (Function.update counted tid b t).toNat)
    htid (fun t ht => by simp only [Function.update_of_ne ht])
  simp only [Function.update_self] at hsum
  exact hsum

lemma count (h : LifeInv l) {tid : ℕ} {w : Worker} (hw : l.server.pool.workers tid = some w)
    (hnew : l.counted tid = false) (hlive : l.shutdown.isFreed = false) :
    LifeInv { l with onlineThread := l.onlineThread + 1, counted := Function.update l.counted tid true } := by
  have hlt := (h.full.pool.tidLt tid w hw).1
  refine ⟨h.full, fun n hn => ?_, fun t ht => ?_, fun t w' hw' hst => ?_, fun hfreed => ?_⟩
  · have hsum := countedThreads_update l.counted l.logger true (hlt.trans_le hn)
    rw [hnew] at hsum
    simp only [h.counter n hn, countedThreads, Bool.toNat_false, Bool.toNat_true] at hsum ⊢
    omega
  · by_cases hte : t = tid
    · exact hte ▸ hlt
    · simp only [Function.update_of_ne hte] at ht
      exact h.created t ht
  · by_cases hte : t = tid
    · subst hte
      simp only [Function.update_self]
    · simp only [Function.update_of_ne hte]
      exact h.started t w' hw' hst
  · simp only at hfreed
    rw [hfreed] at hlive
    cases hlive

lemma uncount (h : LifeInv l) {tid : ℕ} (hold : l.counted tid = true) (hgone : l.server.pool.workers tid = none)
    (hlive : l.shutdown.isFreed = false) :
    LifeInv { l with onlineThread := l.onlineThread - 1, counted := Function.update l.counted tid false } := by
  have hlt := h.created tid hold
  refine ⟨h.full, fun n hn => ?_, fun t ht => ?_, fun t w' hw' hst => ?_, fun hfreed => ?_⟩
  · have hsum := countedThreads_update l.counted l.logger false (hlt.trans_le hn)
    rw [hold] at hsum
    simp only [h.counter n hn, countedThreads, Bool.toNat_false, Bool.toNat_true] at hsum ⊢
    omega
  · by_cases hte : t = tid
    · exact hte ▸ hlt
    · simp only [Function.update_of_ne hte] at ht
      exact h.created t ht
  · by_cases hte : t = tid
    · subst hte
      rw [hgone] at hw'
      cases hw'
    · simp only [Function.update_of_ne hte]
      exact h.started t w' hw' hst
  · simp only at hfreed
    rw [hfreed] at hlive
    cases hlive

lemma interrupt (h : LifeInv l) {shutdown : Shutdown} (hab : l.server.pool.aborted = false) (hno : shutdown ≠ .freed false) :
    LifeInv { l with
      server := { l.server with pool := { l.server.pool with stopEl := true } }
      shutdown := shutdown } := by
  have hstep : serverStep l.server (.pool .interrupt) =
      some { l.server with pool := { l.server.pool with stopEl := true } } := by
    simp [serverStep, poolPart, poolStep, h.full.server.notPanicked, hab]
  exact ⟨h.full.step hstep, h.counter, h.created, h.started, fun hf => absurd hf hno⟩

theorem step (h : LifeInv l) {act : LifeAct} (hstep : lifeStep l act = some l') : LifeInv l' := by
  unfold lifeStep at hstep
  simp only at hstep
  split at hstep
  · cases hstep
  · rename_i hlive
    simp only [not_or, Bool.not_eq_true] at hlive
    obtain ⟨hfreed, -, hab⟩ := hlive
    cases act with
    | server act =>
      simp only at hstep
      split at hstep
      · rename_i hg
        obtain ⟨server, hserver, rfl⟩ := Option.map_eq_some_iff.mp hstep
        refine h.serverAct (fun tid hact => ?_) hserver hfreed
        subst hact
        exact hg.1
      · cases hstep
    | count tid =>
      simp only at hstep
      split at hstep
      · rename_i idx hw
        split at hstep
        · rename_i hnew
          cases hstep
          exact h.count hw hnew hfreed
        · cases hstep
      · cases hstep
    | uncount tid =>
      simp only at hstep
      split at hstep
      · rename_i hg
        cases hstep
        exact h.uncount hg.1 hg.2 hfreed
      · cases hstep
    | stopLogger =>
      simp only at hstep
      split at hstep
      · rename_i hg
        cases hstep
        refine ⟨h.full, fun n hn => ?_, h.created, h.started, fun hf => ?_⟩
        · have hcount := h.counter n hn
          simp only [countedThreads, hg.1, Bool.toNat_true, Bool.toNat_false] at hcount ⊢
          omega
        · simp only at hf
          rw [hf] at hfreed
          cases hfreed
      · cases hstep
    | leaveLoop epollError =>
      simp only at hstep
      split at hstep
      · cases hstep
        exact h.interrupt hab (by simp)
      · cases hstep
    | poll =>
      simp only at hstep
      split at hstep
      · rename_i counter hwait
        cases hstep
        refine ⟨h.full, h.counter, h.created, h.started, fun hf => ?_⟩
        simp only at hf ⊢
        -- only a load of zero leaves the loop by its condition
        cases counter with
        | none =>
          simp only [waitForThreads] at hf
          split at hf
          · assumption
          · cases hf
        | some c =>
          simp only [waitForThreads] at hf
          split at hf
          · cases hf
          · split at hf
            · assumption
            · cases hf
      · cases hstep
      · cases hstep

end LifeInv

/-! ### How long `wait_for_threads` waits -/

def isPoll : LifeAct → Bool
  | .poll => true
  | _ => false

/-- What the main thread's place says about the turns of its loop so far. -/
def Polled (polls : ℕ) : Shutdown → Prop
  | .no | .waiting none => polls = 0
  | .waiting (some counter) => polls = counter ∧ counter ≤ 300001
  | .freed false => polls ≤ 300001
  | .freed true => polls = 300002

lemma polled_poll {polls onlineThread : ℕ} {counter : Option ℕ} (h : Polled polls (.waiting counter)) :
    Polled (polls + 1) (waitForThreads onlineThread counter) := by
  cases counter with
  | none =>
    simp only [Polled] at h
    simp only [waitForThreads]
    split
    · simp only [Polled]
      omega
    · simp only [Polled]
      omega
  | some c =>
    simp only [Polled] at h
    simp only [waitForThreads]
    split
    · simp only [Polled]
      omega
    · split
      · simp only [Polled]
        omega
      · simp only [Polled]
        omega

lemma Polled.bound {polls : ℕ} {shutdown : Shutdown} (h : Polled polls shutdown) :
    polls ≤ 300002 ∧ (shutdown = .freed true ↔ polls = 300002) := by
  have hother : shutdown ≠ .freed true → polls ≤ 300001 →
      polls ≤ 300002 ∧ (shutdown = .freed true ↔ polls = 300002) := by
    intro hne hle
    exact ⟨by omega, fun he => absurd he hne, fun he => by omega⟩
  cases shutdown with
  | no =>
    simp only [Polled] at h
    exact hother (by simp) (by omega)
  | waiting counter =>
    cases counter with
    | none =>
      simp only [Polled] at h
      exact hother (by simp) (by omega)
    | some c =>
      simp only [Polled] at h
      exact hother (by simp) (by omega)
  | freed forced =>
    cases forced with
    | false => exact hother (by simp) h
    | true => exact ⟨Nat.le_of_eq h, fun _ => h, fun _ => rfl⟩

lemma polled_step {polls : ℕ} {l l' : Life} {act : LifeAct} (h : Polled polls l.shutdown)
    (hstep : lifeStep l act = some l') : Polled (polls + (isPoll act).toNat) l'.shutdown := by
  unfold lifeStep at hstep
  simp only at hstep
  split at hstep
  · cases hstep
  · cases act with
    | poll =>
      simp only at hstep
      split at hstep
      · rename_i counter hwait
        cases hstep
        exact polled_poll (hwait ▸ h)
      · cases hstep
      · cases hstep
    | leaveLoop epollError =>
      simp only at hstep
      split at hstep
      · rename_i hg
        cases hstep
        rw [hg.1] at h
        exact h
      · cases hstep
    | server act =>
      simp only at hstep
      split at hstep
      · obtain ⟨server, -, rfl⟩ := Option.map_eq_some_iff.mp hstep
        exact h
      · cases hstep
    | count tid =>
      simp only at hstep
      split at hstep
      · split at hstep
        · cases hstep
          exact h
        · cases hstep
      · cases hstep
    | uncount tid =>
      simp only at hstep
      split at hstep
      · cases hstep
        exact h
      · cases hstep
    | stopLogger =>
      simp only at hstep
      split at hstep
      · cases hstep
        exact h
      · cases hstep

lemma polled_run {polls : ℕ} {l l' : Life} {acts : List LifeAct} (h : Polled polls l.shutdown)
    (hrun : run lifeStep l acts = some l') : Polled (polls + acts.countP isPoll) l'.shutdown := by
  induction acts generalizing polls l with
  | nil =>
    rw [run_nil, Option.some_inj] at hrun
    subst hrun
    exact h
  | cons act acts ih =>
    obtain ⟨l₁, hact, hrest⟩ := run_cons.mp hrun
    have h₁ := ih (polled_step h hact) hrest
    have hcount : (act :: acts).countP isPoll = (isPoll act).toNat + acts.countP isPoll := by
      rw [List.countP_cons, Nat.add_comm]
      cases isPoll act <;> rfl
    rw [hcount, ← Nat.add_assoc]
    exact h₁

/-- A signal arrives right after `pthread_create`; the new worker has not run yet when the state is freed. -/
def freedTooEarlyRun : List LifeAct :=
  [.server (.epollWait [(3, false)]), .server (.tcpEvent ⟨.ok 5, sizeofSockaddrIn, 40000, some [], .ok 0, none⟩),
    .server (.epollWait [(5, false)]), .server (.clientEvent (.ok [0, 0]) none), .server (.pool (.submitToThread 0)),
    .server (.pool .interrupt), .stopLogger, .leaveLoop false, .poll]

end GNUWeebBot.Proofs
