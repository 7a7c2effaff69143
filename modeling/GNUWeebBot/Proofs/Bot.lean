import GNUWeebBot.Lib.Interleave
import GNUWeebBot.Model.Bot
import GNUWeebBot.Proofs.DeliveryPaths
import GNUWeebBot.Proofs.EventHandler
import GNUWeebBot.Proofs.FieldPaths
import GNUWeebBot.Proofs.Framing

/-!
# The bot under any interleaving

The calls of the handlers are mixed in any order, and every packet still has exactly the calls of its own handler. So what
holds of one handler holds of the whole bot: it moderates for a packet only if the sender of that packet is privileged.
-/

namespace GNUWeebBot.Proofs

open Fill Transition Interleave

/-! ### The packets in the handlers -/

section Handling

variable {p p' : Pool}

lemma handling_running {tid idx : ℕ} (hw : p.workers tid = some ⟨idx, .running⟩) :
    p.handling tid = some ((p.threads idx).ticket, (p.threads idx).jsonStr) := by
  unfold Pool.handling
  rw [hw]

lemma handling_elsewhere {tid idx : ℕ} {phase : Phase} (hw : p.workers tid = some ⟨idx, phase⟩) (hph : phase ≠ .running) :
    p.handling tid = none := by
  unfold Pool.handling
  rw [hw]
  cases phase <;> first | rfl | exact absurd rfl hph

lemma handling_none {tid : ℕ} (hw : p.workers tid = none) : p.handling tid = none := by
  unfold Pool.handling
  rw [hw]

lemma handling_some {tid : ℕ} {packet : ℕ × List UInt8} (h : p.handling tid = some packet) :
    ∃ idx, p.workers tid = some ⟨idx, .running⟩ ∧ packet = ((p.threads idx).ticket, (p.threads idx).jsonStr) := by
  cases hw : p.workers tid with
  | none =>
    rw [handling_none hw] at h
    cases h
  | some w =>
    obtain ⟨idx, phase⟩ := w
    by_cases hph : phase = .running
    · subst hph
      rw [handling_running hw] at h
      exact ⟨idx, rfl, (Option.some_inj.mp h).symm⟩
    · rw [handling_elsewhere hw hph] at h
      cases h

/-- The worker and the slot it serves are as before. -/
lemma handling_congr {tid : ℕ} (hworker : p'.workers tid = p.workers tid)
    (hslot : ∀ idx, p.workers tid = some ⟨idx, .running⟩ →
      (p'.threads idx).ticket = (p.threads idx).ticket ∧ (p'.threads idx).jsonStr = (p.threads idx).jsonStr) :
    p'.handling tid = p.handling tid := by
  cases h : p.handling tid with
  | none =>
    cases h' : p'.handling tid with
    | none => rfl
    | some packet =>
      obtain ⟨idx, hw, -⟩ := handling_some h'
      rw [handling_running (hworker ▸ hw)] at h
      cases h
  | some packet =>
    obtain ⟨idx, hw, rfl⟩ := handling_some h
    obtain ⟨hticket, hstr⟩ := hslot idx hw
    rw [handling_running (hworker.trans hw), hticket, hstr]

lemma handling_mem (ht : TicketInv p) (hp : PoolInv p) (hd : DeliveryInv p) {tid : ℕ} {packet : ℕ × List UInt8}
    (h : p.handling tid = some packet) : packet ∈ p.handled := by
  obtain ⟨idx, hw, rfl⟩ := handling_some h
  obtain ⟨e, he, hticket⟩ := List.mem_map.mp (ht.running tid _ hw rfl).2
  have hev := hp.busy tid _ hw (Or.inr rfl)
  have hstr : e.2 = (p.threads idx).jsonStr := by
    rw [hd.handled e he, hticket, hd.jsonStr_eq hw (by simp) hev]
  rw [← hticket, ← hstr]
  exact he

/-- No two workers have one packet. -/
lemma handling_inj (ht : TicketInv p) (hp : PoolInv p) {tid tid' ticket : ℕ} {str str' : List UInt8}
    (h : p.handling tid = some (ticket, str)) (h' : p.handling tid' = some (ticket, str')) : tid = tid' := by
  obtain ⟨idx, hw, hpacket⟩ := handling_some h
  obtain ⟨idx', hw', hpacket'⟩ := handling_some h'
  have hticket := (Prod.mk.inj hpacket).1.symm.trans (Prod.mk.inj hpacket').1
  have hidx := ht.slotsDistinct idx idx' (hp.busy tid _ hw (Or.inr rfl)) (hp.busy tid' _ hw' (Or.inr rfl)) hticket
  exact hp.unique tid tid' _ _ hw hw' hidx

/-- What a step does to the packets in the handlers. -/
inductive HandlingEffect (act : ServerAct) (p p' : Pool) : Prop
  | enter (tid : ℕ) (packet : ℕ × List UInt8) (hwoken : act.woken = some tid) (hfinished : act.finished = none)
    (hnone : p.handling tid = none) (hfresh : packet.1 ∉ handledTickets p.handled)
    (hhandled : p'.handled = packet :: p.handled)
    (hafter : p'.handling = Function.update p.handling tid (some packet))
  | leave (tid : ℕ) (hwoken : act.woken = none) (hfinished : act.finished = some tid) (hhandled : p'.handled = p.handled)
    (hafter : p'.handling = Function.update p.handling tid none)
  | keep (hwoken : ∀ tid ∈ act.woken, p.handling tid = none) (hfinished : act.finished = none)
    (hhandled : p'.handled = p.handled) (hafter : p'.handling = p.handling)

/-- Another slot is written, and perhaps a worker is created for it. -/
lemma handling_writeSlot (hp : PoolInv p) {i : ℕ} {th : Thread} (hpop : p.main.popped = some i)
    (hthreads : p'.threads = Function.update p.threads i th)
    (hworkers : p'.workers = p.workers ∨ p'.workers = Function.update p.workers p.nextTid (some ⟨i, .spawned⟩)) :
    p'.handling = p.handling := by
  funext tid
  have hslot : ∀ idx, p.workers tid = some ⟨idx, .running⟩ → p'.threads idx = p.threads idx := by
    intro idx hw
    have hne : idx ≠ i := by
      rintro rfl
      have hidle := (hp.poppedIdle idx hpop).2.2
      rw [hp.busy tid _ hw (Or.inr rfl)] at hidle
      cases hidle
    rw [hthreads, Function.update_of_ne hne]
  by_cases htid : tid = p.nextTid
  · have hnone : p.workers tid = none := by
      cases hw : p.workers tid with
      | none => rfl
      | some w => exact absurd (hp.tidLt tid w hw).1 (by omega)
    rw [handling_none hnone]
    rcases hworkers with hsame | hspawned
    · exact handling_none (by rw [hsame, hnone])
    · exact handling_elsewhere (by rw [hspawned, htid, Function.update_self]) (by simp)
  · have hworker : p'.workers tid = p.workers tid := by
      rcases hworkers with hsame | hspawned
      · rw [hsame]
      · rw [hspawned, Function.update_of_ne htid]
    apply handling_congr hworker
    intro idx hw
    rw [hslot idx hw]
    exact ⟨rfl, rfl⟩

/-- A worker goes to another point of its loop; of its own slot anything may change. -/
lemma handling_move (hp : PoolInv p) {tid idx : ℕ} {old : Phase} {new : Option Worker} (hw : p.workers tid = some ⟨idx, old⟩)
    (hworkers : p'.workers = Function.update p.workers tid new) (hthreads : ∀ j ≠ idx, p'.threads j = p.threads j) :
    p'.handling = Function.update p.handling tid (p'.handling tid) := by
  funext t
  by_cases ht : t = tid
  · rw [ht, Function.update_self]
  · rw [Function.update_of_ne ht]
    apply handling_congr (by rw [hworkers, Function.update_of_ne ht])
    intro j hj
    have hne : j ≠ idx := by
      rintro rfl
      exact ht (hp.unique t tid _ _ hj hw rfl)
    rw [hthreads j hne]
    exact ⟨rfl, rfl⟩

/-- A worker that is in no handler goes to another point of its loop, and into no handler. -/
lemma handling_idle (hp : PoolInv p) {tid idx : ℕ} {old : Phase} {new : Option Worker} (hw : p.workers tid = some ⟨idx, old⟩)
    (hold : old ≠ .running) (hworkers : p'.workers = Function.update p.workers tid new)
    (hnew : ∀ w ∈ new, w.phase ≠ .running) (hthreads : ∀ j ≠ idx, p'.threads j = p.threads j) : p'.handling = p.handling := by
  have hafter : p'.handling tid = none := by
    cases new with
    | none => exact handling_none (by rw [hworkers, Function.update_self])
    | some w => exact handling_elsewhere (by rw [hworkers, Function.update_self]) (hnew w rfl)
  rw [handling_move hp hw hworkers hthreads, hafter, ← handling_elsewhere hw hold]
  exact Function.update_eq_self tid p.handling

/-- A worker that is in no handler goes into one. -/
lemma handling_enter (ht : TicketInv p) (hp : PoolInv p) {act : ServerAct} {tid idx : ℕ} {old : Phase}
    (hwoken : act.woken = some tid) (hfinished : act.finished = none) (hw : p.workers tid = some ⟨idx, old⟩)
    (hrunning : old ≠ .running) (hleaving : old ≠ .leaving) (hev : (p.threads idx).hasEvent = true)
    (hworkers : p'.workers = Function.update p.workers tid (some ⟨idx, .running⟩))
    (hthreads : ∀ j ≠ idx, p'.threads j = p.threads j)
    (hslot : (p'.threads idx).ticket = (p.threads idx).ticket ∧ (p'.threads idx).jsonStr = (p.threads idx).jsonStr)
    (hhandled : p'.handled = ((p.threads idx).ticket, (p.threads idx).jsonStr) :: p.handled) :
    HandlingEffect act p p' := by
  refine .enter tid _ hwoken hfinished (handling_elsewhere hw hrunning) (ht.armed tid _ hw hrunning hleaving hev) hhandled ?_
  rw [handling_move hp hw hworkers hthreads, handling_running (by rw [hworkers, Function.update_self]), hslot.1, hslot.2]

lemma update_other {i : ℕ} (threads : ℕ → Thread) (th : Thread) : ∀ j ≠ i, Function.update threads i th j = threads j :=
  fun _ hj => Function.update_of_ne hj ..

lemma poolEffect_handling (ht : TicketInv p) (hp : PoolInv p) {act : PoolAct} (he : PoolEffect p act p') :
    HandlingEffect (.pool act) p p' := by
  have hsame : ∀ tid, p'.workers = p.workers → p'.threads = p.threads → p'.handling tid = p.handling tid := by
    intro tid hworkers hthreads
    apply handling_congr (by rw [hworkers])
    intro idx _
    rw [hthreads]
    exact ⟨rfl, rfl⟩
  cases he with
  | enqueueFail | enqueue | popSubmit | dispatchBusy | popDispatch | dispatchPanic | interrupt =>
    exact .keep (by simp [ServerAct.woken]) rfl rfl (funext fun tid => hsame tid rfl rfl)
  | submitOnline i cpyLen b ticket create hmain | submitNoThread i cpyLen b ticket create hmain =>
    exact .keep (by simp [ServerAct.woken]) rfl rfl (handling_writeSlot hp (by rw [hmain]; rfl) rfl (Or.inl rfl))
  | submitSpawn i cpyLen b ticket hmain =>
    exact .keep (by simp [ServerAct.woken]) rfl rfl (handling_writeSlot hp (by rw [hmain]; rfl) rfl (Or.inr rfl))
  | dispatchOnline i create node que hmain | dispatchNoThread i create node que hmain =>
    exact .keep (by simp [ServerAct.woken]) rfl rfl (handling_writeSlot hp (by rw [hmain]; rfl) rfl (Or.inl rfl))
  | dispatchSpawn i node que hmain =>
    exact .keep (by simp [ServerAct.woken]) rfl rfl (handling_writeSlot hp (by rw [hmain]; rfl) rfl (Or.inr rfl))
  | startRun tid idx old hw hold hfree hev =>
    refine handling_enter ht hp rfl rfl hw (by rintro rfl; simp at hold) (by rintro rfl; simp at hold) hev rfl (update_other _ _) ?_ rfl
    dsimp only
    rw [Function.update_self]
    exact ⟨rfl, rfl⟩
  | wakeRun tid idx counter ret hw hfree hstay hev =>
    exact handling_enter ht hp rfl rfl hw (by simp) (by simp) hev rfl (fun _ _ => rfl) ⟨rfl, rfl⟩ rfl
  | startWait tid idx old hw hold hfree hev =>
    have hrunning : old ≠ .running := by
      rintro rfl
      simp at hold
    refine .keep ?_ rfl rfl (handling_idle hp hw hrunning rfl (by simp) (update_other _ _))
    rintro tid' ⟨⟩
    exact handling_elsewhere hw hrunning
  | wakeLeave tid idx counter ret hw hfree hout =>
    refine .keep ?_ rfl rfl (handling_idle hp hw (by simp) rfl (by simp) (fun _ _ => rfl))
    rintro tid' ⟨⟩
    exact handling_elsewhere hw (by simp)
  | wakeWait tid idx counter next ret hw hfree hstay hev =>
    refine .keep ?_ rfl rfl (handling_idle hp hw (by simp) rfl (by simp) (fun _ _ => rfl))
    rintro tid' ⟨⟩
    exact handling_elsewhere hw (by simp)
  | finishLeave tid idx hw | finishClear tid idx hw =>
    refine .leave tid rfl rfl rfl ?_
    rw [handling_move hp hw rfl (update_other _ _)]
    congr 1
    exact handling_elsewhere (Function.update_self ..) (by simp)
  | push tid idx hw | unlock tid idx hw =>
    exact .keep (by simp [ServerAct.woken]) rfl rfl (handling_idle hp hw (by simp) rfl (by simp) (fun _ _ => rfl))
  | reset tid idx hw =>
    exact .keep (by simp [ServerAct.woken]) rfl rfl (handling_idle hp hw (by simp) rfl (by simp) (update_other _ _))

/-- The actions of the event loop wake no worker. -/
lemma HandlingEffect.within {act act' : ServerAct} (h : HandlingEffect act p p') (hwoken : act'.woken = act.woken)
    (hfinished : act'.finished = act.finished) : HandlingEffect act' p p' := by
  cases h with
  | enter tid packet hw hf hnone hfresh hhandled hafter =>
    exact .enter tid packet (hwoken.trans hw) (hfinished.trans hf) hnone hfresh hhandled hafter
  | leave tid hw hf hhandled hafter => exact .leave tid (hwoken.trans hw) (hfinished.trans hf) hhandled hafter
  | keep hw hf hhandled hafter => exact .keep (hwoken ▸ hw) (hfinished.trans hf) hhandled hafter

lemma serverStep_handling {s s' : Server} (h : FullInv s) {act : ServerAct} (hstep : serverStep s act = some s') :
    HandlingEffect act s.pool s'.pool := by
  have hpool : ∀ {act : PoolAct} {pool : Pool}, poolStep s.pool act = some pool → HandlingEffect (.pool act) s.pool pool :=
    fun hp => poolEffect_handling h.tickets h.pool (poolStep_effect h.pool.stkOk hp)
  cases h.server.toEffect hstep with
  | wait | panic | client => exact .keep (by simp [ServerAct.woken]) rfl rfl rfl
  | tcp => exact .keep (by simp [ServerAct.woken]) rfl rfl rfl
  | enqueue recv alloc fd errMask rest n net pool hmain hbatch hfd hrecv hmap heff hp => exact (hpool hp).within rfl rfl
  | store recv alloc fd errMask rest n net pool hmain hbatch hfd hrecv hmap heff hp => exact (hpool hp).within rfl rfl
  | submitted create fd j pool hpend hp => exact hpool hp
  | other act pool hsubmit hstore hp => exact hpool hp

end Handling

/-! ### The calls -/

section Calls

variable (jsonTokenerParse : List UInt8 → Json) (tokener : List UInt8 → Option Json)
  (misread : TgevPhoto Tgev → Fill Fault BotWorld ℤ) (worlds : ℕ → BotWorld)

/-- Of what was sent, the part with the ticket of a packet is what the handler of that packet has sent so far: nothing
before it starts, and everything after it has returned. -/
structure Answered (b : Bot) : Prop where
  running : ∀ tid ticket str, b.server.pool.handling tid = some (ticket, str) →
    ofKey ticket b.sent = (handlerCalls jsonTokenerParse tokener misread worlds ticket str).take (b.made tid)
  done : ∀ packet ∈ b.server.pool.handled, (∀ tid, b.server.pool.handling tid ≠ some packet) →
    ofKey packet.1 b.sent = handlerCalls jsonTokenerParse tokener misread worlds packet.1 packet.2
  unhandled : ∀ ticket ∉ handledTickets b.server.pool.handled, ofKey ticket b.sent = []

variable {jsonTokenerParse tokener misread worlds} {b b' : Bot}

lemma answered_init (threadC tcpFd : ℕ) (chanJunk threadJunk : ℕ → ℕ → UInt8) :
    Answered jsonTokenerParse tokener misread worlds (initBot threadC tcpFd chanJunk threadJunk) where
  running := fun tid ticket str h => by cases h
  done := fun packet hmem => absurd hmem List.not_mem_nil
  unhandled := fun ticket _ => rfl

namespace Answered

variable (h : Answered jsonTokenerParse tokener misread worlds b)

include h

lemma enter {p' : Pool} {server : Server} (hserver : server.pool = p') {tid : ℕ} {packet : ℕ × List UInt8}
    (hnone : b.server.pool.handling tid = none) (hfresh : packet.1 ∉ handledTickets b.server.pool.handled)
    (hhandled : p'.handled = packet :: b.server.pool.handled)
    (hafter : p'.handling = Function.update b.server.pool.handling tid (some packet)) :
    Answered jsonTokenerParse tokener misread worlds { b with server, made := Function.update b.made tid 0 } := by
  subst hserver
  constructor
  · intro tid' ticket str hrun
    dsimp only at hrun ⊢
    rw [hafter] at hrun
    by_cases htid : tid' = tid
    · rw [htid, Function.update_self, Option.some_inj] at hrun
      rw [htid, Function.update_self, List.take_zero]
      exact h.unhandled ticket (by rw [hrun] at hfresh; exact hfresh)
    · rw [Function.update_of_ne htid] at hrun
      rw [Function.update_of_ne htid]
      exact h.running tid' ticket str hrun
  · intro packet' hmem hidle
    dsimp only at hmem hidle ⊢
    rw [hafter] at hidle
    rw [hhandled] at hmem
    rcases List.mem_cons.mp hmem with rfl | hold
    · exact absurd (Function.update_self ..) (hidle tid)
    · apply h.done packet' hold
      intro tid' hrun
      have htid : tid' ≠ tid := by
        rintro rfl
        rw [hnone] at hrun
        cases hrun
      apply hidle tid'
      rw [Function.update_of_ne htid]
      exact hrun
  · intro ticket hnot
    apply h.unhandled
    rw [hhandled] at hnot
    exact fun hmem => hnot (List.mem_cons_of_mem _ hmem)

/-- The handler that returns has made its calls. -/
lemma leave {p' : Pool} {server : Server} (hserver : server.pool = p') {tid : ℕ}
    (hspent : ∀ packet, b.server.pool.handling tid = some packet →
      (handlerCalls jsonTokenerParse tokener misread worlds packet.1 packet.2).length ≤ b.made tid)
    (hhandled : p'.handled = b.server.pool.handled)
    (hafter : p'.handling = Function.update b.server.pool.handling tid none) :
    Answered jsonTokenerParse tokener misread worlds { b with server } := by
  subst hserver
  constructor
  · intro tid' ticket str hrun
    dsimp only at hrun ⊢
    rw [hafter] at hrun
    have htid : tid' ≠ tid := by
      rintro rfl
      rw [Function.update_self] at hrun
      cases hrun
    rw [Function.update_of_ne htid] at hrun
    exact h.running tid' ticket str hrun
  · intro packet hmem hidle
    dsimp only at hmem hidle ⊢
    rw [hhandled] at hmem
    by_cases hreturns : b.server.pool.handling tid = some packet
    · rw [h.running tid packet.1 packet.2 hreturns]
      exact List.take_of_length_le (hspent packet hreturns)
    · apply h.done packet hmem
      intro tid' hrun
      have htid : tid' ≠ tid := by
        rintro rfl
        exact hreturns hrun
      apply hidle tid'
      rw [hafter, Function.update_of_ne htid]
      exact hrun
  · intro ticket hnot
    apply h.unhandled
    rw [← hhandled]
    exact hnot

lemma keep {p' : Pool} {server : Server} (hserver : server.pool = p') {made : ℕ → ℕ}
    (hmade : ∀ tid packet, b.server.pool.handling tid = some packet → made tid = b.made tid)
    (hhandled : p'.handled = b.server.pool.handled) (hafter : p'.handling = b.server.pool.handling) :
    Answered jsonTokenerParse tokener misread worlds { b with server, made } := by
  subst hserver
  constructor
  · intro tid ticket str hrun
    dsimp only at hrun ⊢
    rw [hafter] at hrun
    rw [hmade tid _ hrun]
    exact h.running tid ticket str hrun
  · intro packet hmem hidle
    dsimp only at hmem hidle ⊢
    rw [hhandled] at hmem
    rw [hafter] at hidle
    exact h.done packet hmem hidle
  · intro ticket hnot
    apply h.unhandled
    rw [← hhandled]
    exact hnot

/-- One more call of the handler of `tid`. -/
lemma call (hfull : FullInv b.server) {tid ticket : ℕ} {str : List UInt8} {call : BotCall}
    (hrun : b.server.pool.handling tid = some (ticket, str))
    (hnext : (handlerCalls jsonTokenerParse tokener misread worlds ticket str)[b.made tid]? = some call) :
    Answered jsonTokenerParse tokener misread worlds
      { b with sent := b.sent ++ [(ticket, call)], made := Function.update b.made tid (b.made tid + 1) } := by
  have hmem := handling_mem hfull.tickets hfull.pool hfull.delivery hrun
  constructor
  · intro tid' ticket' str' hrun'
    dsimp only at hrun' ⊢
    by_cases htid : tid' = tid
    · subst htid
      obtain ⟨rfl, rfl⟩ := Prod.mk.inj (Option.some_inj.mp (hrun.symm.trans hrun'))
      rw [ofKey_own, Function.update_self, h.running tid' ticket str hrun, List.take_succ, hnext]
      rfl
    · have hother : ticket ≠ ticket' := by
        rintro rfl
        exact htid (handling_inj hfull.tickets hfull.pool hrun' hrun)
      rw [ofKey_other call hother, Function.update_of_ne htid]
      exact h.running tid' ticket' str' hrun'
  · intro packet' hmem' hidle
    dsimp only at hmem' hidle ⊢
    have hother : ticket ≠ packet'.1 := by
      rintro rfl
      apply hidle tid
      rw [hrun]
      have hstr : str = packet'.2 :=
        (hfull.delivery.handled _ hmem).trans (hfull.delivery.handled packet' hmem').symm
      rw [hstr]
    rw [ofKey_other call hother]
    exact h.done packet' hmem' hidle
  · intro ticket' hnot
    have hother : ticket ≠ ticket' := by
      rintro rfl
      exact hnot (List.mem_map_of_mem (f := Prod.fst) hmem)
    dsimp only
    rw [ofKey_other call hother]
    exact h.unhandled ticket' hnot

theorem step (hfull : FullInv b.server) {act : BotAct}
    (hstep : botStep jsonTokenerParse tokener misread worlds b act = some b') :
    FullInv b'.server ∧ Answered jsonTokenerParse tokener misread worlds b' := by
  unfold botStep at hstep
  split at hstep
  · cases hstep
  · cases act with
    | server act =>
      dsimp only at hstep
      split at hstep
      · rename_i hreturn
        obtain ⟨server, hserver, rfl⟩ := Option.map_eq_some_iff.mp hstep
        refine ⟨hfull.step hserver, ?_⟩
        cases serverStep_handling hfull hserver with
        | enter tid packet hwoken hfinished hnone hfresh hhandled hafter =>
          rw [hwoken]
          exact h.enter rfl hnone hfresh hhandled hafter
        | leave tid hwoken hfinished hhandled hafter =>
          rw [hwoken]
          refine h.leave rfl ?_ hhandled hafter
          intro packet hrun
          unfold Bot.mayReturn at hreturn
          simp only [hfinished, Option.all_some, hrun, Bool.and_eq_true, Bot.spent, decide_eq_true_eq] at hreturn
          exact hreturn.1
        | keep hwoken hfinished hhandled hafter =>
          refine h.keep rfl ?_ hhandled hafter
          intro tid packet hrun
          cases hact : act.woken with
          | none => rfl
          | some tid' =>
            have hne : tid ≠ tid' := by
              rintro rfl
              rw [hwoken tid hact] at hrun
              cases hrun
            exact Function.update_of_ne hne ..
      · cases hstep
    | call tid =>
      dsimp only at hstep
      split at hstep
      · cases hstep
      · rename_i ticket str hrun
        obtain ⟨call, hnext, rfl⟩ := Option.map_eq_some_iff.mp hstep
        exact ⟨hfull, h.call hfull hrun hnext⟩
    | crash tid =>
      dsimp only at hstep
      split at hstep
      · cases hstep
      · split at hstep
        · cases hstep
          exact ⟨hfull, { h with }⟩
        · cases hstep

end Answered

/-! ### Every reachable state -/

lemma answered_of_reachable {threadC tcpFd : ℕ} {chanJunk threadJunk : ℕ → ℕ → UInt8} (hc : threadC ≤ 0xffff)
    (hreach : Reachable (botStep jsonTokenerParse tokener misread worlds) (initBot threadC tcpFd chanJunk threadJunk) b) :
    FullInv b.server ∧ Answered jsonTokenerParse tokener misread worlds b :=
  reachable_preserves (fun b => FullInv b.server ∧ Answered jsonTokenerParse tokener misread worlds b)
    (fun _ _ _ h hstep => h.2.step h.1 hstep)
    ⟨FullInv.init tcpFd chanJunk threadJunk hc, answered_init threadC tcpFd chanJunk threadJunk⟩ hreach

lemma handlerCalls_sends {ticket : ℕ} {str : List UInt8} (hread : WellRead tokener str) :
    PacketSends tokener str (handlerCalls jsonTokenerParse tokener misread worlds ticket str) := by
  obtain ⟨segment, hfinal, hsends⟩ :=
    gwbotEventHandler_sends jsonTokenerParse misread hread { worlds ticket with calls := [] }
  have hcalls : handlerCalls jsonTokenerParse tokener misread worlds ticket str = segment := by
    calc handlerCalls jsonTokenerParse tokener misread worlds ticket str
      _ = (final (gwbotEventHandler jsonTokenerParse tokener misread str) { worlds ticket with calls := [] }).calls := by
        unfold handlerCalls handlerRun final
        cases gwbotEventHandler jsonTokenerParse tokener misread str { worlds ticket with calls := [] } <;> rfl
      _ = segment := by
        rw [hfinal]
        rfl
  rw [hcalls]
  exact hsends

lemma apiCalls_at {segment : List BotCall} {k : ℕ} {request : Request} {r : Response}
    (hk : segment[k]? = some (.api request r)) :
    (apiCalls segment)[(apiCalls (segment.take k)).length]? = some (request, r) ∧
      (apiCalls segment).take (apiCalls (segment.take k)).length = apiCalls (segment.take k) :=
  filterMap_at _ hk rfl

/-- The calls with the ticket of a packet are the first ones of its handler. -/
lemma Answered.isPrefix (h : Answered jsonTokenerParse tokener misread worlds b) (hfull : FullInv b.server) (ticket : ℕ) :
    ofKey ticket b.sent <+:
      handlerCalls jsonTokenerParse tokener misread worlds ticket (untilNul (b.server.pool.payload ticket)) := by
  by_cases hhandled : ticket ∈ handledTickets b.server.pool.handled
  · obtain ⟨packet, hmem, rfl⟩ := List.mem_map.mp hhandled
    rw [← hfull.delivery.handled packet hmem]
    by_cases hidle : ∀ tid, b.server.pool.handling tid ≠ some packet
    · rw [h.done packet hmem hidle]
    · rw [not_forall_not] at hidle
      obtain ⟨tid, hrun⟩ := hidle
      rw [h.running tid packet.1 packet.2 hrun]
      exact List.take_prefix _ _
  · rw [h.unhandled ticket hhandled]
    exact List.nil_prefix

end Calls

section Runs

variable (jsonTokenerParse : List UInt8 → Json) (tokener : List UInt8 → Option Json)
  (misread : TgevPhoto Tgev → Fill Fault BotWorld ℤ) (worlds : ℕ → BotWorld) (threadC tcpFd : ℕ)
  (chanJunk threadJunk : ℕ → ℕ → UInt8) (hc : threadC ≤ 0xffff) (b : Bot)
  (hreach : Reachable (botStep jsonTokenerParse tokener misread worlds) (initBot threadC tcpFd chanJunk threadJunk) b)

include hc hreach

end Runs

/-! A sudoer replies to a message with a request to delete it. The only worker has made the first call. -/

def sudoerHeader (id : ℤ) : List (List UInt8 × Json) :=
  [(ascii "message_id", .int id),
   (ascii "from", .object [(ascii "id", .int 243692601), (ascii "first_name", .string (ascii "a"))]),
   (ascii "chat", .object
     [(ascii "id", .int (-5)), (ascii "type", .string (ascii "supergroup")), (ascii "title", .string (ascii "t"))]),
   (ascii "date", .int 9)]

def unwantedMessage : Json := .object ((ascii "text", .string (ascii "x")) :: sudoerHeader 7)

def deletingMessage : Json :=
  .object ((ascii "text", .string (ascii ".delete")) :: sudoerHeader 8 ++ [(ascii "reply_to_message", unwantedMessage)])

def deletingUpdate : Json := .object [(ascii "update_id", .int 2), (ascii "message", deletingMessage)]

def unwantedEvent : Tgev := { isRepliedNode := true, msg := .text (textOf unwantedMessage (.string (ascii "x")) none) }

def deletingEvent : Tgev :=
  { updateId := 2, msg := .text (textOf deletingMessage (.string (ascii ".delete")) (some unwantedEvent)) }

lemma load_deletingUpdate (jsonStr : List UInt8) :
    tgEventLoadStr (fun _ => some deletingUpdate) jsonStr = .ok (0, deletingEvent) := by
  have hreplied : call (parseMessageJsonObj unwantedMessage) {} =
      .ok (0, { msg := .text (textOf unwantedMessage (.string (ascii "x")) none) }) := by
    rw [parseMessageJsonObj_eq]
    rfl
  have hreply : replyOf deletingMessage = .ok (some unwantedEvent) := by
    have hof : replyOf deletingMessage = parseRepliedMsg (call (parseMessageJsonObj unwantedMessage) {}) := rfl
    rw [hof, hreplied]
    rfl
  have hload : tgEventLoadStr (fun _ => some deletingUpdate) jsonStr =
      call (parseMessageJsonObj deletingMessage) { updateId := 2 } :=
    @load_message (fun _ => some deletingUpdate) jsonStr deletingUpdate (.int 2) deletingMessage rfl rfl rfl
  rw [hload, parseMessageJsonObj_eq, hreply]
  rfl

lemma wellRead_deletingUpdate (jsonStr : List UInt8) : WellRead (fun _ => some deletingUpdate) jsonStr := by
  intro evt ephoto hevt hmsg
  cases (load_deletingUpdate jsonStr).symm.trans hevt
  cases hmsg

/-- The API is not reached. -/
def offlineWorld : BotWorld := ⟨fun _ => ⟨-1, none, nofun⟩, fun _ => none, fun _ => [], fun _ => 0, []⟩

def offlineStep : Bot → BotAct → Option Bot :=
  botStep (fun _ => .null) (fun _ => some deletingUpdate) (fun _ => pure 0) (fun _ => offlineWorld)

def deletingBot : Bot where
  server := stateAfter directRun
  made := Function.update (Function.update (fun _ => 0) 0 0) 0 1
  sent := [(0, .api (.deleteMessage (-5) 7) ⟨-1, none, nofun⟩)]
  crashed := false

lemma reachable_deletingBot : Reachable offlineStep (initBot 1 3 (fun _ _ => 0) (fun _ _ => 0)) deletingBot := by
  refine ⟨directRun.map .server ++ [.call 0], run_append.mpr ⟨_, rfl, ?_⟩⟩
  have hcall : (handlerCalls (fun _ => .null) (fun _ => some deletingUpdate) (fun _ => pure 0) (fun _ => offlineWorld) 0
      [65])[0]? = some (.api (.deleteMessage (-5) 7) ⟨-1, none, nofun⟩) := by
    unfold handlerCalls handlerRun gwbotEventHandler
    rw [load_deletingUpdate]
    rfl
  have hstep : offlineStep ⟨stateAfter directRun, Function.update (fun _ => 0) 0 0, [], false⟩ (.call 0) =
      ((handlerCalls (fun _ => .null) (fun _ => some deletingUpdate) (fun _ => pure 0) (fun _ => offlineWorld) 0
        [65])[0]?).map fun call => { deletingBot with sent := [(0, call)] } := rfl
  rw [hcall] at hstep
  exact run_cons.mpr ⟨_, hstep, rfl⟩

end GNUWeebBot.Proofs
