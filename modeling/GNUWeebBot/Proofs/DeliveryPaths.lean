import GNUWeebBot.Proofs.Framing

/-!
# The direct and the queued path

A packet reaches its worker in the slot's own buffer or in an SQE node. The string is the same on
both paths; `pkt_len` counts the length field on the direct path only.
-/

namespace GNUWeebBot.Proofs
open Transition

/-- What `pkt_len` says of a payload. -/
def pktLenOf (payload : List UInt8) (evFromSqe : Bool) : ℕ :=
  if evFromSqe then payload.length else offsetofData + payload.length

@[grind cases]
structure LengthInv (p : Pool) : Prop where
  sqes : ∀ node ∈ p.sqes.items, hostU16 node.data 0 = (p.payload node.ticket).length
  slot : ∀ i, (p.threads i).hasEvent = true →
    (p.threads i).pktLen = pktLenOf (p.payload (p.threads i).ticket) (p.threads i).evFromSqe

namespace LengthInv

variable {p : Pool}

lemma init (threadC : ℕ) (junk : ℕ → ℕ → UInt8) : LengthInv (initPool threadC junk) := by
  constructor <;> simp [initPool, resetThread]

lemma withTicket (h : LengthInv p) (ht : TicketInv p) (n : ℕ) (b : Buf) : LengthInv (withTicket p n b) := by
  constructor
  · intro node hn
    rw [DeliveryInv.payload_withTicket (ht.sqeOld node.ticket (List.mem_map_of_mem hn)).1]
    exact h.sqes node hn
  · intro i hev
    have hpayload := DeliveryInv.payload_withTicket (n := n) (b := b) (ht.slotOld i hev).1
    have hslot := h.slot i hev
    rw [← hpayload] at hslot
    exact hslot

/-- The slot `i` is written. -/
lemma writeSlot (h : LengthInv p) {i : ℕ} {th : Thread} (que : Fifo QueNode)
    (hque : ∀ node ∈ que.items, node ∈ p.sqes.items)
    (hth : th.hasEvent = true → th.pktLen = pktLenOf (p.payload th.ticket) th.evFromSqe) :
    LengthInv { p with sqes := que, threads := Function.update p.threads i th, main := .idle } := by
  constructor
  · exact fun node hn => h.sqes node (hque node hn)
  · intro j hev
    by_cases hj : j = i
    · subst hj
      simp only [Function.update_self] at hev ⊢
      exact hth hev
    · simp only [Function.update_of_ne hj] at hev ⊢
      exact h.slot j hev

lemma submit (h : LengthInv p) (hd : DeliveryInv p) {i cpyLen ticket : ℕ} {b : Buf}
    (hmain : p.main = .submit i cpyLen b ticket) :
    LengthInv { p with
      threads := Function.update p.threads i (submitStore (p.threads i) b cpyLen ticket)
      main := .idle } := by
  apply h.writeSlot p.sqes (fun _ hn => hn)
  intro _
  exact (hd.main i cpyLen b ticket hmain).2.1

lemma dispatch (h : LengthInv p) (i : ℕ) {node : QueNode} {que : Fifo QueNode}
    (hque : p.sqes.items = node :: que.items) :
    LengthInv { p with
      sqes := que
      threads := Function.update p.threads i (dispatchStore (p.threads i) node)
      main := .idle } := by
  apply h.writeSlot que
  · intro n hn
    rw [hque]
    exact List.mem_cons_of_mem _ hn
  · intro _
    exact h.sqes node (by rw [hque]; exact List.mem_cons_self)

/-- The worker of the slot changes only what no length depends on. -/
lemma keepSlot (h : LengthInv p) {i : ℕ} {th : Thread} (workers : ℕ → Option Worker) (destroyed : List ℕ)
    (handled : List (ℕ × List UInt8))
    (hth : th.hasEvent = true → (p.threads i).hasEvent = true ∧ th.pktLen = (p.threads i).pktLen ∧
      th.ticket = (p.threads i).ticket ∧ th.evFromSqe = (p.threads i).evFromSqe) :
    LengthInv { p with
      threads := Function.update p.threads i th
      workers := workers
      destroyed := destroyed
      handled := handled } := by
  refine ⟨h.sqes, ?_⟩
  intro j hev
  by_cases hj : j = i
  · subst hj
    simp only [Function.update_self] at hev ⊢
    obtain ⟨hev', hlen, hticket, hsqe⟩ := hth hev
    rw [hlen, hticket, hsqe]
    exact h.slot j hev'
  · simp only [Function.update_of_ne hj] at hev ⊢
    exact h.slot j hev

/-- The node that `enqueue_to_sqe` stores starts with the length of its payload. -/
lemma hostU16_sqeNodeOf (b : Buf) (n ticket : ℕ) (junk : ℕ → UInt8) :
    hostU16 (sqeNodeOf b (offsetofData + n) ticket junk).data 0 = hostU16 b 0 := by
  have hbyte : ∀ k < 2, (sqeNodeOf b (offsetofData + n) ticket junk).data.mem k = b.mem k := by
    intro k hk
    have hlen : k < (b.read 0 (offsetofData + n)).length := by
      rw [Buf.read_length, offsetofData]
      omega
    have hput := Buf.put_mem_add (Buf.fresh junk) 0 (b.read 0 (offsetofData + n)) hlen
    rw [Nat.zero_add] at hput
    rw [sqeNodeOf, Buf.put_mem_of_lt _ _ (by unfold offsetofData; omega), hput, List.getD_eq_getElem?_getD,
      List.getElem?_eq_getElem hlen, Option.getD_some, Buf.read_getElem, Nat.zero_add]
  unfold hostU16
  rw [Nat.zero_add, hbyte 0 (by decide), hbyte 1 (by decide)]

theorem effect (h : LengthInv p) (hd : DeliveryInv p) (ht : TicketInv p) {act : PoolAct} {p' : Pool}
    (hframed : FramedAct act) (he : PoolEffect p act p') : LengthInv p' := by
  have hfinished : ∀ th : Thread, (finishedThread th).hasEvent = th.hasEvent ∧
      (finishedThread th).pktLen = th.pktLen ∧ (finishedThread th).ticket = th.ticket ∧
      (finishedThread th).evFromSqe = th.evFromSqe := by
    intro th
    unfold finishedThread
    split <;> simp
  cases he with
  | enqueueFail n b alloc hmain hstk => exact h.withTicket ht n b
  | enqueue n b junk hmain hstk =>
    refine ⟨?_, (h.withTicket ht n b).slot⟩
    intro node hn
    simp only [Fifo.push, List.mem_append, List.mem_singleton] at hn
    rcases hn with hn | rfl
    · exact (h.withTicket ht n b).sqes node hn
    · rw [hostU16_sqeNodeOf, hframed.2]
      simp only [sqeNodeOf]
      rw [show (GNUWeebBot.Proofs.withTicket p n b).payload p.nextTicket = _ from DeliveryInv.payload_next n b,
        Buf.read_length]
  | popSubmit n b alloc i stk hmain hstk hok hcap => exact { h.withTicket ht n b with }
  | submitOnline i cpyLen b ticket create hmain hfree hon => exact { h.submit hd hmain with }
  | submitSpawn i cpyLen b ticket hmain hfree hoff => exact { h.submit hd hmain with }
  | submitNoThread i cpyLen b ticket create hmain hfree hoff hcreate => exact h.submit hd hmain
  | dispatchOnline i create node que hmain hfree hque hon => exact h.dispatch i hque
  | dispatchSpawn i node que hmain hfree hque hoff => exact { h.dispatch i hque with }
  | dispatchNoThread i create node que hmain hfree hque hoff hcreate => exact h.dispatch i hque
  | startRun tid idx old hw hold hfree hev => exact h.keepSlot _ p.destroyed _ (fun hev => ⟨hev, rfl, rfl, rfl⟩)
  | startWait tid idx old hw hold hfree hev => exact h.keepSlot _ p.destroyed p.handled (fun hev => ⟨hev, rfl, rfl, rfl⟩)
  | finishLeave tid idx hw hstop =>
    obtain ⟨hev, hrest⟩ := hfinished (p.threads idx)
    exact h.keepSlot _ _ p.handled (fun hev' => ⟨hev ▸ hev', hrest⟩)
  | finishClear tid idx hw hgo => exact h.keepSlot _ _ p.handled (fun hev => by cases hev)
  | reset tid idx hw => exact h.keepSlot _ p.destroyed p.handled (fun hev => by cases hev)
  | _ => exact { h with }

end LengthInv

lemma lengthInv_of_reachable {threadC tcpFd : ℕ} {chanJunk threadJunk : ℕ → ℕ → UInt8} {s : Server}
    (hc : threadC ≤ 0xffff) (hreach : Reachable serverStep (initServer threadC tcpFd chanJunk threadJunk) s) :
    FullInv s ∧ LengthInv s.pool := by
  refine reachable_preserves (fun q => FullInv q ∧ LengthInv q.pool) ?_
    ⟨FullInv.init tcpFd chanJunk threadJunk hc, LengthInv.init threadC threadJunk⟩ hreach
  rintro q act q' ⟨hfull, hlen⟩ hstep
  refine ⟨hfull.step hstep, ?_⟩
  rcases serverEffect_pool hfull.pool (hfull.server.toEffect hstep) with hs | ⟨pact, hframed, hpe⟩
  · rw [hs]
    exact hlen
  · exact hlen.effect hfull.delivery hfull.tickets hframed hpe

/-- A worker is in `gwbot_event_handler` with the event of slot `i`. -/
def Handling (p : Pool) (i : ℕ) : Prop := ∃ tid, p.workers tid = some ⟨i, .running⟩

/-- What a worker sees of its event. -/
lemma event_of_handling {p : Pool} (hp : PoolInv p) (hd : DeliveryInv p) (hl : LengthInv p) {i : ℕ} (h : Handling p i) :
    (p.threads i).jsonStr = untilNul (p.payload (p.threads i).ticket) ∧
      (p.threads i).pktLen = pktLenOf (p.payload (p.threads i).ticket) (p.threads i).evFromSqe := by
  obtain ⟨tid, hw⟩ := h
  have hev := hp.busy tid _ hw (Or.inr rfl)
  exact ⟨hd.jsonStr_eq hw (by simp) hev, hl.slot i hev⟩

/-- The two slots show a worker the same event. -/
def SameEvent (th th' : Thread) : Prop := th.jsonStr = th'.jsonStr ∧ th.pktLen = th'.pktLen

/-- A packet that one worker got directly and another one from the queue: the string is the same, and
`pkt_len` never is. -/
theorem paths_never_agree (threadC tcpFd : ℕ) (chanJunk threadJunk : ℕ → ℕ → UInt8) (hc : threadC ≤ 0xffff) (s : Server)
    (hreach : Reachable serverStep (initServer threadC tcpFd chanJunk threadJunk) s)
    (threadC' tcpFd' : ℕ) (chanJunk' threadJunk' : ℕ → ℕ → UInt8) (hc' : threadC' ≤ 0xffff) (s' : Server)
    (hreach' : Reachable serverStep (initServer threadC' tcpFd' chanJunk' threadJunk') s') (i j : ℕ)
    (hi : Handling s.pool i) (hdirect : (s.pool.threads i).evFromSqe = false)
    (hj : Handling s'.pool j) (hqueued : (s'.pool.threads j).evFromSqe = true)
    (hsame : s.pool.payload (s.pool.threads i).ticket = s'.pool.payload (s'.pool.threads j).ticket) :
    (s.pool.threads i).jsonStr = (s'.pool.threads j).jsonStr ∧
      (s.pool.threads i).pktLen = (s'.pool.threads j).pktLen + offsetofData ∧
      ¬SameEvent (s.pool.threads i) (s'.pool.threads j) := by
  obtain ⟨hfull, hlen⟩ := lengthInv_of_reachable hc hreach
  obtain ⟨hfull', hlen'⟩ := lengthInv_of_reachable hc' hreach'
  obtain ⟨hstr, hpkt⟩ := event_of_handling hfull.pool hfull.delivery hlen hi
  obtain ⟨hstr', hpkt'⟩ := event_of_handling hfull'.pool hfull'.delivery hlen' hj
  rw [hdirect, pktLenOf, if_neg Bool.false_ne_true] at hpkt
  rw [hqueued, pktLenOf, if_pos rfl] at hpkt'
  have hmore : (s.pool.threads i).pktLen = (s'.pool.threads j).pktLen + offsetofData := by
    rw [hpkt, hpkt', hsame]
    omega
  refine ⟨by rw [hstr, hstr', hsame], hmore, fun heq => ?_⟩
  have heq := heq.2
  rw [hmore, offsetofData] at heq
  omega

/-- A client sends `A`, and the only worker takes it. -/
def directRun : List ServerAct :=
  acceptRun ++ [.epollWait [(5, false)], .clientEvent (.ok [0, 1, 65]) none, .pool (.submitToThread 0), .pool (.start 0)]

/-- Another client sends `A` while the worker is busy, and the worker gets it from the queue. -/
def queuedRun : List ServerAct :=
  directRun ++ acceptRun ++ [.epollWait [(5, false)], .clientEvent (.ok [0, 1, 65]) (some (fun _ => 0)), .pool (.finish 0),
    .pool (.push 0), .pool (.unlock 0), .pool .dispatchPop, .pool (.dispatchSqe 0), .pool (.start 0)]

theorem paths_never_agree_queuedRun :
    ¬SameEvent ((stateAfter directRun).pool.threads 0) ((stateAfter queuedRun).pool.threads 0) := by
  exact (paths_never_agree 1 3 (fun _ _ => 0) (fun _ _ => 0) (by decide) (stateAfter directRun) ⟨directRun, rfl⟩
    1 3 (fun _ _ => 0) (fun _ _ => 0) (by decide) (stateAfter queuedRun) ⟨queuedRun, rfl⟩ 0 0
    ⟨0, rfl⟩ rfl ⟨0, rfl⟩ rfl rfl).2.2

/-- The same packet, three bytes for one worker and one byte for the other. -/
theorem queued_pktLen_shorter :
    ¬∀ acts acts', Handling (stateAfter acts).pool 0 → ((stateAfter acts).pool.threads 0).evFromSqe = false →
      Handling (stateAfter acts').pool 0 → ((stateAfter acts').pool.threads 0).evFromSqe = true →
      (stateAfter acts).pool.payload ((stateAfter acts).pool.threads 0).ticket =
        (stateAfter acts').pool.payload ((stateAfter acts').pool.threads 0).ticket →
      SameEvent ((stateAfter acts).pool.threads 0) ((stateAfter acts').pool.threads 0) := by
  intro h
  have hsame := (h directRun queuedRun ⟨0, rfl⟩ rfl ⟨0, rfl⟩ rfl rfl).2
  have hdirect : ((stateAfter directRun).pool.threads 0).pktLen = 3 := rfl
  have hqueued : ((stateAfter queuedRun).pool.threads 0).pktLen = 1 := rfl
  omega

end GNUWeebBot.Proofs
