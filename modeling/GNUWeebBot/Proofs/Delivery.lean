import GNUWeebBot.Proofs.Tickets

/-!
# What the workers read

By either route, the slot's own buffer or an SQE node, the string handed to
`tg_event_load_str` is the submitted payload up to its first NUL: no byte that an earlier
packet left in a buffer is part of it.
-/

namespace GNUWeebBot.Proofs
open Transition

/-- The buffer holds `payload` behind the length field, and a NUL after it. -/
def Stored (payload : List UInt8) (b : Buf) : Prop :=
  b.read offsetofData payload.length = payload ∧ b.mem (offsetofData + payload.length) = 0

/-- What a worker reads of a payload. -/
def untilNul (payload : List UInt8) : List UInt8 := payload.takeWhile (fun c => c != 0)

lemma cstr_of_stored {payload : List UInt8} {b : Buf} (h : Stored payload b) {fuel : ℕ}
    (hfuel : payload.length < fuel) : b.cstr offsetofData fuel = untilNul payload := by
  rw [Buf.cstr_eq_takeWhile b offsetofData payload.length fuel hfuel h.2, h.1]
  rfl

lemma read_copy (x b : Buf) (m n : ℕ) : (x.put 0 (b.read 0 (m + n))).read m n = b.read m n := by
  have hself := Buf.read_put_self x 0 (b.read 0 (m + n))
  have hb := Buf.read_add b 0 m n
  rw [Buf.read_length, Buf.read_add (x.put 0 _), Nat.zero_add, hb, Nat.zero_add] at hself
  rw [hb, Nat.zero_add]
  refine (List.append_inj hself ?_).2
  rw [Buf.read_length, Buf.read_length]

/-- The copy of a packet with its terminator, over whatever the buffer held. -/
lemma stored_copy (x b : Buf) (n : ℕ) :
    Stored (b.read offsetofData n)
      ((x.put 0 (b.read 0 (offsetofData + n))).put (offsetofData + n) [0]) := by
  constructor
  · rw [Buf.read_length, Buf.read_put_of_le _ _ (Nat.le_refl _), read_copy]
  · have hz := Buf.put_mem_add (x.put 0 (b.read 0 (offsetofData + n))) (offsetofData + n) [0]
      (k := 0) (by simp)
    rw [Buf.read_length]
    simpa using hz

/-- A node of the queue holds its packet. -/
def NodeStored (payload : ℕ → List UInt8) (node : QueNode) : Prop :=
  node.len = offsetofData + (payload node.ticket).length ∧ Stored (payload node.ticket) node.data

@[grind cases]
structure DeliveryInv (p : Pool) : Prop where
  main : ∀ i cpyLen b t, p.main = .submit i cpyLen b t → (p.payload t).length ≤ CHPKT_DATA_BUFSIZ ∧
    cpyLen = offsetofData + (p.payload t).length ∧ b.read offsetofData (p.payload t).length = p.payload t
  sqes : ∀ node ∈ p.sqes.items, NodeStored p.payload node
  slot : ∀ i, (p.threads i).hasEvent = true → (p.threads i).evFromSqe = false →
    (p.payload (p.threads i).ticket).length ≤ CHPKT_DATA_BUFSIZ ∧
      Stored (p.payload (p.threads i).ticket) (p.threads i).pkt
  slotSqe : ∀ i, (p.threads i).hasEvent = true → (p.threads i).evFromSqe = true →
    ∀ node, (p.threads i).sqeNode = some node →
      node.ticket = (p.threads i).ticket ∧ NodeStored p.payload node
  slotNode : ∀ t w, p.workers t = some w → w.phase ≠ .leaving → (p.threads w.idx).hasEvent = true →
    (p.threads w.idx).evFromSqe = true → (p.threads w.idx).sqeNode ≠ none
  handled : ∀ e ∈ p.handled, e.2 = untilNul (p.payload e.1)

/-- The packets fit the buffers of the workers. -/
def SmallAct : PoolAct → Prop
  | .submitEvent n _ _ => n ≤ CHPKT_DATA_BUFSIZ
  | _ => True

namespace DeliveryInv

variable {p : Pool}

lemma init (threadC : ℕ) (junk : ℕ → ℕ → UInt8) : DeliveryInv (initPool threadC junk) := by
  constructor <;> simp [initPool, resetThread]

lemma payload_withTicket {n : ℕ} {b : Buf} {t : ℕ} (ht : t < p.nextTicket) :
    (withTicket p n b).payload t = p.payload t :=
  Function.update_of_ne (Nat.ne_of_lt ht) ..

/-- A new ticket changes the payload of no older one. -/
lemma withTicket (h : DeliveryInv p) (ht : TicketInv p) (n : ℕ) (b : Buf) :
    DeliveryInv (withTicket p n b) := by
  have hnode : ∀ node : QueNode, node.ticket < p.nextTicket → NodeStored p.payload node →
      NodeStored (GNUWeebBot.Proofs.withTicket p n b).payload node := by
    intro node hlt hn
    unfold NodeStored
    rw [payload_withTicket hlt]
    exact hn
  constructor
  · intro i c b' t hm
    rw [payload_withTicket (ht.mainOld i c b' t hm).1]
    exact h.main i c b' t hm
  · intro node hn
    exact hnode node (ht.sqeOld node.ticket (List.mem_map_of_mem hn)).1 (h.sqes node hn)
  · intro i hev hs
    have hpl := payload_withTicket (n := n) (b := b) (ht.slotOld i hev).1
    have hst := h.slot i hev hs
    rw [← hpl] at hst
    exact hst
  · intro i hev hs node hn
    obtain ⟨htick, hst⟩ := h.slotSqe i hev hs node hn
    exact ⟨htick, hnode node (by rw [htick]; exact (ht.slotOld i hev).1) hst⟩
  · exact h.slotNode
  · intro e he
    rw [payload_withTicket (ht.handledOld e.1 (List.mem_map_of_mem he))]
    exact h.handled e he

lemma payload_next (n : ℕ) (b : Buf) :
    (GNUWeebBot.Proofs.withTicket p n b).payload p.nextTicket = b.read offsetofData n :=
  Function.update_self ..

/-- The slot `i` is written; its worker, if it has one, was not in the handler. -/
lemma writeSlot (h : DeliveryInv p) {i : ℕ} {th : Thread} (que : Fifo QueNode)
    (hque : ∀ node ∈ que.items, node ∈ p.sqes.items)
    (hslot : th.evFromSqe = false → (p.payload th.ticket).length ≤ CHPKT_DATA_BUFSIZ ∧
      Stored (p.payload th.ticket) th.pkt)
    (hsqe : th.evFromSqe = true → ∃ node, th.sqeNode = some node ∧ node.ticket = th.ticket ∧
      NodeStored p.payload node) :
    DeliveryInv { p with sqes := que, threads := Function.update p.threads i th, main := .idle } := by
  refine { h with
    main := ?main, sqes := fun node hn => h.sqes node (hque node hn), slot := ?slot
    slotSqe := ?slotSqe, slotNode := ?slotNode }
  case slotSqe =>
    intro j hev hs node hn
    by_cases hj : j = i
    · subst hj
      simp only [Function.update_self] at hs hn ⊢
      obtain ⟨node', hn', hrest⟩ := hsqe hs
      obtain rfl : node' = node := Option.some_inj.mp (hn'.symm.trans hn)
      exact hrest
    · simp only [Function.update_of_ne hj] at hev hs hn ⊢
      exact h.slotSqe j hev hs node hn
  case slotNode =>
    intro t w htw hph hev hs
    by_cases hj : w.idx = i
    · simp only [hj, Function.update_self] at hs ⊢
      obtain ⟨node, hn, -⟩ := hsqe hs
      rw [hn]
      simp
    · simp only [Function.update_of_ne hj] at hev hs ⊢
      exact h.slotNode t w htw hph hev hs
  all_goals simp only
  all_goals grind [Function.update]

lemma submit (h : DeliveryInv p) {i cpyLen ticket : ℕ} {b : Buf}
    (hmain : p.main = .submit i cpyLen b ticket) :
    DeliveryInv { p with
      threads := Function.update p.threads i (submitStore (p.threads i) b cpyLen ticket)
      main := .idle } := by
  obtain ⟨hlen, rfl, hread⟩ := h.main i cpyLen b ticket hmain
  refine h.writeSlot p.sqes (fun _ hn => hn) (fun _ => ⟨hlen, ?_⟩) (by simp [submitStore])
  have hst := stored_copy (p.threads i).pkt b (p.payload ticket).length
  rw [hread] at hst
  exact hst

lemma dispatch (h : DeliveryInv p) (i : ℕ) {node : QueNode} {que : Fifo QueNode}
    (hque : p.sqes.items = node :: que.items) :
    DeliveryInv { p with
      sqes := que
      threads := Function.update p.threads i (dispatchStore (p.threads i) node)
      main := .idle } := by
  refine h.writeSlot que (fun n hn => ?_) (by simp [dispatchStore]) (fun _ => ?_)
  · rw [hque]
    exact List.mem_cons_of_mem _ hn
  · refine ⟨node, rfl, rfl, h.sqes node ?_⟩
    rw [hque]
    exact List.mem_cons_self

lemma spawn (h : DeliveryInv p) {i : ℕ}
    (hsome : (p.threads i).evFromSqe = true → (p.threads i).sqeNode ≠ none) (accepted : List ℕ) :
    DeliveryInv { p with
      workers := Function.update p.workers p.nextTid (some ⟨i, .spawned⟩)
      nextTid := p.nextTid + 1
      accepted := accepted } := by
  refine { h with slotNode := ?_ }
  simp only
  grind [Function.update]

/-- A worker moves on; if it comes from the handler it is on its way out. -/
lemma move (h : DeliveryInv p) (new : Phase) {tid idx : ℕ} {old : Phase}
    (hw : p.workers tid = some ⟨idx, old⟩) (hold : old ≠ .leaving) :
    DeliveryInv { p with workers := Function.update p.workers tid (some ⟨idx, new⟩) } := by
  refine { h with slotNode := ?_ }
  simp only
  grind [Function.update]

/-- What a worker that enters the handler reads. -/
lemma jsonStr_eq (h : DeliveryInv p) {tid idx : ℕ} {phase : Phase}
    (hw : p.workers tid = some ⟨idx, phase⟩) (hph : phase ≠ .leaving)
    (hev : (p.threads idx).hasEvent = true) :
    (p.threads idx).jsonStr = untilNul (p.payload (p.threads idx).ticket) := by
  unfold Thread.jsonStr
  cases hs : (p.threads idx).evFromSqe with
  | false =>
    obtain ⟨hlen, hst⟩ := h.slot idx hev hs
    rw [if_neg Bool.false_ne_true]
    exact cstr_of_stored hst (Nat.lt_succ_of_le hlen)
  | true =>
    rw [if_pos rfl]
    cases hn : (p.threads idx).sqeNode with
    | none => exact absurd hn (h.slotNode tid _ hw hph hev hs)
    | some node =>
      obtain ⟨htick, hlen, hst⟩ := h.slotSqe idx hev hs node hn
      rw [htick] at hlen hst
      refine cstr_of_stored hst ?_
      rw [hlen, offsetofData]
      omega

lemma enter (h : DeliveryInv p) {tid idx : ℕ} {old : Phase} (hw : p.workers tid = some ⟨idx, old⟩)
    (hold : old ≠ .leaving) (hev : (p.threads idx).hasEvent = true) :
    DeliveryInv { p with
      workers := Function.update p.workers tid (some ⟨idx, .running⟩)
      handled := ((p.threads idx).ticket, (p.threads idx).jsonStr) :: p.handled } := by
  refine { h.move .running hw hold with handled := ?_ }
  intro e he
  rcases List.mem_cons.mp he with rfl | he
  · exact h.jsonStr_eq hw hold hev
  · exact h.handled e he

/-- The slot loses its event, or its worker leaves with it. -/
lemma finish (h : DeliveryInv p) {tid idx : ℕ} {th : Thread} {x : Option Worker} (freed : List ℕ)
    (hunique : ∀ t w, p.workers t = some w → w.idx = idx → t = tid)
    (hth : th.hasEvent = false ∨ (th = finishedThread (p.threads idx) ∧ x = some ⟨idx, .leaving⟩))
    (hx : ∀ w, x = some w → w.idx = idx) :
    DeliveryInv { p with
      threads := Function.update p.threads idx th
      workers := Function.update p.workers tid x
      destroyed := freed } := by
  have hfin : ∀ s : Thread, (finishedThread s).hasEvent = s.hasEvent ∧
      (finishedThread s).evFromSqe = s.evFromSqe ∧ (finishedThread s).pkt = s.pkt ∧
      (finishedThread s).ticket = s.ticket ∧
      ∀ node, s.evFromSqe = true → (finishedThread s).sqeNode ≠ some node := by
    intro s
    unfold finishedThread
    split <;> simp_all
  have hf := hfin (p.threads idx)
  refine { h with
    slot := ?slot, slotSqe := ?slotSqe, slotNode := ?slotNode }
  all_goals simp only
  all_goals grind [Function.update]

lemma setOnline (h : DeliveryInv p) (idx : ℕ) :
    DeliveryInv { p with
      threads := Function.update p.threads idx { p.threads idx with isOnline := true } } := by
  refine { h with
    slot := ?slot, slotSqe := ?slotSqe, slotNode := ?slotNode }
  all_goals simp only
  all_goals grind [Function.update]

theorem effect (h : DeliveryInv p) (hp : PoolInv p) (ht : TicketInv p) {act : PoolAct} {p' : Pool}
    (hsmall : SmallAct act) (he : PoolEffect p act p') : DeliveryInv p' := by
  cases he with
  | enqueueFail n b alloc hmain hstk => exact h.withTicket ht n b
  | enqueue n b junk hmain hstk =>
    refine { h.withTicket ht n b with sqes := ?_ }
    intro node hn
    simp only [Fifo.push, List.mem_append, List.mem_singleton] at hn
    rcases hn with hn | rfl
    · exact (h.withTicket ht n b).sqes node hn
    · unfold NodeStored
      simp only [sqeNodeOf]
      rw [show (GNUWeebBot.Proofs.withTicket p n b).payload p.nextTicket = _ from payload_next n b]
      exact ⟨by rw [Buf.read_length], stored_copy _ b n⟩
  | popSubmit n b alloc i stk hmain hstk hok hcap =>
    refine { h.withTicket ht n b with main := ?_ }
    intro i' c' b' t' hm
    simp only [MainPc.submit.injEq] at hm
    obtain ⟨-, rfl, rfl, rfl⟩ := hm
    rw [show (GNUWeebBot.Proofs.withTicket p n b).payload p.nextTicket = _ from payload_next n b,
      Buf.read_length]
    exact ⟨hsmall, rfl, rfl⟩
  | submitOnline i cpyLen b ticket create hmain hfree hon => exact { h.submit hmain with }
  | submitSpawn i cpyLen b ticket hmain hfree hoff =>
    refine (h.submit hmain).spawn (i := i) ?_ _
    simp [submitStore]
  | submitNoThread i cpyLen b ticket create hmain hfree hoff hcreate => exact h.submit hmain
  | dispatchBusy hmain hstk => exact h
  | popDispatch i stk hmain hque hstk hok hcap =>
    refine { h with main := ?_ }
    intro i' c' b' t' hm
    cases hm
  | dispatchOnline i create node que hmain hfree hque hon => exact h.dispatch i hque
  | dispatchSpawn i node que hmain hfree hque hoff =>
    refine (h.dispatch i hque).spawn (i := i) ?_ _
    simp [dispatchStore]
  | dispatchNoThread i create node que hmain hfree hque hoff hcreate => exact h.dispatch i hque
  | dispatchPanic i create hmain hque => exact { h with }
  | startRun tid idx old hw hold hfree hev =>
    have hne : old ≠ .leaving := by rcases hold with rfl | rfl <;> simp
    exact { (h.enter hw hne hev).setOnline idx with }
  | startWait tid idx old hw hold hfree hev =>
    have hne : old ≠ .leaving := by rcases hold with rfl | rfl <;> simp
    exact { (h.move (.waiting 0) hw hne).setOnline idx with }
  | wakeLeave tid idx counter ret hw hfree hout => exact h.move .leaving hw (by simp)
  | wakeRun tid idx counter ret hw hfree hstay hev => exact h.enter hw (by simp) hev
  | wakeWait tid idx counter next ret hw hfree hstay hev => exact h.move (.waiting next) hw (by simp)
  | finishLeave tid idx hw hstop =>
    refine h.finish _ (fun t w htw hi => hp.unique t tid w _ htw hw hi) (Or.inr ⟨rfl, rfl⟩) ?_
    rintro w hx
    rw [← Option.some_inj.mp hx]
  | finishClear tid idx hw hgo =>
    refine h.finish _ (fun t w htw hi => hp.unique t tid w _ htw hw hi) (Or.inl rfl) ?_
    rintro w hx
    rw [← Option.some_inj.mp hx]
  | push tid idx hw => exact { h.move .pushed hw (by simp) with }
  | unlock tid idx hw => exact h.move .again hw (by simp)
  | reset tid idx hw =>
    exact h.finish _ (fun t w htw hi => hp.unique t tid w _ htw hw hi) (Or.inl rfl) (by simp)
  | interrupt => exact { h with }

end DeliveryInv

end GNUWeebBot.Proofs
