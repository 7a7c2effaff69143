import GNUWeebBot.Proofs.Framing

/-!
# Bounds of the receive path

Every write that receiving and submitting a packet makes is in the log of its buffer. All
of them stay inside their objects, except after a frame of exactly `CHPKT_DATA_BUFSIZ`
bytes, the longest one the length check admits: its terminator goes one byte too far.
-/

namespace GNUWeebBot.Proofs
open Transition

/-- `que_enqueue` allocates two bytes more than it copies. -/
def NodeWithin (node : QueNode) : Prop := node.data.Within (node.len + 2)

structure InBounds (s : Server) : Prop where
  chan : ∀ i, (s.net.chans i).pkt.Within sizeofRawBuf
  thread : ∀ i, (s.pool.threads i).pkt.Within sizeofRawBuf
  queued : ∀ node ∈ s.pool.sqes.items, NodeWithin node
  held : ∀ i node, (s.pool.threads i).sqeNode = some node → NodeWithin node

/-- The step is no read that completes a frame of `CHPKT_DATA_BUFSIZ` bytes. -/
def FrameFits (s : Server) : ServerAct → Prop
  | .clientEvent (.ok bytes) _ => ∀ fd rest, s.batch = (fd, false) :: rest → bytes ≠ [] →
      Completes (receivedChan (s.net.chans (s.net.eplMap fd - EPL_MAP_SHIFT)) bytes) →
      netU16 (receivedChan (s.net.chans (s.net.eplMap fd - EPL_MAP_SHIFT)) bytes).pkt ≠ CHPKT_DATA_BUFSIZ
  | _ => True

/-! ### The workers' buffers -/

structure PoolBounds (p : Pool) : Prop where
  thread : ∀ i, (p.threads i).pkt.Within sizeofRawBuf
  queued : ∀ node ∈ p.sqes.items, NodeWithin node
  held : ∀ i node, (p.threads i).sqeNode = some node → NodeWithin node

lemma nodeWithin_sqeNodeOf (b : Buf) (cpyLen ticket : ℕ) (junk : ℕ → UInt8) :
    NodeWithin (sqeNodeOf b cpyLen ticket junk) := by
  unfold NodeWithin sqeNodeOf
  rw [Buf.within_put, Buf.within_put]
  simp

namespace PoolBounds

variable {p : Pool}

/-- A slot changes to `th`. -/
lemma setSlot (h : PoolBounds p) (i : ℕ) (th : Thread) (hpkt : th.pkt.Within sizeofRawBuf)
    (hnode : ∀ node, th.sqeNode = some node → NodeWithin node) (j : ℕ) :
    (Function.update p.threads i th j).pkt.Within sizeofRawBuf ∧
      ∀ node, (Function.update p.threads i th j).sqeNode = some node → NodeWithin node := by
  by_cases hj : j = i
  · subst hj
    rw [Function.update_self]
    exact ⟨hpkt, hnode⟩
  · rw [Function.update_of_ne hj]
    exact ⟨h.thread j, h.held j⟩

lemma submit (h : PoolBounds p) (i : ℕ) {cpyLen : ℕ} (b : Buf) (ticket : ℕ)
    (hfit : cpyLen + 1 ≤ sizeofRawBuf) (j : ℕ) :
    (Function.update p.threads i (submitStore (p.threads i) b cpyLen ticket) j).pkt.Within sizeofRawBuf ∧
      ∀ node, (Function.update p.threads i (submitStore (p.threads i) b cpyLen ticket) j).sqeNode =
        some node → NodeWithin node := by
  refine h.setSlot i (submitStore (p.threads i) b cpyLen ticket) ?_ (h.held i) j
  simp only [submitStore, Buf.within_put, Buf.read_length, List.length_singleton]
  exact ⟨hfit, by omega, h.thread i⟩

lemma dispatch (h : PoolBounds p) (i : ℕ) {node : QueNode} {que : Fifo QueNode}
    (hque : p.sqes.items = node :: que.items) :
    (∀ j, (Function.update p.threads i (dispatchStore (p.threads i) node) j).pkt.Within sizeofRawBuf ∧
      ∀ n, (Function.update p.threads i (dispatchStore (p.threads i) node) j).sqeNode = some n →
        NodeWithin n) ∧ ∀ n ∈ que.items, NodeWithin n := by
  refine ⟨h.setSlot i _ (h.thread i) ?_, fun n hn => h.queued n ?_⟩
  · intro n hn
    simp only [dispatchStore, Option.some_inj] at hn
    refine hn ▸ h.queued node ?_
    rw [hque]
    exact List.mem_cons_self
  · rw [hque]
    exact List.mem_cons_of_mem _ hn

lemma finishedThread_held (h : PoolBounds p) (i : ℕ) :
    (finishedThread (p.threads i)).pkt.Within sizeofRawBuf ∧
      ∀ node, (finishedThread (p.threads i)).sqeNode = some node → NodeWithin node := by
  unfold finishedThread
  split
  · exact ⟨h.thread i, by simp⟩
  · exact ⟨h.thread i, h.held i⟩

theorem effect (h : PoolBounds p) {act : PoolAct} {p' : Pool} (he : PoolEffect p act p')
    (hfit : ∀ i cpyLen b t, p.main = .submit i cpyLen b t → cpyLen + 1 ≤ sizeofRawBuf) : PoolBounds p' := by
  cases he with
  | enqueue n b junk hmain hstk =>
    refine ⟨h.thread, fun node hn => ?_, h.held⟩
    simp only [Fifo.push, List.mem_append, List.mem_singleton] at hn
    rcases hn with hn | rfl
    · exact h.queued node hn
    · exact nodeWithin_sqeNodeOf b _ _ junk
  | submitOnline i cpyLen b ticket create hmain hfree hon =>
    have hs := h.submit i b ticket (hfit i cpyLen b ticket hmain)
    exact ⟨fun j => (hs j).1, h.queued, fun j => (hs j).2⟩
  | submitSpawn i cpyLen b ticket hmain hfree hoff =>
    have hs := h.submit i b ticket (hfit i cpyLen b ticket hmain)
    exact ⟨fun j => (hs j).1, h.queued, fun j => (hs j).2⟩
  | submitNoThread i cpyLen b ticket create hmain hfree hoff hcreate =>
    have hs := h.submit i b ticket (hfit i cpyLen b ticket hmain)
    exact ⟨fun j => (hs j).1, h.queued, fun j => (hs j).2⟩
  | dispatchOnline i create node que hmain hfree hque hon =>
    obtain ⟨hs, hq⟩ := h.dispatch i hque
    exact ⟨fun j => (hs j).1, hq, fun j => (hs j).2⟩
  | dispatchSpawn i node que hmain hfree hque hoff =>
    obtain ⟨hs, hq⟩ := h.dispatch i hque
    exact ⟨fun j => (hs j).1, hq, fun j => (hs j).2⟩
  | dispatchNoThread i create node que hmain hfree hque hoff hcreate =>
    obtain ⟨hs, hq⟩ := h.dispatch i hque
    exact ⟨fun j => (hs j).1, hq, fun j => (hs j).2⟩
  | startRun tid idx old hw hold hfree hev =>
    have hs := h.setSlot idx { p.threads idx with isOnline := true } (h.thread idx) (h.held idx)
    exact ⟨fun j => (hs j).1, h.queued, fun j => (hs j).2⟩
  | startWait tid idx old hw hold hfree hev =>
    have hs := h.setSlot idx { p.threads idx with isOnline := true } (h.thread idx) (h.held idx)
    exact ⟨fun j => (hs j).1, h.queued, fun j => (hs j).2⟩
  | finishLeave tid idx hw hstop =>
    obtain ⟨hpkt, hnode⟩ := h.finishedThread_held idx
    have hs := h.setSlot idx _ hpkt hnode
    exact ⟨fun j => (hs j).1, h.queued, fun j => (hs j).2⟩
  | finishClear tid idx hw hgo =>
    obtain ⟨hpkt, hnode⟩ := h.finishedThread_held idx
    have hs := h.setSlot idx { finishedThread (p.threads idx) with hasEvent := false } hpkt hnode
    exact ⟨fun j => (hs j).1, h.queued, fun j => (hs j).2⟩
  | reset tid idx hw =>
    have hs := h.setSlot idx (resetThread (p.threads idx) (p.threads idx).threadIdx)
      (h.thread idx) (by simp [resetThread])
    exact ⟨fun j => (hs j).1, h.queued, fun j => (hs j).2⟩
  | _ => exact ⟨h.thread, h.queued, h.held⟩

end PoolBounds

/-! ### The channels' buffers -/

/-- What keeps `recv` and the copy to a worker inside their buffers: `recv_s` never passes the
end of `raw_buf`, and a packet on its way to a worker had its terminator written before. -/
structure RecvInv (s : Server) : Prop where
  recvS : ∀ i, (s.net.chans i).recvS ≤ sizeofRawBuf
  terminated : ∀ i cpyLen b t, s.pool.main = .submit i cpyLen b t →
    ∃ j, (cpyLen, 1) ∈ (s.net.chans j).pkt.log

/-- A channel keeps the log of its buffer and stays within `recv_s`. -/
def Extends (net net' : Net) : Prop :=
  ∀ i, (net'.chans i).recvS ≤ sizeofRawBuf ∧ ∀ w ∈ (net.chans i).pkt.log, w ∈ (net'.chans i).pkt.log

section

variable {net net' : Net}

lemma extends_setChan (h : ∀ i, (net.chans i).recvS ≤ sizeofRawBuf) {i : ℕ} {chan : Chan}
    (hrecv : chan.recvS ≤ sizeofRawBuf) (hlog : ∀ w ∈ (net.chans i).pkt.log, w ∈ chan.pkt.log) :
    Extends net (net.setChan i chan) := by
  intro j
  by_cases hj : j = i
  · subst hj
    simp only [Net.setChan, Function.update_self]
    exact ⟨hrecv, hlog⟩
  · simp only [Net.setChan, Function.update_of_ne hj]
    exact ⟨h j, fun w hw => hw⟩

lemma extends_outClose (h : ∀ i, (net.chans i).recvS ≤ sizeofRawBuf) (fd i : ℕ) :
    Extends net (net.outClose fd i) :=
  extends_setChan h (Nat.zero_le _) (fun _ hw => hw)

lemma Extends.trans {net'' : Net} (h : Extends net net') (h' : Extends net' net'') : Extends net net'' :=
  fun i => ⟨(h' i).1, fun w hw => (h' i).2 w ((h i).2 w hw)⟩

lemma extends_acceptEffect (h : ∀ i, (net.chans i).recvS ≤ sizeofRawBuf) {errMask : Bool} {env : AcceptEnv}
    {ret : ℤ} (heff : AcceptEffect net errMask env ret net') :
    Extends net net' ∧ ∀ i, (net'.chans i).pkt = (net.chans i).pkt := by
  cases heff with
  | refuse ret hkeep => exact ⟨fun i => ⟨h i, fun _ hw => hw⟩, fun _ => rfl⟩
  | leak ret i stk hleak hstk hok hcap => exact ⟨fun i => ⟨h i, fun _ hw => hw⟩, fun _ => rfl⟩
  | accept fd i stk srcIp tvSec hkeep hfd hstk hok hcap hi =>
    refine ⟨extends_setChan h (Nat.zero_le _) (fun _ hw => hw), fun j => ?_⟩
    by_cases hj : j = i
    · subst hj
      simp [acceptedNet, acceptedChan]
    · simp [acceptedNet, hj]

/-- `recv` stores into `raw_buf` only. -/
lemma receivedChan_fits {chan : Chan} {bytes : List UInt8} (h : chan.recvS ≤ sizeofRawBuf)
    (hrecv : bytes.length ≤ recvLen chan) :
    chan.recvS + bytes.length ≤ sizeofRawBuf := by
  have hs : sizeofRawBuf = 0x6002 := rfl
  unfold recvLen at hrecv
  rw [sizeSub_of_le h (by omega)] at hrecv
  omega

lemma within_receivedChan {chan : Chan} {bytes : List UInt8} (h : chan.recvS ≤ sizeofRawBuf)
    (hrecv : bytes.length ≤ recvLen chan) (hw : chan.pkt.Within sizeofRawBuf) :
    (receivedChan chan bytes).pkt.Within sizeofRawBuf := by
  simp only [receivedChan, Buf.within_put]
  exact ⟨receivedChan_fits h hrecv, hw⟩

/-- The terminator stays inside `pkt->data` exactly when the frame is not the longest one. -/
lemma within_framedChan_iff {chan : Chan} (hcomp : Completes chan) (hw : chan.pkt.Within sizeofRawBuf) :
    (framedChan chan).pkt.Within sizeofRawBuf ↔ netU16 chan.pkt ≠ CHPKT_DATA_BUFSIZ := by
  have hle := hcomp.2.1
  have hs : sizeofRawBuf = offsetofData + CHPKT_DATA_BUFSIZ := rfl
  have ho : offsetofData = 2 := rfl
  have hb : CHPKT_DATA_BUFSIZ = 0x6000 := rfl
  simp only [framedChan, Buf.within_put, storeU16, List.length_cons, List.length_nil, hw, and_true]
  omega

lemma extends_clientEffect (h : ∀ i, (net.chans i).recvS ≤ sizeofRawBuf) {fd i : ℕ} {errMask : Bool}
    {recv : Except ℤ (List UInt8)} {sub : Option ℕ}
    (hrecv : ∀ bytes ∈ recv.toOption, bytes.length ≤ recvLen (net.chans i))
    (heff : ClientEffect net fd i errMask recv sub net') : Extends net net' := by
  have hgot : ∀ bytes, recv = .ok bytes → (receivedChan (net.chans i) bytes).recvS ≤ sizeofRawBuf := by
    intro bytes hb
    exact receivedChan_fits (h i) (hrecv bytes (by rw [hb]; rfl))
  have hlog : ∀ bytes, ∀ w ∈ (net.chans i).pkt.log, w ∈ (receivedChan (net.chans i) bytes).pkt.log :=
    fun bytes w hw => List.mem_cons_of_mem _ hw
  cases heff with
  | again herr => exact fun j => ⟨h j, fun _ hw => hw⟩
  | hangup recv hout => exact extends_outClose h fd i
  | more bytes herr hne hwait => exact extends_setChan h (hgot bytes rfl) (hlog bytes)
  | reject bytes herr hne hrej =>
    have hset := extends_setChan h (hgot bytes rfl) (hlog bytes)
    exact hset.trans (extends_outClose (fun j => (hset j).1) fd i)
  | complete bytes herr hne hcomp =>
    refine extends_setChan h (hgot bytes rfl) (fun w hw => ?_)
    exact List.mem_cons_of_mem _ (List.mem_cons_of_mem _ (hlog bytes w hw))

end

/-- Closing a channel and receiving on one change no other buffer. -/
lemma within_setChan {net : Net} (h : ∀ i, (net.chans i).pkt.Within sizeofRawBuf) (i : ℕ) (chan : Chan) :
    (∀ j, ((net.setChan i chan).chans j).pkt.Within sizeofRawBuf) ↔ chan.pkt.Within sizeofRawBuf := by
  refine ⟨fun hs => ?_, fun hw j => ?_⟩
  · have hi := hs i
    simpa only [Net.setChan, Function.update_self] using hi
  · by_cases hj : j = i
    · subst hj
      simpa only [Net.setChan, Function.update_self] using hw
    · simpa only [Net.setChan, Function.update_of_ne hj] using h j

lemma within_outClose (net : Net) (fd i : ℕ) :
    (∀ j, ((net.outClose fd i).chans j).pkt.Within sizeofRawBuf) ↔
      ∀ j, (net.chans j).pkt.Within sizeofRawBuf := by
  have hpkt : ∀ j, ((net.outClose fd i).chans j).pkt = (net.chans j).pkt := by
    intro j
    by_cases hj : j = i
    · subst hj
      simp [Net.outClose, Net.close, Net.setChan, resetChan]
    · simp [Net.outClose, Net.close, Net.setChan, hj]
  simp only [hpkt]

/-! ### Steps and runs -/

/-- Only `submit_event` brings the main thread in front of `submit_to_thread`. -/
lemma main_of_other {p p' : Pool} {act : PoolAct} (he : PoolEffect p act p')
    (hsubmit : ∀ n b alloc, act ≠ .submitEvent n b alloc) {i c t : ℕ} {b : Buf}
    (hmain : p'.main = .submit i c b t) : p.main = .submit i c b t := by
  cases he with
  | enqueueFail n b alloc hm hstk => exact absurd rfl (hsubmit n b alloc)
  | enqueue n b junk hm hstk => exact absurd rfl (hsubmit n b (some junk))
  | popSubmit n b alloc j stk hm hstk hok hcap => exact absurd rfl (hsubmit n b alloc)
  | _ => first | exact hmain | cases hmain

lemma main_of_submitEvent {p p' : Pool} {n : ℕ} {b : Buf} {alloc : Option (ℕ → UInt8)}
    (he : PoolEffect p (.submitEvent n b alloc) p') {i c t : ℕ} {b' : Buf}
    (hmain : p'.main = .submit i c b' t) : c = offsetofData + n := by
  cases he with
  | enqueueFail n b alloc hm hstk =>
    rw [show (withTicket p n b).main = p.main from rfl, hm] at hmain
    cases hmain
  | enqueue n b junk hm hstk =>
    rw [show (withTicket p n b).main = p.main from rfl, hm] at hmain
    cases hmain
  | popSubmit n b alloc j stk hm hstk hok hcap =>
    rw [MainPc.submit.injEq] at hmain
    exact hmain.2.1.symm

namespace RecvInv

variable {s s' : Server}

lemma keep (h : RecvInv s) (hext : Extends s.net s'.net)
    (hmain : ∀ i c b t, s'.pool.main = .submit i c b t → s.pool.main = .submit i c b t) : RecvInv s' := by
  refine ⟨fun i => (hext i).1, fun i c b t hm => ?_⟩
  obtain ⟨j, hj⟩ := h.terminated i c b t (hmain i c b t hm)
  exact ⟨j, (hext j).2 _ hj⟩

theorem effect (h : RecvInv s) (hf : FullInv s) {act : ServerAct} (he : ServerEffect s act s') :
    RecvInv s' := by
  cases he with
  | wait events hmain hbatch hok => exact ⟨h.recvS, h.terminated⟩
  | tcp env errMask rest batch ret net stop hmain hbatch hacc heff hrest hstop =>
    exact h.keep (extends_acceptEffect h.recvS heff).1 (fun _ _ _ _ hm => hm)
  | panic recv alloc fd errMask rest hbatch hfd hmap => exact ⟨h.recvS, h.terminated⟩
  | client recv alloc fd errMask rest net hmain hbatch hfd hrecv hmap heff =>
    exact h.keep (extends_clientEffect h.recvS hrecv heff) (fun _ _ _ _ hm => hm)
  | enqueue recv alloc fd errMask rest n net pool hmain hbatch hfd hrecv hmap heff hpool hidle =>
    have hext := extends_clientEffect h.recvS hrecv heff
    refine h.keep (hext.trans (extends_outClose (fun j => (hext j).1) fd _)) (fun i c b t hm => ?_)
    rw [show pool.main = .submit i c b t from hm] at hidle
    cases hidle
  | store recv alloc fd errMask rest n net pool hmain hbatch hfd hrecv hmap heff hpool hpop =>
    have hext := extends_clientEffect h.recvS hrecv heff
    refine ⟨fun i => (hext i).1, fun i c b t hm => ⟨s.net.eplMap fd - EPL_MAP_SHIFT, ?_⟩⟩
    obtain rfl := main_of_submitEvent (poolStep_effect hf.pool.stkOk hpool) hm
    cases heff with
    | complete bytes herr hne hcomp =>
      simp only [Net.setChan, Function.update_self]
      exact List.mem_cons_self
  | submitted create fd j pool hpend hpool =>
    have hpe := poolStep_effect hf.pool.stkOk hpool
    exact h.keep (extends_outClose h.recvS fd j) (fun _ _ _ _ hm => main_of_other hpe (by simp) hm)
  | other act pool hsubmit hstore hpool =>
    have hpe := poolStep_effect hf.pool.stkOk hpool
    exact h.keep (fun i => ⟨h.recvS i, fun _ hw => hw⟩) (fun _ _ _ _ hm => main_of_other hpe hsubmit hm)

end RecvInv

lemma inBounds_iff (s : Server) :
    InBounds s ↔ (∀ i, (s.net.chans i).pkt.Within sizeofRawBuf) ∧ PoolBounds s.pool :=
  ⟨fun h => ⟨h.chan, h.thread, h.queued, h.held⟩, fun h => ⟨h.1, h.2.thread, h.2.queued, h.2.held⟩⟩

/-- From an in-bounds state the copy to the worker is in bounds too. -/
lemma copy_fits {s : Server} (hr : RecvInv s) (hchan : ∀ i, (s.net.chans i).pkt.Within sizeofRawBuf) :
    ∀ i cpyLen b t, s.pool.main = .submit i cpyLen b t → cpyLen + 1 ≤ sizeofRawBuf := by
  intro i cpyLen b t hmain
  obtain ⟨j, hj⟩ := hr.terminated i cpyLen b t hmain
  exact hchan j _ hj

lemma poolBounds_step {s s' : Server} (hf : FullInv s) (hr : RecvInv s)
    (hchan : ∀ i, (s.net.chans i).pkt.Within sizeofRawBuf) (hpool : PoolBounds s.pool) {act : ServerAct}
    (he : ServerEffect s act s') : PoolBounds s'.pool := by
  rcases serverEffect_pool hf.pool he with hs | ⟨pact, -, hpe⟩
  · rw [hs]
    exact hpool
  · exact hpool.effect hpe (copy_fits hr hchan)

/-- The channels' buffers after a client event that is not a complete frame, or is one. -/
lemma within_clientEffect {net net' : Net} (h : NetInv net) (hr : ∀ i, (net.chans i).recvS ≤ sizeofRawBuf)
    (hw : ∀ i, (net.chans i).pkt.Within sizeofRawBuf) {fd i : ℕ} {errMask : Bool}
    {recv : Except ℤ (List UInt8)} {sub : Option ℕ} (hmap : net.eplMap fd = i + EPL_MAP_SHIFT)
    (hrecv : ∀ bytes ∈ recv.toOption, bytes.length ≤ recvLen (net.chans i))
    (heff : ClientEffect net fd i errMask recv sub net') :
    (∀ j, (net'.chans j).pkt.Within sizeofRawBuf) ↔
      ∀ bytes, recv = .ok bytes → errMask = false → bytes ≠ [] →
        Completes (receivedChan (net.chans i) bytes) →
        netU16 (receivedChan (net.chans i) bytes).pkt ≠ CHPKT_DATA_BUFSIZ := by
  have hgot : ∀ bytes, recv = .ok bytes → (receivedChan (net.chans i) bytes).pkt.Within sizeofRawBuf :=
    fun bytes hb => within_receivedChan (hr i) (hrecv bytes (by rw [hb]; rfl)) (hw i)
  cases heff with
  | again herr => exact ⟨fun _ bytes hb => (by cases hb), fun _ => hw⟩
  | hangup recv hout =>
    refine ⟨fun _ bytes hb herr hne => ?_, fun _ => (within_outClose net fd i).mpr hw⟩
    have hchan := (h.channel_of_map hmap).2.1
    rcases hout with hout | hout | ⟨err, he, -⟩ | hout
    · rw [herr] at hout
      cases hout
    · rw [hchan] at hout
      omega
    · rw [hb] at he
      cases he
    · rw [hb] at hout
      exact absurd (Except.ok.inj hout) hne
  | more bytes herr hne hwait =>
    refine ⟨fun _ bytes' hb _ _ hcomp => ?_, fun _ => (within_setChan hw i _).mpr (hgot bytes rfl)⟩
    cases hb
    unfold Waits at hwait
    unfold Completes at hcomp
    omega
  | reject bytes herr hne hrej =>
    refine ⟨fun _ bytes' hb _ _ hcomp => ?_, fun _ => ?_⟩
    · cases hb
      unfold Rejects at hrej
      unfold Completes at hcomp
      omega
    · exact (within_outClose _ fd i).mpr ((within_setChan hw i _).mpr (hgot bytes rfl))
  | complete bytes herr hne hcomp =>
    rw [within_setChan hw, within_framedChan_iff hcomp (hgot bytes rfl)]
    refine ⟨fun hn bytes' hb _ _ _ => ?_, fun hn => hn bytes rfl herr hne hcomp⟩
    cases hb
    exact hn

/-- `FrameFits` of a client event, at the head of the batch. -/
lemma frameFits_iff {s : Server} {recv : Except ℤ (List UInt8)} {alloc : Option (ℕ → UInt8)} {fd : ℕ}
    {errMask : Bool} {rest : List (ℕ × Bool)} (hbatch : s.batch = (fd, errMask) :: rest) :
    FrameFits s (.clientEvent recv alloc) ↔ ∀ bytes, recv = .ok bytes → errMask = false → bytes ≠ [] →
      Completes (receivedChan (s.net.chans (s.net.eplMap fd - EPL_MAP_SHIFT)) bytes) →
      netU16 (receivedChan (s.net.chans (s.net.eplMap fd - EPL_MAP_SHIFT)) bytes).pkt ≠ CHPKT_DATA_BUFSIZ := by
  cases recv with
  | error err => exact ⟨fun _ bytes hb => (by cases hb), fun _ => trivial⟩
  | ok bytes =>
    constructor
    · rintro h bytes' hb rfl
      cases hb
      exact h fd rest hbatch
    · intro h fd' rest' hb
      rw [hbatch, List.cons.injEq, Prod.mk.injEq] at hb
      obtain ⟨⟨rfl, rfl⟩, -⟩ := hb
      exact h bytes rfl rfl

theorem inBounds_effect {s s' : Server} (hf : FullInv s) (hr : RecvInv s) (hb : InBounds s) {act : ServerAct}
    (he : ServerEffect s act s') : InBounds s' ↔ FrameFits s act := by
  obtain ⟨hchan, hpool⟩ := (inBounds_iff s).mp hb
  have hpool' := poolBounds_step hf hr hchan hpool he
  rw [inBounds_iff, and_iff_left hpool']
  cases he with
  | wait events hmain hbatch hok => exact ⟨fun _ => trivial, fun _ => hchan⟩
  | tcp env errMask rest batch ret net stop hmain hbatch hacc heff hrest hstop =>
    refine ⟨fun _ => trivial, fun _ i => ?_⟩
    simp only [(extends_acceptEffect hr.recvS heff).2 i]
    exact hchan i
  | panic recv alloc fd errMask rest hbatch hfd hmap =>
    exact absurd hmap (hf.server.head_mapped hbatch hfd)
  | client recv alloc fd errMask rest net hmain hbatch hfd hrecv hmap heff =>
    rw [frameFits_iff hbatch]
    exact within_clientEffect hf.server.net hr.recvS hchan (NetInv.map_index hmap) hrecv heff
  | enqueue recv alloc fd errMask rest n net pool hmain hbatch hfd hrecv hmap heff hpool hidle =>
    rw [frameFits_iff hbatch, within_outClose]
    exact within_clientEffect hf.server.net hr.recvS hchan (NetInv.map_index hmap) hrecv heff
  | store recv alloc fd errMask rest n net pool hmain hbatch hfd hrecv hmap heff hpool hpop =>
    rw [frameFits_iff hbatch]
    exact within_clientEffect hf.server.net hr.recvS hchan (NetInv.map_index hmap) hrecv heff
  | submitted create fd j pool hpend hpool =>
    exact ⟨fun _ => trivial, fun _ => (within_outClose s.net fd j).mpr hchan⟩
  | other act pool hsubmit hstore hpool => exact ⟨fun _ => trivial, fun _ => hchan⟩

lemma inBounds_init (threadC tcpFd : ℕ) (chanJunk threadJunk : ℕ → ℕ → UInt8) :
    InBounds (initServer threadC tcpFd chanJunk threadJunk) := by
  constructor <;> simp [initServer, initNet, initPool, resetChan, resetThread, Fifo.empty]

lemma recvInv_init (threadC tcpFd : ℕ) (chanJunk threadJunk : ℕ → ℕ → UInt8) :
    RecvInv (initServer threadC tcpFd chanJunk threadJunk) := by
  constructor <;> simp [initServer, initNet, initPool, resetChan]

/-- Along a run every write of the receive path stays inside its object exactly when no read
completes a frame of `CHPKT_DATA_BUFSIZ` bytes. -/
theorem receive_path_in_bounds_iff (threadC tcpFd : ℕ) (chanJunk threadJunk : ℕ → ℕ → UInt8)
    (hc : threadC ≤ 0xffff) (acts : List ServerAct) (s : Server)
    (hrun : run serverStep (initServer threadC tcpFd chanJunk threadJunk) acts = some s) :
    Always serverStep InBounds (initServer threadC tcpFd chanJunk threadJunk) acts ↔
      EachStep serverStep FrameFits (initServer threadC tcpFd chanJunk threadJunk) acts := by
  refine always_iff_eachStep_of_inv (fun s => FullInv s ∧ RecvInv s) ?_ ?_ ?_
    (inBounds_init threadC tcpFd chanJunk threadJunk) hrun
  · rintro q act q' ⟨hf, hr⟩ hstep
    exact ⟨hf.step hstep, hr.effect hf (hf.server.toEffect hstep)⟩
  · rintro q act q' ⟨hf, hr⟩ hb hstep
    exact inBounds_effect hf hr hb (hf.server.toEffect hstep)
  · exact ⟨FullInv.init tcpFd chanJunk threadJunk hc, recvInv_init threadC tcpFd chanJunk threadJunk⟩

theorem receive_path_in_bounds_firstByte :
    Always serverStep InBounds (initServer 1 3 (fun _ _ => 0) (fun _ _ => 0)) (headerRun.take 4) := by
  refine (receive_path_in_bounds_iff 1 3 (fun _ _ => 0) (fun _ _ => 0) (by decide) (headerRun.take 4) _ rfl).mpr ?_
  refine ⟨trivial, fun q₁ h₁ => ⟨trivial, fun q₂ h₂ => ⟨trivial, fun q₃ h₃ => ⟨?_, fun _ _ => trivial⟩⟩⟩⟩
  obtain rfl := Option.some_inj.mp h₁
  obtain rfl := Option.some_inj.mp h₂
  obtain rfl := Option.some_inj.mp h₃
  intro fd rest hbatch _ hcomp
  cases hbatch
  have hshort : offsetofData ≤ 1 := hcomp.1
  rw [offsetofData] at hshort
  omega

/-- The longest frame the length check admits. -/
def longestFrame : List UInt8 := 0x60 :: 0x00 :: List.replicate CHPKT_DATA_BUFSIZ 65

/-- A client is about to send on descriptor 5. -/
def readyState : Server := stateAfter (headerRun.take 3)

lemma recvInv_of_reachable {threadC tcpFd : ℕ} {chanJunk threadJunk : ℕ → ℕ → UInt8} {s : Server}
    (hc : threadC ≤ 0xffff) (hreach : Reachable serverStep (initServer threadC tcpFd chanJunk threadJunk) s) :
    FullInv s ∧ RecvInv s := by
  refine reachable_preserves (fun s => FullInv s ∧ RecvInv s) ?_ ?_ hreach
  · rintro q act q' ⟨hf, hr⟩ hstep
    exact ⟨hf.step hstep, hr.effect hf (hf.server.toEffect hstep)⟩
  · exact ⟨FullInv.init tcpFd chanJunk threadJunk hc, recvInv_init threadC tcpFd chanJunk threadJunk⟩

lemma readyState_inBounds : InBounds readyState := by
  have hchan : ∀ i, (readyState.net.chans i).pkt = Buf.fresh (fun _ => 0) := by
    intro i
    cases i <;> rfl
  refine ⟨fun i => ?_, fun i => ?_, ?_, ?_⟩
  · rw [hchan]
    exact Buf.within_fresh _ _
  · exact Buf.within_fresh (fun _ => 0) _
  · intro node hn
    cases hn
  · intro i node hn
    cases hn

lemma longestFrame_length : longestFrame.length = sizeofRawBuf := by
  rw [longestFrame, List.length_cons, List.length_cons, List.length_replicate]
  rfl

/-- An empty channel that receives `longestFrame` at once has a complete frame. -/
lemma longestFrame_completes {chan : Chan} (hrecv : chan.recvS = 0) :
    Completes (receivedChan chan longestFrame) ∧
      netU16 (receivedChan chan longestFrame).pkt = CHPKT_DATA_BUFSIZ := by
  obtain ⟨hlen, hread⟩ := receivedChan_read longestFrame (hrecv.trans List.length_nil.symm) rfl
  rw [List.nil_append] at hlen hread
  have hs : sizeofRawBuf = 0x6002 := rfl
  have ho : offsetofData = 2 := rfl
  have hb : CHPKT_DATA_BUFSIZ = 0x6000 := rfl
  have hnet : netU16 (receivedChan chan longestFrame).pkt = CHPKT_DATA_BUFSIZ := by
    rw [netU16_eq _ (n := longestFrame.length) (by rw [longestFrame_length]; omega), hread]
    rfl
  refine ⟨⟨?_, ?_, ?_⟩, hnet⟩
  · rw [hlen, longestFrame_length]
    omega
  · exact Nat.le_of_eq hnet
  · rw [hnet, cdataLen, hlen, longestFrame_length]
    omega

theorem longestFrame_out_of_bounds :
    Reachable serverStep (initServer 1 3 (fun _ _ => 0) (fun _ _ => 0)) readyState ∧ InBounds readyState ∧
    ∃ s', serverStep readyState (.clientEvent (.ok longestFrame) none) = some s' ∧ ¬InBounds s' := by
  have hreach : Reachable serverStep (initServer 1 3 (fun _ _ => 0) (fun _ _ => 0)) readyState :=
    ⟨headerRun.take 3, rfl⟩
  have hrecv : RecvOk readyState.net 5 (.ok longestFrame) := by
    intro bytes hb
    obtain rfl : longestFrame = bytes := Option.some_inj.mp hb
    rw [longestFrame_length]
    decide
  have hlive : ¬(readyState.panicked = true ∨ readyState.pool.aborted = true) := by
    rintro (h | h) <;> cases h
  have hbatch : readyState.batch = [(5, false)] := rfl
  have hstep : serverStep readyState (.clientEvent (.ok longestFrame) none) =
      some (handleClientEvent readyState 5 false (.ok longestFrame) none []) := by
    unfold serverStep
    rw [if_neg hlive]
    simp only [hbatch]
    rw [if_pos ⟨⟨rfl, rfl⟩, by decide, hrecv⟩]
  refine ⟨hreach, readyState_inBounds, _, hstep, fun hb => ?_⟩
  obtain ⟨hf, hr⟩ := recvInv_of_reachable (by decide) hreach
  have hfits := (inBounds_effect hf hr readyState_inBounds (hf.server.toEffect hstep)).mp hb
  have hempty : (readyState.net.chans (readyState.net.eplMap 5 - EPL_MAP_SHIFT)).recvS = 0 := rfl
  obtain ⟨hcomp, hnet⟩ := longestFrame_completes hempty
  have hne : longestFrame ≠ [] := by
    rw [longestFrame]
    exact List.cons_ne_nil _ _
  exact hfits 5 [] hbatch hne hcomp hnet

end GNUWeebBot.Proofs
