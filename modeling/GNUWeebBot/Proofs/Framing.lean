import GNUWeebBot.Proofs.ChannelTable
import GNUWeebBot.Proofs.Delivery

/-!
# Framing

A client sends the length of its payload as two bytes, high byte first, and then the
payload. However `recv` splits these bytes, and whatever other connections and the workers
do in between, the server submits the payload once, when its last byte has arrived.
-/

namespace GNUWeebBot.Proofs
open Transition

def frame (payload : List UInt8) : List UInt8 :=
  UInt8.ofNat (payload.length / 256) :: UInt8.ofNat (payload.length % 256) :: payload

/-- The length that the first two of the received bytes declare. -/
def declared (received : List UInt8) : ℕ :=
  256 * (received.getD 0 0).toNat + (received.getD 1 0).toNat

/-- The server waits for more. -/
def Incomplete (received : List UInt8) : Prop :=
  received.length < offsetofData ∨
    (declared received ≤ CHPKT_DATA_BUFSIZ ∧ received.length < offsetofData + declared received)

/-- The server drops the connection. -/
def Refused (received : List UInt8) : Prop :=
  offsetofData ≤ received.length ∧
    (CHPKT_DATA_BUFSIZ < declared received ∨ offsetofData + declared received < received.length)

/-! ### Bytes -/

lemma declared_append {received : List UInt8} (h : 2 ≤ received.length) (more : List UInt8) :
    declared (received ++ more) = declared received := by
  obtain ⟨a, b, l, rfl⟩ : ∃ a b l, received = a :: b :: l := by
    match received, h with
    | a :: b :: l, _ => exact ⟨a, b, l, rfl⟩
  simp [declared]

lemma netU16_eq (b : Buf) {n : ℕ} (h : 2 ≤ n) : netU16 b = declared (b.read 0 n) := by
  obtain ⟨n, rfl⟩ : ∃ m, n = m + 2 := ⟨n - 2, by omega⟩
  rw [Buf.read_succ, Buf.read_succ]
  simp [declared, netU16]

lemma declared_frame {p : List UInt8} (hp : p.length < 2 ^ 16) : declared (frame p) = p.length := by
  simp only [declared, frame, List.getD_cons_zero, List.getD_cons_succ, UInt8.toNat_ofNat']
  omega

lemma length_frame (p : List UInt8) : (frame p).length = offsetofData + p.length := by
  simp only [frame, List.length_cons, offsetofData]
  omega

/-- Bytes after which the server still waits were not enough before either. -/
lemma incomplete_of_append {received more : List UInt8} (h : Incomplete (received ++ more)) :
    Incomplete received := by
  unfold Incomplete at *
  rw [List.length_append] at h
  by_cases hlen : received.length < offsetofData
  · exact Or.inl hlen
  · rw [declared_append (by rw [offsetofData] at hlen; omega)] at h
    right
    omega

lemma incomplete_of_proper {received p : List UInt8} (hp : p.length < CHPKT_DATA_BUFSIZ)
    (hpre : received <+: frame p) (hne : received ≠ frame p) : Incomplete received := by
  obtain ⟨more, hmore⟩ := hpre
  have hlen := congrArg List.length hmore
  rw [List.length_append, length_frame] at hlen
  have hpos : more.length ≠ 0 := by
    intro h0
    rw [List.length_eq_zero_iff.mp h0, List.append_nil] at hmore
    exact hne hmore
  have hbuf : CHPKT_DATA_BUFSIZ = 0x6000 := rfl
  by_cases hshort : received.length < offsetofData
  · exact Or.inl hshort
  · right
    rw [← declared_append (by rw [offsetofData] at hshort; omega) more, hmore, declared_frame (by omega)]
    omega

/-! ### What one read does -/

section

variable {chan : Chan} {received : List UInt8}

lemma receivedChan_read (bytes : List UInt8) (hlen : chan.recvS = received.length)
    (hread : chan.pkt.read 0 received.length = received) :
    (receivedChan chan bytes).recvS = (received ++ bytes).length ∧
      (receivedChan chan bytes).pkt.read 0 (received ++ bytes).length = received ++ bytes := by
  constructor
  · simp [receivedChan, hlen]
  · rw [List.length_append, receivedChan, hlen]
    simp only
    rw [Buf.read_put_append, hread]

/-- The three outcomes of `handle_client_event3` in terms of the bytes received so far. -/
lemma receivedChan_outcome (hlen : chan.recvS = received.length)
    (hsize : received.length ≤ sizeofRawBuf) (hread : chan.pkt.read 0 received.length = received) :
    (Waits chan ↔ Incomplete received) ∧ (Rejects chan ↔ Refused received) := by
  unfold Waits Incomplete Rejects Refused
  by_cases hshort : received.length < offsetofData
  · simp only [hlen, hshort, true_or, Nat.not_le_of_gt hshort, false_and, and_self]
  · have hdecl : netU16 chan.pkt = declared received := by
      rw [netU16_eq chan.pkt (n := received.length) (by rw [offsetofData] at hshort; omega), hread]
    have hcd : cdataLen chan = received.length - offsetofData := by
      have hs : sizeofRawBuf = 0x6002 := rfl
      unfold cdataLen
      omega
    simp only [hlen, hdecl, hcd]
    constructor <;> omega

lemma completes_iff (hlen : chan.recvS = received.length) (hsize : received.length ≤ sizeofRawBuf)
    (hread : chan.pkt.read 0 received.length = received) :
    Completes chan ↔ ¬Incomplete received ∧ ¬Refused received := by
  obtain ⟨hw, hr⟩ := receivedChan_outcome hlen hsize hread
  rw [← hw, ← hr]
  unfold Completes Waits Rejects
  omega

end

/-! ### Runs that feed one channel -/

/-- A run from `s₀` in which the channel on `fd` receives exactly the chunks `cs`, between any
other steps. The number counts the calls of `submit_event` made by these receptions. -/
inductive Fed (fd : ℕ) (s₀ : Server) : List (List UInt8) → ℕ → Server → Prop
  | start : Fed fd s₀ [] 0 s₀
  | other {cs : List (List UInt8)} {k : ℕ} {s s' : Server} (act : ServerAct) (h : Fed fd s₀ cs k s)
      (hstep : serverStep s act = some s')
      (hother : ∀ recv alloc errMask rest, act = .clientEvent recv alloc → s.batch = (fd, errMask) :: rest →
        errMask = false ∧ recv = .error EAGAIN) : Fed fd s₀ cs k s'
  | chunk {cs : List (List UInt8)} {k : ℕ} {s s' : Server} {c : List UInt8} {rest : List (ℕ × Bool)}
      (alloc : Option (ℕ → UInt8)) (h : Fed fd s₀ cs k s) (hne : c ≠ [])
      (hbatch : s.batch = (fd, false) :: rest) (hstep : serverStep s (.clientEvent (.ok c) alloc) = some s') :
      Fed fd s₀ (cs ++ [c]) (k + (s'.pool.nextTicket - s.pool.nextTicket)) s'

/-- The channel `i` is open on `fd` and no submission of it is under way. -/
def OpenOn (s : Server) (fd i : ℕ) : Prop :=
  s.net.eplMap fd = i + EPL_MAP_SHIFT ∧ ∀ j, s.pending ≠ some (fd, j)

def ClosedAt (s : Server) (fd i : ℕ) : Prop :=
  (s.net.chans i).isOnline = false ∧ i ∈ s.net.chanStk.toList ∧ s.net.eplMap fd = EPL_MAP_TO_NOP ∧
    (s.net.chans i).recvS = 0

lemma closedAt_outClose {net : Net} (h : NetInv net) {fd i : ℕ} (hmap : net.eplMap fd = i + EPL_MAP_SHIFT)
    (s : Server) (hs : s.net = net.outClose fd i) : ClosedAt s fd i := by
  have hl := (h.close_room hmap).2
  unfold ClosedAt
  rw [hs]
  simp [Net.outClose, Net.close, Net.setChan, resetChan, hl]

/-- A step on another channel's behalf keeps this channel. -/
lemma outClose_keeps {net : Net} (h : NetInv net) {fd i fd' i' : ℕ}
    (hmap : net.eplMap fd = i + EPL_MAP_SHIFT) (hmap' : net.eplMap fd' = i' + EPL_MAP_SHIFT)
    (hfd : fd' ≠ fd) :
    i ≠ i' ∧ (net.outClose fd' i').eplMap fd = i + EPL_MAP_SHIFT ∧
      (net.outClose fd' i').chans i = net.chans i := by
  have hne : i ≠ i' := by
    rintro rfl
    have h₁ := (h.channel_of_map hmap).2.1
    have h₂ := (h.channel_of_map hmap').2.1
    exact hfd (Int.ofNat_inj.mp (h₂.symm.trans h₁))
  refine ⟨hne, ?_, ?_⟩
  · simp only [Net.outClose, Net.close, Net.setChan, Function.update_of_ne (Ne.symm hfd)]
    exact hmap
  · simp only [Net.outClose, Net.close, Net.setChan, Function.update_of_ne hne]

lemma clientEffect_keeps {net : Net} (h : NetInv net) {fd i fd' i' : ℕ} {errMask : Bool}
    {recv : Except ℤ (List UInt8)} {sub : Option ℕ} {net' : Net}
    (hmap : net.eplMap fd = i + EPL_MAP_SHIFT) (hmap' : net.eplMap fd' = i' + EPL_MAP_SHIFT)
    (hfd : fd' ≠ fd) (heff : ClientEffect net fd' i' errMask recv sub net') :
    net'.eplMap fd = i + EPL_MAP_SHIFT ∧ net'.chans i = net.chans i := by
  obtain ⟨hne, hkeep⟩ := outClose_keeps h hmap hmap' hfd
  have hset : ∀ chan, (net.setChan i' chan).chans i = net.chans i := fun chan => Function.update_of_ne hne ..
  cases heff with
  | again herr => exact ⟨hmap, rfl⟩
  | hangup recv hout => exact hkeep
  | more bytes herr hne' hwait => exact ⟨hmap, hset _⟩
  | reject bytes herr hne' hrej =>
    have hs : NetInv (net.setChan i' (receivedChan (net.chans i') bytes)) := h.setChan rfl rfl rfl
    obtain ⟨-, hm, hc⟩ := outClose_keeps hs hmap hmap' hfd
    exact ⟨hm, hc.trans (hset _)⟩
  | complete bytes herr hne' hcomp => exact ⟨hmap, hset _⟩

lemma acceptEffect_keeps {net : Net} (h : NetInv net) {fd i : ℕ} {errMask : Bool} {env : AcceptEnv}
    {ret : ℤ} {net' : Net} (hmap : net.eplMap fd = i + EPL_MAP_SHIFT) (hacc : AcceptOk net env)
    (heff : AcceptEffect net errMask env ret net') :
    net'.eplMap fd = i + EPL_MAP_SHIFT ∧ net'.chans i = net.chans i := by
  refine ⟨?_, acceptEffect_live h heff (h.channel_of_map hmap).1⟩
  cases heff with
  | refuse ret hkeep => exact hmap
  | leak ret j stk hleak hstk hok hcap => exact hmap
  | accept fd' j stk srcIp tvSec hkeep hfd hstk hok hcap hi =>
    have hnew := (hacc fd' (by simp [hfd, Except.toOption])).1
    have hne : fd ≠ fd' := by
      rintro rfl
      refine hnew (h.setOpen fd (h.mappedSet fd ?_))
      rw [hmap, EPL_MAP_SHIFT, EPL_MAP_TO_NOP]
      omega
    simp only [acceptedNet, Function.update_of_ne hne]
    exact hmap

/-- A read that gets bytes or has to wait does not close an open channel. -/
lemma not_hangup {net : Net} {fd i : ℕ} (hchan : (net.chans i).chanFd = fd) {recv : Except ℤ (List UInt8)}
    (hrecv : recv = .error EAGAIN ∨ ∃ c ≠ [], recv = .ok c) :
    ¬(false = true ∨ (net.chans i).chanFd = -1 ∨ (∃ err, recv = .error err ∧ err ≠ EAGAIN) ∨ recv = .ok []) := by
  rintro (hmask | hclosed | ⟨err, herr, hne⟩ | hempty)
  · cases hmask
  · rw [hchan] at hclosed
    omega
  · rcases hrecv with rfl | ⟨c, -, rfl⟩
    · cases herr
      exact hne rfl
    · cases herr
  · rcases hrecv with rfl | ⟨c, hc, rfl⟩
    · cases hempty
    · cases hempty
      exact hc rfl

/-- A step that delivers nothing to the channel leaves it as it was. -/
lemma other_keeps {s s' : Server} (h : ServerInv s) {fd i : ℕ} (hopen : OpenOn s fd i) {act : ServerAct}
    (he : ServerEffect s act s')
    (hother : ∀ recv alloc errMask rest, act = .clientEvent recv alloc → s.batch = (fd, errMask) :: rest →
      errMask = false ∧ recv = .error EAGAIN) :
    OpenOn s' fd i ∧ s'.net.chans i = s.net.chans i := by
  obtain ⟨hmap, hpend⟩ := hopen
  cases he with
  | wait events hmain hbatch hok => exact ⟨⟨hmap, hpend⟩, rfl⟩
  | tcp env errMask rest batch ret net stop hmain hbatch hacc heff hrest hstop =>
    obtain ⟨hm, hc⟩ := acceptEffect_keeps h.net hmap hacc heff
    exact ⟨⟨hm, hpend⟩, hc⟩
  | panic recv alloc fd' errMask rest hbatch hfd hmap' => exact absurd hmap' (h.head_mapped hbatch hfd)
  | client recv alloc fd' errMask rest net hmain hbatch hfd hrecv hmap' heff =>
    by_cases hff : fd' = fd
    · subst hff
      obtain ⟨rfl, rfl⟩ := hother recv alloc errMask rest rfl hbatch
      cases heff with
      | again herr => exact ⟨⟨hmap, hpend⟩, rfl⟩
      | hangup recv hout =>
        have hchan := (h.net.channel_of_map (NetInv.map_index hmap')).2.1
        exact absurd hout (not_hangup hchan (.inl rfl))
    · obtain ⟨hm, hc⟩ := clientEffect_keeps h.net hmap (NetInv.map_index hmap') hff heff
      exact ⟨⟨hm, hpend⟩, hc⟩
  | enqueue recv alloc fd' errMask rest n net pool hmain hbatch hfd hrecv hmap' heff hpool hidle =>
    have hff : fd' ≠ fd := by
      rintro rfl
      obtain ⟨-, rfl⟩ := hother recv alloc errMask rest rfl hbatch
      cases heff
    obtain ⟨hm, hc⟩ := clientEffect_keeps h.net hmap (NetInv.map_index hmap') hff heff
    obtain ⟨hnet, -, -, hsame⟩ := h.net.clientEffect (NetInv.map_index hmap') heff
    obtain ⟨-, hm', hc'⟩ := outClose_keeps hnet hm (hsame n rfl) hff
    exact ⟨⟨hm', hpend⟩, hc'.trans hc⟩
  | store recv alloc fd' errMask rest n net pool hmain hbatch hfd hrecv hmap' heff hpool hpop =>
    have hff : fd' ≠ fd := by
      rintro rfl
      obtain ⟨-, rfl⟩ := hother recv alloc errMask rest rfl hbatch
      cases heff
    obtain ⟨hm, hc⟩ := clientEffect_keeps h.net hmap (NetInv.map_index hmap') hff heff
    refine ⟨⟨hm, fun j hj => hff ?_⟩, hc⟩
    exact (Prod.mk.inj (Option.some_inj.mp hj)).1
  | submitted create fd' j pool hpend' hpool =>
    have hff : fd' ≠ fd := by
      rintro rfl
      exact hpend j hpend'
    obtain ⟨-, hm, hc⟩ := outClose_keeps h.net hmap (h.pending fd' j hpend').1 hff
    exact ⟨⟨hm, fun j' hj' => by cases hj'⟩, hc⟩
  | other act pool hsubmit hstore hpool => exact ⟨⟨hmap, hpend⟩, rfl⟩

/-- The buffer of channel `i` holds the bytes `received`, and `recv_s` counts them. -/
def Received (s : Server) (i : ℕ) (received : List UInt8) : Prop :=
  (s.net.chans i).recvS = received.length ∧ (s.net.chans i).pkt.read 0 received.length = received

/-- The payload that a complete frame hands to `submit_event`. -/
lemma framedChan_payload {chan : Chan} {received : List UInt8} (hlen : chan.recvS = received.length)
    (hread : chan.pkt.read 0 received.length = received) (hcomp : Completes chan)
    (hsize : received.length ≤ sizeofRawBuf) :
    (framedChan chan).pkt.read offsetofData (netU16 chan.pkt) = received.drop offsetofData := by
  have hs : sizeofRawBuf = 0x6002 := rfl
  have hn : received.length = offsetofData + netU16 chan.pkt := by
    obtain ⟨hge, -, hcd⟩ := hcomp
    unfold cdataLen at hcd
    omega
  have hstore : (storeU16 (netU16 chan.pkt)).length = offsetofData := rfl
  have hframed : (framedChan chan).pkt.read offsetofData (netU16 chan.pkt) =
      chan.pkt.read offsetofData (netU16 chan.pkt) := by
    simp only [framedChan]
    rw [Buf.read_put_of_le _ _ (Nat.le_refl _), Buf.read_put_of_ge _ _ (by omega)]
  rw [hn, Buf.read_add, Nat.zero_add] at hread
  rw [hframed, ← hread, List.drop_left']
  exact Buf.read_length ..

lemma recvLen_eq {chan : Chan} {received : List UInt8} (hlen : chan.recvS = received.length)
    (hinc : Incomplete received) : recvLen chan = sizeofRawBuf - received.length := by
  have hs : sizeofRawBuf = 0x6002 := rfl
  have hb : CHPKT_DATA_BUFSIZ = 0x6000 := rfl
  have ho : offsetofData = 2 := rfl
  unfold recvLen
  rw [hlen]
  apply sizeSub_of_le
  · unfold Incomplete at hinc
    omega
  · omega

/-- `recv` stores no more than there is room for. -/
lemma length_append_le {chan : Chan} {received bytes : List UInt8} (hlen : chan.recvS = received.length)
    (hinc : Incomplete received) (hle : bytes.length ≤ recvLen chan) : (received ++ bytes).length ≤ sizeofRawBuf := by
  rw [recvLen_eq hlen hinc] at hle
  have hs : sizeofRawBuf = 0x6002 := rfl
  have hb : CHPKT_DATA_BUFSIZ = 0x6000 := rfl
  have ho : offsetofData = 2 := rfl
  unfold Incomplete at hinc
  rw [List.length_append]
  omega

/-- A complete frame is submitted with the payload that was received. -/
lemma submitted_of_completes {chan : Chan} {received : List UInt8} {pool pool' : Pool} {alloc : Option (ℕ → UInt8)}
    (hlen : chan.recvS = received.length) (hread : chan.pkt.read 0 received.length = received)
    (hsize : received.length ≤ sizeofRawBuf) (hcomp : Completes chan)
    (he : PoolEffect pool (.submitEvent (netU16 chan.pkt) (framedChan chan).pkt alloc) pool') :
    ¬Incomplete received ∧ ¬Refused received ∧
      ∃ n b, n ≤ CHPKT_DATA_BUFSIZ ∧ PoolEffect pool (.submitEvent n b alloc) pool' ∧
        b.read offsetofData n = received.drop offsetofData := by
  obtain ⟨hcomplete, hkept⟩ := (completes_iff hlen hsize hread).mp hcomp
  exact ⟨hcomplete, hkept, _, _, hcomp.2.1, he, framedChan_payload hlen hread hcomp hsize⟩

/-- One reception on an open channel: it waits, drops the connection, or submits once. -/
lemma chunk_step {s s' : Server} (h : ServerInv s) (hp : PoolInv s.pool) {fd i : ℕ}
    (hopen : OpenOn s fd i) {received c : List UInt8} (hrec : Received s i received)
    (hinc : Incomplete received) (hne : c ≠ []) {rest : List (ℕ × Bool)}
    (hbatch : s.batch = (fd, false) :: rest) {alloc : Option (ℕ → UInt8)}
    (he : ServerEffect s (.clientEvent (.ok c) alloc) s') :
    (Incomplete (received ++ c) ∧ OpenOn s' fd i ∧ Received s' i (received ++ c) ∧ s'.pool = s.pool) ∨
    (Refused (received ++ c) ∧ ClosedAt s' fd i ∧ s'.pool = s.pool) ∨
    (¬Incomplete (received ++ c) ∧ ¬Refused (received ++ c) ∧
      (∃ n b, n ≤ CHPKT_DATA_BUFSIZ ∧ PoolEffect s.pool (.submitEvent n b alloc) s'.pool ∧
        b.read offsetofData n = (received ++ c).drop offsetofData) ∧
      (ClosedAt s' fd i ∨ s'.pending = some (fd, i))) := by
  obtain ⟨hmap, hpend⟩ := hopen
  have hidx : s.net.eplMap fd - EPL_MAP_SHIFT = i := by
    rw [hmap]
    exact Nat.add_sub_cancel ..
  have hchan := (h.net.channel_of_map hmap).2.1
  obtain ⟨hlen, hread⟩ := receivedChan_read c hrec.1 hrec.2
  have hfit : RecvOk s.net fd (.ok c) → (received ++ c).length ≤ sizeofRawBuf :=
    fun hrecv => length_append_le hrec.1 hinc (hidx ▸ hrecv c rfl)
  have hhead : ∀ {fd' : ℕ} {m : Bool} {r : List (ℕ × Bool)}, s.batch = (fd', m) :: r → fd' = fd ∧ m = false := by
    intro fd' m r hb
    rw [hbatch, List.cons.injEq, Prod.mk.injEq] at hb
    exact ⟨hb.1.1.symm, hb.1.2.symm⟩
  cases he with
  | panic recv alloc fd' errMask rest' hbatch' hfd hmap' => exact absurd hmap' (h.head_mapped hbatch' hfd)
  | client recv alloc fd' errMask rest' net hmain hbatch' hfd hrecv hmap' heff =>
    obtain ⟨rfl, rfl⟩ := hhead hbatch'
    obtain ⟨hw, hr⟩ := receivedChan_outcome hlen (hfit hrecv) hread
    rw [hidx] at heff
    cases heff with
    | hangup recv hout => exact absurd hout (not_hangup hchan (.inr ⟨c, hne, rfl⟩))
    | more bytes herr hne' hwait =>
      refine Or.inl ⟨hw.mp hwait, ⟨hmap, hpend⟩, ?_, rfl⟩
      unfold Received
      simp only [Net.setChan, Function.update_self]
      exact ⟨hlen, hread⟩
    | reject bytes herr hne' hrej =>
      have hs : NetInv (s.net.setChan i (receivedChan (s.net.chans i) c)) := h.net.setChan rfl rfl rfl
      exact Or.inr (Or.inl ⟨hr.mp hrej, closedAt_outClose hs hmap _ rfl, rfl⟩)
  | enqueue recv alloc fd' errMask rest' n net pool hmain hbatch' hfd hrecv hmap' heff hpool hidle =>
    obtain ⟨rfl, rfl⟩ := hhead hbatch'
    rw [hidx] at heff hpool
    have hpe := poolStep_effect hp.stkOk hpool
    obtain ⟨hnet, -, -, hsame⟩ := h.net.clientEffect hmap heff
    have hclosed := closedAt_outClose hnet (hsame n rfl)
      { s with net := net.outClose fd' (s.net.eplMap fd' - EPL_MAP_SHIFT), pool := pool, batch := rest' }
      (by rw [hidx])
    cases heff with
    | complete bytes herr hne' hcomp =>
      simp only [Net.setChan, Function.update_self] at hpe
      obtain ⟨hcomplete, hkept, hsubmit⟩ := submitted_of_completes hlen hread (hfit hrecv) hcomp hpe
      exact Or.inr (Or.inr ⟨hcomplete, hkept, hsubmit, Or.inl hclosed⟩)
  | store recv alloc fd' errMask rest' n net pool hmain hbatch' hfd hrecv hmap' heff hpool hpop =>
    obtain ⟨rfl, rfl⟩ := hhead hbatch'
    rw [hidx] at heff hpool
    have hpe := poolStep_effect hp.stkOk hpool
    cases heff with
    | complete bytes herr hne' hcomp =>
      simp only [Net.setChan, Function.update_self] at hpe
      obtain ⟨hcomplete, hkept, hsubmit⟩ := submitted_of_completes hlen hread (hfit hrecv) hcomp hpe
      refine Or.inr (Or.inr ⟨hcomplete, hkept, hsubmit, Or.inr ?_⟩)
      simp only [hidx]

/-! ### The pool inside the server -/

/-- The packet starts with its own length, in the order of the host. -/
def FramedAct : PoolAct → Prop
  | .submitEvent n b _ => n ≤ CHPKT_DATA_BUFSIZ ∧ hostU16 b 0 = n
  | _ => True

lemma FramedAct.small {act : PoolAct} (h : FramedAct act) : SmallAct act := by
  cases act with
  | submitEvent n b alloc => exact h.1
  | _ => trivial

lemma hostU16_framedChan (chan : Chan) : hostU16 (framedChan chan).pkt 0 = netU16 chan.pkt := by
  have hlt : netU16 chan.pkt < 2 ^ 16 := by
    have h₀ := (chan.pkt.mem 0).toNat_lt
    have h₁ := (chan.pkt.mem 1).toNat_lt
    unfold netU16
    omega
  have hbyte : ∀ k < 2, (framedChan chan).pkt.mem k = (storeU16 (netU16 chan.pkt)).getD k 0 := by
    intro k hk
    have hput := Buf.put_mem_add chan.pkt 0 (storeU16 (netU16 chan.pkt)) (k := k) hk
    rw [Nat.zero_add] at hput
    rw [framedChan, Buf.put_mem_of_lt _ _ (by unfold offsetofData; omega), hput]
  unfold hostU16
  rw [Nat.zero_add, hbyte 0 (by decide), hbyte 1 (by decide)]
  simp only [storeU16, List.getD_cons_zero, List.getD_cons_succ, UInt8.toNat_ofNat']
  omega

lemma clientEffect_framed {net net' : Net} {chanFd i n : ℕ} {errMask : Bool} {recv : Except ℤ (List UInt8)}
    (alloc : Option (ℕ → UInt8)) (heff : ClientEffect net chanFd i errMask recv (some n) net') :
    FramedAct (.submitEvent n (net'.chans i).pkt alloc) := by
  cases heff with
  | complete bytes herr hne hcomp =>
    simp only [FramedAct, Net.setChan, Function.update_self]
    exact ⟨hcomp.2.1, hostU16_framedChan _⟩

/-- A step of the server is at most one step of the pool. -/
lemma serverEffect_pool {s s' : Server} (hp : PoolInv s.pool) {act : ServerAct} (he : ServerEffect s act s') :
    s'.pool = s.pool ∨ ∃ pact, FramedAct pact ∧ PoolEffect s.pool pact s'.pool := by
  cases he with
  | wait events hmain hbatch hok => exact Or.inl rfl
  | tcp env errMask rest batch ret net stop hmain hbatch hacc heff hrest hstop =>
    rcases hstop with rfl | rfl
    · exact Or.inl rfl
    · exact Or.inr ⟨.interrupt, trivial, .interrupt⟩
  | panic recv alloc fd errMask rest hbatch hfd hmap => exact Or.inl rfl
  | client recv alloc fd errMask rest net hmain hbatch hfd hrecv hmap heff => exact Or.inl rfl
  | enqueue recv alloc fd errMask rest n net pool hmain hbatch hfd hrecv hmap heff hpool hidle =>
    exact Or.inr ⟨_, clientEffect_framed alloc heff, poolStep_effect hp.stkOk hpool⟩
  | store recv alloc fd errMask rest n net pool hmain hbatch hfd hrecv hmap heff hpool hpop =>
    exact Or.inr ⟨_, clientEffect_framed alloc heff, poolStep_effect hp.stkOk hpool⟩
  | submitted create fd j pool hpend hpool =>
    exact Or.inr ⟨.submitToThread create, trivial, poolStep_effect hp.stkOk hpool⟩
  | other act pool hsubmit hstore hpool =>
    refine Or.inr ⟨act, ?_, poolStep_effect hp.stkOk hpool⟩
    cases act with
    | submitEvent n b alloc => exact absurd rfl (hsubmit n b alloc)
    | _ => trivial

lemma poolEffect_payload {p p' : Pool} {act : PoolAct} (he : PoolEffect p act p') :
    p.nextTicket ≤ p'.nextTicket ∧ ∀ t < p.nextTicket, p'.payload t = p.payload t := by
  have hnew : ∀ n b, p.nextTicket ≤ (withTicket p n b).nextTicket ∧
      ∀ t < p.nextTicket, (withTicket p n b).payload t = p.payload t :=
    fun n b => ⟨Nat.le_succ _, fun t ht => DeliveryInv.payload_withTicket ht⟩
  cases he with
  | enqueueFail n b alloc hmain hstk => exact hnew n b
  | enqueue n b junk hmain hstk => exact hnew n b
  | popSubmit n b alloc i stk hmain hstk hok hcap => exact hnew n b
  | _ => exact ⟨Nat.le_refl _, fun _ _ => rfl⟩

lemma submitEvent_ticket {p p' : Pool} {n : ℕ} {b : Buf} {alloc : Option (ℕ → UInt8)}
    (he : PoolEffect p (.submitEvent n b alloc) p') :
    p'.nextTicket = p.nextTicket + 1 ∧ p'.payload p.nextTicket = b.read offsetofData n := by
  cases he with
  | enqueueFail n b alloc hmain hstk => exact ⟨rfl, DeliveryInv.payload_next n b⟩
  | enqueue n b junk hmain hstk => exact ⟨rfl, DeliveryInv.payload_next n b⟩
  | popSubmit n b alloc i stk hmain hstk hok hcap => exact ⟨rfl, DeliveryInv.payload_next n b⟩

lemma nextTicket_of_other {p p' : Pool} {act : PoolAct} (he : PoolEffect p act p')
    (hsubmit : ∀ n b alloc, act ≠ .submitEvent n b alloc) : p'.nextTicket = p.nextTicket := by
  cases he with
  | enqueueFail n b alloc hmain hstk => exact absurd rfl (hsubmit n b alloc)
  | enqueue n b junk hmain hstk => exact absurd rfl (hsubmit n b (some junk))
  | popSubmit n b alloc i stk hmain hstk hok hcap => exact absurd rfl (hsubmit n b alloc)
  | _ => rfl

structure FullInv (s : Server) : Prop where
  server : ServerInv s
  pool : PoolInv s.pool
  tickets : TicketInv s.pool
  delivery : DeliveryInv s.pool

namespace FullInv

variable {s s' : Server}

lemma init {threadC : ℕ} (tcpFd : ℕ) (chanJunk threadJunk : ℕ → ℕ → UInt8) (hc : threadC ≤ 0xffff) :
    FullInv (initServer threadC tcpFd chanJunk threadJunk) where
  server := ServerInv.init tcpFd chanJunk threadJunk hc
  pool := PoolInv.init threadC threadJunk
  tickets := TicketInv.init threadC threadJunk
  delivery := DeliveryInv.init threadC threadJunk

theorem step (h : FullInv s) {act : ServerAct} (hstep : serverStep s act = some s') : FullInv s' := by
  have he := h.server.toEffect hstep
  refine ⟨h.server.effect he, ?_, ?_, ?_⟩
  · rcases serverEffect_pool h.pool he with hs | ⟨pact, -, hpe⟩
    · rw [hs]
      exact h.pool
    · exact h.pool.effect hpe
  · rcases serverEffect_pool h.pool he with hs | ⟨pact, -, hpe⟩
    · rw [hs]
      exact h.tickets
    · exact h.tickets.effect h.pool hpe
  · rcases serverEffect_pool h.pool he with hs | ⟨pact, hframed, hpe⟩
    · rw [hs]
      exact h.delivery
    · exact h.delivery.effect h.pool h.tickets hframed.small hpe

/-- Payloads once submitted never change, and what is handled is what was submitted. -/
lemma handled_later (h : FullInv s) (hreach : Reachable serverStep s s') {t : ℕ} (ht : t < s.pool.nextTicket)
    {str : List UInt8} (hstr : (t, str) ∈ s'.pool.handled) : str = untilNul (s.pool.payload t) := by
  have hinv : FullInv s' ∧ s.pool.nextTicket ≤ s'.pool.nextTicket ∧
      s'.pool.payload t = s.pool.payload t := by
    refine reachable_preserves (fun q => FullInv q ∧ s.pool.nextTicket ≤ q.pool.nextTicket ∧
      q.pool.payload t = s.pool.payload t) ?_ ⟨h, Nat.le_refl _, rfl⟩ hreach
    rintro q act q' ⟨hq, hle, hpay⟩ hstep
    refine ⟨hq.step hstep, ?_⟩
    rcases serverEffect_pool hq.pool (hq.server.toEffect hstep) with hs | ⟨pact, -, hpe⟩
    · rw [hs]
      exact ⟨hle, hpay⟩
    · obtain ⟨hmono, hold⟩ := poolEffect_payload hpe
      exact ⟨Nat.le_trans hle hmono, (hold t (by omega)).trans hpay⟩
  have hstr' := hinv.1.delivery.handled (t, str) hstr
  rw [hinv.2.2] at hstr'
  exact hstr'

/-- While a submission is under way nothing else is submitted; its end closes the channel. -/
lemma pending_step (h : FullInv s) {fd i : ℕ} (hpend : s.pending = some (fd, i)) {act : ServerAct}
    (hstep : serverStep s act = some s') : s'.pool.nextTicket = s.pool.nextTicket ∧
      (s'.pending = some (fd, i) ∨ (s'.pending = none ∧ ClosedAt s' fd i)) := by
  have hbusy : ¬s.mainFree := by
    rintro ⟨hnone, -⟩
    rw [hpend] at hnone
    cases hnone
  cases h.server.toEffect hstep with
  | wait events hmain hbatch hok => exact absurd hmain hbusy
  | tcp env errMask rest batch ret net stop hmain hbatch hacc heff hrest hstop => exact absurd hmain hbusy
  | panic recv alloc fd' errMask rest hbatch hfd hmap => exact absurd hmap (h.server.head_mapped hbatch hfd)
  | client recv alloc fd' errMask rest net hmain hbatch hfd hrecv hmap heff => exact absurd hmain hbusy
  | enqueue recv alloc fd' errMask rest n net pool hmain hbatch hfd hrecv hmap heff hpool hidle =>
    exact absurd hmain hbusy
  | store recv alloc fd' errMask rest n net pool hmain hbatch hfd hrecv hmap heff hpool hpop =>
    exact absurd hmain hbusy
  | submitted create fd' j pool hpend' hpool =>
    rw [hpend, Option.some_inj, Prod.mk.injEq] at hpend'
    obtain ⟨rfl, rfl⟩ := hpend'
    refine ⟨nextTicket_of_other (poolStep_effect h.pool.stkOk hpool) (by simp), Or.inr ⟨rfl, ?_⟩⟩
    exact closedAt_outClose h.server.net (h.server.pending fd i hpend).1 _ rfl
  | other act pool hsubmit hstore hpool =>
    exact ⟨nextTicket_of_other (poolStep_effect h.pool.stkOk hpool) hsubmit, Or.inl hpend⟩

end FullInv

lemma not_refused_of_incomplete {received : List UInt8} (h : Incomplete received) : ¬Refused received := by
  unfold Incomplete at h
  unfold Refused
  omega

/-- As long as the bytes are no complete frame, they are all that happened to the channel. -/
lemma fed_incomplete {fd i k : ℕ} {s₀ s : Server} {cs : List (List UInt8)} (h₀ : FullInv s₀)
    (hopen : OpenOn s₀ fd i) (hrecv : (s₀.net.chans i).recvS = 0) (hfed : Fed fd s₀ cs k s) :
    FullInv s ∧ (Incomplete cs.flatten → k = 0 ∧ OpenOn s fd i ∧ Received s i cs.flatten) := by
  induction hfed with
  | start => exact ⟨h₀, fun _ => ⟨rfl, hopen, hrecv, rfl⟩⟩
  | @other cs k s s' act _ hstep hother ih =>
    refine ⟨ih.1.step hstep, fun hinc => ?_⟩
    obtain ⟨hk, hop, hrec⟩ := ih.2 hinc
    obtain ⟨hop', hchan⟩ := other_keeps ih.1.server hop (ih.1.server.toEffect hstep) hother
    refine ⟨hk, hop', ?_⟩
    unfold Received at *
    rw [hchan]
    exact hrec
  | @chunk cs k s s' c rest alloc _ hne hbatch hstep ih =>
    refine ⟨ih.1.step hstep, fun hinc => ?_⟩
    rw [List.flatten_append, List.flatten_singleton] at hinc ⊢
    have hinc' := incomplete_of_append hinc
    obtain ⟨hk, hop, hrec⟩ := ih.2 hinc'
    rcases chunk_step ih.1.server ih.1.pool hop hrec hinc' hne hbatch (ih.1.server.toEffect hstep) with
      ⟨-, hop', hrec', hpool⟩ | ⟨href, -⟩ | ⟨hcomp, -⟩
    · rw [hpool, Nat.sub_self]
      exact ⟨hk, hop', hrec'⟩
    · exact absurd href (not_refused_of_incomplete hinc)
    · exact absurd hinc hcomp

lemma fullInv_of_reachable {threadC tcpFd : ℕ} {chanJunk threadJunk : ℕ → ℕ → UInt8} {s : Server}
    (hc : threadC ≤ 0xffff) (hreach : Reachable serverStep (initServer threadC tcpFd chanJunk threadJunk) s) :
    FullInv s :=
  reachable_preserves FullInv (fun _ _ _ h hstep => h.step hstep)
    (FullInv.init tcpFd chanJunk threadJunk hc) hreach

lemma frame_complete {p : List UInt8} (hp : p.length < CHPKT_DATA_BUFSIZ) :
    ¬Incomplete (frame p) ∧ ¬Refused (frame p) := by
  have hbuf : CHPKT_DATA_BUFSIZ = 0x6000 := rfl
  unfold Incomplete Refused
  rw [declared_frame (by omega), length_frame]
  omega

/-- Framing is exact. A channel was just accepted in `s₀` and has received the chunks `cs` in `s`:
while they are a proper part of a frame it is open and holds exactly these bytes; the read that
brings the last byte submits the payload once, the string read for it later is the payload up
to its first NUL, and the channel is closed when the submission returns; a read that declares
too much or overruns the frame closes the channel and submits nothing. -/
theorem framing_exact (threadC tcpFd : ℕ) (chanJunk threadJunk : ℕ → ℕ → UInt8) (hc : threadC ≤ 0xffff)
    (s₀ : Server) (hreach : Reachable serverStep (initServer threadC tcpFd chanJunk threadJunk) s₀)
    (fd i : ℕ) (hopen : OpenOn s₀ fd i) (hrecv : (s₀.net.chans i).recvS = 0)
    (cs : List (List UInt8)) (k : ℕ) (s : Server) (hfed : Fed fd s₀ cs k s) :
    (∀ p : List UInt8, p.length < CHPKT_DATA_BUFSIZ → cs.flatten <+: frame p → cs.flatten ≠ frame p →
      k = 0 ∧ (s.net.chans i).isOnline = true ∧ (s.net.chans i).chanFd = fd ∧
      (s.net.chans i).recvS = cs.flatten.length ∧
      (s.net.chans i).pkt.read 0 (s.net.chans i).recvS = cs.flatten) ∧
    (∀ (p c : List UInt8) (rest : List (ℕ × Bool)) (alloc : Option (ℕ → UInt8)) (s' : Server),
      p.length < CHPKT_DATA_BUFSIZ → c ≠ [] → cs.flatten ++ c = frame p → s.batch = (fd, false) :: rest →
      serverStep s (.clientEvent (.ok c) alloc) = some s' →
      k = 0 ∧ s'.pool.nextTicket = s.pool.nextTicket + 1 ∧ s'.pool.payload s.pool.nextTicket = p ∧
      (∀ s'' str, Reachable serverStep s' s'' → (s.pool.nextTicket, str) ∈ s''.pool.handled →
        str = untilNul p) ∧
      (ClosedAt s' fd i ∨ s'.pending = some (fd, i))) ∧
    (s.pending = some (fd, i) → ∀ act s', serverStep s act = some s' →
      s'.pool.nextTicket = s.pool.nextTicket ∧
      (s'.pending = some (fd, i) ∨ (s'.pending = none ∧ ClosedAt s' fd i))) ∧
    (∀ (c : List UInt8) (rest : List (ℕ × Bool)) (alloc : Option (ℕ → UInt8)) (s' : Server), c ≠ [] →
      Incomplete cs.flatten → Refused (cs.flatten ++ c) → s.batch = (fd, false) :: rest →
      serverStep s (.clientEvent (.ok c) alloc) = some s' →
      k = 0 ∧ ClosedAt s' fd i ∧ s'.pool = s.pool) := by
  obtain ⟨h, hinc⟩ := fed_incomplete (fullInv_of_reachable hc hreach) hopen hrecv hfed
  refine ⟨?_, ?_, fun hpend act s' hstep => h.pending_step hpend hstep, ?_⟩
  · intro p hp hpre hne
    obtain ⟨hk, hop, hlen, hread⟩ := hinc (incomplete_of_proper hp hpre hne)
    obtain ⟨hon, hfd, -⟩ := h.server.net.channel_of_map hop.1
    exact ⟨hk, hon, hfd, hlen, by rw [hlen, hread]⟩
  · intro p c rest alloc s' hp hne hframe hbatch hstep
    have hpart : Incomplete cs.flatten := by
      refine incomplete_of_proper hp ⟨c, hframe⟩ (fun he => hne ?_)
      rw [he] at hframe
      simpa using hframe
    obtain ⟨hk, hop, hrec⟩ := hinc hpart
    have hfull := frame_complete hp
    rw [← hframe] at hfull
    rcases chunk_step h.server h.pool hop hrec hpart hne hbatch (h.server.toEffect hstep) with
      ⟨hi, -⟩ | ⟨hr, -⟩ | ⟨-, -, ⟨n, b, -, hpe, hpay⟩, hend⟩
    · exact absurd hi hfull.1
    · exact absurd hr hfull.2
    · obtain ⟨hticket, hpayload⟩ := submitEvent_ticket hpe
      rw [hpay, hframe] at hpayload
      have hp' : s'.pool.payload s.pool.nextTicket = p := hpayload
      refine ⟨hk, hticket, hp', fun s'' str hlater hstr => ?_, hend⟩
      rw [← hp']
      exact (h.step hstep).handled_later hlater (by omega) hstr
  · intro c rest alloc s' hne hpart href hbatch hstep
    obtain ⟨hk, hop, hrec⟩ := hinc hpart
    rcases chunk_step h.server h.pool hop hrec hpart hne hbatch (h.server.toEffect hstep) with
      ⟨hi, -⟩ | ⟨-, hcl, hpool⟩ | ⟨-, hr, -⟩
    · exact absurd href (not_refused_of_incomplete hi)
    · exact ⟨hk, hcl, hpool⟩
    · exact absurd href hr

/-- A client has connected on descriptor 5. -/
def acceptRun : List ServerAct := [.epollWait [(3, false)], .tcpEvent (acceptEnv 5)]

def stateAfter (acts : List ServerAct) : Server :=
  (run serverStep (initServer 1 3 (fun _ _ => 0) (fun _ _ => 0)) acts).getD
    (initServer 1 3 (fun _ _ => 0) (fun _ _ => 0))

/-- The frame of `A` in three reads. -/
def headerRun : List ServerAct :=
  acceptRun ++ [.epollWait [(5, false)], .clientEvent (.ok [0]) none, .epollWait [(5, false)],
    .clientEvent (.ok [1]) none, .epollWait [(5, false)]]

theorem framing_exact_headerRun : (stateAfter headerRun).pool.nextTicket = 0 ∧
    ∃ s', serverStep (stateAfter headerRun) (.clientEvent (.ok [65]) none) = some s' ∧
      s'.pool.nextTicket = 1 ∧ s'.pool.payload 0 = [65] ∧ (ClosedAt s' 5 0 ∨ s'.pending = some (5, 0)) := by
  have hfed : Fed 5 (stateAfter acceptRun) [[0], [1]] 0 (stateAfter headerRun) := by
    have h₁ : Fed 5 (stateAfter acceptRun) [] 0 (stateAfter (headerRun.take 3)) :=
      .other (.epollWait [(5, false)]) .start rfl (by intro _ _ _ _ h; cases h)
    have e₂ : serverStep (stateAfter (headerRun.take 3)) (.clientEvent (.ok [0]) none) =
        some (stateAfter (headerRun.take 4)) := rfl
    have h₂ : Fed 5 (stateAfter acceptRun) [[0]] 0 (stateAfter (headerRun.take 4)) :=
      Fed.chunk none h₁ (by decide) rfl e₂
    have h₃ : Fed 5 (stateAfter acceptRun) [[0]] 0 (stateAfter (headerRun.take 5)) :=
      .other (.epollWait [(5, false)]) h₂ rfl (by intro _ _ _ _ h; cases h)
    have e₄ : serverStep (stateAfter (headerRun.take 5)) (.clientEvent (.ok [1]) none) =
        some (stateAfter (headerRun.take 6)) := rfl
    have h₄ : Fed 5 (stateAfter acceptRun) [[0], [1]] 0 (stateAfter (headerRun.take 6)) :=
      Fed.chunk none h₃ (by decide) rfl e₄
    exact .other (.epollWait [(5, false)]) h₄ rfl (by intro _ _ _ _ h; cases h)
  have h := framing_exact 1 3 (fun _ _ => 0) (fun _ _ => 0) (by decide) (stateAfter acceptRun) ⟨acceptRun, rfl⟩
    5 0 ⟨rfl, by intro j hj; cases hj⟩ rfl [[0], [1]] 0 (stateAfter headerRun) hfed
  obtain ⟨s', hstep⟩ : ∃ s', serverStep (stateAfter headerRun) (.clientEvent (.ok [65]) none) = some s' :=
    ⟨_, rfl⟩
  obtain ⟨-, hticket, hpay, -, hend⟩ := h.2.1 [65] [65] [] none s' (by decide) (by decide) rfl rfl hstep
  exact ⟨rfl, s', hstep, hticket, hpay, hend⟩

end GNUWeebBot.Proofs
