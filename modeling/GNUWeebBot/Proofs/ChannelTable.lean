import GNUWeebBot.Proofs.ServerEffects

/-!
# The descriptor map and the channel table

`epl_map`, `chans`, `chan_stk` and the epoll set agree in every reachable state, also when
a descriptor is closed and used again within one batch of events.
-/

namespace GNUWeebBot.Proofs
open Transition

@[grind cases]
structure NetInv (net : Net) : Prop where
  threadC : net.threadC ≤ 0xffff
  stkOk : net.chanStk.Ok
  stkCapacity : net.chanStk.capacity = net.threadC
  stkNodup : net.chanStk.toList.Nodup
  stkOffline : ∀ i ∈ net.chanStk.toList, i < net.threadC ∧ (net.chans i).isOnline = false
  chanIdx : ∀ i < net.threadC, (net.chans i).chanIdx = i
  online : ∀ i, (net.chans i).isOnline = true → i < net.threadC ∧
    ∃ fd : ℕ, (net.chans i).chanFd = fd ∧ net.eplMap fd = i + EPL_MAP_SHIFT
  mapped : ∀ fd, net.eplMap fd ≠ EPL_MAP_TO_NOP → ∃ i, net.eplMap fd = i + EPL_MAP_SHIFT ∧
    (net.chans i).isOnline = true ∧ (net.chans i).chanFd = fd
  mappedSet : ∀ fd, net.eplMap fd ≠ EPL_MAP_TO_NOP → fd ∈ net.eplSet
  setMapped : ∀ fd ∈ net.eplSet, fd ≠ net.tcpFd → net.eplMap fd ≠ EPL_MAP_TO_NOP
  setOpen : ∀ fd ∈ net.eplSet, fd ∈ net.openFds
  tcpOpen : net.tcpFd ∈ net.openFds
  tcpNop : net.eplMap net.tcpFd = EPL_MAP_TO_NOP

namespace NetInv

variable {net : Net}

lemma init {threadC : ℕ} (tcpFd : ℕ) (junk : ℕ → ℕ → UInt8) (hc : threadC ≤ 0xffff) :
    NetInv (initNet threadC tcpFd junk) where
  threadC := hc
  stkOk := (ok_fillStk threadC).1
  stkCapacity := (ok_fillStk threadC).2
  stkNodup := by
    rw [show (initNet threadC tcpFd junk).chanStk = fillStk threadC from rfl, toList_fillStk]
    exact List.nodup_range
  stkOffline := by
    intro i hi
    rw [show (initNet threadC tcpFd junk).chanStk = fillStk threadC from rfl, toList_fillStk,
      List.mem_range] at hi
    exact ⟨hi, rfl⟩
  chanIdx := by
    intro i hi
    have hi' : i < threadC := hi
    simp only [initNet, resetChan]
    omega
  online := by simp [initNet, resetChan]
  mapped := by simp [initNet]
  mappedSet := by simp [initNet]
  setMapped := by simp [initNet]
  setOpen := by simp [initNet]
  tcpOpen := by simp [initNet]
  tcpNop := rfl

/-- Two channels never share a descriptor. -/
lemma index_of_fd (h : NetInv net) {fd i : ℕ} (hon : (net.chans i).isOnline = true)
    (hfd : (net.chans i).chanFd = fd) : net.eplMap fd = i + EPL_MAP_SHIFT := by
  obtain ⟨-, fd', hfd', hmap⟩ := h.online i hon
  rw [hfd] at hfd'
  rwa [Int.ofNat_inj.mp hfd']

lemma channel_of_map (h : NetInv net) {fd i : ℕ} (hmap : net.eplMap fd = i + EPL_MAP_SHIFT) :
    (net.chans i).isOnline = true ∧ (net.chans i).chanFd = fd ∧ i < net.threadC := by
  have hne : net.eplMap fd ≠ EPL_MAP_TO_NOP := by
    rw [hmap, EPL_MAP_SHIFT, EPL_MAP_TO_NOP]
    omega
  obtain ⟨j, hj, hon, hfd⟩ := h.mapped fd hne
  obtain rfl : i = j := by
    rw [hmap, EPL_MAP_SHIFT] at hj
    omega
  exact ⟨hon, hfd, (h.online i hon).1⟩

/-- A popped index is lost, or on its way into a channel. -/
lemma leak (h : NetInv net) {i : ℕ} {stk : Tstack} (hstk : net.chanStk.toList = i :: stk.toList)
    (hok : stk.Ok) (hcap : stk.capacity = net.chanStk.capacity) : NetInv { net with chanStk := stk } := by
  have hnd := h.stkNodup
  rw [hstk, List.nodup_cons] at hnd
  refine { h with
    stkOk := hok, stkCapacity := hcap.trans h.stkCapacity, stkNodup := hnd.2, stkOffline := ?_ }
  intro j hj
  exact h.stkOffline j (hstk ▸ List.mem_cons_of_mem i hj)

lemma accept (h : NetInv net) {fd i : ℕ} {stk : Tstack} {chan : Chan}
    (hstk : net.chanStk.toList = i :: stk.toList) (hok : stk.Ok)
    (hcap : stk.capacity = net.chanStk.capacity) (hi : i + EPL_MAP_SHIFT < EPL_MAP_SIZE)
    (hfd : fd ∉ net.openFds) (hon : chan.isOnline = true) (hchan : chan.chanFd = fd)
    (hidx : chan.chanIdx = i % 2 ^ 16) : NetInv (acceptedNet net stk fd i chan) := by
  have hnd := h.stkNodup
  rw [hstk, List.nodup_cons] at hnd
  have hoff := h.stkOffline i (hstk ▸ List.mem_cons_self)
  have hold : ∀ j ∈ stk.toList, j ∈ net.chanStk.toList := fun j hj => hstk ▸ List.mem_cons_of_mem i hj
  have hval : (i + EPL_MAP_SHIFT) % 2 ^ 16 = i + EPL_MAP_SHIFT := by
    have : EPL_MAP_SIZE = 0xffff := rfl
    omega
  have hmod : i % 2 ^ 16 = i := by
    have : EPL_MAP_SIZE = 0xffff := rfl
    omega
  have hshift : i + EPL_MAP_SHIFT ≠ EPL_MAP_TO_NOP := by
    rw [EPL_MAP_SHIFT, EPL_MAP_TO_NOP]
    omega
  have hfree : net.eplMap fd = EPL_MAP_TO_NOP := by
    by_contra hne
    exact hfd (h.setOpen fd (h.mappedSet fd hne))
  have htcp : fd ≠ net.tcpFd := fun he => hfd (he ▸ h.tcpOpen)
  refine { h with
    stkOk := hok, stkCapacity := hcap.trans h.stkCapacity, stkNodup := hnd.2
    stkOffline := ?stkOffline, chanIdx := ?chanIdx, online := ?online, mapped := ?mapped
    mappedSet := ?mappedSet, setMapped := ?setMapped, setOpen := ?setOpen, tcpOpen := ?tcpOpen
    tcpNop := ?tcpNop }
  all_goals simp only [acceptedNet, hval]
  case online =>
    intro j hj
    by_cases hji : j = i
    · subst hji
      exact ⟨hoff.1, fd, by simp [hchan], by simp⟩
    · rw [Function.update_of_ne hji] at hj ⊢
      obtain ⟨hlt, fd', hfd', hmap⟩ := h.online j hj
      have hne : fd' ≠ fd := by
        rintro rfl
        rw [hfree, EPL_MAP_TO_NOP, EPL_MAP_SHIFT] at hmap
        omega
      exact ⟨hlt, fd', hfd', by rw [Function.update_of_ne hne, hmap]⟩
  case mapped =>
    intro fd' hne
    by_cases hff : fd' = fd
    · subst hff
      exact ⟨i, by simp, by simp [hon], by simp [hchan]⟩
    · rw [Function.update_of_ne hff] at hne ⊢
      obtain ⟨j, hj, hjon, hjfd⟩ := h.mapped fd' hne
      have hji : j ≠ i := by
        rintro rfl
        rw [hoff.2] at hjon
        exact Bool.noConfusion hjon
      exact ⟨j, hj, by rw [Function.update_of_ne hji, hjon], by rw [Function.update_of_ne hji, hjfd]⟩
  all_goals grind [Function.update]

/-- A channel that stays the same connection. -/
lemma setChan (h : NetInv net) {i : ℕ} {chan : Chan} (hon : chan.isOnline = (net.chans i).isOnline)
    (hfd : chan.chanFd = (net.chans i).chanFd) (hidx : chan.chanIdx = (net.chans i).chanIdx) :
    NetInv (net.setChan i chan) := by
  have hf : ∀ j, (Function.update net.chans i chan j).isOnline = (net.chans j).isOnline ∧
      (Function.update net.chans i chan j).chanFd = (net.chans j).chanFd ∧
      (Function.update net.chans i chan j).chanIdx = (net.chans j).chanIdx := by
    intro j
    by_cases hj : j = i
    · subst hj
      simp [hon, hfd, hidx]
    · simp [hj]
  refine { h with
    stkOffline := ?stkOffline, chanIdx := ?chanIdx, online := ?online, mapped := ?mapped }
  all_goals simp only [Net.setChan, hf]
  case stkOffline => exact h.stkOffline
  case chanIdx => exact h.chanIdx
  case online => exact h.online
  case mapped => exact h.mapped

lemma close_room (h : NetInv net) {fd i : ℕ} (hmap : net.eplMap fd = i + EPL_MAP_SHIFT) :
    i ∉ net.chanStk.toList ∧
      (tssPush net.chanStk (net.chans i).chanIdx).2.toList = i :: net.chanStk.toList := by
  obtain ⟨hon, -, hlt⟩ := h.channel_of_map hmap
  have hmem : i ∉ net.chanStk.toList := by
    intro hm
    rw [(h.stkOffline i hm).2] at hon
    exact Bool.noConfusion hon
  have hroom : net.chanStk.sp ≠ 0 := by
    apply Tstack.room_of_length_lt
    rw [h.stkCapacity]
    exact length_lt_of_nodup_of_not_mem h.stkNodup (fun j hj => (h.stkOffline j hj).1) hlt hmem
  exact ⟨hmem, by rw [Tstack.toList_tssPush h.stkOk hroom, h.chanIdx i hlt]⟩

lemma outClose (h : NetInv net) {fd i : ℕ} (hmap : net.eplMap fd = i + EPL_MAP_SHIFT) :
    NetInv (net.outClose fd i) := by
  obtain ⟨hmem, hl⟩ := h.close_room hmap
  obtain ⟨hon, hfd, hlt⟩ := h.channel_of_map hmap
  have hidx := h.chanIdx i hlt
  have hle := h.threadC
  have hmod : i % 2 ^ 16 = i := by omega
  have htcp : fd ≠ net.tcpFd := by
    rintro rfl
    rw [h.tcpNop, EPL_MAP_TO_NOP, EPL_MAP_SHIFT] at hmap
    omega
  have hother : ∀ j, (net.chans j).isOnline = true → j ≠ i → (net.chans j).chanFd ≠ fd := by
    intro j hj hji hjfd
    have hmap' := h.index_of_fd hj hjfd
    rw [hmap, EPL_MAP_SHIFT] at hmap'
    omega
  refine { h with
    stkOk := Tstack.ok_tssPush h.stkOk _
    stkCapacity := (Tstack.capacity_tssPush _ _).trans h.stkCapacity
    stkNodup := ?stkNodup, stkOffline := ?stkOffline, chanIdx := ?chanIdx, online := ?online
    mapped := ?mapped, mappedSet := ?mappedSet, setMapped := ?setMapped, setOpen := ?setOpen
    tcpOpen := ?tcpOpen, tcpNop := ?tcpNop }
  all_goals simp only [Net.outClose, Net.close, Net.setChan, resetChan, hl, List.mem_filter, bne_iff_ne]
  case stkNodup =>
    rw [List.nodup_cons]
    exact ⟨hmem, h.stkNodup⟩
  case online =>
    intro j hj
    by_cases hji : j = i
    · subst hji
      simp at hj
    · rw [Function.update_of_ne hji] at hj ⊢
      obtain ⟨hjlt, fd', hfd', hmap'⟩ := h.online j hj
      have hne : fd' ≠ fd := fun he => hother j hj hji (by rw [hfd', he])
      exact ⟨hjlt, fd', hfd', by rw [Function.update_of_ne hne, hmap']⟩
  case mapped =>
    intro fd' hne
    by_cases hff : fd' = fd
    · subst hff
      simp at hne
    · rw [Function.update_of_ne hff] at hne ⊢
      obtain ⟨j, hj, hjon, hjfd⟩ := h.mapped fd' hne
      have hji : j ≠ i := by
        rintro rfl
        exact hff (Int.ofNat_inj.mp (hjfd.symm.trans hfd))
      exact ⟨j, hj, by rw [Function.update_of_ne hji, hjon], by rw [Function.update_of_ne hji, hjfd]⟩
  all_goals grind [Function.update]

/-- `out_close` takes exactly its own descriptor out of the epoll set. -/
lemma mem_eplSet_outClose (net : Net) (fd i k : ℕ) :
    k ∈ (net.outClose fd i).eplSet ↔ k ∈ net.eplSet ∧ k ≠ fd := by
  simp [Net.outClose, Net.close, Net.setChan]

lemma acceptEffect (h : NetInv net) {errMask : Bool} {env : AcceptEnv} {ret : ℤ} {net' : Net}
    (hacc : AcceptNew net env) (heff : AcceptEffect net errMask env ret net') : NetInv net' := by
  cases heff with
  | refuse ret hkeep => exact h
  | leak ret i stk hleak hstk hok hcap => exact h.leak hstk hok hcap
  | accept fd i stk srcIp tvSec hkeep hfd hstk hok hcap hi =>
    exact h.accept hstk hok hcap hi (hacc fd (by simp [hfd, Except.toOption])) rfl rfl rfl

lemma map_index {fd : ℕ} (hmap : net.eplMap fd ≠ EPL_MAP_TO_NOP) :
    net.eplMap fd = net.eplMap fd - EPL_MAP_SHIFT + EPL_MAP_SHIFT := by
  rw [EPL_MAP_TO_NOP] at hmap
  rw [EPL_MAP_SHIFT]
  omega

/-- After an event of a client its channel is closed, or still the same connection. -/
lemma clientEffect (h : NetInv net) {fd i : ℕ} {errMask : Bool} {recv : Except ℤ (List UInt8)}
    {sub : Option ℕ} {net' : Net} (hmap : net.eplMap fd = i + EPL_MAP_SHIFT)
    (heff : ClientEffect net fd i errMask recv sub net') :
    NetInv net' ∧ net'.tcpFd = net.tcpFd ∧ (∀ k ∈ net.eplSet, k ≠ fd → k ∈ net'.eplSet) ∧
      (∀ n, sub = some n → net'.eplMap fd = i + EPL_MAP_SHIFT) := by
  cases heff with
  | again herr => exact ⟨h, rfl, fun k hk _ => hk, fun n hn => by cases hn⟩
  | hangup recv hout =>
    refine ⟨h.outClose hmap, rfl, fun k hk hne => ?_, fun n hn => by cases hn⟩
    exact (mem_eplSet_outClose net fd i k).mpr ⟨hk, hne⟩
  | more bytes herr hne hwait =>
    exact ⟨h.setChan rfl rfl rfl, rfl, fun k hk _ => hk, fun n hn => by cases hn⟩
  | reject bytes herr hne hrej =>
    have hs : NetInv (net.setChan i (receivedChan (net.chans i) bytes)) := h.setChan rfl rfl rfl
    refine ⟨hs.outClose hmap, rfl, fun k hk hne => ?_, fun n hn => by cases hn⟩
    exact (mem_eplSet_outClose _ fd i k).mpr ⟨hk, hne⟩
  | complete bytes herr hne hcomp =>
    exact ⟨h.setChan rfl rfl rfl, rfl, fun k hk _ => hk, fun n _ => hmap⟩

end NetInv

/-- `NetInv` with what `handle_events` still has to do. -/
structure ServerInv (s : Server) : Prop where
  net : NetInv s.net
  batchNodup : (s.batch.map Prod.fst).Nodup
  batchSet : ∀ e ∈ s.batch, e.1 ∈ s.net.eplSet
  pending : ∀ fd j, s.pending = some (fd, j) →
    s.net.eplMap fd = j + EPL_MAP_SHIFT ∧ fd ∉ s.batch.map Prod.fst
  notPanicked : s.panicked = false

namespace ServerInv

variable {s s' : Server}

lemma init {threadC : ℕ} (tcpFd : ℕ) (chanJunk threadJunk : ℕ → ℕ → UInt8) (hc : threadC ≤ 0xffff) :
    ServerInv (initServer threadC tcpFd chanJunk threadJunk) where
  net := NetInv.init tcpFd chanJunk hc
  batchNodup := by simp [initServer]
  batchSet := by simp [initServer]
  pending := by simp [initServer]
  notPanicked := rfl

/-- The rest of the batch is about other descriptors than its head. -/
lemma rest_ne (h : ServerInv s) {fd : ℕ} {errMask : Bool} {rest : List (ℕ × Bool)}
    (hbatch : s.batch = (fd, errMask) :: rest) :
    (rest.map Prod.fst).Nodup ∧ fd ∉ rest.map Prod.fst ∧ ∀ e ∈ rest, e.1 ∈ s.net.eplSet ∧ e.1 ≠ fd := by
  have hnd := h.batchNodup
  rw [hbatch, List.map_cons, List.nodup_cons] at hnd
  refine ⟨hnd.2, hnd.1, fun e he => ⟨h.batchSet e ?_, ?_⟩⟩
  · rw [hbatch]
    exact List.mem_cons_of_mem _ he
  · intro hfd
    have hmem : e.1 ∈ rest.map Prod.fst := List.mem_map_of_mem he
    exact hnd.1 (hfd ▸ hmem)

/-- The head of the batch, if it is not the listening socket, belongs to a channel. -/
lemma head_mapped (h : ServerInv s) {fd : ℕ} {errMask : Bool} {rest : List (ℕ × Bool)}
    (hbatch : s.batch = (fd, errMask) :: rest) (hfd : fd ≠ s.net.tcpFd) :
    s.net.eplMap fd ≠ EPL_MAP_TO_NOP := by
  refine h.net.setMapped fd (h.batchSet (fd, errMask) ?_) hfd
  rw [hbatch]
  exact List.mem_cons_self

lemma tcp (h : ServerInv s) {env : AcceptEnv} {errMask : Bool} {rest batch : List (ℕ × Bool)} {ret : ℤ}
    {net : Net} {pool : Pool} (hbatch : s.batch = (s.net.tcpFd, errMask) :: rest) (hmain : s.mainFree)
    (hacc : AcceptNew s.net env) (heff : AcceptEffect s.net errMask env ret net)
    (hrest : batch = rest ∨ batch = []) :
    ServerInv { s with net := net, batch := batch, pool := pool } := by
  obtain ⟨hnd, -, hset⟩ := h.rest_ne hbatch
  have hkeep : ∀ k ∈ s.net.eplSet, k ∈ net.eplSet := by
    intro k hk
    cases heff with
    | refuse ret hkeep => exact hk
    | leak ret i stk hleak hstk hok hcap => exact hk
    | accept fd i stk srcIp tvSec hkeep hfd hstk hok hcap hi => exact List.mem_cons_of_mem fd hk
  refine ⟨h.net.acceptEffect hacc heff, ?_, ?_, ?_, h.notPanicked⟩
  · rcases hrest with rfl | rfl
    · exact hnd
    · exact List.nodup_nil
  · rcases hrest with rfl | rfl
    · exact fun e he => hkeep e.1 (hset e he).1
    · simp
  · intro fd j hp
    rw [hmain.1] at hp
    cases hp

theorem effect (h : ServerInv s) {act : ServerAct} (he : ServerEffect s act s') : ServerInv s' := by
  cases he with
  | wait events hmain hbatch hok =>
    refine ⟨h.net, hok.2.1, hok.2.2, ?_, h.notPanicked⟩
    intro fd j hp
    rw [hmain.1] at hp
    cases hp
  | tcp env errMask rest batch ret net stop hmain hbatch hacc heff hrest hstop =>
    exact h.tcp hbatch hmain hacc.new heff hrest
  | panic recv alloc fd errMask rest hbatch hfd hmap => exact absurd hmap (h.head_mapped hbatch hfd)
  | client recv alloc fd errMask rest net hmain hbatch hfd hrecv hmap heff =>
    obtain ⟨hnd, -, hset⟩ := h.rest_ne hbatch
    obtain ⟨hnet, -, hkeep, -⟩ := h.net.clientEffect (NetInv.map_index hmap) heff
    refine ⟨hnet, hnd, fun e he => hkeep e.1 (hset e he).1 (hset e he).2, ?_, h.notPanicked⟩
    intro fd' j hp
    rw [hmain.1] at hp
    cases hp
  | enqueue recv alloc fd errMask rest n net pool hmain hbatch hfd hrecv hmap heff hpool hidle =>
    obtain ⟨hnd, -, hset⟩ := h.rest_ne hbatch
    obtain ⟨hnet, -, hkeep, hsame⟩ := h.net.clientEffect (NetInv.map_index hmap) heff
    refine ⟨hnet.outClose (hsame n rfl), hnd, fun e he => ?_, ?_, h.notPanicked⟩
    · exact (NetInv.mem_eplSet_outClose net fd _ e.1).mpr
        ⟨hkeep e.1 (hset e he).1 (hset e he).2, (hset e he).2⟩
    · intro fd' j hp
      rw [hmain.1] at hp
      cases hp
  | store recv alloc fd errMask rest n net pool hmain hbatch hfd hrecv hmap heff hpool hpop =>
    obtain ⟨hnd, hmem, hset⟩ := h.rest_ne hbatch
    obtain ⟨hnet, -, hkeep, hsame⟩ := h.net.clientEffect (NetInv.map_index hmap) heff
    refine ⟨hnet, hnd, fun e he => hkeep e.1 (hset e he).1 (hset e he).2, ?_, h.notPanicked⟩
    intro fd' j hp
    obtain ⟨rfl, rfl⟩ := Prod.mk.inj (Option.some_inj.mp hp)
    exact ⟨hsame n rfl, hmem⟩
  | submitted create fd j pool hpend hpool =>
    obtain ⟨hmap, hmem⟩ := h.pending fd j hpend
    refine ⟨h.net.outClose hmap, h.batchNodup, fun e he => ?_, ?_, h.notPanicked⟩
    · refine (NetInv.mem_eplSet_outClose s.net fd j e.1).mpr ⟨h.batchSet e he, fun hfd => ?_⟩
      have hin : e.1 ∈ s.batch.map Prod.fst := List.mem_map_of_mem he
      exact hmem (hfd ▸ hin)
    · intro fd' j' hp
      cases hp
  | other act pool hsubmit hstore hpool =>
    exact ⟨h.net, h.batchNodup, h.batchSet, h.pending, h.notPanicked⟩

lemma toEffect (h : ServerInv s) {act : ServerAct} (hstep : serverStep s act = some s') :
    ServerEffect s act s' :=
  serverStep_effect h.net.stkOk h.net.setOpen hstep

end ServerInv

/-! ### Opening and closing, seen from the channels -/

/-- Going from `net` to `net'` closes no channel, or one whose index is not on `chan_stk` yet. -/
def ClosesFresh (net net' : Net) : Prop :=
  ∀ j, (net.chans j).isOnline = true → (net'.chans j).isOnline = false →
    j ∉ net.chanStk.toList ∧ net'.chanStk.toList = j :: net.chanStk.toList

lemma closesFresh_outClose {net : Net} (h : NetInv net) {fd i : ℕ}
    (hmap : net.eplMap fd = i + EPL_MAP_SHIFT) : ClosesFresh net (net.outClose fd i) := by
  intro j hon hoff
  by_cases hji : j = i
  · subst hji
    exact h.close_room hmap
  · simp only [Net.outClose, Net.close, Net.setChan, Function.update_of_ne hji] at hoff
    rw [hon] at hoff
    cases hoff

lemma closesFresh_of_online {net net' : Net}
    (h : ∀ j, (net.chans j).isOnline = true → (net'.chans j).isOnline = true) : ClosesFresh net net' := by
  intro j hon hoff
  rw [h j hon] at hoff
  cases hoff

lemma isOnline_setChan {net : Net} {i : ℕ} {chan : Chan}
    (h : chan.isOnline = (net.chans i).isOnline) (j : ℕ) :
    ((net.setChan i chan).chans j).isOnline = (net.chans j).isOnline := by
  by_cases hji : j = i
  · subst hji
    simp [Net.setChan, h]
  · simp [Net.setChan, hji]

/-- The same for a channel that received bytes first. -/
lemma closesFresh_setChan {net net' : Net} {i : ℕ} {chan : Chan}
    (hchan : chan.isOnline = (net.chans i).isOnline) (h : ClosesFresh (net.setChan i chan) net') :
    ClosesFresh net net' := by
  intro j hon hoff
  exact h j ((isOnline_setChan hchan j).trans hon) hoff

lemma closesFresh_clientEffect {net : Net} (h : NetInv net) {fd i : ℕ} {errMask : Bool}
    {recv : Except ℤ (List UInt8)} {sub : Option ℕ} {net' : Net}
    (hmap : net.eplMap fd = i + EPL_MAP_SHIFT) (heff : ClientEffect net fd i errMask recv sub net') :
    ClosesFresh net net' ∧ (sub ≠ none → ClosesFresh net (net'.outClose fd i)) := by
  cases heff with
  | again herr => exact ⟨closesFresh_of_online (fun _ hj => hj), fun hn => absurd rfl hn⟩
  | hangup recv hout => exact ⟨closesFresh_outClose h hmap, fun hn => absurd rfl hn⟩
  | more bytes herr hne hwait =>
    have hsame : (receivedChan (net.chans i) bytes).isOnline = (net.chans i).isOnline := rfl
    exact ⟨closesFresh_of_online (fun j hj => (isOnline_setChan hsame j).trans hj), fun hn => absurd rfl hn⟩
  | reject bytes herr hne hrej =>
    have hs : NetInv (net.setChan i (receivedChan (net.chans i) bytes)) := h.setChan rfl rfl rfl
    have hsame : (receivedChan (net.chans i) bytes).isOnline = (net.chans i).isOnline := rfl
    exact ⟨closesFresh_setChan hsame (closesFresh_outClose hs hmap), fun hn => absurd rfl hn⟩
  | complete bytes herr hne hcomp =>
    have hs : NetInv (net.setChan i (framedChan (receivedChan (net.chans i) bytes))) :=
      h.setChan rfl rfl rfl
    have hsame : (framedChan (receivedChan (net.chans i) bytes)).isOnline = (net.chans i).isOnline := rfl
    exact ⟨closesFresh_of_online (fun j hj => (isOnline_setChan hsame j).trans hj),
      fun _ => closesFresh_setChan hsame (closesFresh_outClose hs hmap)⟩

lemma acceptEffect_live {net : Net} (h : NetInv net) {errMask : Bool} {env : AcceptEnv} {ret : ℤ} {net' : Net}
    (heff : AcceptEffect net errMask env ret net') {j : ℕ} (hon : (net.chans j).isOnline = true) :
    net'.chans j = net.chans j := by
  cases heff with
  | refuse ret hkeep => rfl
  | leak ret i stk hleak hstk hok hcap => rfl
  | accept fd i stk srcIp tvSec hkeep hfd hstk hok hcap hi =>
    have hne : j ≠ i := by
      rintro rfl
      rw [(h.stkOffline j (hstk ▸ List.mem_cons_self)).2] at hon
      cases hon
    exact Function.update_of_ne hne ..

lemma serverEffect_closesFresh {s s' : Server} (h : ServerInv s) {act : ServerAct}
    (he : ServerEffect s act s') : ClosesFresh s.net s'.net := by
  cases he with
  | wait events hmain hbatch hok => exact closesFresh_of_online (fun _ hj => hj)
  | tcp env errMask rest batch ret net stop hmain hbatch hacc heff hrest hstop =>
    refine closesFresh_of_online (fun j hj => ?_)
    exact (congrArg Chan.isOnline (acceptEffect_live h.net heff hj)).trans hj
  | panic recv alloc fd errMask rest hbatch hfd hmap => exact closesFresh_of_online (fun _ hj => hj)
  | client recv alloc fd errMask rest net hmain hbatch hfd hrecv hmap heff =>
    exact (closesFresh_clientEffect h.net (NetInv.map_index hmap) heff).1
  | enqueue recv alloc fd errMask rest n net pool hmain hbatch hfd hrecv hmap heff hpool hidle =>
    exact (closesFresh_clientEffect h.net (NetInv.map_index hmap) heff).2 (by simp)
  | store recv alloc fd errMask rest n net pool hmain hbatch hfd hrecv hmap heff hpool hpop =>
    exact (closesFresh_clientEffect h.net (NetInv.map_index hmap) heff).1
  | submitted create fd j pool hpend hpool => exact closesFresh_outClose h.net (h.pending fd j hpend).1
  | other act pool hsubmit hstore hpool => exact closesFresh_of_online (fun _ hj => hj)

/-- No step changes the number of slots or the listening socket. -/
lemma serverEffect_config {s s' : Server} {act : ServerAct} (he : ServerEffect s act s') :
    s'.net.threadC = s.net.threadC ∧ s'.net.tcpFd = s.net.tcpFd := by
  cases he with
  | tcp env errMask rest batch ret net stop hmain hbatch hacc heff hrest hstop =>
    cases heff <;> exact ⟨rfl, rfl⟩
  | client recv alloc fd errMask rest net hmain hbatch hfd hrecv hmap heff =>
    cases heff <;> exact ⟨rfl, rfl⟩
  | enqueue recv alloc fd errMask rest n net pool hmain hbatch hfd hrecv hmap heff hpool hidle =>
    cases heff
    exact ⟨rfl, rfl⟩
  | store recv alloc fd errMask rest n net pool hmain hbatch hfd hrecv hmap heff hpool hpop =>
    cases heff
    exact ⟨rfl, rfl⟩
  | _ => exact ⟨rfl, rfl⟩

/-! ### All reachable states -/

section

variable {threadC tcpFd : ℕ} {chanJunk threadJunk : ℕ → ℕ → UInt8} {s : Server}

lemma serverInv_of_reachable (hc : threadC ≤ 0xffff)
    (hreach : Reachable serverStep (initServer threadC tcpFd chanJunk threadJunk) s) :
    ServerInv s ∧ s.net.threadC = threadC ∧ s.net.tcpFd = tcpFd := by
  refine reachable_preserves
    (fun s => ServerInv s ∧ s.net.threadC = threadC ∧ s.net.tcpFd = tcpFd) ?_ ?_ hreach
  · rintro q act q' ⟨hq, hqc, hqt⟩ hstep
    have he := hq.toEffect hstep
    obtain ⟨hc', ht'⟩ := serverEffect_config he
    exact ⟨hq.effect he, hc'.trans hqc, ht'.trans hqt⟩
  · exact ⟨ServerInv.init tcpFd chanJunk threadJunk hc, rfl, rfl⟩

end

/-- `epl_map` and the channel table agree in every reachable state; hence the panic of
`handle_client_event` and the test `chan_fd == -1` never fire, accepting leaves live channels
alone, and closing pushes an index that is not on `chan_stk`. -/
theorem eplMap_agrees_with_chans (threadC tcpFd : ℕ) (chanJunk threadJunk : ℕ → ℕ → UInt8)
    (hc : threadC ≤ 0xffff) (s : Server)
    (hreach : Reachable serverStep (initServer threadC tcpFd chanJunk threadJunk) s) :
    (∀ fd i, i < threadC → (s.net.eplMap fd = i + EPL_MAP_SHIFT ↔
      (s.net.chans i).isOnline = true ∧ (s.net.chans i).chanFd = fd)) ∧
    (∀ fd, s.net.eplMap fd = EPL_MAP_TO_NOP ∨ ∃ i < threadC, s.net.eplMap fd = i + EPL_MAP_SHIFT) ∧
    (∀ i < threadC, (s.net.chans i).chanIdx = i) ∧
    s.net.chanStk.toList.Nodup ∧
    (∀ i ∈ s.net.chanStk.toList, i < threadC ∧ (s.net.chans i).isOnline = false) ∧
    s.panicked = false ∧
    (∀ fd errMask rest, s.batch = (fd, errMask) :: rest → fd ≠ tcpFd →
      s.net.eplMap fd ≠ EPL_MAP_TO_NOP ∧
      (s.net.chans (s.net.eplMap fd - EPL_MAP_SHIFT)).chanFd ≠ -1) ∧
    (∀ env s', serverStep s (.tcpEvent env) = some s' →
      ∀ i, (s.net.chans i).isOnline = true → s'.net.chans i = s.net.chans i) ∧
    (∀ act s', serverStep s act = some s' → ∀ i, (s.net.chans i).isOnline = true →
      (s'.net.chans i).isOnline = false →
      i ∉ s.net.chanStk.toList ∧ s'.net.chanStk.toList = i :: s.net.chanStk.toList) := by
  obtain ⟨h, rfl, rfl⟩ := serverInv_of_reachable hc hreach
  refine ⟨?_, ?_, h.net.chanIdx, h.net.stkNodup, h.net.stkOffline, h.notPanicked, ?_, ?_, ?_⟩
  · intro fd i _
    refine ⟨fun hmap => ?_, fun hon => h.net.index_of_fd hon.1 hon.2⟩
    obtain ⟨hon, hfd, -⟩ := h.net.channel_of_map hmap
    exact ⟨hon, hfd⟩
  · intro fd
    by_cases hmap : s.net.eplMap fd = EPL_MAP_TO_NOP
    · exact Or.inl hmap
    · obtain ⟨i, hi, hon, -⟩ := h.net.mapped fd hmap
      exact Or.inr ⟨i, (h.net.online i hon).1, hi⟩
  · intro fd errMask rest hbatch hfd
    have hmap := h.head_mapped hbatch hfd
    obtain ⟨-, hchan, -⟩ := h.net.channel_of_map (NetInv.map_index hmap)
    refine ⟨hmap, ?_⟩
    rw [hchan]
    omega
  · intro env s' hstep i hon
    cases h.toEffect hstep with
    | tcp env errMask rest batch ret net stop hmain hbatch hacc heff hrest hstop =>
      exact acceptEffect_live h.net heff hon
  · intro act s' hstep i hon hoff
    exact serverEffect_closesFresh h (h.toEffect hstep) i hon hoff

/-- Every system call of `run_acceptor` succeeds and `accept` returns `fd`. -/
def acceptEnv (fd : ℕ) : AcceptEnv := ⟨.ok fd, sizeofSockaddrIn, 40000, some [], .ok 0, none⟩

/-- A client on descriptor 5 hangs up, and the listening socket's event of the same batch
gives the descriptor to a new client. -/
def reuseRun : List ServerAct :=
  [.epollWait [(3, false)], .tcpEvent (acceptEnv 5), .epollWait [(5, false), (3, false)],
    .clientEvent (.ok []) none, .tcpEvent (acceptEnv 5)]

theorem eplMap_agrees_reuseRun : ∃ s, run serverStep (initServer 2 3 (fun _ _ => 0) (fun _ _ => 0)) reuseRun =
    some s ∧ s.net.eplMap 5 = 0 + EPL_MAP_SHIFT ∧
    (s.net.chans 0).isOnline = true ∧ (s.net.chans 0).chanFd = 5 ∧ s.net.chanStk.toList.Nodup := by
  obtain ⟨s, hrun, hmap⟩ : ∃ s, run serverStep (initServer 2 3 (fun _ _ => 0) (fun _ _ => 0)) reuseRun =
      some s ∧ s.net.eplMap 5 = 0 + EPL_MAP_SHIFT := ⟨_, rfl, rfl⟩
  have h := eplMap_agrees_with_chans 2 3 (fun _ _ => 0) (fun _ _ => 0) (by decide) s ⟨reuseRun, hrun⟩
  have hon := (h.1 5 0 (by decide)).mp hmap
  exact ⟨s, hrun, hmap, hon.1, hon.2, h.2.2.2.1⟩

end GNUWeebBot.Proofs
