import GNUWeebBot.Proofs.Framing

/-!
# Segmentation

A client sends a stream of bytes, and `recv` hands it over in pieces. The server decides at the end of
each piece, so it delivers the first frame exactly where a piece ends with that frame.
-/

namespace GNUWeebBot.Proofs

/-! ### One connection -/

/-- What `submit_event` can return. -/
def SubmitRet (ret : ℤ) : Prop :=
  (∃ p n b alloc p', submitEvent p n b alloc = (some ret, p')) ∨
    ∃ p i n b ticket create, (submitToThread p i n b ticket create).1 = ret

/-- One event of a connection: the payloads that were submitted. -/
def serveRead (net : Net) (chanFd i : ℕ) (bytes : List UInt8) (ret : ℤ) : List (List UInt8) × Net :=
  match handleClientEvent2 net chanFd i false (.ok bytes) with
  | (none, net) => ([], net)
  | (some fdataLen, net) =>
    ([(net.chans i).pkt.read offsetofData fdataLen], afterSubmit net chanFd i ret)

/-- All events of a connection, as long as `epoll_wait` reports it. The second part of a read is what
`submit_event` returns if that read leads to it. -/
def delivered (net : Net) (chanFd i : ℕ) : List (List UInt8 × ℤ) → List (List UInt8)
  | [] => []
  | (bytes, ret) :: reads =>
    if chanFd ∈ net.eplSet then
      (serveRead net chanFd i bytes ret).1 ++ delivered (serveRead net chanFd i bytes ret).2 chanFd i reads
    else []

/-- Each read brings something and fits into what is left of the buffer. -/
def ReadsAllowed (net : Net) (chanFd i : ℕ) : List (List UInt8 × ℤ) → Prop
  | [] => True
  | (bytes, ret) :: reads =>
    bytes ≠ [] ∧ SubmitRet ret ∧ (chanFd ∈ net.eplSet → bytes.length ≤ recvLen (net.chans i)) ∧
      ReadsAllowed (serveRead net chanFd i bytes ret).2 chanFd i reads

/-- A way in which `recv` may hand over the stream. -/
structure Splits (net : Net) (chanFd i : ℕ) (stream : List UInt8) (reads : List (List UInt8 × ℤ)) : Prop where
  bytes : (reads.map Prod.fst).flatten = stream
  allowed : ReadsAllowed net chanFd i reads

/-- The server waits for more after the bytes `received`. -/
structure Listening (net : Net) (chanFd i : ℕ) (received : List UInt8) : Prop where
  reported : chanFd ∈ net.eplSet
  fd : (net.chans i).chanFd ≠ -1
  len : (net.chans i).recvS = received.length
  read : (net.chans i).pkt.read 0 received.length = received
  incomplete : Incomplete received

lemma SubmitRet.nonpos {ret : ℤ} (h : SubmitRet ret) : ret ≤ 0 := by
  obtain ⟨p, n, b, alloc, p', h⟩ | ⟨p, i, n, b, ticket, create, rfl⟩ := h
  · exact (submitEvent_ret h).1
  · exact submitToThread_ret p i n b ticket create

lemma outClose_unreported (net : Net) (chanFd i : ℕ) : chanFd ∉ (net.outClose chanFd i).eplSet := by
  simp [Net.outClose, Net.close]

lemma delivered_unreported {net : Net} {chanFd i : ℕ} (h : chanFd ∉ net.eplSet) (reads : List (List UInt8 × ℤ)) :
    delivered net chanFd i reads = [] := by
  cases reads with
  | nil => rfl
  | cons read reads => simp only [delivered, if_neg h]

section Read

variable {net : Net} {chanFd i : ℕ} {received bytes : List UInt8} {ret : ℤ}

lemma Listening.fits (h : Listening net chanFd i received) (hlen : bytes.length ≤ recvLen (net.chans i)) :
    (received ++ bytes).length ≤ sizeofRawBuf := length_append_le h.len h.incomplete hlen

/-- The three outcomes of a read. -/
lemma serveRead_cases (h : Listening net chanFd i received) (hne : bytes ≠ [])
    (hlen : bytes.length ≤ recvLen (net.chans i)) (hret : SubmitRet ret) :
    (Incomplete (received ++ bytes) ∧ (serveRead net chanFd i bytes ret).1 = [] ∧
      Listening (serveRead net chanFd i bytes ret).2 chanFd i (received ++ bytes)) ∨
    (Refused (received ++ bytes) ∧ (serveRead net chanFd i bytes ret).1 = [] ∧
      chanFd ∉ (serveRead net chanFd i bytes ret).2.eplSet) ∨
    (¬Incomplete (received ++ bytes) ∧ ¬Refused (received ++ bytes) ∧
      (serveRead net chanFd i bytes ret).1 = [(received ++ bytes).drop offsetofData] ∧
      chanFd ∉ (serveRead net chanFd i bytes ret).2.eplSet) := by
  have hfit := h.fits hlen
  obtain ⟨hlen', hread'⟩ := receivedChan_read bytes h.len h.read
  obtain ⟨hw, hr⟩ := receivedChan_outcome hlen' hfit hread'
  have heff := handleClientEvent2_effect net chanFd i false (.ok bytes)
  unfold serveRead
  revert heff
  generalize handleClientEvent2 net chanFd i false (.ok bytes) = result
  obtain ⟨sub, net'⟩ := result
  intro heff
  cases heff with
  | hangup recv hout =>
    obtain hout | hout | ⟨err, hout, -⟩ | hout := hout
    · cases hout
    · exact absurd hout h.fd
    · cases hout
    · exact absurd (Except.ok.inj hout) hne
  | more bytes herr hne' hwait =>
    refine .inl ⟨hw.mp hwait, rfl, ⟨h.reported, ?_, ?_, ?_, hw.mp hwait⟩⟩
    all_goals simp only [Function.update_self]
    · exact h.fd
    · exact hlen'
    · exact hread'
  | reject bytes herr hne' hrej => exact .inr (.inl ⟨hr.mp hrej, rfl, outClose_unreported _ _ _⟩)
  | complete bytes herr hne' hcomp =>
    have hiff := (completes_iff hlen' hfit hread').mp hcomp
    refine .inr (.inr ⟨hiff.1, hiff.2, ?_, ?_⟩)
    · simp only [Function.update_self]
      rw [framedChan_payload hlen' hread' hcomp hfit]
    · simp only [afterSubmit_of_nonpos _ _ _ hret.nonpos]
      exact outClose_unreported _ _ _

end Read

/-! ### The whole stream -/

/-- The bytes are one frame. -/
def Complete (received : List UInt8) : Prop := ¬Incomplete received ∧ ¬Refused received

lemma refused_append {received : List UInt8} (h : Refused received) (more : List UInt8) : Refused (received ++ more) := by
  unfold Refused at h ⊢
  rw [declared_append h.1, List.length_append]
  omega

section Stream

variable {net : Net} {chanFd i : ℕ} {received : List UInt8} {reads : List (List UInt8 × ℤ)}

/-- What is delivered after the bytes `received`, and why where it is nothing. -/
lemma delivered_cases (h : Listening net chanFd i received) (hreads : ReadsAllowed net chanFd i reads) :
    (∃ front, front <+: reads.map Prod.fst ∧ Complete (received ++ front.flatten) ∧
      delivered net chanFd i reads = [(received ++ front.flatten).drop offsetofData]) ∨
    ((∀ front, front <+: reads.map Prod.fst → ¬Complete (received ++ front.flatten)) ∧
      (Incomplete (received ++ (reads.map Prod.fst).flatten) ∨
        ∃ front, front <+: reads.map Prod.fst ∧ Refused (received ++ front.flatten) ∧
          (received ++ front.flatten).length ≤ sizeofRawBuf) ∧
      delivered net chanFd i reads = []) := by
  induction reads generalizing net received with
  | nil =>
    right
    rw [List.map_nil, List.flatten_nil, List.append_nil]
    refine ⟨?_, .inl h.incomplete, rfl⟩
    intro front hfront
    rw [List.prefix_nil] at hfront
    rw [hfront, List.flatten_nil, List.append_nil]
    exact fun hcomp => hcomp.1 h.incomplete
  | cons read reads ih =>
    obtain ⟨bytes, ret⟩ := read
    obtain ⟨hne, hret, hlen, hrest⟩ := hreads
    have hfit := h.fits (hlen h.reported)
    have happend : ∀ front : List (List UInt8),
        received ++ (bytes :: front).flatten = received ++ bytes ++ front.flatten := by
      intro front
      rw [List.flatten_cons, List.append_assoc]
    -- the prefixes that contain the first piece are what matters
    have hlater : (∀ front, front <+: reads.map Prod.fst → ¬Complete (received ++ bytes ++ front.flatten)) →
        ∀ front, front <+: bytes :: reads.map Prod.fst → ¬Complete (received ++ front.flatten) := by
      intro hlater front hfront
      rw [List.prefix_cons_iff] at hfront
      obtain rfl | ⟨front, rfl, hfront⟩ := hfront
      · rw [List.flatten_nil, List.append_nil]
        exact fun hcomp => hcomp.1 h.incomplete
      · rw [happend]
        exact hlater front hfront
    rw [delivered, if_pos h.reported, List.map_cons]
    obtain ⟨hinc, hnone, hlisten⟩ | ⟨href, hnone, hclosed⟩ | ⟨hcomp, hok, hone, hclosed⟩ :=
      serveRead_cases h hne (hlen h.reported) hret
    · rw [hnone, List.nil_append]
      obtain ⟨front, hfront, hcomp, hdel⟩ | ⟨hnever, hwhy, hdel⟩ := ih hlisten hrest
      · left
        refine ⟨bytes :: front, List.cons_prefix_cons.mpr ⟨rfl, hfront⟩, ?_⟩
        rw [happend]
        exact ⟨hcomp, hdel⟩
      · right
        refine ⟨hlater hnever, ?_, hdel⟩
        obtain hall | ⟨front, hfront, href⟩ := hwhy
        · rw [happend]
          exact .inl hall
        · refine .inr ⟨bytes :: front, List.cons_prefix_cons.mpr ⟨rfl, hfront⟩, ?_⟩
          rw [happend]
          exact href
    · rw [hnone, delivered_unreported hclosed]
      right
      refine ⟨hlater (fun front _ hcomp => hcomp.2 (refused_append href _)), .inr ⟨[bytes], ?_, ?_⟩, rfl⟩
      · exact List.cons_prefix_cons.mpr ⟨rfl, List.nil_prefix⟩
      · rw [List.flatten_singleton]
        exact ⟨href, hfit⟩
    · rw [hone, delivered_unreported hclosed]
      left
      refine ⟨[bytes], List.cons_prefix_cons.mpr ⟨rfl, List.nil_prefix⟩, ?_⟩
      rw [List.flatten_singleton, List.append_nil]
      exact ⟨⟨hcomp, hok⟩, rfl⟩

end Stream

/-- The stream starts with a frame, and a piece ends where that frame ends. -/
def EndsWithFrame (stream : List UInt8) (pieces : List (List UInt8)) : Prop :=
  offsetofData ≤ stream.length ∧ declared stream ≤ CHPKT_DATA_BUFSIZ ∧
    ∃ front, front <+: pieces ∧ front.flatten.length = offsetofData + declared stream

lemma complete_prefix_iff {front stream : List UInt8} (h : front <+: stream) :
    Complete front ↔ offsetofData ≤ stream.length ∧ declared stream ≤ CHPKT_DATA_BUFSIZ ∧
      front.length = offsetofData + declared stream := by
  obtain ⟨more, rfl⟩ := h
  have ho : offsetofData = 2 := rfl
  unfold Complete Incomplete Refused
  rw [List.length_append]
  by_cases hshort : front.length < offsetofData
  · constructor
    · exact fun hcomp => absurd (Or.inl hshort) hcomp.1
    · omega
  · rw [declared_append (by omega)]
    omega

lemma isPrefix_flatten {front pieces : List (List UInt8)} (h : front <+: pieces) : front.flatten <+: pieces.flatten := by
  obtain ⟨more, rfl⟩ := h
  rw [List.flatten_append]
  exact List.prefix_append _ _

/-- `run_acceptor` has just put a connection on `chanFd` into its table. -/
structure AcceptedOn (net₀ : Net) (env : AcceptEnv) (chanFd : ℕ) : Prop where
  accept : env.accept = .ok chanFd
  gettimeofday : env.gettimeofday.isOk = true
  epollAdd : env.epollAdd = none
  ret : (runAcceptor net₀ env).1 = 0

/-- The channel that `epl_map` names. -/
def chanOf (net : Net) (chanFd : ℕ) : ℕ := net.eplMap chanFd - EPL_MAP_SHIFT

lemma AcceptedOn.listening {net₀ : Net} {env : AcceptEnv} {chanFd : ℕ} (h : AcceptedOn net₀ env chanFd) :
    Listening (runAcceptor net₀ env).2 chanFd (chanOf (runAcceptor net₀ env).2 chanFd) [] := by
  have hret := h.ret
  cases htv : env.gettimeofday with
  | error err =>
    have hok := h.gettimeofday
    rw [htv] at hok
    cases hok
  | ok tvSec =>
    unfold runAcceptor at hret ⊢
    simp only [h.accept, h.epollAdd, htv] at hret ⊢
    -- the refusals in their order
    by_cases hlen : env.addrLen > sizeofSockaddrIn
    · rw [if_pos hlen] at hret
      cases hret
    rw [if_neg hlen] at hret ⊢
    cases hip : env.inetNtop with
    | none =>
      simp only [hip] at hret
      cases hret
    | some srcIp =>
      simp only [hip] at hret ⊢
      by_cases hempty : (tssPop net₀.chanStk).1 = -1
      · rw [if_pos hempty] at hret
        cases hret
      rw [if_neg hempty] at hret ⊢
      by_cases hbig : (tssPop net₀.chanStk).1.toNat + EPL_MAP_SHIFT ≥ EPL_MAP_SIZE
      · rw [if_pos hbig] at hret
        cases hret
      rw [if_neg hbig]
      have hsize : EPL_MAP_SIZE = 0xffff := rfl
      have hmod : ((tssPop net₀.chanStk).1.toNat + EPL_MAP_SHIFT) % 2 ^ 16 - EPL_MAP_SHIFT =
          (tssPop net₀.chanStk).1.toNat := by
        rw [Nat.mod_eq_of_lt (by omega), Nat.add_sub_cancel]
      constructor
      · exact List.mem_cons_self
      · simp only [chanOf, Net.setChan, Function.update_self, hmod]
        omega
      · simp only [chanOf, Net.setChan, Function.update_self, hmod, List.length_nil]
      · rfl
      · exact .inl (by decide)

/-- The stream goes on after a first frame that leaves room in the buffer. -/
def Followed (stream : List UInt8) : Prop :=
  offsetofData ≤ stream.length ∧ declared stream < CHPKT_DATA_BUFSIZ ∧ offsetofData + declared stream < stream.length

section Splittings

variable {net : Net} {chanFd i : ℕ} {stream : List UInt8} {reads : List (List UInt8 × ℤ)}

/-- What a splitting delivers. -/
lemma delivered_iff (h : Listening net chanFd i []) (hsplit : Splits net chanFd i stream reads) :
    (EndsWithFrame stream (reads.map Prod.fst) →
      delivered net chanFd i reads = [(stream.drop offsetofData).take (declared stream)]) ∧
    (¬EndsWithFrame stream (reads.map Prod.fst) → delivered net chanFd i reads = []) := by
  have hfront : ∀ front, front <+: reads.map Prod.fst → front.flatten <+: stream := by
    intro front hfront
    rw [← hsplit.bytes]
    exact isPrefix_flatten hfront
  obtain ⟨front, hpre, hcomp, hdel⟩ | ⟨hnever, -, hdel⟩ := delivered_cases h hsplit.allowed
  · rw [List.nil_append] at hcomp hdel
    have hiff := (complete_prefix_iff (hfront front hpre)).mp hcomp
    constructor
    · intro _
      obtain ⟨more, hmore⟩ := hfront front hpre
      rw [hdel, ← hmore, List.drop_append_of_le_length (by omega), List.take_left']
      rw [hmore, List.length_drop]
      omega
    · exact fun hnot => absurd ⟨hiff.1, hiff.2.1, front, hpre, hiff.2.2⟩ hnot
  · constructor
    · rintro ⟨hlen, hdecl, front, hpre, hend⟩
      have hcomp := (complete_prefix_iff (hfront front hpre)).mpr ⟨hlen, hdecl, hend⟩
      exact absurd hcomp (hnever front hpre)
    · exact fun _ => hdel

/-- Where no frame is followed by more, every splitting ends a piece with the frame or none does. -/
lemma endsWithFrame_iff (h : Listening net chanFd i []) (hsplit : Splits net chanFd i stream reads)
    (hstream : ¬Followed stream) : EndsWithFrame stream (reads.map Prod.fst) ↔
      offsetofData ≤ stream.length ∧ declared stream ≤ CHPKT_DATA_BUFSIZ ∧
        offsetofData + declared stream ≤ stream.length := by
  have hs : sizeofRawBuf = offsetofData + CHPKT_DATA_BUFSIZ := rfl
  constructor
  · rintro ⟨hlen, hdecl, front, hpre, hend⟩
    have hle := (isPrefix_flatten hpre).length_le
    rw [hsplit.bytes] at hle
    omega
  · rintro ⟨hlen, hdecl, hend⟩
    obtain ⟨front, hpre, hcomp, -⟩ | ⟨hnever, hwhy, -⟩ := delivered_cases h hsplit.allowed
    · rw [List.nil_append] at hcomp
      have hfront : front.flatten <+: stream := hsplit.bytes ▸ isPrefix_flatten hpre
      exact ⟨hlen, hdecl, front, hpre, ((complete_prefix_iff hfront).mp hcomp).2.2⟩
    · exfalso
      obtain hinc | ⟨front, hpre, href, hfit⟩ := hwhy
      · rw [List.nil_append, hsplit.bytes] at hinc
        unfold Incomplete at hinc
        omega
      · -- a piece that overruns the frame leaves room for none
        rw [List.nil_append] at href hfit
        have hfront : front.flatten <+: stream := hsplit.bytes ▸ isPrefix_flatten hpre
        obtain ⟨more, rfl⟩ := hfront
        unfold Refused at href
        unfold Followed at hstream
        rw [declared_append href.1] at hstream hdecl
        rw [List.length_append] at hstream
        omega

/-- One piece of `k` bytes, and the rest in another one. -/
def splitAt (stream : List UInt8) (k : ℕ) : List (List UInt8 × ℤ) :=
  (stream.take k, 0) :: if stream.drop k = [] then [] else [(stream.drop k, 0)]

lemma submitRet_zero : SubmitRet 0 :=
  .inr ⟨initPool 1 (fun _ _ => 0), 0, 0, Buf.fresh (fun _ => 0), 0, 0, rfl⟩

/-- The first piece decides where it is too long or a frame. -/
lemma splits_splitAt (h : Listening net chanFd i []) (stream : List UInt8) {k : ℕ} (hpos : 0 < k) (hk : k ≤ sizeofRawBuf)
    (hlen : k ≤ stream.length) (hinc : ¬Incomplete (stream.take k)) :
    Splits net chanFd i stream (splitAt stream k) ∧
      (delivered net chanFd i (splitAt stream k) = [] ↔ Refused (stream.take k)) := by
  have htake : (stream.take k).length = k := by rw [List.length_take, Nat.min_eq_left hlen]
  have hne : stream.take k ≠ [] := List.ne_nil_of_length_pos (by omega)
  have hroom : (stream.take k).length ≤ recvLen (net.chans i) := by
    rw [recvLen_eq h.len h.incomplete, htake]
    exact hk
  have hbytes : ((splitAt stream k).map Prod.fst).flatten = stream := by
    unfold splitAt
    by_cases hdrop : stream.drop k = []
    · rw [if_pos hdrop, List.map_cons, List.map_nil, List.flatten_singleton]
      conv_rhs => rw [← List.take_append_drop k stream, hdrop, List.append_nil]
    · rw [if_neg hdrop]
      simp
  -- nothing is read after the first piece
  have hrest : ∀ net', chanFd ∉ net'.eplSet → ReadsAllowed net' chanFd i (if stream.drop k = [] then [] else [(stream.drop k, 0)]) := by
    intro net' hclosed
    by_cases hdrop : stream.drop k = []
    · rw [if_pos hdrop]
      trivial
    · rw [if_neg hdrop]
      exact ⟨hdrop, submitRet_zero, fun hmem => absurd hmem hclosed, trivial⟩
  obtain ⟨hwait, -⟩ | ⟨href, hnone, hclosed⟩ | ⟨-, hok, hone, hclosed⟩ :=
    serveRead_cases h hne hroom submitRet_zero
  · exact absurd hwait hinc
  · refine ⟨⟨hbytes, hne, submitRet_zero, fun _ => hroom, hrest _ hclosed⟩, ?_⟩
    rw [splitAt, delivered, if_pos h.reported, hnone, delivered_unreported hclosed]
    exact iff_of_true rfl href
  · refine ⟨⟨hbytes, hne, submitRet_zero, fun _ => hroom, hrest _ hclosed⟩, ?_⟩
    rw [splitAt, delivered, if_pos h.reported, hone, delivered_unreported hclosed]
    exact iff_of_false (by simp) hok

/-- A frame that is followed by more is delivered by one splitting and not by another. -/
lemma followed_splits (h : Listening net chanFd i []) (hstream : Followed stream) :
    ∃ reads reads', Splits net chanFd i stream reads ∧ Splits net chanFd i stream reads' ∧
      delivered net chanFd i reads ≠ delivered net chanFd i reads' := by
  have hs : sizeofRawBuf = 0x6002 := rfl
  have hb : CHPKT_DATA_BUFSIZ = 0x6000 := rfl
  have ho : offsetofData = 2 := rfl
  obtain ⟨hhead, hdecl, hmore⟩ := hstream
  have hdeclTake : ∀ k, 2 ≤ k → k ≤ stream.length → declared (stream.take k) = declared stream := by
    intro k hk hle
    have htake : 2 ≤ (stream.take k).length := by
      rw [List.length_take]
      omega
    rw [← declared_append htake (stream.drop k), List.take_append_drop]
  have houtcome : ∀ k, offsetofData + declared stream ≤ k → k ≤ stream.length →
      ¬Incomplete (stream.take k) ∧ (Refused (stream.take k) ↔ offsetofData + declared stream < k) := by
    intro k hk hle
    unfold Incomplete Refused
    rw [hdeclTake k (by omega) hle, List.length_take, Nat.min_eq_left hle]
    omega
  obtain ⟨hinc₁, href₁⟩ := houtcome (offsetofData + declared stream) (Nat.le_refl _) (by omega)
  obtain ⟨hinc₂, href₂⟩ := houtcome (offsetofData + declared stream + 1) (by omega) (by omega)
  obtain ⟨hsplit₁, hdel₁⟩ := splits_splitAt h stream (by omega) (by omega) (by omega) hinc₁
  obtain ⟨hsplit₂, hdel₂⟩ := splits_splitAt h stream (by omega) (by omega) (by omega) hinc₂
  refine ⟨_, _, hsplit₁, hsplit₂, fun heq => ?_⟩
  rw [hdel₂.mpr (href₂.mpr (by omega)), hdel₁, href₁] at heq
  omega

end Splittings

/-- A connection delivers the first frame of its stream where a piece ends with that frame, and nothing
otherwise; so the pieces make no difference unless something follows the frame. -/
theorem delivered_by_segmentation (net₀ : Net) (env : AcceptEnv) (chanFd : ℕ) (haccepted : AcceptedOn net₀ env chanFd)
    (stream : List UInt8) :
    let net := (runAcceptor net₀ env).2
    let i := chanOf net chanFd
    (∀ reads, Splits net chanFd i stream reads →
      (EndsWithFrame stream (reads.map Prod.fst) →
        delivered net chanFd i reads = [(stream.drop offsetofData).take (declared stream)]) ∧
      (¬EndsWithFrame stream (reads.map Prod.fst) → delivered net chanFd i reads = [])) ∧
    ((∀ reads reads', Splits net chanFd i stream reads → Splits net chanFd i stream reads' →
      delivered net chanFd i reads = delivered net chanFd i reads') ↔ ¬Followed stream) := by
  intro net i
  have h : Listening net chanFd i [] := haccepted.listening
  refine ⟨fun reads hsplit => delivered_iff h hsplit, ?_, ?_⟩
  · intro hagree hstream
    obtain ⟨reads, reads', hsplit, hsplit', hne⟩ := followed_splits h hstream
    exact hne (hagree reads reads' hsplit hsplit')
  · intro hstream reads reads' hsplit hsplit'
    by_cases hend : EndsWithFrame stream (reads.map Prod.fst)
    · have hend' := (endsWithFrame_iff h hsplit' hstream).mpr ((endsWithFrame_iff h hsplit hstream).mp hend)
      rw [(delivered_iff h hsplit).1 hend, (delivered_iff h hsplit').1 hend']
    · have hend' : ¬EndsWithFrame stream (reads'.map Prod.fst) := fun hend' =>
        hend ((endsWithFrame_iff h hsplit hstream).mpr ((endsWithFrame_iff h hsplit' hstream).mp hend'))
      rw [(delivered_iff h hsplit).2 hend, (delivered_iff h hsplit').2 hend']

/-- A client has connected on descriptor 5 to a server without other clients. -/
def connected : Net := (runAcceptor (initNet 1 3 (fun _ _ => 0)) (acceptEnv 5)).2

lemma acceptedOn_connected : AcceptedOn (initNet 1 3 (fun _ _ => 0)) (acceptEnv 5) 5 := ⟨rfl, rfl, rfl, rfl⟩

lemma listening_connected : Listening connected 5 (chanOf connected 5) [] := acceptedOn_connected.listening

theorem delivered_by_segmentation_pieces :
    ∃ reads, Splits connected 5 (chanOf connected 5) [0, 1, 65] reads ∧
      delivered connected 5 (chanOf connected 5) reads = [[65]] := by
  have hsplit := (splits_splitAt listening_connected [0, 1, 65] (k := 3) (by decide) (by decide)
    (by decide) (by unfold Incomplete; decide)).1
  have h := delivered_by_segmentation (initNet 1 3 (fun _ _ => 0)) (acceptEnv 5) 5 acceptedOn_connected [0, 1, 65]
  refine ⟨_, hsplit, (h.1 _ hsplit).1 ⟨by decide, by decide, [[0, 1, 65]], ?_, by decide⟩⟩
  exact List.prefix_refl _

/-- `A` is delivered where it comes before the byte that follows it, and not where both come at once. -/
theorem trailing_byte_matters :
    ¬∀ stream reads reads', Splits connected 5 (chanOf connected 5) stream reads →
      Splits connected 5 (chanOf connected 5) stream reads' →
      delivered connected 5 (chanOf connected 5) reads = delivered connected 5 (chanOf connected 5) reads' := by
  intro h
  have hA := splits_splitAt listening_connected [0, 1, 65, 66] (k := 3) (by decide) (by decide)
    (by decide) (by unfold Incomplete; decide)
  have hAB := splits_splitAt listening_connected [0, 1, 65, 66] (k := 4) (by decide) (by decide)
    (by decide) (by unfold Incomplete; decide)
  have heq := h [0, 1, 65, 66] _ _ hA.1 hAB.1
  rw [hAB.2.mpr (by unfold Refused; decide)] at heq
  have href := hA.2.mp heq
  revert href
  unfold Refused
  decide

end GNUWeebBot.Proofs
