import GNUWeebBot.Proofs.Tickets

/-!
# When accepted packets are lost

A worker that has timed out 301 times leaves its loop while its index is still on
`thread_stk`. Two orders of steps then lose a packet: the main thread stores it before
the last time-out is noticed, or it stores it between the worker's decision to leave and
`reset_thread`. Along a run nothing is lost exactly when neither order occurs.
-/

namespace GNUWeebBot.Proofs
open Transition

/-- Slot `i` has a worker that has not left its loop. -/
def Served (workers : ℕ → Option Worker) (i : ℕ) : Prop :=
  ∃ t w, workers t = some w ∧ w.idx = i ∧ w.phase ≠ .leaving

inductive Place
  | sqe (k : ℕ)
  | slot (i : ℕ)

/-- The packet with ticket `t` waits at a place from which it will be handled. -/
def Holds (p : Pool) (t : ℕ) : Place → Prop
  | .sqe k => (sqeTickets p.sqes)[k]? = some t
  | .slot i => (p.threads i).hasEvent = true ∧ (p.threads i).ticket = t ∧ Served p.workers i

/-- Where the index `i` of a worker can be. -/
def Accounted (p : Pool) (i : ℕ) : Prop :=
  i ∈ p.threadStk.toList ∨ p.main.popped = some i ∨
    ((p.threads i).hasEvent = true ∧ Served p.workers i) ∨ ∃ t, p.workers t = some ⟨i, .cleared⟩

structure NoLoss (p : Pool) : Prop where
  packets : ∀ t ∈ p.accepted, t ∉ handledTickets p.handled → ∃! place, Holds p t place
  indices : ∀ i < p.threadC, Accounted p i

/-- Every thread is created and nobody interrupts the server. -/
def QuietAct : PoolAct → Prop
  | .submitToThread create | .dispatchSqe create => create = 0
  | .interrupt => False
  | _ => True

/-- `pthread_create` fails for the offline worker `i`. -/
def SpawnFails (p : Pool) (act : PoolAct) (i : ℕ) : Prop :=
  p.main.popped = some i ∧ (p.threads i).isOnline = false ∧
    ∃ create, create ≠ 0 ∧ (act = .submitToThread create ∨ act = .dispatchSqe create)

lemma QuietAct.ne_interrupt {act : PoolAct} (h : QuietAct act) : act ≠ .interrupt := by
  rintro rfl
  exact h

lemma QuietAct.spawns {p : Pool} {act : PoolAct} (h : QuietAct act) (i : ℕ) : ¬SpawnFails p act i := by
  rintro ⟨-, -, create, hcreate, rfl | rfl⟩
  · exact hcreate h
  · exact hcreate h

/-- Neither of the two harmful orders: no worker gives up on a slot with an event, and the
main thread writes no slot whose worker has given up. -/
def BenignStep (p : Pool) : PoolAct → Prop
  | .wake tid ret => ∀ idx, p.workers tid = some ⟨idx, .waiting 300⟩ → ret ≠ 0 →
      (p.threads idx).hasEvent = false
  | .submitToThread _ | .dispatchSqe _ => ∀ i tid, p.main.popped = some i →
      p.workers tid ≠ some ⟨i, .leaving⟩
  | _ => True

/-! ### Workers -/

section

variable {workers : ℕ → Option Worker} {tid idx i : ℕ} {old new : Phase}

lemma served_self (hnew : new ≠ .leaving) : Served (Function.update workers tid (some ⟨idx, new⟩)) idx :=
  ⟨tid, _, Function.update_self .., rfl, hnew⟩

lemma served_other {x : Option Worker} (h : Served workers i) (hw : ∀ w, workers tid = some w → w.idx ≠ i) :
    Served (Function.update workers tid x) i := by
  obtain ⟨t, w, ht, hi, hph⟩ := h
  have hne : t ≠ tid := by
    rintro rfl
    exact hw w ht hi
  exact ⟨t, w, by rw [Function.update_of_ne hne, ht], hi, hph⟩

lemma served_move (h : Served workers i) (hw : workers tid = some ⟨idx, old⟩) (hnew : new ≠ .leaving) :
    Served (Function.update workers tid (some ⟨idx, new⟩)) i := by
  by_cases hi : i = idx
  · subst hi
    exact served_self hnew
  · refine served_other h (fun w hw' he => hi ?_)
    rw [hw, Option.some_inj] at hw'
    rw [← he, ← hw']

lemma not_served (hunique : ∀ t w, workers t = some w → w.idx = idx → t = tid)
    (hw : workers tid = some ⟨idx, .leaving⟩) : ¬Served workers idx := by
  rintro ⟨t, w, ht, hi, hph⟩
  obtain rfl := hunique t w ht hi
  rw [hw, Option.some_inj] at ht
  exact hph (by rw [← ht])

end

/-! ### The two clauses -/

/-- The packet `t` is at some place. -/
def Kept (p : Pool) (t : ℕ) : Prop :=
  t ∈ sqeTickets p.sqes ∨
    ∃ i, (p.threads i).hasEvent = true ∧ (p.threads i).ticket = t ∧ Served p.workers i

lemma existsUnique_place_iff {p : Pool} (ht : TicketInv p) (t : ℕ) :
    (∃! place, Holds p t place) ↔ Kept p t := by
  constructor
  · rintro ⟨place, hplace, -⟩
    cases place with
    | sqe k => exact Or.inl (List.mem_of_getElem? hplace)
    | slot i => exact Or.inr ⟨i, hplace⟩
  · rintro (hmem | ⟨i, hev, htick, hserved⟩)
    · obtain ⟨k, hk⟩ := List.mem_iff_getElem?.mp hmem
      refine ⟨.sqe k, hk, fun place hplace => ?_⟩
      cases place with
      | sqe k' =>
        have hlt : k' < (sqeTickets p.sqes).length := by
          by_contra hge
          rw [Holds, List.getElem?_eq_none (by omega)] at hplace
          cases hplace
        rw [(List.getElem?_inj hlt ht.sqesNodup).mp (hplace.trans hk.symm)]
      | slot i => exact absurd (hplace.2.1 ▸ hmem) (ht.slotOld i hplace.1).2
    · refine ⟨.slot i, ⟨hev, htick, hserved⟩, fun place hplace => ?_⟩
      cases place with
      | sqe k =>
        have hmem := List.mem_of_getElem? hplace
        exact absurd (htick ▸ hmem) (ht.slotOld i hev).2
      | slot j => rw [ht.slotsDistinct j i hplace.1 hev (hplace.2.1.trans htick.symm)]

/-- `NoLoss` without the uniqueness, which `TicketInv` gives. -/
structure Secure (p : Pool) : Prop where
  packets : ∀ t ∈ p.accepted, t ∉ handledTickets p.handled → Kept p t
  indices : ∀ i < p.threadC, Accounted p i

lemma noLoss_iff {p : Pool} (ht : TicketInv p) : NoLoss p ↔ Secure p := by
  constructor
  · rintro ⟨hpk, hix⟩
    exact ⟨fun t hacc hhan => (existsUnique_place_iff ht t).mp (hpk t hacc hhan), hix⟩
  · rintro ⟨hpk, hix⟩
    exact ⟨fun t hacc hhan => (existsUnique_place_iff ht t).mpr (hpk t hacc hhan), hix⟩

/-- A slot with an event whose worker has given up is neither free nor served. -/
lemma not_accounted_of_leaving {p : Pool} (hp : PoolInv p) {tid idx : ℕ}
    (hw : p.workers tid = some ⟨idx, .leaving⟩) (hev : (p.threads idx).hasEvent = true) : ¬Accounted p idx := by
  have hother : ∀ t w, p.workers t = some w → w.idx = idx → t = tid :=
    fun t w ht hi => hp.unique t tid w _ ht hw hi
  rintro (hstk | hpop | ⟨-, hserved⟩ | ⟨t, ht⟩)
  · rw [(hp.stkIdle idx hstk).2] at hev
    exact Bool.noConfusion hev
  · rw [(hp.poppedIdle idx hpop).2.2] at hev
    exact Bool.noConfusion hev
  · exact not_served hother hw hserved
  · obtain rfl := hother t _ ht rfl
    rw [hw, Option.some_inj] at ht
    cases ht

/-! ### One step -/

section

variable {p p' : Pool} {act : PoolAct}

lemma update_fresh (hp : PoolInv p) (w : Worker) :
    ∀ t v, p.workers t = some v → Function.update p.workers p.nextTid (some w) t = some v := by
  intro t v ht
  rw [Function.update_of_ne (Nat.ne_of_lt (hp.tidLt t v ht).1), ht]

/-- The main thread has written the popped slot `i`; no worker of that slot was on its way out. -/
lemma not_leaving_of_write (hp' : PoolInv p') (h : ∀ i < p'.threadC, Accounted p' i) {i : ℕ} {th : Thread}
    (hpop : p.main.popped = some i) (hth : p'.threads = Function.update p.threads i th)
    (hev : th.hasEvent = true) (hkeep : ∀ t w, p.workers t = some w → p'.workers t = some w) :
    ∀ j tid, p.main.popped = some j → p.workers tid ≠ some ⟨j, .leaving⟩ := by
  intro j tid hj hlv
  rw [hpop, Option.some_inj] at hj
  subst hj
  have hlv' := hkeep tid _ hlv
  refine not_accounted_of_leaving hp' hlv' ?_ (h i (hp'.tidLt tid _ hlv').2)
  rw [hth, Function.update_self, hev]

lemma benign_of_accounted (hp : PoolInv p) (he : PoolEffect p act p') (h : ∀ i < p'.threadC, Accounted p' i) :
    BenignStep p act := by
  have hp' := hp.effect he
  cases he with
  | wakeLeave tid idx counter ret hw hfree hout =>
    intro idx' hw' hret
    rw [hw, Option.some_inj, Worker.mk.injEq] at hw'
    obtain ⟨rfl, -⟩ := hw'
    by_contra hev
    rw [Bool.not_eq_false] at hev
    have hlv : Function.update p.workers tid (some ⟨idx, .leaving⟩) tid = some ⟨idx, .leaving⟩ :=
      Function.update_self ..
    exact not_accounted_of_leaving hp' hlv hev (h idx (hp.tidLt tid _ hw).2)
  | wakeRun tid idx counter ret hw hfree hstay hev =>
    intro idx' hw' hret
    rw [hw, Option.some_inj, Worker.mk.injEq, Phase.waiting.injEq] at hw'
    exact absurd (Or.inl ⟨hret, hw'.2⟩) hstay
  | wakeWait tid idx counter next ret hw hfree hstay hev =>
    intro idx' hw' hret
    rw [hw, Option.some_inj, Worker.mk.injEq, Phase.waiting.injEq] at hw'
    exact absurd (Or.inl ⟨hret, hw'.2⟩) hstay
  | submitOnline i cpyLen b ticket create hmain hfree hon =>
    exact not_leaving_of_write hp' h (by rw [hmain]; rfl) rfl rfl (fun _ _ hw => hw)
  | submitSpawn i cpyLen b ticket hmain hfree hoff =>
    exact not_leaving_of_write hp' h (by rw [hmain]; rfl) rfl rfl (update_fresh hp _)
  | submitNoThread i cpyLen b ticket create hmain hfree hoff hcreate =>
    exact not_leaving_of_write hp' h (by rw [hmain]; rfl) rfl rfl (fun _ _ hw => hw)
  | dispatchOnline i create node que hmain hfree hque hon =>
    exact not_leaving_of_write hp' h (by rw [hmain]; rfl) rfl rfl (fun _ _ hw => hw)
  | dispatchSpawn i node que hmain hfree hque hoff =>
    exact not_leaving_of_write hp' h (by rw [hmain]; rfl) rfl rfl (update_fresh hp _)
  | dispatchNoThread i create node que hmain hfree hque hoff hcreate =>
    exact not_leaving_of_write hp' h (by rw [hmain]; rfl) rfl rfl (fun _ _ hw => hw)
  | dispatchPanic i create hmain hque => exact absurd hque (hp.queued i hmain)
  | _ => trivial

end

namespace Secure

variable {p : Pool}

/-- The popped slot `i` gets the packet `th.ticket` and is served afterwards. -/
lemma write (h : Secure p) (hp : PoolInv p) (th : Thread) {i nextTid : ℕ} {sqes : Fifo QueNode}
    {workers : ℕ → Option Worker} {accepted : List ℕ} (hpop : p.main.popped = some i)
    (hev : th.hasEvent = true) (hserved : Served workers i)
    (hworkers : ∀ t w, p.workers t = some w → workers t = some w)
    (hsqes : ∀ t ∈ sqeTickets p.sqes, t = th.ticket ∨ t ∈ sqeTickets sqes)
    (hacc : ∀ t ∈ accepted, t = th.ticket ∨ t ∈ p.accepted) :
    Secure { p with
      sqes := sqes
      threads := Function.update p.threads i th
      main := .idle
      workers := workers
      nextTid := nextTid
      accepted := accepted } := by
  have hidle := (hp.poppedIdle i hpop).2.2
  have hmono : ∀ j, Served p.workers j → Served workers j := by
    rintro j ⟨t, w, ht, hj⟩
    exact ⟨t, w, hworkers t w ht, hj⟩
  have hself : Kept { p with
      sqes := sqes, threads := Function.update p.threads i th, main := .idle, workers := workers
      nextTid := nextTid, accepted := accepted } th.ticket := by
    refine Or.inr ⟨i, ?_, ?_, hserved⟩
    · simp only [Function.update_self, hev]
    · simp only [Function.update_self]
  constructor
  · intro t ht hhan
    rcases hacc t ht with rfl | ht
    · exact hself
    · rcases h.packets t ht hhan with hq | ⟨j, hj, hjt, hjs⟩
      · rcases hsqes t hq with rfl | hq
        · exact hself
        · exact Or.inl hq
      · have hji : j ≠ i := by
          rintro rfl
          rw [hidle] at hj
          exact Bool.noConfusion hj
        refine Or.inr ⟨j, ?_⟩
        simp only [Function.update_of_ne hji]
        exact ⟨hj, hjt, hmono j hjs⟩
  · intro j hj
    by_cases hji : j = i
    · subst hji
      refine Or.inr (Or.inr (Or.inl ⟨?_, hserved⟩))
      simp only [Function.update_self, hev]
    · rcases h.indices j hj with hstk | hjpop | ⟨hjev, hjs⟩ | ⟨t, ht⟩
      · exact Or.inl hstk
      · rw [hpop, Option.some_inj] at hjpop
        exact absurd hjpop.symm hji
      · refine Or.inr (Or.inr (Or.inl ⟨?_, hmono j hjs⟩))
        simp only [Function.update_of_ne hji, hjev]
      · exact Or.inr (Or.inr (Or.inr ⟨t, hworkers t _ ht⟩))

/-- The main thread takes a free index in hand. -/
lemma pop (h : Secure p) {i : ℕ} {stk : Tstack} (main : MainPc) (hmain : p.main = .idle)
    (hstk : p.threadStk.toList = i :: stk.toList) (hpop : main.popped = some i) :
    Secure { p with threadStk := stk, main := main } := by
  refine ⟨h.packets, fun j hj => ?_⟩
  rcases h.indices j hj with hm | hidle | hrest
  · rw [hstk, List.mem_cons] at hm
    rcases hm with rfl | hm
    · exact Or.inr (Or.inl hpop)
    · exact Or.inl hm
  · rw [hmain] at hidle
    cases hidle
  · exact Or.inr (Or.inr hrest)

/-- A worker moves on inside its loop; the events stay where they are. -/
lemma move (h : Secure p) {tid idx : ℕ} {old new : Phase} {threads : ℕ → Thread} {stk : Tstack}
    {handled : List (ℕ × List UInt8)} (hw : p.workers tid = some ⟨idx, old⟩) (hnew : new ≠ .leaving)
    (hth : ∀ j, (threads j).hasEvent = (p.threads j).hasEvent ∧ (threads j).ticket = (p.threads j).ticket)
    (hstk : ∀ j ∈ p.threadStk.toList, j ∈ stk.toList) (hclear : old = .cleared → idx ∈ stk.toList)
    (hhan : ∀ t ∈ handledTickets p.handled, t ∈ handledTickets handled) :
    Secure { p with
      threads := threads
      threadStk := stk
      workers := Function.update p.workers tid (some ⟨idx, new⟩)
      handled := handled } := by
  constructor
  · intro t ht hnot
    rcases h.packets t ht (fun hm => hnot (hhan t hm)) with hq | ⟨j, hj, hjt, hjs⟩
    · exact Or.inl hq
    · refine Or.inr ⟨j, ?_⟩
      simp only [hth j]
      exact ⟨hj, hjt, served_move hjs hw hnew⟩
  · intro j hj
    rcases h.indices j hj with hmem | hpop | ⟨hjev, hjs⟩ | ⟨t, ht⟩
    · exact Or.inl (hstk j hmem)
    · exact Or.inr (Or.inl hpop)
    · refine Or.inr (Or.inr (Or.inl ⟨?_, served_move hjs hw hnew⟩))
      simp only [hth j, hjev]
    · by_cases htt : t = tid
      · subst htt
        rw [hw, Option.some_inj, Worker.mk.injEq] at ht
        exact Or.inl (ht.1 ▸ hclear ht.2)
      · refine Or.inr (Or.inr (Or.inr ⟨t, ?_⟩))
        simp only [Function.update_of_ne htt, ht]

/-- The worker of a slot without an event leaves, or is gone. -/
lemma drop (h : Secure p) {tid idx : ℕ} {old : Phase} {x : Option Worker} {threads : ℕ → Thread}
    (hw : p.workers tid = some ⟨idx, old⟩) (hold : old ≠ .cleared)
    (hev : (p.threads idx).hasEvent = false) (hth : ∀ j, j ≠ idx → threads j = p.threads j) :
    Secure { p with
      threads := threads
      workers := Function.update p.workers tid x } := by
  have hne : ∀ j, (p.threads j).hasEvent = true → j ≠ idx := by
    rintro j hj rfl
    rw [hev] at hj
    exact Bool.noConfusion hj
  have hkeep : ∀ j, j ≠ idx → Served p.workers j → Served (Function.update p.workers tid x) j := by
    intro j hj hs
    refine served_other hs (fun w hw' he => hj ?_)
    rw [hw, Option.some_inj] at hw'
    rw [← he, ← hw']
  constructor
  · intro t ht hnot
    rcases h.packets t ht hnot with hq | ⟨j, hj, hjt, hjs⟩
    · exact Or.inl hq
    · refine Or.inr ⟨j, ?_⟩
      simp only [hth j (hne j hj)]
      exact ⟨hj, hjt, hkeep j (hne j hj) hjs⟩
  · intro j hj
    rcases h.indices j hj with hmem | hpop | ⟨hjev, hjs⟩ | ⟨t, ht⟩
    · exact Or.inl hmem
    · exact Or.inr (Or.inl hpop)
    · refine Or.inr (Or.inr (Or.inl ⟨?_, hkeep j (hne j hjev) hjs⟩))
      simp only [hth j (hne j hjev), hjev]
    · have htt : t ≠ tid := by
        rintro rfl
        rw [hw, Option.some_inj, Worker.mk.injEq] at ht
        exact hold ht.2
      refine Or.inr (Or.inr (Or.inr ⟨t, ?_⟩))
      simp only [Function.update_of_ne htt, ht]

/-- The handler is done: its packet counts as handled, its index is in the hands of the worker. -/
lemma clear (h : Secure p) (ht : TicketInv p) {tid idx : ℕ} {th : Thread} (freed : List ℕ)
    (hw : p.workers tid = some ⟨idx, .running⟩) :
    Secure { p with
      threads := Function.update p.threads idx th
      workers := Function.update p.workers tid (some ⟨idx, .cleared⟩)
      destroyed := freed } := by
  constructor
  · intro t hacc hnot
    rcases h.packets t hacc hnot with hq | ⟨j, hj, hjt, hjs⟩
    · exact Or.inl hq
    · have hji : j ≠ idx := by
        rintro rfl
        exact hnot (hjt ▸ (ht.running tid _ hw rfl).2)
      refine Or.inr ⟨j, ?_⟩
      simp only [Function.update_of_ne hji]
      exact ⟨hj, hjt, served_move hjs hw (by simp)⟩
  · intro j hj
    by_cases hji : j = idx
    · subst hji
      exact Or.inr (Or.inr (Or.inr ⟨tid, Function.update_self ..⟩))
    · rcases h.indices j hj with hmem | hpop | ⟨hjev, hjs⟩ | ⟨t, ht⟩
      · exact Or.inl hmem
      · exact Or.inr (Or.inl hpop)
      · refine Or.inr (Or.inr (Or.inl ⟨?_, served_move hjs hw (by simp)⟩))
        simp only [Function.update_of_ne hji, hjev]
      · have htt : t ≠ tid := by
          rintro rfl
          rw [hw] at ht
          cases ht
        refine Or.inr (Or.inr (Or.inr ⟨t, ?_⟩))
        simp only [Function.update_of_ne htt, ht]

lemma init (threadC : ℕ) (junk : ℕ → ℕ → UInt8) : Secure (initPool threadC junk) := by
  refine ⟨by simp [initPool], fun i hi => Or.inl ?_⟩
  rw [show (initPool threadC junk).threadStk = fillStk threadC from rfl, toList_fillStk]
  exact List.mem_range.mpr hi

/-- An online slot the main thread may write is served if its worker has not given up. -/
lemma served_of_online (hp : PoolInv p) {i : ℕ} (hon : (p.threads i).isOnline = true)
    (hben : ∀ tid, p.workers tid ≠ some ⟨i, .leaving⟩) : Served p.workers i := by
  obtain ⟨t, w, ht, rfl⟩ := hp.served i hon
  refine ⟨t, w, ht, rfl, fun hph => hben t ?_⟩
  rw [ht, ← hph]

/-- A slot whose worker has given up holds no event. -/
lemma idle_of_leaving (h : Secure p) (hp : PoolInv p) {tid idx : ℕ}
    (hw : p.workers tid = some ⟨idx, .leaving⟩) : (p.threads idx).hasEvent = false := by
  by_contra hev
  rw [Bool.not_eq_false] at hev
  exact not_accounted_of_leaving hp hw hev (h.indices idx (hp.tidLt tid _ hw).2)

lemma event_setOnline (p : Pool) (idx j : ℕ) :
    (Function.update p.threads idx { p.threads idx with isOnline := true } j).hasEvent =
        (p.threads j).hasEvent ∧
      (Function.update p.threads idx { p.threads idx with isOnline := true } j).ticket =
        (p.threads j).ticket := by
  by_cases hj : j = idx
  · subst hj
    simp
  · simp [hj]

theorem effect (h : Secure p) (hp : PoolInv p) (ht : TicketInv p) (hstop : p.stopEl = false)
    {act : PoolAct} {p' : Pool} (hspawn : ∀ i, ¬SpawnFails p act i) (hquiet : act ≠ .interrupt)
    (hben : BenignStep p act) (he : PoolEffect p act p') : Secure p' := by
  cases he with
  | enqueueFail n b alloc hmain hstk => exact ⟨h.packets, h.indices⟩
  | enqueue n b junk hmain hstk =>
    refine ⟨fun t hacc hnot => ?_, h.indices⟩
    have hl : sqeTickets (p.sqes.push (sqeNodeOf b (offsetofData + n) p.nextTicket junk)) =
        sqeTickets p.sqes ++ [p.nextTicket] := by
      simp [sqeTickets, Fifo.push, sqeNodeOf]
    rcases List.mem_cons.mp hacc with rfl | hacc
    · refine Or.inl ?_
      simp only [hl, List.mem_append, List.mem_singleton, or_true]
    · rcases h.packets t hacc hnot with hm | hslot
      · refine Or.inl ?_
        simp only [hl, List.mem_append, hm, true_or]
      · exact Or.inr hslot
  | popSubmit n b alloc i stk hmain hstk hok hcap =>
    exact ⟨h.packets, (h.pop (.submit i (offsetofData + n) b p.nextTicket) hmain hstk rfl).indices⟩
  | submitOnline i cpyLen b ticket create hmain hfree hon =>
    have hpop : p.main.popped = some i := by rw [hmain]; rfl
    exact h.write hp (submitStore (p.threads i) b cpyLen ticket) hpop rfl
      (served_of_online hp hon (fun tid => hben i tid hpop)) (fun _ _ hw => hw)
      (fun _ hm => Or.inr hm) (fun _ hm => List.mem_cons.mp hm)
  | submitSpawn i cpyLen b ticket hmain hfree hoff =>
    have hpop : p.main.popped = some i := by rw [hmain]; rfl
    exact h.write hp (submitStore (p.threads i) b cpyLen ticket) hpop rfl (served_self (by simp))
      (update_fresh hp _) (fun _ hm => Or.inr hm) (fun _ hm => List.mem_cons.mp hm)
  | submitNoThread i cpyLen b ticket create hmain hfree hoff hcreate =>
    exact absurd ⟨by rw [hmain]; rfl, hoff, create, hcreate, .inl rfl⟩ (hspawn i)
  | dispatchBusy hmain hstk => exact h
  | popDispatch i stk hmain hque hstk hok hcap => exact h.pop (.dispatch i) hmain hstk rfl
  | dispatchOnline i create node que hmain hfree hque hon =>
    have hpop : p.main.popped = some i := by rw [hmain]; rfl
    exact h.write hp (dispatchStore (p.threads i) node) hpop rfl
      (served_of_online hp hon (fun tid => hben i tid hpop)) (fun _ _ hw => hw)
      (by simp [sqeTickets, hque, dispatchStore]) (fun _ hm => Or.inr hm)
  | dispatchSpawn i node que hmain hfree hque hoff =>
    have hpop : p.main.popped = some i := by rw [hmain]; rfl
    exact h.write hp (dispatchStore (p.threads i) node) hpop rfl (served_self (by simp))
      (update_fresh hp _) (by simp [sqeTickets, hque, dispatchStore]) (fun _ hm => Or.inr hm)
  | dispatchNoThread i create node que hmain hfree hque hoff hcreate =>
    exact absurd ⟨by rw [hmain]; rfl, hoff, create, hcreate, .inr rfl⟩ (hspawn i)
  | dispatchPanic i create hmain hque => exact absurd hque (hp.queued i hmain)
  | startRun tid idx old hw hold hfree hev =>
    refine h.move hw (by simp) (event_setOnline p idx) (fun _ hm => hm) ?_ (fun _ hm => List.mem_cons_of_mem _ hm)
    rintro rfl
    simp at hold
  | startWait tid idx old hw hold hfree hev =>
    refine h.move hw (by simp) (event_setOnline p idx) (fun _ hm => hm) ?_ (fun _ hm => hm)
    rintro rfl
    simp at hold
  | wakeLeave tid idx counter ret hw hfree hout =>
    rw [hstop] at hout
    obtain ⟨hret, rfl⟩ : ret ≠ 0 ∧ counter = 300 := by simpa using hout
    exact h.drop hw (by simp) (hben idx hw hret) (fun _ _ => rfl)
  | wakeRun tid idx counter ret hw hfree hstay hev =>
    exact h.move hw (by simp) (fun _ => ⟨rfl, rfl⟩) (fun _ hm => hm) (by simp)
      (fun _ hm => List.mem_cons_of_mem _ hm)
  | wakeWait tid idx counter next ret hw hfree hstay hev =>
    exact h.move hw (by simp) (fun _ => ⟨rfl, rfl⟩) (fun _ hm => hm) (by simp) (fun _ hm => hm)
  | finishLeave tid idx hw hgo => rw [hstop] at hgo; cases hgo
  | finishClear tid idx hw hgo => exact h.clear ht _ hw
  | push tid idx hw =>
    have hl := hp.toList_push hw
    refine h.move hw (by simp) (fun _ => ⟨rfl, rfl⟩) ?_ ?_ (fun _ hm => hm)
    · rw [hl]
      exact fun _ hm => List.mem_cons_of_mem _ hm
    · rw [hl]
      exact fun _ => List.mem_cons_self
  | unlock tid idx hw =>
    exact h.move hw (by simp) (fun _ => ⟨rfl, rfl⟩) (fun _ hm => hm) (by simp) (fun _ hm => hm)
  | reset tid idx hw =>
    exact h.drop hw (by simp) (h.idle_of_leaving hp hw) (fun j hj => Function.update_of_ne hj ..)
  | interrupt => exact absurd rfl hquiet

end Secure

/-- Along a run with no interrupt in which every thread is created, no accepted packet and no
worker index is ever lost exactly when each step is benign. -/
theorem pool_noLoss_iff_benign (threadC : ℕ) (junk : ℕ → ℕ → UInt8) (acts : List PoolAct) (p : Pool)
    (hquiet : ∀ act ∈ acts, QuietAct act) (hrun : run poolStep (initPool threadC junk) acts = some p) :
    Always poolStep NoLoss (initPool threadC junk) acts ↔
      EachStep poolStep BenignStep (initPool threadC junk) acts := by
  refine always_iff_eachStep (fun p => PoolInv p ∧ TicketInv p ∧ p.stopEl = false)
    (A := QuietAct) ?_ ?_ hquiet ?_ ?_ hrun
  · rintro q act q' hq ⟨hp, ht, hstop⟩ hstep
    have he := poolStep_effect hp.stkOk hstep
    exact ⟨hp.effect he, ht.effect hp he, (poolEffect_stopEl he hq.ne_interrupt).trans hstop⟩
  · rintro q act q' hq ⟨hp, ht, hstop⟩ hgood hstep
    have he := poolStep_effect hp.stkOk hstep
    refine ⟨fun h => benign_of_accounted hp he h.indices, fun hben => (noLoss_iff (ht.effect hp he)).mpr ?_⟩
    exact ((noLoss_iff ht).mp hgood).effect hp ht hstop hq.spawns hq.ne_interrupt hben he
  · exact ⟨PoolInv.init threadC junk, TicketInv.init threadC junk, rfl⟩
  · exact (noLoss_iff (TicketInv.init threadC junk)).mpr (Secure.init threadC junk)

/-- One packet goes straight to a new worker. -/
def oneRun : List PoolAct := [.submitEvent 0 (Buf.fresh (fun _ => 0)) none, .submitToThread 0, .start 0]

theorem pool_noLoss_oneRun : Always poolStep NoLoss (initPool 1 (fun _ _ => 0)) oneRun := by
  refine (pool_noLoss_iff_benign 1 (fun _ _ => 0) oneRun _ (by simp [oneRun, QuietAct]) rfl).mpr ?_
  refine ⟨trivial, fun q hq => ⟨?_, fun q' _ => ⟨trivial, fun _ _ => trivial⟩⟩⟩
  obtain rfl := Option.some_inj.mp hq
  intro i tid _ hlv
  cases hlv

/-! ### A run that loses a packet -/

lemma evLockFree_moveWorker {p : Pool} {i tid idx : ℕ} {phase : Phase} (h : p.evLockFree i = true)
    (hphase : phase.holdsEvLock = false) : (p.moveWorker tid idx phase).evLockFree i = true := by
  simp only [Pool.evLockFree, Pool.moveWorker, List.all_eq_true] at h ⊢
  intro t ht
  by_cases htt : t = tid
  · subst htt
    simp [hphase]
  · simpa [htt] using h t ht

/-- `n` time-outs of an idle worker only count up. -/
lemma run_timeouts {p : Pool} (tid idx : ℕ) {c : ℕ} (n : ℕ) (hab : p.aborted = false) (hstop : p.stopEl = false)
    (hw : p.workers tid = some ⟨idx, .waiting c⟩) (hfree : p.evLockFree idx = true)
    (hev : (p.threads idx).hasEvent = false) (hle : c + n ≤ 300) :
    run poolStep p (List.replicate n (.wake tid 1)) = some (p.moveWorker tid idx (.waiting (c + n))) := by
  induction n generalizing p c with
  | zero =>
    have hself : p.moveWorker tid idx (.waiting c) = p := by
      rw [Pool.moveWorker, ← hw, Function.update_eq_self]
    rw [List.replicate_zero, run_nil, Nat.add_zero, hself]
  | succ n ih =>
    have hc : c ≠ 300 := by omega
    have hstep : poolStep p (.wake tid 1) = some (p.moveWorker tid idx (.waiting (c + 1))) := by
      simp [poolStep, workerWake, hab, hw, hfree, hc, hstop, hev]
    rw [List.replicate_succ, run_cons]
    refine ⟨_, hstep, ?_⟩
    have hrest := ih (p := p.moveWorker tid idx (.waiting (c + 1))) (c := c + 1) hab hstop
      (Function.update_self ..) (evLockFree_moveWorker hfree rfl) hev (by omega)
    rw [hrest]
    simp [Pool.moveWorker, Nat.add_comm, Nat.add_left_comm]

/-- Worker 0 has handled a packet and waits again. -/
def idleRun : List PoolAct := oneRun ++ [.finish 0, .push 0, .unlock 0, .start 0]

/-- The worker times out 300 times, the main thread hands it a packet, and the worker's next
wait ends with a time-out as well. -/
def lossRun : List PoolAct :=
  idleRun ++ (List.replicate 300 (.wake 0 1) ++
    [.submitEvent 0 (Buf.fresh (fun _ => 0)) none, .submitToThread 0, .wake 0 1])

def idlePool : Pool := (run poolStep (initPool 1 (fun _ _ => 0)) idleRun).getD (initPool 1 (fun _ _ => 0))

theorem pool_loses_packet : (∀ act ∈ lossRun, QuietAct act) ∧
    ∃ p, run poolStep (initPool 1 (fun _ _ => 0)) lossRun = some p ∧ 1 ∈ p.accepted ∧
      1 ∉ handledTickets p.handled ∧ (¬∃ place, Holds p 1 place) ∧ ¬NoLoss p := by
  have hquiet : ∀ act ∈ lossRun, QuietAct act := by
    intro act hact
    simp only [lossRun, idleRun, oneRun, List.mem_append, List.mem_cons, List.mem_replicate,
      List.not_mem_nil, or_false] at hact
    rcases hact with ((rfl | rfl | rfl) | rfl | rfl | rfl | rfl) | ⟨-, rfl⟩ | rfl | rfl | rfl <;>
      simp [QuietAct]
  refine ⟨hquiet, ?_⟩
  have hidle : run poolStep (initPool 1 (fun _ _ => 0)) idleRun = some idlePool := rfl
  have hwait := run_timeouts (p := idlePool) 0 0 (c := 0) 300 rfl rfl rfl rfl rfl (by omega)
  obtain ⟨p, hlost, hacc, hhan, hsqes, hslot, hticket, hworker⟩ :
      ∃ p, run poolStep (idlePool.moveWorker 0 0 (.waiting (0 + 300)))
        [.submitEvent 0 (Buf.fresh (fun _ => 0)) none, .submitToThread 0, .wake 0 1] = some p ∧
        p.accepted = [1, 0] ∧ handledTickets p.handled = [0] ∧ p.sqes.items = [] ∧
        (p.threads 0).hasEvent = true ∧ (p.threads 0).ticket = 1 ∧
        p.workers 0 = some ⟨0, .leaving⟩ := ⟨_, rfl, rfl, rfl, rfl, rfl, rfl, rfl⟩
  have hrun : run poolStep (initPool 1 (fun _ _ => 0)) lossRun = some p :=
    run_append.mpr ⟨_, hidle, run_append.mpr ⟨_, hwait, hlost⟩⟩
  obtain ⟨⟨hp, ht⟩, -⟩ := poolInv_of_reachable ⟨lossRun, hrun⟩
  have hindex := not_accounted_of_leaving hp hworker hslot
  refine ⟨p, hrun, by simp [hacc], by simp [hhan], ?_, fun h => hindex (h.indices 0 (hp.tidLt 0 _ hworker).2)⟩
  rintro ⟨place, hplace⟩
  cases place with
  | sqe k => simp [Holds, sqeTickets, hsqes] at hplace
  | slot i =>
    obtain rfl := ht.slotsDistinct i 0 hplace.1 hslot (hplace.2.1.trans hticket.symm)
    exact not_served (fun t w htw hi => hp.unique t 0 w _ htw hworker hi) hworker hplace.2.2

end GNUWeebBot.Proofs
