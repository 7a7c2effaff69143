import GNUWeebBot.Proofs.Connections

/-!
# The timeout of the clients

`monitor_client_time` only shuts down connections that are older than ten seconds, and once all events of
the same turn of the loop are handled no connection that was too old is left.
-/

namespace GNUWeebBot.Proofs
open Transition

section

variable {s s' : Server}

lemma serverStep_tcp_rest {env : AcceptEnv} (hstep : serverStep s (.tcpEvent env) = some s')
    (hall : dropsEvents s (.tcpEvent env) = false) :
    ∃ errMask, s.batch = (s.net.tcpFd, errMask) :: s'.batch := by
  unfold serverStep at hstep
  split at hstep
  · cases hstep
  · simp only at hstep
    split at hstep
    · rename_i fd errMask rest hbatch
      split at hstep
      · rename_i hg
        cases hstep
        refine ⟨errMask, hbatch.trans ?_⟩
        rw [hg.2.1]
        congr 1
        cases rest with
        | nil =>
          unfold Server.afterTcpEvent
          split
          · rfl
          · split <;> rfl
        | cons e rest =>
          simp only [dropsEvents, hbatch, bne_eq_false_iff_eq] at hall
          unfold Server.afterTcpEvent
          rw [if_pos hall]
      · cases hstep
    · cases hstep

/-- A descriptor with an error event stays in the batch until it is closed. -/
lemma error_event_stays (h : ServerInv s) {act : ServerAct} (hstep : serverStep s act = some s')
    (hwait : ∀ events, act ≠ .epollWait events) (hall : dropsEvents s act = false) {fd : ℕ}
    (hfd : fd ≠ s.net.tcpFd) (hmem : (fd, true) ∈ s.batch) : (fd, true) ∈ s'.batch ∨ fd ∉ s'.net.openFds := by
  have hclosed : ∀ (net : Net) (i : ℕ), fd ∉ (net.outClose fd i).openFds := by
    intro net i hin
    simp only [Net.outClose, Net.close, Net.setChan, List.mem_filter, bne_self_eq_false, Bool.false_eq_true,
      and_false] at hin
  cases h.toEffect hstep with
  | wait events hmain hbatch hok => exact absurd rfl (hwait events)
  | tcp env errMask rest batch ret net stop hmain hbatch hacc heff hrest hstop =>
    obtain ⟨e, hb⟩ := serverStep_tcp_rest hstep hall
    rw [hb, List.mem_cons, Prod.mk.injEq] at hmem
    exact Or.inl (hmem.resolve_left (fun he => hfd he.1))
  | panic recv alloc fd' errMask rest hbatch hfd' hmap => exact absurd hmap (h.head_mapped hbatch hfd')
  | client recv alloc fd' errMask rest net hmain hbatch hfd' hrecv hmap heff =>
    rw [hbatch, List.mem_cons, Prod.mk.injEq] at hmem
    rcases hmem with ⟨rfl, rfl⟩ | hin
    · right
      cases heff with
      | again herr => cases herr
      | hangup recv hout => exact hclosed _ _
      | more bytes herr hne hw => cases herr
      | reject bytes herr hne hrej => cases herr
    · exact Or.inl hin
  | enqueue recv alloc fd' errMask rest n net pool hmain hbatch hfd' hrecv hmap heff hpool hidle =>
    rw [hbatch, List.mem_cons, Prod.mk.injEq] at hmem
    rcases hmem with ⟨rfl, rfl⟩ | hin
    · exact Or.inr (hclosed _ _)
    · exact Or.inl hin
  | store recv alloc fd' errMask rest n net pool hmain hbatch hfd' hrecv hmap heff hpool hpop =>
    rw [hbatch, List.mem_cons, Prod.mk.injEq] at hmem
    rcases hmem with ⟨rfl, rfl⟩ | hin
    · cases heff with
      | complete bytes herr hne hcomp => cases herr
    · exact Or.inl hin
  | submitted create fd' j pool hpend hpool => exact Or.inl hmem
  | other act pool hsubmit hstore hpool => exact Or.inl hmem

end

/-! ### The invariant of the timed server -/

structure TimedInv (t : Timed) : Prop where
  server : ServerInv t.server
  fds : FdsInv t.server.net
  shut : ∀ fd ∈ t.shut, ∃ i tv, connection (t.server.net.chans i) = some (fd, tv) ∧ 10 < t.clock - tv
  turn : ∀ now, t.turn = some now → now = t.clock
  due : ∀ now, t.turn = some now → ∀ i tv, ∀ fd : ℕ,
    connection (t.server.net.chans i) = some ((fd : ℤ), tv) → 10 < now - tv → (fd, true) ∈ t.server.batch

/-- An online channel has a descriptor that is open and not the listening socket. -/
lemma connection_open {net : Net} (h : FdsInv net) (hn : NetInv net) {i : ℕ} {fd tv : ℤ}
    (hc : connection (net.chans i) = some (fd, tv)) :
    i < net.threadC ∧ ∃ k : ℕ, fd = k ∧ k ∈ net.openFds ∧ k ≠ net.tcpFd := by
  obtain ⟨hon, hfd, -⟩ := connection_eq_some.mp hc
  obtain ⟨hlt, k, hk, hmap⟩ := hn.online i hon
  refine ⟨hlt, k, hfd.symm.trans hk, (h.mem_openFds hn k).mpr (Or.inr ⟨i, hlt, hon, hk⟩), ?_⟩
  rintro rfl
  rw [hn.tcpNop, EPL_MAP_TO_NOP, EPL_MAP_SHIFT] at hmap
  omega

lemma mem_monitorClientTime {net : Net} {now fd : ℤ} (hn : NetInv net) :
    fd ∈ monitorClientTime net now ↔ ∃ i tv, connection (net.chans i) = some (fd, tv) ∧ 10 < now - tv := by
  unfold monitorClientTime
  rw [List.mem_map]
  constructor
  · rintro ⟨i, hi, rfl⟩
    rw [List.mem_filter, decide_eq_true_eq] at hi
    exact ⟨i, _, connection_eq_some.mpr ⟨(mem_onlineSlots.mp hi.1).2, rfl, rfl⟩, hi.2⟩
  · rintro ⟨i, tv, hc, hage⟩
    obtain ⟨hon, hfd, rfl⟩ := connection_eq_some.mp hc
    refine ⟨i, ?_, hfd⟩
    rw [List.mem_filter, decide_eq_true_eq, mem_onlineSlots]
    exact ⟨⟨(hn.online i hon).1, hon⟩, hage⟩

namespace TimedInv

variable {t : Timed}

lemma init {threadC : ℕ} (tcpFd : ℕ) (chanJunk threadJunk : ℕ → ℕ → UInt8) (hc : threadC ≤ 0xffff) :
    TimedInv (initTimed threadC tcpFd chanJunk threadJunk) where
  server := ServerInv.init tcpFd chanJunk threadJunk hc
  fds := FdsInv.init threadC tcpFd chanJunk
  shut := fun fd hfd => absurd hfd List.not_mem_nil
  turn := fun now h => by cases h
  due := fun now h => by cases h

/-- What `monitor_client_time` leaves to `epoll_wait`. -/
lemma beforeWait_spec (h : TimedInv t) {gettimeofday : Except ℤ ℤ} {shut : List ℤ} {clock : ℤ} {time : Option ℤ}
    (hb : beforeWait t gettimeofday = (shut, clock, time)) (hclock : t.clock ≤ clock) :
    (∀ fd ∈ shut, ∃ i tv, connection (t.server.net.chans i) = some (fd, tv) ∧ 10 < clock - tv) ∧
      ∀ now, time = some now → now = clock ∧
        ∀ i fd tv, connection (t.server.net.chans i) = some (fd, tv) → 10 < now - tv → fd ∈ shut := by
  have hold : ∀ c, t.clock ≤ c → ∀ fd ∈ t.shut,
      ∃ i tv, connection (t.server.net.chans i) = some (fd, tv) ∧ 10 < c - tv := by
    intro c hc fd hfd
    obtain ⟨i, tv, hi, hage⟩ := h.shut fd hfd
    exact ⟨i, tv, hi, by omega⟩
  have hskip : beforeWait t gettimeofday = (t.shut, t.clock, none) →
      (∀ fd ∈ shut, ∃ i tv, connection (t.server.net.chans i) = some (fd, tv) ∧ 10 < clock - tv) ∧
      ∀ now, time = some now → now = clock ∧
        ∀ i fd tv, connection (t.server.net.chans i) = some (fd, tv) → 10 < now - tv → fd ∈ shut := by
    intro he
    rw [hb, Prod.mk.injEq, Prod.mk.injEq] at he
    obtain ⟨rfl, rfl, rfl⟩ := he
    exact ⟨hold _ le_rfl, fun now hnow => by cases hnow⟩
  by_cases hfull : tssCount t.server.net.chanStk ≠ t.server.net.chanStk.capacity
  · cases gettimeofday with
    | error err => exact hskip (by simp only [beforeWait, if_pos hfull])
    | ok now =>
      simp only [beforeWait, if_pos hfull, Prod.mk.injEq] at hb
      obtain ⟨rfl, rfl, rfl⟩ := hb
      refine ⟨fun fd hfd => ?_, fun k hk => ?_⟩
      · rcases List.mem_append.mp hfd with hnew | hin
        · exact (mem_monitorClientTime h.server.net).mp hnew
        · exact hold _ hclock fd hin
      · rw [Option.some_inj] at hk
        refine ⟨hk.symm, fun i fd tv hi hage => List.mem_append_left _ ?_⟩
        exact (mem_monitorClientTime h.server.net).mpr ⟨i, tv, hi, hk ▸ hage⟩
  · exact hskip (by simp only [beforeWait, if_neg hfull])

lemma turnStep (h : TimedInv t) {gettimeofday : Except ℤ ℤ} {events : List (ℕ × Bool)} {t' : Timed}
    (hstep : timedStep t (.turn gettimeofday events) = some t') : TimedInv t' := by
  rcases hb : beforeWait t gettimeofday with ⟨shut, clock, time⟩
  simp only [timedStep, hb] at hstep
  split at hstep
  · rename_i hg
    obtain ⟨server, hserver, rfl⟩ := Option.map_eq_some_iff.mp hstep
    obtain ⟨hshut, htime⟩ := h.beforeWait_spec hb hg.1
    have hinv := h.server.effect (h.server.toEffect hserver)
    cases h.server.toEffect hserver with
    | wait _ hmain hbatch hok =>
      refine ⟨hinv, h.fds, hshut, fun now hnow => ?_, fun now hnow i tv fd hc hage => ?_⟩
      · simp only at hnow
        split at hnow
        · exact (htime now hnow).1
        · cases hnow
      · simp only at hnow
        split at hnow
        · rename_i hlen
          have hin : (fd : ℤ) ∈ shut := (htime now hnow).2 i fd tv hc hage
          obtain ⟨e, he, hfd⟩ := List.mem_map.mp (hg.2.2 hlen fd hin)
          have herr : e.2 = true := hg.2.1 e he (hfd ▸ hin)
          have heq : e = (fd, true) := Prod.ext (Int.ofNat_inj.mp hfd) herr
          exact heq ▸ he
        · cases hnow
  · cases hstep

lemma actStep (h : TimedInv t) {act : ServerAct} {server : Server} (hwait : ∀ events, act ≠ .epollWait events)
    (hclock : ClockOk t.clock act) (hserver : serverStep t.server act = some server) :
    TimedInv
      { server := server
        shut := t.shut.filter (fun fd => server.net.openFds.contains fd.toNat)
        clock := t.clock
        turn := if dropsEvents t.server act then none else t.turn } := by
  have heff := h.server.toEffect hserver
  have hinv := h.server.effect heff
  have hchange := connChange_of_step h.server hserver
  have hfds := h.fds.change (serverEffect_config heff).2 hchange
  refine ⟨hinv, hfds, fun fd hfd => ?_, fun now hnow => ?_, fun now hnow i tv fd hc hage => ?_⟩
  · rw [List.mem_filter, List.contains_iff_mem] at hfd
    obtain ⟨i, tv, hc, hage⟩ := h.shut fd hfd.1
    obtain ⟨-, k, rfl, -, -⟩ := connection_open h.fds h.server.net hc
    refine ⟨i, tv, ?_, hage⟩
    cases hchange with
    | keep hconn hopen => exact (hconn i).trans hc
    | opened env fd' j tv' hact htv hnew hoff hconn hopen =>
      have hij : i ≠ j := by
        rintro rfl
        rw [hoff] at hc
        cases hc
      exact (hconn i).trans ((if_neg hij).trans hc)
    | closed fd' j tv' hwas hconn hopen =>
      have hij : i ≠ j := by
        rintro rfl
        rw [hwas, Option.some_inj, Prod.mk.injEq, Int.ofNat_inj] at hc
        rw [hopen, hc.1, Int.toNat_natCast, List.mem_filter, bne_self_eq_false] at hfd
        exact Bool.noConfusion hfd.2.2
      exact (hconn i).trans ((if_neg hij).trans hc)
  · simp only at hnow
    split at hnow
    · cases hnow
    · exact h.turn now hnow
  · simp only at hnow
    split at hnow
    · cases hnow
    · rename_i hall
      rw [Bool.not_eq_true] at hall
      -- a connection that is too old was there before, since the clock does not go back
      have hold : connection (t.server.net.chans i) = some ((fd : ℤ), tv) := by
        cases hchange with
        | keep hconn hopen => exact (hconn i).symm.trans hc
        | opened env fd' j tv' hact htv hnew hoff hconn hopen =>
          have hle : t.clock ≤ tv' := by
            rw [hact] at hclock
            exact hclock tv' (by rw [htv]; rfl)
          have hij : i ≠ j := by
            rintro rfl
            have he := (hconn i).symm.trans hc
            rw [if_pos rfl, Option.some_inj, Prod.mk.injEq] at he
            have := h.turn now hnow
            omega
          exact (if_neg hij).symm.trans ((hconn i).symm.trans hc)
        | closed fd' j tv' hwas hconn hopen =>
          have hij : i ≠ j := by
            rintro rfl
            have he := (hconn i).symm.trans hc
            rw [if_pos rfl] at he
            cases he
          exact (if_neg hij).symm.trans ((hconn i).symm.trans hc)
      obtain ⟨-, k, hk, -, hne⟩ := connection_open h.fds h.server.net hold
      obtain rfl : fd = k := Int.ofNat_inj.mp hk
      refine (error_event_stays h.server hserver hwait hall hne (h.due now hnow i tv fd hold hage)).resolve_right ?_
      obtain ⟨-, k, hk, hopen, -⟩ := connection_open hfds hinv.net hc
      exact fun hclosed => hclosed ((Int.ofNat_inj.mp hk).symm ▸ hopen)

lemma step (h : TimedInv t) {act : TimedAct} {t' : Timed} (hstep : timedStep t act = some t') : TimedInv t' := by
  cases act with
  | turn gettimeofday events => exact h.turnStep hstep
  | server act =>
    cases act with
    | epollWait events => cases hstep
    | _ =>
      simp only [timedStep] at hstep
      split at hstep
      · rename_i hclock
        obtain ⟨server, hserver, rfl⟩ := Option.map_eq_some_iff.mp hstep
        exact h.actStep (fun events => by simp) hclock hserver
      · cases hstep

end TimedInv

/-- The server of a timed run is the server of a run. -/
lemma timedStep_server {t t' : Timed} {act : TimedAct} (hstep : timedStep t act = some t') :
    ∃ a, serverStep t.server a = some t'.server := by
  cases act with
  | turn gettimeofday events =>
    rcases hb : beforeWait t gettimeofday with ⟨shut, clock, time⟩
    simp only [timedStep, hb] at hstep
    split at hstep
    · obtain ⟨server, hserver, rfl⟩ := Option.map_eq_some_iff.mp hstep
      exact ⟨_, hserver⟩
    · cases hstep
  | server act =>
    cases act with
    | epollWait events => cases hstep
    | _ =>
      simp only [timedStep] at hstep
      split at hstep
      · obtain ⟨server, hserver, rfl⟩ := Option.map_eq_some_iff.mp hstep
        exact ⟨_, hserver⟩
      · cases hstep

/-- `monitor_client_time` shuts down clients only, and only those that are older than ten seconds; once the events
of its turn are handled, none of them dropped, no such client is left. It is skipped only if there is no client. -/
theorem clients_time_out (threadC tcpFd : ℕ) (chanJunk threadJunk : ℕ → ℕ → UInt8) (hc : threadC ≤ 0xffff)
    (t : Timed) (hreach : Reachable timedStep (initTimed threadC tcpFd chanJunk threadJunk) t) :
    (∀ fd ∈ t.shut, fd ≠ tcpFd ∧ ∃ i < threadC, (t.server.net.chans i).isOnline = true ∧
      (t.server.net.chans i).chanFd = fd ∧ 10 < t.clock - (t.server.net.chans i).acceptedAt) ∧
    (∀ now, t.turn = some now → t.server.batch = [] → ∀ i < threadC, (t.server.net.chans i).isOnline = true →
      now - (t.server.net.chans i).acceptedAt ≤ 10) ∧
    (tssCount t.server.net.chanStk = t.server.net.chanStk.capacity →
      ∀ i < threadC, (t.server.net.chans i).isOnline = false) := by
  obtain ⟨h, hC, hT⟩ : TimedInv t ∧ t.server.net.threadC = threadC ∧ t.server.net.tcpFd = tcpFd := by
    refine reachable_preserves (fun t => TimedInv t ∧ t.server.net.threadC = threadC ∧ t.server.net.tcpFd = tcpFd)
      ?_ ⟨TimedInv.init tcpFd chanJunk threadJunk hc, rfl, rfl⟩ hreach
    rintro q act q' ⟨hq, hqc, hqt⟩ hstep
    obtain ⟨a, ha⟩ := timedStep_server hstep
    obtain ⟨hc', ht'⟩ := serverEffect_config (hq.server.toEffect ha)
    exact ⟨hq.step hstep, hc'.trans hqc, ht'.trans hqt⟩
  subst hC hT
  refine ⟨fun fd hfd => ?_, fun now hnow hdone i _ hon => ?_, fun hfull i hi => ?_⟩
  · obtain ⟨i, tv, hconn, hage⟩ := h.shut fd hfd
    obtain ⟨hlt, k, rfl, -, hne⟩ := connection_open h.fds h.server.net hconn
    obtain ⟨hon, hchan, rfl⟩ := connection_eq_some.mp hconn
    exact ⟨fun he => hne (Int.ofNat_inj.mp he), i, hlt, hon, hchan, hage⟩
  · by_contra hage
    obtain ⟨-, fd, hfd, -⟩ := h.server.net.online i hon
    have hdue := h.due now hnow i _ fd (connection_eq_some.mpr ⟨hon, hfd, rfl⟩) (by omega)
    rw [hdone] at hdue
    exact List.not_mem_nil hdue
  · by_contra hon
    have hmem : i ∉ t.server.net.chanStk.toList := fun hin => hon (h.server.net.stkOffline i hin).2
    have hlt := length_lt_of_nodup_of_not_mem h.server.net.stkNodup
      (fun j hj => (h.server.net.stkOffline j hj).1) hi hmem
    rw [Tstack.toList_length, hfull, h.server.net.stkCapacity] at hlt
    exact lt_irrefl _ hlt

/-- A client that connected at time 0 is shut down at time 11 and closed in the same turn. -/
def overdueRun : List TimedAct :=
  [.turn (.ok 0) [(3, false)], .server (.tcpEvent (acceptEnv 5)), .turn (.ok 11) [(5, true)]]

theorem clients_time_out_overdueRun :
    ∃ t t', run timedStep (initTimed 2 3 (fun _ _ => 0) (fun _ _ => 0)) overdueRun = some t ∧
      timedStep t (.server (.clientEvent (.ok []) none)) = some t' ∧
      t.shut = [5] ∧ (∃ i < 2, (t.server.net.chans i).isOnline = true ∧ (t.server.net.chans i).chanFd = 5) ∧
      ∀ i < 2, (t'.server.net.chans i).isOnline = true → 11 - (t'.server.net.chans i).acceptedAt ≤ 10 := by
  obtain ⟨t, t', hrun, hstep, hshut, hturn, hbatch⟩ :
      ∃ t t', run timedStep (initTimed 2 3 (fun _ _ => 0) (fun _ _ => 0)) overdueRun = some t ∧
        timedStep t (.server (.clientEvent (.ok []) none)) = some t' ∧
        t.shut = [5] ∧ t'.turn = some 11 ∧ t'.server.batch = [] := ⟨_, _, rfl, rfl, rfl, rfl, rfl⟩
  have hrun' : run timedStep (initTimed 2 3 (fun _ _ => 0) (fun _ _ => 0))
      (overdueRun ++ [.server (.clientEvent (.ok []) none)]) = some t' :=
    run_append.mpr ⟨t, hrun, run_cons.mpr ⟨t', hstep, rfl⟩⟩
  have h := clients_time_out 2 3 (fun _ _ => 0) (fun _ _ => 0) (by decide) t ⟨_, hrun⟩
  have h' := clients_time_out 2 3 (fun _ _ => 0) (fun _ _ => 0) (by decide) t' ⟨_, hrun'⟩
  obtain ⟨-, i, hi, hon, hfd, -⟩ := h.1 5 (by rw [hshut]; exact List.mem_singleton_self 5)
  exact ⟨t, t', hrun, hstep, hshut, ⟨i, hi, hon, hfd⟩, h'.2.1 11 hturn hbatch⟩

end GNUWeebBot.Proofs
