import GNUWeebBot.Model.Startup
import GNUWeebBot.Proofs.Connections
import GNUWeebBot.Proofs.Nodes

/-!
# What the startup takes and the teardown gives back

`Standing` is what `destroy_state` relies on: every block, descriptor and lock that is taken is where it looks for it. Each
call of the startup keeps that, also where it fails, but for the calls that build the arrays of the channels and the threads.
-/

namespace GNUWeebBot.Startup
open Fill Transition Proofs

/-- The arrays of the channels and of the threads can be built. -/
structure TablesBuilt (cfg : GwbotCfg) (env : StartEnv) : Prop where
  chans : env.alloc .chans = true
  threads : env.alloc .threads = true
  evLock : ∀ i < cfg.threadC, env.pthreadInit (.evLock i) = 0
  evCond : ∀ i < cfg.threadC, env.pthreadInit (.evCond i) = 0

/-- Nothing fails in `init_state`. -/
structure StateBuilt (cfg : GwbotCfg) (env : StartEnv) : Prop where
  tables : TablesBuilt cfg env
  eplMap : env.alloc .eplMap = true
  chanStk : env.alloc .chanStk = true
  threadStk : env.alloc .threadStk = true
  sqeLock : env.pthreadInit .sqeLock = 0
  cqeLock : env.pthreadInit .cqeLock = 0
  logLock : env.pthreadInit .logLock = 0
  logCond : env.pthreadInit .logCond = 0
  threadStkLock : env.pthreadInit .threadStkLock = 0

/-! ### The calls -/

section Calls

variable {R : ℤ → Host → Prop} {h : Host}

lemma wp_setSt (f : GwbotState → GwbotState) {Q : Unit → Host → Prop} :
    wp (setSt f) Q R h ↔ Q () { h with st := f h.st } := Iff.rfl

lemma wp_calloc (ok : Bool) (code : ℤ) {Q : ℕ → Host → Prop} :
    wp (calloc ok code) Q R h ↔
      (ok = true → Q h.heap.obtained { h with heap := h.heap.obtain.2 }) ∧ (ok = false → R code h) := by
  cases ok with
  | true => exact ⟨fun hq => ⟨fun _ => hq, nofun⟩, fun hq => hq.1 rfl⟩
  | false => exact ⟨fun hr => ⟨nofun, fun _ => hr⟩, fun hr => hr.2 rfl⟩

/-- The host after `gw_mutex_init`. -/
def guarded (h : Host) (guard : Guard) (ok : Bool) : Host :=
  { h with
    st := { h.st with needDestroy := Function.update h.st.needDestroy guard true }
    live := Function.update h.live guard ok }

lemma wp_guardInit (guard : Guard) (ret : ℤ) {Q : Unit → Host → Prop} :
    wp (guardInit guard ret) Q R h ↔
      (ret = 0 → Q () (guarded h guard true)) ∧ (ret ≠ 0 → R (-(ret.natAbs : ℤ)) (guarded h guard false)) := by
  unfold guardInit
  by_cases hret : ret = 0
  · simp [hret, guarded]
  · simp [hret, guarded]

/-- Every descriptor that is closed was open, and the others stay. -/
lemma wp_closeEach (closed : List ℤ) {rest : List ℤ} {Q : List Unit → Host → Prop} (hnodup : h.fds.Nodup)
    (hfds : (h.fds.map (fun fd : ℕ => (fd : ℤ))).Perm (closed ++ rest))
    (hQ : ∀ units fds, fds.Nodup → (fds.map (fun fd : ℕ => (fd : ℤ))).Perm rest → Q units { h with fds := fds }) :
    wp (each close closed) Q R h := by
  induction closed generalizing h Q with
  | nil => exact hQ [] h.fds hnodup hfds
  | cons fd closed ih =>
    have hmem : fd ∈ h.fds.map (fun k : ℕ => (k : ℤ)) := hfds.mem_iff.mpr List.mem_cons_self
    obtain ⟨k, hk, rfl⟩ := List.mem_map.mp hmem
    have hsame : (fun k' : ℕ => (k' : ℤ) != k) = fun k' => k' != k := by
      funext k'
      rw [Bool.eq_iff_iff, bne_iff_ne, bne_iff_ne, Ne, Int.ofNat_inj]
    have hclose : close (k : ℤ) h = .next () { h with fds := h.fds.filter (fun k' : ℕ => (k' : ℤ) != k) } := if_pos hmem
    have hrest : h.fds.Perm (k :: h.fds.filter (fun k' : ℕ => (k' : ℤ) != k)) := by
      have herase := List.perm_cons_erase hk
      rwa [hnodup.erase_eq_filter, ← hsame] at herase
    simp only [each, wp_bind, wp_of_next hclose]
    apply ih (hnodup.filter _)
    · apply List.Perm.cons_inv (a := (k : ℤ))
      exact (hrest.map _).symm.trans hfds
    · intro units fds hnd hperm
      exact hQ _ fds hnd hperm

end Calls

/-! ### What is taken -/

lemma fillArray_apply {α : Type} (n : ℕ) (f : ℕ → α → α) (arr : ℕ → α) (i : ℕ) :
    fillArray n f arr i = if i < n then f i (arr i) else arr i := by
  unfold fillArray
  induction n with
  | zero => rfl
  | succ n ih =>
    rw [List.range_succ, List.foldl_append, List.foldl_cons, List.foldl_nil]
    by_cases he : i = n
    · subst he
      rw [Function.update_self, ih, if_neg (Nat.lt_irrefl i), if_pos (Nat.lt_succ_self i)]
    · rw [Function.update_of_ne he, ih]
      congr 1
      exact propext ⟨fun hlt => Nat.lt_succ_of_lt hlt, fun hlt => by omega⟩

/-- The blocks that the state points to. -/
def blocksOf (st : GwbotState) : List ℕ :=
  (st.eplMap.map Prod.fst).toList ++ (st.threads.map Prod.fst).toList ++ (st.chans.map Prod.fst).toList ++
    st.chanStkArr.toList ++ st.threadStkArr.toList

def chanFdsOf (threadC : ℕ) (st : GwbotState) : List ℤ :=
  match st.chans with
  | none => []
  | some chans => (closeFds (-1) (-1) threadC chans.2).1

/-- The descriptors that `close_fds` finds. -/
def fdsOf (threadC : ℕ) (st : GwbotState) : List ℤ := [st.tcpFd, st.eplFd].filter (· ≠ -1) ++ chanFdsOf threadC st

/-- Besides the blocks in `extra`, everything that was taken is where the state says. -/
structure Owns (cfg : GwbotCfg) (env : StartEnv) (extra : List ℕ) (mysql : ℤ) (h : Host) : Prop where
  heap : Ledger.Accounts {} h.heap (extra ++ blocksOf h.st)
  nodup : h.fds.Nodup
  fds : (h.fds.map (fun fd : ℕ => (fd : ℤ))).Perm (fdsOf cfg.threadC h.st)
  live : ∀ guard, h.live guard = true → h.st.needDestroy guard = true
  failed : ∀ guard, h.st.needDestroy guard = true → h.live guard = true ∨ env.pthreadInit guard ≠ 0
  evLock : ∀ i, h.st.needDestroy (.evLock i) = true → i < cfg.threadC
  evCond : ∀ i, h.st.needDestroy (.evCond i) = true → i < cfg.threadC
  unborn : h.unborn = []
  freedNodes : h.freedNodes = []
  cqes : h.st.cqes.items = []
  mysqlThreads : h.mysqlThreads = mysql

namespace Owns

variable {cfg : GwbotCfg} {env : StartEnv} {extra extra' : List ℕ} {mysql : ℤ} {h : Host}

/-- The state changes, and nothing is taken or given back. -/
lemma same (hown : Owns cfg env extra mysql h) {st : GwbotState} (hblocks : (extra' ++ blocksOf st).Perm (extra ++ blocksOf h.st))
    (hfds : fdsOf cfg.threadC st = fdsOf cfg.threadC h.st) (hguards : st.needDestroy = h.st.needDestroy)
    (hcqes : st.cqes.items = []) : Owns cfg env extra' mysql { h with st := st } where
  heap := hown.heap.perm hblocks.symm
  nodup := hown.nodup
  fds := hfds ▸ hown.fds
  live := hguards ▸ hown.live
  failed := hguards ▸ hown.failed
  evLock := hguards ▸ hown.evLock
  evCond := hguards ▸ hown.evCond
  unborn := hown.unborn
  freedNodes := hown.freedNodes
  cqes := hcqes
  mysqlThreads := hown.mysqlThreads

/-- A block is taken. -/
lemma obtain (hown : Owns cfg env extra mysql h) :
    Owns cfg env (h.heap.obtained :: extra) mysql { h with heap := h.heap.obtain.2 } := by
  have hheap := hown.heap.trans (Ledger.Accounts.obtain h.heap)
  refine { hown with heap := hheap.perm ?_ }
  exact List.perm_append_comm

/-- A block is taken and stored in the state. -/
lemma store (hown : Owns cfg env extra mysql h) {st : GwbotState} (hblocks : (blocksOf st).Perm (h.heap.obtained :: blocksOf h.st))
    (hfds : fdsOf cfg.threadC st = fdsOf cfg.threadC h.st) (hguards : st.needDestroy = h.st.needDestroy)
    (hcqes : st.cqes.items = []) : Owns cfg env extra mysql { h with heap := h.heap.obtain.2, st := st } := by
  refine hown.obtain.same ?_ hfds hguards hcqes
  exact (hblocks.append_left extra).trans List.perm_middle

lemma guard (hown : Owns cfg env extra mysql h) (guard : Guard) {ok : Bool} (hok : ok = false → env.pthreadInit guard ≠ 0)
    (hlock : ∀ i, guard = .evLock i → i < cfg.threadC) (hcond : ∀ i, guard = .evCond i → i < cfg.threadC) :
    Owns cfg env extra mysql (guarded h guard ok) where
  heap := hown.heap
  nodup := hown.nodup
  fds := hown.fds
  live := by
    intro guard' hlive
    by_cases he : guard' = guard
    · subst he
      exact Function.update_self _ _ _
    · simp only [guarded, Function.update_of_ne he] at hlive ⊢
      exact hown.live guard' hlive
  failed := by
    intro guard' hneed
    by_cases he : guard' = guard
    · subst he
      simp only [guarded, Function.update_self]
      cases ok with
      | true => exact Or.inl rfl
      | false => exact Or.inr (hok rfl)
    · simp only [guarded, Function.update_of_ne he] at hneed ⊢
      exact hown.failed guard' hneed
  evLock := by
    intro i hneed
    by_cases he : Guard.evLock i = guard
    · exact hlock i he.symm
    · simp only [guarded, Function.update_of_ne he] at hneed
      exact hown.evLock i hneed
  evCond := by
    intro i hneed
    by_cases he : Guard.evCond i = guard
    · exact hcond i he.symm
    · simp only [guarded, Function.update_of_ne he] at hneed
      exact hown.evCond i hneed
  unborn := hown.unborn
  freedNodes := hown.freedNodes
  cqes := hown.cqes
  mysqlThreads := hown.mysqlThreads

end Owns

/-- Nothing of the state has changed but its locks. -/
def SameState (st st' : GwbotState) : Prop := ∃ needDestroy, st' = { st with needDestroy := needDestroy }

lemma SameState.refl (st : GwbotState) : SameState st st := ⟨st.needDestroy, rfl⟩

lemma SameState.trans {st st' st'' : GwbotState} (h : SameState st st') (h' : SameState st' st'') : SameState st st'' := by
  obtain ⟨needDestroy, rfl⟩ := h
  obtain ⟨needDestroy', rfl⟩ := h'
  exact ⟨needDestroy', rfl⟩

lemma onlineSlots_fillArray (n : ℕ) : onlineSlots n (fillArray n (fun i chan => resetChan chan i) fun _ => zeroChan) = [] := by
  apply List.filter_eq_nil_iff.mpr
  intro i hi
  rw [fillArray_apply, if_pos (List.mem_range.mp hi)]
  exact Bool.false_ne_true

/-- `destroy_state` faults: there is no array of threads. -/
structure Broken (cfg : GwbotCfg) (h : Host) : Prop where
  threads : h.st.threads = none
  fds : fdsOf cfg.threadC h.st = []

/-- What `destroy_state` relies on. -/
structure Standing (cfg : GwbotCfg) (env : StartEnv) (extra : List ℕ) (mysql : ℤ) (h : Host) : Prop where
  owns : Owns cfg env extra mysql h
  chans : h.st.chans.isSome = true
  threads : h.st.threads.isSome = true
  sqes : h.st.sqes.items = []

section Init

variable {cfg : GwbotCfg} {env : StartEnv} {extra : List ℕ} {mysql : ℤ} {h : Host}

lemma wp_guardInit_owns (hown : Owns cfg env extra mysql h) (guard : Guard) (hlock : ∀ i, guard = .evLock i → i < cfg.threadC)
    (hcond : ∀ i, guard = .evCond i → i < cfg.threadC) :
    wp (guardInit guard (env.pthreadInit guard))
      (fun _ h' => env.pthreadInit guard = 0 ∧ Owns cfg env extra mysql h' ∧ SameState h.st h'.st)
      (fun code h' => code < 0 ∧ env.pthreadInit guard ≠ 0 ∧ Owns cfg env extra mysql h' ∧ SameState h.st h'.st) h := by
  rw [wp_guardInit]
  constructor
  · intro hret
    exact ⟨hret, hown.guard guard nofun hlock hcond, _, rfl⟩
  · intro hret
    have hpos := Int.natAbs_pos.mpr hret
    exact ⟨by omega, hret, hown.guard guard (fun _ => hret) hlock hcond, _, rfl⟩

lemma wp_initStateChans (hown : Owns cfg env extra mysql h) (hchans : h.st.chans = none) :
    wp (initStateChans cfg env)
      (fun _ h' => env.alloc .chans = true ∧ Owns cfg env extra mysql h' ∧ ∃ block, h'.st = { h.st with
        chans := some (block, fillArray cfg.threadC (fun i chan => resetChan chan i) fun _ => zeroChan) })
      (fun code h' => code < 0 ∧ env.alloc .chans = false ∧ h' = h) h := by
  unfold initStateChans
  rw [wp_bind, wp_calloc]
  constructor
  · intro halloc
    refine ⟨halloc, hown.store ?_ ?_ rfl hown.cqes, _, rfl⟩
    · rw [List.perm_iff_count]
      intro block
      simp only [blocksOf, hchans, List.count_append, List.count_cons, Option.map_some, Option.toList_some, Option.map_none,
        Option.toList_none, List.count_nil]
      omega
    · have hno : chanFdsOf cfg.threadC h.st = [] := by rw [chanFdsOf, hchans]
      simp only [fdsOf, hno]
      simp only [chanFdsOf, closeFds, onlineSlots_fillArray]
      rfl
  · exact fun halloc => ⟨by omega, halloc, rfl⟩

lemma wp_resetThreadAt {h₀ : Host} (i : ℕ) (hi : i < cfg.threadC) (h : Host)
    (hown : Owns cfg env extra mysql h ∧ SameState h₀.st h.st) :
    wp (resetThreadAt env i)
      (fun th h' => th = resetThread zeroThread i ∧ (env.pthreadInit (.evLock i) = 0 ∧ env.pthreadInit (.evCond i) = 0) ∧
        Owns cfg env extra mysql h' ∧ SameState h₀.st h'.st)
      (fun code h' => code < 0 ∧ ¬TablesBuilt cfg env ∧ SameState h₀.st h'.st) h := by
  obtain ⟨hown, hsame⟩ := hown
  unfold resetThreadAt
  apply wp_then (wp_guardInit_owns hown (.evLock i) (by rintro j ⟨⟩; exact hi) nofun)
  · rintro _ h' ⟨hlock, hown', hsame'⟩
    apply wp_then (wp_guardInit_owns hown' (.evCond i) nofun (by rintro j ⟨⟩; exact hi))
    · rintro _ h'' ⟨hcond, hown'', hsame''⟩
      exact ⟨rfl, ⟨hlock, hcond⟩, hown'', hsame.trans (hsame'.trans hsame'')⟩
    · rintro code h'' ⟨hcode, hcond, -, hsame''⟩
      exact ⟨hcode, fun htables => hcond (htables.evCond i hi), hsame.trans (hsame'.trans hsame'')⟩
  · rintro code h' ⟨hcode, hlock, -, hsame'⟩
    exact ⟨hcode, fun htables => hlock (htables.evLock i hi), hsame.trans hsame'⟩

/-- The array of threads as `initPool` has it. -/
def resetThreads (threadC : ℕ) (i : ℕ) : Thread := ((List.range threadC).map (resetThread zeroThread)).getD i zeroThread

lemma wp_initStateThreads (hown : Owns cfg env extra mysql h) (hthreads : h.st.threads = none) (hchans : env.alloc .chans = true) :
    wp (initStateThreads cfg env)
      (fun _ h' => TablesBuilt cfg env ∧ Owns cfg env extra mysql h' ∧
        ∃ block, SameState { h.st with threads := some (block, resetThreads cfg.threadC) } h'.st)
      (fun code h' => code < 0 ∧ ¬TablesBuilt cfg env ∧ SameState h.st h'.st) h := by
  unfold initStateThreads
  rw [wp_bind, wp_calloc]
  constructor
  · intro halloc
    rw [wp_bind]
    apply wp_each_of (List.range cfg.threadC)
      (fun i hi => wp_resetThreadAt i (List.mem_range.mp hi)) ⟨hown.obtain, SameState.refl _⟩
    rintro h' hguards ⟨hown', needDestroy, hsame⟩
    refine ⟨⟨hchans, halloc, ?_, ?_⟩, hown'.same ?_ ?_ rfl hown'.cqes, h.heap.obtained, needDestroy, ?_⟩
    · exact fun i hi => (hguards i (List.mem_range.mpr hi)).1
    · exact fun i hi => (hguards i (List.mem_range.mpr hi)).2
    · rw [List.perm_iff_count]
      intro block
      simp only [hsame, blocksOf, hthreads, List.count_append, List.count_cons, Option.map_some, Option.toList_some, Option.map_none,
        Option.toList_none, List.count_nil]
      omega
    · rfl
    · simp only [hsame]
      rfl
  · exact fun halloc => ⟨by decide, fun htables => absurd (halloc.symm.trans htables.threads) nofun, SameState.refl _⟩

lemma wp_initEplMap (hown : Owns cfg env extra mysql h) (heplMap : h.st.eplMap = none) :
    wp (initEplMap env)
      (fun _ h' => env.alloc .eplMap = true ∧ Owns cfg env extra mysql h' ∧ ∃ block, h'.st = { h.st with
        eplMap := some (block, fillArray EPL_MAP_SIZE (fun _ _ => EPL_MAP_TO_NOP) fun _ => 0) })
      (fun code h' => code < 0 ∧ env.alloc .eplMap = false ∧ h' = h) h := by
  unfold initEplMap
  rw [wp_bind, wp_calloc]
  constructor
  · intro halloc
    refine ⟨halloc, hown.store ?_ rfl rfl hown.cqes, _, rfl⟩
    rw [List.perm_iff_count]
    intro block
    simp only [blocksOf, heplMap, List.count_append, List.count_cons, Option.map_some, Option.toList_some, Option.map_none,
      Option.toList_none, List.count_nil]
    omega
  · exact fun halloc => ⟨by decide, halloc, rfl⟩

/-- Before the first call of `init_state`. -/
def blankState : GwbotState := { tcpFd := -1, eplFd := -1 }

/-- What `init_state` makes of it, but for the locks. -/
structure Built (cfg : GwbotCfg) (st : GwbotState) : Prop where
  stopEl : st.stopEl = false
  tcpFd : st.tcpFd = -1
  eplFd : st.eplFd = -1
  eplMap : ∃ block, st.eplMap = some (block, fillArray EPL_MAP_SIZE (fun _ _ => EPL_MAP_TO_NOP) fun _ => 0)
  chans : ∃ block, st.chans = some (block, fillArray cfg.threadC (fun i chan => resetChan chan i) fun _ => zeroChan)
  threads : ∃ block, st.threads = some (block, resetThreads cfg.threadC)
  sqes : st.sqes = Fifo.empty 100000
  chanStk : st.chanStk = fillStk cfg.threadC
  threadStk : st.threadStk = fillStk cfg.threadC

lemma pushIndices_eq (cfg : GwbotCfg) (st : GwbotState) :
    pushIndices cfg st = { st with
      chanStk := (List.range cfg.threadC).reverse.foldl (fun st i => (tssPush st i).2) st.chanStk
      threadStk := (List.range cfg.threadC).reverse.foldl (fun st i => (tssPush st i).2) st.threadStk } := by
  unfold pushIndices
  generalize (List.range cfg.threadC).reverse = vals
  induction vals generalizing st with
  | nil => rfl
  | cons v vals ih =>
    rw [List.foldl_cons, ih]
    rfl

lemma Standing.same {h' : Host} (hstanding : Standing cfg env extra mysql h) (hown : Owns cfg env extra mysql h')
    (hsame : SameState h.st h'.st) : Standing cfg env extra mysql h' := by
  obtain ⟨needDestroy, hst⟩ := hsame
  refine ⟨hown, ?_, ?_, ?_⟩
  · rw [hst]
    exact hstanding.chans
  · rw [hst]
    exact hstanding.threads
  · rw [hst]
    exact hstanding.sqes

lemma wp_guardInit_standing (hstanding : Standing cfg env extra mysql h) (guard : Guard) (hlock : ∀ i, guard ≠ .evLock i)
    (hcond : ∀ i, guard ≠ .evCond i) :
    wp (guardInit guard (env.pthreadInit guard))
      (fun _ h' => env.pthreadInit guard = 0 ∧ Standing cfg env extra mysql h' ∧ SameState h.st h'.st)
      (fun code h' => code < 0 ∧ env.pthreadInit guard ≠ 0 ∧ Standing cfg env extra mysql h') h := by
  apply wp_mono (wp_guardInit_owns hstanding.owns guard (fun i he => absurd he (hlock i)) (fun i he => absurd he (hcond i)))
  · rintro _ h' ⟨hret, hown, hsame⟩
    exact ⟨hret, hstanding.same hown hsame, hsame⟩
  · rintro code h' ⟨hcode, hret, hown, hsame⟩
    exact ⟨hcode, hret, hstanding.same hown hsame⟩

/-- The locks that `init_state` initialises itself, and what follows. -/
lemma wp_initLocks (htables : TablesBuilt cfg env) (heplMap : env.alloc .eplMap = true) (hchanStk : env.alloc .chanStk = true)
    (hthreadStk : env.alloc .threadStk = true) (hstanding : Standing cfg env extra 0 h)
    (hbuilt : ∀ st, SameState h.st st → Built cfg (pushIndices cfg st)) :
    wp (do
        guardInit .sqeLock (env.pthreadInit .sqeLock)
        guardInit .cqeLock (env.pthreadInit .cqeLock)
        guardInit .logLock (env.pthreadInit .logLock)
        guardInit .logCond (env.pthreadInit .logCond)
        guardInit .threadStkLock (env.pthreadInit .threadStkLock)
        setSt (pushIndices cfg)
        modify fun h => { h with
          mysqlThreads := if cfg.useDb then h.mysqlThreads + 1 else h.mysqlThreads
          globalInit := true })
      (fun _ h' => StateBuilt cfg env ∧ Standing cfg env extra (if cfg.useDb then 1 else 0) h' ∧ Built cfg h'.st)
      (fun code h' => code < 0 ∧ ¬StateBuilt cfg env ∧ Standing cfg env extra 0 h') h := by
  apply wp_then (wp_guardInit_standing hstanding .sqeLock nofun nofun)
  swap
  · exact fun code h' ⟨hcode, hret, hs⟩ => ⟨hcode, fun hall => hret hall.sqeLock, hs⟩
  rintro _ h₁ ⟨hsqe, hs₁, hsame₁⟩
  apply wp_then (wp_guardInit_standing hs₁ .cqeLock nofun nofun)
  swap
  · exact fun code h' ⟨hcode, hret, hs⟩ => ⟨hcode, fun hall => hret hall.cqeLock, hs⟩
  rintro _ h₂ ⟨hcqe, hs₂, hsame₂⟩
  apply wp_then (wp_guardInit_standing hs₂ .logLock nofun nofun)
  swap
  · exact fun code h' ⟨hcode, hret, hs⟩ => ⟨hcode, fun hall => hret hall.logLock, hs⟩
  rintro _ h₃ ⟨hlog, hs₃, hsame₃⟩
  apply wp_then (wp_guardInit_standing hs₃ .logCond nofun nofun)
  swap
  · exact fun code h' ⟨hcode, hret, hs⟩ => ⟨hcode, fun hall => hret hall.logCond, hs⟩
  rintro _ h₄ ⟨hcond, hs₄, hsame₄⟩
  apply wp_then (wp_guardInit_standing hs₄ .threadStkLock nofun nofun)
  swap
  · exact fun code h' ⟨hcode, hret, hs⟩ => ⟨hcode, fun hall => hret hall.threadStkLock, hs⟩
  rintro _ h₅ ⟨hstk, hs₅, hsame₅⟩
  rw [wp_bind, wp_setSt, wp_modify]
  have hsame := hsame₁.trans (hsame₂.trans (hsame₃.trans (hsame₄.trans hsame₅)))
  refine ⟨⟨htables, heplMap, hchanStk, hthreadStk, hsqe, hcqe, hlog, hcond, hstk⟩, ?_, hbuilt h₅.st hsame⟩
  have hpush : Owns cfg env extra 0 { h₅ with st := pushIndices cfg h₅.st } := hs₅.owns.same
    (by rw [pushIndices_eq]; exact List.Perm.refl _)
    (by rw [pushIndices_eq]; rfl) (by rw [pushIndices_eq]) (by rw [pushIndices_eq]; exact hs₅.owns.cqes)
  refine ⟨⟨hpush.heap, hpush.nodup, hpush.fds, hpush.live, hpush.failed, hpush.evLock, hpush.evCond, hpush.unborn,
    hpush.freedNodes, hpush.cqes, ?_⟩, ?_, ?_, ?_⟩
  · simp only [hs₅.owns.mysqlThreads]
    rfl
  · rw [pushIndices_eq]
    exact hs₅.chans
  · rw [pushIndices_eq]
    exact hs₅.threads
  · rw [pushIndices_eq]
    exact hs₅.sqes

lemma wp_initState (hst : h.st = {}) (hown : Owns cfg env extra 0 { h with st := blankState }) :
    wp (initState cfg env)
      (fun _ h' => StateBuilt cfg env ∧ Standing cfg env extra (if cfg.useDb then 1 else 0) h' ∧ Built cfg h'.st)
      (fun code h' => code < 0 ∧ ¬StateBuilt cfg env ∧
        (TablesBuilt cfg env ∧ Standing cfg env extra 0 h' ∨ ¬TablesBuilt cfg env ∧ Broken cfg h')) h := by
  unfold initState
  rw [wp_bind, wp_setSt, hst]
  apply wp_then (wp_initStateChans hown rfl)
  swap
  · rintro code h' ⟨hcode, halloc, rfl⟩
    have hno : ¬TablesBuilt cfg env := fun hall => absurd (halloc.symm.trans hall.chans) nofun
    exact ⟨hcode, fun hall => hno hall.tables, Or.inr ⟨hno, rfl, rfl⟩⟩
  rintro _ h₁ ⟨hchans, hown₁, block₁, hst₁⟩
  apply wp_then (wp_initStateThreads hown₁ (by rw [hst₁]; rfl) hchans)
  swap
  · rintro code h' ⟨hcode, hno, needDestroy, hst'⟩
    refine ⟨hcode, fun hall => hno hall.tables, Or.inr ⟨hno, by rw [hst', hst₁]; rfl, ?_⟩⟩
    simp only [hst', hst₁, fdsOf, chanFdsOf, closeFds, onlineSlots_fillArray]
    rfl
  rintro _ h₂ ⟨htables, hown₂, block₂, needDestroy₂, hst₂⟩
  apply wp_then (wp_initEplMap hown₂ (by rw [hst₂, hst₁]; rfl))
  swap
  · rintro code h' ⟨hcode, halloc, rfl⟩
    refine ⟨hcode, fun hall => absurd (halloc.symm.trans hall.eplMap) nofun, Or.inl ⟨htables, hown₂, ?_, ?_, ?_⟩⟩ <;>
      rw [hst₂, hst₁] <;> rfl
  rintro _ h₃ ⟨heplMap, hown₃, block₃, hst₃⟩
  have hstanding : Standing cfg env extra 0 h₃ := by
    refine ⟨hown₃, ?_, ?_, ?_⟩ <;> rw [hst₃, hst₂, hst₁] <;> rfl
  rw [wp_bind, wp_calloc]
  constructor
  swap
  · exact fun halloc => ⟨by decide, fun hall => absurd (halloc.symm.trans hall.chanStk) nofun, Or.inl ⟨htables, hstanding⟩⟩
  intro hchanStk
  rw [wp_bind, wp_setSt]
  have hstanding₄ : Standing cfg env extra 0 { h₃ with
      heap := h₃.heap.obtain.2
      st := { h₃.st with chanStkArr := some h₃.heap.obtained, chanStk := tssInit cfg.threadC } } := by
    refine ⟨hown₃.store ?_ rfl rfl hown₃.cqes, hstanding.chans, hstanding.threads, hstanding.sqes⟩
    simp only [hst₃, hst₂, hst₁, blankState, blocksOf, Option.toList_none, List.append_nil, Option.toList_some]
    exact List.perm_append_comm
  rw [wp_bind, wp_calloc]
  constructor
  swap
  · exact fun halloc => ⟨by decide, fun hall => absurd (halloc.symm.trans hall.threadStk) nofun, Or.inl ⟨htables, hstanding₄⟩⟩
  intro hthreadStk
  rw [wp_bind, wp_setSt, wp_bind, wp_setSt]
  apply wp_mono (wp_initLocks htables heplMap hchanStk hthreadStk _ _) (fun _ _ h => h)
  · rintro code h' ⟨hcode, hno, hs⟩
    exact ⟨hcode, hno, Or.inl ⟨htables, hs⟩⟩
  · refine ⟨hstanding₄.owns.store ?_ rfl rfl rfl, hstanding.chans, hstanding.threads, rfl⟩
    simp only [hst₃, hst₂, hst₁, blankState, blocksOf, Option.toList_none, List.append_nil, Option.toList_some]
    exact List.perm_append_comm
  · rintro st ⟨needDestroy, rfl⟩
    rw [pushIndices_eq]
    refine ⟨?_, ?_, ?_, ⟨block₃, ?_⟩, ⟨block₁, ?_⟩, ⟨block₂, ?_⟩, rfl, rfl, rfl⟩ <;> simp only [hst₃, hst₂, hst₁, blankState]

end Init

/-! ### What is given back -/

/-- The guards that are still to be destroyed are among those `left`. -/
structure Locks (env : StartEnv) (left : Guard → Prop) (h : Host) : Prop where
  live : ∀ guard, h.live guard = true → h.st.needDestroy guard = true
  need : ∀ guard, h.st.needDestroy guard = true → left guard ∧ (h.live guard = true ∨ env.pthreadInit guard ≠ 0)
  unborn : ∀ guard ∈ h.unborn, env.pthreadInit guard ≠ 0

/-- Only guards have changed. -/
def SameButGuards (h h' : Host) : Prop :=
  ∃ needDestroy live unborn, h' = { h with st := { h.st with needDestroy := needDestroy }, live := live, unborn := unborn }

section Teardown

variable {cfg : GwbotCfg} {env : StartEnv} {extra : List ℕ} {mysql : ℤ} {h : Host} {left : Guard → Prop}
  {R : ℤ → Host → Prop}

lemma SameButGuards.refl (h : Host) : SameButGuards h h := ⟨h.st.needDestroy, h.live, h.unborn, rfl⟩

lemma SameButGuards.trans {h' h'' : Host} (hs : SameButGuards h h') (hs' : SameButGuards h' h'') : SameButGuards h h'' := by
  obtain ⟨needDestroy, live, unborn, rfl⟩ := hs
  obtain ⟨needDestroy', live', unborn', rfl⟩ := hs'
  exact ⟨needDestroy', live', unborn', rfl⟩

lemma wp_guardDestroy (hlocks : Locks env left h) (guard : Guard) :
    wp (guardDestroy guard) (fun _ h' => Locks env (fun guard' => left guard' ∧ guard' ≠ guard) h' ∧ SameButGuards h h') R h := by
  unfold guardDestroy
  rw [wp_modify]
  by_cases hneed : h.st.needDestroy guard = true
  · rw [if_pos hneed]
    refine ⟨⟨?_, ?_, ?_⟩, _, _, _, rfl⟩
    · intro guard' hlive
      by_cases he : guard' = guard
      · subst he
        simp only [Function.update_self] at hlive
        cases hlive
      · simp only [Function.update_of_ne he] at hlive ⊢
        exact hlocks.live guard' hlive
    · intro guard' hneed'
      by_cases he : guard' = guard
      · subst he
        simp only [Function.update_self] at hneed'
        cases hneed'
      · simp only [Function.update_of_ne he] at hneed' ⊢
        exact ⟨⟨(hlocks.need guard' hneed').1, he⟩, (hlocks.need guard' hneed').2⟩
    · intro guard' hmem
      by_cases hlive : h.live guard = true
      · rw [if_pos hlive] at hmem
        exact hlocks.unborn guard' hmem
      · rw [if_neg hlive] at hmem
        rcases List.mem_cons.mp hmem with rfl | hmem
        · exact (hlocks.need guard' hneed).2.resolve_left hlive
        · exact hlocks.unborn guard' hmem
  · rw [if_neg hneed]
    refine ⟨⟨hlocks.live, ?_, hlocks.unborn⟩, SameButGuards.refl h⟩
    intro guard' hneed'
    refine ⟨⟨(hlocks.need guard' hneed').1, ?_⟩, (hlocks.need guard' hneed').2⟩
    rintro rfl
    exact hneed hneed'

lemma Locks.mono {left' : Guard → Prop} (hlocks : Locks env left h) (hleft : ∀ guard, left guard → left' guard) :
    Locks env left' h :=
  ⟨hlocks.live, fun guard hneed => ⟨hleft guard (hlocks.need guard hneed).1, (hlocks.need guard hneed).2⟩, hlocks.unborn⟩

lemma wp_guardDestroyEach (guards : List Guard) {Q : List Unit → Host → Prop} (hlocks : Locks env left h)
    (hQ : ∀ units h', Locks env (fun guard => left guard ∧ guard ∉ guards) h' → SameButGuards h h' → Q units h') :
    wp (each guardDestroy guards) Q R h := by
  induction guards generalizing h left Q with
  | nil => exact hQ [] h (hlocks.mono fun guard hleft => ⟨hleft, List.not_mem_nil⟩) (SameButGuards.refl h)
  | cons guard guards ih =>
    apply wp_then (wp_guardDestroy hlocks guard) ?_ fun _ _ h => h
    rintro _ h₁ ⟨hlocks₁, hsame₁⟩
    rw [wp_bind]
    apply ih hlocks₁
    intro units h₂ hlocks₂ hsame₂
    apply hQ _ h₂ (hlocks₂.mono ?_) (hsame₁.trans hsame₂)
    rintro guard' ⟨⟨hleft, hne⟩, hmem⟩
    exact ⟨hleft, fun hcons => (List.mem_cons.mp hcons).elim hne hmem⟩

lemma wp_destroyThreadGuardsEach (is : List ℕ) {Q : List Unit → Host → Prop} (hthreads : h.st.threads.isSome = true)
    (hlocks : Locks env left h)
    (hQ : ∀ units h', Locks env (fun guard => left guard ∧ ∀ i ∈ is, guard ≠ .evLock i ∧ guard ≠ .evCond i) h' →
      SameButGuards h h' → Q units h') : wp (each destroyThreadGuards is) Q R h := by
  induction is generalizing h left Q with
  | nil => exact hQ [] h (hlocks.mono fun guard hleft => ⟨hleft, fun i hi => absurd hi List.not_mem_nil⟩) (SameButGuards.refl h)
  | cons i is ih =>
    obtain ⟨threads, hsome⟩ := Option.isSome_iff_exists.mp hthreads
    have hboth : wp (destroyThreadGuards i)
        (fun _ h' => Locks env (fun guard => (left guard ∧ guard ≠ .evLock i) ∧ guard ≠ .evCond i) h' ∧ SameButGuards h h') R h := by
      unfold destroyThreadGuards
      rw [wp_bind, wp_read, hsome]
      apply wp_then (wp_guardDestroy hlocks (.evLock i)) ?_ fun _ _ h => h
      rintro _ h₁ ⟨hlocks₁, hsame₁⟩
      apply wp_mono (wp_guardDestroy hlocks₁ (.evCond i)) ?_ fun _ _ h => h
      exact fun _ h₂ ⟨hlocks₂, hsame₂⟩ => ⟨hlocks₂, hsame₁.trans hsame₂⟩
    apply wp_then hboth ?_ fun _ _ h => h
    rintro _ h₁ ⟨hlocks₁, hsame₁⟩
    rw [wp_bind]
    apply ih _ hlocks₁
    · intro units h₂ hlocks₂ hsame₂
      apply hQ _ h₂ (hlocks₂.mono ?_) (hsame₁.trans hsame₂)
      rintro guard ⟨⟨⟨hleft, hlock⟩, hcond⟩, hall⟩
      exact ⟨hleft, List.forall_mem_cons.mpr ⟨⟨hlock, hcond⟩, hall⟩⟩
    · obtain ⟨needDestroy, live, unborn, rfl⟩ := hsame₁
      exact hthreads

lemma wp_closeFdsOfState {block : ℕ} {chans : ℕ → Chan} (hown : Owns cfg env extra mysql h)
    (hchans : h.st.chans = some (block, chans)) {Q : Unit → Host → Prop}
    (hQ : ∀ chans', Q () { h with
      fds := [], st := { h.st with tcpFd := -1, eplFd := -1, chans := some (block, chans') } }) :
    wp (closeFdsOfState cfg) Q R h := by
  unfold closeFdsOfState
  rw [wp_bind, wp_read, wp_bind]
  apply wp_closeEach _ hown.nodup hown.fds
  intro units fds hnodup hfds
  rw [wp_bind, wp_setSt, hchans, wp_bind]
  simp only [chanFdsOf, hchans] at hfds
  rw [← List.append_nil (closeFds (-1) (-1) cfg.threadC chans).1] at hfds
  apply wp_closeEach _ hnodup hfds
  intro units' fds' hnodup' hfds'
  rw [wp_setSt]
  obtain rfl := List.map_eq_nil_iff.mp hfds'.eq_nil
  exact hQ _

/-- What is left after `destroy_state`. -/
structure Destroyed (cfg : GwbotCfg) (env : StartEnv) (extra : List ℕ) (mysql : ℤ) (nodes : List ℕ) (h : Host) : Prop where
  heap : Ledger.Accounts {} h.heap extra
  fds : h.fds = []
  live : ∀ guard, h.live guard = false
  unborn : ∀ guard ∈ h.unborn, env.pthreadInit guard ≠ 0
  freedNodes : h.freedNodes = nodes
  modInitialized : h.modInitialized = false
  globalInit : h.globalInit = false
  mysqlThreads : h.mysqlThreads = if cfg.useDb then mysql - 1 else mysql

lemma wp_destroyState (hown : Owns cfg env extra mysql h) (hchans : h.st.chans.isSome = true)
    (hthreads : h.st.threads.isSome = true) :
    wp (destroyState cfg) (fun _ => Destroyed cfg env extra mysql (h.st.sqes.items.map QueNode.ticket)) R h := by
  obtain ⟨⟨block, chans⟩, hsome⟩ := Option.isSome_iff_exists.mp hchans
  unfold destroyState
  rw [wp_bind, wp_setSt, wp_bind]
  have hstop : Owns cfg env extra mysql { h with st := { h.st with stopEl := true } } :=
    hown.same (List.Perm.refl _) rfl rfl hown.cqes
  apply wp_closeFdsOfState hstop hsome
  intro chans'
  simp only [wp_bind, wp_modify, wp_read, free, destroyQue]
  refine wp_guardDestroyEach _
    (?_ : Locks env (fun guard => ∀ i, (guard = .evLock i ∨ guard = .evCond i) → i < cfg.threadC) _) ?_
  · refine ⟨hown.live, fun guard hneed => ⟨?_, hown.failed guard hneed⟩, ?_⟩
    · rintro i (rfl | rfl)
      · exact hown.evLock i hneed
      · exact hown.evCond i hneed
    · simp only [hown.unborn]
      exact fun guard hmem => absurd hmem List.not_mem_nil
  rintro units h₁ hlocks₁ ⟨needDestroy₁, live₁, unborn₁, rfl⟩
  refine wp_destroyThreadGuardsEach _ ?_ hlocks₁ ?_
  · exact hthreads
  rintro units' h₂ hlocks₂ ⟨needDestroy₂, live₂, unborn₂, rfl⟩
  refine ⟨?_, rfl, ?_, hlocks₂.unborn, ?_, rfl, rfl, ?_⟩
  · apply Ledger.Accounts.free
    apply Ledger.Accounts.free
    apply Ledger.Accounts.free
    apply Ledger.Accounts.free
    apply Ledger.Accounts.free
    apply hown.heap.perm
    rw [List.perm_iff_count]
    intro b
    simp only [blocksOf, hsome, Option.map_some, List.count_append]
    omega
  · intro guard
    rw [Bool.eq_false_iff]
    intro hlive
    obtain ⟨⟨hleft, hmem⟩, hthread⟩ := (hlocks₂.need guard (hlocks₂.live guard hlive)).1
    cases guard with
    | evLock i => exact (hthread i (List.mem_range.mpr (hleft i (Or.inl rfl)))).1 rfl
    | evCond i => exact (hthread i (List.mem_range.mpr (hleft i (Or.inr rfl)))).2 rfl
    | sqeLock | cqeLock | logLock | logCond | threadStkLock => simp at hmem
  · simp only [hown.freedNodes, hown.cqes, List.nil_append, List.map_nil, List.append_nil]
  · simp only [hown.mysqlThreads]

lemma wp_closeNone {Q : List Unit → Host → Prop} : wp (each close []) Q R h ↔ Q [] h := Iff.rfl

lemma closeFdsOfState_broken (hthreadC : cfg.threadC ≠ 0) (hbroken : Broken cfg h) :
    Faults (closeFdsOfState cfg) h ∨ wp (closeFdsOfState cfg) (fun _ h' => h'.st.threads = none) (fun _ _ => False) h := by
  obtain ⟨hown, hchan⟩ := List.append_eq_nil_iff.mp hbroken.fds
  unfold closeFdsOfState
  cases hchans : h.st.chans with
  | none =>
    left
    apply Faults.bind
    rw [wp_read]
    apply Faults.bind
    rw [hown, wp_closeNone]
    apply Faults.bind
    rw [wp_setSt, hchans]
    simp only [if_neg hthreadC]
    exact faults_crash _
  | some chans =>
    right
    simp only [chanFdsOf, hchans] at hchan
    rw [wp_bind, wp_read, wp_bind, hown, wp_closeNone, wp_bind, wp_setSt, hchans, wp_bind, hchan, wp_closeNone, wp_setSt]
    exact hbroken.threads

/-- Without an array of threads `destroy_state` follows a null pointer. -/
lemma faults_destroyState (hthreadC : cfg.threadC ≠ 0) (hbroken : Broken cfg h) : Faults (destroyState cfg) h := by
  unfold destroyState
  apply Faults.bind
  rw [wp_setSt]
  have hstop : Broken cfg { h with st := { h.st with stopEl := true } } := ⟨hbroken.threads, hbroken.fds⟩
  rcases closeFdsOfState_broken hthreadC hstop with hfaults | hclose
  · exact hfaults.bind_left
  apply Faults.bind
  apply wp_mono hclose ?_ fun _ _ h => h
  intro _ h₁ hthreads₁
  simp only [free, destroyQue]
  apply Faults.bind
  rw [wp_modify]
  apply Faults.bind
  rw [wp_read]
  iterate 4
    apply Faults.bind
    rw [wp_modify]
  apply Faults.bind
  apply wp_each_of (I := fun h' => h'.st.threads = none) (P := fun _ => True) (g := fun _ => ())
  · intro guard _ h₂ hthreads₂
    unfold guardDestroy
    rw [wp_modify]
    refine ⟨rfl, trivial, ?_⟩
    split
    · exact hthreads₂
    · exact hthreads₂
  · exact hthreads₁
  · intro h₂ _ hthreads₂
    obtain ⟨n, hn⟩ := Nat.exists_eq_succ_of_ne_zero hthreadC
    rw [hn, List.range_succ_eq_map]
    apply Faults.bind_left
    apply Faults.bind_left
    unfold destroyThreadGuards
    apply Faults.bind
    rw [wp_read, hthreads₂]
    exact faults_crash _

end Teardown

/-! ### From the socket to the loop -/

/-- What is assumed of the loop: it starts from the state of `initServer`, and `accept` never returns the epoll descriptor. -/
structure LoopOk (cfg : GwbotCfg) (env : StartEnv) : Prop where
  reachable : ∀ tcpFd, env.socket = .ok tcpFd →
    Reachable serverStep (initServer cfg.threadC tcpFd (fun _ _ => 0) (fun _ _ => 0)) env.loop.1
  eplFd : ∀ eplFd, env.epollCreate = .ok eplFd → eplFd ∉ env.loop.1.net.openFds

/-- The state at the start of the event loop. -/
structure Started (cfg : GwbotCfg) (env : StartEnv) (extra : List ℕ) (mysql : ℤ) (h : Host) : Prop where
  standing : Standing cfg env extra mysql h
  built : Built cfg { h.st with tcpFd := -1, eplFd := -1 }
  fds : ∃ tcpFd eplFd : ℕ, env.socket = .ok tcpFd ∧ env.epollCreate = .ok eplFd ∧ h.st.tcpFd = tcpFd ∧ h.st.eplFd = eplFd ∧
    h.fds = [tcpFd, eplFd]

section Run

variable {cfg : GwbotCfg} {env : StartEnv} {extra : List ℕ} {mysql : ℤ} {h : Host} {R : ℤ → Host → Prop}

lemma natCast_ne_neg_one (fd : ℕ) : (fd : ℤ) ≠ -1 := by omega

lemma chanFdsOf_built {st : GwbotState}
    (hchans : ∃ block, st.chans = some (block, fillArray cfg.threadC (fun i chan => resetChan chan i) fun _ => zeroChan)) :
    chanFdsOf cfg.threadC st = [] := by
  obtain ⟨block, hchans⟩ := hchans
  rw [chanFdsOf, hchans]
  simp only [closeFds, onlineSlots_fillArray]
  rfl

/-- The descriptors change, and nothing else. -/
lemma Standing.fds (hstanding : Standing cfg env extra mysql h) {fds : List ℕ} (tcpFd eplFd : ℤ) (hnodup : fds.Nodup)
    (hchan : chanFdsOf cfg.threadC h.st = [])
    (hfds : (fds.map (fun fd : ℕ => (fd : ℤ))).Perm ([tcpFd, eplFd].filter (· ≠ -1))) :
    Standing cfg env extra mysql { h with fds := fds, st := { h.st with tcpFd := tcpFd, eplFd := eplFd } } where
  owns := by
    have hown := hstanding.owns
    refine ⟨hown.heap, hnodup, ?_, hown.live, hown.failed, hown.evLock, hown.evCond, hown.unborn, hown.freedNodes, hown.cqes,
      hown.mysqlThreads⟩
    have hnone : chanFdsOf cfg.threadC { h.st with tcpFd := tcpFd, eplFd := eplFd } = [] := hchan
    rw [fdsOf, hnone, List.append_nil]
    exact hfds
  chans := hstanding.chans
  threads := hstanding.threads
  sqes := hstanding.sqes

lemma wp_initSocket (hstanding : Standing cfg env extra mysql h) (hbuilt : Built cfg { h.st with eplFd := -1 }) {eplFd : ℕ}
    (hepl : h.st.eplFd = eplFd) (hcreate : env.epollCreate = .ok eplFd) (hfds : h.fds = [eplFd])
    (hne : ∀ tcpFd, env.socket = .ok tcpFd → tcpFd ≠ eplFd) :
    wp (initSocket env) (fun _ => Started cfg env extra mysql) (fun code h' => code < 0 ∧ Standing cfg env extra mysql h') h := by
  have hchan : chanFdsOf cfg.threadC h.st = [] := chanFdsOf_built hbuilt.chans
  unfold initSocket
  cases hsocket : env.socket with
  | error err =>
    have hpos := err.2
    exact ⟨by omega, hstanding⟩
  | ok tcpFd =>
    have hnodup : [tcpFd, eplFd].Nodup := by simp [hne tcpFd hsocket]
    simp only [wp_bind, wp_modify]
    cases hsetup : setupSocket env with
    | none =>
      rw [wp_setSt]
      have hfilter : [(tcpFd : ℤ), h.st.eplFd].filter (· ≠ -1) = [(tcpFd : ℤ), h.st.eplFd] := by
        simp [hepl, natCast_ne_neg_one]
      have hs := hstanding.fds tcpFd h.st.eplFd hnodup hchan (by rw [hfilter, hepl]; exact List.Perm.refl _)
      rw [hfds]
      exact ⟨hs, { hbuilt with tcpFd := rfl }, tcpFd, eplFd, hsocket, hcreate, rfl, hepl, rfl⟩
    | some err =>
      have hpos := err.2
      rw [wp_bind]
      have hclose : close (tcpFd : ℤ) { h with fds := tcpFd :: h.fds } = .next () h := by
        have hother : (eplFd : ℤ) ≠ tcpFd := fun he => hne tcpFd hsocket (Int.ofNat_inj.mp he.symm)
        have hrest : (tcpFd :: h.fds).filter (fun k : ℕ => (k : ℤ) != tcpFd) = h.fds := by simp [hfds, hother]
        simp only [close, List.map_cons, List.mem_cons_self, if_true, hrest]
      rw [wp_of_next hclose]
      exact ⟨by omega, hstanding⟩

lemma wp_initEpoll (hstanding : Standing cfg env extra mysql h) (hbuilt : Built cfg h.st) :
    wp (initEpoll env)
      (fun _ h' => ∃ eplFd : ℕ, env.epollCreate = .ok eplFd ∧ Standing cfg env extra mysql h' ∧
        Built cfg { h'.st with eplFd := -1 } ∧ h'.st.eplFd = eplFd ∧ h'.fds = [eplFd])
      (fun code h' => code < 0 ∧ Standing cfg env extra mysql h') h := by
  unfold initEpoll
  cases hcreate : env.epollCreate with
  | error err =>
    have hpos := err.2
    exact ⟨by omega, hstanding⟩
  | ok eplFd =>
    have hchan := chanFdsOf_built hbuilt.chans
    have hnone : h.fds = [] := by
      have hfds := hstanding.owns.fds
      rw [fdsOf, hchan, hbuilt.tcpFd, hbuilt.eplFd] at hfds
      exact List.map_eq_nil_iff.mp hfds.eq_nil
    rw [wp_modify, hnone]
    have hfilter : [h.st.tcpFd, (eplFd : ℤ)].filter (· ≠ -1) = [(eplFd : ℤ)] := by
      simp [hbuilt.tcpFd, natCast_ne_neg_one]
    have hs := hstanding.fds h.st.tcpFd eplFd (List.nodup_singleton eplFd) hchan
      (by rw [hfilter]; exact List.Perm.refl _)
    exact ⟨eplFd, rfl, hs, { hbuilt with eplFd := rfl }, rfl, rfl⟩

/-- How the startup can fail, and what it leaves then. -/
def Failed (cfg : GwbotCfg) (env : StartEnv) (extra : List ℕ) (h : Host) : Prop :=
  StateBuilt cfg env ∧ Standing cfg env extra (if cfg.useDb then 1 else 0) h ∨
    ¬StateBuilt cfg env ∧ (TablesBuilt cfg env ∧ Standing cfg env extra 0 h ∨ ¬TablesBuilt cfg env ∧ Broken cfg h)

lemma wp_startUp (hst : h.st = {}) (hown : Owns cfg env extra 0 { h with st := blankState })
    (hne : ∀ tcpFd eplFd, env.socket = .ok tcpFd → env.epollCreate = .ok eplFd → tcpFd ≠ eplFd) :
    wp (startUp cfg env)
      (fun _ h' => StateBuilt cfg env ∧ Started cfg env extra (if cfg.useDb then 1 else 0) h')
      (fun code h' => code < 0 ∧ Failed cfg env extra h') h := by
  unfold startUp
  apply wp_then (wp_initState hst hown)
  swap
  · exact fun code h' ⟨hcode, hno, hleft⟩ => ⟨hcode, Or.inr ⟨hno, hleft⟩⟩
  rintro _ h₁ ⟨hall, hstanding₁, hbuilt₁⟩
  rw [wp_bind]
  unfold initLoggerThread
  by_cases hcreate : env.pthreadCreate = 0
  · rw [if_pos hcreate, wp_pure]
    apply wp_then (wp_initEpoll hstanding₁ hbuilt₁)
    swap
    · exact fun code h' ⟨hcode, hs⟩ => ⟨hcode, Or.inl ⟨hall, hs⟩⟩
    rintro _ h₂ ⟨eplFd, hepoll, hstanding₂, hbuilt₂, hepl₂, hfds₂⟩
    unfold gwbotModuleStartup
    rw [wp_bind, wp_modify]
    have hstanding₃ : Standing cfg env extra (if cfg.useDb then 1 else 0) { h₂ with modInitialized := true } :=
      ⟨{ hstanding₂.owns with }, hstanding₂.chans, hstanding₂.threads, hstanding₂.sqes⟩
    apply wp_mono (wp_initSocket hstanding₃ hbuilt₂ hepl₂ hepoll hfds₂ fun tcpFd hsocket => hne tcpFd eplFd hsocket hepoll)
    · exact fun _ h' hstarted => ⟨hall, hstarted⟩
    · exact fun code h' ⟨hcode, hs⟩ => ⟨hcode, Or.inl ⟨hall, hs⟩⟩
  · rw [if_neg hcreate, wp_exit]
    have hpos := Int.natAbs_pos.mpr hcreate
    exact ⟨by omega, Or.inl ⟨hall, hstanding₁⟩⟩

lemma closeFds_append {tcpFd eplFd : ℤ} (threadC : ℕ) (chans : ℕ → Chan) :
    (closeFds tcpFd eplFd threadC chans).1 =
      [tcpFd, eplFd].filter (· ≠ -1) ++ (closeFds (-1) (-1) threadC chans).1 := by
  unfold closeFds
  by_cases htcp : tcpFd = -1 <;> by_cases hepl : eplFd = -1 <;> simp [htcp, hepl]

/-- What the loop takes is where `destroy_state` looks for it. -/
lemma wp_runEventLoop (hc : cfg.threadC ≤ 0xffff) (hloop : LoopOk cfg env) (hstarted : Started cfg env extra mysql h) :
    wp (runEventLoop env) (fun _ _ => False)
      (fun code h' => code = env.loop.2 ∧ Owns cfg env extra mysql h' ∧ h'.st.chans.isSome = true ∧
        h'.st.threads.isSome = true ∧ h'.st.sqes = env.loop.1.pool.sqes) h := by
  obtain ⟨tcpFd, eplFd, hsocket, hcreate, htcp, hepl, hfds⟩ := hstarted.fds
  have hown := hstarted.standing.owns
  obtain ⟨⟨block, chans⟩, hchans⟩ := Option.isSome_iff_exists.mp hstarted.standing.chans
  obtain ⟨⟨block', threads⟩, hthreads⟩ := Option.isSome_iff_exists.mp hstarted.standing.threads
  have hreach := hloop.reachable tcpFd hsocket
  obtain ⟨hinv, hcount, htcp'⟩ := serverInv_of_reachable hc hreach
  have hinvFds := fdsInv_of_reachable hc hreach
  have hnew := hloop.eplFd eplFd hcreate
  have hne : tcpFd ≠ eplFd := by
    rintro rfl
    exact hnew (htcp' ▸ hinv.net.tcpOpen)
  have hkeep : h.fds.filter (fun fd : ℕ => (fd : ℤ) == h.st.eplFd) = [eplFd] := by
    have hother : (tcpFd : ℤ) ≠ eplFd := fun he => hne (Int.ofNat_inj.mp he)
    simp [hfds, hepl, hother]
  unfold runEventLoop
  rw [wp_bind, wp_modify, wp_exit]
  refine ⟨rfl, ?_, ?_, ?_, rfl⟩
  · simp only [hkeep, hchans, hthreads]
    refine ⟨hown.heap.perm ?_, ?_, ?_, hown.live, hown.failed, hown.evLock, hown.evCond, hown.unborn, hown.freedNodes,
      hown.cqes, hown.mysqlThreads⟩
    · simp only [blocksOf, hchans, hthreads]
      exact List.Perm.refl _
    · apply List.nodup_append'.mpr
      exact ⟨hinvFds.nodup, List.nodup_singleton _, fun fd hmem hone => hnew (List.mem_singleton.mp hone ▸ hmem)⟩
    · have hperm := closeFds_perm hinvFds hinv.net hnew
      rw [closeFds_append, htcp', hcount] at hperm
      simp only [fdsOf, chanFdsOf, htcp, hepl]
      exact ((List.perm_append_singleton eplFd env.loop.1.net.openFds).map _).trans hperm.symm
  · rw [hchans]
    rfl
  · rw [hthreads]
    rfl

end Run

/-! ### The whole run -/

/-- `gwbot_run` gets as far as `init_state`. -/
def CfgAccepted (cfg : GwbotCfg) (env : StartEnv) (arena : Buf) : Prop := env.alloc .state = true ∧ validateCfg cfg arena = 0

/-- How `gwbot_run` leaves the process. -/
structure GivenBack (cfg : GwbotCfg) (env : StartEnv) (arena : Buf) (ret : ℤ) (h : Host) : Prop where
  heap : h.heap.Balanced ↔ (env.alloc .state = true → validateCfg cfg arena = 0)
  fds : h.fds = []
  live : ∀ guard, h.live guard = false
  unborn : ∀ guard ∈ h.unborn, env.pthreadInit guard ≠ 0
  modInitialized : h.modInitialized = false
  globalInit : h.globalInit = false
  freedNodes : h.freedNodes = [] ∨
    h.freedNodes = sqeTickets env.loop.1.pool.sqes ∧ (env.loop.1.pool.destroyed ++ h.freedNodes).Nodup
  mysqlThreads : h.mysqlThreads = 0 ∧ (CfgAccepted cfg env arena → cfg.useDb = true → StateBuilt cfg env) ∨
    h.mysqlThreads = -1 ∧ cfg.useDb = true ∧ CfgAccepted cfg env arena ∧ ¬StateBuilt cfg env
  ret : ret < 0 ∨ ret = env.loop.2 ∧ StateBuilt cfg env

section Whole

variable {cfg : GwbotCfg} {env : StartEnv} {arena : Buf} {h : Host}

lemma validateCfg_nonpos (cfg : GwbotCfg) (arena : Buf) : validateCfg cfg arena = 0 ∨ validateCfg cfg arena < 0 := by
  unfold validateCfg validateMysqlCfg
  repeat' split
  all_goals decide

lemma threadC_ne_zero (hcfg : validateCfg cfg arena = 0) : cfg.threadC ≠ 0 := by
  intro hzero
  unfold validateCfg at hcfg
  rw [if_pos hzero] at hcfg
  repeat' split at hcfg
  all_goals exact absurd hcfg (by decide)

/-- Where `gwbot_run` returns before `init_state`. -/
lemma givenBack_early {out : List ℕ} {ret : ℤ} {heap : Ledger} (hheap : Ledger.Accounts {} heap out)
    (hout : out = [] ↔ (env.alloc .state = true → validateCfg cfg arena = 0)) (hno : ¬CfgAccepted cfg env arena) (hret : ret < 0) :
    GivenBack cfg env arena ret { heap := heap } where
  heap := hheap.balanced_iff.trans hout
  fds := rfl
  live := fun _ => rfl
  unborn := nofun
  modInitialized := rfl
  globalInit := rfl
  freedNodes := Or.inl rfl
  mysqlThreads := Or.inl ⟨rfl, fun hacc => absurd hacc hno⟩
  ret := Or.inl hret

/-- `destroy_state` and `free(state)`, after which nothing is left. -/
lemma wp_goto_out {ret mysql : ℤ} (hacc : CfgAccepted cfg env arena)
    (hmysql : StateBuilt cfg env ∧ mysql = (if cfg.useDb then 1 else 0) ∨ ¬StateBuilt cfg env ∧ mysql = 0)
    (hown : Owns cfg env [0] mysql h) (hchans : h.st.chans.isSome = true) (hthreads : h.st.threads.isSome = true)
    (hnodes : h.st.sqes.items = [] ∨
      h.st.sqes = env.loop.1.pool.sqes ∧ (env.loop.1.pool.destroyed ++ sqeTickets env.loop.1.pool.sqes).Nodup)
    (hret : ret < 0 ∨ ret = env.loop.2 ∧ StateBuilt cfg env) :
    wp (do destroyState cfg; free (some 0); exit ret : OnHost Unit) (fun _ _ => False) (GivenBack cfg env arena) h := by
  apply wp_then (wp_destroyState hown hchans hthreads) ?_ fun _ _ h => h
  intro _ h' hdone
  rw [wp_bind, free, wp_modify, wp_exit]
  have hheap : Ledger.Accounts {} (h'.heap.free (some 0)) [] := Ledger.Accounts.free hdone.heap
  refine ⟨hheap.balanced_iff.trans (iff_of_true rfl fun _ => hacc.2), hdone.fds, hdone.live, hdone.unborn,
    hdone.modInitialized, hdone.globalInit, ?_, ?_, hret⟩
  · rw [hdone.freedNodes]
    rcases hnodes with hnone | ⟨hloop, hnodup⟩
    · left
      rw [hnone]
      rfl
    · right
      rw [hloop]
      exact ⟨rfl, hnodup⟩
  · rw [hdone.mysqlThreads]
    rcases hmysql with ⟨hall, rfl⟩ | ⟨hno, rfl⟩
    · left
      refine ⟨?_, fun _ _ => hall⟩
      cases cfg.useDb <;> rfl
    · cases huse : cfg.useDb with
      | false => exact Or.inl ⟨rfl, fun _ hdb => by cases hdb⟩
      | true => exact Or.inr ⟨rfl, rfl, hacc, hno⟩

/-- What `run_event_loop` and the workers have not freed of the queue. -/
lemma nodes_nodup (hc : cfg.threadC ≤ 0xffff) (hloop : LoopOk cfg env) {tcpFd : ℕ} (hsocket : env.socket = .ok tcpFd) :
    (env.loop.1.pool.destroyed ++ sqeTickets env.loop.1.pool.sqes).Nodup := by
  obtain ⟨acts, hrun⟩ := hloop.reachable tcpFd hsocket
  obtain ⟨c, -, htracked, -⟩ :=
    tracked_run (FullInv.init tcpFd (fun _ _ => 0) (fun _ _ => 0) hc) (tracked_init cfg.threadC fun _ _ => 0) hrun
  rw [← htracked.freed, ← htracked.queue]
  exact htracked.ok.freed_append_queue

/-- The host after the `malloc` of the state. -/
def allocated : Host := { heap := ({} : Ledger).obtain.2 }

lemma owns_allocated (cfg : GwbotCfg) (env : StartEnv) : Owns cfg env [0] 0 { allocated with st := blankState } where
  heap := Ledger.Accounts.obtain {}
  nodup := List.nodup_nil
  fds := List.Perm.refl _
  live := nofun
  failed := nofun
  evLock := nofun
  evCond := nofun
  unborn := rfl
  freedNodes := rfl
  cqes := rfl
  mysqlThreads := rfl

/-- A socket and an epoll instance have different descriptors. -/
lemma LoopOk.ne (hc : cfg.threadC ≤ 0xffff) (hloop : LoopOk cfg env) (tcpFd eplFd : ℕ) (hsocket : env.socket = .ok tcpFd)
    (hcreate : env.epollCreate = .ok eplFd) : tcpFd ≠ eplFd := by
  rintro rfl
  obtain ⟨hinv, -, htcp⟩ := serverInv_of_reachable hc (hloop.reachable tcpFd hsocket)
  exact hloop.eplFd tcpFd hcreate (htcp ▸ hinv.net.tcpOpen)

lemma wp_gwbotRun (hc : cfg.threadC ≤ 0xffff) (hloop : LoopOk cfg env) (htables : CfgAccepted cfg env arena → TablesBuilt cfg env) :
    wp (gwbotRun cfg env arena) (fun _ _ => False) (GivenBack cfg env arena) {} := by
  unfold gwbotRun
  rw [wp_bind, wp_calloc]
  constructor
  swap
  · intro halloc
    exact givenBack_early (Ledger.Accounts.refl _) (by simp [halloc]) (fun hacc => absurd (halloc.symm.trans hacc.1) nofun) (by decide)
  intro halloc
  rw [wp_bind, wp_setSt]
  by_cases hcfg : validateCfg cfg arena = 0
  swap
  · rw [if_pos hcfg, wp_exit]
    exact givenBack_early (Ledger.Accounts.obtain {}) (by simp [halloc, hcfg]) (fun hacc => hcfg hacc.2)
      ((validateCfg_nonpos cfg arena).resolve_left hcfg)
  have hacc : CfgAccepted cfg env arena := ⟨halloc, hcfg⟩
  rw [if_neg (not_not.mpr hcfg), wp_bind, wp_code]
  apply wp_then (wp_startUp rfl (owns_allocated cfg env) (LoopOk.ne hc hloop))
  · rintro _ h₁ ⟨hall, hstarted⟩
    obtain ⟨tcpFd, -, hsocket, -⟩ := hstarted.fds
    apply wp_mono (wp_runEventLoop hc hloop hstarted)
    · exact fun _ _ hno => hno.elim
    · rintro code h₂ ⟨hcode, hown, hchans, hthreads, hsqes⟩
      exact wp_goto_out hacc (Or.inl ⟨hall, rfl⟩) hown hchans hthreads (Or.inr ⟨hsqes, nodes_nodup hc hloop hsocket⟩)
        (Or.inr ⟨hcode, hall⟩)
  · rintro code h₁ ⟨hcode, ⟨hall, hs⟩ | ⟨hno, ⟨-, hs⟩ | ⟨hbroken, -⟩⟩⟩
    · exact wp_goto_out hacc (Or.inl ⟨hall, rfl⟩) hs.owns hs.chans hs.threads (Or.inl hs.sqes) (Or.inl hcode)
    · exact wp_goto_out hacc (Or.inr ⟨hno, rfl⟩) hs.owns hs.chans hs.threads (Or.inl hs.sqes) (Or.inl hcode)
    · exact absurd (htables hacc) hbroken

lemma faults_gwbotRun (hc : cfg.threadC ≤ 0xffff) (hloop : LoopOk cfg env) (hacc : CfgAccepted cfg env arena)
    (htables : ¬TablesBuilt cfg env) : Faults (gwbotRun cfg env arena) {} := by
  unfold gwbotRun
  apply Faults.bind
  rw [wp_calloc]
  constructor
  swap
  · exact fun halloc => absurd (halloc.symm.trans hacc.1) nofun
  intro _
  apply Faults.bind
  rw [wp_setSt, if_neg (not_not.mpr hacc.2)]
  apply Faults.bind
  rw [wp_code]
  apply wp_then (wp_startUp rfl (owns_allocated cfg env) (LoopOk.ne hc hloop))
  · exact fun _ h₁ ⟨hall, _⟩ => absurd hall.tables htables
  · rintro code h₁ ⟨-, ⟨hall, -⟩ | ⟨-, ⟨hbuilt, -⟩ | ⟨-, hbroken⟩⟩⟩
    · exact absurd hall.tables htables
    · exact absurd hbuilt htables
    · exact (faults_destroyState (threadC_ne_zero hacc.2) hbroken).bind_left

end Whole

/-- However the calls of the startup fail and wherever the event loop ends: if the configuration is valid and the array of
the channels or of the threads cannot be built, `destroy_state` follows a null pointer. Else `gwbot_run` gives back everything
that was taken, once, but for the block of the state if the configuration is refused. -/
theorem startup_is_undone (cfg : GwbotCfg) (env : StartEnv) (arena : Buf) (hc : cfg.threadC ≤ 0xffff) (hloop : LoopOk cfg env) :
    (CfgAccepted cfg env arena ∧ ¬TablesBuilt cfg env → Faults (gwbotRun cfg env arena) {}) ∧
      ((CfgAccepted cfg env arena → TablesBuilt cfg env) →
        ∃ ret h, gwbotRun cfg env arena {} = .ret ret h ∧ GivenBack cfg env arena ret h) := by
  constructor
  · rintro ⟨hacc, htables⟩
    exact faults_gwbotRun hc hloop hacc htables
  · intro htables
    exact exists_ret_of_wp (wp_gwbotRun hc hloop htables)

/-! The port is in use. -/

def oneWorker : GwbotCfg := ⟨some 0, some 0, 1, 1, 1, ⟨none, none, none, none, 0, none⟩, false⟩

def lettersArena : Buf := Buf.fresh fun _ => 65

def portInUse : StartEnv where
  alloc _ := true
  pthreadInit _ := 0
  pthreadCreate := 0
  epollCreate := .ok 4
  socket := .ok 3
  reuseAddr := none
  noDelay := none
  bind := some ⟨98, by decide⟩
  listen := none
  epollAdd := none
  loop := (initServer 1 3 (fun _ _ => 0) (fun _ _ => 0), 0)

lemma loopOk_portInUse : LoopOk oneWorker portInUse where
  reachable := by
    rintro tcpFd ⟨⟩
    exact ⟨[], rfl⟩
  eplFd := by
    rintro eplFd ⟨⟩
    exact (by decide : 4 ∉ [3])

theorem startup_is_undone_portInUse :
    ∃ ret h, gwbotRun oneWorker portInUse lettersArena {} = .ret ret h ∧ GivenBack oneWorker portInUse lettersArena ret h :=
  (startup_is_undone oneWorker portInUse lettersArena (by decide) loopOk_portInUse).2 fun _ => ⟨rfl, rfl, fun _ _ => rfl, fun _ _ => rfl⟩

/-! ### The first state of the loop -/

/-- The state that a `Server` stands for. -/
structure Represents (h : Host) (s : Server) : Prop where
  stopEl : h.st.stopEl = s.pool.stopEl
  tcpFd : h.st.tcpFd = s.net.tcpFd
  fds : ∃ eplFd : ℕ, h.st.eplFd = eplFd ∧ h.fds = s.net.openFds ++ [eplFd]
  chans : ∃ block chans, h.st.chans = some (block, chans) ∧ ∀ i < s.net.threadC, chans i = s.net.chans i
  threads : ∃ block threads, h.st.threads = some (block, threads) ∧ ∀ i < s.pool.threadC, threads i = s.pool.threads i
  eplMap : ∃ block map, h.st.eplMap = some (block, map) ∧ ∀ fd < EPL_MAP_SIZE, map fd = s.net.eplMap fd
  chanStk : h.st.chanStk = s.net.chanStk
  threadStk : h.st.threadStk = s.pool.threadStk
  sqes : h.st.sqes = s.pool.sqes

/-- Whenever the startup succeeds, the event loop starts from the state of `initServer`. -/
theorem loop_starts_from_initServer (cfg : GwbotCfg) (env : StartEnv) (h : Host)
    (hne : ∀ tcpFd eplFd, env.socket = .ok tcpFd → env.epollCreate = .ok eplFd → tcpFd ≠ eplFd)
    (hstart : startUp cfg env allocated = .next () h) :
    ∃ tcpFd, env.socket = .ok tcpFd ∧ Represents h (initServer cfg.threadC tcpFd (fun _ _ => 0) (fun _ _ => 0)) := by
  obtain ⟨-, hstarted⟩ := (wp_of_next hstart).mp (wp_startUp rfl (owns_allocated cfg env) hne)
  obtain ⟨tcpFd, eplFd, hsocket, -, htcp, hepl, hfds⟩ := hstarted.fds
  have hbuilt := hstarted.built
  refine ⟨tcpFd, hsocket, hbuilt.stopEl, htcp, ⟨eplFd, hepl, hfds⟩, ?_, ?_, ?_, hbuilt.chanStk, hbuilt.threadStk, hbuilt.sqes⟩
  · obtain ⟨block, hchans⟩ := hbuilt.chans
    refine ⟨block, _, hchans, fun i hi => ?_⟩
    have hlt : i < cfg.threadC := hi
    rw [fillArray_apply, if_pos hlt]
    rfl
  · obtain ⟨block, hthreads⟩ := hbuilt.threads
    refine ⟨block, _, hthreads, fun i hi => ?_⟩
    have hlt : i < cfg.threadC := hi
    rw [resetThreads, List.getD_eq_getElem?_getD, List.getElem?_map, List.getElem?_range hlt]
    rfl
  · obtain ⟨block, hmap⟩ := hbuilt.eplMap
    refine ⟨block, _, hmap, fun fd hfd => ?_⟩
    rw [fillArray_apply, if_pos hfd]
    rfl

theorem loop_starts_from_initServer_oneWorker :
    ∃ h, startUp oneWorker { portInUse with bind := none } allocated = .next () h ∧
      ∃ tcpFd, Represents h (initServer 1 tcpFd (fun _ _ => 0) (fun _ _ => 0)) := by
  obtain ⟨h, hstart⟩ : ∃ h, startUp oneWorker { portInUse with bind := none } allocated = .next () h := ⟨_, rfl⟩
  obtain ⟨tcpFd, -, hrep⟩ := loop_starts_from_initServer oneWorker { portInUse with bind := none } h
    (by rintro tcpFd eplFd ⟨⟩ ⟨⟩; decide) hstart
  exact ⟨h, hstart, tcpFd, hrep⟩

end GNUWeebBot.Startup
