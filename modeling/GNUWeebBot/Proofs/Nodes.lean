import GNUWeebBot.Lib.Custody
import GNUWeebBot.Proofs.DeliveryPaths

/-!
# The nodes of the queue

What `que_enqueue` allocates is in the queue, then a thread slot holds it as its `sqe_node`, and `que_node_destroy` frees
it. The pool does with its nodes what the custody of tokens allows: a node is freed once, after its packet was handled,
and the queue hands packets out in the order in which they came.
-/

namespace GNUWeebBot.Proofs

open Transition Custody

/-! ### The custody of the nodes -/

/-- `que_enqueue` has added a node, which has the ticket of the packet. -/
def enqueueOp (p p' : Pool) : Option (Op ℕ ℕ) :=
  if p'.sqes.items.length = p.sqes.items.length then none else some (.put p.nextTicket)

/-- What a step does with a node. A worker that leaves with a node in its slot drops the pointer in `reset_thread`. -/
def poolNodeOp (p p' : Pool) : PoolAct → Option (Op ℕ ℕ)
  | .submitEvent _ _ _ => enqueueOp p p'
  | .dispatchSqe _ =>
    match p.main with
    | .dispatch i => some (.take i)
    | _ => none
  | .finish tid => (p.workers tid).bind fun w => if (p.threads w.idx).evFromSqe then some (.free w.idx) else none
  | .reset tid => (p.workers tid).bind fun w => if (p.threads w.idx).sqeNode.isSome then some (.lose w.idx) else none
  | _ => none

def nodeOp (p p' : Pool) : ServerAct → Option (Op ℕ ℕ)
  | .clientEvent _ _ => enqueueOp p p'
  | .pool act => poolNodeOp p p' act
  | _ => none

def follow (c : Custody ℕ ℕ) : Option (Op ℕ ℕ) → Option (Custody ℕ ℕ)
  | none => some c
  | some op => c.apply op

/-- The server and the custody of its nodes, step by step. -/
def trackStep (x : Server × Custody ℕ ℕ) (act : ServerAct) : Option (Server × Custody ℕ ℕ) :=
  (serverStep x.1 act).bind fun s' => (follow x.2 (nodeOp x.1.pool s'.pool act)).map fun c' => (s', c')

/-- The custody shows where the nodes of the pool are. -/
structure Tracked (p : Pool) (c : Custody ℕ ℕ) : Prop where
  ok : c.Ok
  queue : c.queue = sqeTickets p.sqes
  held : ∀ i, c.held i = (p.threads i).sqeNode.map QueNode.ticket
  freed : c.freed = p.destroyed
  sorted : c.entered.Pairwise (· < ·)
  old : ∀ t ∈ c.entered, t < p.nextTicket
  armed : ∀ i, (p.threads i).sqeNode ≠ none → (p.threads i).hasEvent = true ∧ (p.threads i).evFromSqe = true
  direct : ∀ i, (p.threads i).hasEvent = true → (p.threads i).evFromSqe = false → (p.threads i).ticket ∉ c.entered
  main : ∀ i cpyLen b t, p.main = .submit i cpyLen b t → t ∉ c.entered
  lost : ∀ t ∈ c.lost, t ∉ handledTickets p.handled
  leaving : ∀ tid idx, p.workers tid = some ⟨idx, .leaving⟩ → (p.threads idx).sqeNode ≠ none →
    (p.threads idx).ticket ∉ handledTickets p.handled

lemma tracked_init (threadC : ℕ) (junk : ℕ → ℕ → UInt8) : Tracked (initPool threadC junk) start where
  ok := ok_start
  queue := rfl
  held := fun _ => rfl
  freed := rfl
  sorted := List.Pairwise.nil
  old := fun t ht => absurd ht List.not_mem_nil
  armed := fun i hi => absurd rfl hi
  direct := fun i hi => by cases hi
  main := fun i cpyLen b t ht => by cases ht
  lost := fun t ht => absurd ht List.not_mem_nil
  leaving := fun tid idx hw => by cases hw

/-- The fields of a slot that say which node it holds. -/
structure SameSlot (th th' : Thread) : Prop where
  sqeNode : th'.sqeNode = th.sqeNode
  hasEvent : th'.hasEvent = th.hasEvent
  evFromSqe : th'.evFromSqe = th.evFromSqe
  ticket : th'.ticket = th.ticket

lemma sameSlot_refl (th : Thread) : SameSlot th th := ⟨rfl, rfl, rfl, rfl⟩

lemma sameNode_online {threads : ℕ → Thread} (idx : ℕ) :
    ∀ i, SameSlot (threads i) (Function.update threads idx { threads idx with isOnline := true } i) := by
  intro i
  by_cases hi : i = idx
  · subst hi
    rw [Function.update_self]
    exact ⟨rfl, rfl, rfl, rfl⟩
  · rw [Function.update_of_ne hi]
    exact sameSlot_refl _

/-- A worker that was not leaving goes to a phase that is not leaving. -/
lemma leaving_of_update {workers : ℕ → Option Worker} {tid tid' idx idx' : ℕ} {phase : Phase} (hphase : phase ≠ .leaving)
    (hw : Function.update workers tid (some ⟨idx, phase⟩) tid' = some ⟨idx', .leaving⟩) :
    workers tid' = some ⟨idx', .leaving⟩ := by
  by_cases htid : tid' = tid
  · rw [htid, Function.update_self, Option.some_inj, Worker.mk.injEq] at hw
    exact absurd hw.2 hphase
  · rw [Function.update_of_ne htid] at hw
    exact hw

namespace Tracked

variable {p p' : Pool} {c : Custody ℕ ℕ}

/-- A step that leaves the nodes where they are. -/
lemma quiet (h : Tracked p c) (hsqes : p'.sqes = p.sqes) (hslots : ∀ i, SameSlot (p.threads i) (p'.threads i))
    (hdestroyed : p'.destroyed = p.destroyed) (hhandled : p'.handled = p.handled) (hnext : p.nextTicket ≤ p'.nextTicket)
    (hmain : ∀ i cpyLen b t, p'.main = .submit i cpyLen b t → t ∉ c.entered)
    (hleaving : ∀ tid idx, p'.workers tid = some ⟨idx, .leaving⟩ → (p.threads idx).sqeNode ≠ none →
      (p.threads idx).ticket ∉ handledTickets p.handled) : Tracked p' c where
  ok := h.ok
  queue := by rw [hsqes, h.queue]
  held := fun i => by rw [(hslots i).sqeNode, h.held]
  freed := by rw [hdestroyed, h.freed]
  sorted := h.sorted
  old := fun t ht => Nat.lt_of_lt_of_le (h.old t ht) hnext
  armed := fun i hi => by
    rw [(hslots i).sqeNode] at hi
    rw [(hslots i).hasEvent, (hslots i).evFromSqe]
    exact h.armed i hi
  direct := fun i hev hs => by
    rw [(hslots i).hasEvent] at hev
    rw [(hslots i).evFromSqe] at hs
    rw [(hslots i).ticket]
    exact h.direct i hev hs
  main := hmain
  lost := fun t ht => by
    rw [hhandled]
    exact h.lost t ht
  leaving := fun tid idx hw hnode => by
    rw [(hslots idx).sqeNode] at hnode
    rw [(hslots idx).ticket, hhandled]
    exact hleaving tid idx hw hnode

/-- A new packet goes to the end of the queue. -/
lemma enqueue (h : Tracked p c) {node : QueNode} (hticket : node.ticket = p.nextTicket)
    (hsqes : p'.sqes = p.sqes.push node) (hthreads : p'.threads = p.threads) (hdestroyed : p'.destroyed = p.destroyed)
    (hhandled : p'.handled = p.handled) (hnext : p'.nextTicket = p.nextTicket + 1) (hmain : p'.main = .idle)
    (hworkers : p'.workers = p.workers) (hslots : ∀ i, (p.threads i).hasEvent = true → (p.threads i).ticket < p.nextTicket) :
    ∃ c', c.apply (.put p.nextTicket) = some c' ∧ Tracked p' c' := by
  have hnew : p.nextTicket ∉ c.entered := fun hmem => Nat.lt_irrefl _ (h.old _ hmem)
  refine ⟨_, rfl, h.ok.put hnew, ?_, fun i => by rw [hthreads]; exact h.held i, by rw [hdestroyed]; exact h.freed, ?_, ?_,
    fun i hi => by rw [hthreads] at hi ⊢; exact h.armed i hi, ?_, ?_, fun t ht => by rw [hhandled]; exact h.lost t ht, ?_⟩
  · rw [h.queue, hsqes, sqeTickets, sqeTickets, Fifo.push, List.map_append, ← hticket]
    rfl
  · rw [List.pairwise_append]
    refine ⟨h.sorted, List.pairwise_singleton _ _, fun t ht t' ht' => ?_⟩
    rw [List.mem_singleton.mp ht']
    exact h.old t ht
  · intro t ht
    rw [hnext]
    rcases List.mem_append.mp ht with ht | ht
    · exact Nat.lt_succ_of_lt (h.old t ht)
    · rw [List.mem_singleton.mp ht]
      exact Nat.lt_succ_self _
  · intro i hev hs hmem
    rw [hthreads] at hev hs hmem
    rcases List.mem_append.mp hmem with hmem | hmem
    · exact h.direct i hev hs hmem
    · exact Nat.ne_of_lt (hslots i hev) (List.mem_singleton.mp hmem)
  · intro i cpyLen b t ht
    rw [hmain] at ht
    cases ht
  · intro tid idx hw
    rw [hworkers] at hw
    rw [hthreads, hhandled]
    exact h.leaving tid idx hw

/-- An idle slot holds no node. -/
lemma idle_slot (h : Tracked p c) (hp : PoolInv p) {i : ℕ} (hpop : p.main.popped = some i) : (p.threads i).sqeNode = none := by
  by_contra hnode
  have hev := (h.armed i hnode).1
  rw [(hp.poppedIdle i hpop).2.2] at hev
  cases hev

/-- No worker leaves from the slot that the main thread has popped and has an event to give to. -/
lemma leaving_other (hnode : ∀ tid idx, p.workers tid = some ⟨idx, .leaving⟩ → (p.threads idx).sqeNode ≠ none →
      (p.threads idx).ticket ∉ handledTickets p.handled) {i : ℕ} {th : Thread}
    (hfresh : th.sqeNode ≠ none → th.ticket ∉ handledTickets p.handled) :
    ∀ tid idx, p.workers tid = some ⟨idx, .leaving⟩ → (Function.update p.threads i th idx).sqeNode ≠ none →
      (Function.update p.threads i th idx).ticket ∉ handledTickets p.handled := by
  intro tid idx hw
  by_cases hidx : idx = i
  · rw [hidx, Function.update_self]
    exact hfresh
  · rw [Function.update_of_ne hidx]
    exact hnode tid idx hw

/-- A packet that was never in the queue is stored in a slot. -/
lemma submit (h : Tracked p c) (hp : PoolInv p) {i cpyLen ticket : ℕ} {b : Buf} (hmain : p.main = .submit i cpyLen b ticket)
    (hsqes : p'.sqes = p.sqes)
    (hthreads : p'.threads = Function.update p.threads i (submitStore (p.threads i) b cpyLen ticket))
    (hdestroyed : p'.destroyed = p.destroyed) (hhandled : p'.handled = p.handled) (hnext : p'.nextTicket = p.nextTicket)
    (hidle : p'.main = .idle)
    (hworkers : p'.workers = p.workers ∨ p'.workers = Function.update p.workers p.nextTid (some ⟨i, .spawned⟩)) :
    Tracked p' c := by
  have hempty : (p.threads i).sqeNode = none := h.idle_slot hp (by rw [hmain]; rfl)
  refine ⟨h.ok, by rw [hsqes, h.queue], ?_, by rw [hdestroyed, h.freed], h.sorted, by rw [hnext]; exact h.old, ?_, ?_, ?_,
    by rw [hhandled]; exact h.lost, ?_⟩
  · intro j
    rw [hthreads]
    by_cases hj : j = i
    · rw [hj, Function.update_self, h.held i]
      rfl
    · rw [Function.update_of_ne hj, h.held j]
  · intro j hnode
    rw [hthreads] at hnode ⊢
    by_cases hj : j = i
    · rw [hj, Function.update_self] at hnode
      exact absurd hempty hnode
    · rw [Function.update_of_ne hj] at hnode ⊢
      exact h.armed j hnode
  · intro j hev hs
    rw [hthreads] at hev hs ⊢
    by_cases hj : j = i
    · rw [hj, Function.update_self]
      exact h.main i cpyLen b ticket hmain
    · rw [Function.update_of_ne hj] at hev hs ⊢
      exact h.direct j hev hs
  · intro j cpyLen' b' t ht
    rw [hidle] at ht
    cases ht
  · intro tid idx hw
    have hold : p.workers tid = some ⟨idx, .leaving⟩ := by
      rcases hworkers with hsame | hspawned
      · rw [← hsame, hw]
      · rw [hspawned] at hw
        exact leaving_of_update (by simp) hw
    rw [hthreads, hhandled]
    have hkept : (submitStore (p.threads i) b cpyLen ticket).sqeNode = none := hempty
    exact leaving_other h.leaving (fun hnode => absurd hkept hnode) tid idx hold

/-- The first node of the queue goes into a slot. -/
lemma dispatch (h : Tracked p c) (hp : PoolInv p) (ht : TicketInv p) {i : ℕ} {node : QueNode} {que : Fifo QueNode}
    (hmain : p.main = .dispatch i) (hque : p.sqes.items = node :: que.items) (hsqes : p'.sqes = que)
    (hthreads : p'.threads = Function.update p.threads i (dispatchStore (p.threads i) node))
    (hdestroyed : p'.destroyed = p.destroyed) (hhandled : p'.handled = p.handled) (hnext : p'.nextTicket = p.nextTicket)
    (hidle : p'.main = .idle)
    (hworkers : p'.workers = p.workers ∨ p'.workers = Function.update p.workers p.nextTid (some ⟨i, .spawned⟩)) :
    ∃ c', c.apply (.take i) = some c' ∧ Tracked p' c' := by
  have hempty : c.held i = none := by
    rw [h.held, h.idle_slot hp (by rw [hmain]; rfl)]
    rfl
  have hqueue : c.queue = node.ticket :: sqeTickets que := by
    rw [h.queue, sqeTickets, hque]
    rfl
  have hwaits : node.ticket ∈ sqeTickets p.sqes := by
    rw [← h.queue, hqueue]
    exact List.mem_cons_self
  refine ⟨{ c with left := c.left ++ [node.ticket], queue := sqeTickets que, held := Function.update c.held i (some node.ticket) },
    ?_, h.ok.take hqueue hempty, by rw [hsqes], ?_, by rw [hdestroyed]; exact h.freed, h.sorted, by rw [hnext]; exact h.old,
    ?_, ?_, ?_, by rw [hhandled]; exact h.lost, ?_⟩
  · simp only [Custody.apply, hqueue, hempty]
  · intro j
    rw [hthreads]
    dsimp only
    by_cases hj : j = i
    · rw [hj, Function.update_self, Function.update_self]
      rfl
    · rw [Function.update_of_ne hj, Function.update_of_ne hj, h.held j]
  · intro j hnode
    rw [hthreads] at hnode ⊢
    by_cases hj : j = i
    · rw [hj, Function.update_self]
      exact ⟨rfl, rfl⟩
    · rw [Function.update_of_ne hj] at hnode ⊢
      exact h.armed j hnode
  · intro j hev hs
    rw [hthreads] at hev hs ⊢
    by_cases hj : j = i
    · rw [hj, Function.update_self] at hs
      cases hs
    · rw [Function.update_of_ne hj] at hev hs ⊢
      exact h.direct j hev hs
  · intro j cpyLen' b' t ht
    rw [hidle] at ht
    cases ht
  · intro tid idx hw
    have hold : p.workers tid = some ⟨idx, .leaving⟩ := by
      rcases hworkers with hsame | hspawned
      · rw [← hsame, hw]
      · rw [hspawned] at hw
        exact leaving_of_update (by simp) hw
    rw [hthreads, hhandled]
    exact leaving_other h.leaving (fun _ => (ht.sqeOld node.ticket hwaits).2) tid idx hold

/-- A worker enters the handler with the event of its slot. -/
lemma enter (h : Tracked p c) (hp : PoolInv p) (ht : TicketInv p) (hd : DeliveryInv p) {tid idx : ℕ} {old : Phase} {str : List UInt8}
    (hw : p.workers tid = some ⟨idx, old⟩) (hold : old ≠ .leaving) (hev : (p.threads idx).hasEvent = true)
    (hsqes : p'.sqes = p.sqes) (hslots : ∀ i, SameSlot (p.threads i) (p'.threads i))
    (hdestroyed : p'.destroyed = p.destroyed) (hhandled : p'.handled = ((p.threads idx).ticket, str) :: p.handled)
    (hnext : p'.nextTicket = p.nextTicket) (hmain : p'.main = p.main)
    (hworkers : p'.workers = Function.update p.workers tid (some ⟨idx, .running⟩)) : Tracked p' c := by
  have hstays : ∀ tid' idx', p'.workers tid' = some ⟨idx', .leaving⟩ → p.workers tid' = some ⟨idx', .leaving⟩ := by
    intro tid' idx' hw'
    rw [hworkers] at hw'
    exact leaving_of_update (by simp) hw'
  have hquiet : Tracked { p' with handled := p.handled } c := by
    refine h.quiet hsqes hslots hdestroyed rfl hnext.ge ?_ (fun tid' idx' hw' => h.leaving tid' idx' (hstays tid' idx' hw'))
    intro i cpyLen b t hstore
    exact h.main i cpyLen b t (hmain.symm.trans hstore)
  have hnotLost : (p.threads idx).ticket ∉ c.lost := by
    intro hlost
    cases hs : (p.threads idx).evFromSqe with
    | false => exact h.direct idx hev hs ((h.ok.somewhere _).mpr ⟨.lost, hlost⟩)
    | true =>
      obtain ⟨node, hnode⟩ := Option.ne_none_iff_exists'.mp (hd.slotNode tid _ hw hold hev hs)
      have hheld : c.At (p.threads idx).ticket (.slot idx) := by
        change c.held idx = _
        rw [h.held, hnode, ← ht.node idx hev hs node hnode]
        rfl
      cases h.ok.nowhereElse _ (.slot idx) .lost hheld hlost
  have hnow : handledTickets p'.handled = (p.threads idx).ticket :: handledTickets p.handled := by
    rw [hhandled]
    rfl
  refine { hquiet with lost := ?lost, leaving := ?leaving }
  case lost =>
    intro t hlost
    rw [hnow, List.mem_cons, not_or]
    exact ⟨fun heq => hnotLost (heq ▸ hlost), h.lost t hlost⟩
  case leaving =>
    intro tid' idx' hw' hnode
    rw [hnow, List.mem_cons, not_or]
    refine ⟨fun heq => ?_, hquiet.leaving tid' idx' hw' hnode⟩
    -- two slots with events have different tickets, and a slot has one worker
    rw [(hslots idx').ticket] at heq
    rw [(hslots idx').sqeNode] at hnode
    have hidx : idx' = idx := ht.slotsDistinct idx' idx (h.armed idx' hnode).1 hev heq
    have hsame := hp.unique tid' tid _ _ (hstays tid' idx' hw') hw hidx
    rw [hsame, hworkers, Function.update_self, Option.some_inj, Worker.mk.injEq] at hw'
    cases hw'.2

/-- The slot gives its node away. -/
lemma release (h : Tracked p c) {idx : ℕ} {th : Thread} {c' : Custody ℕ ℕ} (hnode : th.sqeNode = none)
    (hdirect : th.hasEvent = true → th.evFromSqe = false → th.ticket ∉ c.entered)
    (hok : c'.Ok) (hentered : c'.entered = c.entered) (hqueue : c'.queue = c.queue)
    (hheld : c'.held = Function.update c.held idx none) (hfreed : c'.freed = p'.destroyed)
    (hlost : ∀ t ∈ c'.lost, t ∉ handledTickets p.handled)
    (hsqes : p'.sqes = p.sqes) (hthreads : p'.threads = Function.update p.threads idx th)
    (hhandled : p'.handled = p.handled) (hnext : p'.nextTicket = p.nextTicket) (hmain : p'.main = p.main)
    (hleaving : ∀ tid j, j ≠ idx → p'.workers tid = some ⟨j, .leaving⟩ → p.workers tid = some ⟨j, .leaving⟩) :
    Tracked p' c' where
  ok := hok
  queue := by rw [hqueue, hsqes, h.queue]
  held := by
    intro j
    rw [hheld, hthreads]
    by_cases hj : j = idx
    · rw [hj, Function.update_self, Function.update_self, hnode]
      rfl
    · rw [Function.update_of_ne hj, Function.update_of_ne hj, h.held j]
  freed := hfreed
  sorted := hentered ▸ h.sorted
  old := by
    rw [hentered, hnext]
    exact h.old
  armed := by
    intro j hj
    rw [hthreads] at hj ⊢
    by_cases hidx : j = idx
    · rw [hidx, Function.update_self] at hj
      exact absurd hnode hj
    · rw [Function.update_of_ne hidx] at hj ⊢
      exact h.armed j hj
  direct := by
    intro j hev hs
    rw [hthreads] at hev hs ⊢
    rw [hentered]
    by_cases hidx : j = idx
    · rw [hidx, Function.update_self] at hev hs ⊢
      exact hdirect hev hs
    · rw [Function.update_of_ne hidx] at hev hs ⊢
      exact h.direct j hev hs
  main := by
    intro i cpyLen b t
    rw [hmain, hentered]
    exact h.main i cpyLen b t
  lost := by
    rw [hhandled]
    exact hlost
  leaving := by
    intro tid j hw hj
    rw [hthreads] at hj ⊢
    rw [hhandled]
    by_cases hidx : j = idx
    · rw [hidx, Function.update_self] at hj
      exact absurd hnode hj
    · rw [Function.update_of_ne hidx] at hj ⊢
      exact h.leaving tid j (hleaving tid j hidx hw) hj

/-- The node in a slot has the ticket of the slot. -/
lemma held_node (h : Tracked p c) (ht : TicketInv p) {idx : ℕ} {node : QueNode} (hnode : (p.threads idx).sqeNode = some node) :
    c.held idx = some node.ticket ∧ node.ticket = (p.threads idx).ticket := by
  obtain ⟨hev, hs⟩ := h.armed idx (by rw [hnode]; exact Option.some_ne_none node)
  refine ⟨?_, ht.node idx hev hs node hnode⟩
  rw [h.held, hnode]
  rfl

lemma held_none (h : Tracked p c) {idx : ℕ} (hnode : (p.threads idx).sqeNode = none) :
    c.held = Function.update c.held idx none := by
  have hheld : c.held idx = none := by
    rw [h.held, hnode]
    rfl
  rw [← hheld, Function.update_eq_self]

lemma finished (h : Tracked p c) (idx : ℕ) :
    (finishedThread (p.threads idx)).sqeNode = none ∧
      (finishedThread (p.threads idx)).evFromSqe = (p.threads idx).evFromSqe := by
  unfold finishedThread
  cases hs : (p.threads idx).evFromSqe with
  | false =>
    rw [if_neg Bool.false_ne_true]
    refine ⟨?_, hs⟩
    by_contra hnode
    rw [(h.armed idx hnode).2] at hs
    cases hs
  | true => exact ⟨rfl, rfl⟩

/-- The handler of a worker has returned, and the node is freed. -/
lemma finish (h : Tracked p c) (hp : PoolInv p) (ht : TicketInv p) (hd : DeliveryInv p) {tid idx : ℕ} {th : Thread} {phase : Phase}
    (hw : p.workers tid = some ⟨idx, .running⟩) (hnode : th.sqeNode = none)
    (hth : th.hasEvent = true → th.evFromSqe = (p.threads idx).evFromSqe ∧ th.ticket = (p.threads idx).ticket)
    (hsqes : p'.sqes = p.sqes) (hthreads : p'.threads = Function.update p.threads idx th)
    (hdestroyed : p'.destroyed = freedTickets (p.threads idx) ++ p.destroyed) (hhandled : p'.handled = p.handled)
    (hnext : p'.nextTicket = p.nextTicket) (hmain : p'.main = p.main)
    (hworkers : p'.workers = Function.update p.workers tid (some ⟨idx, phase⟩)) :
    ∃ c', follow c (poolNodeOp p p' (.finish tid)) = some c' ∧ Tracked p' c' := by
  have hev := hp.busy tid _ hw (Or.inr rfl)
  have hdirect : th.hasEvent = true → th.evFromSqe = false → th.ticket ∉ c.entered := by
    intro hev' hs
    obtain ⟨hsame, hticket⟩ := hth hev'
    rw [hticket]
    exact h.direct idx hev (hsame.symm.trans hs)
  have hleaving : ∀ t j, j ≠ idx → p'.workers t = some ⟨j, .leaving⟩ → p.workers t = some ⟨j, .leaving⟩ := by
    intro t j hj hold
    have hne : t ≠ tid := by
      rintro rfl
      rw [hworkers, Function.update_self, Option.some_inj, Worker.mk.injEq] at hold
      exact hj hold.1.symm
    rw [hworkers, Function.update_of_ne hne] at hold
    exact hold
  have hop : poolNodeOp p p' (.finish tid) = if (p.threads idx).evFromSqe then some (.free idx) else none := by
    simp only [poolNodeOp, hw, Option.bind_some]
  rw [hop]
  unfold freedTickets at hdestroyed
  cases hs : (p.threads idx).evFromSqe with
  | false =>
    have hempty : (p.threads idx).sqeNode = none := by
      by_contra hsome
      rw [(h.armed idx hsome).2] at hs
      cases hs
    refine ⟨c, rfl, h.release hnode hdirect h.ok rfl rfl (h.held_none hempty) ?_ h.lost hsqes hthreads hhandled hnext hmain hleaving⟩
    rw [hdestroyed, hs, h.freed]
    rfl
  | true =>
    obtain ⟨node, hsome⟩ := Option.ne_none_iff_exists'.mp (hd.slotNode tid _ hw (by simp) hev hs)
    have hheld := (h.held_node ht hsome).1
    refine ⟨{ c with held := Function.update c.held idx none, freed := node.ticket :: c.freed }, ?_, h.release hnode hdirect
      (h.ok.release hheld).1 rfl rfl rfl ?_ h.lost hsqes hthreads hhandled hnext hmain hleaving⟩
    · rw [if_pos rfl]
      simp only [follow, Custody.apply, hheld, Option.map_some]
    · rw [hdestroyed, hs, h.freed, if_pos rfl, hsome]
      rfl

/-- `reset_thread` of a worker that left. -/
lemma reset (h : Tracked p c) (ht : TicketInv p) {tid idx : ℕ} {th : Thread} (hw : p.workers tid = some ⟨idx, .leaving⟩)
    (hnode : th.sqeNode = none) (hth : th.hasEvent = false)
    (hsqes : p'.sqes = p.sqes) (hthreads : p'.threads = Function.update p.threads idx th)
    (hdestroyed : p'.destroyed = p.destroyed) (hhandled : p'.handled = p.handled)
    (hnext : p'.nextTicket = p.nextTicket) (hmain : p'.main = p.main)
    (hworkers : p'.workers = Function.update p.workers tid none) :
    ∃ c', follow c (poolNodeOp p p' (.reset tid)) = some c' ∧ Tracked p' c' := by
  have hdirect : th.hasEvent = true → th.evFromSqe = false → th.ticket ∉ c.entered := by
    intro hev
    rw [hth] at hev
    cases hev
  have hleaving : ∀ t j, j ≠ idx → p'.workers t = some ⟨j, .leaving⟩ → p.workers t = some ⟨j, .leaving⟩ := by
    intro t j _ hold
    have hne : t ≠ tid := by
      rintro rfl
      rw [hworkers, Function.update_self] at hold
      cases hold
    rw [hworkers, Function.update_of_ne hne] at hold
    exact hold
  have hop : poolNodeOp p p' (.reset tid) = if (p.threads idx).sqeNode.isSome then some (.lose idx) else none := by
    simp only [poolNodeOp, hw, Option.bind_some]
  rw [hop]
  cases hsome : (p.threads idx).sqeNode with
  | none =>
    exact ⟨c, rfl, h.release hnode hdirect h.ok rfl rfl (h.held_none hsome) (h.freed.trans hdestroyed.symm) h.lost hsqes hthreads
      hhandled hnext hmain hleaving⟩
  | some node =>
    obtain ⟨hheld, hticket⟩ := h.held_node ht hsome
    refine ⟨{ c with held := Function.update c.held idx none, lost := node.ticket :: c.lost }, ?_, h.release hnode hdirect
      (h.ok.release hheld).2 rfl rfl rfl (h.freed.trans hdestroyed.symm) ?_ hsqes hthreads hhandled hnext hmain hleaving⟩
    · simp only [Option.isSome_some, if_true, follow, Custody.apply, hheld, Option.map_some]
    · intro t hlost
      rcases List.mem_cons.mp hlost with rfl | hlost
      · rw [hticket]
        exact h.leaving tid idx hw (by rw [hsome]; exact Option.some_ne_none node)
      · exact h.lost t hlost

theorem effect (h : Tracked p c) (hp : PoolInv p) (ht : TicketInv p) (hd : DeliveryInv p) {act : PoolAct}
    (he : PoolEffect p act p') : ∃ c', follow c (poolNodeOp p p' act) = some c' ∧ Tracked p' c' := by
  have hsameLength : p'.sqes = p.sqes → enqueueOp p p' = none := by
    intro hsqes
    unfold enqueueOp
    rw [hsqes, if_pos rfl]
  have hmoved : ∀ {tid idx : ℕ} {phase : Phase}, phase ≠ .leaving → ∀ tid' idx',
      Function.update p.workers tid (some ⟨idx, phase⟩) tid' = some ⟨idx', .leaving⟩ → (p.threads idx').sqeNode ≠ none →
        (p.threads idx').ticket ∉ handledTickets p.handled :=
    fun hphase tid' idx' hw' => h.leaving tid' idx' (leaving_of_update hphase hw')
  cases he with
  | enqueueFail n b alloc hmain hstk =>
    refine ⟨c, by rw [poolNodeOp, hsameLength rfl]; rfl, ?_⟩
    exact h.quiet rfl (fun i => sameSlot_refl _) rfl rfl (Nat.le_succ _) h.main h.leaving
  | enqueue n b junk hmain hstk =>
    have hgrows : enqueueOp p { withTicket p n b with
        sqes := p.sqes.push (sqeNodeOf b (offsetofData + n) p.nextTicket junk), accepted := p.nextTicket :: p.accepted } =
        some (.put p.nextTicket) := by
      unfold enqueueOp
      rw [if_neg]
      simp [Fifo.push]
    rw [poolNodeOp, hgrows]
    exact h.enqueue rfl rfl rfl rfl rfl rfl hmain rfl (fun i hi => (ht.slotOld i hi).1)
  | popSubmit n b alloc i stk hmain hstk hok hcap =>
    refine ⟨c, by rw [poolNodeOp, hsameLength rfl]; rfl, ?_⟩
    refine h.quiet rfl (fun i => sameSlot_refl _) rfl rfl (Nat.le_succ _) ?_ h.leaving
    rintro j cpyLen b' t ⟨⟩ hmem
    exact Nat.lt_irrefl _ (h.old _ hmem)
  | submitOnline i cpyLen b ticket create hmain | submitNoThread i cpyLen b ticket create hmain =>
    exact ⟨c, rfl, h.submit hp hmain rfl rfl rfl rfl rfl rfl (Or.inl rfl)⟩
  | submitSpawn i cpyLen b ticket hmain => exact ⟨c, rfl, h.submit hp hmain rfl rfl rfl rfl rfl rfl (Or.inr rfl)⟩
  | dispatchBusy => exact ⟨c, rfl, h⟩
  | popDispatch i stk hmain hque hstk hok hcap =>
    refine ⟨c, rfl, h.quiet rfl (fun i => sameSlot_refl _) rfl rfl (Nat.le_refl _) ?_ h.leaving⟩
    intro j cpyLen b' t hstore
    cases hstore
  | dispatchOnline i create node que hmain hfree hque | dispatchNoThread i create node que hmain hfree hque =>
    rw [poolNodeOp, hmain]
    exact h.dispatch hp ht hmain hque rfl rfl rfl rfl rfl rfl (Or.inl rfl)
  | dispatchSpawn i node que hmain hfree hque =>
    rw [poolNodeOp, hmain]
    exact h.dispatch hp ht hmain hque rfl rfl rfl rfl rfl rfl (Or.inr rfl)
  | dispatchPanic i create hmain hque => exact absurd hque (hp.queued i hmain)
  | startRun tid idx old hw hold hfree hev =>
    exact ⟨c, rfl, h.enter hp ht hd hw (by rintro rfl; simp at hold) hev rfl (sameNode_online idx) rfl rfl rfl rfl rfl⟩
  | wakeRun tid idx counter ret hw hfree hstay hev =>
    exact ⟨c, rfl, h.enter hp ht hd hw (by simp) hev rfl (fun i => sameSlot_refl _) rfl rfl rfl rfl rfl⟩
  | startWait tid idx old hw hold hfree hev =>
    exact ⟨c, rfl, h.quiet rfl (sameNode_online idx) rfl rfl (Nat.le_refl _) h.main (hmoved (by simp))⟩
  | wakeLeave tid idx counter ret hw hfree hout =>
    refine ⟨c, rfl, h.quiet rfl (fun i => sameSlot_refl _) rfl rfl (Nat.le_refl _) h.main ?_⟩
    intro tid' idx' hw' hnode
    by_cases htid : tid' = tid
    · rw [htid] at hw'
      dsimp only at hw'
      rw [Function.update_self, Option.some_inj, Worker.mk.injEq] at hw'
      obtain ⟨rfl, -⟩ := hw'
      exact ht.armed tid _ hw (by simp) (by simp) (h.armed idx hnode).1
    · dsimp only at hw'
      rw [Function.update_of_ne htid] at hw'
      exact h.leaving tid' idx' hw' hnode
  | wakeWait | push | unlock =>
    exact ⟨c, rfl, h.quiet rfl (fun i => sameSlot_refl _) rfl rfl (Nat.le_refl _) h.main (hmoved (by simp))⟩
  | finishLeave tid idx hw =>
    obtain ⟨hnode, hs⟩ := h.finished idx
    have hticket := (PoolInv.finishedThread_fields (p.threads idx)).2.2.2
    exact h.finish hp ht hd hw hnode (fun _ => ⟨hs, hticket⟩) rfl rfl rfl rfl rfl rfl rfl
  | finishClear tid idx hw =>
    have hnode : ({ finishedThread (p.threads idx) with hasEvent := false } : Thread).sqeNode = none := (h.finished idx).1
    exact h.finish hp ht hd hw hnode (fun hev => by cases hev) rfl rfl rfl rfl rfl rfl rfl
  | reset tid idx hw => exact h.reset ht hw rfl rfl rfl rfl rfl rfl rfl rfl rfl
  | interrupt => exact ⟨c, rfl, { h with }⟩

end Tracked

/-! ### Runs of the server -/

section Runs

variable {s s' : Server} {c : Custody ℕ ℕ}

/-- Every step of the server is one that the custody allows. -/
theorem tracked_step (hfull : FullInv s) (h : Tracked s.pool c) {act : ServerAct} (hstep : serverStep s act = some s') :
    ∃ c', trackStep (s, c) act = some (s', c') ∧ Tracked s'.pool c' := by
  have hpool : ∀ {pact : PoolAct}, PoolEffect s.pool pact s'.pool → nodeOp s.pool s'.pool act = poolNodeOp s.pool s'.pool pact →
      ∃ c', follow c (nodeOp s.pool s'.pool act) = some c' ∧ Tracked s'.pool c' := by
    intro pact he hop
    rw [hop]
    exact h.effect hfull.pool hfull.tickets hfull.delivery he
  have hfollow : ∃ c', follow c (nodeOp s.pool s'.pool act) = some c' ∧ Tracked s'.pool c' := by
    cases hfull.server.toEffect hstep with
    | wait => exact ⟨c, rfl, h⟩
    | tcp env errMask rest batch ret net stop => exact ⟨c, rfl, { h with }⟩
    | panic | client =>
      refine ⟨c, ?_, h⟩
      rw [nodeOp, enqueueOp, if_pos rfl]
      rfl
    | enqueue recv alloc fd errMask rest n net pool hmain hbatch hfd hrecv hmap heff hp =>
      exact hpool (poolStep_effect hfull.pool.stkOk hp) rfl
    | store recv alloc fd errMask rest n net pool hmain hbatch hfd hrecv hmap heff hp =>
      exact hpool (poolStep_effect hfull.pool.stkOk hp) rfl
    | submitted create fd j pool hpend hp => exact hpool (poolStep_effect hfull.pool.stkOk hp) rfl
    | other act pool hsubmit hstore hp => exact hpool (poolStep_effect hfull.pool.stkOk hp) rfl
  obtain ⟨c', hnext, htracked⟩ := hfollow
  refine ⟨c', ?_, htracked⟩
  simp only [trackStep, hstep, Option.bind_some, hnext, Option.map_some]

lemma tracked_run (hfull : FullInv s) (h : Tracked s.pool c) {acts : List ServerAct} (hrun : run serverStep s acts = some s') :
    ∃ c', run trackStep (s, c) acts = some (s', c') ∧ Tracked s'.pool c' ∧ TicketInv s'.pool := by
  induction acts generalizing s c with
  | nil =>
    rw [run_nil, Option.some_inj] at hrun
    subst hrun
    exact ⟨c, rfl, h, hfull.tickets⟩
  | cons act acts ih =>
    obtain ⟨t, hstep, hrest⟩ := run_cons.mp hrun
    obtain ⟨c₁, htrack, h₁⟩ := tracked_step hfull h hstep
    obtain ⟨c', hrun', h', ht'⟩ := ih (hfull.step hstep) h₁ hrest
    exact ⟨c', run_cons.mpr ⟨_, htrack, hrun'⟩, h', ht'⟩

end Runs

/-- In every run of the server, each node that was ever queued is in one place: in the queue, in one slot, freed, or lost by a
worker that left; a node is freed at most once and only after its packet was handled, and a packet that was lost was not. -/
theorem nodes_are_freed_once (threadC tcpFd : ℕ) (chanJunk threadJunk : ℕ → ℕ → UInt8) (hc : threadC ≤ 0xffff)
    (acts : List ServerAct) (s : Server) (hrun : run serverStep (initServer threadC tcpFd chanJunk threadJunk) acts = some s) :
    ∃ c, run trackStep (initServer threadC tcpFd chanJunk threadJunk, start) acts = some (s, c) ∧
      c.queue = sqeTickets s.pool.sqes ∧ (∀ i, c.held i = (s.pool.threads i).sqeNode.map QueNode.ticket) ∧
      c.freed = s.pool.destroyed ∧ (∀ t, t ∈ c.entered ↔ ∃! place, c.At t place) ∧ c.freed.Nodup ∧
      (∀ t ∈ c.freed, t ∈ handledTickets s.pool.handled) ∧ ∀ t ∈ c.lost, t ∉ handledTickets s.pool.handled := by
  obtain ⟨c, htrack, h, ht⟩ :=
    tracked_run (FullInv.init tcpFd chanJunk threadJunk hc) (tracked_init threadC threadJunk) hrun
  refine ⟨c, htrack, h.queue, h.held, h.freed, h.ok.unique_place, h.ok.freedNodup, ?_, h.lost⟩
  rw [h.freed]
  exact ht.destroyedHandled

/-- The second of two packets has been queued, and the only worker has its node. -/
theorem nodes_are_freed_once_queuedRun :
    ∃ c, run trackStep (initServer 1 3 (fun _ _ => 0) (fun _ _ => 0), start) queuedRun = some (stateAfter queuedRun, c) ∧
      c.held 0 = some 1 ∧ c.freed = [] := by
  obtain ⟨c, htrack, -, hheld, hfreed, -⟩ :=
    nodes_are_freed_once 1 3 (fun _ _ => 0) (fun _ _ => 0) (by decide) queuedRun (stateAfter queuedRun) rfl
  exact ⟨c, htrack, (hheld 0).trans rfl, hfreed.trans rfl⟩

/-- In every run of the server, packets leave the queue in the order in which they came: what has left it and what is in it
are together what has entered it, in the order of the submissions. -/
theorem queue_is_served_in_order (threadC tcpFd : ℕ) (chanJunk threadJunk : ℕ → ℕ → UInt8) (hc : threadC ≤ 0xffff)
    (acts : List ServerAct) (s : Server) (hrun : run serverStep (initServer threadC tcpFd chanJunk threadJunk) acts = some s) :
    ∃ c, run trackStep (initServer threadC tcpFd chanJunk threadJunk, start) acts = some (s, c) ∧
      c.entered = c.left ++ sqeTickets s.pool.sqes ∧ c.entered.Pairwise (· < ·) ∧
      ∀ i, (s.pool.threads i).hasEvent = true → (s.pool.threads i).evFromSqe = false →
        (s.pool.threads i).ticket ∉ c.entered := by
  obtain ⟨c, htrack, h, -⟩ :=
    tracked_run (FullInv.init tcpFd chanJunk threadJunk hc) (tracked_init threadC threadJunk) hrun
  exact ⟨c, htrack, h.queue ▸ h.ok.order, h.sorted, h.direct⟩

theorem queue_is_served_in_order_queuedRun :
    ∃ c, run trackStep (initServer 1 3 (fun _ _ => 0) (fun _ _ => 0), start) queuedRun = some (stateAfter queuedRun, c) ∧
      c.entered = c.left := by
  obtain ⟨c, htrack, horder, -⟩ :=
    queue_is_served_in_order 1 3 (fun _ _ => 0) (fun _ _ => 0) (by decide) queuedRun (stateAfter queuedRun) rfl
  have hempty : sqeTickets (stateAfter queuedRun).pool.sqes = [] := rfl
  rw [hempty, List.append_nil] at horder
  exact ⟨c, htrack, horder⟩

end GNUWeebBot.Proofs
