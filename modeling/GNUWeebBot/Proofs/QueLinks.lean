import GNUWeebBot.Lib.Transition
import GNUWeebBot.Proofs.Que

/-!
# The links backwards

Only `que_enqueue` stores `prev`, and only in the new node. So the node that comes to the head when
the one before it is taken still points back to that one, which its user may have freed: the queue
is linked in both directions as long as no node is taken from the front of another one.
-/

namespace GNUWeebBot.Proofs

open Que Transition

/-- The queued nodes are linked in both directions, with null pointers at the ends. -/
def DoublyLinked (s : State) : Prop := Chain.Doubly (nextOf s.heap) (prevOf s.heap) s.que.head s.que.tail

/-- `que_dequeue` is called with one node in the queue, or with none. -/
def TakesLast (u : User) : Call → Prop
  | .dequeue => queCount u.state.que ≤ 1
  | _ => True

/-- The user has the nodes of `q` that are taken, and the first queued one points back to `r`. -/
structure UserStores (u : User) (q : QueSpec) (r : Option Addr) : Prop where
  stores : StoresQueue u.state q
  taken : q.taken.map Prod.fst = u.taken
  back : Chain.Backward (prevOf u.state.heap) r q.nodes

/-- What a call does to the abstract queue, and to the link backwards of its first node. -/
inductive UserEffect (q : QueSpec) (r : Option Addr) : Call → QueSpec → Option Addr → Prop
  | refused (data : List UInt8) (alloc : Except ℤ (Addr × Node)) : UserEffect q r (.enqueue data alloc) q r
  | first (data : List UInt8) (node : Addr) (raw : Node) (hnil : q.nodes = []) :
      UserEffect q r (.enqueue data (.ok (node, raw))) (q.push node data) none
  | behind (data : List UInt8) (node : Addr) (raw : Node) (hcons : q.nodes ≠ []) :
      UserEffect q r (.enqueue data (.ok (node, raw))) (q.push node data) r
  | empty (hnil : q.nodes = []) : UserEffect q r .dequeue q r
  | take (x : Addr × List UInt8) (rest : List (Addr × List UInt8)) (hitems : q.queue.items = x :: rest) :
      UserEffect q r .dequeue (q.take x { q.queue with items := rest }) (some x.1)
  | destroy (node : Addr) : UserEffect q r (.destroy node) (q.drop node) r

namespace UserStores

variable {u : User} {q : QueSpec} {r : Option Addr}

lemma init (capacity : UInt32) (errno : ℤ) (freed : List Addr) :
    UserStores (User.init capacity errno freed) (QueSpec.empty capacity.toNat) none where
  stores := StoresQueue.init capacity errno freed
  taken := rfl
  back := trivial

/-- The new node points back to the tail. -/
lemma enqueue (h : UserStores u q r) (hroom : ¬q.Full) (data : List UInt8) {node : Addr} (raw : Node)
    (hfree : u.state.heap node = none) :
    ∃ s' r', Que.queEnqueue data (.ok (node, raw)) u.state = .next (some node) s' ∧
      UserEffect q r (.enqueue data (.ok (node, raw))) (q.push node data) r' ∧
      UserStores ⟨s', u.taken⟩ (q.push node data) r' := by
  have hfresh : node ∉ q.live.map Prod.fst := fun hmem => (h.stores.allocated node).mpr hmem hfree
  obtain ⟨s', hrun, hstores, hprev⟩ := h.stores.enqueue hroom data raw hfresh
  have hnode : prevOf s'.heap node = some q.nodes.getLast? := by
    rw [hprev, Function.update_self, h.stores.tail]
  by_cases hnil : q.nodes = []
  · refine ⟨s', none, hrun, .first data node raw hnil, hstores, h.taken, ?_⟩
    rw [StoresQueue.nodes_push, Chain.backward_concat, hnode, hnil]
    exact ⟨trivial, rfl⟩
  · refine ⟨s', r, hrun, .behind data node raw hnil, hstores, h.taken, ?_⟩
    rw [StoresQueue.nodes_push, Chain.backward_concat, hnode]
    constructor
    · apply h.back.congr
      intro b hb
      have hne : b ≠ node := fun heq => hfresh (heq ▸ StoresQueue.mem_live_of_mem_nodes hb)
      rw [hprev, Function.update_of_ne hne]
    · rw [List.getLast?_eq_some_getLast hnil]
      rfl

/-- The node behind the one that is taken still points back to it. -/
lemma dequeue (h : UserStores u q r) {x : Addr × List UInt8} {rest : List (Addr × List UInt8)}
    (hitems : q.queue.items = x :: rest) :
    ∃ s', queDequeue u.state = .next (some x.1) s' ∧
      UserStores ⟨s', x.1 :: u.taken⟩ (q.take x { q.queue with items := rest }) (some x.1) := by
  obtain ⟨s', hrun, hheap, hstores⟩ := h.stores.dequeue_item hitems
  have hback := h.back
  rw [QueSpec.nodes, hitems, List.map_cons] at hback
  refine ⟨s', hrun, hstores, congrArg (x.1 :: ·) h.taken, ?_⟩
  rw [hheap]
  exact hback.2

/-- Destroying a node of the user leaves the queued ones alone. -/
lemma destroy (h : UserStores u q r) {node : Addr} (hmem : node ∈ u.taken) :
    ∃ s', queNodeDestroy (some node) u.state = .next () s' ∧
      UserStores ⟨s', u.taken.filter (fun a => a != node)⟩ (q.drop node) r := by
  rw [← h.taken] at hmem
  obtain ⟨s', hrun, hstores, hheap⟩ := h.stores.drop hmem
  obtain ⟨hqueued, -⟩ := h.stores.live_drop hmem
  refine ⟨s', hrun, hstores, ?_, ?_⟩
  · rw [← h.taken, List.filter_map]
    rfl
  · apply h.back.congr
    intro b hb
    rw [hheap, prevOf, prevOf, Function.update_of_ne (hqueued b hb)]

/-- Each call that is allowed returns. -/
lemma call (h : UserStores u q r) {c : Call} (hallows : u.allows c = true) :
    ∃ u' q' r', u.call c = some u' ∧ UserEffect q r c q' r' ∧ UserStores u' q' r' := by
  cases c with
  | enqueue data alloc =>
    by_cases hfull : q.Full
    · have hrun := h.stores.enqueue_full hfull data alloc
      refine ⟨{ u with state := { u.state with errno := EAGAIN } }, q, r, ?_, .refused data alloc, ?_⟩
      · rw [User.call, hrun]
      · exact ⟨h.stores.withErrno EAGAIN, h.taken, h.back⟩
    · cases alloc with
      | error err =>
        have hrun := h.stores.enqueue_no_memory hfull data err
        refine ⟨{ u with state := { u.state with errno := err } }, q, r, ?_, .refused data _, ?_⟩
        · rw [User.call, hrun]
        · exact ⟨h.stores.withErrno err, h.taken, h.back⟩
      | ok block =>
        obtain ⟨node, raw⟩ := block
        obtain ⟨s', r', hrun, heff, hstores⟩ := h.enqueue hfull data raw (Option.isNone_iff_eq_none.mp hallows)
        refine ⟨_, _, r', ?_, heff, hstores⟩
        rw [User.call, hrun]
  | dequeue =>
    cases hitems : q.queue.items with
    | nil =>
      have hrun := h.stores.dequeue_empty hitems
      refine ⟨u, q, r, ?_, .empty (StoresQueue.nodes_eq_nil_iff.mpr hitems), h⟩
      rw [User.call, hrun]
    | cons x rest =>
      obtain ⟨s', hrun, hstores⟩ := h.dequeue hitems
      refine ⟨_, _, _, ?_, .take x rest hitems, hstores⟩
      rw [User.call, hrun]
  | destroy node =>
    obtain ⟨s', hrun, hstores⟩ := h.destroy (of_decide_eq_true hallows)
    refine ⟨_, _, _, ?_, .destroy node, hstores⟩
    rw [User.call, hrun]

lemma effect (h : UserStores u q r) {c : Call} {u' : User} (hstep : u.step c = some u') :
    ∃ q' r', UserEffect q r c q' r' ∧ UserStores u' q' r' := by
  unfold User.step at hstep
  split at hstep
  · rename_i hallows
    obtain ⟨v, q', r', hcall, heff, hstores⟩ := h.call hallows
    obtain rfl : v = u' := Option.some_inj.mp (hcall.symm.trans hstep)
    exact ⟨q', r', heff, hstores⟩
  · cases hstep

lemma doublyLinked_iff (h : UserStores u q r) : DoublyLinked u.state ↔ q.nodes = [] ∨ r = none :=
  Chain.doubly_iff h.stores.chain h.back h.stores.nodup_nodes h.stores.tail

/-- Only taking a node from the front of another one breaks the links. -/
lemma doublyLinked_step_iff (h : UserStores u q r) {c : Call} {q' : QueSpec} {r' : Option Addr} {u' : User}
    (heff : UserEffect q r c q' r') (h' : UserStores u' q' r') (hgood : DoublyLinked u.state) :
    DoublyLinked u'.state ↔ TakesLast u c := by
  rw [h.doublyLinked_iff] at hgood
  rw [h'.doublyLinked_iff]
  cases heff with
  | refused data alloc => exact iff_of_true hgood trivial
  | first data node raw hnil => exact iff_of_true (Or.inr rfl) trivial
  | behind data node raw hcons => exact iff_of_true (Or.inr (hgood.resolve_left hcons)) trivial
  | empty hnil =>
    have hcount := h.stores.count
    rw [StoresQueue.nodes_eq_nil_iff.mp hnil] at hcount
    refine iff_of_true hgood ?_
    rw [TakesLast, queCount, UInt32.le_iff_toNat_le, hcount]
    exact Nat.zero_le _
  | take x rest hitems =>
    have hcount := h.stores.count
    rw [hitems, List.length_cons] at hcount
    rw [or_iff_left (Option.some_ne_none x.1), StoresQueue.nodes_eq_nil_iff, TakesLast, queCount,
      UInt32.le_iff_toNat_le, hcount, UInt32.toNat_one, ← List.length_eq_zero_iff]
    exact (Nat.succ_le_succ_iff.trans Nat.le_zero).symm
  | destroy node => exact iff_of_true hgood trivial

end UserStores

lemma userStores_step (u : User) (c : Call) (u' : User) (h : ∃ q r, UserStores u q r) (hstep : u.step c = some u') :
    ∃ q r, UserStores u' q r := by
  obtain ⟨q, r, hu⟩ := h
  obtain ⟨q', r', -, hu'⟩ := hu.effect hstep
  exact ⟨q', r', hu'⟩

/-- The user of a queue is in a state that stands for an abstract queue. -/
lemma userStores_of_reachable {capacity : UInt32} {errno : ℤ} {freed : List Addr} {u : User}
    (h : Reachable User.step (User.init capacity errno freed) u) : ∃ q r, UserStores u q r :=
  reachable_preserves (fun u => ∃ q r, UserStores u q r) userStores_step
    ⟨_, _, UserStores.init capacity errno freed⟩ h

/-- No call fails a `TASSERT` or meets a block that is not allocated. -/
theorem allowed_call_returns {capacity : UInt32} {errno : ℤ} {freed : List Addr} {u : User}
    (h : Reachable User.step (User.init capacity errno freed) u) {c : Call} (hallows : u.allows c = true) :
    ∃ u', u.step c = some u' := by
  obtain ⟨q, r, hu⟩ := userStores_of_reachable h
  obtain ⟨u', -, -, hcall, -, -⟩ := hu.call hallows
  exact ⟨u', (if_pos hallows).trans hcall⟩

/-- The node that `que_dequeue` leaves at the head points back to the one it returned. -/
theorem head_points_back {capacity : UInt32} {errno : ℤ} {freed : List Addr} {u : User}
    (h : Reachable User.step (User.init capacity errno freed) u) {node head : Addr} {s' : State}
    (hdequeue : queDequeue u.state = .next (some node) s') (hhead : s'.que.head = some head) :
    prevOf s'.heap head = some (some node) := by
  obtain ⟨q, r, hu⟩ := userStores_of_reachable h
  cases hitems : q.queue.items with
  | nil => cases hdequeue.symm.trans (hu.stores.dequeue_empty hitems)
  | cons x rest =>
    obtain ⟨s, hrun, hstores⟩ := hu.dequeue hitems
    cases hdequeue.symm.trans hrun
    have hfirst := Chain.linked_head hstores.stores.chain
    have hback := hstores.back
    rw [hhead] at hfirst
    generalize (q.take x { q.queue with items := rest }).nodes = nodes at hfirst hback
    cases nodes with
    | nil => cases hfirst
    | cons a nodes =>
      cases hfirst
      exact hback.1

/-- The queue is linked in both directions in every state of a run exactly if no node is taken
from the front of another one in it. -/
theorem que_doubly_linked_iff (capacity : UInt32) (errno : ℤ) (freed : List Addr) (calls : List Call) (u : User)
    (hrun : run User.step (User.init capacity errno freed) calls = some u) :
    Always User.step (fun u => DoublyLinked u.state) (User.init capacity errno freed) calls ↔
      EachStep User.step TakesLast (User.init capacity errno freed) calls := by
  have hinit := UserStores.init capacity errno freed
  refine always_iff_eachStep_of_inv (fun u => ∃ q r, UserStores u q r) userStores_step ?_ ⟨_, _, hinit⟩
    (hinit.doublyLinked_iff.mpr (Or.inr rfl)) hrun
  rintro u c u' ⟨q, r, hu⟩ hgood hstep
  obtain ⟨q', r', heff, hu'⟩ := hu.effect hstep
  exact hu.doublyLinked_step_iff heff hu' hgood

theorem que_doubly_linked_refilled :
    Always User.step (fun u => DoublyLinked u.state) (User.init 2 0 [])
      [.enqueue [65] (.ok (1, rawNode)), .dequeue, .destroy 1, .enqueue [66] (.ok (1, rawNode))] := by
  refine (que_doubly_linked_iff 2 0 [] _ _ rfl).mpr ⟨trivial, fun u₁ h₁ => ⟨?_, fun u₂ h₂ => ?_⟩⟩
  · obtain rfl := Option.some_inj.mp h₁
    exact UInt32.le_refl 1
  · exact ⟨trivial, fun _ _ => ⟨trivial, fun _ _ => trivial⟩⟩

/-- Two nodes, of which the first one is taken; then its user frees it. -/
def takeFront : List Call := [.enqueue [65] (.ok (1, rawNode)), .enqueue [66] (.ok (2, rawNode)), .dequeue]

theorem head_points_to_freed :
    ¬Always User.step (fun u => DoublyLinked u.state) (User.init 2 0 []) takeFront ∧
    ∃ u, run User.step (User.init 2 0 []) (takeFront ++ [.destroy 1]) = some u ∧ u.state.que.head = some 2 ∧
      prevOf u.state.heap 2 = some (some 1) ∧ u.state.heap 1 = none := by
  refine ⟨fun h => ?_, _, rfl, rfl, rfl, rfl⟩
  have hlinked := ((h.2 _ rfl).2 _ rfl).2 _ rfl
  cases hlinked.head_prev 2 rfl

end GNUWeebBot.Proofs
