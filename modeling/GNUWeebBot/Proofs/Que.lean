import GNUWeebBot.Lib.Chain
import GNUWeebBot.Lib.Fifo
import GNUWeebBot.Lib.Refinement
import GNUWeebBot.Model.Pool
import GNUWeebBot.Model.Que

/-!
# The linked queue is a bounded first-in first-out queue

The abstract state is the list of the queued blocks with their data, and beside it the
blocks that `que_dequeue` has handed out and the caller has not yet destroyed. The heap
holds exactly these blocks, and `next` leads from `head` through the queued ones.
-/

namespace GNUWeebBot.Proofs

open Fill Refinement Que

/-- The queued blocks, oldest first, and the blocks the caller has. -/
structure QueSpec where
  queue : Fifo (Addr × List UInt8)
  taken : List (Addr × List UInt8)

namespace QueSpec

def empty (capacity : ℕ) : QueSpec := ⟨Fifo.empty capacity, []⟩

def nodes (q : QueSpec) : List Addr := q.queue.items.map Prod.fst

def live (q : QueSpec) : List (Addr × List UInt8) := q.queue.items ++ q.taken

def Full (q : QueSpec) : Prop := q.queue.items.length = q.queue.capacity

instance (q : QueSpec) : Decidable q.Full := inferInstanceAs (Decidable (_ = _))

def push (q : QueSpec) (node : Addr) (data : List UInt8) : QueSpec := { q with queue := q.queue.push (node, data) }

/-- The block at the head goes to the caller. -/
def take (q : QueSpec) (x : Addr × List UInt8) (rest : Fifo (Addr × List UInt8)) : QueSpec := ⟨rest, x :: q.taken⟩

def drop (q : QueSpec) (node : Addr) : QueSpec := { q with taken := q.taken.filter (fun x => x.1 != node) }

/-- What the operations do to the abstract state, with the pointer they return. -/
def op (q : QueSpec) : Que.Op → Option Addr × QueSpec
  | .enqueue data node _ => if q.Full then (none, q) else (some node, q.push node data)
  | .dequeue =>
    match q.queue.dequeue with
    | none => (none, q)
    | some (x, rest) => (some x.1, q.take x rest)
  | .destroy node => (none, q.drop node)

/-- `aligned_alloc` never returns a block in use, and the caller destroys what it has. -/
def Allowed (q : QueSpec) : Que.Op → Prop
  | .enqueue _ node _ => node ∉ q.live.map Prod.fst
  | .dequeue => True
  | .destroy node => node ∈ q.taken.map Prod.fst

instance (q : QueSpec) : DecidablePred q.Allowed
  | .enqueue _ node _ => inferInstanceAs (Decidable (node ∉ q.live.map Prod.fst))
  | .dequeue => inferInstanceAs (Decidable True)
  | .destroy node => inferInstanceAs (Decidable (node ∈ q.taken.map Prod.fst))

end QueSpec

/-- The node at `a` holds `data`, a NUL behind it and its length. -/
def HoldsNode (heap : Addr → Option Node) (a : Addr) (data : List UInt8) : Prop :=
  ∃ node, heap a = some node ∧ node.len = data.length ∧ node.data.Holds (data ++ [0])

/-- The pointers `next` of the nodes on the heap. -/
def nextOf (heap : Addr → Option Node) (a : Addr) : Option (Option Addr) := (heap a).map Node.next

/-- And the pointers `prev`, which no operation reads. -/
def prevOf (heap : Addr → Option Node) (a : Addr) : Option (Option Addr) := (heap a).map Node.prev

structure StoresQueue (s : State) (q : QueSpec) : Prop where
  chain : Chain.Linked (nextOf s.heap) s.que.head q.nodes
  tail : s.que.tail = q.nodes.getLast?
  count : s.que.count.toNat = q.queue.items.length
  capacity : s.que.capacity.toNat = q.queue.capacity
  fits : q.queue.items.length ≤ q.queue.capacity
  nodup : (q.live.map Prod.fst).Nodup
  allocated : ∀ a, s.heap a ≠ none ↔ a ∈ q.live.map Prod.fst
  data : ∀ x ∈ q.live, HoldsNode s.heap x.1 x.2

/-! ### Steps of the operations -/

section Steps

variable {s : State} {a t : Addr} {n nt : Node}

lemma load_some (h : s.heap a = some n) : load (some a) s = .next n s := by
  simp only [load, Option.bind_some, h]

lemma store_some (h : s.heap a = some n) (f : Node → Node) : store (some a) f s = .next () (setNode s a (f n)) := by
  simp only [store, h]

@[simp] lemma setNode_self (s : State) (a : Addr) (n : Node) : (setNode s a n).heap a = some n :=
  Function.update_self _ _ _

lemma setNode_of_ne (s : State) {a b : Addr} (n : Node) (h : b ≠ a) : (setNode s a n).heap b = s.heap b :=
  Function.update_of_ne h _ _

@[simp] lemma setNode_setNode (s : State) (a : Addr) (n n' : Node) : setNode (setNode s a n) a n' = setNode s a n' := by
  simp only [setNode, Function.update_idem]

lemma prevOf_setNode (s : State) (a : Addr) (n : Node) :
    prevOf (setNode s a n).heap = Function.update (prevOf s.heap) a (some n.prev) :=
  Function.comp_update (Option.map Node.prev) s.heap a (some n)

/-- The new node with everything but its link backwards. -/
def filled (n : Node) (data : List UInt8) : Node :=
  { n with len := data.length, next := none, data := (n.data.put 0 data).put data.length [0] }

lemma filled_holds (n : Node) (data : List UInt8) : (filled n data).data.Holds (data ++ [0]) :=
  Buf.Holds.put (Buf.read_put_self n.data 0 data) [0]

lemma fillNode_next (h : s.heap a = some n) (data : List UInt8) :
    fillNode a data s = .next () (setNode s a (filled n data)) := by
  unfold fillNode
  rw [bind_of_next (store_some h _), bind_of_next (store_some (setNode_self s a _) _),
    bind_of_next (store_some (setNode_self _ a _) _), store_some (setNode_self _ a _)]
  simp only [setNode_setNode, filled]

lemma tassert_true {expr : State → Bool} (h : expr s = true) : Que.tassert expr s = .next () s := if_pos h

/-- The first node of a queue. -/
lemma linkNode_first (h : s.heap a = some n) (hhead : s.que.head = none) (htail : s.que.tail = none) :
    linkNode a s = .next () { setNode s a { n with prev := none } with
      que := { s.que with head := some a, tail := some a } } := by
  unfold linkNode
  rw [bind_read, bind_read, if_pos hhead, bind_of_next (tassert_true (decide_eq_true htail)),
    bind_of_next (store_some h _)]
  rfl

/-- A node behind the tail. -/
lemma linkNode_behind (h : s.heap a = some n) (hhead : s.que.head ≠ none) (htail : s.que.tail = some t)
    (ht : s.heap t = some nt) (hne : t ≠ a) :
    linkNode a s = .next () { setNode (setNode s a { n with prev := some t }) t { nt with next := some a } with
      que := { s.que with tail := some a } } := by
  have ht' : (setNode s a { n with prev := s.que.tail }).heap t = some nt := (setNode_of_ne s _ hne).trans ht
  have hsome : s.que.tail ≠ none := by
    rw [htail]
    exact Option.some_ne_none t
  unfold linkNode
  rw [bind_read, bind_read, if_neg hhead, bind_of_next (tassert_true (decide_eq_true hsome)),
    bind_of_next (store_some h _), htail]
  rw [htail] at ht'
  rw [bind_of_next (store_some ht' _)]
  rfl

end Steps

namespace StoresQueue

variable {s : State} {q : QueSpec}

lemma init (capacity : UInt32) (errno : ℤ) (freed : List Addr) :
    StoresQueue ⟨queInit capacity, fun _ => none, errno, freed⟩ (QueSpec.empty capacity.toNat) where
  chain := rfl
  tail := rfl
  count := rfl
  capacity := rfl
  fits := Nat.zero_le _
  nodup := List.nodup_nil
  allocated a := by simp [QueSpec.live, QueSpec.empty]
  data x hx := absurd hx (List.not_mem_nil)

lemma full_iff (h : StoresQueue s q) : q.Full ↔ s.que.count ≥ s.que.capacity := by
  have hfits := h.fits
  rw [QueSpec.Full, ge_iff_le, UInt32.le_iff_toNat_le, h.count, h.capacity]
  omega

lemma count_eq_zero_iff (h : StoresQueue s q) : s.que.count = 0 ↔ q.queue.items = [] := by
  rw [← UInt32.toNat_inj, h.count, UInt32.toNat_zero, List.length_eq_zero_iff]

lemma length_nodes (q : QueSpec) : q.nodes.length = q.queue.items.length := List.length_map _

lemma nodes_eq_nil_iff : q.nodes = [] ↔ q.queue.items = [] := List.map_eq_nil_iff

lemma nodup_nodes (h : StoresQueue s q) : q.nodes.Nodup := by
  have hnodup := h.nodup
  rw [QueSpec.live, List.map_append] at hnodup
  exact (List.nodup_append.mp hnodup).1

lemma mem_live_of_mem_nodes {a : Addr} (ha : a ∈ q.nodes) : a ∈ q.live.map Prod.fst := by
  rw [QueSpec.live, List.map_append]
  exact List.mem_append_left _ ha

lemma head_eq_none_iff (h : StoresQueue s q) : s.que.head = none ↔ q.queue.items = [] := by
  rw [Chain.linked_head h.chain, List.head?_eq_none_iff, nodes_eq_nil_iff]

lemma tail_eq_none_iff (h : StoresQueue s q) : s.que.tail = none ↔ q.queue.items = [] := by
  rw [h.tail, List.getLast?_eq_none_iff, nodes_eq_nil_iff]

/-- No operation of the queue reads `errno`. -/
lemma withErrno (h : StoresQueue s q) (err : ℤ) : StoresQueue { s with errno := err } q :=
  ⟨h.chain, h.tail, h.count, h.capacity, h.fits, h.nodup, h.allocated, h.data⟩

/-! #### `que_enqueue` -/

lemma enqueue_full (h : StoresQueue s q) (hfull : q.Full) (data : List UInt8) (alloc : Except ℤ (Addr × Node)) :
    Que.queEnqueue data alloc s = .next none { s with errno := EAGAIN } := by
  unfold Que.queEnqueue
  rw [bind_read, bind_read, if_pos (h.full_iff.mp hfull)]
  rfl

lemma enqueue_no_memory (h : StoresQueue s q) (hroom : ¬q.Full) (data : List UInt8) (err : ℤ) :
    Que.queEnqueue data (.error err) s = .next none { s with errno := err } := by
  unfold Que.queEnqueue
  rw [bind_read, bind_read, if_neg (fun hge => hroom (h.full_iff.mpr hge))]
  rfl

lemma mem_live_push {q : QueSpec} {node b : Addr} {data : List UInt8} :
    b ∈ (q.push node data).live.map Prod.fst ↔ b = node ∨ b ∈ q.live.map Prod.fst := by
  simp only [QueSpec.push, QueSpec.live, Fifo.items_push, List.map_append, List.map_cons, List.map_nil,
    List.mem_append, List.mem_singleton]
  tauto

lemma nodes_push (q : QueSpec) (node : Addr) (data : List UInt8) : (q.push node data).nodes = q.nodes ++ [node] := by
  rw [QueSpec.nodes, QueSpec.push, Fifo.items_push, List.map_append]
  rfl

/-- A state with the new node behind the others. -/
lemma push (h : StoresQueue s q) (hroom : ¬q.Full) {node : Addr} {data : List UInt8}
    (hfresh : node ∉ q.live.map Prod.fst) {s' : State}
    (hchain : Chain.Linked (nextOf s'.heap) s'.que.head (q.nodes ++ [node])) (htail : s'.que.tail = some node)
    (hcount : s'.que.count = s.que.count + 1) (hcap : s'.que.capacity = s.que.capacity)
    (hnode : HoldsNode s'.heap node data)
    (hkeep : ∀ b ≠ node, ∀ bytes, HoldsNode s.heap b bytes → HoldsNode s'.heap b bytes)
    (halloc : ∀ b ≠ node, s'.heap b ≠ none ↔ s.heap b ≠ none) : StoresQueue s' (q.push node data) := by
  have hnodes := nodes_push q node data
  have hlen : (q.push node data).queue.items.length = q.queue.items.length + 1 := by
    simp [QueSpec.push]
  have hlt : q.queue.items.length < q.queue.capacity := Nat.lt_of_le_of_ne h.fits hroom
  constructor
  · rw [hnodes]
    exact hchain
  · rw [hnodes, List.getLast?_concat]
    exact htail
  · have hcapacity := s.que.capacity.toNat_lt
    rw [hcount, hlen, UInt32.toNat_add, h.count, UInt32.toNat_one]
    rw [h.capacity] at hcapacity
    omega
  · rw [hcap, h.capacity]
    rfl
  · rw [hlen]
    exact hlt
  · have hperm : (q.push node data).live.Perm ((node, data) :: q.live) := by
      simp only [QueSpec.push, QueSpec.live, Fifo.items_push, List.append_assoc]
      exact List.perm_middle
    rw [(hperm.map Prod.fst).nodup_iff, List.map_cons, List.nodup_cons]
    exact ⟨hfresh, h.nodup⟩
  · intro b
    rw [mem_live_push]
    by_cases hb : b = node
    · obtain ⟨n, hn, -⟩ := hnode
      subst hb
      simp [hn]
    · rw [halloc b hb, h.allocated b]
      simp [hb]
  · intro x hx
    by_cases hold : x ∈ q.live
    · have hne : x.1 ≠ node := fun heq => hfresh (heq ▸ List.mem_map_of_mem hold)
      exact hkeep x.1 hne x.2 (h.data x hold)
    · have hx' : x = (node, data) := by
        simp only [QueSpec.push, QueSpec.live, Fifo.items_push, List.mem_append, List.mem_singleton] at hx hold
        tauto
      rw [hx']
      exact hnode

lemma holdsNode_of_eq {heap heap' : Addr → Option Node} {b : Addr} (hb : heap' b = heap b) {bytes : List UInt8}
    (h : HoldsNode heap b bytes) : HoldsNode heap' b bytes := by
  unfold HoldsNode
  rw [hb]
  exact h

/-- `que_enqueue` up to the links. -/
lemma enqueue_room (h : StoresQueue s q) (hroom : ¬q.Full) (data : List UInt8) (node : Addr) (raw : Node) {s' : State}
    (hlink : linkNode node (setNode s node (filled raw data)) = .next () s') :
    Que.queEnqueue data (.ok (node, raw)) s =
      .next (some node) { s' with que := { s'.que with count := s'.que.count + 1 } } := by
  have hfill : fillNode node data (setNode s node raw) = .next () (setNode s node (filled raw data)) := by
    rw [fillNode_next (setNode_self s node raw), setNode_setNode]
  unfold Que.queEnqueue
  rw [bind_read, bind_read, if_neg (fun hge => hroom (h.full_iff.mpr hge))]
  change (fillNode node data >>= _) (setNode s node raw) = _
  rw [bind_of_next hfill, bind_of_next hlink]
  rfl

/-- `que_enqueue` of the first node. -/
lemma enqueue_first (h : StoresQueue s q) (hroom : ¬q.Full) (hitems : q.queue.items = []) (data : List UInt8)
    {node : Addr} (raw : Node) (hfresh : node ∉ q.live.map Prod.fst) :
    ∃ s', Que.queEnqueue data (.ok (node, raw)) s = .next (some node) s' ∧ StoresQueue s' (q.push node data) ∧
      prevOf s'.heap = Function.update (prevOf s.heap) node (some s.que.tail) := by
  have hself := setNode_self s node (filled raw data)
  have hhead : s.que.head = none := h.head_eq_none_iff.mpr hitems
  have htail : s.que.tail = none := h.tail_eq_none_iff.mpr hitems
  have hlink := linkNode_first hself hhead htail
  rw [setNode_setNode] at hlink
  refine ⟨_, h.enqueue_room hroom data node raw hlink, ?_, ?_⟩
  · have hnil : q.nodes = [] := nodes_eq_nil_iff.mpr hitems
    apply h.push hroom hfresh
    · rw [hnil]
      exact ⟨rfl, none, by simp [nextOf, filled], rfl⟩
    · rfl
    · rfl
    · rfl
    · exact ⟨_, setNode_self _ _ _, rfl, filled_holds raw data⟩
    · exact fun b hb bytes hold => holdsNode_of_eq (setNode_of_ne s _ hb) hold
    · exact fun b hb => iff_of_eq (congrArg (· ≠ none) (setNode_of_ne s _ hb))
  · rw [htail]
    exact prevOf_setNode _ _ _

/-- The chain after a node was linked behind its last one. -/
lemma linked_behind (h : StoresQueue s q) {as : List Addr} {t node : Addr} (hnodes : q.nodes = as ++ [t])
    (hfresh : node ∉ q.live.map Prod.fst) {heap : Addr → Option Node}
    (hother : ∀ b ≠ node, b ≠ t → heap b = s.heap b) (htail : nextOf heap t = some (some node))
    (hnode : nextOf heap node = some none) : Chain.Linked (nextOf heap) s.que.head (q.nodes ++ [node]) := by
  have hchain := h.chain
  have hnodup := h.nodup_nodes
  rw [hnodes] at hchain hnodup ⊢
  apply hchain.snoc
  · intro b hb
    have hbnode : b ≠ node := by
      rintro rfl
      exact hfresh (mem_live_of_mem_nodes (hnodes ▸ List.mem_append_left _ hb))
    have hbt : b ≠ t := by
      rintro rfl
      exact (List.nodup_append.mp hnodup).2.2 b hb b List.mem_cons_self rfl
    simp only [nextOf, hother b hbnode hbt]
  · exact htail
  · exact hnode

/-- `que_enqueue` of a node behind the tail. -/
lemma enqueue_behind (h : StoresQueue s q) (hroom : ¬q.Full) {xs : List (Addr × List UInt8)} {t : Addr}
    {bytes : List UInt8} (hitems : q.queue.items = xs ++ [(t, bytes)]) (data : List UInt8) {node : Addr} (raw : Node)
    (hfresh : node ∉ q.live.map Prod.fst) :
    ∃ s', Que.queEnqueue data (.ok (node, raw)) s = .next (some node) s' ∧ StoresQueue s' (q.push node data) ∧
      prevOf s'.heap = Function.update (prevOf s.heap) node (some s.que.tail) := by
  have hnodes : q.nodes = xs.map Prod.fst ++ [t] := by
    simp [QueSpec.nodes, hitems]
  have hlive : (t, bytes) ∈ q.live := by
    simp [QueSpec.live, hitems]
  have hne : t ≠ node := fun heq => hfresh (heq ▸ List.mem_map_of_mem hlive)
  obtain ⟨nt, hnt, -⟩ := h.data _ hlive
  have hhead : s.que.head ≠ none := by
    rw [ne_eq, h.head_eq_none_iff, hitems]
    simp
  have htail : s.que.tail = some t := by
    rw [h.tail, hnodes, List.getLast?_concat]
  have hnt' : (setNode s node (filled raw data)).heap t = some nt := (setNode_of_ne s _ hne).trans hnt
  have hself := setNode_self s node (filled raw data)
  have hlink := linkNode_behind hself hhead htail hnt' hne
  rw [setNode_setNode] at hlink
  refine ⟨_, h.enqueue_room hroom data node raw hlink, ?_, ?_⟩
  · have hnew : ∀ n n' : Node, (setNode (setNode s node n) t n').heap node = some n :=
      fun n n' => (setNode_of_ne _ _ hne.symm).trans (setNode_self _ _ _)
    have hother : ∀ n n' : Node, ∀ b ≠ node, b ≠ t → (setNode (setNode s node n) t n').heap b = s.heap b :=
      fun n n' b hb hbt => (setNode_of_ne _ _ hbt).trans (setNode_of_ne _ _ hb)
    apply h.push hroom hfresh
    · apply h.linked_behind hnodes hfresh (hother _ _)
      · simp only [nextOf, setNode_self, Option.map_some]
      · exact congrArg (Option.map Node.next) (hnew _ _)
    · rfl
    · rfl
    · rfl
    · exact ⟨_, hnew _ _, rfl, filled_holds raw data⟩
    · intro b hb more hold
      by_cases hbt : b = t
      · subst hbt
        obtain ⟨n, hn, hn'⟩ := hold
        have heq : n = nt := Option.some_inj.mp (hn.symm.trans hnt)
        exact ⟨_, setNode_self _ _ _, heq ▸ hn'⟩
      · exact holdsNode_of_eq (hother _ _ b hb hbt) hold
    · intro b hb
      by_cases hbt : b = t
      · subst hbt
        simp [hnt]
      · exact iff_of_eq (congrArg (· ≠ none) (hother _ _ b hb hbt))
  · have hsame : Function.update (prevOf s.heap) node (some (some t)) t = some nt.prev := by
      rw [Function.update_of_ne hne, prevOf, hnt, Option.map_some]
    rw [htail]
    refine (prevOf_setNode _ _ _).trans ?_
    rw [prevOf_setNode, ← hsame, Function.update_eq_self]

lemma enqueue (h : StoresQueue s q) (hroom : ¬q.Full) (data : List UInt8) {node : Addr} (raw : Node)
    (hfresh : node ∉ q.live.map Prod.fst) :
    ∃ s', Que.queEnqueue data (.ok (node, raw)) s = .next (some node) s' ∧ StoresQueue s' (q.push node data) ∧
      prevOf s'.heap = Function.update (prevOf s.heap) node (some s.que.tail) := by
  rcases List.eq_nil_or_concat q.queue.items with hitems | ⟨xs, ⟨t, bytes⟩, hitems⟩
  · exact h.enqueue_first hroom hitems data raw hfresh
  · rw [List.concat_eq_append] at hitems
    exact h.enqueue_behind hroom hitems data raw hfresh

/-! #### `que_dequeue` and `que_node_destroy` -/

lemma dequeue_empty (h : StoresQueue s q) (hitems : q.queue.items = []) : queDequeue s = .next none s := by
  have hhead : Que.tassert (fun s => s.que.head = none) s = .next () s :=
    tassert_true (decide_eq_true (h.head_eq_none_iff.mpr hitems))
  have htail : Que.tassert (fun s => s.que.tail = none) s = .next () s :=
    tassert_true (decide_eq_true (h.tail_eq_none_iff.mpr hitems))
  unfold queDequeue
  rw [bind_read, if_pos (h.count_eq_zero_iff.mpr hitems), bind_of_next hhead, bind_of_next htail]
  rfl

/-- The state after `que_dequeue` took the head. -/
def afterDequeue (s : State) (head : Option Addr) : State :=
  { s with que := { s.que with
      head := head
      tail := if head = none then none else s.que.tail
      count := s.que.count - 1 } }

lemma unlinkHead_next (h : StoresQueue s q) {x : Addr × List UInt8} {rest : List (Addr × List UInt8)}
    (hitems : q.queue.items = x :: rest) {head : Option Addr} (hhead : head = none ↔ rest = []) :
    unlinkHead (some x.1) head s = .next () { s with que := { s.que with
      head := head
      tail := if head = none then none else s.que.tail } } := by
  unfold unlinkHead
  by_cases hnone : head = none
  · have hone : s.que.count = 1 := by
      rw [← UInt32.toNat_inj, h.count, hitems, hhead.mp hnone]
      rfl
    have htail : s.que.tail = some x.1 := by
      rw [h.tail, QueSpec.nodes, hitems, hhead.mp hnone]
      rfl
    rw [if_pos hnone, bind_read, bind_of_next (tassert_true (decide_eq_true hone)),
      bind_of_next (tassert_true (decide_eq_true htail.symm)), if_pos hnone, hnone]
    rfl
  · rw [if_neg hnone, if_neg hnone]
    rfl

lemma live_take {x : Addr × List UInt8} {rest : List (Addr × List UInt8)} (hitems : q.queue.items = x :: rest) :
    (q.take x { q.queue with items := rest }).live.Perm q.live := by
  simp only [QueSpec.take, QueSpec.live, hitems, List.cons_append]
  exact List.perm_middle

/-- The block at the head goes to the caller as it is. -/
lemma stores_take (h : StoresQueue s q) {x : Addr × List UInt8} {rest : List (Addr × List UInt8)}
    (hitems : q.queue.items = x :: rest) {head : Option Addr}
    (hrest : Chain.Linked (nextOf s.heap) head (rest.map Prod.fst)) (hnone : head = none ↔ rest = []) :
    StoresQueue (afterDequeue s head) (q.take x { q.queue with items := rest }) := by
  have hperm := live_take hitems
  have hlen := congrArg List.length hitems
  have hcnt := h.count
  have hfits := h.fits
  rw [List.length_cons] at hlen
  constructor
  · exact hrest
  · change (if head = none then none else s.que.tail) = (rest.map Prod.fst).getLast?
    by_cases hnil : head = none
    · rw [if_pos hnil, hnone.mp hnil]
      rfl
    · have hcons : rest.map Prod.fst ≠ [] := fun hmap => hnil (hnone.mpr (List.map_eq_nil_iff.mp hmap))
      rw [if_neg hnil, h.tail, QueSpec.nodes, hitems, List.map_cons, List.getLast?_cons_of_ne_nil hcons]
  · have hone : (1 : UInt32) ≤ s.que.count := by
      rw [UInt32.le_iff_toNat_le, UInt32.toNat_one]
      omega
    change (s.que.count - 1).toNat = rest.length
    rw [UInt32.toNat_sub_of_le _ _ hone, UInt32.toNat_one]
    omega
  · exact h.capacity
  · change rest.length ≤ q.queue.capacity
    omega
  · rw [(hperm.map Prod.fst).nodup_iff]
    exact h.nodup
  · intro b
    rw [(hperm.map Prod.fst).mem_iff]
    exact h.allocated b
  · exact fun y hy => h.data y (hperm.mem_iff.mp hy)

/-- `que_dequeue` of a queue with an oldest node. -/
lemma dequeue_item (h : StoresQueue s q) {x : Addr × List UInt8} {rest : List (Addr × List UInt8)}
    (hitems : q.queue.items = x :: rest) :
    ∃ s', queDequeue s = .next (some x.1) s' ∧ s'.heap = s.heap ∧
      StoresQueue s' (q.take x { q.queue with items := rest }) := by
  have hchain := h.chain
  rw [QueSpec.nodes, hitems, List.map_cons] at hchain
  obtain ⟨hhead, p, hnext, hrest⟩ := hchain
  obtain ⟨node, hnode, rfl⟩ := Option.map_eq_some_iff.mp hnext
  have hnone : node.next = none ↔ rest = [] := by
    rw [Chain.linked_head hrest, List.head?_eq_none_iff, List.map_eq_nil_iff]
  have hcount : ¬s.que.count = 0 := by
    rw [h.count_eq_zero_iff, hitems]
    exact List.cons_ne_nil x rest
  refine ⟨afterDequeue s node.next, ?_, rfl, h.stores_take hitems hrest hnone⟩
  unfold queDequeue
  rw [bind_read, if_neg hcount, bind_read, hhead, bind_of_next (load_some hnode),
    bind_of_next (h.unlinkHead_next hitems hnone)]
  rfl

lemma destroyed (s : State) {a : Addr} {n : Node} (h : s.heap a = some n) :
    queNodeDestroy (some a) s =
      .next () { s with heap := Function.update s.heap a none, freed := s.freed ++ [a] } := by
  simp only [queNodeDestroy, h]

/-- The blocks left when one that the caller has is destroyed. -/
lemma live_drop (h : StoresQueue s q) {node : Addr} (hmem : node ∈ q.taken.map Prod.fst) :
    (∀ b ∈ q.nodes, b ≠ node) ∧ (q.drop node).live = q.live.filter (fun x => x.1 != node) := by
  have hnodup := h.nodup
  rw [QueSpec.live, List.map_append] at hnodup
  have hqueued : ∀ b ∈ q.nodes, b ≠ node := fun b hb => (List.nodup_append.mp hnodup).2.2 b hb node hmem
  have hfilter : q.queue.items.filter (fun x => x.1 != node) = q.queue.items := by
    rw [List.filter_eq_self]
    intro x hx
    exact bne_iff_ne.mpr (hqueued x.1 (List.mem_map_of_mem hx))
  refine ⟨hqueued, ?_⟩
  rw [QueSpec.live, QueSpec.live, List.filter_append, hfilter]
  rfl

/-- `que_node_destroy` of a block that the caller has. -/
lemma drop (h : StoresQueue s q) {node : Addr} (hmem : node ∈ q.taken.map Prod.fst) :
    ∃ s', queNodeDestroy (some node) s = .next () s' ∧ StoresQueue s' (q.drop node) ∧
      s'.heap = Function.update s.heap node none := by
  have hnode : node ∈ q.live.map Prod.fst := by
    rw [QueSpec.live, List.map_append]
    exact List.mem_append_right _ hmem
  obtain ⟨n, hn⟩ := Option.ne_none_iff_exists'.mp ((h.allocated node).mpr hnode)
  obtain ⟨hqueued, hlive⟩ := h.live_drop hmem
  refine ⟨_, destroyed s hn, ?_, rfl⟩
  constructor
  · apply Chain.Segment.congr h.chain
    intro b hb
    simp only [nextOf, Function.update_of_ne (hqueued b hb)]
  · exact h.tail
  · exact h.count
  · exact h.capacity
  · exact h.fits
  · rw [hlive]
    exact h.nodup.sublist (List.filter_sublist.map Prod.fst)
  · intro b
    rw [hlive]
    by_cases hb : b = node
    · subst hb
      simp
    · have hkeep : b ∈ (q.live.filter (fun x => x.1 != node)).map Prod.fst ↔ b ∈ q.live.map Prod.fst := by
        simp only [List.mem_map, List.mem_filter, bne_iff_ne]
        constructor
        · rintro ⟨x, ⟨hx, -⟩, rfl⟩
          exact ⟨x, hx, rfl⟩
        · rintro ⟨x, hx, rfl⟩
          exact ⟨x, ⟨hx, hb⟩, rfl⟩
      rw [hkeep, ← h.allocated b]
      exact iff_of_eq (congrArg (· ≠ none) (Function.update_of_ne hb _ _))
  · intro x hx
    rw [hlive, List.mem_filter, bne_iff_ne] at hx
    exact holdsNode_of_eq (Function.update_of_ne hx.2 _ _) (h.data x hx.1)

end StoresQueue

/-- One operation of the code and the same one on the abstract queue. -/
lemma queOp_simulates : Simulates QueSpec.Allowed Que.op QueSpec.op (fun node => node) StoresQueue := by
  constructor
  intro op s q hallowed h
  cases op with
  | enqueue data node raw =>
    by_cases hfull : q.Full
    · refine ⟨{ s with errno := EAGAIN }, ?_, ?_⟩
      · simp only [QueSpec.op, if_pos hfull]
        exact h.enqueue_full hfull data (.ok (node, raw))
      · simp only [QueSpec.op, if_pos hfull]
        exact h.withErrno EAGAIN
    · obtain ⟨s', hrun, hstores, -⟩ := h.enqueue hfull data raw hallowed
      simp only [QueSpec.op, if_neg hfull]
      exact ⟨s', hrun, hstores⟩
  | dequeue =>
    cases hitems : q.queue.items with
    | nil =>
      simp only [QueSpec.op, Fifo.dequeue_eq_none.mpr hitems]
      exact ⟨s, h.dequeue_empty hitems, h⟩
    | cons x rest =>
      have hdequeue : q.queue.dequeue = some (x, { q.queue with items := rest }) := by
        simp only [Fifo.dequeue, hitems]
      simp only [QueSpec.op, hdequeue]
      obtain ⟨s', hrun, -, hstores⟩ := h.dequeue_item hitems
      exact ⟨s', hrun, hstores⟩
  | destroy node =>
    obtain ⟨s', hrun, hstores, -⟩ := h.drop hallowed
    exact ⟨s', bind_of_next hrun, hstores⟩

/-! ### The queue in the model of the server -/

/-- The node of the server's queue has the length and the bytes of the block. -/
def SameNode (node : QueNode) (x : Addr × List UInt8) : Prop :=
  node.len = x.2.length ∧ node.data.Holds (x.2 ++ [0])

structure SameQueue (sqes : Fifo QueNode) (q : QueSpec) : Prop where
  capacity : sqes.capacity = q.queue.capacity
  items : List.Forall₂ SameNode sqes.items q.queue.items

section Server

variable {s : State} {q : QueSpec} {sqes : Fifo QueNode} (h : StoresQueue s q) (hsame : SameQueue sqes q)

include h hsame

lemma isFull_iff : sqes.isFull = true ↔ q.Full := by
  have hfits := h.fits
  rw [Fifo.isFull, decide_eq_true_iff, hsame.items.length_eq, hsame.capacity, QueSpec.Full]
  omega

/-- `que_enqueue` does to the linked nodes what it does to the queue of the server's model. -/
theorem queEnqueue_linked (data : List UInt8) {node : Addr} (raw : Node) (hfresh : node ∉ q.live.map Prod.fst)
    (alloc : Option (ℕ → UInt8)) (ticket : ℕ) :
    let block := alloc.elim (.error ENOMEM) (fun _ => .ok (node, raw))
    match GNUWeebBot.queEnqueue sqes data alloc ticket with
    | .error err => Que.queEnqueue data block s = .next none { s with errno := err }
    | .ok sqes' => ∃ s', Que.queEnqueue data block s = .next (some node) s' ∧
        StoresQueue s' (q.push node data) ∧ SameQueue sqes' (q.push node data) := by
  unfold GNUWeebBot.queEnqueue
  by_cases hfull : q.Full
  · rw [if_pos ((isFull_iff h hsame).mpr hfull)]
    exact h.enqueue_full hfull data _
  · have hroom : ¬sqes.isFull = true := fun hall => hfull ((isFull_iff h hsame).mp hall)
    rw [if_neg hroom]
    cases alloc with
    | none => exact h.enqueue_no_memory hfull data ENOMEM
    | some junk =>
      obtain ⟨s', hrun, hstores, -⟩ := h.enqueue hfull data raw hfresh
      refine ⟨s', hrun, hstores, hsame.capacity, ?_⟩
      have hnode : SameNode ⟨data.length, ((Buf.fresh junk).put 0 data).put data.length [0], ticket⟩ (node, data) :=
        ⟨rfl, Buf.Holds.put (Buf.read_put_self (Buf.fresh junk) 0 data) [0]⟩
      exact List.rel_append hsame.items (.cons hnode .nil)

/-- `que_dequeue` returns the block of the node that the server's model takes. -/
theorem queDequeue_linked :
    match sqes.dequeue with
    | none => queDequeue s = .next none s
    | some (node, sqes') => ∃ x rest s', SameNode node x ∧ queDequeue s = .next (some x.1) s' ∧
        HoldsNode s'.heap x.1 x.2 ∧ StoresQueue s' (q.take x rest) ∧ SameQueue sqes' (q.take x rest) := by
  obtain ⟨items, capacity⟩ := sqes
  obtain ⟨hcapacity, hitems⟩ := hsame
  cases items with
  | nil => exact h.dequeue_empty (List.forall₂_nil_left_iff.mp hitems)
  | cons node items =>
    obtain ⟨x, rest, hnode, hrest, hqueued⟩ := List.forall₂_cons_left_iff.mp hitems
    obtain ⟨s', hrun, hheap, hstores⟩ := h.dequeue_item hqueued
    have hlive : x ∈ q.live := by
      rw [QueSpec.live, hqueued]
      exact List.mem_append_left _ List.mem_cons_self
    exact ⟨x, _, s', hnode, hrun, hheap ▸ h.data x hlive, hstores, hcapacity, hrest⟩

end Server

/-! ### `que_destroy` -/

/-- `as` freed one after the other. -/
def freedAll (s : State) (as : List Addr) : State :=
  { s with heap := fun b => if b ∈ as then none else s.heap b, freed := s.freed ++ as }

lemma destroyLoop_next {s : State} {p : Option Addr} {as : List Addr} (hchain : Chain.Linked (nextOf s.heap) p as)
    (hnodup : as.Nodup) {fuel : ℕ} (hfuel : as.length ≤ fuel) : destroyLoop fuel p s = .next () (freedAll s as) := by
  induction as generalizing s p fuel with
  | nil =>
    rw [Chain.linked_nil_iff] at hchain
    subst hchain
    have hsame : freedAll s [] = s := by
      simp [freedAll]
    rw [hsame]
    cases fuel <;> rfl
  | cons a as ih =>
    obtain ⟨rfl, p', hnext, hrest⟩ := hchain
    obtain ⟨hmem, hrestNodup⟩ := List.nodup_cons.mp hnodup
    obtain ⟨n, hn, rfl⟩ := Option.map_eq_some_iff.mp hnext
    cases fuel with
    | zero => exact absurd hfuel (Nat.not_succ_le_zero _)
    | succ fuel =>
      rw [destroyLoop, bind_of_next (load_some hn), bind_of_next (StoresQueue.destroyed s hn)]
      have hchain' : Chain.Linked (nextOf (Function.update s.heap a none)) n.next as := by
        apply Chain.Segment.congr hrest
        intro b hb
        have hba : b ≠ a := fun heq => hmem (heq ▸ hb)
        simp only [nextOf, Function.update_of_ne hba]
      rw [ih (s := { s with heap := Function.update s.heap a none, freed := s.freed ++ [a] }) hchain' hrestNodup
        (Nat.le_of_succ_le_succ hfuel)]
      have hheap : (fun b => if b ∈ as then none else Function.update s.heap a none b) =
          fun b => if b ∈ a :: as then none else s.heap b := by
        funext b
        by_cases hba : b = a
        · subst hba
          simp
        · rw [Function.update_of_ne hba]
          simp [hba]
      simp only [freedAll, hheap, List.append_assoc, List.singleton_append]

/-- `que_destroy` frees each queued block once, and no other one. -/
lemma StoresQueue.destroy {s : State} {q : QueSpec} (h : StoresQueue s q) {fuel : ℕ}
    (hfuel : q.queue.items.length ≤ fuel) :
    queDestroy fuel s = .next () { freedAll s q.nodes with que := queInit 0 } := by
  unfold queDestroy
  by_cases hzero : s.que.count = 0
  · have hnil : q.nodes = [] := nodes_eq_nil_iff.mpr (h.count_eq_zero_iff.mp hzero)
    rw [bind_read, if_pos hzero, hnil]
    simp only [freedAll, List.not_mem_nil, if_false, List.append_nil]
    rfl
  · rw [bind_read, if_neg hzero, bind_read,
      bind_of_next (destroyLoop_next h.chain h.nodup_nodes (length_nodes q ▸ hfuel))]
    rfl

/-- What the queue does in a state that stands for `q`. -/
structure QueExact (s : State) (q : QueSpec) : Prop where
  stores : StoresQueue s q
  count : (queCount s.que).toNat = q.nodes.length
  head_null : s.que.head = none ↔ queCount s.que = 0
  tail_null : s.que.tail = none ↔ queCount s.que = 0
  full : ∀ data node raw, q.nodes.length = q.queue.capacity →
    Que.queEnqueue data (.ok (node, raw)) s = .next none { s with errno := EAGAIN }
  room : ∀ data node raw, q.nodes.length ≠ q.queue.capacity → s.heap node = none →
    ∃ s', Que.queEnqueue data (.ok (node, raw)) s = .next (some node) s' ∧ StoresQueue s' (q.push node data)
  empty : q.nodes = [] → queDequeue s = .next none s
  oldest : ∀ node data rest, q.queue.items = (node, data) :: rest →
    ∃ s', queDequeue s = .next (some node) s' ∧ HoldsNode s'.heap node data ∧
      StoresQueue s' (q.take (node, data) { q.queue with items := rest })
  destroy : ∀ fuel, q.nodes.length ≤ fuel →
    q.nodes.Nodup ∧ queDestroy fuel s = .next () { freedAll s q.nodes with que := queInit 0 }

lemma StoresQueue.exact {s : State} {q : QueSpec} (h : StoresQueue s q) : QueExact s q := by
  have hlen := length_nodes q
  constructor
  · exact h
  · rw [hlen]
    exact h.count
  · exact h.head_eq_none_iff.trans h.count_eq_zero_iff.symm
  · exact h.tail_eq_none_iff.trans h.count_eq_zero_iff.symm
  · exact fun data node raw hfull => h.enqueue_full (hlen.symm.trans hfull) data _
  · intro data node raw hroom hfree
    have hfresh : node ∉ q.live.map Prod.fst := fun hmem => (h.allocated node).mpr hmem hfree
    obtain ⟨s', hrun, hstores, -⟩ := h.enqueue (fun hfull => hroom (hlen.trans hfull)) data raw hfresh
    exact ⟨s', hrun, hstores⟩
  · exact fun hnil => h.dequeue_empty (nodes_eq_nil_iff.mp hnil)
  · intro node data rest hitems
    obtain ⟨s', hrun, hheap, hstores⟩ := h.dequeue_item hitems
    have hlive : (node, data) ∈ q.live := by
      rw [QueSpec.live, hitems]
      exact List.mem_append_left _ List.mem_cons_self
    exact ⟨s', hrun, hheap ▸ h.data _ hlive, hstores⟩
  · exact fun fuel hfuel => ⟨h.nodup_nodes, h.destroy (hlen ▸ hfuel)⟩

/-- Every sequence of calls runs without a failing `TASSERT` and without an access to a
block that is not allocated, answers as the bounded queue does, and ends in a state that
stands for it. -/
theorem que_refines_fifo (capacity : UInt32) (errno : ℤ) (freed : List Addr) (ops : List Que.Op)
    (hallowed : Admissible QueSpec.Allowed QueSpec.op (QueSpec.empty capacity.toNat) ops) :
    ∃ s, each Que.op ops ⟨queInit capacity, fun _ => none, errno, freed⟩ =
        .next (outputs QueSpec.op (QueSpec.empty capacity.toNat) ops).1 s ∧
      QueExact s (outputs QueSpec.op (QueSpec.empty capacity.toNat) ops).2 := by
  obtain ⟨s, hrun, hstores⟩ := queOp_simulates.run ops hallowed (StoresQueue.init capacity errno freed)
  rw [List.map_id'] at hrun
  exact ⟨s, hrun, hstores.exact⟩

/-- A block before anything is stored in it. -/
def rawNode : Node := ⟨some 7, some 7, 7, Buf.fresh (fun _ => 7)⟩

/-- A full queue of one node, the node's way out, and its block once more. -/
def reuseOps : List Que.Op :=
  [.enqueue [65] 1 rawNode, .enqueue [66] 2 rawNode, .dequeue, .destroy 1, .enqueue [67] 1 rawNode]

theorem que_refines_fifo_reuse :
    ∃ s, each Que.op reuseOps ⟨queInit 1, fun _ => none, 0, []⟩ = .next [some 1, none, some 1, none, some 1] s ∧
      QueExact s ⟨⟨[(1, [67])], 1⟩, []⟩ :=
  que_refines_fifo 1 0 [] reuseOps
    ⟨List.not_mem_nil, by decide, trivial, by decide, by decide, trivial⟩

end GNUWeebBot.Proofs
