import Mathlib.Tactic.Common
import Mathlib.Data.List.Basic
import Mathlib.Data.List.GetD
import Mathlib.Data.List.TakeWhile

/-!
# Byte buffers with a log of their writes

A buffer is the memory starting at some address together with the log of the ranges
that were written through it. The memory goes on past the end of the object, as it
does in C: whether a write stayed inside the object is a question about the log.
-/

structure Buf where
  mem : ℕ → UInt8
  log : List (ℕ × ℕ)

namespace Buf

/-- Memory nobody has written to yet; its content is whatever was there. -/
def fresh (junk : ℕ → UInt8) : Buf := ⟨junk, []⟩

/-- Store `bytes` at offset `off` and log the range. -/
def put (b : Buf) (off : ℕ) (bytes : List UInt8) : Buf where
  mem k := if off ≤ k ∧ k < off + bytes.length then bytes.getD (k - off) 0 else b.mem k
  log := (off, bytes.length) :: b.log

/-- The block after `realloc`, which keeps the first `keep` bytes. -/
def resize (b : Buf) (keep : ℕ) (junk : ℕ → UInt8) : Buf where
  mem k := if k < keep then b.mem k else junk k
  log := b.log

/-- The `len` bytes at offset `off`. -/
def read (b : Buf) (off len : ℕ) : List UInt8 := (List.range len).map (fun k => b.mem (off + k))

/-- The C string at offset `off`, looked for in at most `fuel` bytes. -/
def cstr (b : Buf) : (off fuel : ℕ) → List UInt8
  | _, 0 => []
  | off, fuel + 1 => if b.mem off = 0 then [] else b.mem off :: b.cstr (off + 1) fuel

/-- Every logged write lies in the first `size` bytes. -/
def Within (b : Buf) (size : ℕ) : Prop := ∀ w ∈ b.log, w.1 + w.2 ≤ size

@[simp] lemma within_fresh (junk : ℕ → UInt8) (size : ℕ) : (fresh junk).Within size := by
  simp [Within, fresh]

@[simp] lemma within_put (b : Buf) (off size : ℕ) (bytes : List UInt8) :
    (b.put off bytes).Within size ↔ off + bytes.length ≤ size ∧ b.Within size := by
  simp [Within, put]

lemma Within.mono {b : Buf} {size size' : ℕ} (h : b.Within size) (hle : size ≤ size') : b.Within size' :=
  fun w hw => Nat.le_trans (h w hw) hle

@[simp] lemma read_length (b : Buf) (off len : ℕ) : (b.read off len).length = len := by
  simp [read]

@[simp] lemma read_zero (b : Buf) (off : ℕ) : b.read off 0 = [] := rfl

lemma put_mem_of_lt (b : Buf) {off k : ℕ} (bytes : List UInt8) (hk : k < off) :
    (b.put off bytes).mem k = b.mem k := by
  have h : ¬(off ≤ k ∧ k < off + bytes.length) := by omega
  simp only [put, if_neg h]

lemma put_mem_of_ge (b : Buf) {off k : ℕ} (bytes : List UInt8) (hk : off + bytes.length ≤ k) :
    (b.put off bytes).mem k = b.mem k := by
  have h : ¬(off ≤ k ∧ k < off + bytes.length) := by omega
  simp only [put, if_neg h]

lemma put_mem_add (b : Buf) (off : ℕ) {k : ℕ} (bytes : List UInt8) (hk : k < bytes.length) :
    (b.put off bytes).mem (off + k) = bytes.getD k 0 := by
  have h : off ≤ off + k ∧ off + k < off + bytes.length := by omega
  simp only [put, if_pos h, Nat.add_sub_cancel_left]

lemma put_cons_mem (b : Buf) (off : ℕ) (c : UInt8) (bytes : List UInt8) : (b.put off (c :: bytes)).mem off = c :=
  put_mem_add b off (c :: bytes) (Nat.succ_pos _)

@[simp] lemma read_put_self (b : Buf) (off : ℕ) (bytes : List UInt8) :
    (b.put off bytes).read off bytes.length = bytes := by
  apply List.ext_getElem
  · simp
  · intro k h₁ h₂
    simp only [read, List.getElem_map, List.getElem_range]
    rw [put_mem_add b off bytes h₂]
    simp [List.getD_eq_getElem?_getD, h₂]

lemma read_put_of_le (b : Buf) {off len at' : ℕ} (bytes : List UInt8) (h : off + len ≤ at') :
    (b.put at' bytes).read off len = b.read off len := by
  simp only [read]
  apply List.map_congr_left
  intro k hk
  rw [List.mem_range] at hk
  exact put_mem_of_lt b bytes (by omega)

lemma read_put_of_ge (b : Buf) {off len at' : ℕ} (bytes : List UInt8) (h : at' + bytes.length ≤ off) :
    (b.put at' bytes).read off len = b.read off len := by
  simp only [read]
  apply List.map_congr_left
  intro k _
  exact put_mem_of_ge b bytes (by omega)

lemma read_add (b : Buf) (off m n : ℕ) : b.read off (m + n) = b.read off m ++ b.read (off + m) n := by
  simp only [read, List.range_add, List.map_append, List.map_map]
  congr 1
  apply List.map_congr_left
  intro k _
  simp only [Function.comp_apply, Nat.add_assoc]

/-- Appending at the end of the part already filled. -/
lemma read_put_append (b : Buf) (n : ℕ) (bytes : List UInt8) :
    (b.put n bytes).read 0 (n + bytes.length) = b.read 0 n ++ bytes := by
  rw [read_add, read_put_of_le b bytes (by omega), Nat.zero_add, read_put_self]

lemma read_succ (b : Buf) (off n : ℕ) : b.read off (n + 1) = b.mem off :: b.read (off + 1) n := by
  rw [Nat.add_comm n 1, read_add]
  simp [read]

lemma read_concat (b : Buf) (off n : ℕ) : b.read off (n + 1) = b.read off n ++ [b.mem (off + n)] := by
  rw [read_add]
  rfl

lemma read_getElem (b : Buf) (off n k : ℕ) (hk : k < (b.read off n).length) :
    (b.read off n)[k] = b.mem (off + k) := by
  simp [read]

/-- Where the byte after the first `n` is NUL, the C string is those bytes up to their
first NUL. -/
lemma cstr_eq_takeWhile (b : Buf) (off n fuel : ℕ) (hn : n < fuel) (hz : b.mem (off + n) = 0) :
    b.cstr off fuel = (b.read off n).takeWhile (fun c => c != 0) := by
  induction n generalizing off fuel with
  | zero =>
    obtain ⟨fuel, rfl⟩ : ∃ m, fuel = m + 1 := ⟨fuel - 1, by omega⟩
    simp only [Nat.add_zero] at hz
    simp [cstr, hz]
  | succ n ih =>
    obtain ⟨fuel, rfl⟩ : ∃ m, fuel = m + 1 := ⟨fuel - 1, by omega⟩
    rw [read_succ]
    by_cases h0 : b.mem off = 0
    · simp [cstr, h0]
    · have hz' : b.mem (off + 1 + n) = 0 := by rw [← hz]; congr 1; omega
      rw [cstr, if_neg h0, ih (off + 1) fuel (by omega) hz', List.takeWhile_cons_of_pos (by simpa using h0)]

/-! ### Text at the start of a buffer -/

/-- The buffer starts with `text`. -/
def Holds (b : Buf) (text : List UInt8) : Prop := b.read 0 text.length = text

variable {b : Buf} {text front : List UInt8}

lemma holds_nil (b : Buf) : b.Holds [] := rfl

lemma holds_append_iff : b.Holds (front ++ text) ↔ b.Holds front ∧ b.read front.length text.length = text := by
  unfold Holds
  rw [List.length_append, read_add, Nat.zero_add]
  constructor
  · exact fun h => List.append_inj h (read_length _ _ _)
  · rintro ⟨hfront, htext⟩
    rw [hfront, htext]

lemma Holds.put (h : b.Holds text) (bytes : List UInt8) : (b.put text.length bytes).Holds (text ++ bytes) := by
  unfold Holds at h ⊢
  rw [List.length_append, read_put_append, h]

lemma Holds.of_append (h : b.Holds (front ++ text)) : b.Holds front := (holds_append_iff.mp h).1

lemma Holds.take (h : b.Holds text) (n : ℕ) : b.Holds (text.take n) := by
  have hsplit : b.Holds (text.take n ++ text.drop n) := by rwa [List.take_append_drop]
  exact hsplit.of_append

/-- A store behind a text. -/
lemma Holds.put_behind (h : b.Holds text) {off : ℕ} (hoff : text.length ≤ off) (bytes : List UInt8) :
    (b.put off bytes).Holds text := by
  unfold Holds at h ⊢
  rw [read_put_of_le b bytes (by omega), h]

lemma Holds.resize (h : b.Holds text) {keep : ℕ} (hkeep : text.length ≤ keep) (junk : ℕ → UInt8) :
    (b.resize keep junk).Holds text := by
  unfold Holds at h ⊢
  conv_rhs => rw [← h]
  simp only [read, Buf.resize]
  apply List.map_congr_left
  intro k hk
  rw [List.mem_range] at hk
  rw [if_pos (by omega)]

/-- Another text of the same length over the start. -/
lemma Holds.put_front (h : b.Holds (front ++ text)) {bytes : List UInt8} (hlen : bytes.length = front.length) :
    (b.put 0 bytes).Holds (bytes ++ text) := by
  rw [holds_append_iff] at h ⊢
  constructor
  · exact read_put_self b 0 bytes
  · rw [read_put_of_ge b bytes (by omega), hlen]
    exact h.2

/-- The C string of bytes without a NUL that a NUL follows. -/
lemma cstr_of_read {off fuel : ℕ} (hread : b.read off text.length = text) (hend : b.mem (off + text.length) = 0)
    (hzero : 0 ∉ text) (hfuel : text.length < fuel) : b.cstr off fuel = text := by
  have hall : ∀ c ∈ text, (c != 0) = true := by
    intro c hc
    have hne : c ≠ 0 := fun h => hzero (h ▸ hc)
    simpa using hne
  rw [cstr_eq_takeWhile b _ text.length fuel hfuel hend, hread, List.takeWhile_eq_self_iff.mpr hall]

lemma Holds.cstr (h : b.Holds (front ++ (text ++ [0]))) (hzero : 0 ∉ text) {fuel : ℕ} (hfuel : text.length < fuel) :
    b.cstr front.length fuel = text := by
  have htext := (holds_append_iff.mp h).2
  rw [List.length_append, read_add] at htext
  obtain ⟨hread, hlast⟩ := List.append_inj htext (read_length _ _ _)
  have hend : b.mem (front.length + text.length) = 0 := by simpa [read] using hlast
  exact cstr_of_read hread hend hzero hfuel

lemma Holds.cstr_zero (h : b.Holds (text ++ [0])) (hzero : 0 ∉ text) {fuel : ℕ} (hfuel : text.length < fuel) :
    b.cstr 0 fuel = text := by
  have hfront : b.Holds ([] ++ (text ++ [0])) := h
  exact hfront.cstr hzero hfuel

/-! ### C strings -/

/-- A string and its terminator at `ptr`. -/
structure StringAt (b : Buf) (ptr : ℕ) (text : List UInt8) : Prop where
  read : b.read ptr text.length = text
  nul : b.mem (ptr + text.length) = 0
  clean : 0 ∉ text

lemma StringAt.cstr {ptr fuel : ℕ} (h : b.StringAt ptr text) (hfuel : text.length < fuel) : b.cstr ptr fuel = text :=
  cstr_of_read h.read h.nul h.clean hfuel

/-- Memory that holds one string. -/
def ofString (ptr : ℕ) (text : List UInt8) : Buf := (fresh fun _ => 255).put ptr (text ++ [0])

/-! ### Bytes stored in several writes -/

/-- `b'` is `b` after writes that stored `bytes` at `off`, one behind the other. -/
structure Stores (b b' : Buf) (off : ℕ) (bytes : List UInt8) : Prop where
  mem : b'.mem = (b.put off bytes).mem
  within : ∀ size, b'.Within size ↔ b.Within size ∧ (bytes = [] ∨ off + bytes.length ≤ size)

section Stores

variable {b' b'' : Buf} {off : ℕ} {bytes more : List UInt8}

lemma stores_nil (b : Buf) (off : ℕ) : Stores b b off [] where
  mem := by
    funext k
    have h : ¬(off ≤ k ∧ k < off + 0) := by omega
    simp only [Buf.put, List.length_nil, if_neg h]
  within size := by simp

lemma stores_put (b : Buf) (off : ℕ) (hne : bytes ≠ []) : Stores b (b.put off bytes) off bytes where
  mem := rfl
  within size := by
    rw [within_put]
    simp [hne, and_comm]

lemma put_mem_append (b : Buf) (off : ℕ) (bytes more : List UInt8) :
    (b.put off (bytes ++ more)).mem = ((b.put off bytes).put (off + bytes.length) more).mem := by
  funext k
  by_cases hlow : k < off + bytes.length
  · rw [put_mem_of_lt _ more hlow]
    by_cases hk : off ≤ k
    · obtain ⟨i, rfl⟩ := Nat.exists_eq_add_of_le hk
      rw [put_mem_add _ _ _ (by rw [List.length_append]; omega), put_mem_add _ _ _ (by omega),
        List.getD_append _ _ _ _ (by omega)]
    · rw [put_mem_of_lt _ _ (by omega), put_mem_of_lt _ _ (by omega)]
  · by_cases hk : k < off + bytes.length + more.length
    · obtain ⟨i, rfl⟩ := Nat.exists_eq_add_of_le (Nat.le_of_not_lt hlow)
      rw [put_mem_add _ _ _ (by omega), Nat.add_assoc, put_mem_add _ _ _ (by rw [List.length_append]; omega),
        List.getD_append_right _ _ _ _ (by omega), Nat.add_sub_cancel_left]
    · rw [put_mem_of_ge _ _ (by rw [List.length_append]; omega), put_mem_of_ge _ _ (by omega),
        put_mem_of_ge _ _ (by omega)]

lemma put_mem_congr {c : Buf} (h : b.mem = c.mem) (off : ℕ) (bytes : List UInt8) :
    (b.put off bytes).mem = (c.put off bytes).mem := by
  simp only [Buf.put, h]

lemma Stores.append (h : Stores b b' off bytes) (h' : Stores b' b'' (off + bytes.length) more) :
    Stores b b'' off (bytes ++ more) where
  mem := by rw [h'.mem, put_mem_congr h.mem, put_mem_append]
  within size := by
    rw [h'.within, h.within, List.length_append]
    by_cases hb : bytes = []
    · subst hb
      simp
    · by_cases hm : more = []
      · subst hm
        simp
      · simp only [hb, hm, List.append_eq_nil_iff, false_or, false_and]
        constructor
        · rintro ⟨⟨hin, -⟩, hend⟩
          exact ⟨hin, by omega⟩
        · rintro ⟨hin, hend⟩
          exact ⟨⟨hin, by omega⟩, by omega⟩

lemma read_congr {c : Buf} (h : b.mem = c.mem) (off len : ℕ) : b.read off len = c.read off len := by
  simp only [read, h]

lemma Stores.read (h : Stores b b' off bytes) : b'.read off bytes.length = bytes := by
  rw [read_congr h.mem, read_put_self]

/-- The front of what was stored. -/
lemma Stores.read_front (h : Stores b b' off (bytes ++ more)) : b'.read off bytes.length = bytes := by
  have hall := h.read
  rw [List.length_append, read_add] at hall
  exact (List.append_inj hall (read_length _ _ _)).1

/-- The first byte behind the front. -/
lemma Stores.mem_behind (h : Stores b b' off (bytes ++ more)) (hmore : 0 < more.length) :
    b'.mem (off + bytes.length) = more.getD 0 0 := by
  have hlt : bytes.length < (bytes ++ more).length := by
    rw [List.length_append]
    exact Nat.lt_add_of_pos_right hmore
  rw [h.mem, put_mem_add _ _ _ hlt, List.getD_append_right _ _ _ _ (Nat.le_refl _), Nat.sub_self]

/-- The string that was stored with its terminator. -/
lemma Stores.stringAt (h : Stores b b' off (bytes ++ [0])) (hzero : 0 ∉ bytes) : b'.StringAt off bytes where
  read := h.read_front
  nul := h.mem_behind Nat.one_pos
  clean := hzero

/-- Bytes that were stored behind a text. -/
lemma Holds.stores (h : b.Holds text) (hs : Stores b b' text.length bytes) : b'.Holds (text ++ bytes) := by
  have hread : ∀ n, b'.read 0 n = (b.put text.length bytes).read 0 n := read_congr hs.mem 0
  unfold Holds
  rw [hread]
  exact h.put bytes

lemma Stores.mem_of_lt (h : Stores b b' off bytes) {k : ℕ} (hk : k < off) : b'.mem k = b.mem k := by
  rw [h.mem, put_mem_of_lt _ _ hk]

lemma Stores.mem_of_ge (h : Stores b b' off bytes) {k : ℕ} (hk : off + bytes.length ≤ k) : b'.mem k = b.mem k := by
  rw [h.mem, put_mem_of_ge _ _ hk]

lemma stringAt_ofString {ptr : ℕ} {text : List UInt8} (hzero : 0 ∉ text) : (ofString ptr text).StringAt ptr text :=
  (stores_put (fresh fun _ => 255) ptr (List.append_ne_nil_of_right_ne_nil text (List.cons_ne_nil 0 []))).stringAt hzero

end Stores

end Buf
