import GNUWeebBot.Model.Response

/-!
# What a response body holds

The buffer grows with the chunks and holds them all, with a NUL behind them, as soon as one chunk has come.
Where none comes nothing is written, and the first byte is what the memory held before.
-/

namespace GNUWeebBot.Proofs

/-- The room that `write_callback` relies on. -/
structure ResOk (res : TgaRes) : Prop where
  room : res.len < res.allocated
  size : res.allocated < 2 ^ 64
  within : res.body.Within res.allocated

/-- What the server sent. -/
def sentBytes (chunks : List (List UInt8 × Option (ℕ → UInt8))) : List UInt8 := (chunks.map Prod.fst).flatten

/-! ### One chunk -/

section Chunk

variable {res : TgaRes} (data : List UInt8)

variable {data} in
/-- The callback has no room and gets none. -/
lemma writeCallback_none (hfull : (data.length + res.len + 2) % 2 ^ 64 ≥ res.allocated) :
    writeCallback res data none = (0, res) := by
  unfold writeCallback
  rw [if_pos hfull]

/-- A chunk that is written behind what is there. -/
lemma resOk_put {body : Buf} {allocated : ℕ} {text : List UInt8} (hholds : body.Holds text) (hwithin : body.Within allocated)
    (hroom : text.length + data.length < allocated) (hsize : allocated < 2 ^ 64) :
    ResOk ⟨(body.put text.length data).put (text.length + data.length) [0], text.length + data.length, allocated⟩ ∧
      ((body.put text.length data).put (text.length + data.length) [0]).Holds (text ++ data ++ [0]) := by
  have hdata := (hholds.put data).put [0]
  rw [List.length_append] at hdata
  refine ⟨⟨hroom, hsize, ?_⟩, hdata⟩
  rw [Buf.within_put, Buf.within_put, List.length_singleton]
  exact ⟨hroom, Nat.le_of_lt hroom, hwithin⟩

/-- A chunk for which memory is found. -/
lemma writeCallback_some (h : ResOk res) {text : List UInt8} (hlen : res.len = text.length) (hholds : res.body.Holds text)
    (hsmall : text.length + data.length < 2 ^ 62) (junk : ℕ → UInt8) :
    (writeCallback res data (some junk)).1 = data.length ∧ ResOk (writeCallback res data (some junk)).2 ∧
      (writeCallback res data (some junk)).2.len = text.length + data.length ∧
      (writeCallback res data (some junk)).2.body.Holds (text ++ data ++ [0]) := by
  have hroom := h.room
  have hmod : (data.length + res.len + 2) % 2 ^ 64 = data.length + res.len + 2 := Nat.mod_eq_of_lt (by omega)
  unfold writeCallback
  dsimp only
  rw [hmod]
  by_cases hfull : data.length + res.len + 2 ≥ res.allocated
  · -- twice the size and the chunk is more than both
    have hgrow : (res.allocated * 2 + data.length) % 2 ^ 64 = res.allocated * 2 + data.length := Nat.mod_eq_of_lt (by omega)
    have hmin : min res.allocated (res.allocated * 2 + data.length) = res.allocated := by omega
    rw [if_pos hfull, hgrow, hmin, hlen]
    have hresize : (res.body.resize res.allocated junk).Within (res.allocated * 2 + data.length) :=
      Buf.Within.mono (b := res.body) h.within (by omega)
    obtain ⟨hok, hdata⟩ := resOk_put data (hholds.resize (by omega) junk) hresize (by omega) (by omega)
    exact ⟨rfl, hok, rfl, hdata⟩
  · rw [if_neg hfull, hlen]
    obtain ⟨hok, hdata⟩ := resOk_put data hholds h.within (by omega) h.size
    exact ⟨rfl, hok, rfl, hdata⟩

end Chunk

/-! ### All chunks -/

section Chunks

variable {res : TgaRes} (chunks : List (List UInt8 × Option (ℕ → UInt8)))

variable {chunks} in
lemma sentBytes_cons (data : List UInt8) (realloc : Option (ℕ → UInt8)) :
    sentBytes ((data, realloc) :: chunks) = data ++ sentBytes chunks := rfl

/-- Whether or not memory is found, the room is kept. -/
lemma resOk_passChunks (h : ResOk res) (hsmall : res.len + (sentBytes chunks).length < 2 ^ 62) :
    ResOk (passChunks res chunks).2 := by
  induction chunks generalizing res with
  | nil => exact h
  | cons chunk chunks ih =>
    obtain ⟨data, realloc⟩ := chunk
    rw [sentBytes_cons, List.length_append] at hsmall
    have hcallback : ResOk (writeCallback res data realloc).2 ∧
        (writeCallback res data realloc).2.len ≤ res.len + data.length := by
      have htext : res.len = (res.body.read 0 res.len).length := (Buf.read_length _ _ _).symm
      have hholds : res.body.Holds (res.body.read 0 res.len) := by
        unfold Buf.Holds
        rw [Buf.read_length]
      cases realloc with
      | some junk =>
        obtain ⟨-, hok, hlen, -⟩ := writeCallback_some data h htext hholds (by omega) junk
        rw [← htext] at hlen
        exact ⟨hok, Nat.le_of_eq hlen⟩
      | none =>
        by_cases hfull : (data.length + res.len + 2) % 2 ^ 64 ≥ res.allocated
        · rw [writeCallback_none hfull]
          exact ⟨h, Nat.le_add_right _ _⟩
        · -- no memory is asked for
          have hsame : writeCallback res data none = writeCallback res data (some fun _ => 0) := by
            unfold writeCallback
            simp only [if_neg hfull]
          obtain ⟨-, hok, hlen, -⟩ := writeCallback_some data h htext hholds (by omega) (fun _ => 0)
          rw [← htext] at hlen
          rw [hsame]
          exact ⟨hok, Nat.le_of_eq hlen⟩
    rw [passChunks]
    split
    · exact ih hcallback.1 (by omega)
    · exact hcallback.1

/-- With memory for all of them, the chunks are all taken. -/
lemma passChunks_holds (h : ResOk res) {text : List UInt8} (hlen : res.len = text.length) (hholds : res.body.Holds text)
    (hsmall : text.length + (sentBytes chunks).length < 2 ^ 62) (hrealloc : ∀ c ∈ chunks, c.2 ≠ none) :
    (passChunks res chunks).1 = true ∧ (passChunks res chunks).2.len = text.length + (sentBytes chunks).length ∧
      (chunks ≠ [] → (passChunks res chunks).2.body.Holds (text ++ sentBytes chunks ++ [0])) := by
  induction chunks generalizing res text with
  | nil => exact ⟨rfl, hlen, fun hne => absurd rfl hne⟩
  | cons chunk chunks ih =>
    obtain ⟨data, realloc⟩ := chunk
    rw [List.forall_mem_cons] at hrealloc
    obtain ⟨junk, rfl⟩ := Option.ne_none_iff_exists'.mp hrealloc.1
    rw [sentBytes_cons, List.length_append] at hsmall ⊢
    obtain ⟨htaken, hok, hlen', hholds'⟩ := writeCallback_some data h hlen hholds (by omega) junk
    rw [passChunks, if_pos htaken, ← List.append_assoc]
    rw [← List.length_append] at hlen'
    have hprev := (Buf.holds_append_iff.mp hholds').1
    obtain ⟨hall, hlenAll, hholdsAll⟩ := ih hok hlen' hprev (by rw [List.length_append]; omega) hrealloc.2
    refine ⟨hall, by rw [hlenAll, List.length_append]; omega, fun _ => ?_⟩
    cases chunks with
    | nil =>
      rw [show sentBytes [] = [] from rfl, List.append_nil]
      exact hholds'
    | cons chunk chunks => exact hholdsAll (by simp)

end Chunks

/-! ### The request -/

/-- The chunks that curl passes on for a handle. -/
def chunksOf (handle : TgaHandle) (env : PostEnv) : List (List UInt8 × Option (ℕ → UInt8)) :=
  match env.curl (postUrl (handle.token.getD []) (handle.method.getD [])) handle.body handle.contentType with
  | none => []
  | some transfer => transfer.chunks

/-- What the server sends is far below what overflows a `size_t`. -/
def SmallPost (handle : TgaHandle) (env : PostEnv) : Prop := (sentBytes (chunksOf handle env)).length < 2 ^ 62

/-- A handle after `tga_screate` and any number of requests. -/
inductive Used : Option TgaRes → Prop
  | fresh : Used none
  | post {handle handle' : TgaHandle} {env : PostEnv} {ret : ℤ} : Used handle.res → SmallPost handle env →
    tgApiPost handle env = some (ret, handle') → Used handle'.res

/-- The first byte of the buffer when the request starts. -/
def firstByte (res : Option TgaRes) (malloc : Option (ℕ → UInt8)) : Option UInt8 :=
  match res with
  | none => malloc.map (fun junk => junk 0)
  | some res => some (res.body.mem 0)

/-- The outcomes of a request that reaches curl, and of one that does not. -/
lemma tgApiPost_cases {handle handle' : TgaHandle} {env : PostEnv} {ret : ℤ} (h : tgApiPost handle env = some (ret, handle')) :
    (ret ≠ 0 ∧ (handle'.res = handle.res ∨ handle'.res = none ∨
      ∃ res, tgApiAllocateRes handle.res env.malloc = .ok res ∧ handle'.res = some res)) ∨
    ∃ res ok, tgApiAllocateRes handle.res env.malloc = .ok res ∧
      handle'.res = some (passChunks res (chunksOf handle env)).2 ∧
      ret = if (passChunks res (chunksOf handle env)).1 && ok then 0 else -EBADMSG := by
  have hinval : -EINVAL ≠ 0 := by decide
  have hnomem : -ENOMEM ≠ 0 := by decide
  unfold tgApiPost at h
  split at h
  · cases h
    exact .inl ⟨hinval, .inl rfl⟩
  · cases h
    exact .inl ⟨hinval, .inl rfl⟩
  · cases h
    exact .inl ⟨hinval, .inl rfl⟩
  · rename_i method c token hmethod htoken
    split at h
    · cases h
    · cases h
      exact .inl ⟨hnomem, .inr (.inl rfl)⟩
    · rename_i res halloc
      split at h
      · cases h
        exact .inl ⟨hnomem, .inr (.inr ⟨res, halloc, rfl⟩)⟩
      · rename_i transfer hcurl
        have hchunks : chunksOf handle env = transfer.chunks := by
          unfold chunksOf
          rw [hmethod, htoken, Option.getD_some, Option.getD_some, hcurl]
        cases h
        rw [hchunks]
        exact .inr ⟨res, transfer.ok, halloc, rfl, rfl⟩

lemma tgApiAllocateRes_ok {res : Option TgaRes} {malloc : Option (ℕ → UInt8)} {new : TgaRes}
    (h : ∀ r, res = some r → ResOk r) (halloc : tgApiAllocateRes res malloc = .ok new) :
    ResOk new ∧ new.len = 0 ∧ some (new.body.mem 0) = firstByte res malloc := by
  cases res with
  | none =>
    cases malloc with
    | none => cases halloc
    | some junk =>
      cases halloc
      have hroom : 0 < 0x1000 := by decide
      have hsize : 0x1000 < 2 ^ 64 := by decide
      exact ⟨⟨hroom, hsize, Buf.within_fresh _ _⟩, rfl, rfl⟩
  | some r =>
    rw [tgApiAllocateRes] at halloc
    split at halloc
    · cases halloc
    · rename_i hpos
      cases halloc
      have hr := h r rfl
      exact ⟨⟨Nat.pos_of_ne_zero hpos, hr.size, hr.within⟩, rfl, rfl⟩

/-- Every request leaves room. -/
lemma Used.ok {res : Option TgaRes} (h : Used res) : ∀ r, res = some r → ResOk r := by
  induction h with
  | fresh =>
    intro r hr
    cases hr
  | post _ hsmall hpost ih =>
    intro r hr
    obtain ⟨-, hsame | hnone | ⟨new, halloc, hnew⟩⟩ | ⟨new, ok, halloc, hnew, -⟩ := tgApiPost_cases hpost
    · exact ih r (hsame ▸ hr)
    · rw [hnone] at hr
      cases hr
    · rw [hnew] at hr
      cases hr
      exact (tgApiAllocateRes_ok ih halloc).1
    · rw [hnew] at hr
      cases hr
      obtain ⟨hok, hlen, -⟩ := tgApiAllocateRes_ok ih halloc
      exact resOk_passChunks _ hok (by rw [hlen, Nat.zero_add]; exact hsmall)

/-- The body is the data with a NUL behind it, inside its block. -/
structure ResponseIs (res : TgaRes) (data : List UInt8) : Prop where
  holds : res.body.Holds (data ++ [0])
  len : res.len = data.length
  room : res.len < res.allocated
  within : res.body.Within res.allocated

/-- A request that returns zero has the response of the server, exactly if a chunk came or the buffer
started with a NUL. -/
theorem response_exact_iff (handle : TgaHandle) (hused : Used handle.res) (env : PostEnv) (hsmall : SmallPost handle env)
    (hrealloc : ∀ c ∈ chunksOf handle env, c.2 ≠ none) (handle' : TgaHandle)
    (hpost : tgApiPost handle env = some (0, handle')) :
    ((∃ res, handle'.res = some res ∧ ResponseIs res (sentBytes (chunksOf handle env))) ∧
      ∀ (res : TgaRes) (data : List UInt8), (data.length + res.len + 2) % 2 ^ 64 ≥ res.allocated →
        writeCallback res data none = (0, res)) ↔
      chunksOf handle env ≠ [] ∨ firstByte handle.res env.malloc = some 0 := by
  obtain ⟨hne, -⟩ | ⟨new, ok, halloc, hnew, -⟩ := tgApiPost_cases hpost
  · exact absurd rfl hne
  have hfail : ∀ (res : TgaRes) (data : List UInt8), (data.length + res.len + 2) % 2 ^ 64 ≥ res.allocated →
      writeCallback res data none = (0, res) := fun res data hfull => writeCallback_none hfull
  obtain ⟨hok, hlen, hbyte⟩ := tgApiAllocateRes_ok hused.ok halloc
  have hlen' : new.len = ([] : List UInt8).length := hlen
  have hsmall' : ([] : List UInt8).length + (sentBytes (chunksOf handle env)).length < 2 ^ 62 := by
    rw [List.length_nil, Nat.zero_add]
    exact hsmall
  have hpassed := resOk_passChunks (chunksOf handle env) hok (by rw [hlen]; exact hsmall')
  obtain ⟨-, hlenAll, hholds⟩ := passChunks_holds (chunksOf handle env) hok hlen' new.body.holds_nil hsmall' hrealloc
  rw [List.length_nil, Nat.zero_add] at hlenAll
  have hiff : (∃ res, handle'.res = some res ∧ ResponseIs res (sentBytes (chunksOf handle env))) ↔
      (passChunks new (chunksOf handle env)).2.body.Holds (sentBytes (chunksOf handle env) ++ [0]) := by
    rw [hnew]
    constructor
    · rintro ⟨res, hres, hresponse⟩
      rw [Option.some_inj.mp hres]
      exact hresponse.holds
    · exact fun h => ⟨_, rfl, h, hlenAll, hpassed.room, hpassed.within⟩
  rw [and_iff_left hfail, hiff, ← hbyte, Option.some_inj]
  by_cases hchunks : chunksOf handle env = []
  · -- nothing was written
    rw [hchunks]
    have hzero : new.body.Holds [0] ↔ new.body.mem 0 = 0 := by simp [Buf.Holds, Buf.read]
    simpa [passChunks, sentBytes] using hzero
  · exact iff_of_true (hholds hchunks) (.inl hchunks)

/-- A handle for `getMe`. -/
def getMe : TgaHandle := { tgaScreate (some (ascii "1:A")) with method := some (ascii "getMe") }

/-- A server that sends these chunks, and memory for all of them. -/
def serverOf (chunks : List (List UInt8)) : PostEnv :=
  ⟨some (fun _ => 0), fun _ _ _ => some ⟨chunks.map (fun c => (c, some (fun _ => 0))), true⟩⟩

/-- The handle after a request that was answered with `A`. -/
def answered : TgaHandle := ((tgApiPost getMe (serverOf [[65]])).getD (0, getMe)).2

lemma used_answered : Used answered.res :=
  @Used.post getMe answered (serverOf [[65]]) 0 .fresh (by unfold SmallPost; decide) rfl

theorem response_exact_again :
    ∃ res, ((tgApiPost answered (serverOf [[66], [67]])).getD (0, answered)).2.res = some res ∧ ResponseIs res [66, 67] := by
  refine ((response_exact_iff answered used_answered (serverOf [[66], [67]]) (by unfold SmallPost; decide) ?_ _ rfl).mpr (.inl ?_)).1
  · intro c hc
    simp only [chunksOf, serverOf, List.map_cons, List.map_nil, List.mem_cons, List.not_mem_nil, or_false] at hc
    rcases hc with rfl | rfl <;> simp
  · simp [chunksOf, serverOf]

/-- An empty response leaves the one before it. -/
theorem empty_response_is_stale :
    ∃ handle', tgApiPost answered (serverOf []) = some (0, handle') ∧
      ¬∃ res, handle'.res = some res ∧ ResponseIs res (sentBytes (chunksOf answered (serverOf []))) := by
  refine ⟨_, rfl, ?_⟩
  rintro ⟨res, hres, hresponse⟩
  obtain rfl := Option.some_inj.mp hres
  have hbyte : ([65] : List UInt8) = [0] := hresponse.holds
  cases hbyte

end GNUWeebBot.Proofs
