import GNUWeebBot.Proofs.ModerationReply

/-!
# The size that `gen_name_link` is given

The space for a name is right before the first name: five bytes less than the buffer has
behind the link. After a name the code adds its length to the space, so the space is
larger than what the buffer has left as soon as the names have more than two bytes.
-/

namespace GNUWeebBot.Proofs

/-- Where the text of a name ends that is escaped into `room` bytes. -/
def nameEnd (room : ℕ) (name : List UInt8) : ℤ := if room = 0 then -1 else escapedEnd room (name.take 0xff)

/-- The space for the first name, and where its text ends in it. -/
def firstRoom (sps id : ℕ) : ℕ := sps - 5 - (linkText id).length

def firstEnd (sps id : ℕ) (first : List UInt8) : ℤ := nameEnd (firstRoom sps id) first

/-- The space that the code has for the last name, and where its text ends in it. -/
def lastRoom (sps id : ℕ) (first : List UInt8) : ℕ := (firstRoom sps id + firstEnd sps id first + 1).toNat

def lastEnd (sps id : ℕ) (first last : List UInt8) : ℤ := nameEnd (lastRoom sps id first) last

/-- The link text leaves five bytes. A first name alone ends at most two bytes behind it and
does not fill the space for it; with a last name the two take at most one byte together,
and less than the space for the first name. -/
def ShortNames (sps id : ℕ) (first : List UInt8) (last : CharPtr) : Prop :=
  (linkText id).length + 5 ≤ sps ∧ -1 ≤ firstEnd sps id first ∧
    match last with
    | none => firstEnd sps id first ≤ 2 ∧ (first.flatMap htmlMap).length ≠ firstRoom sps id
    | some last => firstEnd sps id first ≤ 1 ∧ -1 ≤ lastEnd sps id first last ∧
      firstEnd sps id first + lastEnd sps id first last ≤ 1 ∧
      firstEnd sps id first + lastEnd sps id first last < firstRoom sps id

/-- The link with everything in it. -/
def fullLink (id : ℕ) (first : List UInt8) (last : CharPtr) : List UInt8 :=
  linkText id ++ first.flatMap htmlMap ++ last.elim [] (fun last => ascii " " ++ last.flatMap htmlMap) ++ ascii "</a>"

/-- The values of `sps`, before they wrap, each with the bytes of the buffer behind `ret`. -/
def linkRooms (b : Buf) (sps id : ℕ) (first : List UInt8) (last : CharPtr) : List (ℤ × ℤ) :=
  let space := sizeSub sps 5
  let link := linkText id
  let room := sizeSub space link.length
  let name := htmlspecialchars (snprintf b 0 space link) link.length room (first.take 0xff)
  let more := sizeAdd room name.2
  let ret := (link.length + (name.2 - 1)).toNat
  [((sps : ℤ) - 5, (sps : ℤ)), ((space : ℤ) - link.length, (sps : ℤ) - link.length),
    ((room : ℤ) + sizeAdd 0 name.2, (sps : ℤ) - ret)] ++
    match last with
    | none => []
    | some last =>
      let name := htmlspecialchars (name.1.put ret (ascii " ")) (ret + 1) more (last.take 0xff)
      [((more : ℤ), (sps : ℤ) - (ret + 1)),
        ((more : ℤ) + sizeAdd 0 name.2, (sps : ℤ) - (ret + 1 + (name.2 - 1)).toNat)]

/-- `gen_name_link` honours `sps`: it writes only there, its space never wraps and is never
more than the buffer has left, it returns the length of the string it leaves, and that is
the whole link where this one fits. -/
structure LinkHonoured (junk : ℕ → UInt8) (sps id : ℕ) (first : List UInt8) (last : CharPtr) : Prop where
  within : (genNameLink (Buf.fresh junk) sps id first last).1.Within sps
  counter : ∀ p ∈ linkRooms (Buf.fresh junk) sps id first last, 0 ≤ p.1 ∧ p.1 < 2 ^ 64 ∧ p.1 ≤ p.2
  length : (genNameLink (Buf.fresh junk) sps id first last).2 < sps ∧
    ((genNameLink (Buf.fresh junk) sps id first last).1.cstr 0 sps).length =
      (genNameLink (Buf.fresh junk) sps id first last).2
  whole : (fullLink id first last).length < sps →
    (genNameLink (Buf.fresh junk) sps id first last).1.cstr 0 sps = fullLink id first last

section Name

variable {b : Buf} {off room size : ℕ} {front : List UInt8} (name : List UInt8)

lemma htmlspecialchars_name_ret (b : Buf) (off room : ℕ) :
    (htmlspecialchars b off room (name.take 0xff)).2 = nameEnd room name + 1 := by
  unfold nameEnd
  rcases Nat.eq_zero_or_pos room with rfl | hroom
  · rw [htmlspecialchars_zero, if_pos rfl]
    rfl
  · rw [htmlspecialchars_ret_pos b off hroom, if_neg (Nat.ne_of_gt hroom)]

lemma nameEnd_lt (room : ℕ) : nameEnd room name < room := by
  unfold nameEnd
  split
  · omega
  · exact escapedEnd_lt (by omega) _

lemma nameEnd_ge (room : ℕ) : -6 ≤ nameEnd room name := by
  unfold nameEnd
  split
  · decide
  · exact escapedEnd_ge _ _

lemma nameEnd_le (room : ℕ) : nameEnd room name ≤ (escaped room (name.take 0xff)).length := by
  unfold nameEnd escapedEnd htmlRollBack
  split
  · omega
  · split <;> omega

/-- The ends of the two names in the spaces they are given. -/
lemma firstEnd_bounds (sps id : ℕ) (first : List UInt8) :
    -6 ≤ firstEnd sps id first ∧ firstEnd sps id first < firstRoom sps id ∧
      firstEnd sps id first ≤ (escaped (firstRoom sps id) (first.take 0xff)).length :=
  ⟨nameEnd_ge first _, nameEnd_lt first _, nameEnd_le first _⟩

lemma lastEnd_bounds (sps id : ℕ) (first last : List UInt8) :
    -6 ≤ lastEnd sps id first last ∧ lastEnd sps id first last < lastRoom sps id first ∧
      lastEnd sps id first last ≤ (escaped (lastRoom sps id first) (last.take 0xff)).length :=
  ⟨nameEnd_ge last _, nameEnd_lt last _, nameEnd_le last _⟩

/-- A name behind a text, cut where its text ends. -/
lemma htmlspecialchars_holds (hoff : front.length = off) (hpos : 0 < off) (hin : b.Within size)
    (hroom : off + room < size) (hfront : 0 < room → b.Holds front) (hcut : b.Holds (front.take (off - 1))) :
    (htmlspecialchars b off room (name.take 0xff)).1.Within size ∧
      (htmlspecialchars b off room (name.take 0xff)).1.Holds
        ((front ++ escaped room (name.take 0xff)).take (off + nameEnd room name).toNat) := by
  refine ⟨within_htmlspecialchars hin _ hroom, ?_⟩
  rcases Nat.eq_zero_or_pos room with rfl | hpositive
  · have hend : (off + nameEnd 0 name).toNat = off - 1 := by
      simp only [nameEnd, if_pos]
      omega
    rw [htmlspecialchars_zero, hend, List.take_append_of_le_length (by omega)]
    exact hcut
  · obtain ⟨b₁, hstores, hrun⟩ := htmlspecialchars_pos b off (name.take 0xff) hpositive
    have hend : nameEnd room name = escapedEnd room (name.take 0xff) := if_neg (Nat.ne_of_gt hpositive)
    rw [← hoff] at hstores
    have hholds := (hfront hpositive).stores hstores
    rw [hrun, hend]
    apply (hholds.take _).put_behind
    rw [List.length_take]
    omega

end Name

/-! ### The two calls -/

section Link

variable {sps id : ℕ} (hmin : 32 ≤ sps) (hmax : sps < 2 ^ 64) (hlink : (linkText id).length + 5 ≤ sps) (b : Buf)
  (first last : List UInt8)

/-- `ret` behind the first name, and behind the last one. -/
def firstAt (sps id : ℕ) (first : List UInt8) : ℕ := ((linkText id).length + firstEnd sps id first).toNat

def lastAt (sps id : ℕ) (first last : List UInt8) : ℕ :=
  (firstAt sps id first + 1 + lastEnd sps id first last).toNat

/-- The buffer behind the first name. -/
def withFirst (b : Buf) (sps id : ℕ) (first : List UInt8) : Buf :=
  (htmlspecialchars (snprintf b 0 (sps - 5) (linkText id)) (linkText id).length (firstRoom sps id)
    (first.take 0xff)).1

def withLast (b : Buf) (sps id : ℕ) (first last : List UInt8) : Buf :=
  (htmlspecialchars ((withFirst b sps id first).put (firstAt sps id first) (ascii " ")) (firstAt sps id first + 1)
    (lastRoom sps id first) (last.take 0xff)).1

include hmax hlink

lemma rooms_eq : sizeSub sps 5 = sps - 5 ∧ sizeSub (sps - 5) (linkText id).length = firstRoom sps id := by
  constructor
  · exact sizeSub_of_le (by omega) hmax
  · exact sizeSub_of_le (by omega) (by omega)

include hmin

lemma genNameLink_first :
    genNameLink b sps id first none =
      ((withFirst b sps id first).put (firstAt sps id first) (ascii "</a>" ++ [0]), firstAt sps id first + 4) := by
  obtain ⟨hspace, hroom⟩ := rooms_eq hmax hlink
  unfold genNameLink
  rw [if_neg (by omega)]
  dsimp only
  rw [hspace, hroom, htmlspecialchars_name_ret, Int.add_sub_cancel]
  rfl

lemma genNameLink_both (hmore : sizeAdd (firstRoom sps id) (firstEnd sps id first + 1) = lastRoom sps id first) :
    genNameLink b sps id first (some last) =
      ((withLast b sps id first last).put (lastAt sps id first last) (ascii "</a>" ++ [0]),
        lastAt sps id first last + 4) := by
  obtain ⟨hspace, hroom⟩ := rooms_eq hmax hlink
  unfold genNameLink
  rw [if_neg (by omega)]
  dsimp only
  rw [hspace, hroom, htmlspecialchars_name_ret, Int.add_sub_cancel]
  unfold firstEnd at hmore
  rw [hmore, htmlspecialchars_name_ret, Int.add_sub_cancel]
  rfl

omit hmin in
lemma linkRooms_first :
    linkRooms b sps id first none =
      [((sps : ℤ) - 5, (sps : ℤ)), (((sps - 5 : ℕ) : ℤ) - (linkText id).length, (sps : ℤ) - (linkText id).length),
        ((firstRoom sps id : ℤ) + sizeAdd 0 (firstEnd sps id first + 1), (sps : ℤ) - firstAt sps id first)] := by
  obtain ⟨hspace, hroom⟩ := rooms_eq hmax hlink
  unfold linkRooms
  dsimp only
  rw [hspace, hroom, htmlspecialchars_name_ret, Int.add_sub_cancel]
  rfl

omit hmin in
lemma linkRooms_both (hmore : sizeAdd (firstRoom sps id) (firstEnd sps id first + 1) = lastRoom sps id first) :
    linkRooms b sps id first (some last) =
      linkRooms b sps id first none ++
        [((lastRoom sps id first : ℤ), (sps : ℤ) - (firstAt sps id first + 1)),
          ((lastRoom sps id first : ℤ) + sizeAdd 0 (lastEnd sps id first last + 1),
            (sps : ℤ) - lastAt sps id first last)] := by
  obtain ⟨hspace, hroom⟩ := rooms_eq hmax hlink
  unfold linkRooms
  dsimp only
  rw [hspace, hroom, htmlspecialchars_name_ret, Int.add_sub_cancel]
  unfold firstEnd at hmore
  rw [hmore, htmlspecialchars_name_ret, Int.add_sub_cancel]
  rfl

end Link

/-! ### The counter -/

/-- A length that is added to the space. -/
lemma added_iff {a real k : ℤ} (ha : 0 ≤ a) (hlow : -6 ≤ k) (hhigh : k < 2 ^ 64 - 1) (hreal : real < 2 ^ 64 - 6) :
    (0 ≤ a + sizeAdd 0 (k + 1) ∧ a + sizeAdd 0 (k + 1) < 2 ^ 64 ∧ a + sizeAdd 0 (k + 1) ≤ real) ↔
      -1 ≤ k ∧ a + k + 1 ≤ real := by
  unfold sizeAdd
  omega

section Counter

variable {sps id : ℕ} (hmax : sps < 2 ^ 64) (b : Buf) (first last : List UInt8)

include hmax

/-- Without five bytes behind the link text the space wraps before the names. -/
lemma link_of_counter (last : CharPtr)
    (hall : ∀ p ∈ linkRooms b sps id first last, 0 ≤ p.1 ∧ p.1 < 2 ^ 64 ∧ p.1 ≤ p.2) :
    (linkText id).length + 5 ≤ sps := by
  have hspace := (hall _ (List.mem_append_left _ List.mem_cons_self)).1
  have hlink := (hall _ (List.mem_append_left _ (List.mem_cons_of_mem _ List.mem_cons_self))).1
  dsimp only at hspace hlink
  rw [sizeSub_of_le (by omega) hmax] at hlink
  omega

omit hmax in
lemma linkRooms_subset : linkRooms b sps id first none ⊆ linkRooms b sps id first (some last) := by
  intro p hp
  rcases List.mem_append.mp hp with hfirst | hnone
  · exact List.mem_append_left _ hfirst
  · exact absurd hnone List.not_mem_nil

/-- The space for the last name does not wrap where little was added to it. -/
lemma sizeAdd_lastRoom (hlink : (linkText id).length + 5 ≤ sps) (hlow : -1 ≤ firstEnd sps id first)
    (hhigh : firstEnd sps id first ≤ 2) :
    sizeAdd (firstRoom sps id) (firstEnd sps id first + 1) = lastRoom sps id first := by
  have hlen := linkText_length id
  have hroom : firstRoom sps id = sps - 5 - (linkText id).length := rfl
  unfold sizeAdd lastRoom
  omega

/-- The counter of a link with a first name. -/
lemma counter_first_iff :
    (∀ p ∈ linkRooms b sps id first none, 0 ≤ p.1 ∧ p.1 < 2 ^ 64 ∧ p.1 ≤ p.2) ↔
      (linkText id).length + 5 ≤ sps ∧ -1 ≤ firstEnd sps id first ∧ firstEnd sps id first ≤ 2 := by
  have hlen := linkText_length id
  by_cases hlink : (linkText id).length + 5 ≤ sps
  · obtain ⟨hlow, hhigh, -⟩ := firstEnd_bounds sps id first
    have hroom : firstRoom sps id = sps - 5 - (linkText id).length := rfl
    have hat : firstAt sps id first = ((linkText id).length + firstEnd sps id first).toNat := rfl
    rw [linkRooms_first hmax hlink]
    simp only [List.forall_mem_cons, List.not_mem_nil, false_implies, implies_true, and_true]
    rw [added_iff (by omega) hlow (by omega) (by omega)]
    omega
  · exact iff_of_false (fun hall => hlink (link_of_counter hmax b first none hall)) (fun h => hlink h.1)

/-- The counter of a link with both names. -/
lemma counter_both_iff :
    (∀ p ∈ linkRooms b sps id first (some last), 0 ≤ p.1 ∧ p.1 < 2 ^ 64 ∧ p.1 ≤ p.2) ↔
      (linkText id).length + 5 ≤ sps ∧ -1 ≤ firstEnd sps id first ∧ firstEnd sps id first ≤ 1 ∧
        -1 ≤ lastEnd sps id first last ∧ firstEnd sps id first + lastEnd sps id first last ≤ 1 := by
  have hlen := linkText_length id
  by_cases hlink : (linkText id).length + 5 ≤ sps
  · have hroom : firstRoom sps id = sps - 5 - (linkText id).length := rfl
    have hat : firstAt sps id first = ((linkText id).length + firstEnd sps id first).toNat := rfl
    have hmore : lastRoom sps id first = (firstRoom sps id + firstEnd sps id first + 1).toNat := rfl
    have hend : lastAt sps id first last = (firstAt sps id first + 1 + lastEnd sps id first last).toNat := rfl
    obtain ⟨hlow, hhigh, -⟩ := lastEnd_bounds sps id first last
    by_cases hkept : -1 ≤ firstEnd sps id first ∧ firstEnd sps id first ≤ 2
    · have hadd := sizeAdd_lastRoom hmax first hlink hkept.1 hkept.2
      have hfirst := (counter_first_iff hmax b first).mpr ⟨hlink, hkept⟩
      rw [linkRooms_both hmax hlink b first last hadd, List.forall_mem_append, and_iff_right hfirst]
      simp only [List.forall_mem_cons, List.not_mem_nil, false_implies, implies_true, and_true]
      rw [added_iff (by omega) hlow (by omega) (by omega)]
      omega
    · refine iff_of_false (fun hall => hkept ?_) (fun h => hkept ⟨h.2.1, by omega⟩)
      exact ((counter_first_iff hmax b first).mp (fun p hp => hall p (linkRooms_subset b first last hp))).2
  · exact iff_of_false (fun hall => hlink (link_of_counter hmax b first (some last) hall)) (fun h => hlink h.1)

end Counter

/-! ### The text -/

section Text

variable {sps id : ℕ} (junk : ℕ → UInt8) (first last : List UInt8)

/-- What is in the buffer when a name is behind it. -/
def firstText (sps id : ℕ) (first : List UInt8) : List UInt8 :=
  (linkText id ++ escaped (firstRoom sps id) (first.take 0xff)).take (firstAt sps id first)

def lastText (sps id : ℕ) (first last : List UInt8) : List UInt8 :=
  (firstText sps id first ++ ascii " " ++ escaped (lastRoom sps id first) (last.take 0xff)).take
    (lastAt sps id first last)

variable (sps id) in
lemma length_firstText : (firstText sps id first).length = firstAt sps id first := by
  obtain ⟨-, -, hle⟩ := firstEnd_bounds sps id first
  rw [firstText, List.length_take, List.length_append, firstAt]
  omega

variable (sps id) in
lemma length_lastText : (lastText sps id first last).length = lastAt sps id first last := by
  obtain ⟨-, -, hle⟩ := lastEnd_bounds sps id first last
  have hspace : (ascii " ").length = 1 := rfl
  rw [lastText, List.length_take, List.length_append, List.length_append, length_firstText, hspace, lastAt]
  omega

lemma zero_not_mem_escaped {name : List UInt8} (hname : 0 ∉ name) (room : ℕ) :
    0 ∉ escaped room (name.take 0xff) := by
  intro hmem
  obtain ⟨c, hc, hin⟩ := List.mem_flatMap.mp hmem
  have hcname : c ∈ name := List.mem_of_mem_take (List.mem_of_mem_take hc)
  rcases htmlMap_cases c with h | ⟨-, -, hzero, -⟩
  · rw [h, List.mem_singleton] at hin
    exact hname (hin ▸ hcname)
  · exact hzero hin

lemma zero_not_mem_linkText (id : ℕ) : 0 ∉ linkText id := by
  intro hmem
  rw [linkText, List.mem_append, List.mem_append] at hmem
  rcases hmem with (hopen | hnum) | hclose
  · exact absurd hopen (by decide)
  · exact (decimal_nat id 0 hnum).clean.2.2.2.2 rfl
  · exact absurd hclose (by decide)

lemma zero_not_mem_firstText (hfirst : 0 ∉ first) : 0 ∉ firstText sps id first := by
  intro hmem
  rcases List.mem_append.mp (List.mem_of_mem_take hmem) with h | h
  · exact zero_not_mem_linkText id h
  · exact zero_not_mem_escaped hfirst _ h

lemma zero_not_mem_lastText (hfirst : 0 ∉ first) (hlast : 0 ∉ last) : 0 ∉ lastText sps id first last := by
  intro hmem
  rcases List.mem_append.mp (List.mem_of_mem_take hmem) with h | h
  · rcases List.mem_append.mp h with h | h
    · exact zero_not_mem_firstText first hfirst h
    · exact absurd h (by decide)
  · exact zero_not_mem_escaped hlast _ h

variable (hmin : 32 ≤ sps) (hlink : (linkText id).length + 5 ≤ sps)

include hmin hlink in
lemma withFirst_holds :
    (withFirst (Buf.fresh junk) sps id first).Within sps ∧
      (withFirst (Buf.fresh junk) sps id first).Holds (firstText sps id first) := by
  have hlen := linkText_length id
  have hroom : firstRoom sps id = sps - 5 - (linkText id).length := rfl
  have hin : (snprintf (Buf.fresh junk) 0 (sps - 5) (linkText id)).Within sps := by
    rw [snprintf, if_neg (by omega), Buf.within_put, List.length_append, List.length_take, List.length_singleton]
    exact ⟨by omega, Buf.within_fresh _ _⟩
  have hcut : (snprintf (Buf.fresh junk) 0 (sps - 5) (linkText id)).Holds
      ((linkText id).take ((linkText id).length - 1)) := by
    have hput := (Buf.holds_nil (Buf.fresh junk)).put ((linkText id).take (sps - 5 - 1) ++ [0])
    rw [List.length_nil, List.nil_append] at hput
    have htake : (linkText id).take ((linkText id).length - 1) =
        ((linkText id).take (sps - 5 - 1)).take ((linkText id).length - 1) := by
      rw [List.take_take, Nat.min_eq_left (by omega)]
    rw [snprintf, if_neg (by omega), htake]
    exact hput.of_append.take _
  have hfront : 0 < firstRoom sps id → (snprintf (Buf.fresh junk) 0 (sps - 5) (linkText id)).Holds (linkText id) := by
    intro hpos
    exact holds_snprintf (Buf.holds_nil _) (by omega)
  exact htmlspecialchars_holds first rfl (by omega) hin (by omega) hfront hcut

include hmin hlink in
lemma withLast_holds (hlow : -1 ≤ firstEnd sps id first) (hhigh : firstEnd sps id first ≤ 1) :
    (withLast (Buf.fresh junk) sps id first last).Within sps ∧
      (withLast (Buf.fresh junk) sps id first last).Holds (lastText sps id first last) := by
  have hlen := linkText_length id
  have hroom : firstRoom sps id = sps - 5 - (linkText id).length := rfl
  have hat : firstAt sps id first = ((linkText id).length + firstEnd sps id first).toNat := rfl
  have hmore : lastRoom sps id first = (firstRoom sps id + firstEnd sps id first + 1).toNat := rfl
  obtain ⟨-, hlt, -⟩ := firstEnd_bounds sps id first
  have hspace : (ascii " ").length = 1 := rfl
  obtain ⟨hin, hholds⟩ := withFirst_holds junk first hmin hlink
  have hfirst := hholds.put (ascii " ")
  rw [length_firstText] at hfirst
  have hlength : (firstText sps id first ++ ascii " ").length = firstAt sps id first + 1 := by
    rw [List.length_append, length_firstText, hspace]
  apply htmlspecialchars_holds last hlength (by omega)
  · rw [Buf.within_put, hspace]
    exact ⟨by omega, hin⟩
  · omega
  · exact fun _ => hfirst
  · exact hfirst.take _

variable (sps) in
/-- The string that is left behind a text. -/
lemma closed_link {b : Buf} {text : List UInt8} (hholds : b.Holds text) (hzero : 0 ∉ text)
    (hfits : text.length + 4 < sps) :
    (b.put text.length (ascii "</a>" ++ [0])).cstr 0 sps = text ++ ascii "</a>" := by
  have hput := hholds.put (ascii "</a>" ++ [0])
  rw [← List.append_assoc] at hput
  have hclose : (ascii "</a>").length = 4 := rfl
  apply hput.cstr_zero
  · rw [List.mem_append, not_or]
    exact ⟨hzero, by decide⟩
  · rw [List.length_append, hclose]
    exact hfits

end Text

/-! ### The function -/

/-- A short name that ends before its space does is there as a whole. -/
lemma short_name {room : ℕ} {name : List UInt8} (hfits : (name.flatMap htmlMap).length < room)
    (hshort : nameEnd room name ≤ 2) :
    nameEnd room name = (name.flatMap htmlMap).length ∧ escaped room (name.take 0xff) = name.flatMap htmlMap := by
  have hsplit : (name.flatMap htmlMap).length =
      ((name.take 0xff).flatMap htmlMap).length + ((name.drop 0xff).flatMap htmlMap).length := by
    rw [← List.length_append, ← List.flatMap_append, List.take_append_drop]
  have hend : nameEnd room name = ((name.take 0xff).flatMap htmlMap).length := by
    rw [nameEnd, if_neg (by omega), escapedEnd_of_lt (by omega)]
  have hlen := length_le_escapes (name.take 0xff)
  rw [List.length_take] at hlen
  have hall : name.take 0xff = name := List.take_of_length_le (by omega)
  rw [hall] at hend ⊢
  exact ⟨hend, Cut.code_of_le htmlMap (by omega)⟩

section Honoured

variable {sps id : ℕ} (junk : ℕ → UInt8) {first last : List UInt8} (hmin : 32 ≤ sps) (hmax : sps < 2 ^ 64)
  (hlink : (linkText id).length + 5 ≤ sps)

include hmin hmax hlink

/-- A link with a first name. -/
lemma first_link (hzero : 0 ∉ first) (hlow : -1 ≤ firstEnd sps id first) :
    (genNameLink (Buf.fresh junk) sps id first none).1.Within sps ∧
      (genNameLink (Buf.fresh junk) sps id first none).2 = firstAt sps id first + 4 ∧
      firstAt sps id first + 4 < sps ∧
      (genNameLink (Buf.fresh junk) sps id first none).1.cstr 0 sps = firstText sps id first ++ ascii "</a>" := by
  have hlen := linkText_length id
  have hroom : firstRoom sps id = sps - 5 - (linkText id).length := rfl
  have hat : firstAt sps id first = ((linkText id).length + firstEnd sps id first).toNat := rfl
  obtain ⟨-, hlt, -⟩ := firstEnd_bounds sps id first
  have hclose : (ascii "</a>" ++ [0]).length = 5 := rfl
  obtain ⟨hin, hholds⟩ := withFirst_holds junk first hmin hlink
  have hlength := length_firstText sps id first
  rw [genNameLink_first hmin hmax hlink]
  refine ⟨?_, rfl, by omega, ?_⟩
  · rw [Buf.within_put, hclose]
    exact ⟨by omega, hin⟩
  · have hstring := closed_link sps hholds (zero_not_mem_firstText first hzero) (by omega)
    rw [hlength] at hstring
    exact hstring

/-- A link with both names. -/
lemma both_link (hfirst : 0 ∉ first) (hlast : 0 ∉ last) (hlow : -1 ≤ firstEnd sps id first)
    (hhigh : firstEnd sps id first ≤ 1) (hmore : -1 ≤ lastEnd sps id first last) :
    ((genNameLink (Buf.fresh junk) sps id first (some last)).1.Within sps ↔
      firstEnd sps id first + lastEnd sps id first last < firstRoom sps id) ∧
      (genNameLink (Buf.fresh junk) sps id first (some last)).2 = lastAt sps id first last + 4 ∧
      (firstEnd sps id first + lastEnd sps id first last < firstRoom sps id →
        lastAt sps id first last + 4 < sps ∧
        (genNameLink (Buf.fresh junk) sps id first (some last)).1.cstr 0 sps =
          lastText sps id first last ++ ascii "</a>") := by
  have hlen := linkText_length id
  have hroom : firstRoom sps id = sps - 5 - (linkText id).length := rfl
  have hat : firstAt sps id first = ((linkText id).length + firstEnd sps id first).toNat := rfl
  have hend : lastAt sps id first last = (firstAt sps id first + 1 + lastEnd sps id first last).toNat := rfl
  have hclose : (ascii "</a>" ++ [0]).length = 5 := rfl
  obtain ⟨hin, hholds⟩ := withLast_holds junk first last hmin hlink hlow hhigh
  have hlength := length_lastText sps id first last
  rw [genNameLink_both hmin hmax hlink _ first last (sizeAdd_lastRoom hmax first hlink hlow (by omega))]
  refine ⟨?_, rfl, fun hfits => ⟨by omega, ?_⟩⟩
  · rw [Buf.within_put, hclose, and_iff_left hin]
    omega
  · have hstring := closed_link sps hholds (zero_not_mem_lastText first last hfirst hlast) (by omega)
    rw [hlength] at hstring
    exact hstring

end Honoured

section Names

variable {sps id : ℕ} (junk : ℕ → UInt8) {first : List UInt8} (hmin : 32 ≤ sps) (hmax : sps < 2 ^ 64)

lemma length_fullLink (id : ℕ) (first last : List UInt8) :
    (fullLink id first none).length = (linkText id).length + (first.flatMap htmlMap).length + 4 ∧
      (fullLink id first (some last)).length =
        (linkText id).length + (first.flatMap htmlMap).length + 1 + (last.flatMap htmlMap).length + 4 := by
  have hclose : (ascii "</a>").length = 4 := rfl
  have hspace : (ascii " ").length = 1 := rfl
  constructor
  · simp only [fullLink, Option.elim_none, List.append_nil, List.length_append, hclose]
  · simp only [fullLink, Option.elim_some, List.length_append, hclose, hspace]
    omega

include hmin hmax

lemma honoured_first_iff (hzero : 0 ∉ first) :
    LinkHonoured junk sps id first none ↔ ShortNames sps id first none := by
  have hfull := (length_fullLink id first []).1
  obtain ⟨-, hlt, -⟩ := firstEnd_bounds sps id first
  have hroom : firstRoom sps id = sps - 5 - (linkText id).length := rfl
  have hat : firstAt sps id first = ((linkText id).length + firstEnd sps id first).toNat := rfl
  constructor
  · intro h
    obtain ⟨hlink, hlow, hhigh⟩ := (counter_first_iff hmax _ first).mp h.counter
    obtain ⟨-, hret, hshort, hstring⟩ := first_link junk hmin hmax hlink hzero hlow
    refine ⟨hlink, hlow, hhigh, fun hexact => ?_⟩
    have hwhole := h.length.2
    rw [h.whole (by omega), hret, hfull] at hwhole
    omega
  · rintro ⟨hlink, hlow, hhigh, hexact⟩
    obtain ⟨hin, hret, hshort, hstring⟩ := first_link junk hmin hmax hlink hzero hlow
    constructor
    · exact hin
    · exact (counter_first_iff hmax _ first).mpr ⟨hlink, hlow, hhigh⟩
    · rw [hret, hstring, List.length_append, length_firstText]
      exact ⟨hshort, rfl⟩
    · intro hfits
      obtain ⟨hend, hcode⟩ := short_name (show (first.flatMap htmlMap).length < firstRoom sps id by omega) hhigh
      change firstEnd sps id first = _ at hend
      have hlen : firstAt sps id first = (linkText id ++ first.flatMap htmlMap).length := by
        rw [List.length_append]
        omega
      rw [hstring, firstText, hcode, hlen, List.take_length]
      simp only [fullLink, Option.elim_none, List.append_nil]

lemma honoured_both_iff {last : List UInt8} (hfirst : 0 ∉ first) (hlast : 0 ∉ last) :
    LinkHonoured junk sps id first (some last) ↔ ShortNames sps id first (some last) := by
  have hfull := (length_fullLink id first last).2
  have hroom : firstRoom sps id = sps - 5 - (linkText id).length := rfl
  have hat : firstAt sps id first = ((linkText id).length + firstEnd sps id first).toNat := rfl
  have hend : lastAt sps id first last = (firstAt sps id first + 1 + lastEnd sps id first last).toNat := rfl
  have hmore : lastRoom sps id first = (firstRoom sps id + firstEnd sps id first + 1).toNat := rfl
  constructor
  · intro h
    obtain ⟨hlink, hlow, hhigh, hlow', hhigh'⟩ := (counter_both_iff hmax _ first last).mp h.counter
    obtain ⟨hin, -, -⟩ := both_link junk hmin hmax hlink hfirst hlast hlow hhigh hlow'
    exact ⟨hlink, hlow, hhigh, hlow', hhigh', hin.mp h.within⟩
  · rintro ⟨hlink, hlow, hhigh, hlow', hhigh', hfits⟩
    obtain ⟨hin, hret, hstring⟩ := both_link junk hmin hmax hlink hfirst hlast hlow hhigh hlow'
    obtain ⟨hshort, hstring⟩ := hstring hfits
    constructor
    · exact hin.mpr hfits
    · exact (counter_both_iff hmax _ first last).mpr ⟨hlink, hlow, hhigh, hlow', hhigh'⟩
    · rw [hret, hstring, List.length_append, length_lastText]
      exact ⟨hshort, rfl⟩
    · intro hwhole
      obtain ⟨hend₁, hcode₁⟩ := short_name (show (first.flatMap htmlMap).length < firstRoom sps id by omega)
        (show firstEnd sps id first ≤ 2 by omega)
      change firstEnd sps id first = _ at hend₁
      obtain ⟨hend₂, hcode₂⟩ := short_name (show (last.flatMap htmlMap).length < lastRoom sps id first by omega)
        (show lastEnd sps id first last ≤ 2 by omega)
      change lastEnd sps id first last = _ at hend₂
      have hspace : (ascii " ").length = 1 := rfl
      have hlen : firstAt sps id first = (linkText id ++ first.flatMap htmlMap).length := by
        rw [List.length_append]
        omega
      have htext : firstText sps id first = linkText id ++ first.flatMap htmlMap := by
        rw [firstText, hcode₁, hlen, List.take_length]
      have hlen' : lastAt sps id first last =
          (linkText id ++ first.flatMap htmlMap ++ ascii " " ++ last.flatMap htmlMap).length := by
        simp only [List.length_append, hspace]
        omega
      rw [hstring, lastText, htext, hcode₂, hlen', List.take_length]
      simp only [fullLink, Option.elim_some, List.append_assoc]

/-- `gen_name_link` honours the size it is given exactly for short names. -/
theorem name_link_honoured_iff (last : CharPtr) (hfirst : 0 ∉ first) (hlast : ∀ name, last = some name → 0 ∉ name) :
    LinkHonoured junk sps id first last ↔ ShortNames sps id first last := by
  cases last with
  | none => exact honoured_first_iff junk hmin hmax hfirst
  | some name => exact honoured_both_iff junk hmin hmax hfirst (hlast name rfl)

end Names

theorem name_link_honoured_letter : LinkHonoured (fun _ => 255) 1006 7 (ascii "A") none :=
  (name_link_honoured_iff (fun _ => 255) (by decide) (by decide) none (by decide) (by simp)).mpr
    ⟨by decide, by decide, by decide, by decide⟩

/-- Three letters make the space larger than the buffer, and an empty first name lets the last
one write a byte behind it. -/
theorem name_link_exceeds_space :
    ¬LinkHonoured (fun _ => 255) 1006 7 (ascii "Ann") none ∧
      ¬(genNameLink (Buf.fresh fun _ => 255) 32 7 [] (some (ascii "abc"))).1.Within 32 := by
  constructor
  · intro h
    have hspace := ((counter_first_iff (by decide) _ _).mp h.counter).2.2
    exact absurd hspace (by decide)
  · unfold Buf.Within
    decide

end GNUWeebBot.Proofs
