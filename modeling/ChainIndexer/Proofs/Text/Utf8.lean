import ChainIndexer.Proofs.Except
import ChainIndexer.Text.Utf8

/-!
# UTF-8 read and written

`decode_eq_ok_iff`: bytes read as a text just when they are the bytes of this text. A character of
more than one byte is a first byte (`lead`) and the bytes that continue it (`rest`). The reader
inside a character is described once for all lengths (`decodeFrom_inside_eq_ok_iff`), and the bounds
that it keeps are those of the characters (`second?_iff_lead`).
-/

namespace ChainIndexer.Utf8

variable {bytes : List UInt8} {chars done : List Char} {b low high : UInt8}
  {index start taken code more : Nat}

/-! ## The bytes of a character -/

theorem toList_loop (bytes : ByteArray) (i : Nat) (r : List UInt8) :
    ByteArray.toList.loop bytes i r = r.reverse ++ bytes.data.toList.drop i := by
  fun_induction ByteArray.toList.loop bytes i r with
  | case1 i r hi ih =>
    have hi' : i < bytes.data.toList.length := by simpa using hi
    rw [ih, List.drop_eq_getElem_cons hi']
    simp [ByteArray.get!, hi]
  | case2 i r hi =>
    rw [List.drop_eq_nil_of_le (by simpa using Nat.le_of_not_lt hi)]
    simp

theorem encode_eq (s : String) : encode s = s.toList.flatMap String.utf8EncodeChar := by
  have hbytes : s.toByteArray = s.toList.utf8Encode := by
    rw [← String.toByteArray_ofList, String.ofList_toList]
  rw [encode, String.toUTF8_eq_toByteArray, ByteArray.toList, toList_loop, hbytes, List.utf8Encode,
    List.toList_data_toByteArray]
  rfl

/-- The byte that continues a character with the last six bits of a number. -/
def continuation (n : Nat) : UInt8 := UInt8.ofNat (n % 64 + 0x80)

/-- A number without some last groups of six bits. -/
def upper (n : Nat) : Nat → Nat
  | 0 => n
  | k + 1 => upper n k / 64

/-- The last bytes of a character: one more than `more`. -/
def rest (n : Nat) : Nat → List UInt8
  | 0 => [continuation n]
  | more + 1 => continuation (upper n (more + 1)) :: rest n more

/-- The first byte of a character that has one byte more than `more` after it. -/
def lead (n : Nat) : Nat → UInt8
  | 0 => UInt8.ofNat (n / 64 % 32 + 0xC0)
  | 1 => UInt8.ofNat (n / 4096 % 16 + 0xE0)
  | _ => UInt8.ofNat (n / 262144 % 8 + 0xF0)

/-- The numbers whose characters have one byte more than `more` after the first. -/
def Wide (n : Nat) : Nat → Prop
  | 0 => 0x80 ≤ n ∧ n < 0x800
  | 1 => 0x800 ≤ n ∧ n < 0x10000
  | 2 => 0x10000 ≤ n
  | _ => False

theorem narrow_or_wide (n : Nat) : n < 0x80 ∨ ∃ more, Wide n more := by
  by_cases h₁ : n < 0x80
  · exact .inl h₁
  by_cases h₂ : n < 0x800
  · exact .inr ⟨0, by omega, h₂⟩
  by_cases h₃ : n < 0x10000
  · exact .inr ⟨1, by omega, h₃⟩
  · exact .inr ⟨2, Nat.le_of_not_lt h₃⟩

theorem utf8EncodeChar_of_narrow {c : Char} (h : c.toNat < 0x80) :
    String.utf8EncodeChar c = [UInt8.ofNat c.toNat] :=
  if_pos (show c.toNat ≤ 0x7F by omega)

theorem utf8EncodeChar_of_wide {c : Char} (h : Wide c.toNat more) :
    String.utf8EncodeChar c = lead c.toNat more :: rest c.toNat more := by
  have hc : c.val.toNat = c.toNat := rfl
  rw [String.utf8EncodeChar, hc]
  match more with
  | 0 =>
    obtain ⟨hleast, hbound⟩ := h
    rw [if_neg (by omega), if_pos (by omega)]
    rfl
  | 1 =>
    obtain ⟨hleast, hbound⟩ := h
    rw [if_neg (by omega), if_neg (by omega), if_pos (by omega)]
    rfl
  | 2 =>
    have hleast : 0x10000 ≤ c.toNat := h
    have hupper : c.toNat / 4096 = upper c.toNat 2 := (Nat.div_div_eq_div_mul c.toNat 64 64).symm
    rw [if_neg (by omega), if_neg (by omega), if_neg (by omega), hupper]
    rfl

theorem le_of_wide {n more : Nat} (h : Wide n more) : 0x80 ≤ n := by
  match more with
  | 0 => exact h.1
  | 1 => exact Nat.le_trans (by decide) h.1
  | 2 => exact Nat.le_trans (by decide) h

theorem toNat_ofNat_of_valid {n : Nat} (h : n.isValidChar) : (Char.ofNat n).toNat = n := by
  rw [Char.ofNat, dif_pos h]
  rfl

/-! ## Inside a character -/

theorem toNat_continuation (n : Nat) : (continuation n).toNat = n % 64 + 0x80 := by
  rw [continuation, UInt8.toNat_ofNat']
  omega

theorem continuation_bounds (n : Nat) : 0x80 ≤ continuation n ∧ continuation n ≤ 0xBF := by
  simp only [UInt8.le_iff_toNat_le, toNat_continuation, UInt8.reduceToNat]
  omega

theorem add_payload_iff {n : Nat} (hlow : 0x80 ≤ b) (hhigh : b ≤ 0xBF) :
    code * 64 + payload b = n ↔ n / 64 = code ∧ b = continuation n := by
  rw [UInt8.le_iff_toNat_le] at hlow hhigh
  have hlow' : 128 ≤ b.toNat := hlow
  have hhigh' : b.toNat ≤ 191 := hhigh
  rw [payload, continuation, ← UInt8.toNat_inj, UInt8.toNat_ofNat']
  omega

/-- Reads on once the number so far is known, `more` bytes being left of the character. -/
def proceed (done : List Char) (start taken n index : Nat) (bytes : List UInt8) :
    Nat → Except Fault (List Char)
  | 0 => decodeFrom (Char.ofNat n :: done) .between index bytes
  | more + 1 => decodeFrom done (.inside start taken n 0x80 0xBF more) index bytes

theorem decodeFrom_inside_cons (bs : List UInt8) :
    decodeFrom done (.inside start taken code low high more) index (b :: bs) =
      if low ≤ b && b ≤ high then
        proceed done start (taken + 1) (code * 64 + payload b) (index + 1) bs more
      else .error (.invalid taken start) := by
  rw [decodeFrom]
  cases more <;> rfl

/-- The next byte of a character is within the bounds and adds to the number so far. -/
theorem decodeFrom_inside_cons_eq_ok_iff (hlow : 0x80 ≤ low) (hhigh : high ≤ 0xBF)
    {bs : List UInt8} :
    decodeFrom done (.inside start taken code low high more) index (b :: bs) = .ok chars ↔
      ∃ n, (n / 64 = code ∧ low ≤ continuation n ∧ continuation n ≤ high) ∧ b = continuation n ∧
        proceed done start (taken + 1) n (index + 1) bs more = .ok chars := by
  rw [decodeFrom_inside_cons]
  split
  · next hb =>
    obtain ⟨hb₁, hb₂⟩ : low ≤ b ∧ b ≤ high := by simpa using hb
    have hadd (n : Nat) : code * 64 + payload b = n ↔ n / 64 = code ∧ b = continuation n :=
      add_payload_iff (UInt8.le_trans hlow hb₁) (UInt8.le_trans hb₂ hhigh)
    constructor
    · intro h
      obtain ⟨hcode, hcont⟩ := (hadd _).1 rfl
      exact ⟨_, ⟨hcode, hcont ▸ hb₁, hcont ▸ hb₂⟩, hcont, h⟩
    · rintro ⟨n, ⟨hcode, -, -⟩, hcont, h⟩
      rwa [(hadd n).2 ⟨hcode, hcont⟩]
  · next hb =>
    simp only [reduceCtorEq, false_iff, not_exists, not_and]
    rintro n ⟨-, hn₁, hn₂⟩ rfl
    exact absurd (by simpa using ⟨hn₁, hn₂⟩) hb

/-- Inside a character, what is read is the rest of one whose number starts with the bits so far,
its next byte being within the bounds. -/
theorem decodeFrom_inside_eq_ok_iff (hlow : 0x80 ≤ low) (hhigh : high ≤ 0xBF) :
    decodeFrom done (.inside start taken code low high more) index bytes = .ok chars ↔
      ∃ n after, (upper n (more + 1) = code ∧ low ≤ continuation (upper n more) ∧
          continuation (upper n more) ≤ high) ∧ bytes = rest n more ++ after ∧
        decodeFrom (Char.ofNat n :: done) .between (index + more + 1) after = .ok chars := by
  -- the bounds are those of the first byte only: after it any continuation is read
  induction more generalizing bytes taken code low high index with
  | zero =>
    cases bytes with
    | nil => simp [decodeFrom, rest]
    | cons b bs =>
      rw [decodeFrom_inside_cons_eq_ok_iff hlow hhigh]
      simp [proceed, rest, upper, and_assoc]
  | succ more ih =>
    cases bytes with
    | nil => simp [decodeFrom, rest]
    | cons b bs =>
      rw [decodeFrom_inside_cons_eq_ok_iff hlow hhigh]
      have hindex : index + 1 + more + 1 = index + (more + 1) + 1 := by omega
      simp only [proceed, ih (UInt8.le_refl 0x80) (UInt8.le_refl 0xBF), hindex, rest,
        List.cons_append, List.cons.injEq]
      constructor
      · rintro ⟨_, hfirst, hb, n, after, ⟨rfl, -⟩, hbs, h⟩
        exact ⟨n, after, hfirst, ⟨hb, hbs⟩, h⟩
      · rintro ⟨n, after, hfirst, ⟨hb, hbs⟩, h⟩
        exact ⟨_, hfirst, hb, n, after, ⟨rfl, continuation_bounds _⟩, hbs, h⟩

/-! ## First bytes -/

def firstBits (b : UInt8) : Nat → Nat
  | 0 => b.toNat % 32
  | 1 => b.toNat % 16
  | _ => b.toNat % 8

theorem firstBits_eq (b : UInt8) (more : Nat) :
    (if more = 0 then b.toNat % 32 else if more = 1 then b.toNat % 16 else b.toNat % 8)
      = firstBits b more := by
  match more with
  | 0 | 1 | more + 2 => rfl

theorem bounds_of_second? (h : second? b = some (low, high, more)) :
    0x80 ≤ low ∧ high ≤ 0xBF := by
  unfold second? at h
  split_ifs at h
  all_goals
    cases h
    decide

theorem second?_iff {x : UInt8} :
    (∃ low high, second? b = some (low, high, more) ∧ low ≤ x ∧ x ≤ high) ↔
      0x80 ≤ x.toNat ∧ x.toNat ≤ 0xBF ∧
        (more = 0 ∧ 0xC2 ≤ b.toNat ∧ b.toNat ≤ 0xDF ∨
          more = 1 ∧ 0xE0 ≤ b.toNat ∧ b.toNat ≤ 0xEF ∧ (b.toNat = 0xE0 → 0xA0 ≤ x.toNat) ∧
            (b.toNat = 0xED → x.toNat ≤ 0x9F) ∨
          more = 2 ∧ 0xF0 ≤ b.toNat ∧ b.toNat ≤ 0xF4 ∧ (b.toNat = 0xF0 → 0x90 ≤ x.toNat) ∧
            (b.toNat = 0xF4 → x.toNat ≤ 0x8F)) := by
  have hread (l h : UInt8) (k : Nat) :
      (∃ low high, some (l, h, k) = some (low, high, more) ∧ low ≤ x ∧ x ≤ high) ↔
        k = more ∧ l ≤ x ∧ x ≤ h := by
    constructor
    · rintro ⟨_, _, he, hx⟩
      cases he
      exact ⟨rfl, hx⟩
    · rintro ⟨rfl, hx⟩
      exact ⟨_, _, rfl, hx⟩
  unfold second?
  simp only [Bool.and_eq_true, decide_eq_true_eq, beq_iff_eq, UInt8.le_iff_toNat_le,
    ← UInt8.toNat_inj, UInt8.reduceToNat] at hread ⊢
  split_ifs
  all_goals
    simp only [hread, UInt8.reduceToNat, false_and, exists_false, false_iff]
    omega

/-- A byte is the first one of a character just where its bits and the bounds that it gives for the
second byte fit. -/
theorem second?_iff_lead {n : Nat} :
    (∃ low high, second? b = some (low, high, more) ∧ upper n (more + 1) = firstBits b more ∧
        low ≤ continuation (upper n more) ∧ continuation (upper n more) ≤ high) ↔
      n.isValidChar ∧ Wide n more ∧ b = lead n more := by
  have hb := b.toNat_lt
  simp only [and_left_comm (b := upper _ _ = _), exists_and_left, second?_iff, toNat_continuation,
    ← UInt8.toNat_inj]
  match more with
  | 0 | 1 | 2 =>
    simp only [firstBits, Wide, lead, upper, UInt8.toNat_ofNat', Nat.isValidChar, Nat.reducePow,
      Nat.reduceEqDiff, true_and, false_and, or_false, false_or]
    omega
  | more + 3 => simp [Wide]

/-! ## Whole texts -/

theorem length_rest (n more : Nat) : (rest n more).length = more + 1 := by
  induction more with
  | zero => rfl
  | succ more ih => rw [rest, List.length_cons, ih]

/-- After a first byte that is no character of its own, what is read is the rest of a character. -/
theorem decodeFrom_wide_eq_ok_iff {bs : List UInt8} (hb : ¬b < 0x80) :
    decodeFrom done .between index (b :: bs) = .ok chars ↔
      ∃ n more after, (n.isValidChar ∧ Wide n more ∧ b = lead n more) ∧ bs = rest n more ++ after ∧
        decodeFrom (Char.ofNat n :: done) .between (index + (more + 2)) after = .ok chars := by
  have hindex (more : Nat) : index + 1 + more + 1 = index + (more + 2) := by omega
  rw [decodeFrom, if_neg hb]
  constructor
  · intro h
    split at h
    · cases h
    · next low high more hsecond =>
      obtain ⟨hlow, hhigh⟩ := bounds_of_second? hsecond
      rw [firstBits_eq, decodeFrom_inside_eq_ok_iff hlow hhigh, hindex] at h
      obtain ⟨n, after, hfits, hbs, h⟩ := h
      exact ⟨n, more, after, second?_iff_lead.1 ⟨low, high, hsecond, hfits⟩, hbs, h⟩
  · rintro ⟨n, more, after, hlead, hbs, h⟩
    obtain ⟨low, high, hsecond, hfits⟩ := second?_iff_lead.2 hlead
    obtain ⟨hlow, hhigh⟩ := bounds_of_second? hsecond
    rw [hsecond]
    dsimp only
    rw [firstBits_eq, decodeFrom_inside_eq_ok_iff hlow hhigh, hindex]
    exact ⟨n, after, hfits, hbs, h⟩

theorem lead_not_narrow (n more : Nat) : ¬lead n more < 0x80 := by
  rw [UInt8.lt_iff_toNat_lt]
  match more with
  | 0 | 1 | more + 2 =>
    simp only [lead, UInt8.toNat_ofNat', UInt8.reduceToNat]
    omega

theorem le_of_mem_rest {n more : Nat} {b : UInt8} (h : b ∈ rest n more) : 0x80 ≤ b := by
  induction more with
  | zero =>
    rw [List.mem_singleton.1 h]
    exact (continuation_bounds n).1
  | succ more ih =>
    rcases List.mem_cons.1 h with rfl | h
    · exact (continuation_bounds _).1
    · exact ih h

theorem le_of_mem_wide {c : Char} (hc : Wide c.toNat more) {b : UInt8}
    (h : b ∈ String.utf8EncodeChar c) : 0x80 ≤ b := by
  rw [utf8EncodeChar_of_wide hc] at h
  rcases List.mem_cons.1 h with rfl | h
  · exact UInt8.not_lt.1 (lead_not_narrow _ _)
  · exact le_of_mem_rest h

theorem cons_narrow_iff {bs after : List UInt8} {c : Char} (hb : b < 0x80) :
    b :: bs = String.utf8EncodeChar c ++ after ↔ c = Char.ofNat b.toNat ∧ bs = after := by
  have hsmall : b.toNat < 0x80 := UInt8.lt_iff_toNat_lt.1 hb
  constructor
  · intro hbytes
    rcases narrow_or_wide c.toNat with hc | ⟨more, hc⟩
    · rw [utf8EncodeChar_of_narrow hc] at hbytes
      obtain ⟨rfl, rfl⟩ := List.cons.inj hbytes
      rw [UInt8.toNat_ofNat', Nat.mod_eq_of_lt (by omega), Char.ofNat_toNat]
      exact ⟨rfl, rfl⟩
    · rw [utf8EncodeChar_of_wide hc] at hbytes
      obtain ⟨rfl, -⟩ := List.cons.inj hbytes
      exact absurd hb (lead_not_narrow _ _)
  · rintro ⟨rfl, rfl⟩
    have hchar : (Char.ofNat b.toNat).toNat = b.toNat := toNat_ofNat_of_valid (.inl (by omega))
    rw [utf8EncodeChar_of_narrow (by omega), hchar, UInt8.ofNat_toNat, List.singleton_append]

theorem cons_wide_iff {bs after : List UInt8} {c : Char} (hb : ¬b < 0x80) :
    b :: bs = String.utf8EncodeChar c ++ after ↔
      ∃ more, Wide c.toNat more ∧ b = lead c.toNat more ∧ bs = rest c.toNat more ++ after := by
  constructor
  · intro hbytes
    rcases narrow_or_wide c.toNat with hc | ⟨more, hc⟩
    · rw [utf8EncodeChar_of_narrow hc] at hbytes
      obtain ⟨rfl, rfl⟩ := List.cons.inj hbytes
      have hnarrow : (UInt8.ofNat c.toNat).toNat < 0x80 := by
        rwa [UInt8.toNat_ofNat', Nat.mod_eq_of_lt (by omega)]
      exact absurd (UInt8.lt_iff_toNat_lt.2 hnarrow) hb
    · rw [utf8EncodeChar_of_wide hc] at hbytes
      obtain ⟨hlead, hrest⟩ := List.cons.inj hbytes
      exact ⟨more, hc, hlead, hrest⟩
  · rintro ⟨more, hc, rfl, rfl⟩
    rw [utf8EncodeChar_of_wide hc, List.cons_append]

theorem decodeFrom_cons_eq_ok_iff {bs : List UInt8} :
    decodeFrom done .between index (b :: bs) = .ok chars ↔
      ∃ c after, b :: bs = String.utf8EncodeChar c ++ after ∧
        decodeFrom (c :: done) .between (index + (String.utf8EncodeChar c).length) after
          = .ok chars := by
  by_cases hb : b < 0x80
  · have hlength : (String.utf8EncodeChar (Char.ofNat b.toNat)).length = 1 := by
      have hspelled := (cons_narrow_iff hb).2 ⟨rfl, (rfl : ([] : List UInt8) = [])⟩
      rw [List.append_nil] at hspelled
      rw [← hspelled, List.length_singleton]
    rw [decodeFrom, if_pos hb]
    simp only [cons_narrow_iff hb]
    constructor
    · intro h
      exact ⟨_, bs, ⟨rfl, rfl⟩, hlength.symm ▸ h⟩
    · rintro ⟨_, _, ⟨rfl, rfl⟩, h⟩
      rwa [hlength] at h
  · have hlength {c : Char} {more : Nat} (hc : Wide c.toNat more) :
        (String.utf8EncodeChar c).length = more + 2 := by
      rw [utf8EncodeChar_of_wide hc, List.length_cons, length_rest]
    rw [decodeFrom_wide_eq_ok_iff hb]
    simp only [cons_wide_iff hb]
    constructor
    · rintro ⟨n, more, after, ⟨hvalid, hwide, hlead⟩, hbs, h⟩
      have hn := toNat_ofNat_of_valid hvalid
      rw [← hn] at hwide hlead hbs
      exact ⟨_, after, ⟨more, hwide, hlead, hbs⟩, hlength hwide ▸ h⟩
    · rintro ⟨c, after, ⟨more, hwide, hlead, hbs⟩, h⟩
      rw [hlength hwide] at h
      refine ⟨c.toNat, more, after, ⟨c.valid, hwide, hlead⟩, hbs, ?_⟩
      rwa [Char.ofNat_toNat]

theorem utf8EncodeChar_ne_nil (c : Char) : String.utf8EncodeChar c ≠ [] := by
  rcases narrow_or_wide c.toNat with hc | ⟨more, hc⟩
  · rw [utf8EncodeChar_of_narrow hc]
    exact List.cons_ne_nil _ _
  · rw [utf8EncodeChar_of_wide hc]
    exact List.cons_ne_nil _ _

theorem decodeFrom_between_eq_ok_iff :
    decodeFrom done .between index bytes = .ok chars ↔
      ∃ more, bytes = more.flatMap String.utf8EncodeChar ∧ chars = done.reverse ++ more := by
  constructor
  · intro h
    induction hlength : bytes.length using Nat.strongRecOn
      generalizing bytes done index with
    | ind length ih =>
      cases bytes with
      | nil => exact ⟨[], rfl, by simpa using (Except.ok.inj h).symm⟩
      | cons b bs =>
        obtain ⟨c, after, hbytes, h⟩ := decodeFrom_cons_eq_ok_iff.1 h
        -- a character has a byte at least, so less is left
        have hshorter : after.length < length := by
          have hpos := List.length_pos_iff.2 (utf8EncodeChar_ne_nil c)
          rw [← hlength, hbytes, List.length_append]
          omega
        obtain ⟨more, rfl, rfl⟩ := ih _ hshorter h rfl
        exact ⟨c :: more, by rw [hbytes, List.flatMap_cons], by simp⟩
  · rintro ⟨more, rfl, rfl⟩
    induction more generalizing done index with
    | nil => simp [decodeFrom]
    | cons c more ih =>
      obtain ⟨b, bs, hspelled⟩ := List.exists_cons_of_ne_nil (utf8EncodeChar_ne_nil c)
      rw [List.flatMap_cons, hspelled, List.cons_append, decodeFrom_cons_eq_ok_iff]
      refine ⟨c, _, by rw [hspelled, List.cons_append], ?_⟩
      rw [ih, List.reverse_cons, List.append_assoc, List.singleton_append]

/-- **Exactly the bytes of a text are read.** -/
theorem decode_eq_ok_iff {s : String} : decode bytes = .ok s ↔ bytes = encode s := by
  rw [decode, map_eq_ok_iff, encode_eq]
  simp only [decodeFrom_between_eq_ok_iff, List.reverse_nil, List.nil_append]
  constructor
  · rintro ⟨_, ⟨chars, rfl, rfl⟩, rfl⟩
    rw [String.toList_ofList]
  · rintro rfl
    exact ⟨_, ⟨_, rfl, rfl⟩, String.ofList_toList⟩

theorem encode_injective {s t : String} (h : encode s = encode t) : s = t := by
  have hs := decode_eq_ok_iff.2 (rfl : encode s = encode s)
  rw [h, decode_eq_ok_iff.2 rfl] at hs
  exact (Except.ok.inj hs).symm

theorem encode_ofList_ascii {bytes : List UInt8} (h : ∀ b ∈ bytes, b.toNat < 128) :
    encode (.ofList (bytes.map fun b => Char.ofNat b.toNat)) = bytes := by
  rw [encode_eq, String.toList_ofList, List.flatMap_map]
  induction bytes with
  | nil => rfl
  | cons b bytes ih =>
    obtain ⟨hb, hbytes⟩ := List.forall_mem_cons.1 h
    have hchar : (Char.ofNat b.toNat).toNat = b.toNat := toNat_ofNat_of_valid (.inl (by omega))
    rw [List.flatMap_cons, ih hbytes, utf8EncodeChar_of_narrow (by omega), hchar,
      UInt8.ofNat_toNat, List.singleton_append]

end ChainIndexer.Utf8
