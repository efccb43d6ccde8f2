import ChainIndexer.Proofs.Except
import ChainIndexer.Text.Base64

/-!
# Base64 read and written

`decode_eq_ok_iff`: a text reads as some bytes just when it is what writing these bytes gives. Four
symbols are written for three bytes (`encode_group`), and any three bytes are made up of four values
(`exists_four`); the last group may be padded (`Group`, `group_eq_ok_iff`).
-/

namespace ChainIndexer.Base64

variable {offset index : Nat} {bs text : List UInt8}

/-! ## Symbols -/

theorem value?_symbol : ∀ n < 64, value? (symbol n) = some n := by decide

theorem symbol_ne_pad : ∀ n < 64, symbol n ≠ pad := by decide

theorem symbol_ascii (n : Nat) : (symbol n).toNat < 128 := by
  rw [symbol]
  split_ifs
  all_goals first | decide | (rw [UInt8.toNat_ofNat']; omega)

theorem value?_eq_some_iff {b : UInt8} {n : Nat} : value? b = some n ↔ n < 64 ∧ b = symbol n := by
  constructor
  · have hbytes : ∀ k < 256, ∀ n ∈ value? (UInt8.ofNat k), n < 64 ∧ UInt8.ofNat k = symbol n := by
      decide +kernel
    intro h
    have hb := hbytes b.toNat b.toNat_lt_size n
    rw [UInt8.ofNat_toNat] at hb
    exact hb h
  · rintro ⟨hn, rfl⟩
    exact value?_symbol n hn

theorem valueAt_eq_ok_iff {b : UInt8} {n : Nat} :
    valueAt offset b = .ok n ↔ n < 64 ∧ b = symbol n := by
  rw [← value?_eq_some_iff, valueAt]
  cases value? b <;> simp

/-! ## Groups -/

theorem encode_group {n a b c d : Nat} (ha : a < 64) (hb : b < 64) (hc : c < 64) (hd : d < 64)
    (hn : n = a * 262144 + b * 4096 + c * 64 + d) (rest : List UInt8) :
    encode (UInt8.ofNat (n / 65536) :: UInt8.ofNat (n / 256 % 256) :: UInt8.ofNat (n % 256) :: rest)
      = symbol a :: symbol b :: symbol c :: symbol d :: encode rest := by
  have hbytes : n / 65536 % 256 * 65536 + n / 256 % 256 % 256 * 256 + n % 256 % 256 = n := by omega
  rw [encode]
  simp only [UInt8.toNat_ofNat', Nat.reducePow, hbytes]
  rw [show n / 262144 = a by omega, show n / 4096 % 64 = b by omega,
    show n / 64 % 64 = c by omega, show n % 64 = d by omega]

theorem encode_pair {n a b c : Nat} (ha : a < 64) (hb : b < 64) (hc : c < 64) (hfree : c % 4 = 0)
    (hn : n = a * 1024 + b * 16 + c / 4) :
    encode [UInt8.ofNat (n / 256), UInt8.ofNat (n % 256)]
      = [symbol a, symbol b, symbol c, pad] := by
  have hbytes : n / 256 % 256 * 1024 + n % 256 % 256 * 4 = n * 4 := by omega
  rw [encode]
  simp only [UInt8.toNat_ofNat', Nat.reducePow, hbytes]
  rw [show n * 4 / 4096 = a by omega, show n * 4 / 64 % 64 = b by omega,
    show n * 4 % 64 = c by omega]

theorem encode_single {a b : Nat} (ha : a < 64) (hb : b < 64) (hfree : b % 16 = 0) :
    encode [UInt8.ofNat (a * 4 + b / 16)] = [symbol a, symbol b, pad, pad] := by
  have hbyte : (a * 4 + b / 16) % 256 * 16 = a * 64 + b := by omega
  rw [encode]
  simp only [UInt8.toNat_ofNat', Nat.reducePow, hbyte]
  rw [show (a * 64 + b) / 64 = a by omega, show (a * 64 + b) % 64 = b by omega]

theorem exists_two (x : UInt8) : ∃ a b, a < 64 ∧ b < 64 ∧ b % 16 = 0 ∧
    x = UInt8.ofNat (a * 4 + b / 16) := by
  have hx := x.toNat_lt
  refine ⟨x.toNat / 4, x.toNat % 4 * 16, ?_⟩
  rw [← UInt8.toNat_inj, UInt8.toNat_ofNat']
  omega

theorem exists_three (x y : UInt8) : ∃ n a b c, a < 64 ∧ b < 64 ∧ c < 64 ∧ c % 4 = 0 ∧
    n = a * 1024 + b * 16 + c / 4 ∧ x = UInt8.ofNat (n / 256) ∧ y = UInt8.ofNat (n % 256) := by
  have hx := x.toNat_lt
  have hy := y.toNat_lt
  refine ⟨x.toNat * 256 + y.toNat, x.toNat / 4, x.toNat % 4 * 16 + y.toNat / 16,
    y.toNat % 16 * 4, ?_⟩
  simp only [← UInt8.toNat_inj, UInt8.toNat_ofNat']
  omega

theorem exists_four (x y z : UInt8) : ∃ n a b c d, a < 64 ∧ b < 64 ∧ c < 64 ∧ d < 64 ∧
    n = a * 262144 + b * 4096 + c * 64 + d ∧
    x = UInt8.ofNat (n / 65536) ∧ y = UInt8.ofNat (n / 256 % 256) ∧ z = UInt8.ofNat (n % 256) := by
  have hx := x.toNat_lt
  have hy := y.toNat_lt
  have hz := z.toNat_lt
  refine ⟨x.toNat * 65536 + y.toNat * 256 + z.toNat, x.toNat / 4, x.toNat % 4 * 16 + y.toNat / 16,
    y.toNat % 16 * 4 + z.toNat / 64, z.toNat % 64, ?_⟩
  simp only [← UInt8.toNat_inj, UInt8.toNat_ofNat']
  omega

theorem length_encode_mod_four (bytes : List UInt8) : (encode bytes).length % 4 = 0 := by
  fun_induction encode bytes with
  | case1 a b c rest n ih =>
    simp only [List.length_cons]
    omega
  | case2 | case3 | case4 => simp

theorem encode_eq_nil_iff : encode bs = [] ↔ bs = [] := by
  fun_cases encode bs <;> simp

theorem encode_ascii (bytes : List UInt8) : ∀ b ∈ encode bytes, b.toNat < 128 := by
  have hpad : pad.toNat < 128 := by decide
  fun_induction encode bytes with
  | case1 a b c rest n ih => simpa only [List.forall_mem_cons, symbol_ascii, true_and] using ih
  | case2 | case3 => simp [symbol_ascii, hpad]
  | case4 => simp

/-! ## The last group -/

namespace Tail

theorem step_eq_ok_iff {t t' : Tail} {b : UInt8} :
    t.step offset index b = .ok t' ↔
      b = pad ∧ 2 ≤ index ∧
          t' = { t with pads := t.pads + 1
                        firstPad := if t.pads = 0 then index else t.firstPad } ∨
        t.pads = 0 ∧ ∃ n < 64, b = symbol n ∧ t' = { t with values := n :: t.values, last := b } := by
  unfold step
  by_cases hpad : b = pad
  · rw [if_pos (beq_iff_eq.2 hpad)]
    have hnone : ¬∃ n < 64, b = symbol n ∧ t' = { t with values := n :: t.values, last := b } := by
      rintro ⟨n, hn, hb, -⟩
      exact symbol_ne_pad n hn (hb.symm.trans hpad)
    by_cases hearly : index < 2
    · rw [if_pos hearly]
      simp only [hnone, reduceCtorEq, and_false, or_false, false_iff]
      omega
    · rw [if_neg hearly]
      rw [or_iff_left fun h => hnone h.2, and_iff_right hpad,
        and_iff_right (Nat.le_of_not_lt hearly)]
      exact ⟨fun he => (Except.ok.inj he).symm, fun he => congrArg _ he.symm⟩
  · rw [if_neg (mt beq_iff_eq.1 hpad)]
    by_cases hpads : 0 < t.pads
    · rw [if_pos hpads]
      simp [hpad, Nat.ne_of_gt hpads]
    · rw [if_neg hpads]
      simp only [bind_eq_ok_iff, valueAt_eq_ok_iff, hpad, false_and, false_or,
        Nat.eq_zero_of_not_pos hpads, true_and, and_assoc]
      constructor
      · rintro ⟨n, hn, hb, he⟩
        exact ⟨n, hn, hb, (Except.ok.inj he).symm⟩
      · rintro ⟨n, hn, hb, rfl⟩
        exact ⟨n, hn, hb, rfl⟩

theorem count_of_run {t t' : Tail} (h : t.run offset index text = .ok t') :
    t'.values.length + t'.pads = t.values.length + t.pads + text.length := by
  induction text generalizing t index with
  | nil =>
    obtain rfl := Except.ok.inj h
    rfl
  | cons b text ih =>
    obtain ⟨t₁, hstep, hrun⟩ := bind_eq_ok_iff.1 h
    have hcount := ih hrun
    rcases step_eq_ok_iff.1 hstep with ⟨-, -, rfl⟩ | ⟨-, n, -, -, rfl⟩
    all_goals
      simp only [List.length_cons] at hcount ⊢
      omega

theorem bytes_pair {t : Tail} {a b : Nat} (h : t.values = [b, a]) :
    t.bytes offset = .ok bs ↔
      t.pads = 2 ∧ b % 16 = 0 ∧ bs = [UInt8.ofNat (a * 4 + b / 16)] := by
  rw [bytes, h]
  dsimp only
  split_ifs with hpads hfree
  · simp [hpads]
  · simp [hfree]
  · simp [not_not.1 hpads, not_not.1 hfree, @eq_comm _ bs]

theorem bytes_triple {t : Tail} {a b c : Nat} (h : t.values = [c, b, a]) :
    t.bytes offset = .ok bs ↔ t.pads = 1 ∧ c % 4 = 0 ∧
      bs = [UInt8.ofNat ((a * 1024 + b * 16 + c / 4) / 256),
        UInt8.ofNat ((a * 1024 + b * 16 + c / 4) % 256)] := by
  rw [bytes, h]
  dsimp only
  split_ifs with hpads hfree
  · simp [hpads]
  · simp [hfree]
  · rw [Except.ok.injEq, @eq_comm _ bs]
    simp only [not_not.1 hpads, not_not.1 hfree, true_and]

theorem count_of_bytes {t : Tail} (h : t.bytes offset = .ok bs) :
    t.values.length + t.pads = 0 ∨ 4 ≤ t.values.length + t.pads := by
  cases hvalues : t.values with
  | nil =>
    rw [bytes, hvalues] at h
    dsimp only at h
    split at h
    · next hempty => exact .inl (by rw [hempty.1]; rfl)
    · cases h
  | cons d values =>
    refine .inr ?_
    match values with
    | [] =>
      rw [bytes, hvalues] at h
      cases h
    | [c] =>
      rw [((bytes_pair hvalues).1 h).1]
      exact Nat.le_refl 4
    | [c, b] =>
      rw [((bytes_triple hvalues).1 h).1]
      exact Nat.le_refl 4
    | c :: b :: a :: more =>
      simp only [List.length_cons]
      omega

end Tail

/-- What a last group of four is written for. -/
inductive Group : List UInt8 → List UInt8 → Prop
  | single {a b : Nat} : a < 64 → b < 64 → b % 16 = 0 →
      Group [symbol a, symbol b, pad, pad] [UInt8.ofNat (a * 4 + b / 16)]
  | pair {n a b c : Nat} : a < 64 → b < 64 → c < 64 → c % 4 = 0 → n = a * 1024 + b * 16 + c / 4 →
      Group [symbol a, symbol b, symbol c, pad] [UInt8.ofNat (n / 256), UInt8.ofNat (n % 256)]
  | full {n a b c d : Nat} : a < 64 → b < 64 → c < 64 → d < 64 →
      n = a * 262144 + b * 4096 + c * 64 + d →
      Group [symbol a, symbol b, symbol c, symbol d]
        [UInt8.ofNat (n / 65536), UInt8.ofNat (n / 256 % 256), UInt8.ofNat (n % 256)]

theorem Group.encode_eq (h : Group text bs) : encode bs = text := by
  cases h with
  | single ha hb hfree => exact encode_single ha hb hfree
  | pair ha hb hc hfree hn => exact encode_pair ha hb hc hfree hn
  | full ha hb hc hd hn => exact encode_group ha hb hc hd hn []

theorem group_encode (h : (encode bs).length = 4) : Group (encode bs) bs := by
  obtain ⟨text, hgroup⟩ : ∃ text, Group text bs := by
    match bs with
    | [] => simp [encode] at h
    | [x] =>
      obtain ⟨a, b, ha, hb, hfree, rfl⟩ := exists_two x
      exact ⟨_, .single ha hb hfree⟩
    | [x, y] =>
      obtain ⟨n, a, b, c, ha, hb, hc, hfree, hn, rfl, rfl⟩ := exists_three x y
      exact ⟨_, .pair ha hb hc hfree hn⟩
    | [x, y, z] =>
      obtain ⟨n, a, b, c, d, ha, hb, hc, hd, hn, rfl, rfl, rfl⟩ := exists_four x y z
      exact ⟨_, .full ha hb hc hd hn⟩
    | x :: y :: z :: w :: rest =>
      have hrest : encode (w :: rest) ≠ [] := mt encode_eq_nil_iff.1 (List.cons_ne_nil _ _)
      rw [encode] at h
      simp only [List.length_cons, Nat.reduceEqDiff, List.length_eq_zero_iff] at h
      exact absurd h hrest
  rwa [hgroup.encode_eq]

theorem group_eq_ok_iff {a b c d : UInt8} :
    (({} : Tail).run offset 0 [a, b, c, d] >>= Tail.bytes offset) = .ok bs ↔
      Group [a, b, c, d] bs := by
  simp only [Tail.run, bind_eq_ok_iff, Tail.step_eq_ok_iff]
  constructor
  · rintro ⟨t₄, ⟨t₁, ha, t₂, hb, t₃, hc, _, hd, ht⟩, hbytes⟩
    obtain rfl := Except.ok.inj ht
    -- the first two bytes are no padding
    obtain ⟨-, hearly, -⟩ | ⟨-, x, hx, rfl, rfl⟩ := ha
    · omega
    obtain ⟨-, hearly, -⟩ | ⟨-, y, hy, rfl, rfl⟩ := hb
    · omega
    obtain ⟨rfl, -, rfl⟩ | ⟨-, z, hz, rfl, rfl⟩ := hc
    · obtain ⟨rfl, -, rfl⟩ | ⟨hpads, -⟩ := hd
      · obtain ⟨-, hfree, rfl⟩ := (Tail.bytes_pair rfl).1 hbytes
        exact .single hx hy hfree
      · cases hpads
    · obtain ⟨rfl, -, rfl⟩ | ⟨-, w, hw, rfl, rfl⟩ := hd
      · obtain ⟨-, hfree, rfl⟩ := (Tail.bytes_triple rfl).1 hbytes
        exact .pair hx hy hz hfree rfl
      · obtain rfl := Except.ok.inj hbytes
        exact .full hx hy hz hw rfl
  · intro h
    cases h with
    | single ha hb hfree =>
      refine ⟨_, ⟨_, .inr ⟨trivial, _, ha, rfl, rfl⟩, _, .inr ⟨rfl, _, hb, rfl, rfl⟩, _,
        .inl ⟨rfl, by decide, rfl⟩, _, .inl ⟨rfl, by decide, rfl⟩, rfl⟩, ?_⟩
      exact (Tail.bytes_pair rfl).2 ⟨rfl, hfree, rfl⟩
    | pair ha hb hc hfree hn =>
      subst hn
      refine ⟨_, ⟨_, .inr ⟨trivial, _, ha, rfl, rfl⟩, _, .inr ⟨rfl, _, hb, rfl, rfl⟩, _,
        .inr ⟨rfl, _, hc, rfl, rfl⟩, _, .inl ⟨rfl, by decide, rfl⟩, rfl⟩, ?_⟩
      exact (Tail.bytes_triple rfl).2 ⟨rfl, hfree, rfl⟩
    | full ha hb hc hd hn =>
      subst hn
      exact ⟨_, ⟨_, .inr ⟨trivial, _, ha, rfl, rfl⟩, _, .inr ⟨rfl, _, hb, rfl, rfl⟩, _,
        .inr ⟨rfl, _, hc, rfl, rfl⟩, _, .inr ⟨rfl, _, hd, rfl, rfl⟩, rfl⟩, rfl⟩

/-- The last bytes are read as the bytes that they are written for; only at the start may there be
none. -/
theorem tail_eq_ok_iff (hlength : text.length ≤ 4) (hfull : text = [] → offset = 0) :
    (({} : Tail).run offset 0 text >>= Tail.bytes offset) = .ok bs ↔ text = encode bs := by
  have hcount (h : (({} : Tail).run offset 0 text >>= Tail.bytes offset) = .ok bs) :
      text.length = 0 ∨ 4 ≤ text.length := by
    obtain ⟨t, hrun, hbytes⟩ := bind_eq_ok_iff.1 h
    have hrun := Tail.count_of_run hrun
    have hbytes := Tail.count_of_bytes hbytes
    dsimp only [List.length_nil] at hrun
    omega
  match text with
  | [] =>
    rw [eq_comm (a := []), encode_eq_nil_iff, hfull rfl]
    exact ⟨fun h => (Except.ok.inj h).symm, fun h => congrArg _ h.symm⟩
  | [a, b, c, d] =>
    rw [group_eq_ok_iff]
    constructor
    · intro h
      exact h.encode_eq.symm
    · intro h
      rw [h]
      exact group_encode (by rw [← h]; rfl)
  | [_] | [_, _] | [_, _, _] =>
    have hwritten := length_encode_mod_four bs
    constructor
    · intro h
      simpa using hcount h
    · intro h
      rw [← h] at hwritten
      simp at hwritten
  | _ :: _ :: _ :: _ :: _ :: _ =>
    simp only [List.length_cons] at hlength
    omega

/-! ## Whole texts -/

theorem decodeFrom_eq_ok_iff (hfull : text = [] → offset = 0) :
    decodeFrom offset text = .ok bs ↔ text = encode bs := by
  fun_induction decodeFrom offset text generalizing bs with
  | case1 offset a b c d e rest ih =>
    simp only [bind_eq_ok_iff, valueAt_eq_ok_iff, ih (by simp)]
    constructor
    · rintro ⟨x, ⟨hx, rfl⟩, y, ⟨hy, rfl⟩, z, ⟨hz, rfl⟩, w, ⟨hw, rfl⟩, bs, hrest, he⟩
      rw [← Except.ok.inj he, encode_group hx hy hz hw rfl, hrest]
    · intro h
      -- more than four bytes are written for three bytes and then some more
      match bs with
      | [] | [_] | [_, _] => simp [encode] at h
      | p :: q :: r :: bs =>
        obtain ⟨n, x, y, z, w, hx, hy, hz, hw, rfl, rfl, rfl, rfl⟩ := exists_four p q r
        rw [encode_group hx hy hz hw rfl] at h
        simp only [List.cons.injEq] at h
        obtain ⟨rfl, rfl, rfl, rfl, hrest⟩ := h
        exact ⟨x, ⟨hx, rfl⟩, y, ⟨hy, rfl⟩, z, ⟨hz, rfl⟩, w, ⟨hw, rfl⟩, bs, hrest, rfl⟩
  | case2 offset tail hshort =>
    refine tail_eq_ok_iff ?_ hfull
    match tail with
    | [] | [_] | [_, _] | [_, _, _] | [_, _, _, _] => simp
    | a :: b :: c :: d :: e :: rest => exact absurd rfl (hshort a b c d e rest)

/-- **Exactly what is written is read.** A text stands for some bytes just when it is what they are
written as. -/
theorem decode_eq_ok_iff : decode text = .ok bs ↔ text = encode bs := by
  rw [decode]
  cases hstray : strayLast? text with
  | none => exact decodeFrom_eq_ok_iff fun _ => rfl
  | some b =>
    have hwritten := length_encode_mod_four bs
    constructor
    · intro h
      cases h
    · rintro rfl
      rw [strayLast?, if_neg (by omega)] at hstray
      cases hstray

end ChainIndexer.Base64
