import ChainIndexer.Json.Outline
import ChainIndexer.Proofs.Json.Lexing
import ChainIndexer.Proofs.Text.Utf8

/-!
# Pieces of a document and its tokens

The characters of a document are read into tokens and its bytes cut into pieces by two machines that
go side by side. After each character the second stands where the first does (`Lexing.skimming`),
except that it does not look at surrogates; a token is complete when the piece is that spells it.

* `Begun.skims_of_step`: one character, with all its bytes.
* `skim_spells`: the whole document.
-/

namespace ChainIndexer.Json

/-! ## Pieces and tokens -/

/-- The piece is the token as it is written. -/
def Piece.Spells (p : Piece) (t : Token) : Prop :=
  p.token? = some t ∧ match t with
    | .null | .bool _ | .number _ => ∃ bytes, p = .scalar bytes
    | .string _ => ∃ bytes, p = .text bytes
    | t => p = .mark t

def bytesOf (cs : List Char) : List UInt8 := cs.flatMap String.utf8EncodeChar

theorem decode_bytesOf (cs : List Char) : Utf8.decode (bytesOf cs) = .ok (.ofList cs) := by
  rw [Utf8.decode_eq_ok_iff, Utf8.encode_eq, String.toList_ofList]
  rfl

theorem spells_text {cs s : List Char} (h : lex cs = some [.string s]) :
    (Piece.text (bytesOf cs)).Spells (.string s) := by
  refine ⟨?_, _, rfl⟩
  rw [Piece.token?, decode_bytesOf]
  simp [Except.toOption, h]

theorem spells_word {cs : List Char} {t : Token} (hw : word? cs = some t) (h : lex cs = some [t]) :
    (Piece.scalar (bytesOf cs)).Spells t := by
  constructor
  · rw [Piece.token?, decode_bytesOf]
    simp [Except.toOption, h]
  · unfold word? at hw
    split_ifs at hw <;> cases hw <;> exact ⟨_, rfl⟩

theorem spells_number {cs : List Char} {n : Number} (h : lex cs = some [.number n]) :
    (Piece.scalar (bytesOf cs)).Spells (.number n) := by
  refine ⟨?_, _, rfl⟩
  rw [Piece.token?, decode_bytesOf]
  simp [Except.toOption, h]

theorem spells_mark {c : Char} {t : Token} (h : punctuation? c = some t) :
    (Piece.mark t).Spells t := by
  refine ⟨rfl, ?_⟩
  unfold punctuation? at h
  split_ifs at h <;> cases h <;> rfl

/-! ## Characters of one byte and of several -/

theorem bytesOf_snoc_narrow (cs : List Char) {c : Char} (hc : c.toNat < 0x80) :
    (bytesOf (cs ++ [c])).reverse = UInt8.ofNat c.toNat :: (bytesOf cs).reverse := by
  rw [bytesOf, List.flatMap_append, List.flatMap_singleton, Utf8.utf8EncodeChar_of_narrow hc]
  simp [bytesOf]

theorem latin_narrow {c : Char} (hc : c.toNat < 0x80) : latin (UInt8.ofNat c.toNat) = c := by
  rw [latin, UInt8.toNat_ofNat', Nat.mod_eq_of_lt (by omega), Char.ofNat_toNat]

theorem latin_bytesOf {cs : List Char} (h : ∀ c ∈ cs, c.toNat < 0x80) :
    (bytesOf cs).map latin = cs := by
  induction cs with
  | nil => rfl
  | cons c cs ih =>
    obtain ⟨hc, hcs⟩ := List.forall_mem_cons.1 h
    rw [bytesOf, List.flatMap_cons, Utf8.utf8EncodeChar_of_narrow hc, List.singleton_append,
      List.map_cons, latin_narrow hc]
    exact congrArg _ (ih hcs)

theorem skimFrom_cons (now : Skimming) (b : UInt8) (bs : List UInt8) :
    skimFrom now (b :: bs) = (now.step b).bind fun p => (skimFrom p.2 bs).map (p.1 ++ ·) := by
  rw [skimFrom]
  cases now.step b with
  | none => rfl
  | some p => cases h : skimFrom p.2 bs <;> simp [h]

theorem Skimming.step_text_wide {b : UInt8} (hb : 0x80 ≤ b) (read : List UInt8) :
    (Skimming.text read).step b = some ([], .text (b :: read)) := by
  have hnat : 0x80 ≤ b.toNat := UInt8.le_iff_toNat_le.1 hb
  have hlatin : (latin b).toNat = b.toNat :=
    Utf8.toNat_ofNat_of_valid (.inl (Nat.lt_trans b.toNat_lt (by decide)))
  have hquote : latin b ≠ '"' := fun h => by
    rw [h] at hlatin
    exact absurd (hlatin ▸ hnat) (by decide)
  have hback : latin b ≠ '\\' := fun h => by
    rw [h] at hlatin
    exact absurd (hlatin ▸ hnat) (by decide)
  have hcontrol : ¬b < 0x20 := fun h => by
    have hlt : b.toNat < 0x20 := UInt8.lt_iff_toNat_lt.1 h
    omega
  rw [step, if_neg hquote, if_neg hback, if_neg hcontrol]

/-- In a text the bytes of a character that has several are passed over. -/
theorem skimFrom_text_wide {bytes : List UInt8} (h : ∀ b ∈ bytes, 0x80 ≤ b)
    (read rest : List UInt8) :
    skimFrom (.text read) (bytes ++ rest) = skimFrom (.text (bytes.reverse ++ read)) rest := by
  induction bytes generalizing read with
  | nil => rfl
  | cons b bytes ih =>
    obtain ⟨hb, hbytes⟩ := List.forall_mem_cons.1 h
    rw [List.cons_append, skimFrom_cons, Skimming.step_text_wide hb, Option.bind_some, ih hbytes]
    simp

/-- A character that has several bytes can only stand in a text. -/
theorem step_wide {c : Char} (hc : 0x80 ≤ c.toNat) {now next : Lexing} {ts : List Token}
    (h : now.step c = some (ts, next)) :
    ∃ read, now = .text read ∧ ts = [] ∧ next = .text (c :: read) := by
  have hne (d : Char) (hd : d.toNat < 0x80) : c ≠ d := by
    rintro rfl
    omega
  have hle (d : Char) (hd : d.toNat < 0x80) : ¬c ≤ d := fun h => by
    have hnat : c.toNat ≤ d.toNat := h
    omega
  have hword : isWordChar c = false := by simp [isWordChar, hle 'z' (by decide)]
  have hdigit : isDigit c = false := by simp [isDigit, hle '9' (by decide)]
  have hnumber : isNumberChar c = false := by
    simp [isNumberChar, hdigit, hne '-' (by decide), hne '+' (by decide), hne '.' (by decide),
      hne 'e' (by decide), hne 'E' (by decide)]
  have hstart : startToken c = none := by
    simp [startToken, isSpace, punctuation?, hword, hdigit, hne ' ' (by decide),
      hne '\n' (by decide), hne '\r' (by decide), hne '\t' (by decide),
      hne '"' (by decide), hne '-' (by decide), hne '[' (by decide),
      hne ']' (by decide), hne '\x7b' (by decide), hne '\x7d' (by decide),
      hne ',' (by decide), hne ':' (by decide)]
  have hescape : escape? c = none := by
    simp [escape?, hne '"' (by decide), hne '\\' (by decide),
      hne '/' (by decide), hne 'b' (by decide), hne 'f' (by decide),
      hne 'n' (by decide), hne 'r' (by decide), hne 't' (by decide)]
  have hhex : hexValue? c = none := by
    simp [hexValue?, hle '9' (by decide), hle 'f' (by decide),
      hle 'F' (by decide)]
  cases now with
  | text read =>
    simp only [Lexing.step, hne '"' (by decide), hne '\\' (by decide), if_false,
      show ¬c.toNat < 0x20 by omega, Option.some.injEq, Prod.mk.injEq] at h
    exact ⟨read, rfl, h.1.symm, h.2.symm⟩
  | _ => simp [Lexing.step, hstart, hword, hnumber, hescape, hhex, hne 'u' (by decide),
      hne '\\' (by decide)] at h

/-! ## A token that has begun -/

/-- How a piece is cut out while characters are read; `bytes` are those read of it, last first. -/
def Lexing.skimming (bytes : List UInt8) : Lexing → Skimming
  | .blank => .blank
  | .word _ => .word bytes
  | .number _ => .number bytes
  | .text _ | .partner _ _ => .text bytes
  | .escape _ _ => .escape bytes
  | .unicode _ _ left _ => .unicode bytes left

/-- The reader has come to this place by these characters of a token. -/
structure Begun (cs : List Char) (now : Lexing) : Prop where
  silent : ∀ rest, lexFrom .blank (cs ++ rest) = lexFrom now rest
  plain : ∀ read, now = .word read ∨ now = .number read →
    cs = read.reverse ∧ ∀ c ∈ cs, c.toNat < 0x80

theorem begun_blank : Begun [] .blank := ⟨fun _ => rfl, by simp⟩

theorem Begun.push {cs : List Char} {now next : Lexing} {c : Char} (h : Begun cs now)
    (hstep : now.step c = some ([], next))
    (hplain : ∀ read, next = .word read ∨ next = .number read →
      cs ++ [c] = read.reverse ∧ ∀ d ∈ cs ++ [c], d.toNat < 0x80) :
    Begun (cs ++ [c]) next where
  silent rest := by rw [List.append_assoc, h.silent, List.singleton_append, lexFrom_silent hstep]
  plain := hplain

theorem Begun.lex_eq {cs : List Char} {now : Lexing} (h : Begun cs now) : lex cs = now.finish := by
  have hend := h.silent []
  rwa [List.append_nil] at hend

/-- The word that was read is a token, and its bytes are the piece. -/
theorem Begun.word {cs read : List Char} {t : Token} (h : Begun cs (.word read))
    (ht : word? read.reverse = some t) :
    (Piece.scalar (bytesOf cs)).Spells t ∧ isWord (bytesOf cs) = true := by
  have hlex := h.lex_eq
  obtain ⟨rfl, hplain⟩ := h.plain read (.inl rfl)
  rw [Lexing.finish, ht] at hlex
  refine ⟨spells_word ht hlex, ?_⟩
  rw [isWord, latin_bytesOf hplain, ht]
  rfl

theorem Begun.number {cs read : List Char} {n : Number} (h : Begun cs (.number read))
    (hn : number? read.reverse = some n) :
    (Piece.scalar (bytesOf cs)).Spells (.number n) ∧ isNumeral (bytesOf cs) = true := by
  have hlex := h.lex_eq
  obtain ⟨rfl, hplain⟩ := h.plain read (.inr rfl)
  rw [Lexing.finish, hn] at hlex
  refine ⟨spells_number hlex, ?_⟩
  obtain ⟨numeral, hnumeral, -⟩ := Option.bind_eq_some_iff.1 hn
  rw [isNumeral, latin_bytesOf hplain, hnumeral]
  rfl

/-- A character more of a word or a number. -/
theorem Begun.plain_snoc {cs read : List Char} {now : Lexing} {c : Char} (h : Begun cs now)
    (hread : now = .word read ∨ now = .number read) (hc : c.toNat < 0x80) :
    cs ++ [c] = (c :: read).reverse ∧ ∀ d ∈ cs ++ [c], d.toNat < 0x80 := by
  obtain ⟨rfl, hplain⟩ := h.plain read hread
  refine ⟨List.reverse_cons.symm, fun d hd => ?_⟩
  rcases List.mem_append.1 hd with hd | hd
  · exact hplain d hd
  · rwa [List.mem_singleton.1 hd]

/-- A character starts a token, and its byte the piece that spells it. -/
theorem startPiece_of_startToken {c : Char} (hc : c.toNat < 0x80) {ts : List Token} {next : Lexing}
    (h : startToken c = some (ts, next)) :
    ∃ ps cs, startPiece (UInt8.ofNat c.toNat) = some (ps, next.skimming (bytesOf cs).reverse) ∧
      List.Forall₂ Piece.Spells ps ts ∧ Begun cs next := by
  have hbyte : (bytesOf [c]).reverse = [UInt8.ofNat c.toNat] := bytesOf_snoc_narrow [] hc
  have hone : ∀ d ∈ [c], d.toNat < 0x80 := by simpa using hc
  have hpush (hsilent : Lexing.blank.step c = some ([], next))
      (hplain : ∀ read, next = .word read ∨ next = .number read → read = [c]) : Begun [c] next :=
    begun_blank.push hsilent fun read hread => ⟨by rw [hplain read hread]; rfl, hone⟩
  have hstep : Lexing.blank.step c = startToken c := rfl
  simp only [startPiece, latin_narrow hc]
  unfold startToken at h hstep
  split_ifs at h hstep ⊢ with hspace hquote hword hnumber
  · cases h
    exact ⟨[], [], rfl, .nil, begun_blank⟩
  · cases h
    exact ⟨[], [c], by rw [hbyte]; rfl, .nil, hpush hstep (by simp)⟩
  · cases h
    exact ⟨[], [c], by rw [hbyte]; rfl, .nil, hpush hstep (by simp)⟩
  · cases h
    exact ⟨[], [c], by rw [hbyte]; rfl, .nil, hpush hstep (by simp)⟩
  · obtain ⟨t, ht, heq⟩ := Option.map_eq_some_iff.1 h
    cases heq
    exact ⟨[.mark t], [], by rw [ht]; rfl, .cons (spells_mark ht) .nil, begun_blank⟩

/-! ## One more character -/

/-- While a character is read into tokens its bytes are cut into the pieces that spell them. -/
def Skims (cs : List Char) (now : Lexing) (c : Char) (ts : List Token) (next : Lexing) : Prop :=
  ∃ ps cs', (∀ bs, skimFrom (now.skimming (bytesOf cs).reverse) (String.utf8EncodeChar c ++ bs)
      = (skimFrom (next.skimming (bytesOf cs').reverse) bs).map (ps ++ ·)) ∧
    List.Forall₂ Piece.Spells ps ts ∧ Begun cs' next

variable {cs : List Char} {now next : Lexing} {c : Char} {ts : List Token}

theorem skims_of_step (hc : c.toNat < 0x80) (ps : List Piece) (cs' : List Char)
    (hstep : (now.skimming (bytesOf cs).reverse).step (UInt8.ofNat c.toNat)
      = some (ps, next.skimming (bytesOf cs').reverse))
    (hps : List.Forall₂ Piece.Spells ps ts) (h : Begun cs' next) : Skims cs now c ts next := by
  refine ⟨ps, cs', fun bs => ?_, hps, h⟩
  rw [Utf8.utf8EncodeChar_of_narrow hc, List.singleton_append, skimFrom_cons, hstep]
  rfl

/-- Nothing is complete yet. -/
theorem Begun.skims (h : Begun cs now) (hc : c.toNat < 0x80) (hstep : now.step c = some ([], next))
    (hskim : ∀ read, (now.skimming read).step (UInt8.ofNat c.toNat)
      = some ([], next.skimming (UInt8.ofNat c.toNat :: read)))
    (hplain : ∀ read, next = .word read ∨ next = .number read →
      cs ++ [c] = read.reverse ∧ ∀ d ∈ cs ++ [c], d.toNat < 0x80) : Skims cs now c [] next :=
  skims_of_step hc _ _ (by rw [hskim, bytesOf_snoc_narrow cs hc]) .nil (h.push hstep hplain)

/-- A word or a number is complete, and the character begins what comes next. -/
theorem skims_after_scalar (hc : c.toNat < 0x80) {t : Token} {wellFormed : List UInt8 → Bool}
    (ht : (Piece.scalar (bytesOf cs)).Spells t) (hformed : wellFormed (bytesOf cs) = true)
    (hstep : (now.skimming (bytesOf cs).reverse).step (UInt8.ofNat c.toNat)
      = endScalar (bytesOf cs).reverse wellFormed (UInt8.ofNat c.toNat))
    (hstart : startToken c = some (ts, next)) : Skims cs now c (t :: ts) next := by
  obtain ⟨ps, cs', hpiece, hps, h⟩ := startPiece_of_startToken hc hstart
  refine skims_of_step hc _ cs' ?_ (.cons ht hps) h
  rw [hstep, endScalar, List.reverse_reverse, if_pos hformed, hpiece]
  rfl

theorem afterUnit_cases {read : List Char} {high : Option Nat} {unit : Nat}
    (h : afterUnit read high unit = some next) :
    (∀ bytes, next.skimming bytes = .text bytes) ∧
      ∀ read', ¬(next = .word read' ∨ next = .number read') := by
  unfold afterUnit at h
  cases high with
  | some first =>
    rw [Option.ite_none_right_eq_some] at h
    cases h.2
    exact ⟨fun _ => rfl, by simp⟩
  | none =>
    split_ifs at h <;> cases h <;> exact ⟨fun _ => rfl, by simp⟩

theorem Begun.skims_word {read : List Char} (h : Begun cs (.word read)) (hc : c.toNat < 0x80)
    (hstep : (Lexing.word read).step c = some (ts, next)) : Skims cs (.word read) c ts next := by
  have hlatin := latin_narrow hc
  have hstep' := hstep
  rw [Lexing.step] at hstep
  split_ifs at hstep with hword
  · cases hstep
    refine h.skims hc hstep' (fun bytes => ?_) ?_
    · simp only [Lexing.skimming, Skimming.step, hlatin, hword, if_true]
    · rintro _ (⟨⟨⟩⟩ | ⟨⟨⟩⟩)
      exact h.plain_snoc (.inl rfl) hc
  · obtain ⟨t, ht, hstep⟩ := Option.bind_eq_some_iff.1 hstep
    obtain ⟨⟨ts', next'⟩, hstart, heq⟩ := Option.bind_eq_some_iff.1 hstep
    cases heq
    refine skims_after_scalar hc (h.word ht).1 (h.word ht).2 ?_ hstart
    simp only [Lexing.skimming, Skimming.step, hlatin, hword]
    rfl

theorem Begun.skims_number {read : List Char} (h : Begun cs (.number read)) (hc : c.toNat < 0x80)
    (hstep : (Lexing.number read).step c = some (ts, next)) :
    Skims cs (.number read) c ts next := by
  have hlatin := latin_narrow hc
  have hstep' := hstep
  rw [Lexing.step] at hstep
  split_ifs at hstep with hnumber
  · cases hstep
    refine h.skims hc hstep' (fun bytes => ?_) ?_
    · simp only [Lexing.skimming, Skimming.step, hlatin, hnumber, if_true]
    · rintro _ (⟨⟨⟩⟩ | ⟨⟨⟩⟩)
      exact h.plain_snoc (.inr rfl) hc
  · obtain ⟨n, hn, hstep⟩ := Option.bind_eq_some_iff.1 hstep
    obtain ⟨⟨ts', next'⟩, hstart, heq⟩ := Option.bind_eq_some_iff.1 hstep
    cases heq
    refine skims_after_scalar hc (h.number hn).1 (h.number hn).2 ?_ hstart
    simp only [Lexing.skimming, Skimming.step, hlatin, hnumber]
    rfl

theorem Begun.skims_text {read : List Char} (h : Begun cs (.text read)) (hc : c.toNat < 0x80)
    (hstep : (Lexing.text read).step c = some (ts, next)) : Skims cs (.text read) c ts next := by
  have hlatin := latin_narrow hc
  rw [Lexing.step] at hstep
  split_ifs at hstep with hquote hback hcontrol
  · cases hstep
    have hbytes := bytesOf_snoc_narrow cs hc
    refine skims_of_step hc [.text (bytesOf (cs ++ [c]))] [] ?_ (.cons (spells_text ?_) .nil)
      begun_blank
    · rw [← List.reverse_reverse (bytesOf (cs ++ [c])), hbytes]
      exact if_pos (hlatin.trans hquote)
    · rw [lex, h.silent, lexFrom_cons, Lexing.step, if_pos hquote]
      rfl
  · cases hstep
    subst hback
    exact h.skims hc rfl (fun bytes => rfl) (by simp)
  · cases hstep
    refine h.skims hc (by rw [Lexing.step, if_neg hquote, if_neg hback, if_neg hcontrol])
      (fun bytes => ?_) (by simp)
    have hcontrol' : ¬UInt8.ofNat c.toNat < 0x20 := by
      rwa [UInt8.lt_iff_toNat_lt, UInt8.toNat_ofNat', Nat.mod_eq_of_lt (by omega)]
    simp only [Lexing.skimming, Skimming.step, hlatin, hquote, hback, hcontrol', if_false]

theorem Begun.skims_escape {read : List Char} {high : Option Nat} (h : Begun cs (.escape read high))
    (hc : c.toNat < 0x80) (hstep : (Lexing.escape read high).step c = some (ts, next)) :
    Skims cs (.escape read high) c ts next := by
  have hlatin := latin_narrow hc
  have hstep' := hstep
  rw [Lexing.step] at hstep
  split_ifs at hstep with hu hhigh
  · cases hstep
    subst hu
    exact h.skims hc rfl (fun bytes => rfl) (by simp)
  · obtain ⟨e, he, heq⟩ := Option.map_eq_some_iff.1 hstep
    cases heq
    refine h.skims hc hstep' (fun bytes => ?_) (by simp)
    simp only [Lexing.skimming, Skimming.step, hlatin, hu, if_false, he, Option.map_some]

theorem Begun.skims_unicode {read : List Char} {high : Option Nat} {left code : Nat}
    (h : Begun cs (.unicode read high left code)) (hc : c.toNat < 0x80)
    (hstep : (Lexing.unicode read high left code).step c = some (ts, next)) :
    Skims cs (.unicode read high left code) c ts next := by
  have hlatin := latin_narrow hc
  have hstep' := hstep
  obtain ⟨d, hd, hstep⟩ := Option.bind_eq_some_iff.1 hstep
  dsimp only at hstep
  split_ifs at hstep with hleft
  · obtain ⟨next', hnext, heq⟩ := Option.bind_eq_some_iff.1 hstep
    cases heq
    obtain ⟨hskimming, hscalar⟩ := afterUnit_cases hnext
    refine h.skims hc hstep' (fun bytes => ?_) fun read hread => absurd hread (hscalar read)
    rw [hskimming]
    simp only [Lexing.skimming, Skimming.step, hlatin, hd, hleft, if_true, Option.map_some]
  · cases hstep
    refine h.skims hc hstep' (fun bytes => ?_) (by simp)
    simp only [Lexing.skimming, Skimming.step, hlatin, hd, hleft, if_false, Option.map_some]

theorem Begun.skims_partner {read : List Char} {high : Nat} (h : Begun cs (.partner read high))
    (hc : c.toNat < 0x80) (hstep : (Lexing.partner read high).step c = some (ts, next)) :
    Skims cs (.partner read high) c ts next := by
  have hstep' := hstep
  rw [Lexing.step, Option.ite_none_right_eq_some] at hstep
  obtain ⟨rfl, heq⟩ := hstep
  cases heq
  exact h.skims hc hstep' (fun bytes => rfl) (by simp)

theorem Begun.skims_of_narrow (h : Begun cs now) (hc : c.toNat < 0x80)
    (hstep : now.step c = some (ts, next)) : Skims cs now c ts next := by
  cases now with
  | blank =>
    obtain ⟨ps, cs', hpiece, hps, h'⟩ := startPiece_of_startToken hc hstep
    exact skims_of_step hc ps cs' hpiece hps h'
  | word read => exact h.skims_word hc hstep
  | number read => exact h.skims_number hc hstep
  | text read => exact h.skims_text hc hstep
  | escape read high => exact h.skims_escape hc hstep
  | unicode read high left code => exact h.skims_unicode hc hstep
  | partner read high => exact h.skims_partner hc hstep

theorem Begun.skims_of_step (h : Begun cs now) (hstep : now.step c = some (ts, next)) :
    Skims cs now c ts next := by
  rcases Utf8.narrow_or_wide c.toNat with hc | ⟨more, hc⟩
  · exact h.skims_of_narrow hc hstep
  · obtain ⟨read, rfl, rfl, rfl⟩ := step_wide (Utf8.le_of_wide hc) hstep
    refine ⟨[], cs ++ [c], fun bs => ?_, .nil, h.push hstep (by simp)⟩
    rw [Lexing.skimming, skimFrom_text_wide fun b => Utf8.le_of_mem_wide hc, ← List.reverse_append,
      bytesOf, bytesOf, List.flatMap_append, List.flatMap_singleton]
    simp [Lexing.skimming]

/-! ## Documents -/

theorem Begun.finish_spells (h : Begun cs now) (hfinish : now.finish = some ts) :
    ∃ ps, (now.skimming (bytesOf cs).reverse).finish = some ps ∧
      List.Forall₂ Piece.Spells ps ts := by
  cases now with
  | blank =>
    cases hfinish
    exact ⟨[], rfl, .nil⟩
  | word read =>
    obtain ⟨t, ht, rfl⟩ := Option.map_eq_some_iff.1 hfinish
    refine ⟨[.scalar (bytesOf cs)], ?_, .cons (h.word ht).1 .nil⟩
    rw [Lexing.skimming, Skimming.finish, List.reverse_reverse, if_pos (h.word ht).2]
  | number read =>
    obtain ⟨n, hn, rfl⟩ := Option.map_eq_some_iff.1 hfinish
    refine ⟨[.scalar (bytesOf cs)], ?_, .cons (h.number hn).1 .nil⟩
    rw [Lexing.skimming, Skimming.finish, List.reverse_reverse, if_pos (h.number hn).2]
  | _ => cases hfinish

theorem skimFrom_spells (h : Begun cs now) {rest : List Char} (hlex : lexFrom now rest = some ts) :
    ∃ ps, skimFrom (now.skimming (bytesOf cs).reverse) (bytesOf rest) = some ps ∧
      List.Forall₂ Piece.Spells ps ts := by
  induction rest generalizing cs now ts with
  | nil => exact h.finish_spells hlex
  | cons c rest ih =>
    rw [lexFrom_cons] at hlex
    obtain ⟨⟨first, next⟩, hstep, hmap⟩ := Option.bind_eq_some_iff.1 hlex
    obtain ⟨later, hrest, rfl⟩ := Option.map_eq_some_iff.1 hmap
    obtain ⟨ps, cs', hskim, hps, h'⟩ := h.skims_of_step hstep
    obtain ⟨ps', hskim', hps'⟩ := ih h' hrest
    refine ⟨ps ++ ps', ?_, List.rel_append hps hps'⟩
    have hbytes : bytesOf (c :: rest) = String.utf8EncodeChar c ++ bytesOf rest :=
      List.flatMap_cons
    rw [hbytes, hskim, hskim']
    rfl

/-- The bytes of a text are cut into pieces that spell its tokens. -/
theorem skim_spells {s : String} (h : lex s.toList = some ts) :
    ∃ ps, skim (Utf8.encode s) = some ps ∧ List.Forall₂ Piece.Spells ps ts := by
  rw [Utf8.encode_eq]
  exact skimFrom_spells begun_blank h

end ChainIndexer.Json
