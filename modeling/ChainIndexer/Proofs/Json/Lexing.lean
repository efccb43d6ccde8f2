import Mathlib.Data.List.TakeWhile
import ChainIndexer.Json.Reader
import ChainIndexer.Json.Writer
import ChainIndexer.Proofs.Digits

/-!
# The tokens of a written value

`Fits` says which values a document keeps: integers only, members in order, nested no deeper than a
bound. The compact text of such a value is cut into its tokens (`lexFrom_value`): a word and a number
end where something follows that cannot stand in them, and every escape is resolved to the character
that it was written for.
-/

namespace ChainIndexer.Json

/-- The value holds no number but integers, the members of its objects ascend, as `Members.insert`
keeps them, and it nests at most so many levels. -/
inductive Value.Fits : Nat → Value → Prop
  | null {n} : Fits n .null
  | bool {n b} : Fits n (.bool b)
  | whole {n i} {fits} : Fits n (.number (.whole i fits))
  | string {n s} : Fits n (.string s)
  | array {n items} (h : ∀ v ∈ items, Fits n v) : Fits (n + 1) (.array items)
  | object {n members} (ha : (members.map Prod.fst).Pairwise (· < ·))
      (h : ∀ p ∈ members, Fits n p.2) : Fits (n + 1) (.object members)

mutual
/-- The tokens of a value. -/
def tokens : Value → List Token
  | .null => [.null]
  | .bool b => [.bool b]
  | .number n => [.number n]
  | .string s => [.string s.toList]
  | .array [] => [.openArray, .closeArray]
  | .array (v :: vs) => .openArray :: (tokens v ++ itemTokens vs)
  | .object [] => [.openObject, .closeObject]
  | .object ((k, v) :: ms) =>
    .openObject :: .string k.toList :: .colon :: (tokens v ++ memberTokens ms)

def itemTokens : List Value → List Token
  | [] => [.closeArray]
  | v :: vs => .comma :: (tokens v ++ itemTokens vs)

def memberTokens : List (String × Value) → List Token
  | [] => [.closeObject]
  | (k, v) :: ms => .comma :: .string k.toList :: .colon :: (tokens v ++ memberTokens ms)
end

/-! ## Numbers -/

theorem isDigit_eq {c : Char} (h : c.isDigit) : isDigit c = true := by
  simpa [isDigit] using Numeral.isDigit_iff.1 h

theorem unsigned?_toDigits (negative : Bool) (n : Nat) :
    Numeral.unsigned? negative (Nat.toDigits 10 n)
      = some ⟨negative, Nat.toDigits 10 n, none, none⟩ := by
  have hall : ∀ c ∈ Nat.toDigits 10 n, isDigit c = true :=
    fun c hc => isDigit_eq (Numeral.isDigit_of_mem_toDigits hc)
  obtain ⟨c, cs, hcs, -⟩ := Numeral.toDigits_eq_cons n
  have hlead : (Nat.toDigits 10 n).head? = some '0' → (Nat.toDigits 10 n).length = 1 := by
    intro h0
    rcases Nat.eq_zero_or_pos n with rfl | hn
    · simp
    · rw [hcs] at h0
      exact absurd (Option.some.inj h0) (Numeral.ne_zero_of_toDigits hn hcs)
  have hempty : (Nat.toDigits 10 n).isEmpty = false := by rw [hcs]; rfl
  simp only [Numeral.unsigned?, List.takeWhile_eq_self_iff.2 hall, List.dropWhile_eq_nil_iff.2 hall,
    hempty, Bool.false_or]
  rw [if_neg]
  · rfl
  · simp only [Bool.and_eq_true, beq_iff_eq, bne_iff_ne, ne_eq, not_and, not_not]
    exact hlead

theorem foldl_digit (cs : List Char) :
    cs.foldl (fun n c => 10 * n + digit c) 0 = Nat.ofDigitChars 10 cs 0 := rfl

/-- The decimal form of an integer has a sign below zero, digits, and nothing else. -/
theorem ofChars?_integer (n : Int) :
    Numeral.ofChars? (Numeral.integer n).toList
      = some ⟨decide (n < 0), Nat.toDigits 10 n.natAbs, none, none⟩ := by
  cases n with
  | ofNat m =>
    obtain ⟨c, cs, hcs, -, -, hminus⟩ := Numeral.toDigits_eq_cons m
    have hchars :
        Numeral.ofChars? (Nat.toDigits 10 m) = Numeral.unsigned? false (Nat.toDigits 10 m) := by
      rw [hcs, Numeral.ofChars?]
      rintro ds ⟨⟩
      exact hminus rfl
    rw [Numeral.integer, Numeral.natural, String.toList_ofList, hchars, unsigned?_toDigits]
    rfl
  | negSucc m =>
    have htext : (Numeral.integer (Int.negSucc m)).toList = '-' :: Nat.toDigits 10 (m + 1) := by
      simp [Numeral.integer, Numeral.natural]
    rw [htext, Numeral.ofChars?, unsigned?_toDigits, decide_eq_true (Int.negSucc_lt_zero m),
      Int.natAbs_negSucc]

theorem number?_integer {n : Int} (fits : -0x8000000000000000 ≤ n ∧ n < 0x10000000000000000) :
    number? (Numeral.integer n).toList = some (.whole n fits) := by
  simp only [number?, ofChars?_integer, Option.bind_some, Numeral.toNumber?, foldl_digit,
    Nat.ofDigitChars_ten_toDigits]
  by_cases hn : n < 0
  · have habs : -(n.natAbs : Int) = n := by omega
    rw [dif_neg (by simp [hn]), dif_pos ⟨rfl, decide_eq_true hn, by omega, by omega⟩]
    simp only [habs]
  · have habs : (n.natAbs : Int) = n := by omega
    rw [dif_pos ⟨rfl, decide_eq_false hn, by omega⟩]
    simp only [habs]

theorem number?_not_whole {n : Int} (h : ¬ (-0x8000000000000000 ≤ n ∧ n < 0x10000000000000000))
    {x : Number} (hx : number? (Numeral.integer n).toList = some x) : ∃ bits, x = .double bits := by
  simp only [number?, ofChars?_integer, Option.bind_some, Numeral.toNumber?, foldl_digit,
    Nat.ofDigitChars_ten_toDigits, decide_eq_true_eq, decide_eq_false_iff_not] at hx
  rw [dif_neg (by omega), dif_neg (by omega)] at hx
  obtain ⟨y, -, hy⟩ := Option.map_eq_some_iff.1 hx
  exact ⟨_, hy.symm⟩

/-! ## Where tokens end -/

/-- What follows cannot stand in a number or a word. -/
def Delimited (cs : List Char) : Prop :=
  ∀ c ∈ cs.head?, isNumberChar c = false ∧ isWordChar c = false

theorem lexFrom_cons (now : Lexing) (c : Char) (cs : List Char) :
    lexFrom now (c :: cs) = (now.step c).bind fun p => (lexFrom p.2 cs).map (p.1 ++ ·) := by
  rw [lexFrom]
  cases now.step c with
  | none => rfl
  | some p => cases h : lexFrom p.2 cs <;> simp [h]

theorem lexFrom_silent {now next : Lexing} {c : Char} (h : now.step c = some ([], next))
    (cs : List Char) : lexFrom now (c :: cs) = lexFrom next cs := by
  simp [lexFrom_cons, h]

theorem lexFrom_token {now next : Lexing} {c : Char} {t : Token}
    (h : now.step c = some ([t], next)) (cs : List Char) :
    lexFrom now (c :: cs) = (lexFrom next cs).map (t :: ·) := by
  simp [lexFrom_cons, h]

theorem lexFrom_word {read rest : List Char} {t : Token} (hw : word? read.reverse = some t)
    (hd : Delimited rest) :
    lexFrom (.word read) rest = (lexFrom .blank rest).map (t :: ·) := by
  cases rest with
  | nil => simp [lexFrom, Lexing.finish, hw]
  | cons c rest =>
    obtain ⟨-, hc⟩ := hd c rfl
    rw [lexFrom_cons, lexFrom_cons]
    simp only [Lexing.step, hc, hw]
    cases startToken c with
    | none => rfl
    | some p => simp [Function.comp_def]

theorem lexFrom_number {read rest : List Char} {n : Number} (hn : number? read.reverse = some n)
    (hd : Delimited rest) :
    lexFrom (.number read) rest = (lexFrom .blank rest).map (.number n :: ·) := by
  cases rest with
  | nil => simp [lexFrom, Lexing.finish, hn]
  | cons c rest =>
    obtain ⟨hc, -⟩ := hd c rfl
    rw [lexFrom_cons, lexFrom_cons]
    simp only [Lexing.step, hc, hn]
    cases startToken c with
    | none => rfl
    | some p => simp [Function.comp_def]

theorem lexFrom_numberChars {cs : List Char} (hcs : ∀ c ∈ cs, isNumberChar c = true)
    (read rest : List Char) :
    lexFrom (.number read) (cs ++ rest) = lexFrom (.number (cs.reverse ++ read)) rest := by
  induction cs generalizing read with
  | nil => rfl
  | cons c cs ih =>
    rw [List.cons_append, lexFrom_cons]
    simp only [Lexing.step, hcs c (by simp), if_true, Option.bind_some]
    rw [ih fun d hd => hcs d (by simp [hd])]
    simp

/-! ## Strings -/

theorem hexValue?_hexDigit : ∀ n < 16, hexValue? (hexDigit n) = some n := by decide

theorem lexFrom_control {c : Char} (hc : c.toNat < 0x20) (read rest : List Char) :
    lexFrom (.unicode read none 4 0)
      ('0' :: '0' :: hexDigit (c.toNat / 16) :: hexDigit (c.toNat % 16) :: rest)
      = lexFrom (.text (c :: read)) rest := by
  have hzero : hexValue? '0' = some 0 := by decide
  have hunit : afterUnit read none c.toNat = some (.text (c :: read)) := by
    rw [afterUnit, if_neg (by omega), if_neg (by omega), Char.ofNat_toNat]
  have hhigh := hexValue?_hexDigit (c.toNat / 16) (by omega)
  have hlow := hexValue?_hexDigit (c.toNat % 16) (by omega)
  have hcode : (0 * 16 + c.toNat / 16) * 16 + c.toNat % 16 = c.toNat := by omega
  have h₁ : (Lexing.unicode read none 4 0).step '0' = some ([], .unicode read none 3 0) := by
    simp [Lexing.step, hzero]
  have h₂ : (Lexing.unicode read none 3 0).step '0' = some ([], .unicode read none 2 0) := by
    simp [Lexing.step, hzero]
  have h₃ : (Lexing.unicode read none 2 0).step (hexDigit (c.toNat / 16))
      = some ([], .unicode read none 1 (0 * 16 + c.toNat / 16)) := by
    simp [Lexing.step, hhigh]
  have h₄ : (Lexing.unicode read none 1 (0 * 16 + c.toNat / 16)).step (hexDigit (c.toNat % 16))
      = some ([], .text (c :: read)) := by
    simp only [Lexing.step, hlow, hcode, hunit, Option.bind_eq_bind, Option.bind_some, le_refl,
      if_true]
    rfl
  rw [lexFrom_silent h₁, lexFrom_silent h₂, lexFrom_silent h₃, lexFrom_silent h₄]

theorem lexFrom_escape {e c : Char} (h : escape? e = some c) (hu : e ≠ 'u')
    (read rest : List Char) :
    lexFrom (.text read) ('\\' :: e :: rest) = lexFrom (.text (c :: read)) rest := by
  have h₁ : (Lexing.text read).step '\\' = some ([], .escape read none) := rfl
  have h₂ : (Lexing.escape read none).step e = some ([], .text (c :: read)) := by
    simp [Lexing.step, hu, h]
  rw [lexFrom_silent h₁, lexFrom_silent h₂]

theorem lexFrom_escapedChar (c : Char) (read rest : List Char) :
    lexFrom (.text read) (escapedChar c ++ rest) = lexFrom (.text (c :: read)) rest := by
  unfold escapedChar
  split_ifs with hquote hback hn hr ht hb hf hcontrol
  · subst hquote; exact lexFrom_escape rfl (by decide) read rest
  · subst hback; exact lexFrom_escape rfl (by decide) read rest
  · subst hn; exact lexFrom_escape rfl (by decide) read rest
  · subst hr; exact lexFrom_escape rfl (by decide) read rest
  · subst ht; exact lexFrom_escape rfl (by decide) read rest
  · subst hb; exact lexFrom_escape rfl (by decide) read rest
  · subst hf; exact lexFrom_escape rfl (by decide) read rest
  · have h₁ : (Lexing.text read).step '\\' = some ([], .escape read none) := rfl
    have h₂ : (Lexing.escape read none).step 'u' = some ([], .unicode read none 4 0) := rfl
    rw [List.cons_append, List.cons_append, lexFrom_silent h₁, lexFrom_silent h₂]
    exact lexFrom_control hcontrol read rest
  · have h₁ : (Lexing.text read).step c = some ([], .text (c :: read)) := by
      simp [Lexing.step, hquote, hback, hcontrol]
    exact lexFrom_silent h₁ rest

theorem lexFrom_escaped (cs read rest : List Char) :
    lexFrom (.text read) (cs.flatMap escapedChar ++ '"' :: rest)
      = (lexFrom .blank rest).map (.string (read.reverse ++ cs) :: ·) := by
  induction cs generalizing read with
  | nil =>
    have h : (Lexing.text read).step '"' = some ([.string read.reverse], .blank) := rfl
    simp [lexFrom_token h]
  | cons c cs ih =>
    rw [List.flatMap_cons, List.append_assoc, lexFrom_escapedChar, ih]
    simp

theorem lexFrom_string (s : String) (rest : List Char) :
    lexFrom .blank (stringChars s ++ rest)
      = (lexFrom .blank rest).map (.string s.toList :: ·) := by
  have h : Lexing.blank.step '"' = some ([], .text []) := rfl
  rw [stringChars, List.append_assoc, List.cons_append, lexFrom_silent h]
  exact lexFrom_escaped s.toList [] rest

/-! ## Values -/

theorem startToken_digit {c : Char} (h : c.isDigit) : startToken c = some ([], .number [c]) := by
  obtain ⟨hlow, hhigh⟩ := Numeral.isDigit_iff.1 h
  have hspace : isSpace c = false := by
    simp only [isSpace, Bool.or_eq_false_iff, decide_eq_false_iff_not]
    refine ⟨⟨⟨?_, ?_⟩, ?_⟩, ?_⟩ <;> rintro rfl <;> exact absurd h (by decide)
  have hquote : c ≠ '"' := by rintro rfl; exact absurd h (by decide)
  have hword : isWordChar c = false := by
    have : ¬ 'a' ≤ c := fun ha => absurd (Char.le_trans ha hhigh) (by decide)
    simp [isWordChar, this]
  simp [startToken, hspace, hquote, hword, isDigit_eq h]

/-- The first character of an integer starts a number, and the others continue it. -/
theorem integer_chars (n : Int) :
    ∃ c cs, (Numeral.integer n).toList = c :: cs ∧ startToken c = some ([], .number [c]) ∧
      ∀ d ∈ cs, isNumberChar d = true := by
  have hdigits (m : Nat) : ∀ d ∈ Nat.toDigits 10 m, isNumberChar d = true := by
    intro d hd
    simp [isNumberChar, isDigit_eq (Numeral.isDigit_of_mem_toDigits hd)]
  cases n with
  | ofNat m =>
    obtain ⟨c, cs, hcs, hc, -⟩ := Numeral.toDigits_eq_cons m
    refine ⟨c, cs, by simp [Numeral.integer, Numeral.natural, hcs], startToken_digit hc, ?_⟩
    exact fun d hd => hdigits m d (by simp [hcs, hd])
  | negSucc m =>
    refine ⟨'-', Nat.toDigits 10 (m + 1), by simp [Numeral.integer, Numeral.natural], rfl, ?_⟩
    exact hdigits (m + 1)

theorem lexFrom_whole {n : Int} (fits : -0x8000000000000000 ≤ n ∧ n < 0x10000000000000000)
    {rest : List Char} (hd : Delimited rest) :
    lexFrom .blank (numberChars (.whole n fits) ++ rest)
      = (lexFrom .blank rest).map (.number (.whole n fits) :: ·) := by
  obtain ⟨c, cs, hcs, hstart, hmore⟩ := integer_chars n
  have hnumber : number? (cs.reverse ++ [c]).reverse = some (.whole n fits) := by
    have hchars : (cs.reverse ++ [c]).reverse = (Numeral.integer n).toList := by simp [hcs]
    rw [hchars, number?_integer fits]
  have hfirst : Lexing.blank.step c = some ([], .number [c]) := hstart
  rw [numberChars, hcs, List.cons_append, lexFrom_silent hfirst,
    lexFrom_numberChars hmore, lexFrom_number hnumber hd]

/-- The compact text of the value is cut into its tokens. -/
def Value.Lexes (v : Value) : Prop :=
  ∀ {rest}, Delimited rest →
    lexFrom .blank (valueChars v ++ rest) = (lexFrom .blank rest).map (tokens v ++ ·)

theorem delimited_moreItems (vs : List Value) (rest : List Char) :
    Delimited (moreItems vs ++ rest) := by
  cases vs <;> rintro c ⟨⟩ <;> decide

theorem delimited_moreMembers (ms : Members) (rest : List Char) :
    Delimited (moreMembers ms ++ rest) := by
  rcases ms with _ | ⟨⟨k, v⟩, ms⟩ <;> rintro c ⟨⟩ <;> decide

theorem lexFrom_moreItems {vs : List Value} (h : ∀ v ∈ vs, v.Lexes) (rest : List Char) :
    lexFrom .blank (moreItems vs ++ rest) = (lexFrom .blank rest).map (itemTokens vs ++ ·) := by
  induction vs with
  | nil =>
    have hclose : Lexing.blank.step ']' = some ([.closeArray], .blank) := rfl
    simp only [moreItems, itemTokens, List.cons_append, List.nil_append]
    exact lexFrom_token hclose rest
  | cons v vs ih =>
    have hcomma : Lexing.blank.step ',' = some ([.comma], .blank) := rfl
    have hv : v.Lexes := h v (by simp)
    simp only [moreItems, itemTokens, List.cons_append, List.append_assoc]
    rw [lexFrom_token hcomma, hv (delimited_moreItems vs rest),
      ih fun w hw => h w (by simp [hw])]
    simp [Function.comp_def]

theorem lexFrom_member (k : String) {v : Value} (hv : v.Lexes) {rest : List Char}
    (hd : Delimited rest) :
    lexFrom .blank (stringChars k ++ ':' :: (valueChars v ++ rest))
      = (lexFrom .blank rest).map (Token.string k.toList :: .colon :: tokens v ++ ·) := by
  have hcolon : Lexing.blank.step ':' = some ([.colon], .blank) := rfl
  rw [lexFrom_string, lexFrom_token hcolon, hv hd]
  simp [Function.comp_def]

theorem lexFrom_moreMembers {ms : Members} (h : ∀ p ∈ ms, p.2.Lexes) (rest : List Char) :
    lexFrom .blank (moreMembers ms ++ rest)
      = (lexFrom .blank rest).map (memberTokens ms ++ ·) := by
  induction ms with
  | nil =>
    have hclose : Lexing.blank.step '\x7d' = some ([.closeObject], .blank) := rfl
    simp only [moreMembers, memberTokens, List.cons_append, List.nil_append]
    exact lexFrom_token hclose rest
  | cons p ms ih =>
    obtain ⟨k, v⟩ := p
    have hcomma : Lexing.blank.step ',' = some ([.comma], .blank) := rfl
    have hv : v.Lexes := h (k, v) (by simp)
    simp only [moreMembers, memberTokens, List.cons_append, List.append_assoc]
    rw [lexFrom_token hcomma, lexFrom_member k hv (delimited_moreMembers ms rest),
      ih fun q hq => h q (by simp [hq])]
    simp [Function.comp_def]

theorem lexFrom_wordChars {c : Char} {cs : List Char} (hc : startToken c = some ([], .word [c]))
    (hcs : ∀ d ∈ cs, isWordChar d = true) {t : Token} (hw : word? (c :: cs) = some t)
    {rest : List Char} (hd : Delimited rest) :
    lexFrom .blank (c :: cs ++ rest) = (lexFrom .blank rest).map (t :: ·) := by
  have hmore (read : List Char) :
      lexFrom (.word read) (cs ++ rest) = lexFrom (.word (cs.reverse ++ read)) rest := by
    clear hw
    induction cs generalizing read with
    | nil => rfl
    | cons d ds ih =>
      have hstep : (Lexing.word read).step d = some ([], .word (d :: read)) := by
        simp [Lexing.step, hcs d (by simp)]
      rw [List.cons_append, lexFrom_silent hstep, ih fun e he => hcs e (by simp [he])]
      simp
  have hfirst : Lexing.blank.step c = some ([], .word [c]) := hc
  rw [List.cons_append, lexFrom_silent hfirst, hmore, lexFrom_word _ hd]
  simpa using hw

/-- **The compact text of a value is cut into the value's tokens.** -/
theorem lexFrom_value {n : Nat} {v : Value} (h : v.Fits n) : v.Lexes := by
  induction h with
  | null => exact fun hd => lexFrom_wordChars rfl (by simp [isWordChar]) rfl hd
  | @bool n b =>
    cases b
    · exact fun hd => lexFrom_wordChars rfl (by simp [isWordChar]) rfl hd
    · exact fun hd => lexFrom_wordChars rfl (by simp [isWordChar]) rfl hd
  | whole => exact fun hd => by simpa [valueChars, tokens] using lexFrom_whole _ hd
  | string => exact fun _ => by simpa [valueChars, tokens] using lexFrom_string _ _
  | @array n items h ih =>
    have hopen : Lexing.blank.step '[' = some ([.openArray], .blank) := rfl
    intro rest hd
    cases items with
    | nil =>
      have hclose : Lexing.blank.step ']' = some ([.closeArray], .blank) := rfl
      simp only [valueChars, tokens, List.cons_append, List.nil_append]
      rw [lexFrom_token hopen, lexFrom_token hclose]
      simp [Function.comp_def]
    | cons v vs =>
      have hv : v.Lexes := ih v (by simp)
      simp only [valueChars, tokens, List.cons_append, List.append_assoc]
      rw [lexFrom_token hopen, hv (delimited_moreItems vs rest),
        lexFrom_moreItems fun w hw => ih w (by simp [hw])]
      simp [Function.comp_def]
  | @object n members ha h ih =>
    have hopen : Lexing.blank.step '\x7b' = some ([.openObject], .blank) := rfl
    intro rest hd
    rcases members with _ | ⟨⟨k, v⟩, ms⟩
    · have hclose : Lexing.blank.step '\x7d' = some ([.closeObject], .blank) := rfl
      simp only [valueChars, tokens, List.cons_append, List.nil_append]
      rw [lexFrom_token hopen, lexFrom_token hclose]
      simp [Function.comp_def]
    · have hv : v.Lexes := ih (k, v) (by simp)
      simp only [valueChars, tokens, List.cons_append, List.append_assoc]
      rw [lexFrom_token hopen, lexFrom_member k hv (delimited_moreMembers ms rest),
        lexFrom_moreMembers fun q hq => ih q (by simp [hq])]
      simp [Function.comp_def]

theorem lex_compact {n : Nat} {v : Value} (h : v.Fits n) :
    lex v.compact.toList = some (tokens v) := by
  have hend : Delimited [] := fun c hc => absurd hc (by simp)
  have hlex := lexFrom_value h hend
  simpa [lex, Value.compact, lexFrom, Lexing.finish] using hlex

end ChainIndexer.Json
