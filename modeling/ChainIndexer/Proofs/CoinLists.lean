import ChainIndexer.Chain.Coin
import ChainIndexer.Proofs.Digits
import ChainIndexer.Proofs.Except
import Mathlib.Data.List.DropRight
import Mathlib.Data.List.TakeDrop

/-!
# Lists of coins are read as they are written

Nothing stands between the amount and the denomination of a written coin. The cut is found again
because an amount holds no character that starts a denomination (`startsDenom_of_amount`), so a
part between commas is read exactly if it is the written form of a coin (`parseChars_eq_ok_iff`).
What is cut off a part before it is read, and what is overlooked, is white space and empty parts
only; `parseListChars_eq_ok_iff` says which coins a list gives, and `lists_reread` that these are
the coins of their own list.
-/

namespace ChainIndexer

/-! ## Trimmed texts -/

namespace Text

theorem isBlank_of_getLast?_trim {cs : List Char} {c : Char} (h : (trim cs).getLast? = some c) :
    isBlank c = false := by
  have hne : (trimStart cs).rdropWhile isBlank ≠ [] := by
    intro hnil
    have htrim : trim cs = [] := hnil
    rw [htrim] at h
    cases h
  have hlast := List.rdropWhile_last_not isBlank (trimStart cs) hne
  have he : ((trimStart cs).rdropWhile isBlank).getLast hne = c :=
    List.getLast_of_getLast?_eq_some h
  rwa [he, Bool.not_eq_true] at hlast

theorem trim_eq_self {cs : List Char} (hstart : ∀ c, cs.head? = some c → isBlank c = false)
    (hend : ∀ c, cs.getLast? = some c → isBlank c = false) : trim cs = cs := by
  have hs : trimStart cs = cs := by
    rw [trimStart, List.dropWhile_eq_self_iff]
    intro hlen
    rw [hstart _ (List.getElem?_eq_getElem hlen ▸ List.head?_eq_getElem?)]
    exact Bool.false_ne_true
  rw [trim, hs]
  refine List.rdropWhile_eq_self_iff.2 fun hne => ?_
  rw [hend _ (List.getLast?_eq_getLast_of_ne_nil hne)]
  exact Bool.false_ne_true

theorem le_of_isAlphabetic {c : Char} (h : isAlphabetic c = true) : 0x41 ≤ c.toNat := by
  have hlow : ∀ range ∈ alphabeticRanges, 0x41 ≤ range.1 := by decide +kernel
  obtain ⟨range, hmem, hin⟩ := List.any_eq_true.1 h
  rw [Bool.and_eq_true, decide_eq_true_eq, decide_eq_true_eq] at hin
  exact Nat.le_trans (hlow range hmem) hin.1

end Text

namespace Coin

/-! ## One coin -/

/-- A coin that is read from its written form: the amount consists of digits and points, and the
denomination starts with a letter or a slash. -/
structure Readable (c : Coin) : Prop where
  amount_ne : c.amount ≠ ""
  amount : ∀ x ∈ c.amount.toList, x.isDigit ∨ x = '.'
  denom : ∃ x ∈ c.denom.toList.head?, Text.isAlphabetic x ∨ x = '/'

/-- A coin with a place in a written list: besides, the denomination holds no comma and does not end
in white space. -/
structure Writable (c : Coin) : Prop extends Readable c where
  comma : ',' ∉ c.denom.toList
  last : ∀ x ∈ c.denom.toList.getLast?, Text.isBlank x = false

theorem inAmount_iff {x : Char} : inAmount x = true ↔ x.isDigit ∨ x = '.' := by
  rw [Numeral.isDigit_iff]
  simp [inAmount]

theorem startsDenom_iff {x : Char} : startsDenom x = true ↔ Text.isAlphabetic x ∨ x = '/' := by
  simp [startsDenom]

theorem toNat_of_amount {x : Char} (h : x.isDigit ∨ x = '.') :
    x.toNat = 0x2E ∨ 0x30 ≤ x.toNat ∧ x.toNat ≤ 0x39 := by
  rcases h with hd | rfl
  · exact .inr (Numeral.isDigit_iff.1 hd)
  · exact .inl rfl

theorem startsDenom_of_amount {x : Char} (h : x.isDigit ∨ x = '.') : startsDenom x = false := by
  rw [← Bool.not_eq_true, startsDenom_iff]
  have hx := toNat_of_amount h
  rintro (halpha | rfl)
  · have hle := Text.le_of_isAlphabetic halpha
    omega
  · have hslash : ('/' : Char).toNat = 0x2F := rfl
    omega

theorem isBlank_of_amount {x : Char} (h : x.isDigit ∨ x = '.') : Text.isBlank x = false := by
  have hx := toNat_of_amount h
  simp only [Text.isBlank, Text.Ranges.contains, Text.blankRanges, List.any_cons, List.any_nil,
    Bool.or_false, Bool.or_eq_false_iff, Bool.and_eq_false_iff, decide_eq_false_iff_not]
  omega

namespace Readable

variable {c : Coin}

theorem exists_amount_cons (h : c.Readable) : ∃ x xs, c.amount.toList = x :: xs :=
  List.exists_cons_of_ne_nil fun hnil => h.amount_ne (String.toList_eq_nil_iff.1 hnil)

theorem exists_denom_cons (h : c.Readable) :
    ∃ x xs, c.denom.toList = x :: xs ∧ startsDenom x = true := by
  obtain ⟨x, hx, hstarts⟩ := h.denom
  obtain ⟨xs, hdenom⟩ := List.head?_eq_some_iff.1 hx
  exact ⟨x, xs, hdenom, startsDenom_iff.2 hstarts⟩

theorem split_text (h : c.Readable) : split c.text.toList = (c.amount.toList, c.denom.toList) := by
  obtain ⟨x, xs, hdenom, hstarts⟩ := h.exists_denom_cons
  have hamount : ∀ y ∈ c.amount.toList, (!startsDenom y) = true := fun y hy => by
    rw [startsDenom_of_amount (h.amount y hy), Bool.not_false]
  rw [text, String.toList_append, split, List.span_eq_takeWhile_dropWhile,
    List.takeWhile_append_of_pos hamount, List.dropWhile_append_of_pos hamount, hdenom]
  simp [hstarts]

theorem comma_iff (h : c.Readable) : ',' ∈ c.text.toList ↔ ',' ∈ c.denom.toList := by
  have hamount : ',' ∉ c.amount.toList := fun hmem => by
    have hcomma : (',' : Char).toNat = 0x2C := rfl
    have hx := toNat_of_amount (h.amount _ hmem)
    omega
  rw [text, String.toList_append, List.mem_append, or_iff_right hamount]

theorem getLast?_text (h : c.Readable) : c.text.toList.getLast? = c.denom.toList.getLast? := by
  obtain ⟨x, xs, hdenom, -⟩ := h.exists_denom_cons
  rw [text, String.toList_append, hdenom, List.getLast?_append, List.getLast?_cons, Option.some_or]

theorem text_ne_nil (h : c.Readable) : c.text.toList ≠ [] := by
  obtain ⟨x, xs, hamount⟩ := h.exists_amount_cons
  rw [text, String.toList_append, hamount]
  exact List.cons_ne_nil _ _

end Readable

/-- **A part is read exactly if it is the written form of a coin.** -/
theorem parseChars_eq_ok_iff {cs : List Char} {c : Coin} :
    parseChars cs = .ok c ↔ c.Readable ∧ cs = c.text.toList := by
  constructor
  · intro h
    have hcut : (split cs).1 ++ (split cs).2 = cs := by
      rw [split, List.span_eq_takeWhile_dropWhile, List.takeWhile_append_dropWhile]
    have hstarts : ∀ x, (split cs).2.head? = some x → startsDenom x = true := by
      intro x hx
      have hnot := List.head?_dropWhile_not (fun c => !startsDenom c) cs
      rw [split, List.span_eq_takeWhile_dropWhile] at hx
      rw [hx] at hnot
      simpa using hnot
    unfold parseChars at h
    generalize split cs = cut at h hcut hstarts
    obtain ⟨amount, denom⟩ := cut
    dsimp only at h hcut hstarts
    split at h
    · cases h
    · rename_i hne
      rw [Bool.or_eq_true, not_or, List.isEmpty_iff, List.isEmpty_iff] at hne
      split at h
      · rename_i hall
        cases h
        obtain ⟨x, xs, rfl⟩ := List.exists_cons_of_ne_nil hne.1
        refine ⟨⟨?_, fun y hy => ?_, x, by simp, startsDenom_iff.1 (hstarts x rfl)⟩, ?_⟩
        · simpa using hne.2
        · exact inAmount_iff.1 (List.all_eq_true.1 hall y (by simpa using hy))
        · rw [text, String.toList_append, String.toList_ofList, String.toList_ofList, hcut]
      · cases h
  · rintro ⟨h, rfl⟩
    obtain ⟨x, xs, hdenom, -⟩ := h.exists_denom_cons
    obtain ⟨y, ys, hamount⟩ := h.exists_amount_cons
    have hdenom_ne : c.denom.toList.isEmpty = false := by rw [hdenom]; rfl
    have hamount_ne : c.amount.toList.isEmpty = false := by rw [hamount]; rfl
    have hall : c.amount.toList.all inAmount = true :=
      List.all_eq_true.2 fun z hz => inAmount_iff.2 (h.amount z hz)
    simp only [parseChars, h.split_text, hdenom_ne, hamount_ne, hall]
    simp

theorem Writable.trim_text {c : Coin} (h : c.Writable) :
    Text.trim c.text.toList = c.text.toList := by
  refine Text.trim_eq_self (fun x hx => ?_) fun x hx => h.last x (h.getLast?_text ▸ hx)
  obtain ⟨y, ys, hamount⟩ := h.exists_amount_cons
  rw [text, String.toList_append, hamount, List.cons_append, List.head?_cons] at hx
  obtain rfl := Option.some.inj hx
  exact isBlank_of_amount (h.amount y (hamount ▸ List.mem_cons_self))

/-! ## Lists -/

/-- The written form of a list of coins. -/
def listText (coins : List Coin) : String := ",".intercalate (coins.map text)

def coinParts (cs : List Char) : List (List Char) :=
  ((commaParts cs).map Text.trim).filter fun part => !part.isEmpty

theorem not_mem_of_mem_commaParts {cs part : List Char} (h : part ∈ commaParts cs) :
    ',' ∉ part := by
  induction cs generalizing part with
  | nil =>
    rw [commaParts, List.splitOn_nil, List.mem_singleton] at h
    simp [h]
  | cons x cs ih =>
    rw [commaParts, List.splitOn_eq_splitOnP, List.splitOnP_cons_eq_if_modifyHead,
      ← List.splitOn_eq_splitOnP] at h
    split at h
    · rcases List.mem_cons.1 h with rfl | h
      · exact List.not_mem_nil
      · exact ih h
    · rename_i hx
      obtain ⟨first, parts, hparts⟩ := List.exists_cons_of_ne_nil (List.splitOn_ne_nil ',' cs)
      have hmem : ∀ p ∈ first :: parts, ',' ∉ p := fun p hp => ih (by rwa [commaParts, hparts])
      rw [hparts, List.modifyHead_cons] at h
      rcases List.mem_cons.1 h with rfl | h
      · rw [List.mem_cons, not_or]
        exact ⟨fun hcomma => hx (by simp [← hcomma]), hmem first List.mem_cons_self⟩
      · exact hmem part (List.mem_cons_of_mem _ h)

theorem mem_coinParts {cs part : List Char} :
    part ∈ coinParts cs ↔ part ≠ [] ∧ ∃ p ∈ commaParts cs, Text.trim p = part := by
  simp [coinParts, and_comm]

theorem parse_part_iff {cs part : List Char} (h : part ∈ coinParts cs) {c : Coin} :
    parseChars part = .ok c ↔ c.Writable ∧ part = c.text.toList := by
  rw [parseChars_eq_ok_iff]
  refine ⟨fun ⟨hread, he⟩ => ⟨⟨hread, ?_, fun x hx => ?_⟩, he⟩, fun ⟨hw, he⟩ => ⟨hw.toReadable, he⟩⟩
  all_goals
    obtain ⟨-, p, hp, htrim⟩ := mem_coinParts.1 h
    rw [← htrim] at he
  · -- what is cut off a part adds nothing to it
    have hsub : ∀ x ∈ Text.trim p, x ∈ p := fun x hx => (List.dropWhile_suffix Text.isBlank).subset
      ((List.rdropWhile_prefix Text.isBlank (Text.trimStart p)).subset hx)
    rw [← hread.comma_iff, ← he]
    exact fun hcomma => not_mem_of_mem_commaParts hp (hsub _ hcomma)
  · rw [← hread.getLast?_text, ← he] at hx
    exact Text.isBlank_of_getLast?_trim hx

/-- **Which coins a list gives.** Those whose written forms its parts are, each with a place in a
list. -/
theorem parseListChars_eq_ok_iff {cs : List Char} {coins : List Coin} :
    parseListChars cs = .ok coins ↔
      (∀ c ∈ coins, c.Writable) ∧ coinParts cs = coins.map fun c => c.text.toList := by
  rw [parseListChars, mapM_eq_ok_iff]
  change List.Forall₂ _ (coinParts cs) coins ↔ _
  have hparts : ∀ part ∈ coinParts cs, ∀ c,
      parseChars part = .ok c ↔ c.Writable ∧ part = c.text.toList := fun _ hpart _ =>
    parse_part_iff hpart
  generalize coinParts cs = parts at hparts
  induction parts generalizing coins with
  | nil => cases coins <;> simp
  | cons part parts ih =>
    obtain ⟨hpart, hparts⟩ := List.forall_mem_cons.1 hparts
    cases coins with
    | nil => simp
    | cons c coins =>
      have hrest : List.Forall₂ (fun x y => parseChars x = .ok y) parts coins ↔ _ := ih hparts
      rw [List.forall₂_cons, hpart c, hrest, List.forall_mem_cons, List.map_cons, List.cons.injEq]
      tauto

theorem coinParts_listText {coins : List Coin} (h : ∀ c ∈ coins, c.Writable) :
    coinParts (listText coins).toList = coins.map fun c => c.text.toList := by
  by_cases hnil : coins = []
  · subst hnil
    rfl
  · have htext : (listText coins).toList
        = [','].intercalate (coins.map fun c => c.text.toList) := by
      rw [listText, String.toList_intercalate, List.map_map]
      rfl
    have hcomma : ∀ l ∈ coins.map fun c => c.text.toList, ',' ∉ l :=
      List.forall_mem_map.2 fun c hc => (h c hc).comma_iff.not.2 (h c hc).comma
    have htrim : ∀ l ∈ coins.map fun c => c.text.toList, Text.trim l = l :=
      List.forall_mem_map.2 fun c hc => (h c hc).trim_text
    have hfull : ∀ l ∈ coins.map fun c => c.text.toList, (!l.isEmpty) = true :=
      List.forall_mem_map.2 fun c hc => by simpa using (h c hc).text_ne_nil
    rw [coinParts, commaParts, htext, List.splitOn_intercalate ',' hcomma (by simpa using hnil),
      List.map_congr_left htrim, List.map_id', List.filter_eq_self.2 hfull]

/-- **A list of coins is read exactly if it is written so.** The coins that a text gives are
those of their own list, each with a place in it; the coins with a place in a list are given by the
list of them; and a text gives coins exactly if each of its parts between commas is white space or,
white space around it apart, the written form of a coin with a place in a list. -/
theorem lists_reread (s : String) (coins : List Coin) :
    (parseList s = .ok coins →
      (∀ c ∈ coins, c.Writable) ∧ parseList (listText coins) = .ok coins) ∧
    ((∀ c ∈ coins, c.Writable) → parseList (listText coins) = .ok coins) ∧
    ((∃ found, parseList s = .ok found) ↔ ∀ part ∈ commaParts s.toList,
      Text.trim part = [] ∨ ∃ c : Coin, c.Writable ∧ Text.trim part = c.text.toList) := by
  have hback : (∀ c ∈ coins, c.Writable) → parseList (listText coins) = .ok coins := fun hw =>
    parseListChars_eq_ok_iff.2 ⟨hw, coinParts_listText hw⟩
  refine ⟨fun h => ?_, hback, ?_⟩
  · have hw := (parseListChars_eq_ok_iff.1 h).1
    exact ⟨hw, hback hw⟩
  · constructor
    · rintro ⟨found, hfound⟩ part hpart
      obtain ⟨hw, hparts⟩ := parseListChars_eq_ok_iff.1 hfound
      by_cases hblank : Text.trim part = []
      · exact .inl hblank
      · have hmem : Text.trim part ∈ coinParts s.toList :=
          mem_coinParts.2 ⟨hblank, part, hpart, rfl⟩
        rw [hparts] at hmem
        obtain ⟨c, hc, he⟩ := List.mem_map.1 hmem
        exact .inr ⟨c, hw c hc, he.symm⟩
    · intro hparts
      cases h : parseList s with
      | ok found => exact ⟨found, rfl⟩
      | error e =>
        -- the part that fails would be the written form of a coin
        obtain ⟨before, part, after, he, -, hfail⟩ := mapM_eq_error_iff.1 h
        have hmem : part ∈ coinParts s.toList := by
          rw [coinParts, he]
          simp
        obtain ⟨hne, p, hp, rfl⟩ := mem_coinParts.1 hmem
        rcases hparts p hp with hblank | ⟨c, hw, htext⟩
        · exact absurd hblank hne
        · rw [(parse_part_iff hmem).2 ⟨hw, htext⟩] at hfail
          cases hfail

/-- A point, a slash, digits, a blank and a letter beyond the Latin ones in denominations. -/
def pooled : List Coin := [⟨"uatom", "12.5"⟩, ⟨"/b9 é", "3"⟩]

theorem pooled_reread :
    parseList " 12.5uatom , ,3/b9 é\t" = .ok pooled ∧ listText pooled = "12.5uatom,3/b9 é" ∧
      parseList "12.5uatom,3/b9 é" = .ok pooled := by
  have hread : parseList " 12.5uatom , ,3/b9 é\t" = .ok pooled := by decide +kernel
  have htext : listText pooled = "12.5uatom,3/b9 é" := by decide +kernel
  exact ⟨hread, htext, htext ▸ ((lists_reread _ pooled).1 hread).2⟩

end Coin

end ChainIndexer
