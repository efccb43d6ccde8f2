import ChainIndexer.Proofs.CoinLists
import ChainIndexer.Proofs.ExecutionLog

/-!
# The amounts of coins that events tell

An amount may be any digits and points, in any order. It is a number exactly if there is one point
at most, inside of it (`Numeral.isDecimal_iff`); the reader looks at each character for itself and
does not see that.

* `Command.coins_of_execute`: every coin of an event that comes from the execution log stands in a
  list under the key `amount` of one of the execution events.
* `Coin.amounts_decimal_iff`: which amounts such lists and such events have, and which of them are
  numbers. `Coin.misplaced_indexed` has amounts that are none.
-/

namespace ChainIndexer

/-! ## Decimal numerals -/

namespace Numeral

def IsDigits (cs : List Char) : Prop := cs ≠ [] ∧ ∀ c ∈ cs, c.isDigit

/-- A decimal numeral: one or more digits, and perhaps a point with one or more digits after it. -/
def IsDecimal (cs : List Char) : Prop :=
  IsDigits cs ∨
    ∃ whole fraction, IsDigits whole ∧ IsDigits fraction ∧ cs = whole ++ '.' :: fraction

/-- One or more digits and points, in any order. -/
def IsDotted (cs : List Char) : Prop := cs ≠ [] ∧ ∀ c ∈ cs, c.isDigit ∨ c = '.'

/-- There is one point at most, and none at either end. -/
def PointInside (cs : List Char) : Prop :=
  cs.count '.' ≤ 1 ∧ cs.head? ≠ some '.' ∧ cs.getLast? ≠ some '.'

variable {cs : List Char}

theorem IsDigits.not_mem (h : IsDigits cs) : '.' ∉ cs := by
  intro hmem
  have hpoint := h.2 '.' hmem
  cases hpoint

theorem IsDigits.isDotted (h : IsDigits cs) : IsDotted cs := ⟨h.1, fun c hc => .inl (h.2 c hc)⟩

theorem IsDotted.isDigits (h : IsDotted cs) (hpoint : '.' ∉ cs) : IsDigits cs := by
  refine ⟨h.1, fun c hc => (h.2 c hc).resolve_right ?_⟩
  rintro rfl
  exact hpoint hc

theorem IsDigits.pointInside (h : IsDigits cs) : PointInside cs := by
  refine ⟨?_, fun hhead => ?_, fun hlast => ?_⟩
  · rw [List.count_eq_zero.2 h.not_mem]
    omega
  · exact h.not_mem (List.mem_of_head? hhead)
  · exact h.not_mem (List.mem_of_getLast? hlast)

/-- Digits and points are a numeral exactly if there is one point at most, inside of it. -/
theorem isDecimal_iff : IsDecimal cs ↔ IsDotted cs ∧ PointInside cs := by
  constructor
  · rintro (h | ⟨whole, fraction, hwhole, hfraction, rfl⟩)
    · exact ⟨h.isDotted, h.pointInside⟩
    · refine ⟨⟨by simp, fun c hc => ?_⟩, ?_, ?_, ?_⟩
      · rcases List.mem_append.1 hc with hc | hc
        · exact .inl (hwhole.2 c hc)
        · rcases List.mem_cons.1 hc with rfl | hc
          · exact .inr rfl
          · exact .inl (hfraction.2 c hc)
      · simp [List.count_eq_zero.2 hwhole.not_mem, List.count_eq_zero.2 hfraction.not_mem]
      · rw [List.head?_append_of_ne_nil _ hwhole.1]
        exact hwhole.pointInside.2.1
      · rw [List.getLast?_append_of_ne_nil _ (by simp), List.getLast?_cons_of_ne_nil hfraction.1]
        exact hfraction.pointInside.2.2
  · rintro ⟨hdotted, honce, hhead, hlast⟩
    by_cases hpoint : '.' ∈ cs
    · obtain ⟨whole, fraction, rfl⟩ := List.append_of_mem hpoint
      rw [List.count_append, List.count_cons_self] at honce
      -- the only point parts the text in two, and neither part is empty
      refine .inr ⟨whole, fraction, IsDotted.isDigits ⟨?_, fun c hc => ?_⟩ ?_,
        IsDotted.isDigits ⟨?_, fun c hc => ?_⟩ ?_, rfl⟩
      · rintro rfl
        exact hhead rfl
      · exact hdotted.2 c (List.mem_append_left _ hc)
      · exact List.count_eq_zero.1 (by omega)
      · rintro rfl
        exact hlast (by simp)
      · exact hdotted.2 c (List.mem_append_right _ (List.mem_cons_of_mem _ hc))
      · exact List.count_eq_zero.1 (by omega)
    · exact .inl (hdotted.isDigits hpoint)

-- over the list, not over all characters
instance : Decidable (IsDotted cs) :=
  @instDecidableAnd _ _ inferInstance (List.decidableBAll _ cs)

instance : Decidable (PointInside cs) := inferInstanceAs (Decidable (_ ∧ _ ∧ _))

instance : Decidable (IsDecimal cs) := decidable_of_iff _ isDecimal_iff.symm

end Numeral

namespace Coin

theorem Readable.isDotted {c : Coin} (h : c.Readable) : Numeral.IsDotted c.amount.toList :=
  ⟨fun hnil => h.amount_ne (String.toList_eq_nil_iff.1 hnil), h.amount⟩

/-- What is read as an amount is digits and points, and a numeral if the point is in its place. -/
theorem decimal_iff_of_parseList {s : String} {coins : List Coin} (h : parseList s = .ok coins)
    {c : Coin} (hc : c ∈ coins) :
    Numeral.IsDotted c.amount.toList ∧
      (Numeral.IsDecimal c.amount.toList ↔ Numeral.PointInside c.amount.toList) := by
  have hdotted := ((parseListChars_eq_ok_iff.1 h).1 c hc).isDotted
  exact ⟨hdotted, Numeral.isDecimal_iff.trans (and_iff_right hdotted)⟩

theorem parseList_of_isDotted {amount : String} (h : Numeral.IsDotted amount.toList) :
    parseList (amount ++ "uatom") = .ok [⟨"uatom", amount⟩] := by
  have hfirst : 'u' ∈ "uatom".toList.head? := by decide
  have hcomma : ',' ∉ "uatom".toList := by decide
  have hlast : ∀ x ∈ "uatom".toList.getLast?, Text.isBlank x = false := by
    intro x hx
    obtain rfl : 'm' = x := Option.some.inj hx
    rfl
  have hw : ∀ c ∈ [(⟨"uatom", amount⟩ : Coin)], c.Writable := by
    intro c hc
    obtain rfl := List.mem_singleton.1 hc
    exact {
      amount_ne := fun he => h.1 (String.toList_eq_nil_iff.2 he)
      amount := h.2
      denom := ⟨'u', hfirst, .inl (by decide)⟩
      comma := hcomma
      last := hlast }
  have htext : listText [(⟨"uatom", amount⟩ : Coin)] = amount ++ "uatom" := by
    simp [listText, text]
  rw [← htext]
  exact parseListChars_eq_ok_iff.2 ⟨hw, coinParts_listText hw⟩

end Coin

/-! ## Coins of events -/

namespace Payload

/-- The coins of an event that come from the execution log. -/
def loggedCoins : Payload → List Coin
  | blockProposerRewarded p => p.amount
  | blockRewarded p => p.amount
  | blockCommissioned p => p.amount
  | unbondingCompleted p => p.amount
  | msg p => p.params.logged.coins
  | _ => []

end Payload

namespace Command

/-- The execution events that a command carries. -/
def executionEvents : Command → List AbciEvent
  | msg m => m.events
  | blockEvent _ _ e => [e]
  | _ => []

end Command

/-- The coin stands in a list under the key `amount` of the event. -/
def AbciEvent.Tells (e : AbciEvent) (c : Coin) : Prop :=
  ∃ text coins, e.attribute? "amount" = some text ∧ Coin.parseList text = .ok coins ∧ c ∈ coins

theorem CoinsRead.tells {events : List AbciEvent} {kind : Option String} {coins : List Coin}
    (h : CoinsRead (namedTexts events kind "amount") coins) {c : Coin} (hc : c ∈ coins) :
    ∃ e ∈ events, e.Tells c := by
  obtain ⟨parts, hparts, rfl⟩ := h
  obtain ⟨part, hpart, hc⟩ := List.mem_flatten.1 hc
  obtain ⟨text, htext, hread⟩ := exists_of_mem_right hparts hpart
  obtain ⟨e, he, htext⟩ := List.mem_filterMap.1 htext
  rw [Option.ite_none_right_eq_some] at htext
  exact ⟨e, he, text, part, htext.2, hread, hc⟩

namespace BlockEventKind

theorem tells_of_coins {e : AbciEvent} {coins : List Coin}
    (h : BlockEventKind.coins e = .ok coins) {c : Coin} (hc : c ∈ coins) : e.Tells c := by
  have hread := mapError_eq_ok_iff.1 h
  cases htext : e.attribute? "amount" with
  | some text =>
    rw [htext] at hread
    exact ⟨text, coins, htext, hread, hc⟩
  | none =>
    -- no list is read as the empty one
    rw [htext] at hread
    have hnil : Coin.parseList "" = .ok [] := rfl
    obtain rfl := Except.ok.inj (hnil.symm.trans hread)
    cases hc

theorem tells_of_reward {e : AbciEvent} {r : BlockReward} (h : reward e = .ok r) {c : Coin}
    (hc : c ∈ r.amount) : e.Tells c := by
  obtain ⟨validator, -, h⟩ := bind_eq_ok_iff.1 h
  obtain ⟨coins, hcoins, h⟩ := bind_eq_ok_iff.1 h
  obtain rfl := Except.ok.inj h
  exact tells_of_coins hcoins hc

theorem tells_of_payload {kind : BlockEventKind} {e : AbciEvent} {p : Payload}
    (h : kind.payload e = .ok p) {c : Coin} (hc : c ∈ p.loggedCoins) : e.Tells c := by
  cases kind with
  | proposerReward | rewards | commission =>
    obtain ⟨r, hr, rfl⟩ := map_eq_ok_iff.1 h
    exact tells_of_reward hr hc
  | completeUnbonding =>
    obtain ⟨delegator, -, h⟩ := bind_eq_ok_iff.1 h
    obtain ⟨validator, -, h⟩ := bind_eq_ok_iff.1 h
    obtain ⟨coins, hcoins, h⟩ := bind_eq_ok_iff.1 h
    obtain rfl := Except.ok.inj h
    exact tells_of_coins hcoins hc
  | mint | slash =>
    obtain ⟨_, -, h⟩ := bind_eq_ok_iff.1 h
    obtain rfl := Except.ok.inj h
    cases hc

end BlockEventKind

namespace Command

theorem payload_of_execute {c : Command} {e : Event} (h : c.execute = .ok e) :
    c.payload = .ok e.payload := by
  unfold execute at h
  split at h
  · rename_i p hp
    obtain rfl := Except.ok.inj h
    exact hp
  · cases h

/-- Every coin that an event has from the execution log stands in one of the command's execution
events. -/
theorem coins_of_execute {command : Command} {e : Event} (h : command.execute = .ok e) {c : Coin}
    (hc : c ∈ e.payload.loggedCoins) : ∃ told ∈ command.executionEvents, told.Tells c := by
  cases command with
  | msg m =>
    obtain ⟨q, hq, rfl⟩ := execute_msg_eq_ok_iff.1 h
    exact (MsgCommand.told_of_decode hq).coins.tells hc
  | blockEvent height kind event =>
    exact ⟨event, List.mem_singleton_self _,
      BlockEventKind.tells_of_payload (payload_of_execute h) hc⟩
  | transaction height tx =>
    have hp := Except.ok.inj (payload_of_execute h)
    rw [← hp] at hc
    split at hc <;> cases hc
  | genesis | genesisValidator | genesisBalance | block | changePower =>
    have hp := Except.ok.inj (payload_of_execute h)
    rw [← hp] at hc
    cases hc

end Command

namespace Coin

open Numeral (IsDotted IsDecimal PointInside)

/-- **Which amounts are numbers.** The amounts of the coins that a text gives, and of those that an
event has from the execution log, are digits and points; any digits and points are such an amount.
An amount is a decimal numeral exactly if it has one point at most, with digits on both sides. -/
theorem amounts_decimal_iff (s : String) (command : Command) :
    (∀ coins, parseList s = .ok coins → ∀ c ∈ coins,
      IsDotted c.amount.toList ∧ (IsDecimal c.amount.toList ↔ PointInside c.amount.toList)) ∧
    (∀ e, command.execute = .ok e → ∀ c ∈ e.payload.loggedCoins,
      (∃ told ∈ command.executionEvents, told.Tells c) ∧ IsDotted c.amount.toList ∧
        (IsDecimal c.amount.toList ↔ PointInside c.amount.toList)) ∧
    (IsDotted s.toList → parseList (s ++ "uatom") = .ok [⟨"uatom", s⟩]) := by
  refine ⟨?_, ?_, parseList_of_isDotted⟩
  · intro coins h c hc
    exact decimal_iff_of_parseList h hc
  · intro e h c hc
    have htold := command.coins_of_execute h hc
    refine ⟨htold, ?_⟩
    obtain ⟨told, -, list, coins, -, hread, hmem⟩ := htold
    exact decimal_iff_of_parseList hread hmem

/-- The rewards of a validator, with an amount as the execution log has it. -/
def rewardsOf (amount : String) : Command :=
  .blockEvent 9 .rewards ⟨"rewards", [⟨"validator", "cosmosvaloper1bb"⟩, ⟨"amount", amount⟩]⟩

theorem execute_rewardsOf {amount : String} {coins : List Coin}
    (h : parseList amount = .ok coins) :
    (rewardsOf amount).execute
      = .ok (.of 9 1 (.blockRewarded ⟨"cosmosvaloper1bb", coins⟩)) := by
  have hcoins : BlockEventKind.coins
      ⟨"rewards", [⟨"validator", "cosmosvaloper1bb"⟩, ⟨"amount", amount⟩]⟩ = .ok coins :=
    mapError_eq_ok_iff.2 h
  have hreward : BlockEventKind.reward
      ⟨"rewards", [⟨"validator", "cosmosvaloper1bb"⟩, ⟨"amount", amount⟩]⟩
        = .ok ⟨"cosmosvaloper1bb", coins⟩ :=
    bind_eq_ok_iff.2 ⟨_, rfl, bind_eq_ok_iff.2 ⟨_, hcoins, rfl⟩⟩
  simp only [rewardsOf, Command.execute, Command.payload, BlockEventKind.payload, hreward]
  rfl

/-- A whole amount, one with a point, and one with zeros at both ends. -/
def paidOut : List Coin := [⟨"uatom", "7"⟩, ⟨"ibc/AB", "12.5"⟩, ⟨"uosmo", "00.070"⟩]

theorem paidOut_decimal :
    (rewardsOf "7uatom,12.5ibc/AB, 00.070uosmo").execute
        = .ok (.of 9 1 (.blockRewarded ⟨"cosmosvaloper1bb", paidOut⟩)) ∧
      ∀ c ∈ paidOut, IsDecimal c.amount.toList := by
  have hread : parseList "7uatom,12.5ibc/AB, 00.070uosmo" = .ok paidOut := by decide +kernel
  have hinside : ∀ c ∈ paidOut, PointInside c.amount.toList := by decide +kernel
  have hexecute := execute_rewardsOf hread
  refine ⟨hexecute, fun c hc => ?_⟩
  obtain ⟨-, hlogged, -⟩ := amounts_decimal_iff "7uatom,12.5ibc/AB, 00.070uosmo" (rewardsOf _)
  obtain ⟨-, -, hdecimal⟩ := hlogged _ hexecute c hc
  exact hdecimal.2 (hinside c hc)

/-- More than one point, a point with nothing before or after it, and a point alone. -/
def misplaced : List Coin :=
  [⟨"uatom", "1.2.3"⟩, ⟨"uosmo", ".5"⟩, ⟨"ufoo", "7."⟩, ⟨"ubar", "."⟩]

theorem misplaced_indexed :
    parseList "1.2.3uatom,.5uosmo,7.ufoo,.ubar" = .ok misplaced ∧
      (rewardsOf "1.2.3uatom,.5uosmo,7.ufoo,.ubar").execute
        = .ok (.of 9 1 (.blockRewarded ⟨"cosmosvaloper1bb", misplaced⟩)) ∧
      ∀ c ∈ misplaced, ¬ IsDecimal c.amount.toList := by
  have hread : parseList "1.2.3uatom,.5uosmo,7.ufoo,.ubar" = .ok misplaced := by decide +kernel
  exact ⟨hread, execute_rewardsOf hread, by decide +kernel⟩

end Coin

end ChainIndexer
