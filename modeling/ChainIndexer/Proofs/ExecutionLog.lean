import ChainIndexer.Proofs.Json.Omitting
import ChainIndexer.Proofs.Messages

/-!
# What only the execution log tells

Rewards, withdrawn amounts, completion times and proposal numbers exist only in the execution log. The
sender of a message can write them into it all the same, since the readers accept their keys.
`MsgKind.logOnly` lists those keys for each kind, `MsgParams.logged` the fields that they would set,
and `Logged.Told` what the events of a message tell about these fields.

* `read_stripped`: a message without those keys is read the same up to these fields.
* `Command.execute_log_only`: the event of a message is the same without the keys, and takes the
  fields from the execution events alone.
-/

namespace ChainIndexer

open Json (Codec Value record_overlooks)

/-! ## Fields of the execution log -/

def MsgKind.logOnly : MsgKind → List String
  | .delegate => ["auto_claimed_rewards"]
  | .undelegate | .beginRedelegate => ["completion_time", "auto_claimed_rewards"]
  | .withdrawDelegatorReward | .withdrawValidatorCommission => ["amount"]
  | .submitProposal => ["proposal_id"]
  | _ => []

/-- What the execution log adds to a message. -/
structure Logged where
  coins : List Coin := []
  completionTime : Option Time := none
  proposalId : Option UInt64 := none

namespace MsgParams

/-- The fields that come from the execution log. -/
def logged : MsgParams → Logged
  | delegate p => { coins := p.autoClaimedRewards }
  | undelegate p => { coins := p.autoClaimedRewards, completionTime := p.completionTime }
  | beginRedelegate p => { coins := p.autoClaimedRewards, completionTime := p.completionTime }
  | withdrawDelegatorReward p => { coins := p.amount }
  | withdrawValidatorCommission p => { coins := p.amount }
  | submitProposal p => { proposalId := p.proposalId }
  | submitProposalV1 p => { proposalId := p.proposalId }
  | _ => {}

/-- The parameters without the fields that come from the execution log. -/
def unlogged : MsgParams → MsgParams
  | delegate p => .delegate { p with autoClaimedRewards := [] }
  | undelegate p => .undelegate { p with autoClaimedRewards := [], completionTime := none }
  | beginRedelegate p => .beginRedelegate { p with autoClaimedRewards := [], completionTime := none }
  | withdrawDelegatorReward p => .withdrawDelegatorReward { p with amount := [] }
  | withdrawValidatorCommission p => .withdrawValidatorCommission { p with amount := [] }
  | submitProposal p => .submitProposal { p with proposalId := none }
  | submitProposalV1 p => .submitProposalV1 { p with proposalId := none }
  | p => p

theorem mentioned_unlogged (p : MsgParams) : p.unlogged.mentioned = p.mentioned := by
  cases p <;> rfl

end MsgParams

/-! ## What events tell -/

/-- The texts under a key in the events of a kind, in order; nothing where no kind is asked for. An
event speaks by its first attribute of the key. -/
def namedTexts (events : List AbciEvent) (kind : Option String) (key : String) : List String :=
  events.filterMap fun e => if some e.kind = kind then e.attribute? key else none

def CoinsRead (texts : List String) (coins : List Coin) : Prop :=
  ∃ parts, List.Forall₂ (fun text part => Coin.parseList text = .ok part) texts parts ∧
    coins = parts.flatten

def FirstRead {ε α : Type} (read : String → Except ε α) : List String → Option α → Prop
  | [], a? => a? = none
  | text :: _, a? => ∃ a, read text = .ok a ∧ a? = some a

namespace MsgKind

/-- The events that tell coins: rewards paid out, or a commission withdrawn. -/
def coinSource : MsgKind → Option String
  | .delegate | .undelegate | .beginRedelegate | .withdrawDelegatorReward =>
    some "withdraw_rewards"
  | .withdrawValidatorCommission => some "withdraw_commission"
  | _ => none

/-- The events that tell when stake is free again. -/
def timeSource : MsgKind → Option String
  | .undelegate => some "unbond"
  | .beginRedelegate => some "redelegate"
  | _ => none

def proposalSource : MsgKind → Option String
  | .submitProposal => some "submit_proposal"
  | _ => none

end MsgKind

/-- What the events of a message of a kind tell: the coins of all its amounts, one after the other,
the first completion time and the first number of a proposal. -/
structure Logged.Told (kind : MsgKind) (events : List AbciEvent) (l : Logged) : Prop where
  coins : CoinsRead (namedTexts events kind.coinSource "amount") l.coins
  completionTime : FirstRead Time.readExact (namedTexts events kind.timeSource "completion_time")
    l.completionTime
  proposalId : FirstRead MsgCommand.readNumber
    (namedTexts events kind.proposalSource "proposal_id") l.proposalId

theorem CoinsRead.unique {texts : List String} {coins coins' : List Coin}
    (h : CoinsRead texts coins) (h' : CoinsRead texts coins') : coins = coins' := by
  obtain ⟨parts, hparts, rfl⟩ := h
  obtain ⟨parts', hparts', rfl⟩ := h'
  rw [Except.ok.inj ((mapM_eq_ok_iff.2 hparts).symm.trans (mapM_eq_ok_iff.2 hparts'))]

theorem FirstRead.unique {ε α : Type} {read : String → Except ε α} {texts : List String}
    {a? b? : Option α} (ha : FirstRead read texts a?) (hb : FirstRead read texts b?) : a? = b? := by
  cases texts with
  | nil => exact Eq.trans ha (Eq.symm hb)
  | cons text texts =>
    obtain ⟨a, ha, rfl⟩ := ha
    obtain ⟨b, hb, rfl⟩ := hb
    rw [Except.ok.inj (ha.symm.trans hb)]

theorem Logged.Told.unique {kind : MsgKind} {events : List AbciEvent} {l l' : Logged}
    (h : l.Told kind events) (h' : l'.Told kind events) : l = l' := by
  cases l
  cases l'
  congr
  · exact h.coins.unique h'.coins
  · exact h.completionTime.unique h'.completionTime
  · exact h.proposalId.unique h'.proposalId

theorem namedTexts_none (events : List AbciEvent) (key : String) :
    namedTexts events none key = [] := by
  rw [namedTexts, List.filterMap_eq_nil_iff]
  intro e _
  rw [if_neg (by simp)]

theorem coinsRead_none (events : List AbciEvent) (key : String) :
    CoinsRead (namedTexts events none key) [] := by
  rw [namedTexts_none]
  exact ⟨[], .nil, rfl⟩

theorem firstRead_none {ε α : Type} (read : String → Except ε α) (events : List AbciEvent)
    (key : String) : FirstRead read (namedTexts events none key) none := by
  rw [namedTexts_none]
  rfl

namespace AbciEvent

theorem filterMap_attribute? (events : List AbciEvent) (kind key : String) :
    (events.filter fun e => e.kind == kind).filterMap (fun e => e.attribute? key)
      = namedTexts events (some kind) key := by
  rw [List.filterMap_filter, namedTexts]
  simp only [beq_iff_eq, Option.some.injEq]

theorem findAttribute?_eq (events : List AbciEvent) (kind key : String) :
    findAttribute? events kind key = (namedTexts events (some kind) key).head? := by
  rw [findAttribute?, ← List.head?_filterMap, filterMap_attribute?]

theorem collectCoins_eq_ok_iff {events : List AbciEvent} {kind key : String} {coins : List Coin} :
    collectCoins events kind key = .ok coins ↔
      CoinsRead (namedTexts events (some kind) key) coins := by
  rw [collectCoins, filterMap_attribute?, map_eq_ok_iff, CoinsRead]
  simp only [mapM_eq_ok_iff, eq_comm (a := coins)]

end AbciEvent

/-! ## Reading a message without them -/

theorem MsgDelegate.overlooks : MsgDelegate.codec.Overlooks ["auto_claimed_rewards"]
    fun p => { p with autoClaimedRewards := [] } :=
  record_overlooks (by simp) fun ⟨_, _, _, _, _⟩ => by
    simp [Json.Field.required, Json.Field.default]

theorem MsgUndelegate.overlooks :
    MsgUndelegate.codec.Overlooks ["completion_time", "auto_claimed_rewards"]
      fun p => { p with autoClaimedRewards := [], completionTime := none } :=
  record_overlooks (by simp) fun ⟨_, _, _, _, _, _⟩ => by
    simp [Json.Field.required, Json.Field.default]

theorem MsgBeginRedelegate.overlooks :
    MsgBeginRedelegate.codec.Overlooks ["completion_time", "auto_claimed_rewards"]
      fun p => { p with autoClaimedRewards := [], completionTime := none } :=
  record_overlooks (by simp) fun ⟨_, _, _, _, _, _, _⟩ => by
    simp [Json.Field.required, Json.Field.default]

theorem MsgWithdrawDelegatorReward.overlooks :
    MsgWithdrawDelegatorReward.codec.Overlooks ["amount"] fun p => { p with amount := [] } :=
  record_overlooks (by simp) fun ⟨_, _, _, _⟩ => by
    simp [Json.Field.required, Json.Field.default]

theorem MsgWithdrawValidatorCommission.overlooks :
    MsgWithdrawValidatorCommission.codec.Overlooks ["amount"] fun p => { p with amount := [] } :=
  record_overlooks (by simp) fun ⟨_, _, _⟩ => by
    simp [Json.Field.required, Json.Field.default]

theorem MsgSubmitProposal.overlooks :
    MsgSubmitProposal.codec.Overlooks ["proposal_id"] fun p => { p with proposalId := none } :=
  record_overlooks (by simp) fun ⟨_, _, _, _, _⟩ => by
    simp [Json.Field.required, Json.Field.default]

theorem MsgSubmitProposalV1.overlooks :
    MsgSubmitProposalV1.codec.Overlooks ["proposal_id"] fun p => { p with proposalId := none } :=
  record_overlooks (by simp) fun ⟨_, _, _, _, _, _, _, _⟩ => by
    simp [Json.Field.required, Json.Field.default]

namespace MsgCommand

variable {m : MsgCommand}

/-- The command with a message that leaves to the execution log what only it knows. -/
def stripped (m : MsgCommand) : MsgCommand := { m with msg := m.msg.without m.kind.logOnly }

@[simp] theorem kind_stripped (m : MsgCommand) : m.stripped.kind = m.kind := rfl

theorem stripped_of_nil (h : m.kind.logOnly = []) : m.stripped = m := by
  rw [stripped, h, Value.without_nil]

theorem params_stripped {α : Type} {c : Codec α} {keys : List String} {forget : α → α}
    {wrap : α → MsgParams} {p : MsgParams} (hkeys : m.kind.logOnly = keys)
    (hc : c.Overlooks keys forget) (hwrap : ∀ a, (wrap a).unlogged = wrap (forget a))
    (h : (m.params c).map wrap = .ok p) :
    ∃ q, (m.stripped.params c).map wrap = .ok q ∧ q.unlogged = p.unlogged := by
  obtain ⟨a, ha, rfl⟩ := map_eq_ok_iff.1 h
  obtain ⟨b, hb, hab⟩ := hc m.msg a (mapError_eq_ok_iff.1 ha)
  have hparams : m.stripped.params c = .ok b := by
    rw [stripped, hkeys]
    exact mapError_eq_ok_iff.2 hb
  exact ⟨wrap b, map_eq_ok_iff.2 ⟨b, hparams, rfl⟩, by rw [hwrap, hwrap, hab]⟩

theorem read_stripped {p : MsgParams} (h : m.read = .ok p) :
    ∃ q, m.stripped.read = .ok q ∧ q.unlogged = p.unlogged := by
  cases hk : m.kind with
  | delegate =>
    simp only [read, kind_stripped, hk] at h ⊢
    exact params_stripped (by rw [hk]; rfl) MsgDelegate.overlooks (fun _ => rfl) h
  | undelegate =>
    simp only [read, kind_stripped, hk] at h ⊢
    exact params_stripped (by rw [hk]; rfl) MsgUndelegate.overlooks (fun _ => rfl) h
  | beginRedelegate =>
    simp only [read, kind_stripped, hk] at h ⊢
    exact params_stripped (by rw [hk]; rfl) MsgBeginRedelegate.overlooks (fun _ => rfl) h
  | withdrawDelegatorReward =>
    simp only [read, kind_stripped, hk] at h ⊢
    exact params_stripped (by rw [hk]; rfl) MsgWithdrawDelegatorReward.overlooks (fun _ => rfl) h
  | withdrawValidatorCommission =>
    simp only [read, kind_stripped, hk] at h ⊢
    exact params_stripped (by rw [hk]; rfl) MsgWithdrawValidatorCommission.overlooks (fun _ => rfl) h
  | submitProposal =>
    simp only [read, kind_stripped, hk] at h ⊢
    by_cases hv : 2 ≤ m.version
    · have hv' : 2 ≤ m.stripped.version := hv
      rw [if_pos hv] at h
      rw [if_pos hv']
      exact params_stripped (by rw [hk]; rfl) MsgSubmitProposalV1.overlooks (fun _ => rfl) h
    · have hv' : ¬ 2 ≤ m.stripped.version := hv
      rw [if_neg hv] at h
      rw [if_neg hv']
      exact params_stripped (by rw [hk]; rfl) MsgSubmitProposal.overlooks (fun _ => rfl) h
  | _ =>
    rw [stripped_of_nil (by rw [hk]; rfl)]
    exact ⟨p, h, rfl⟩

/-! ## Completing -/

theorem complete_unlogged (m : MsgCommand) (p : MsgParams) :
    m.complete p.unlogged = m.complete p := by
  cases p <;> rfl

theorem firstRead_of_found {ε α : Type} {read : String → Except ε α}
    (fault : String → ε → CommandFault) {events : List AbciEvent} {kind key : String}
    {a? : Option α}
    (h : (AbciEvent.findAttribute? events kind key).elim (.ok none)
      (fun text => ((read text).mapError (fault text)).map some) = .ok a?) :
    FirstRead read (namedTexts events (some kind) key) a? := by
  rw [AbciEvent.findAttribute?_eq] at h
  cases htexts : namedTexts events (some kind) key with
  | nil =>
    rw [htexts] at h
    exact (Except.ok.inj h).symm
  | cons text texts =>
    rw [htexts] at h
    obtain ⟨a, ha, rfl⟩ := map_eq_ok_iff.1 h
    exact ⟨a, mapError_eq_ok_iff.1 ha, rfl⟩

theorem firstRead_completionTime {kind : String} {time? : Option Time}
    (h : m.completionTime kind = .ok time?) :
    FirstRead Time.readExact (namedTexts m.events (some kind) "completion_time") time? := by
  refine firstRead_of_found .timestamp (Eq.trans ?_ h)
  rw [completionTime]
  cases AbciEvent.findAttribute? m.events kind "completion_time" <;> rfl

theorem firstRead_proposalId {id? : Option UInt64} (h : m.proposalId = .ok id?) :
    FirstRead readNumber (namedTexts m.events (some "submit_proposal") "proposal_id") id? := by
  refine firstRead_of_found .proposalId (Eq.trans ?_ h)
  rw [proposalId]
  cases AbciEvent.findAttribute? m.events "submit_proposal" "proposal_id" <;> rfl

theorem complete_stripped (m : MsgCommand) (p : MsgParams) :
    m.stripped.complete p = m.complete p := by
  cases p <;> rfl

theorem decode_stripped {q : MsgParams} (h : m.decode = .ok q) : m.stripped.decode = .ok q := by
  obtain ⟨hbefore, p, hread, hlawful, hq⟩ := decode_eq_ok_iff.1 h
  obtain ⟨p', hread', hsame⟩ := read_stripped hread
  have hmentioned : p'.mentioned = p.mentioned := by
    rw [← p'.mentioned_unlogged, hsame, p.mentioned_unlogged]
  have hcomplete : m.stripped.complete p' = m.complete p := by
    rw [complete_stripped, ← complete_unlogged, hsame, complete_unlogged]
  exact decode_eq_ok_iff.2 ⟨hbefore, p', hread', hmentioned ▸ hlawful, hcomplete.trans hq⟩

theorem coinsRead_amounts {kind : String} {coins : List Coin} (h : m.amounts kind = .ok coins) :
    CoinsRead (namedTexts m.events (some kind) "amount") coins :=
  AbciEvent.collectCoins_eq_ok_iff.1 (mapError_eq_ok_iff.1 h)

theorem told_of_complete {p q : MsgParams} (h : m.complete p = .ok q)
    (hq : q.Belongs m.kind m.version) : q.logged.Told m.kind m.events := by
  cases p with
  | delegate p =>
    obtain ⟨coins, hcoins, h⟩ := bind_eq_ok_iff.1 h
    obtain rfl := Except.ok.inj h
    have hk : m.kind = .delegate := hq
    rw [hk]
    exact ⟨coinsRead_amounts hcoins, firstRead_none .., firstRead_none ..⟩
  | undelegate p =>
    obtain ⟨time?, htime, h⟩ := bind_eq_ok_iff.1 h
    obtain ⟨coins, hcoins, h⟩ := bind_eq_ok_iff.1 h
    obtain rfl := Except.ok.inj h
    have hk : m.kind = .undelegate := hq
    rw [hk]
    exact ⟨coinsRead_amounts hcoins, firstRead_completionTime htime, firstRead_none ..⟩
  | beginRedelegate p =>
    obtain ⟨time?, htime, h⟩ := bind_eq_ok_iff.1 h
    obtain ⟨coins, hcoins, h⟩ := bind_eq_ok_iff.1 h
    obtain rfl := Except.ok.inj h
    have hk : m.kind = .beginRedelegate := hq
    rw [hk]
    exact ⟨coinsRead_amounts hcoins, firstRead_completionTime htime, firstRead_none ..⟩
  | withdrawDelegatorReward p =>
    obtain ⟨coins, hcoins, h⟩ := bind_eq_ok_iff.1 h
    obtain rfl := Except.ok.inj h
    have hk : m.kind = .withdrawDelegatorReward := hq
    rw [hk]
    exact ⟨coinsRead_amounts hcoins, firstRead_none .., firstRead_none ..⟩
  | withdrawValidatorCommission p =>
    obtain ⟨coins, hcoins, h⟩ := bind_eq_ok_iff.1 h
    obtain rfl := Except.ok.inj h
    have hk : m.kind = .withdrawValidatorCommission := hq
    rw [hk]
    exact ⟨coinsRead_amounts hcoins, firstRead_none .., firstRead_none ..⟩
  | submitProposal p | submitProposalV1 p =>
    obtain ⟨id?, hid, h⟩ := bind_eq_ok_iff.1 h
    obtain rfl := Except.ok.inj h
    have hk : m.kind = .submitProposal := hq.1
    rw [hk]
    exact ⟨coinsRead_none .., firstRead_none .., firstRead_proposalId hid⟩
  | _ =>
    obtain rfl := Except.ok.inj h
    rw [show m.kind = _ from hq]
    exact ⟨coinsRead_none .., firstRead_none .., firstRead_none ..⟩

theorem told_of_decode {q : MsgParams} (h : m.decode = .ok q) : q.logged.Told m.kind m.events := by
  obtain ⟨-, p, -, -, hq⟩ := decode_eq_ok_iff.1 h
  exact told_of_complete hq (lawful_of_decode h).1

end MsgCommand

/-! ## Events -/

namespace Command

/-- **The execution log speaks for itself.** A message that has an event has the same event without
the keys of the execution log. The fields of these keys are what the execution events tell, so that
any two messages of a kind with the same execution events agree on them. -/
theorem execute_log_only (m : MsgCommand) (e : Event) (h : (Command.msg m).execute = .ok e) :
    (Command.msg m.stripped).execute = .ok e ∧
      ∃ params, e.payload = .msg ⟨m.base, params⟩ ∧ params.logged.Told m.kind m.events ∧
        ∀ m' e', m'.kind = m.kind → m'.events = m.events → (Command.msg m').execute = .ok e' →
          ∃ params', e'.payload = .msg ⟨m'.base, params'⟩ ∧ params'.logged = params.logged := by
  obtain ⟨q, hq, rfl⟩ := execute_msg_eq_ok_iff.1 h
  have htold := MsgCommand.told_of_decode hq
  refine ⟨execute_msg_eq_ok_iff.2 ⟨q, MsgCommand.decode_stripped hq, rfl⟩, q, rfl, htold, ?_⟩
  intro m' e' hkind hevents h'
  obtain ⟨q', hq', rfl⟩ := execute_msg_eq_ok_iff.1 h'
  have htold' := MsgCommand.told_of_decode hq'
  rw [hkind, hevents] at htold'
  exact ⟨q', rfl, htold'.unique htold⟩

/-- The end of a delegation whose sender claims rewards and an early completion. -/
def forged : MsgCommand where
  height := 5
  base := { txHash := "AB", txIndex := 0, msgIndex := 0 }
  kind := .undelegate
  version := 1
  msg := .object [("amount", .object [("denom", .string "uatom"), ("amount", .string "100")]),
    ("auto_claimed_rewards", .array [.object [("denom", .string "uatom"), ("amount", .string "9")]]),
    ("completion_time", .string "1970-01-01T00:00:00Z"),
    ("delegator_address", .string "cosmos1aa"), ("validator_address", .string "cosmosvaloper1bb")]
  events := [⟨"withdraw_rewards", [⟨"amount", "7uatom"⟩]⟩, ⟨"unbond", []⟩]
  context := {}

/-- What the sender claims goes unheard. -/
theorem forged_log_only :
    ∃ e, (Command.msg forged).execute = .ok e ∧ (Command.msg forged.stripped).execute = .ok e ∧
      ∃ params, e.payload = .msg ⟨forged.base, params⟩ ∧
        params.logged = { coins := [⟨"uatom", "7"⟩] } := by
  have hok : (Command.msg forged).execute.isOk := by decide +kernel
  obtain ⟨e, he⟩ := isOk_eq_true_iff.1 hok
  obtain ⟨hstripped, params, hparams, htold, -⟩ := execute_log_only forged e he
  refine ⟨e, he, hstripped, params, hparams, htold.unique ⟨⟨[[⟨"uatom", "7"⟩]], ?_, rfl⟩, ?_, ?_⟩⟩
  · exact mapM_eq_ok_iff.1 (by decide +kernel)
  · rfl
  · rfl

end Command

end ChainIndexer
