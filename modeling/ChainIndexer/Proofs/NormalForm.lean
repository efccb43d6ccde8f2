import ChainIndexer.Chain.Genesis
import ChainIndexer.Chain.Tx
import ChainIndexer.Proofs.Json.Rereading
import ChainIndexer.Proofs.Payload

/-!
# The form of the data model is normal after one reading

Reading an event, the parameters of a message, a block, its results, a transaction or a genesis
document, writing it and reading it again gives the same (`data_reread`). A record without an
instant restores every value; one with an instant restores what was read, because whatever is read
as an instant is an instant of the calendar and the clock.
-/

namespace ChainIndexer

open Json (Value record_stable)
open Json.Codec (stable_of_restores union_stable Case.of_stable)

/-! ## Instants -/

@[simp] theorem Time.stable : Json.Codec.time.Stable := by
  intro stage v t hread
  simp only [Json.Codec.time] at hread
  split at hread
  · exact Time.restores (Time.valid_of_readLoose (mapError_eq_ok_iff.1 hread))
  · cases hread

@[simp] theorem Time.option_stable : Json.Codec.time.option.Stable :=
  Json.Codec.option_stable Time.stable fun _ _ _ _ _ => nofun

/-! ## Coins and execution events -/

@[simp] theorem Coin.stable : Coin.codec.Stable := stable_of_restores Coin.restores

@[simp] theorem Fee.stable : Fee.codec.Stable := stable_of_restores Fee.restores

@[simp] theorem Attribute.stable : Attribute.codec.Stable :=
  record_stable (by decide) (by simp) fun _ => rfl

@[simp] theorem AbciEvent.stable : AbciEvent.codec.Stable :=
  record_stable (by decide) (by simp) fun _ => rfl

/-! ## Messages -/

theorem MsgUndelegate.stable : MsgUndelegate.codec.Stable :=
  record_stable (by decide) (by simp) fun _ => rfl

theorem MsgBeginRedelegate.stable : MsgBeginRedelegate.codec.Stable :=
  record_stable (by decide) (by simp) fun _ => rfl

/-- Each case of a message is stable: two of them name an instant, the others restore any value. -/
theorem MsgParams.cases_stable : ∀ c ∈ MsgParams.cases, c.Stable MsgParams.toCase := by
  simp only [cases, List.forall_mem_cons, List.not_mem_nil, false_implies, implies_true, and_true]
  refine ⟨?send, ?multiSend, ?delegate, ?undelegate, ?beginRedelegate, ?withdrawDelegatorReward,
    ?withdrawValidatorCommission, ?setWithdrawAddress, ?createValidator, ?editValidator,
    ?submitProposal, ?submitProposalV1, ?vote, ?deposit, ?unjail⟩
  case undelegate => exact Case.of_stable MsgUndelegate.stable fun _ => rfl
  case beginRedelegate => exact Case.of_stable MsgBeginRedelegate.stable fun _ => rfl
  all_goals exact Case.of_stable (stable_of_restores (by simp)) fun _ => rfl

@[simp] theorem MsgParams.stable : MsgParams.codec.Stable :=
  union_stable (by decide) (by decide) MsgParams.cases_stable

/-! ## Events -/

@[simp] theorem CommitSignature.stable : CommitSignature.codec.Stable :=
  record_stable (by decide) (by simp) fun _ => rfl

theorem GenesisCreated.stable : GenesisCreated.codec.Stable :=
  record_stable (by decide) (by simp) fun _ => rfl

theorem BlockCreated.stable : BlockCreated.codec.Stable :=
  record_stable (by decide) (by simp) fun _ => rfl

theorem TransactionCreated.stable : TransactionCreated.codec.Stable :=
  record_stable (by decide) (by simp) fun _ => rfl

theorem MsgEvent.stable : MsgEvent.codec.Stable :=
  record_stable (by decide) (by simp [stable_of_restores]) fun _ => rfl

/-- Each case of a payload is stable: a message and four others hold instants, the rest restore any
value. -/
theorem Payload.cases_stable : ∀ c ∈ Payload.cases, c.Stable Payload.toCase := by
  simp only [cases, List.forall_mem_cons, List.not_mem_nil, false_implies, implies_true, and_true]
  refine ⟨?genesisCreated, ?genesisValidatorCreated, ?genesisAccountBalanceCreated, ?blockCreated,
    ?transactionCreated, ?transactionFailed, ?msg, ?mintMinted, ?blockProposerRewarded,
    ?blockRewarded, ?blockCommissioned, ?validatorSlashed, ?unbondingCompleted, ?powerChanged⟩
  case genesisCreated => exact Case.of_stable GenesisCreated.stable fun _ => rfl
  case blockCreated => exact Case.of_stable BlockCreated.stable fun _ => rfl
  case transactionCreated => exact Case.of_stable TransactionCreated.stable fun _ => rfl
  case transactionFailed => exact Case.of_stable TransactionCreated.stable fun _ => rfl
  case msg => exact Case.of_stable MsgEvent.stable fun _ => rfl
  all_goals exact Case.of_stable (stable_of_restores (by simp)) fun _ => rfl

@[simp] theorem Payload.stable : Payload.codec.Stable :=
  union_stable (by decide) (by decide) Payload.cases_stable

theorem Event.stable : Event.codec.Stable :=
  record_stable (by decide) (by simp) fun _ => rfl

/-! ## Blocks and their results -/

@[simp] theorem BlockHeader.stable : BlockHeader.codec.Stable :=
  record_stable (by decide) (by simp) fun _ => rfl

@[simp] theorem RawTx.stable : RawTx.codec.Stable :=
  Json.Codec.transport_stable (by simp) fun _ => rfl

theorem Block.stable : Block.codec.Stable :=
  record_stable (by decide) (by simp) fun _ => rfl

@[simp] theorem TxResult.stable : TxResult.codec.Stable :=
  record_stable (by decide) (by simp) fun _ => rfl

@[simp] theorem ValidatorUpdate.stable : ValidatorUpdate.codec.Stable :=
  record_stable (by decide) (by simp) fun _ => rfl

theorem BlockResults.stable : BlockResults.codec.Stable :=
  record_stable (by decide) (by simp) fun _ => rfl

/-! ## Transactions -/

@[simp] theorem SignerInfo.stable : SignerInfo.codec.Stable :=
  record_stable (by decide) (by simp) fun _ => rfl

@[simp] theorem TxBody.stable : TxBody.codec.Stable :=
  record_stable (by decide) (by simp) fun _ => rfl

@[simp] theorem AuthInfo.stable : AuthInfo.codec.Stable :=
  record_stable (by decide) (by simp) fun _ => rfl

@[simp] theorem MessageLog.stable : MessageLog.codec.Stable :=
  record_stable (by decide) (by simp) fun _ => rfl

@[simp] theorem TxExecution.stable : TxExecution.codec.Stable :=
  record_stable (by decide) (by simp) fun _ => rfl

theorem Tx.stable : Tx.codec.Stable :=
  record_stable (by decide) (by simp) fun _ => rfl

/-! ## The genesis document -/

theorem Genesis.stable : Genesis.codec.Stable :=
  record_stable (by decide) (by simp) fun _ => rfl

/-! ## All of them -/

/-- **The form is normal after one reading.** Whatever a value is read as is written and read again
without a change: default values, absent options and integers in either spelling included. -/
theorem data_reread (v : Value) :
    (∀ x, Event.codec.decode v = .ok x → Event.codec.decode (Event.codec.write x) = .ok x) ∧
    (∀ x, MsgParams.codec.decode v = .ok x →
      MsgParams.codec.decode (MsgParams.codec.write x) = .ok x) ∧
    (∀ x, Block.codec.decode v = .ok x → Block.codec.decode (Block.codec.write x) = .ok x) ∧
    (∀ x, BlockResults.codec.decode v = .ok x →
      BlockResults.codec.decode (BlockResults.codec.write x) = .ok x) ∧
    (∀ x, Tx.codec.decode v = .ok x → Tx.codec.decode (Tx.codec.write x) = .ok x) ∧
    ∀ x, Genesis.codec.decode v = .ok x → Genesis.codec.decode (Genesis.codec.write x) = .ok x := by
  refine ⟨?event, ?message, ?block, ?results, ?tx, ?genesis⟩
  case event => exact fun x hx => Event.stable .direct v x hx .direct
  case message => exact fun x hx => MsgParams.stable .direct v x hx .direct
  case block => exact fun x hx => Block.stable .direct v x hx .direct
  case results => exact fun x hx => BlockResults.stable .direct v x hx .direct
  case tx => exact fun x hx => Tx.stable .direct v x hx .direct
  case genesis => exact fun x hx => Genesis.stable .direct v x hx .direct

/-- An event with a message that lacks what only the log tells, and with an instant at an offset. -/
def undelegated : Value :=
  .ofList [("height", .ofUInt64 0xFFFFFFFFFFFFFFFF), ("name", .string "MsgUndelegateCreated"),
    ("version", .ofNat 1),
    ("payload", .array [.string "Msg", .ofList [
      ("base", .array [.string "AB", .ofNat 1, .ofNat 0]),
      ("params", .ofList [("msg", .string "Undelegate"), ("params", .ofList [
        ("delegator_address", .string "a"), ("validator_address", .string "v"),
        ("amount", .array [.string "uatom", .string "5"]),
        ("completion_time", .string "2024-02-29 23:59:60.50 +0130")])])]])]

def undelegatedEvent : Event where
  height := 0xFFFFFFFFFFFFFFFF
  name := "MsgUndelegateCreated"
  version := 1
  payload := .msg {
    base := ⟨"AB", 1, 0⟩
    params := .undelegate {
      delegatorAddress := "a"
      validatorAddress := "v"
      amount := ⟨"uatom", "5"⟩
      completionTime := some ⟨⟨2024, 2, 29⟩, 22, 29, 60, 500000000⟩
      autoClaimedRewards := [] } }

theorem undelegated_reread : Event.codec.decode undelegated = .ok undelegatedEvent ∧
    Event.codec.decode (Event.codec.write undelegatedEvent) = .ok undelegatedEvent := by
  have hread : Event.codec.decode undelegated = .ok undelegatedEvent := rfl
  exact ⟨hread, (data_reread undelegated).1 undelegatedEvent hread⟩

end ChainIndexer
