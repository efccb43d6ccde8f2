import ChainIndexer.Event.Payload
import ChainIndexer.Proofs.Json.Restoring
import ChainIndexer.Proofs.Time

/-!
# Payloads restored from their JSON form

Every record that stands in a payload is restored from its form, and so is a payload whose instants
are instants of the calendar and the clock (`Payload.restores`).
-/

namespace ChainIndexer

open Json (record_restores)
open Json.Codec (union_restores option_restores Case.of_restores)

/-! ## Instants -/

theorem Time.restores {t : Time} (h : t.Valid) : Json.Codec.time.Restores t := by
  intro stage
  simp only [Json.Codec.time, Time.readLoose_text h]
  rfl

theorem Time.option_restores {t? : Option Time} (h : ∀ t ∈ t?, t.Valid) :
    Json.Codec.time.option.Restores t? :=
  Json.Codec.option_restores fun t ht => ⟨Time.restores (h t ht), nofun⟩

/-! ## Coins -/

@[simp] theorem Coin.restores (p : Coin) : Coin.codec.Restores p :=
  record_restores (by decide) (by simp) rfl

@[simp] theorem Fee.restores (p : Fee) : Fee.codec.Restores p :=
  record_restores (by decide) (by simp) rfl

/-! ## Messages -/

@[simp] theorem MsgBase.restores (p : MsgBase) : MsgBase.codec.Restores p :=
  record_restores (by decide) (by simp) rfl

@[simp] theorem MsgSend.restores (p : MsgSend) : MsgSend.codec.Restores p :=
  record_restores (by decide) (by simp) rfl

@[simp] theorem MultiSendEntry.restores (p : MultiSendEntry) : MultiSendEntry.codec.Restores p :=
  record_restores (by decide) (by simp) rfl

@[simp] theorem MsgMultiSend.restores (p : MsgMultiSend) : MsgMultiSend.codec.Restores p :=
  record_restores (by decide) (by simp) rfl

@[simp] theorem MsgDelegate.restores (p : MsgDelegate) : MsgDelegate.codec.Restores p :=
  record_restores (by decide) (by simp) rfl

theorem MsgUndelegate.restores {p : MsgUndelegate} (h : ∀ t ∈ p.completionTime, t.Valid) :
    MsgUndelegate.codec.Restores p :=
  record_restores (by decide) (by simp [Time.option_restores h]) rfl

theorem MsgBeginRedelegate.restores {p : MsgBeginRedelegate} (h : ∀ t ∈ p.completionTime, t.Valid) :
    MsgBeginRedelegate.codec.Restores p :=
  record_restores (by decide) (by simp [Time.option_restores h]) rfl

@[simp] theorem ValidatorDescription.restores (p : ValidatorDescription) :
    ValidatorDescription.codec.Restores p :=
  record_restores (by decide) (by simp) rfl

@[simp] theorem CommissionRates.restores (p : CommissionRates) : CommissionRates.codec.Restores p :=
  record_restores (by decide) (by simp) rfl

@[simp] theorem MsgCreateValidator.restores (p : MsgCreateValidator) :
    MsgCreateValidator.codec.Restores p :=
  record_restores (by decide) (by simp) rfl

@[simp] theorem MsgEditValidator.restores (p : MsgEditValidator) :
    MsgEditValidator.codec.Restores p :=
  record_restores (by decide) (by simp) rfl

@[simp] theorem MsgWithdrawDelegatorReward.restores (p : MsgWithdrawDelegatorReward) :
    MsgWithdrawDelegatorReward.codec.Restores p :=
  record_restores (by decide) (by simp) rfl

@[simp] theorem MsgWithdrawValidatorCommission.restores (p : MsgWithdrawValidatorCommission) :
    MsgWithdrawValidatorCommission.codec.Restores p :=
  record_restores (by decide) (by simp) rfl

@[simp] theorem MsgSetWithdrawAddress.restores (p : MsgSetWithdrawAddress) :
    MsgSetWithdrawAddress.codec.Restores p :=
  record_restores (by decide) (by simp) rfl

@[simp] theorem MsgSubmitProposal.restores (p : MsgSubmitProposal) :
    MsgSubmitProposal.codec.Restores p :=
  record_restores (by decide) (by simp) rfl

@[simp] theorem MsgSubmitProposalV1.restores (p : MsgSubmitProposalV1) :
    MsgSubmitProposalV1.codec.Restores p :=
  record_restores (by decide) (by simp) rfl

@[simp] theorem MsgVote.restores (p : MsgVote) : MsgVote.codec.Restores p :=
  record_restores (by decide) (by simp) rfl

@[simp] theorem MsgDeposit.restores (p : MsgDeposit) : MsgDeposit.codec.Restores p :=
  record_restores (by decide) (by simp) rfl

@[simp] theorem MsgUnjail.restores (p : MsgUnjail) : MsgUnjail.codec.Restores p :=
  record_restores (by decide) (by simp) rfl

def MsgParams.times : MsgParams → List Time
  | undelegate p => p.completionTime.toList
  | beginRedelegate p => p.completionTime.toList
  | _ => []

theorem MsgParams.restores {p : MsgParams} (h : ∀ t ∈ p.times, t.Valid) :
    MsgParams.codec.Restores p := by
  have hne : "msg" ≠ "params" := by decide
  cases p with
  | undelegate p =>
    have hp := MsgUndelegate.restores (p := p) (by simpa [times] using h)
    exact union_restores hne rfl (Case.of_restores hp _ _)
  | beginRedelegate p =>
    have hp := MsgBeginRedelegate.restores (p := p) (by simpa [times] using h)
    exact union_restores hne rfl (Case.of_restores hp _ _)
  | send p => exact union_restores hne rfl (Case.of_restores p.restores _ _)
  | multiSend p => exact union_restores hne rfl (Case.of_restores p.restores _ _)
  | delegate p => exact union_restores hne rfl (Case.of_restores p.restores _ _)
  | withdrawDelegatorReward p => exact union_restores hne rfl (Case.of_restores p.restores _ _)
  | withdrawValidatorCommission p => exact union_restores hne rfl (Case.of_restores p.restores _ _)
  | setWithdrawAddress p => exact union_restores hne rfl (Case.of_restores p.restores _ _)
  | createValidator p => exact union_restores hne rfl (Case.of_restores p.restores _ _)
  | editValidator p => exact union_restores hne rfl (Case.of_restores p.restores _ _)
  | submitProposal p => exact union_restores hne rfl (Case.of_restores p.restores _ _)
  | submitProposalV1 p => exact union_restores hne rfl (Case.of_restores p.restores _ _)
  | vote p => exact union_restores hne rfl (Case.of_restores p.restores _ _)
  | deposit p => exact union_restores hne rfl (Case.of_restores p.restores _ _)
  | unjail p => exact union_restores hne rfl (Case.of_restores p.restores _ _)

/-! ## Events -/

theorem CommitSignature.restores {p : CommitSignature} (h : ∀ t ∈ p.timestamp, t.Valid) :
    CommitSignature.codec.Restores p :=
  record_restores (by decide) (by simp [Time.option_restores h]) rfl

theorem GenesisCreated.restores {p : GenesisCreated} (h : p.genesisTime.Valid) :
    GenesisCreated.codec.Restores p :=
  record_restores (by decide) (by simp [Time.restores h]) rfl

@[simp] theorem GenesisValidatorCreated.restores (p : GenesisValidatorCreated) :
    GenesisValidatorCreated.codec.Restores p :=
  record_restores (by decide) (by simp) rfl

@[simp] theorem GenesisAccountBalanceCreated.restores (p : GenesisAccountBalanceCreated) :
    GenesisAccountBalanceCreated.codec.Restores p :=
  record_restores (by decide) (by simp) rfl

theorem BlockCreated.restores {p : BlockCreated} (h : p.time.Valid)
    (hs : ∀ s ∈ p.signatures, ∀ t ∈ s.timestamp, t.Valid) : BlockCreated.codec.Restores p := by
  have hsignatures : CommitSignature.codec.list.Restores p.signatures :=
    Json.Codec.list_restores fun s hm => CommitSignature.restores (hs s hm)
  exact record_restores (by decide) (by simp [Time.restores h, hsignatures]) rfl

theorem TransactionCreated.restores {p : TransactionCreated} (h : p.time.Valid) :
    TransactionCreated.codec.Restores p :=
  record_restores (by decide) (by simp [Time.restores h]) rfl

theorem MsgEvent.restores {p : MsgEvent} (h : ∀ t ∈ p.params.times, t.Valid) :
    MsgEvent.codec.Restores p :=
  record_restores (by decide) (by simp [MsgParams.restores h]) rfl

@[simp] theorem MintMinted.restores (p : MintMinted) : MintMinted.codec.Restores p :=
  record_restores (by decide) (by simp) rfl

@[simp] theorem BlockReward.restores (p : BlockReward) : BlockReward.codec.Restores p :=
  record_restores (by decide) (by simp) rfl

@[simp] theorem ValidatorSlashed.restores (p : ValidatorSlashed) :
    ValidatorSlashed.codec.Restores p :=
  record_restores (by decide) (by simp) rfl

@[simp] theorem UnbondingCompleted.restores (p : UnbondingCompleted) :
    UnbondingCompleted.codec.Restores p :=
  record_restores (by decide) (by simp) rfl

@[simp] theorem PowerChanged.restores (p : PowerChanged) : PowerChanged.codec.Restores p :=
  record_restores (by decide) (by simp) rfl

/-! ## All payloads -/

def Payload.times : Payload → List Time
  | genesisCreated p => [p.genesisTime]
  | blockCreated p => p.time :: p.signatures.filterMap CommitSignature.timestamp
  | transactionCreated p => [p.time]
  | transactionFailed p => [p.time]
  | msg p => p.params.times
  | _ => []

/-- **A payload is restored from its form.** -/
theorem Payload.restores {p : Payload} (h : ∀ t ∈ p.times, t.Valid) : Payload.codec.Restores p := by
  have hne : "type" ≠ "data" := by decide
  cases p with
  | genesisCreated p =>
    have hp := GenesisCreated.restores (p := p) (by simpa [times] using h)
    exact union_restores hne rfl (Case.of_restores hp _ _)
  | blockCreated p =>
    simp only [times, List.forall_mem_cons, List.mem_filterMap] at h
    have hp := BlockCreated.restores (p := p) h.1 fun s hs t ht => h.2 t ⟨s, hs, ht⟩
    exact union_restores hne rfl (Case.of_restores hp _ _)
  | transactionCreated p =>
    have hp := TransactionCreated.restores (p := p) (by simpa [times] using h)
    exact union_restores hne rfl (Case.of_restores hp _ _)
  | transactionFailed p =>
    have hp := TransactionCreated.restores (p := p) (by simpa [times] using h)
    exact union_restores hne rfl (Case.of_restores hp _ _)
  | msg p => exact union_restores hne rfl (Case.of_restores (MsgEvent.restores h) _ _)
  | genesisValidatorCreated p => exact union_restores hne rfl (Case.of_restores p.restores _ _)
  | genesisAccountBalanceCreated p => exact union_restores hne rfl (Case.of_restores p.restores _ _)
  | mintMinted p => exact union_restores hne rfl (Case.of_restores p.restores _ _)
  | blockProposerRewarded p => exact union_restores hne rfl (Case.of_restores p.restores _ _)
  | blockRewarded p => exact union_restores hne rfl (Case.of_restores p.restores _ _)
  | blockCommissioned p => exact union_restores hne rfl (Case.of_restores p.restores _ _)
  | validatorSlashed p => exact union_restores hne rfl (Case.of_restores p.restores _ _)
  | unbondingCompleted p => exact union_restores hne rfl (Case.of_restores p.restores _ _)
  | powerChanged p => exact union_restores hne rfl (Case.of_restores p.restores _ _)

end ChainIndexer
