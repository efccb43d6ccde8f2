import ChainIndexer.Proofs.Commands

/-!
# What is told of a message

A message is read as the parameters of its kind, what it names is checked, and what only the
execution log knows is filled in. `MsgParams.mentioned` lists what each kind names, and
`Mentioned.Lawful` says what the chain asks of it.

* `MsgCommand.decode_eq`: decoding is reading, checking and completing.
* `Command.execute_lawful`: the event of a message has the parameters of its kind, and all that
  they name is as the chain asks.
-/

namespace ChainIndexer

open Json (Codec)

/-! ## What messages name -/

/-- What a message names: accounts, validators, and coins that are put at stake. -/
structure Mentioned where
  accounts : List String := []
  validators : List String := []
  stakes : List Coin := []

/-- Accounts and validators go by the prefixes of the chain, and coins at stake are of its staking
denomination, if it has one. -/
structure Mentioned.Lawful (context : MsgContext) (n : Mentioned) : Prop where
  accounts : ∀ a ∈ n.accounts, context.prefixes.checkAccount a = .ok ()
  validators : ∀ v ∈ n.validators, context.prefixes.checkValidator v = .ok ()
  stakes : ∀ c ∈ n.stakes, context.stakingDenom = "" ∨ c.denom = context.stakingDenom

namespace MsgParams

/-- What the parameters of a message name. -/
def mentioned : MsgParams → Mentioned
  | send p => { accounts := [p.fromAddress, p.toAddress] }
  | multiSend p => { accounts := (p.inputs ++ p.outputs).map MultiSendEntry.address }
  | delegate p =>
    { accounts := [p.delegatorAddress], validators := [p.validatorAddress], stakes := [p.amount] }
  | undelegate p =>
    { accounts := [p.delegatorAddress], validators := [p.validatorAddress], stakes := [p.amount] }
  | beginRedelegate p =>
    { accounts := [p.delegatorAddress]
      validators := [p.validatorSrcAddress, p.validatorDstAddress]
      stakes := [p.amount] }
  | withdrawDelegatorReward p =>
    { accounts := [p.delegatorAddress], validators := [p.validatorAddress] }
  | withdrawValidatorCommission p => { validators := [p.validatorAddress] }
  | setWithdrawAddress p => { accounts := [p.delegatorAddress, p.withdrawAddress] }
  | createValidator p =>
    { accounts := if p.delegatorAddress.isEmpty then [] else [p.delegatorAddress]
      validators := [p.validatorAddress]
      stakes := [p.value] }
  | editValidator p => { validators := [p.validatorAddress] }
  | submitProposal p => { accounts := [p.proposer] }
  | submitProposalV1 p => { accounts := [p.proposer] }
  | vote p => { accounts := [p.voter] }
  | deposit p => { accounts := [p.depositor] }
  | unjail p => { validators := [p.validatorAddr] }

/-- The parameters are those of a kind in a version. -/
def Belongs (kind : MsgKind) (version : UInt32) : MsgParams → Prop
  | send _ => kind = .send
  | multiSend _ => kind = .multiSend
  | delegate _ => kind = .delegate
  | undelegate _ => kind = .undelegate
  | beginRedelegate _ => kind = .beginRedelegate
  | withdrawDelegatorReward _ => kind = .withdrawDelegatorReward
  | withdrawValidatorCommission _ => kind = .withdrawValidatorCommission
  | setWithdrawAddress _ => kind = .setWithdrawAddress
  | createValidator _ => kind = .createValidator
  | editValidator _ => kind = .editValidator
  | submitProposal _ => kind = .submitProposal ∧ version < 2
  | submitProposalV1 _ => kind = .submitProposal ∧ 2 ≤ version
  | vote _ => kind = .vote
  | deposit _ => kind = .deposit
  | unjail _ => kind = .unjail

end MsgParams

namespace MsgCommand

variable {m : MsgCommand}

/-- The message as the parameters of its kind. -/
def read (m : MsgCommand) : Except CommandFault MsgParams :=
  match m.kind with
  | .send => (m.params MsgSend.codec).map .send
  | .multiSend => (m.params MsgMultiSend.codec).map .multiSend
  | .delegate => (m.params MsgDelegate.codec).map .delegate
  | .undelegate => (m.params MsgUndelegate.codec).map .undelegate
  | .beginRedelegate => (m.params MsgBeginRedelegate.codec).map .beginRedelegate
  | .withdrawDelegatorReward =>
    (m.params MsgWithdrawDelegatorReward.codec).map .withdrawDelegatorReward
  | .withdrawValidatorCommission =>
    (m.params MsgWithdrawValidatorCommission.codec).map .withdrawValidatorCommission
  | .setWithdrawAddress => (m.params MsgSetWithdrawAddress.codec).map .setWithdrawAddress
  | .createValidator => (m.params MsgCreateValidator.codec).map .createValidator
  | .editValidator => (m.params MsgEditValidator.codec).map .editValidator
  | .submitProposal =>
    if 2 ≤ m.version then (m.params MsgSubmitProposalV1.codec).map .submitProposalV1
    else (m.params MsgSubmitProposal.codec).map .submitProposal
  | .vote => (m.params MsgVote.codec).map .vote
  | .deposit => (m.params MsgDeposit.codec).map .deposit
  | .unjail => (m.params MsgUnjail.codec).map .unjail
  | .unknown => .error .unknownMessage

/-- Checks all that is named: accounts, then validators, then coins. -/
def check (m : MsgCommand) (n : Mentioned) : Except CommandFault Unit := do
  forM n.accounts m.account
  forM n.validators m.validator
  forM n.stakes m.stakingCoin

/-- Fills in what only the execution log knows. -/
def complete (m : MsgCommand) : MsgParams → Except CommandFault MsgParams
  | .delegate p => do
    let autoClaimedRewards ← m.claimedRewards
    return .delegate { p with autoClaimedRewards }
  | .undelegate p => do
    let completionTime ← m.completionTime "unbond"
    let autoClaimedRewards ← m.claimedRewards
    return .undelegate { p with completionTime, autoClaimedRewards }
  | .beginRedelegate p => do
    let completionTime ← m.completionTime "redelegate"
    let autoClaimedRewards ← m.claimedRewards
    return .beginRedelegate { p with completionTime, autoClaimedRewards }
  | .withdrawDelegatorReward p => do
    let amount ← m.claimedRewards
    return .withdrawDelegatorReward { p with amount }
  | .withdrawValidatorCommission p => do
    let amount ← m.amounts "withdraw_commission"
    return .withdrawValidatorCommission { p with amount }
  | .submitProposal p => do
    let proposalId ← m.proposalId
    return .submitProposal { p with proposalId }
  | .submitProposalV1 p => do
    let proposalId ← m.proposalId
    return .submitProposalV1 { p with proposalId }
  | p => return p

/-- The number of a proposal is read before anything else. -/
def beforehand (m : MsgCommand) : Except CommandFault Unit :=
  match m.kind with
  | .submitProposal => m.proposalId.map fun _ => ()
  | _ => .ok ()

def finish (m : MsgCommand) (p : MsgParams) : Except CommandFault MsgParams := do
  m.check p.mentioned
  m.complete p

theorem params_bind {α : Type} {c : Codec α} {wrap : α → MsgParams}
    {rest : α → Except CommandFault MsgParams} (h : ∀ p, rest p = m.finish (wrap p)) :
    (m.params c >>= rest) = (m.params c).map wrap >>= m.finish := by
  cases m.params c with
  | error fault => rfl
  | ok p => exact h p

theorem decode_eq (m : MsgCommand) :
    m.decode = m.beforehand >>= fun _ => m.read >>= m.finish := by
  unfold decode read beforehand
  cases m.kind with
  | multiSend =>
    refine params_bind fun p => ?_
    simp only [finish, check, MsgParams.mentioned, complete, List.forM_eq_forM, List.forM_map,
      List.forM_nil, bind_assoc, pure_bind]
  | createValidator =>
    refine params_bind fun p => ?_
    cases hd : p.delegatorAddress.isEmpty <;>
      simp [finish, check, MsgParams.mentioned, complete, hd]
  | submitProposal =>
    dsimp only
    cases hid : m.proposalId with
    | error fault => rfl
    | ok id =>
      -- the number is there, so completing finds the same one
      by_cases hv : 2 ≤ m.version
      · simp only [if_pos hv]
        refine params_bind fun p => ?_
        simp only [finish, check, MsgParams.mentioned, complete, hid, List.forM_cons, List.forM_nil,
          bind_assoc, pure_bind]
        rfl
      · simp only [if_neg hv]
        refine params_bind fun p => ?_
        simp only [finish, check, MsgParams.mentioned, complete, hid, List.forM_cons, List.forM_nil,
          bind_assoc, pure_bind]
        rfl
  | unknown => rfl
  | _ =>
    refine params_bind fun p => ?_
    simp only [finish, check, MsgParams.mentioned, complete, List.forM_cons, List.forM_nil,
      bind_assoc, pure_bind]

/-! ## Checks -/

theorem stakingCoin_eq_ok_iff {coin : Coin} : m.stakingCoin coin = .ok () ↔
    m.context.stakingDenom = "" ∨ coin.denom = m.context.stakingDenom := by
  rw [stakingCoin, ← String.isEmpty_iff, ← beq_iff_eq (a := coin.denom), ← Bool.or_eq_true]
  cases m.context.stakingDenom.isEmpty || coin.denom == m.context.stakingDenom <;> simp

theorem check_eq_ok_iff {n : Mentioned} {u : Unit} : m.check n = .ok u ↔ n.Lawful m.context := by
  simp only [check, bind_eq_ok_iff, forM_eq_ok_iff, account, validator, mapError_eq_ok_iff,
    stakingCoin_eq_ok_iff]
  constructor
  · rintro ⟨⟨⟩, haccounts, ⟨⟩, hvalidators, hstakes⟩
    exact ⟨haccounts, hvalidators, hstakes⟩
  · rintro ⟨haccounts, hvalidators, hstakes⟩
    exact ⟨(), haccounts, (), hvalidators, hstakes⟩

/-! ## Decoding -/

theorem read_belongs {p : MsgParams} (h : m.read = .ok p) : p.Belongs m.kind m.version := by
  unfold read at h
  cases hk : m.kind with
  | submitProposal =>
    rw [hk] at h
    dsimp only at h
    split at h
    · rename_i hv
      obtain ⟨q, -, rfl⟩ := map_eq_ok_iff.1 h
      exact ⟨rfl, hv⟩
    · rename_i hv
      obtain ⟨q, -, rfl⟩ := map_eq_ok_iff.1 h
      exact ⟨rfl, UInt32.not_le.1 hv⟩
  | unknown =>
    rw [hk] at h
    cases h
  | _ =>
    rw [hk] at h
    obtain ⟨q, -, rfl⟩ := map_eq_ok_iff.1 h
    rfl

/-- What comes from the execution log changes neither the kind nor what is named. -/
theorem complete_same {p q : MsgParams} (h : m.complete p = .ok q) (kind : MsgKind)
    (version : UInt32) :
    (q.Belongs kind version ↔ p.Belongs kind version) ∧ q.mentioned = p.mentioned := by
  cases p with
  | delegate p | withdrawDelegatorReward p | withdrawValidatorCommission p | submitProposal p
  | submitProposalV1 p =>
    obtain ⟨_, -, h⟩ := bind_eq_ok_iff.1 h
    obtain rfl := Except.ok.inj h
    exact ⟨.rfl, rfl⟩
  | undelegate p | beginRedelegate p =>
    obtain ⟨_, -, h⟩ := bind_eq_ok_iff.1 h
    obtain ⟨_, -, h⟩ := bind_eq_ok_iff.1 h
    obtain rfl := Except.ok.inj h
    exact ⟨.rfl, rfl⟩
  | _ =>
    obtain rfl := Except.ok.inj h
    exact ⟨.rfl, rfl⟩

theorem decode_eq_ok_iff {q : MsgParams} : m.decode = .ok q ↔ m.beforehand = .ok () ∧
    ∃ p, m.read = .ok p ∧ p.mentioned.Lawful m.context ∧ m.complete p = .ok q := by
  simp only [decode_eq, finish, bind_eq_ok_iff, check_eq_ok_iff]
  constructor
  · rintro ⟨⟨⟩, hbefore, p, hread, ⟨⟩, hlawful, hq⟩
    exact ⟨hbefore, p, hread, hlawful, hq⟩
  · rintro ⟨hbefore, p, hread, hlawful, hq⟩
    exact ⟨(), hbefore, p, hread, (), hlawful, hq⟩

theorem lawful_of_decode {q : MsgParams} (h : m.decode = .ok q) :
    q.Belongs m.kind m.version ∧ q.mentioned.Lawful m.context := by
  obtain ⟨-, p, hread, hlawful, hq⟩ := decode_eq_ok_iff.1 h
  obtain ⟨hbelongs, hmentioned⟩ := complete_same hq m.kind m.version
  rw [hbelongs, hmentioned]
  exact ⟨read_belongs hread, hlawful⟩

end MsgCommand

/-! ## Events -/

theorem MsgParams.commandName_of_belongs {p : MsgParams} {kind : MsgKind} {version : UInt32}
    (h : p.Belongs kind version) : kind.commandName = "Create" ++ p.name := by
  cases p with
  | submitProposal p | submitProposalV1 p =>
    obtain ⟨rfl, -⟩ := h
    rfl
  | _ =>
    obtain rfl := h
    rfl

namespace Command

theorem execute_msg_eq_ok_iff {m : MsgCommand} {e : Event} :
    (Command.msg m).execute = .ok e ↔
      ∃ q, m.decode = .ok q ∧ e = .of m.height m.version (.msg ⟨m.base, q⟩) := by
  rw [execute, payload, MsgCommand.payload]
  cases m.decode <;> simp [Except.map, height, version, eq_comm]

theorem execute_msg_eq_error_iff {m : MsgCommand} {e : CommandError} :
    (Command.msg m).execute = .error e ↔
      ∃ fault, m.decode = .error fault ∧ e = ⟨m.kind.commandName, m.version, fault⟩ := by
  rw [execute, payload, MsgCommand.payload]
  cases m.decode <;> simp [Except.map, name, version, eq_comm]

/-- **The event of a message.** An event has the height, the version and the place of its command, a
name made of the command's, the parameters that belong to the kind, and names only what the chain
allows. A message of an unknown kind has no event, nor has one that names anything else, and the
error says which command it was. -/
theorem execute_lawful (m : MsgCommand) :
    (∀ e, (Command.msg m).execute = .ok e → e.height = m.height ∧ e.version = m.version ∧
        (∃ stem, m.kind.commandName = "Create" ++ stem ∧ e.name = stem ++ "Created") ∧
        ∃ params, e.payload = .msg ⟨m.base, params⟩ ∧ params.Belongs m.kind m.version ∧
          params.mentioned.Lawful m.context) ∧
      ((m.kind = .unknown ∨ ∃ params, m.read = .ok params ∧ ¬ params.mentioned.Lawful m.context) →
        ∃ fault, (Command.msg m).execute = .error ⟨m.kind.commandName, m.version, fault⟩) ∧
      ∀ error, (Command.msg m).execute = .error error →
        error.name = m.kind.commandName ∧ error.version = m.version := by
  refine ⟨fun e he => ?_, fun hbad => ?_, fun error he => ?_⟩
  · obtain ⟨q, hq, rfl⟩ := execute_msg_eq_ok_iff.1 he
    obtain ⟨hbelongs, hlawful⟩ := MsgCommand.lawful_of_decode hq
    exact ⟨rfl, rfl, ⟨q.name, q.commandName_of_belongs hbelongs, rfl⟩, q, rfl, hbelongs, hlawful⟩
  · cases hd : m.decode with
    | error fault => exact ⟨fault, execute_msg_eq_error_iff.2 ⟨fault, hd, rfl⟩⟩
    | ok q =>
      obtain ⟨-, p, hread, hlawful, -⟩ := MsgCommand.decode_eq_ok_iff.1 hd
      rcases hbad with hunknown | ⟨p', hread', hunlawful⟩
      · rw [MsgCommand.read, hunknown] at hread
        cases hread
      · obtain rfl := Except.ok.inj (hread.symm.trans hread')
        exact absurd hlawful hunlawful
  · obtain ⟨fault, -, rfl⟩ := execute_msg_eq_error_iff.1 he
    exact ⟨rfl, rfl⟩

/-- A delegation of a coin on a chain that stakes another one or the same. -/
def delegation (denom : String) : MsgCommand where
  height := 5
  base := { txHash := "AB", txIndex := 0, msgIndex := 0 }
  kind := .delegate
  version := 1
  msg := .object [("delegator_address", .string "cosmos1aa"),
    ("validator_address", .string "cosmosvaloper1bb"),
    ("amount", .object [("denom", .string denom), ("amount", .string "7")])]
  events := []
  context := { stakingDenom := "uatom" }

/-- Coins of the staking denomination can be delegated and others cannot. -/
theorem delegation_lawful :
    (∃ e, (Command.msg (delegation "uatom")).execute = .ok e ∧ e.height = 5 ∧
        ∃ params, e.payload = .msg ⟨(delegation "uatom").base, params⟩ ∧
          params.Belongs .delegate 1 ∧ params.mentioned.Lawful (delegation "uatom").context) ∧
      ∃ e, (Command.msg (delegation "stake")).execute = .error e ∧ e.name = "CreateMsgDelegate" ∧
        e.version = 1 := by
  obtain ⟨hlawful, -, -⟩ := execute_lawful (delegation "uatom")
  obtain ⟨-, -, hnamed⟩ := execute_lawful (delegation "stake")
  obtain ⟨event, hok⟩ := isOk_eq_true_iff.1
    (by decide +kernel : (Command.msg (delegation "uatom")).execute.isOk = true)
  obtain ⟨error, hfail⟩ := isOk_eq_false_iff.1
    (by decide +kernel : (Command.msg (delegation "stake")).execute.isOk = false)
  obtain ⟨hheight, -, -, hparams⟩ := hlawful event hok
  exact ⟨⟨event, hok, hheight, hparams⟩, error, hfail, hnamed error hfail⟩

end Command

end ChainIndexer
