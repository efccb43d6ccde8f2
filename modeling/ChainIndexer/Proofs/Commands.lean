import ChainIndexer.Proofs.Except
import ChainIndexer.Sync.Fetch
import ChainIndexer.Sync.Manager

/-!
# Commands and their events

All commands of a block are of its height (`Block.height_of_mem_commands`), and all commands of a
genesis document of height 0 (`Genesis.height_of_mem_commands`). A command's event has the height of
the command (`Command.height_of_execute`), so what a height hands over is of that height.
-/

namespace ChainIndexer

/-! ## The commands of a block -/

namespace Block

variable {config : ParserConfig} {registry : Registry} {height : Height}

theorem height_of_mem_eventCommands {events : List AbciEvent} {commands : List Command}
    (h : eventCommands config height events = .ok commands) : ∀ c ∈ commands, c.height = height := by
  induction events generalizing commands with
  | nil =>
    obtain rfl := Except.ok.inj h
    simp
  | cons e events ih =>
    rw [eventCommands] at h
    split at h
    · exact ih h
    · obtain ⟨plain, -, h⟩ := bind_eq_ok_iff.1 h
      obtain ⟨rest, hrest, h⟩ := bind_eq_ok_iff.1 h
      obtain rfl := Except.ok.inj h
      exact List.forall_mem_cons.2 ⟨rfl, ih hrest⟩

theorem height_of_mem_messageCommands {tx : Tx} {position index : Nat} {msgs : List Json.Value}
    {commands : List Command}
    (h : messageCommands registry config height tx position index msgs = .ok commands) :
    ∀ c ∈ commands, c.height = height := by
  induction msgs generalizing index commands with
  | nil =>
    obtain rfl := Except.ok.inj h
    simp
  | cons msg msgs ih =>
    simp only [messageCommands] at h
    split at h
    · split at h
      · cases h
      · exact ih h
    · obtain ⟨rest, hrest, h⟩ := bind_eq_ok_iff.1 h
      obtain rfl := Except.ok.inj h
      exact List.forall_mem_cons.2 ⟨rfl, ih hrest⟩

theorem height_of_mem_txCommands {tx : Tx} {raw : RawTx} {position : Nat} {commands : List Command}
    (h : txCommands registry config height position tx raw = .ok commands) :
    ∀ c ∈ commands, c.height = height := by
  simp only [txCommands] at h
  split at h
  · cases h
  split at h
  · cases h
  split at h
  · obtain ⟨messages, hmessages, h⟩ := bind_eq_ok_iff.1 h
    obtain rfl := Except.ok.inj h
    exact List.forall_mem_cons.2 ⟨rfl, height_of_mem_messageCommands hmessages⟩
  · obtain rfl := Except.ok.inj h
    exact List.forall_mem_cons.2 ⟨rfl, by simp⟩

theorem height_of_mem_allTxCommands {txs : List (Tx × RawTx)} {position : Nat}
    {commands : List Command}
    (h : allTxCommands registry config height position txs = .ok commands) :
    ∀ c ∈ commands, c.height = height := by
  induction txs generalizing position commands with
  | nil =>
    obtain rfl := Except.ok.inj h
    simp
  | cons p txs ih =>
    rw [allTxCommands] at h
    obtain ⟨first, hfirst, h⟩ := bind_eq_ok_iff.1 h
    obtain ⟨others, hothers, h⟩ := bind_eq_ok_iff.1 h
    obtain rfl := Except.ok.inj h
    exact List.forall_mem_append.2 ⟨height_of_mem_txCommands hfirst, ih hothers⟩

theorem height_of_mem_commands {block : Block} {results : BlockResults} {txs : List Tx}
    {commands : List Command} (h : block.commands registry config results txs = .ok commands) :
    ∀ c ∈ commands, c.height = block.height := by
  simp only [Block.commands] at h
  split at h
  · cases h
  split at h
  · cases h
  obtain ⟨begins, hbegins, h⟩ := bind_eq_ok_iff.1 h
  obtain ⟨inner, hinner, h⟩ := bind_eq_ok_iff.1 h
  obtain ⟨ends, hends, h⟩ := bind_eq_ok_iff.1 h
  obtain ⟨finals, hfinals, h⟩ := bind_eq_ok_iff.1 h
  obtain rfl := Except.ok.inj h
  simp only [List.forall_mem_append, List.forall_mem_cons, List.forall_mem_map]
  exact ⟨⟨⟨⟨⟨rfl, height_of_mem_eventCommands hbegins⟩, height_of_mem_allTxCommands hinner⟩,
    height_of_mem_eventCommands hends⟩, height_of_mem_eventCommands hfinals⟩, fun _ _ => rfl⟩

end Block

/-! ## The commands of a genesis document -/

namespace Genesis

variable {config : ParserConfig}

theorem height_of_mem_stakingCommands {vs : List StakingValidator}
    {r : List Command × List String} (h : stakingCommands config vs = .ok r) :
    ∀ c ∈ r.1, c.height = 0 := by
  induction vs generalizing r with
  | nil =>
    obtain rfl := Except.ok.inj h
    simp
  | cons v vs ih =>
    rw [stakingCommands] at h
    obtain ⟨accepted, -, h⟩ := bind_eq_ok_iff.1 h
    obtain ⟨⟨commands, operators⟩, hrest, h⟩ := bind_eq_ok_iff.1 h
    dsimp only at h
    split at h
    · obtain rfl := Except.ok.inj h
      exact List.forall_mem_cons.2 ⟨rfl, ih hrest⟩
    · obtain rfl := Except.ok.inj h
      exact ih hrest

theorem height_of_mem_genTxCommands {seen : List String} {msgs : List Json.Value}
    {commands : List Command} (h : genTxCommands config seen msgs = .ok commands) :
    ∀ c ∈ commands, c.height = 0 := by
  induction msgs generalizing seen commands with
  | nil =>
    obtain rfl := Except.ok.inj h
    simp
  | cons msg msgs ih =>
    rw [genTxCommands] at h
    split at h
    · exact ih h
    · obtain ⟨accepted, -, h⟩ := bind_eq_ok_iff.1 h
      split at h
      · exact ih h
      · split at h
        · exact ih h
        · obtain ⟨rest, hrest, h⟩ := bind_eq_ok_iff.1 h
          obtain rfl := Except.ok.inj h
          exact List.forall_mem_cons.2 ⟨rfl, ih hrest⟩

theorem height_of_mem_balanceCommands {bs : List GenesisAccountBalanceCreated}
    {commands : List Command} (h : balanceCommands config bs = .ok commands) :
    ∀ c ∈ commands, c.height = 0 := by
  induction bs generalizing commands with
  | nil =>
    obtain rfl := Except.ok.inj h
    simp
  | cons b bs ih =>
    rw [balanceCommands] at h
    obtain ⟨accepted, -, h⟩ := bind_eq_ok_iff.1 h
    obtain ⟨rest, hrest, h⟩ := bind_eq_ok_iff.1 h
    split at h
    · obtain rfl := Except.ok.inj h
      exact List.forall_mem_cons.2 ⟨rfl, ih hrest⟩
    · obtain rfl := Except.ok.inj h
      exact ih hrest

theorem height_of_mem_commands {g : Genesis} {commands : List Command}
    (h : g.commands config = .ok commands) : ∀ c ∈ commands, c.height = 0 := by
  obtain ⟨validators, -, h⟩ := bind_eq_ok_iff.1 h
  obtain ⟨staking, hstaking, h⟩ := bind_eq_ok_iff.1 h
  obtain ⟨genTxs, -, h⟩ := bind_eq_ok_iff.1 h
  obtain ⟨created, hcreated, h⟩ := bind_eq_ok_iff.1 h
  obtain ⟨balances, -, h⟩ := bind_eq_ok_iff.1 h
  obtain ⟨held, hheld, h⟩ := bind_eq_ok_iff.1 h
  obtain rfl := Except.ok.inj h
  simp only [List.forall_mem_append, List.forall_mem_cons]
  exact ⟨⟨⟨rfl, height_of_mem_stakingCommands hstaking⟩, height_of_mem_genTxCommands hcreated⟩,
    height_of_mem_balanceCommands hheld⟩

end Genesis

/-! ## Events -/

namespace Command

theorem height_of_execute {c : Command} {e : Event} (h : c.execute = .ok e) :
    e.height = c.height := by
  unfold execute at h
  split at h
  · obtain rfl := Except.ok.inj h
    rfl
  · cases h

theorem executeAll_eq_ok_iff (height : Height) {commands : List Command} {events : List Event} :
    executeAll height commands = .ok events
      ↔ List.Forall₂ (fun c e => c.execute = .ok e) commands events := by
  rw [executeAll, mapM_eq_ok_iff]
  simp only [mapError_eq_ok_iff]

theorem executeAll_eq_error_iff {height : Height} {commands : List Command} {e : SyncError} :
    executeAll height commands = .error e ↔
      ∃ before c after fault, commands = before ++ c :: after ∧
        (∀ b ∈ before, ∃ event, b.execute = .ok event) ∧ c.payload = .error fault ∧
        e = .command height c.name c.version fault.message := by
  have hfault : ∀ c : Command, (c.execute.mapError fun e => e.toSync height) = .error e ↔
      ∃ fault, c.payload = .error fault ∧ e = .command height c.name c.version fault.message := by
    intro c
    unfold execute
    cases c.payload with
    | ok payload => simp [Except.mapError]
    | error fault => simp [Except.mapError, CommandError.toSync, eq_comm]
  rw [executeAll, mapM_eq_error_iff]
  simp only [mapError_eq_ok_iff, hfault]
  constructor
  · rintro ⟨before, c, after, hs, hbefore, fault, hf, he⟩
    exact ⟨before, c, after, fault, hs, hbefore, hf, he⟩
  · rintro ⟨before, c, after, fault, hs, hbefore, hf, he⟩
    exact ⟨before, c, after, hs, hbefore, fault, hf, he⟩

end Command

end ChainIndexer
