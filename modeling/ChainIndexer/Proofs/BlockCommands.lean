import ChainIndexer.Proofs.Commands
import ChainIndexer.Sim.Script

/-!
# What is told of a block

`Block.told` lists the commands of a block group by group, each of them straight from its list:
the block, the events before its transactions, the transactions with their messages, the events
after them and the changes of power. `Block.Readable` says which results and transactions are a
block's own, and what the configuration asks of them beyond that.

* `commands_eq_ok_iff`: the commands of a block are those, and are there just where its results and
  transactions are readable.
* `commands_told`: the same, with the height of every command.
-/

namespace ChainIndexer

/-- The transaction that a command tells of. -/
def Command.transaction? : Command → Option Tx
  | .transaction _ tx => some tx
  | _ => none

namespace Block

variable {registry : Registry} {config : ParserConfig} {height : Height}

/-! ## Block-level events -/

/-- An execution event as its command has it: its base64 undone where attributes have base64. -/
def shown (config : ParserConfig) (e : AbciEvent) : AbciEvent :=
  if config.base64Attributes then e.decodeBase64.toOption.getD e else e

def toldEvents (config : ParserConfig) (height : Height) (events : List AbciEvent) :
    List Command :=
  events.filterMap fun e =>
    (BlockEventKind.ofType? e.kind).map fun kind => .blockEvent height kind (shown config e)

/-- Where attributes have base64, that of the events of known types can be undone. -/
def Decodable (config : ParserConfig) (events : List AbciEvent) : Prop :=
  config.base64Attributes = true → ∀ e ∈ events, (BlockEventKind.ofType? e.kind).isSome →
    ∃ plain, e.decodeBase64 = .ok plain

theorem plainEvent_eq_ok_iff {e plain : AbciEvent} :
    plainEvent config height e = .ok plain ↔
      (config.base64Attributes = true → ∃ plain, e.decodeBase64 = .ok plain) ∧
        plain = shown config e := by
  unfold plainEvent shown
  cases config.base64Attributes with
  | false => simp [eq_comm]
  | true =>
    cases e.decodeBase64 with
    | ok decoded => simp [Except.mapError, Except.toOption, eq_comm]
    | error fault => simp [Except.mapError]

theorem decodable_cons {e : AbciEvent} {events : List AbciEvent} :
    Decodable config (e :: events) ↔
      ((BlockEventKind.ofType? e.kind).isSome → config.base64Attributes = true →
        ∃ plain, e.decodeBase64 = .ok plain) ∧ Decodable config events := by
  simp only [Decodable, List.forall_mem_cons, forall_and]
  constructor
  · rintro ⟨h, hs⟩
    exact ⟨fun hk hb => h hb hk, hs⟩
  · rintro ⟨h, hs⟩
    exact ⟨fun hb hk => h hk hb, hs⟩

theorem eventCommands_eq_ok_iff {events : List AbciEvent} {commands : List Command} :
    eventCommands config height events = .ok commands ↔
      Decodable config events ∧ commands = toldEvents config height events := by
  induction events generalizing commands with
  | nil => exact ⟨fun h => ⟨fun _ _ he => absurd he List.not_mem_nil, (Except.ok.inj h).symm⟩,
      fun h => congrArg _ h.2.symm⟩
  | cons e events ih =>
    rw [eventCommands, decodable_cons, toldEvents, List.filterMap_cons]
    cases BlockEventKind.ofType? e.kind with
    | none => simpa [toldEvents] using ih
    | some kind =>
      simp only [bind_eq_ok_iff, plainEvent_eq_ok_iff, ih]
      constructor
      · rintro ⟨plain, ⟨hp, rfl⟩, rest, ⟨hrest, rfl⟩, he⟩
        exact ⟨⟨fun _ => hp, hrest⟩, (Except.ok.inj he).symm⟩
      · rintro ⟨⟨hp, hrest⟩, rfl⟩
        exact ⟨_, ⟨hp rfl, rfl⟩, _, ⟨hrest, rfl⟩, rfl⟩

/-! ## Transactions -/

/-- The command of a message of a known kind; `index` is its place among all messages. -/
def toldMessage (registry : Registry) (config : ParserConfig) (height : Height) (tx : Tx)
    (msg : Json.Value) (index : Nat) : Option Command :=
  let route := registry.resolve (messageType msg) height
  if route.kind = .unknown then none
  else some <| .msg
    { height
      base := { txHash := tx.hash, txIndex := tx.index, msgIndex := UInt64.ofNat index }
      kind := route.kind
      version := route.version
      msg
      events := tx.messageEvents (UInt64.ofNat index)
      context := config.context }

/-- A transaction and, where it succeeded, its messages of known kinds. -/
def toldTx (registry : Registry) (config : ParserConfig) (height : Height) (tx : Tx) :
    List Command :=
  .transaction height tx ::
    if tx.result.code = 0 then
      tx.body.messages.zipIdx.filterMap fun p => toldMessage registry config height tx p.1 p.2
    else []

def Known (registry : Registry) (config : ParserConfig) (height : Height)
    (msgs : List Json.Value) : Prop :=
  config.strictMessages = true →
    ∀ msg ∈ msgs, (registry.resolve (messageType msg) height).kind ≠ .unknown

theorem known_nil : Known registry config height [] := fun _ _ hm => absurd hm List.not_mem_nil

theorem known_cons {msg : Json.Value} {msgs : List Json.Value} :
    Known registry config height (msg :: msgs) ↔
      (config.strictMessages = true → (registry.resolve (messageType msg) height).kind ≠ .unknown) ∧
        Known registry config height msgs := by
  simp only [Known, List.forall_mem_cons, forall_and]

theorem messageCommands_eq_ok_iff {tx : Tx} {position index : Nat} {msgs : List Json.Value}
    {commands : List Command} (hp : tx.index.toNat = position) :
    messageCommands registry config height tx position index msgs = .ok commands ↔
      Known registry config height msgs ∧ commands = (msgs.zipIdx index).filterMap fun p =>
        toldMessage registry config height tx p.1 p.2 := by
  induction msgs generalizing index commands with
  | nil => exact ⟨fun h => ⟨known_nil, (Except.ok.inj h).symm⟩, fun h => congrArg _ h.2.symm⟩
  | cons msg msgs ih =>
    have hindex : UInt64.ofNat position = tx.index := by
      rw [← hp, UInt64.ofNat_toNat]
    rw [messageCommands, known_cons, List.zipIdx_cons, List.filterMap_cons]
    dsimp only
    by_cases hunknown : (registry.resolve (messageType msg) height).kind = .unknown
    · rw [if_pos hunknown, toldMessage, if_pos hunknown]
      cases config.strictMessages with
      | true => simp [hunknown, throw, throwThe, MonadExceptOf.throw]
      | false => simpa using ih
    · rw [if_neg hunknown, toldMessage, if_neg hunknown]
      simp only [bind_eq_ok_iff, ih]
      constructor
      · rintro ⟨rest, ⟨hrest, rfl⟩, he⟩
        rw [← Except.ok.inj he, messageCommand, hindex]
        exact ⟨⟨fun _ => hunknown, hrest⟩, rfl⟩
      · rintro ⟨⟨-, hrest⟩, rfl⟩
        refine ⟨_, ⟨hrest, rfl⟩, ?_⟩
        rw [messageCommand, hindex]
        rfl

/-- The transaction has its place in the block and the digest of the bytes there, in whatever
case. -/
def Own (place : Nat) (tx : Tx) (raw : RawTx) : Prop :=
  tx.index.toNat = place ∧
    tx.hash.toList.map Char.toLower = (Sha256.hex raw.bytes).toList.map Char.toLower

theorem sameIgnoringCase_iff {a b : String} :
    sameIgnoringCase a b = true ↔ a.toList.map Char.toLower = b.toList.map Char.toLower := by
  rw [sameIgnoringCase, beq_iff_eq]

theorem txCommands_eq_ok_iff {tx : Tx} {raw : RawTx} {position : Nat} {commands : List Command} :
    txCommands registry config height position tx raw = .ok commands ↔
      Own position tx raw ∧ (tx.result.code = 0 → Known registry config height tx.body.messages) ∧
        commands = toldTx registry config height tx := by
  simp only [txCommands, refuse_eq_ok_iff, Own, RawTx.hash, sameIgnoringCase_iff, not_not,
    Bool.not_eq_true', Bool.not_eq_false, Tx.isSuccess, beq_iff_eq, toldTx, and_assoc]
  refine and_congr_right fun hindex => and_congr_right fun _ => ?_
  by_cases hcode : tx.result.code = 0
  · rw [if_pos hcode, if_pos hcode]
    simp only [bind_eq_ok_iff, messageCommands_eq_ok_iff hindex]
    constructor
    · rintro ⟨messages, ⟨hknown, rfl⟩, he⟩
      exact ⟨fun _ => hknown, (Except.ok.inj he).symm⟩
    · rintro ⟨hknown, rfl⟩
      exact ⟨_, ⟨hknown hcode, rfl⟩, rfl⟩
  · rw [if_neg hcode, if_neg hcode]
    exact ⟨fun he => ⟨fun h => absurd h hcode, (Except.ok.inj he).symm⟩,
      fun h => congrArg _ h.2.symm⟩

theorem allTxCommands_eq_ok_iff {txs : List (Tx × RawTx)} {position : Nat}
    {commands : List Command} :
    allTxCommands registry config height position txs = .ok commands ↔
      (∀ i p, txs[i]? = some p → Own (position + i) p.1 p.2) ∧
        (∀ p ∈ txs, p.1.result.code = 0 → Known registry config height p.1.body.messages) ∧
        commands = txs.flatMap fun p => toldTx registry config height p.1 := by
  induction txs generalizing position commands with
  | nil =>
    constructor
    · intro h
      exact ⟨fun _ _ hp => (by cases hp), fun _ hp => (by cases hp), (Except.ok.inj h).symm⟩
    · rintro ⟨-, -, rfl⟩
      rfl
  | cons q txs ih =>
    -- the first transaction stands at the position, the others one further each
    have hown : (∀ i p, (q :: txs)[i]? = some p → Own (position + i) p.1 p.2) ↔
        Own position q.1 q.2 ∧ ∀ i p, txs[i]? = some p → Own (position + 1 + i) p.1 p.2 := by
      constructor
      · intro h
        refine ⟨h 0 q rfl, fun i p hp => ?_⟩
        rw [Nat.add_right_comm]
        exact h (i + 1) p hp
      · rintro ⟨hq, h⟩ (_ | i) p hp
        · obtain rfl := Option.some.inj hp
          exact hq
        · have hi := h i p hp
          rwa [Nat.add_right_comm] at hi
    obtain ⟨tx, raw⟩ := q
    rw [allTxCommands, hown, List.forall_mem_cons, List.flatMap_cons]
    simp only [bind_eq_ok_iff, txCommands_eq_ok_iff, ih]
    constructor
    · rintro ⟨first, ⟨hq, hknown, rfl⟩, others, ⟨howns, hknowns, rfl⟩, he⟩
      exact ⟨⟨hq, howns⟩, ⟨hknown, hknowns⟩, (Except.ok.inj he).symm⟩
    · rintro ⟨⟨hq, howns⟩, ⟨hknown, hknowns⟩, rfl⟩
      exact ⟨_, ⟨hq, hknown, rfl⟩, _, ⟨howns, hknowns, rfl⟩, rfl⟩

/-! ## The block -/

/-- All that is told of a block, group by group. -/
def told (registry : Registry) (config : ParserConfig) (block : Block) (results : BlockResults)
    (txs : List Tx) : List Command :=
  .block block ::
    (toldEvents config block.height results.beginBlockEvents
      ++ txs.flatMap (toldTx registry config block.height)
      ++ toldEvents config block.height results.endBlockEvents
      ++ toldEvents config block.height results.finalizeBlockEvents
      ++ results.validatorUpdates.map (Command.changePower block.height))

/-- The results and the transactions are those of the block, and are as the configuration asks. -/
structure Readable (registry : Registry) (config : ParserConfig) (block : Block)
    (results : BlockResults) (txs : List Tx) : Prop where
  height : results.height = block.height
  length : txs.length = block.txs.length
  own : ∀ place tx raw, txs[place]? = some tx → block.txs[place]? = some raw → Own place tx raw
  known : ∀ tx ∈ txs, tx.result.code = 0 → Known registry config block.height tx.body.messages
  decodable : Decodable config results.blockEvents

theorem decodable_append {events events' : List AbciEvent} :
    Decodable config (events ++ events') ↔ Decodable config events ∧ Decodable config events' := by
  simp only [Decodable, List.forall_mem_append, forall_and]

theorem blockTxCommands_eq_ok_iff {block : Block} {txs : List Tx} {commands : List Command}
    (hlength : txs.length = block.txs.length) :
    allTxCommands registry config height 0 (txs.zip block.txs) = .ok commands ↔
      (∀ place tx raw, txs[place]? = some tx → block.txs[place]? = some raw → Own place tx raw) ∧
        (∀ tx ∈ txs, tx.result.code = 0 → Known registry config height tx.body.messages) ∧
        commands = txs.flatMap (toldTx registry config height) := by
  have htxs : (txs.zip block.txs).map Prod.fst = txs := List.map_fst_zip (Nat.le_of_eq hlength)
  have hown : (∀ i p, (txs.zip block.txs)[i]? = some p → Own (0 + i) p.1 p.2) ↔
      ∀ place tx raw, txs[place]? = some tx → block.txs[place]? = some raw → Own place tx raw := by
    simp only [List.getElem?_zip_eq_some, Nat.zero_add]
    exact ⟨fun h place tx raw htx hraw => h place (tx, raw) ⟨htx, hraw⟩,
      fun h i p hp => h i p.1 p.2 hp.1 hp.2⟩
  have hknown : (∀ p ∈ txs.zip block.txs, p.1.result.code = 0 →
        Known registry config height p.1.body.messages) ↔
      ∀ tx ∈ txs, tx.result.code = 0 → Known registry config height tx.body.messages := by
    conv_rhs => rw [← htxs]
    simp only [List.forall_mem_map]
  have htold : (txs.zip block.txs).flatMap (fun p => toldTx registry config height p.1)
      = txs.flatMap (toldTx registry config height) := by
    rw [← List.flatMap_map Prod.fst, htxs]
  rw [allTxCommands_eq_ok_iff, hown, hknown, htold]

/-- The commands of a block are there just where it is readable, and are what is told of it. -/
theorem commands_eq_ok_iff {block : Block} {results : BlockResults} {txs : List Tx}
    {commands : List Command} :
    block.commands registry config results txs = .ok commands ↔
      Readable registry config block results txs ∧
        commands = told registry config block results txs := by
  simp only [Block.commands, refuse_eq_ok_iff, bind_eq_ok_iff, eventCommands_eq_ok_iff, not_not]
  constructor
  · rintro ⟨hheight, hlength, begins, ⟨hbegins, rfl⟩, inner, hinner, ends, ⟨hends, rfl⟩, finals,
      ⟨hfinals, rfl⟩, he⟩
    obtain ⟨hown, hknown, rfl⟩ := (blockTxCommands_eq_ok_iff hlength).1 hinner
    have hdecodable := decodable_append.2 ⟨decodable_append.2 ⟨hbegins, hends⟩, hfinals⟩
    refine ⟨⟨hheight, hlength, hown, hknown, hdecodable⟩, ?_⟩
    rw [← Except.ok.inj he, told]
    simp only [List.cons_append]
  · rintro ⟨⟨hheight, hlength, hown, hknown, hdecodable⟩, rfl⟩
    have hinner := (blockTxCommands_eq_ok_iff hlength).2 ⟨hown, hknown, rfl⟩
    obtain ⟨hrest, hfinals⟩ := decodable_append.1 hdecodable
    obtain ⟨hbegins, hends⟩ := decodable_append.1 hrest
    refine ⟨hheight, hlength, _, ⟨hbegins, rfl⟩, _, hinner, _, ⟨hends, rfl⟩, _, ⟨hfinals, rfl⟩, ?_⟩
    rw [told]
    simp only [List.cons_append]
    rfl

theorem transactions_toldEvents (config : ParserConfig) (height : Height)
    (events : List AbciEvent) :
    (toldEvents config height events).filterMap Command.transaction? = [] := by
  rw [List.filterMap_eq_nil_iff]
  intro c hc
  obtain ⟨e, -, he⟩ := List.mem_filterMap.1 hc
  obtain ⟨kind, -, rfl⟩ := Option.map_eq_some_iff.1 he
  rfl

theorem transactions_toldTx (registry : Registry) (config : ParserConfig) (height : Height)
    (tx : Tx) : (toldTx registry config height tx).filterMap Command.transaction? = [tx] := by
  rw [toldTx, List.filterMap_cons_some (f := Command.transaction?) rfl, List.cons_inj_right,
    List.filterMap_eq_nil_iff]
  intro c hc
  split at hc
  · obtain ⟨p, -, hp⟩ := List.mem_filterMap.1 hc
    unfold toldMessage at hp
    dsimp only at hp
    split at hp
    · cases hp
    · obtain rfl := Option.some.inj hp
      rfl
  · cases hc

/-- The transactions among the commands of a block are those that it was read with, in order. -/
theorem transactions_told (registry : Registry) (config : ParserConfig) (block : Block)
    (results : BlockResults) (txs : List Tx) :
    (told registry config block results txs).filterMap Command.transaction? = txs := by
  have htxs : (txs.flatMap (toldTx registry config block.height)).filterMap Command.transaction?
      = txs := by
    induction txs with
    | nil => rfl
    | cons tx txs ih =>
      rw [List.flatMap_cons, List.filterMap_append, transactions_toldTx, ih, List.singleton_append]
  have hpowers : (results.validatorUpdates.map (Command.changePower block.height)).filterMap
      Command.transaction? = [] := by
    rw [List.filterMap_eq_nil_iff]
    exact List.forall_mem_map.2 fun _ _ => rfl
  rw [told, List.filterMap_cons_none rfl]
  simp only [List.filterMap_append, transactions_toldEvents, htxs, hpowers, List.nil_append,
    List.append_nil]

/-- **What is told of a block.** A block has commands just where the results and the transactions
are its own and are as the configuration asks. They are the block, the known events before its
transactions, each transaction with the messages of known kinds where it succeeded, the known events
after them and the changes of power, all in the order of their lists and all of the block's
height. -/
theorem commands_told (registry : Registry) (config : ParserConfig) (block : Block)
    (results : BlockResults) (txs : List Tx) :
    ((∃ commands, block.commands registry config results txs = .ok commands) ↔
        Readable registry config block results txs) ∧
      ∀ commands, block.commands registry config results txs = .ok commands →
        commands = told registry config block results txs ∧
          ∀ c ∈ commands, c.height = block.height := by
  refine ⟨⟨?_, ?_⟩, ?_⟩
  · rintro ⟨commands, h⟩
    exact (commands_eq_ok_iff.1 h).1
  · intro h
    exact ⟨_, commands_eq_ok_iff.2 ⟨h, rfl⟩⟩
  · intro commands h
    exact ⟨(commands_eq_ok_iff.1 h).2, height_of_mem_commands h⟩

/-- A transaction with messages of these types; the digest is in lower case. -/
def mixedTx (raw : RawTx) (index : UInt64) (code : UInt32) (types : List String) : Tx where
  height := 5
  index
  hash := .ofList (raw.hash.toList.map Char.toLower)
  body := { messages := types.map fun type => .object [("@type", .string type)], memo := "",
            timeoutHeight := 0 }
  authInfo := { fee := { amount := [], gasLimit := 0, payer := "", granter := "" }
                signerInfos := [] }
  signatures := []
  result := { code, codespace := "", rawLog := "", gasWanted := 0, gasUsed := 0
              timestamp := Time.epoch, logs := [], events := [] }

/-- Results of height 5 with an event of an unknown type, whose attribute is no base64. -/
def mixedResults : BlockResults where
  height := 5
  txsResults := []
  beginBlockEvents := [⟨"mint", [⟨"YW1vdW50", "MTAw"⟩]⟩, ⟨"transfer", [⟨"***", "x"⟩]⟩]
  endBlockEvents := [⟨"complete_unbonding", []⟩]
  finalizeBlockEvents := []
  validatorUpdates := [⟨"ed25519", "AAAA", 3⟩]

/-- A block of a transaction with a message of an unknown type between two others, and of a
transaction that failed. -/
theorem mixed_told :
    let send := "/cosmos.bank.v1beta1.MsgSend"
    let raws : List RawTx := [⟨[1]⟩, ⟨[2]⟩]
    let txs := [mixedTx ⟨[1]⟩ 0 0 [send, "/x.MsgY", send], mixedTx ⟨[2]⟩ 1 11 [send]]
    ∃ commands,
      (Sim.Script.plainBlock 5 raws).commands .standard { base64Attributes := true } mixedResults
        txs = .ok commands ∧
      commands.map Command.name = ["CreateBlock", "CreateMint", "CreateTransaction",
        "CreateMsgSend", "CreateMsgSend", "CreateTransaction", "CompleteUnbonding",
        "ChangePower"] := by
  intro send raws txs
  have hread : Readable .standard { base64Attributes := true } (Sim.Script.plainBlock 5 raws)
      mixedResults txs := by
    refine ⟨rfl, rfl, ?_, ?_, ?_⟩
    · rintro (_ | _ | place) tx raw htx hraw
      · cases htx
        cases hraw
        exact ⟨rfl, by decide +kernel⟩
      · cases htx
        cases hraw
        exact ⟨rfl, by decide +kernel⟩
      · cases htx
    · intro tx _ _ hstrict
      cases hstrict
    · have hok : ∀ e ∈ mixedResults.blockEvents, (BlockEventKind.ofType? e.kind).isSome →
          e.decodeBase64.isOk := by decide +kernel
      exact fun _ e he hk => isOk_eq_true_iff.1 (hok e he hk)
  obtain ⟨hex, hall⟩ := commands_told .standard { base64Attributes := true }
    (Sim.Script.plainBlock 5 raws) mixedResults txs
  obtain ⟨commands, h⟩ := hex.2 hread
  obtain ⟨rfl, -⟩ := hall commands h
  exact ⟨_, h, by decide +kernel⟩

end Block

end ChainIndexer
