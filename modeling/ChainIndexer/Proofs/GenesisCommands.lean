import ChainIndexer.Command.OfGenesis
import ChainIndexer.Proofs.Except

/-!
# What is told of a genesis document

`Genesis.told` lists the commands of a document section by section: each valid entry has its own,
and a genesis transaction only the first validator of an operator. `Genesis.passedOver` lists what is
malformed, in the order in which it is met: a whole section, or single entries of one.

* `commands_eq`: a lenient configuration gives what is told; a strict one gives the same where
  nothing is passed over, and else refuses the first thing that is.
* `told_or_refused`: the same for each of the two.
* `strict_commands_iff`: what a strict configuration asks of each section. A module that is no object
  has no section, and so nothing is asked of it: `misplaced_dropped` loses a list in this way.
-/

namespace ChainIndexer

open Json (Codec Value)

namespace Genesis

variable {α β : Type} {config : ParserConfig} {g : Genesis} {place : GenesisSection} {c : Codec α}

/-! ## Malformed items -/

def fault? : Except GenesisFault α → Option GenesisFault
  | .error fault => some fault
  | .ok _ => none

theorem fault?_eq_none_iff {x : Except GenesisFault α} : fault? x = none ↔ ∃ a, x = .ok a := by
  cases x <;> simp [fault?]

/-- What comes of something that was read where these things were malformed. -/
def judged (config : ParserConfig) (faults : List (GenesisSection × GenesisFault)) (a : α) :
    Except ParseError α :=
  if config.strictGenesis then faults.head?.elim (.ok a) fun f => .error (.genesis f.1 f.2)
  else .ok a

theorem judged_nil (config : ParserConfig) (a : α) : judged config [] a = .ok a := by
  unfold judged
  split <;> rfl

theorem judged_bind {faults faults' : List (GenesisSection × GenesisFault)} {a : α} {b : β}
    {next : α → Except ParseError β} (h : next a = judged config faults' b) :
    (judged config faults a >>= next) = judged config (faults ++ faults') b := by
  cases faults with
  | nil =>
    rw [judged_nil, List.nil_append, ← h]
    rfl
  | cons f faults =>
    unfold judged at h ⊢
    cases hstrict : config.strictGenesis with
    | true => rfl
    | false =>
      rw [hstrict] at h
      exact h

theorem judged_bind_ok {faults : List (GenesisSection × GenesisFault)} {a : α} {b : β}
    {next : α → Except ParseError β} (h : next a = .ok b) :
    (judged config faults a >>= next) = judged config faults b := by
  rw [judged_bind (h.trans (judged_nil config b).symm), List.append_nil]

theorem judged_map (faults : List (GenesisSection × GenesisFault)) (a : α) (f : α → β) :
    (judged config faults a).map f = judged config faults (f a) := by
  unfold judged
  cases config.strictGenesis with
  | false => rfl
  | true => cases faults <;> rfl

def inSection (place : GenesisSection) (faults : List GenesisFault) :
    List (GenesisSection × GenesisFault) :=
  faults.map fun fault => (place, fault)

theorem inSection_append (faults faults' : List GenesisFault) :
    inSection place (faults ++ faults') = inSection place faults ++ inSection place faults' :=
  List.map_append

theorem accept_eq (config : ParserConfig) (place : GenesisSection) (x : Except GenesisFault α) :
    accept config place x = judged config (inSection place (fault? x).toList) x.toOption := by
  cases x with
  | ok a =>
    unfold judged
    split <;> rfl
  | error fault => rfl

/-! ## Sections -/

/-- The key of the module in which a section stands, and its own key there. -/
def keys : GenesisSection → String × String
  | .validators => ("staking", "validators")
  | .genTxs => ("genutil", "gen_txs")
  | .balances => ("bank", "balances")

/-- What stands in the place of a section: there is nothing in a module that is no object. -/
def placed (g : Genesis) (place : GenesisSection) : Option Value :=
  match g.appState with
  | .object modules =>
    match modules.lookup (keys place).1 with
    | some (.object members) => members.lookup (keys place).2
    | _ => none
  | _ => none

theorem placed_eq_some_iff {v : Value} : placed g place = some v ↔
    ∃ modules members, g.appState = .object modules ∧
      modules.lookup (keys place).1 = some (.object members) ∧
      members.lookup (keys place).2 = some v := by
  unfold placed
  constructor
  · intro h
    split at h
    · rename_i modules hstate
      split at h
      · rename_i members hmodule
        exact ⟨modules, members, hstate, hmodule, h⟩
      · cases h
    · cases h
  · rintro ⟨modules, members, hstate, hmodule, hlist⟩
    rw [hstate]
    dsimp only
    rw [hmodule]
    exact hlist

theorem path?_eq_some_iff {v w : Value} {a b : String} :
    v.path? [a, b] = some w ↔ ∃ modules members, v = .object modules ∧
      modules.lookup a = some (.object members) ∧ members.lookup b = some w := by
  have hget : ∀ {u x : Value} {key : String},
      u.get? key = some x ↔ ∃ members, u = .object members ∧ members.lookup key = some x := by
    intro u x key
    cases u <;> simp [Value.get?]
  simp only [Value.path?, Option.bind_eq_some_iff, hget, Option.some.injEq]
  constructor
  · rintro ⟨_, ⟨modules, hv, hm⟩, _, ⟨members, rfl, hw⟩, rfl⟩
    exact ⟨modules, members, hv, hm, hw⟩
  · rintro ⟨modules, members, hv, hm, hw⟩
    exact ⟨_, ⟨modules, hv, hm⟩, _, ⟨members, rfl, hw⟩, rfl⟩

theorem path?_eq_placed (g : Genesis) (place : GenesisSection) :
    g.appState.path? place.path = placed g place := by
  have hpath : place.path = [(keys place).1, (keys place).2] := by cases place <;> rfl
  rw [hpath]
  exact Option.ext fun v => path?_eq_some_iff.trans placed_eq_some_iff.symm

/-- The entries of a section, none where it is no list of its entries. -/
def listed (g : Genesis) (place : GenesisSection) (c : Codec α) : List α :=
  ((placed g place).bind fun v => (c.list.decode v).toOption).getD []

/-- What is wrong with a section that is neither absent nor `null`. -/
def sectionFault? (g : Genesis) (place : GenesisSection) (c : Codec α) : Option GenesisFault :=
  ((placed g place).filter fun v => !v.isNull).bind fun v =>
    fault? ((c.list.decode v).mapError .decode)

theorem entries_eq (config : ParserConfig) (g : Genesis) (place : GenesisSection) (c : Codec α) :
    entries config g.appState place c
      = judged config (inSection place (sectionFault? g place c).toList) (listed g place c) := by
  unfold entries sectionFault? listed
  rw [path?_eq_placed]
  rcases placed g place with _ | v
  · exact (judged_nil _ _).symm
  · have hread : (accept config place ((c.list.decode v).mapError .decode)).map (·.getD [])
        = judged config (inSection place (fault? ((c.list.decode v).mapError .decode)).toList)
          ((c.list.decode v).toOption.getD []) := by
      rw [accept_eq, judged_map, toOption_mapError]
    cases v with
    | null => exact (judged_nil _ _).symm
    | _ => exact hread

/-! ## Entries -/

def stakingChecked (config : ParserConfig) (v : StakingValidator) : Except GenesisFault Unit :=
  (config.prefixes.checkValidator v.operatorAddress).mapError .address

def balanceChecked (config : ParserConfig) (b : GenesisAccountBalanceCreated) :
    Except GenesisFault Unit :=
  (config.prefixes.checkAccount b.address).mapError .address

def CreatesValidator (msg : Value) : Prop :=
  (msg.get? "@type").bind Value.string? = some "/cosmos.staking.v1beta1.MsgCreateValidator"

instance (msg : Value) : Decidable (CreatesValidator msg) :=
  inferInstanceAs (Decidable (_ = _))

/-- A message that creates a validator: it is well formed and its operator is accepted. -/
def joinChecked (config : ParserConfig) (msg : Value) : Except GenesisFault MsgCreateValidator :=
  match MsgCreateValidator.codec.decode msg with
  | .error e => .error (.decode e)
  | .ok p =>
    match config.prefixes.checkValidator p.validatorAddress with
    | .error fault => .error (.address fault)
    | .ok _ => .ok p

theorem createdValidator_eq (config : ParserConfig) (msg : Value) :
    createdValidator config msg = joinChecked config msg := by
  unfold createdValidator joinChecked
  cases MsgCreateValidator.codec.decode msg with
  | error e => rfl
  | ok p =>
    simp only [Except.mapError, bind, Except.bind]
    cases config.prefixes.checkValidator p.validatorAddress with
    | error fault => rfl
    | ok u => rfl

theorem joinChecked_eq_ok_iff {msg : Value} {p : MsgCreateValidator} :
    joinChecked config msg = .ok p ↔ MsgCreateValidator.codec.decode msg = .ok p ∧
      ∃ u, config.prefixes.checkValidator p.validatorAddress = .ok u := by
  unfold joinChecked
  cases MsgCreateValidator.codec.decode msg with
  | error e => simp
  | ok q =>
    dsimp only
    cases hcheck : config.prefixes.checkValidator q.validatorAddress with
    | error fault =>
      refine iff_of_false (fun h => by cases h) ?_
      rintro ⟨hq, u, hu⟩
      cases hq
      rw [hcheck] at hu
      cases hu
    | ok u =>
      constructor
      · intro h
        cases h
        exact ⟨rfl, u, hcheck⟩
      · rintro ⟨h, -⟩
        cases h
        rfl

def passing (check : α → Except GenesisFault β) (xs : List α) : List α :=
  xs.filter fun x => (check x).isOk

/-- What is wrong with entries that do not pass a check. -/
def faultsOf (check : α → Except GenesisFault β) (xs : List α) : List GenesisFault :=
  xs.filterMap fun x => fault? (check x)

theorem faultsOf_cons (check : α → Except GenesisFault β) (x : α) (xs : List α) :
    faultsOf check (x :: xs) = (fault? (check x)).toList ++ faultsOf check xs := by
  unfold faultsOf
  rw [List.filterMap_cons]
  cases fault? (check x) <;> rfl

theorem faultsOf_eq_nil_iff {check : α → Except GenesisFault β} {xs : List α} :
    faultsOf check xs = [] ↔ ∀ x ∈ xs, ∃ b, check x = .ok b := by
  simp only [faultsOf, List.filterMap_eq_nil_iff, fault?_eq_none_iff]

theorem passing_cons (check : α → Except GenesisFault β) (x : α) (xs : List α) :
    passing check (x :: xs)
      = if (check x).isOk then x :: passing check xs else passing check xs := List.filter_cons

theorem passing_eq_self {check : α → Except GenesisFault β} {xs : List α}
    (h : ∀ x ∈ xs, ∃ b, check x = .ok b) : passing check xs = xs :=
  List.filter_eq_self.2 fun x hx => isOk_eq_true_iff.2 (h x hx)

def created (config : ParserConfig) (msgs : List Value) : List MsgCreateValidator :=
  (msgs.filter (CreatesValidator ·)).filterMap fun msg => (joinChecked config msg).toOption

/-- What is wrong with messages that are to create a validator. -/
def createdFaults (config : ParserConfig) (msgs : List Value) : List GenesisFault :=
  faultsOf (joinChecked config) (msgs.filter (CreatesValidator ·))

/-- The validators whose operator is not taken, neither before nor by one that comes earlier. -/
def withNewOperator (taken : List String) (ps : List MsgCreateValidator) :
    List MsgCreateValidator :=
  (ps.zipIdx.filter fun p =>
    p.1.validatorAddress ∉ taken ++ (ps.take p.2).map (·.validatorAddress)).map Prod.fst

theorem withNewOperator_cons (taken : List String) (p : MsgCreateValidator)
    (ps : List MsgCreateValidator) : withNewOperator taken (p :: ps) =
      if p.validatorAddress ∈ taken then withNewOperator taken ps
      else p :: withNewOperator (p.validatorAddress :: taken) ps := by
  -- what is taken at a later place is taken already, or is the operator that comes first
  have hlater : ∀ (taken' : List String), (∀ a, a ∈ taken' ↔ a = p.validatorAddress ∨ a ∈ taken) →
      (((ps.zipIdx 1).filter fun q => q.1.validatorAddress ∉
        taken ++ ((p :: ps).take q.2).map (·.validatorAddress)).map Prod.fst)
        = withNewOperator taken' ps := by
    intro taken' htaken
    rw [withNewOperator, List.zipIdx_succ, List.filter_map, List.map_map]
    congr 1
    refine List.filter_congr fun q _ => ?_
    simp only [Function.comp_apply, List.take_succ_cons, List.map_cons, List.mem_append,
      List.mem_cons, htaken]
    exact decide_eq_decide.2 (by grind)
  rw [withNewOperator, List.zipIdx_cons, List.filter_cons]
  by_cases htaken : p.validatorAddress ∈ taken
  · rw [if_pos htaken, if_neg (by simpa using htaken)]
    exact hlater taken fun a => by grind
  · rw [if_neg htaken, if_pos (by simpa using htaken), List.map_cons]
    rw [hlater _ fun a => List.mem_cons]

/-! ## Commands -/

/-- The validator that an entry of the staking state tells of. Nobody delegates to it by name. -/
def stakedValidator (v : StakingValidator) : GenesisValidatorCreated where
  operatorAddress := v.operatorAddress
  delegatorAddress := ""
  consensusPubkey := v.consensusPubkey
  description := v.description
  commission := v.commission
  minSelfDelegation := v.minSelfDelegation
  tokens := v.tokens
  jailed := v.jailed

/-- The validator that a genesis transaction tells of. Its tokens are the amount of its coin. -/
def joinedValidator (p : MsgCreateValidator) : GenesisValidatorCreated where
  operatorAddress := p.validatorAddress
  delegatorAddress := p.delegatorAddress
  consensusPubkey := p.pubkey
  description := p.description
  commission := p.commission
  minSelfDelegation := p.minSelfDelegation
  tokens := p.value.amount
  jailed := false

/-- One turn of a loop over entries: the entry is checked, and the others give `a` where they are
judged by their own faults. -/
theorem judged_cons (check : α → Except GenesisFault Unit) {x : α} {xs : List α} {a b : β}
    {next : Option Unit → β → Except ParseError β} (h : next (check x).toOption a = .ok b) :
    (accept config place (check x) >>= fun accepted =>
      judged config (inSection place (faultsOf check xs)) a >>= next accepted)
      = judged config (inSection place (faultsOf check (x :: xs))) b := by
  rw [faultsOf_cons, inSection_append, accept_eq]
  exact judged_bind (judged_bind_ok h)

theorem stakingCommands_eq (config : ParserConfig) (vs : List StakingValidator) :
    stakingCommands config vs
      = judged config (inSection .validators (faultsOf (stakingChecked config) vs))
        ((passing (stakingChecked config) vs).map fun v => .genesisValidator (stakedValidator v),
          (passing (stakingChecked config) vs).map (·.operatorAddress)) := by
  induction vs with
  | nil => exact (judged_nil _ _).symm
  | cons v vs ih =>
    rw [stakingCommands, ih]
    refine judged_cons (stakingChecked config) ?_
    rw [passing_cons]
    cases stakingChecked config v with
    | ok u => rfl
    | error fault => rfl

theorem genTxCommands_eq (config : ParserConfig) (taken : List String) (msgs : List Value) :
    genTxCommands config taken msgs
      = judged config (inSection .genTxs (createdFaults config msgs))
        ((withNewOperator taken (created config msgs)).map
          fun p => .genesisValidator (joinedValidator p)) := by
  induction msgs generalizing taken with
  | nil => exact (judged_nil _ _).symm
  | cons msg msgs ih =>
    rw [genTxCommands, createdFaults, created, List.filter_cons]
    by_cases hcreates : (msg.get? "@type").bind Value.string? = some createValidatorType
    · have hdecide : decide (CreatesValidator msg) = true := decide_eq_true hcreates
      rw [if_neg (not_not_intro hcreates), if_pos hdecide, faultsOf_cons, inSection_append,
        accept_eq, createdValidator_eq]
      refine judged_bind ?_
      rw [List.filterMap_cons]
      cases joinChecked config msg with
      | error fault => exact ih taken
      | ok p =>
        simp only [Except.toOption, withNewOperator_cons, List.contains_iff_mem]
        split
        · exact ih taken
        · rw [ih]
          exact judged_bind_ok rfl
    · have hdecide : ¬ decide (CreatesValidator msg) = true := fun h =>
        hcreates (of_decide_eq_true h)
      rw [if_pos hcreates, if_neg hdecide]
      exact ih taken

theorem balanceCommands_eq (config : ParserConfig) (bs : List GenesisAccountBalanceCreated) :
    balanceCommands config bs
      = judged config (inSection .balances (faultsOf (balanceChecked config) bs))
        ((passing (balanceChecked config) bs).map .genesisBalance) := by
  induction bs with
  | nil => exact (judged_nil _ _).symm
  | cons b bs ih =>
    rw [balanceCommands, ih]
    refine judged_cons (balanceChecked config) ?_
    rw [passing_cons]
    cases balanceChecked config b with
    | ok u => rfl
    | error fault => rfl

/-! ## The document -/

def start (g : Genesis) : GenesisCreated where
  chainId := g.chainId
  genesisTime := g.genesisTime
  initialHeight := g.initialHeight

/-- The validators of the staking state that are told of. -/
def staked (config : ParserConfig) (g : Genesis) : List StakingValidator :=
  passing (stakingChecked config) (listed g .validators StakingValidator.codec)

def genTxMessages (g : Genesis) : List Value := (listed g .genTxs genTxCodec).flatten

/-- The validators of the genesis transactions that are told of. -/
def joined (config : ParserConfig) (g : Genesis) : List MsgCreateValidator :=
  withNewOperator ((staked config g).map (·.operatorAddress)) (created config (genTxMessages g))

def held (config : ParserConfig) (g : Genesis) : List GenesisAccountBalanceCreated :=
  passing (balanceChecked config) (listed g .balances balanceCodec)

/-- What is told of a genesis document. -/
def told (config : ParserConfig) (g : Genesis) : List Command :=
  .genesis (start g) :: (staked config g).map (fun v => .genesisValidator (stakedValidator v))
    ++ (joined config g).map (fun p => .genesisValidator (joinedValidator p))
    ++ (held config g).map .genesisBalance

/-- What is wrong with a section and with its entries, in order. -/
def faultsIn (config : ParserConfig) (g : Genesis) : GenesisSection → List GenesisFault
  | .validators => (sectionFault? g .validators StakingValidator.codec).toList
      ++ faultsOf (stakingChecked config) (listed g .validators StakingValidator.codec)
  | .genTxs => (sectionFault? g .genTxs genTxCodec).toList
      ++ createdFaults config (genTxMessages g)
  | .balances => (sectionFault? g .balances balanceCodec).toList
      ++ faultsOf (balanceChecked config) (listed g .balances balanceCodec)

/-- What is malformed in a document, in the order in which it is met. -/
def passedOver (config : ParserConfig) (g : Genesis) : List (GenesisSection × GenesisFault) :=
  [.validators, .genTxs, .balances].flatMap fun place => inSection place (faultsIn config g place)

theorem commands_eq (config : ParserConfig) (g : Genesis) :
    g.commands config = judged config (passedOver config g) (told config g) := by
  have hpassed : passedOver config g = inSection .validators (faultsIn config g .validators)
      ++ (inSection .genTxs (faultsIn config g .genTxs)
        ++ (inSection .balances (faultsIn config g .balances) ++ [])) := rfl
  rw [hpassed, List.append_nil]
  simp only [faultsIn, inSection_append, List.append_assoc]
  unfold commands
  simp only [entries_eq, stakingCommands_eq, genTxCommands_eq, balanceCommands_eq]
  exact judged_bind <| judged_bind <| judged_bind <| judged_bind <| judged_bind <| judged_bind_ok rfl

def description : Value :=
  .object [("details", .string ""), ("identity", .string ""), ("moniker", .string "m"),
    ("security_contact", .string ""), ("website", .string "")]

def rates : Value :=
  .object [("max_change_rate", .string "0.01"), ("max_rate", .string "0.2"), ("rate", .string "0.1")]

/-- What stands at the list key of a section, in a module that is an object, is `null` or a list of
good entries. -/
def Whole (g : Genesis) (place : GenesisSection) (c : Codec α) (good : α → Prop) : Prop :=
  ∀ modules members v, g.appState = .object modules →
    modules.lookup (keys place).1 = some (.object members) →
    members.lookup (keys place).2 = some v →
      v = .null ∨ ∃ xs, c.list.decode v = .ok xs ∧ ∀ x ∈ xs, good x

theorem whole_iff {good : α → Prop} :
    Whole g place c good ↔ sectionFault? g place c = none ∧ ∀ x ∈ listed g place c, good x := by
  have hfound : Whole g place c good ↔ ∀ v, placed g place = some v →
      v = .null ∨ ∃ xs, c.list.decode v = .ok xs ∧ ∀ x ∈ xs, good x := by
    unfold Whole
    constructor
    · intro h v hv
      obtain ⟨modules, members, hstate, hmodule, hlist⟩ := placed_eq_some_iff.1 hv
      exact h modules members v hstate hmodule hlist
    · intro h modules members v hstate hmodule hlist
      exact h v (placed_eq_some_iff.2 ⟨modules, members, hstate, hmodule, hlist⟩)
  rw [hfound, sectionFault?, listed]
  rcases placed g place with _ | v
  · simp
  · have hread : (fault? ((c.list.decode v).mapError .decode) = none ∧
        ∀ x ∈ (c.list.decode v).toOption.getD [], good x) ↔
          ∃ xs, c.list.decode v = .ok xs ∧ ∀ x ∈ xs, good x := by
      cases c.list.decode v with
      | ok xs => simp [fault?, Except.mapError, Except.toOption]
      | error e => simp [fault?, Except.mapError]
    cases v with
    | null => simp [Value.isNull, Codec.list, Codec.decode, Except.toOption]
    | _ => simpa [Value.isNull] using hread.symm

theorem commands_eq_ok_iff_of_strict (hstrict : config.strictGenesis = true) {cs : List Command} :
    g.commands config = .ok cs ↔ (∀ place, faultsIn config g place = []) ∧ cs = told config g := by
  have hpassed : passedOver config g = [] ↔ ∀ place, faultsIn config g place = [] := by
    simp only [passedOver, inSection, List.flatMap_eq_nil_iff, List.map_eq_nil_iff]
    constructor
    · intro h place
      exact h place (by cases place <;> simp)
    · exact fun h place _ => h place
  rw [commands_eq, ← hpassed, judged, if_pos hstrict]
  cases passedOver config g with
  | nil => simp [eq_comm]
  | cons f faults => simp

theorem faultsIn_validators_eq_nil_iff : faultsIn config g .validators = [] ↔
    Whole g .validators StakingValidator.codec fun v =>
      ∃ u, config.prefixes.checkValidator v.operatorAddress = .ok u := by
  simp only [faultsIn, List.append_eq_nil_iff, Option.toList_eq_nil_iff, faultsOf_eq_nil_iff,
    stakingChecked, mapError_eq_ok_iff, whole_iff]

theorem faultsIn_genTxs_eq_nil_iff : faultsIn config g .genTxs = [] ↔
    Whole g .genTxs genTxCodec fun msgs =>
      ∀ msg ∈ msgs, CreatesValidator msg → ∃ p, MsgCreateValidator.codec.decode msg = .ok p ∧
        ∃ u, config.prefixes.checkValidator p.validatorAddress = .ok u := by
  simp only [← joinChecked_eq_ok_iff, faultsIn, List.append_eq_nil_iff, Option.toList_eq_nil_iff,
    createdFaults, faultsOf_eq_nil_iff, whole_iff, genTxMessages, List.mem_filter, List.mem_flatten,
    decide_eq_true_eq]
  refine and_congr_right fun _ => ⟨fun h msgs hmsgs msg hmsg hc => ?_, ?_⟩
  · exact h msg ⟨⟨msgs, hmsgs, hmsg⟩, hc⟩
  · rintro h msg ⟨⟨msgs, hmsgs, hmsg⟩, hc⟩
    exact h msgs hmsgs msg hmsg hc

theorem faultsIn_balances_eq_nil_iff : faultsIn config g .balances = [] ↔
    Whole g .balances balanceCodec fun b =>
      ∃ u, config.prefixes.checkAccount b.address = .ok u := by
  simp only [faultsIn, List.append_eq_nil_iff, Option.toList_eq_nil_iff, faultsOf_eq_nil_iff,
    balanceChecked, mapError_eq_ok_iff, whole_iff]

/-- **Strictness asks for every section of a module that is an object.** A strict configuration
gives commands just where each section that stands in such a module is `null` or a list of good
entries. Every validator of the staking state and every balance then has its command, and so has
every message that creates a validator of a new operator. -/
theorem strict_commands_iff (config : ParserConfig) (g : Genesis) (cs : List Command) :
    g.commands { config with strictGenesis := true } = .ok cs ↔
      (Whole g .validators StakingValidator.codec fun v =>
        ∃ u, config.prefixes.checkValidator v.operatorAddress = .ok u) ∧
      (Whole g .genTxs genTxCodec fun msgs =>
        ∀ msg ∈ msgs, CreatesValidator msg → ∃ p, MsgCreateValidator.codec.decode msg = .ok p ∧
          ∃ u, config.prefixes.checkValidator p.validatorAddress = .ok u) ∧
      (Whole g .balances balanceCodec fun b =>
        ∃ u, config.prefixes.checkAccount b.address = .ok u) ∧
      cs = .genesis (start g) ::
        (listed g .validators StakingValidator.codec).map
          (fun v => .genesisValidator (stakedValidator v)) ++
        (withNewOperator ((listed g .validators StakingValidator.codec).map (·.operatorAddress))
          (created config (genTxMessages g))).map
          (fun p => .genesisValidator (joinedValidator p)) ++
        (listed g .balances balanceCodec).map .genesisBalance := by
  have hsections : (∀ place, faultsIn config g place = []) ↔
      faultsIn config g .validators = [] ∧ faultsIn config g .genTxs = [] ∧
        faultsIn config g .balances = [] := by
    constructor
    · exact fun h => ⟨h _, h _, h _⟩
    · rintro ⟨hv, ht, hb⟩ (_ | _ | _)
      exacts [hv, ht, hb]
  have hcommands : g.commands { config with strictGenesis := true } = .ok cs ↔
      (∀ place, faultsIn config g place = []) ∧ cs = told config g :=
    commands_eq_ok_iff_of_strict rfl
  rw [hcommands, hsections, ← faultsIn_validators_eq_nil_iff, ← faultsIn_genTxs_eq_nil_iff,
    ← faultsIn_balances_eq_nil_iff, and_assoc, and_assoc]
  refine and_congr_right fun hv => and_congr_right fun _ => and_congr_right fun hb => ?_
  -- where nothing is wrong with entries all of them pass
  simp only [faultsIn, List.append_eq_nil_iff, faultsOf_eq_nil_iff] at hv hb
  rw [told, joined, staked, held, passing_eq_self hv.2, passing_eq_self hb.2]

/-- A document that has nothing but this as its bank module. -/
def withBank (bank : Value) : Genesis :=
  { genesisTime := Time.epoch, chainId := "testhub-1", initialHeight := 1
    appState := .object [("bank", bank)] }

def oneBalance : Value := .array [.object [("address", .string "cosmos1abc")]]

/-- Where the list stands at the key of the module, which is neither `null` nor an object then, a
strict configuration takes the document without a word of the balance. -/
theorem misplaced_dropped :
    (withBank oneBalance).commands { strictGenesis := true }
        = .ok [.genesis (start (withBank oneBalance))] ∧
      (withBank (.object [("balances", oneBalance)])).commands { strictGenesis := true }
        = .ok [.genesis (start (withBank oneBalance)), .genesisBalance ⟨"cosmos1abc", []⟩] :=
  ⟨rfl, rfl⟩

end Genesis

end ChainIndexer
