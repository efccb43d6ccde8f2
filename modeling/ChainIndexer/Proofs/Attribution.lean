import ChainIndexer.Proofs.BlockCommands
import ChainIndexer.Proofs.Digits
import ChainIndexer.Proofs.ExecutionLog
import Mathlib.Data.List.Nodup

/-!
# Which message an execution event belongs to

`EventPlace` is where an event stands in a transaction: in a log of its messages or in the flat
list. `Tx.places` lists the places whose events a message has, and `Command.carried` those whose
events a command of a block carries.

* `Tx.AttributedOnce`: two messages share no place; without logs the places of the first messages
  are those whose events name one of them.
* `Block.CountedOnce`: the commands of a block carry no place twice, so each reward is counted once.
* `attributed_once`: both hold, of every transaction and of the commands of every block.
-/

namespace ChainIndexer

/-- Where an event stands: in a log, given by the place of the log among all logs, or among all
events of the transaction. -/
inductive EventPlace
  | log (log position : Nat)
  | flat (position : Nat)
  deriving DecidableEq

def EventPlace.Before : EventPlace → EventPlace → Prop
  | log l p, log l' p' => l = l' ∧ p < p'
  | flat p, flat p' => p < p'
  | _, _ => False

theorem EventPlace.Before.ne {place place' : EventPlace} (h : place.Before place') :
    place ≠ place' := by
  rintro rfl
  cases place with
  | log l p => exact absurd h.2 (by omega)
  | flat p => exact absurd h (Nat.lt_irrefl p)

/-! ## The events of a message -/

namespace Tx

variable {tx : Tx} {i j : UInt64} {place : EventPlace}

def eventAt? (tx : Tx) : EventPlace → Option AbciEvent
  | .log l p => tx.result.logs[l]?.bind fun log => log.events[p]?
  | .flat p => tx.result.events[p]?

/-- The places whose events belong to the message with this index: those of the first log that has
the index, or else those among all events that name it. -/
def places (tx : Tx) (index : UInt64) : List EventPlace :=
  match tx.result.logs.findIdx? fun log => log.msgIndex == index with
  | some l => ((tx.result.logs[l]?.elim [] MessageLog.events).zipIdx).map fun p => .log l p.2
  | none => (tx.result.events.zipIdx.filter fun p => belongsTo index p.1).map fun p => .flat p.2

theorem belongsTo_iff {e : AbciEvent} :
    belongsTo i e = true ↔ e.attribute? "msg_index" = some (Numeral.natural i.toNat) := by
  rw [belongsTo, beq_iff_eq]

theorem places_cases (tx : Tx) (i : UInt64) :
    (∃ l, ∃ log : MessageLog, tx.result.logs[l]? = some log ∧ log.msgIndex = i ∧
        tx.messageEvents i = log.events ∧
        tx.places i = log.events.zipIdx.map fun p => .log l p.2) ∨
      (∀ log ∈ tx.result.logs, log.msgIndex ≠ i) ∧
        tx.messageEvents i = tx.result.events.filter (belongsTo i) ∧
        tx.places i =
          (tx.result.events.zipIdx.filter fun p => belongsTo i p.1).map fun p => .flat p.2 := by
  cases hfind : tx.result.logs.findIdx? fun log => log.msgIndex == i with
  | some l =>
    obtain ⟨hl, hown, hbefore⟩ := List.findIdx?_eq_some_iff_getElem.1 hfind
    have hlog : tx.result.logs.find? (fun log => log.msgIndex == i) = some tx.result.logs[l] :=
      List.find?_eq_some_iff_getElem.2 ⟨hown, l, hl, rfl, fun k hk => by simpa using hbefore k hk⟩
    refine .inl ⟨l, tx.result.logs[l], List.getElem?_eq_getElem hl, beq_iff_eq.1 hown, ?_, ?_⟩
    · rw [messageEvents, hlog]
    · rw [places, hfind]
      dsimp only
      rw [List.getElem?_eq_getElem hl]
      rfl
  | none =>
    have hnone := List.findIdx?_eq_none_iff.1 hfind
    have hlog : tx.result.logs.find? (fun log => log.msgIndex == i) = none :=
      List.find?_eq_none.2 fun log hlog => by simpa using hnone log hlog
    refine .inr ⟨fun log hlog => by simpa using hnone log hlog, ?_, ?_⟩
    · rw [messageEvents, hlog]
    · rw [places, hfind]

theorem map_eventAt?_places (tx : Tx) (i : UInt64) :
    (tx.places i).map tx.eventAt? = (tx.messageEvents i).map some := by
  rcases places_cases tx i with ⟨l, log, hl, -, hevents, hplaces⟩ | ⟨-, hevents, hplaces⟩
  · have hat : ∀ p ∈ log.events.zipIdx, tx.eventAt? (.log l p.2) = some p.1 := by
      intro p hp
      rw [eventAt?, hl]
      exact List.mem_zipIdx_iff_getElem?.1 hp
    rw [hplaces, hevents, List.map_map]
    calc log.events.zipIdx.map (tx.eventAt? ∘ fun p => .log l p.2)
        = log.events.zipIdx.map (some ∘ Prod.fst) := List.map_congr_left hat
      _ = log.events.map some := by rw [← List.map_map, List.zipIdx_map_fst]
  · have hat : ∀ p ∈ tx.result.events.zipIdx.filter (belongsTo i ∘ Prod.fst),
        tx.eventAt? (.flat p.2) = some p.1 := by
      intro p hp
      exact List.mem_zipIdx_iff_getElem?.1 (List.mem_of_mem_filter hp)
    rw [hplaces, hevents, List.map_map]
    calc (tx.result.events.zipIdx.filter (belongsTo i ∘ Prod.fst)).map
          (tx.eventAt? ∘ fun p => .flat p.2)
        = (tx.result.events.zipIdx.filter (belongsTo i ∘ Prod.fst)).map (some ∘ Prod.fst) :=
          List.map_congr_left hat
      _ = (tx.result.events.filter (belongsTo i)).map some := by
          rw [← List.map_map, ← List.filter_map, List.zipIdx_map_fst]

theorem pairwise_zipIdx {α : Type} (xs : List α) : xs.zipIdx.Pairwise fun p q => p.2 < q.2 := by
  have h : (xs.zipIdx.map Prod.snd).Pairwise (· < ·) := by
    rw [List.zipIdx_map_snd]
    exact List.pairwise_lt_range'
  exact List.pairwise_map.1 h

theorem places_inOrder (tx : Tx) (i : UInt64) : (tx.places i).Pairwise EventPlace.Before := by
  rcases places_cases tx i with ⟨l, log, -, -, -, hplaces⟩ | ⟨-, -, hplaces⟩
  · rw [hplaces, List.pairwise_map]
    exact (pairwise_zipIdx _).imp fun h => ⟨rfl, h⟩
  · rw [hplaces, List.pairwise_map]
    exact (pairwise_zipIdx _).filter _

theorem nodup_places (tx : Tx) (i : UInt64) : (tx.places i).Nodup :=
  (places_inOrder tx i).imp EventPlace.Before.ne

theorem mem_places_flat {p : Nat} (h : .flat p ∈ tx.places i) :
    ∃ e, tx.result.events[p]? = some e ∧
      e.attribute? "msg_index" = some (Numeral.natural i.toNat) := by
  rcases places_cases tx i with ⟨l, log, -, -, -, hplaces⟩ | ⟨-, -, hplaces⟩
  · rw [hplaces] at h
    obtain ⟨q, -, hq⟩ := List.mem_map.1 h
    cases hq
  · rw [hplaces] at h
    obtain ⟨⟨e, k⟩, hq, he⟩ := List.mem_map.1 h
    cases he
    obtain ⟨hq, hown⟩ := List.mem_filter.1 hq
    exact ⟨e, List.mem_zipIdx_iff_getElem?.1 hq, belongsTo_iff.1 hown⟩

theorem mem_places_log {l p : Nat} (h : .log l p ∈ tx.places i) :
    ∃ log, tx.result.logs[l]? = some log ∧ log.msgIndex = i := by
  rcases places_cases tx i with ⟨l', log, hl, hindex, -, hplaces⟩ | ⟨-, -, hplaces⟩
  · rw [hplaces] at h
    obtain ⟨q, -, hq⟩ := List.mem_map.1 h
    cases hq
    exact ⟨log, hl, hindex⟩
  · rw [hplaces] at h
    obtain ⟨q, -, hq⟩ := List.mem_map.1 h
    cases hq

theorem places_disjoint (h : i ≠ j) : (tx.places i).Disjoint (tx.places j) := by
  intro place hi hj
  cases place with
  | log l p =>
    obtain ⟨log, hl, rfl⟩ := mem_places_log hi
    obtain ⟨log', hl', rfl⟩ := mem_places_log hj
    rw [hl] at hl'
    obtain rfl := Option.some.inj hl'
    exact h rfl
  | flat p =>
    obtain ⟨e, he, hnamed⟩ := mem_places_flat hi
    obtain ⟨e', he', hnamed'⟩ := mem_places_flat hj
    rw [he] at he'
    obtain rfl := Option.some.inj he'
    have hsame := Numeral.natural_injective (Option.some.inj (hnamed.symm.trans hnamed'))
    exact h (UInt64.toNat_inj.1 hsame)

theorem mem_places_of_no_logs (h : tx.result.logs = []) :
    place ∈ tx.places i ↔ ∃ p e, place = .flat p ∧ tx.result.events[p]? = some e ∧
      e.attribute? "msg_index" = some (Numeral.natural i.toNat) := by
  constructor
  · intro hplace
    cases place with
    | log l p =>
      obtain ⟨log, hl, -⟩ := mem_places_log hplace
      rw [h] at hl
      cases hl
    | flat p =>
      obtain ⟨e, he, hnamed⟩ := mem_places_flat hplace
      exact ⟨p, e, rfl, he, hnamed⟩
  · rintro ⟨p, e, rfl, he, hnamed⟩
    rcases places_cases tx i with ⟨l, log, hl, -⟩ | ⟨-, -, hplaces⟩
    · rw [h] at hl
      cases hl
    · rw [hplaces]
      refine List.mem_map.2 ⟨(e, p), List.mem_filter.2 ⟨?_, belongsTo_iff.2 hnamed⟩, rfl⟩
      exact List.mem_zipIdx_iff_getElem?.2 he

/-- Every event of a transaction belongs to one message at most. -/
structure AttributedOnce (tx : Tx) : Prop where
  events : ∀ i, (tx.places i).map tx.eventAt? = (tx.messageEvents i).map some
  disjoint : ∀ i j, i ≠ j → (tx.places i).Disjoint (tx.places j)
  inOrder : ∀ i, (tx.places i).Pairwise EventPlace.Before
  unlogged : tx.result.logs = [] → ∀ (n : Nat) (place : EventPlace),
    (∃ i : UInt64, i.toNat < n ∧ place ∈ tx.places i) ↔
      ∃ p e, place = .flat p ∧ tx.result.events[p]? = some e ∧
        ∃ i : UInt64, i.toNat < n ∧ e.attribute? "msg_index" = some (Numeral.natural i.toNat)

theorem attributedOnce (tx : Tx) : tx.AttributedOnce where
  events := map_eventAt?_places tx
  disjoint _ _ := places_disjoint
  inOrder := places_inOrder tx
  unlogged h n place := by
    simp only [mem_places_of_no_logs h]
    constructor
    · rintro ⟨i, hi, p, e, hplace, he, hnamed⟩
      exact ⟨p, e, hplace, he, i, hi, hnamed⟩
    · rintro ⟨p, e, hplace, he, i, hi, hnamed⟩
      exact ⟨i, hi, p, e, hplace, he, hnamed⟩

end Tx

/-! ## The events of a block -/

def Command.carried (txs : List Tx) : Command → List (Nat × EventPlace)
  | .msg m =>
    (txs[m.base.txIndex.toNat]?.elim [] fun tx => tx.places m.base.msgIndex).map
      fun place => (m.base.txIndex.toNat, place)
  | _ => []

def eventAt? (txs : List Tx) (p : Nat × EventPlace) : Option AbciEvent :=
  txs[p.1]?.bind fun tx => tx.eventAt? p.2

def AbciEvent.rewards (e : AbciEvent) : List Coin :=
  if e.kind = "withdraw_rewards" then
    (e.attribute? "amount").elim [] fun text => (Coin.parseList text).toOption.getD []
  else []

/-- The claimed rewards are those that the events tell, one event after the other. -/
theorem CoinsRead.rewards {events : List AbciEvent} {coins : List Coin}
    (h : CoinsRead (namedTexts events (some "withdraw_rewards") "amount") coins) :
    coins = events.flatMap AbciEvent.rewards := by
  obtain ⟨parts, hparts, rfl⟩ := h
  induction events generalizing parts with
  | nil =>
    cases hparts
    rfl
  | cons e events ih =>
    rw [namedTexts, List.filterMap_cons] at hparts
    rw [List.flatMap_cons, AbciEvent.rewards]
    by_cases hkind : e.kind = "withdraw_rewards"
    · rw [if_pos (congrArg some hkind)] at hparts
      rw [if_pos hkind]
      cases htext : e.attribute? "amount" with
      | none =>
        rw [htext] at hparts
        exact ih _ hparts
      | some text =>
        rw [htext] at hparts
        obtain ⟨part, rest, hpart, hrest, rfl⟩ := List.forall₂_cons_left_iff.1 hparts
        rw [List.flatten_cons, ih rest hrest, Option.elim_some, hpart]
        rfl
    · rw [if_neg (fun he => hkind (Option.some.inj he))] at hparts
      rw [if_neg hkind]
      exact ih _ hparts

namespace Block

variable {registry : Registry} {config : ParserConfig} {height : Height} {block : Block}
  {results : BlockResults} {txs : List Tx} {tx : Tx} {m : MsgCommand} {c : Command}

/-- Some commands carry every event once, as the messages of some transactions have them. -/
structure CountedOnce (txs : List Tx) (commands : List Command) : Prop where
  events : ∀ m, .msg m ∈ commands →
    ((Command.msg m).carried txs).map (eventAt? txs) = m.events.map some
  once : (commands.flatMap (Command.carried txs)).Nodup
  rewards : ∀ m e params, .msg m ∈ commands → (Command.msg m).execute = .ok e →
    e.payload = .msg ⟨m.base, params⟩ → m.kind.coinSource = some "withdraw_rewards" →
    params.logged.coins =
      (((Command.msg m).carried txs).filterMap (eventAt? txs)).flatMap AbciEvent.rewards

theorem carried_toldMessage {msg : Json.Value} {index : Nat} (htx : txs[tx.index.toNat]? = some tx)
    (h : toldMessage registry config height tx msg index = some c) :
    c.carried txs =
      (tx.places (UInt64.ofNat index)).map fun place => (tx.index.toNat, place) := by
  simp only [toldMessage] at h
  split at h
  · cases h
  · obtain rfl := Option.some.inj h
    rw [Command.carried, htx]
    rfl

theorem flatMap_carried_toldTx (registry : Registry) (config : ParserConfig) (height : Height)
    (txs : List Tx) (tx : Tx) :
    (toldTx registry config height tx).flatMap (Command.carried txs) =
      (if tx.result.code = 0 then tx.body.messages.zipIdx.filterMap fun p =>
        toldMessage registry config height tx p.1 p.2 else []).flatMap (Command.carried txs) := by
  rw [toldTx, List.flatMap_cons]
  rfl

theorem fst_of_mem_carried (htx : txs[tx.index.toNat]? = some tx) {p : Nat × EventPlace}
    (h : p ∈ (toldTx registry config height tx).flatMap (Command.carried txs)) :
    p.1 = tx.index.toNat := by
  rw [flatMap_carried_toldTx] at h
  obtain ⟨c, hc, hp⟩ := List.mem_flatMap.1 h
  split at hc
  · obtain ⟨q, -, hq⟩ := List.mem_filterMap.1 hc
    rw [carried_toldMessage htx hq] at hp
    obtain ⟨place, -, rfl⟩ := List.mem_map.1 hp
    rfl
  · cases hc

/-- The messages of a transaction carry no place twice, as their indices are different. -/
theorem nodup_carried_toldTx (htx : txs[tx.index.toNat]? = some tx)
    (hsize : tx.body.messages.length ≤ UInt64.size) :
    ((toldTx registry config height tx).flatMap (Command.carried txs)).Nodup := by
  rw [flatMap_carried_toldTx]
  split
  · refine List.nodup_flatMap.2 ⟨fun c hc => ?_, ?_⟩
    · obtain ⟨q, -, hq⟩ := List.mem_filterMap.1 hc
      rw [carried_toldMessage htx hq]
      exact (Tx.nodup_places tx _).map fun _ _ he => (Prod.mk.inj he).2
    · rw [List.pairwise_filterMap]
      refine (Tx.pairwise_zipIdx tx.body.messages).imp_of_mem ?_
      intro p q hp hq hlt c hc d hd
      have hsmall : ∀ r ∈ tx.body.messages.zipIdx, r.2 < UInt64.size := by
        intro r hr
        have := List.snd_lt_of_mem_zipIdx hr
        omega
      have hne : UInt64.ofNat p.2 ≠ UInt64.ofNat q.2 := by
        intro he
        have := congrArg UInt64.toNat he
        rw [UInt64.toNat_ofNat_of_lt' (hsmall p hp),
          UInt64.toNat_ofNat_of_lt' (hsmall q hq)] at this
        omega
      show List.Disjoint (c.carried txs) (d.carried txs)
      rw [carried_toldMessage htx hc, carried_toldMessage htx hd]
      intro r hr hr'
      obtain ⟨place, hplace, rfl⟩ := List.mem_map.1 hr
      obtain ⟨place', hplace', he⟩ := List.mem_map.1 hr'
      obtain rfl := (Prod.mk.inj he).2
      exact Tx.places_disjoint hne hplace hplace'
  · simp

theorem flatMap_carried_told (registry : Registry) (config : ParserConfig) (block : Block)
    (results : BlockResults) (txs : List Tx) :
    (told registry config block results txs).flatMap (Command.carried txs) =
      txs.flatMap fun tx =>
        (toldTx registry config block.height tx).flatMap (Command.carried txs) := by
  have hevents : ∀ events, (toldEvents config block.height events).flatMap (Command.carried txs)
      = [] := by
    intro events
    rw [List.flatMap_eq_nil_iff]
    intro c hc
    obtain ⟨e, -, he⟩ := List.mem_filterMap.1 hc
    obtain ⟨kind, -, rfl⟩ := Option.map_eq_some_iff.1 he
    rfl
  have hpowers : (results.validatorUpdates.map (Command.changePower block.height)).flatMap
      (Command.carried txs) = [] := by
    rw [List.flatMap_eq_nil_iff]
    exact List.forall_mem_map.2 fun _ _ => rfl
  rw [told, List.flatMap_cons]
  simp only [List.flatMap_append, hevents, hpowers, List.flatMap_assoc, List.nil_append,
    List.append_nil]
  rfl

theorem exists_toldMessage (h : .msg m ∈ told registry config block results txs) :
    ∃ tx ∈ txs, ∃ msg index,
      toldMessage registry config block.height tx msg index = some (.msg m) := by
  have hevents : ∀ events, .msg m ∉ toldEvents config block.height events := by
    intro events hc
    obtain ⟨e, -, he⟩ := List.mem_filterMap.1 hc
    obtain ⟨kind, -, he⟩ := Option.map_eq_some_iff.1 he
    cases he
  simp only [told, List.mem_cons, List.mem_append, hevents, reduceCtorEq, false_or, or_false,
    List.mem_map, and_false, exists_false] at h
  obtain ⟨tx, htx, hm⟩ := List.mem_flatMap.1 h
  rw [toldTx] at hm
  rcases List.mem_cons.1 hm with hm | hm
  · cases hm
  · split at hm
    · obtain ⟨p, -, hp⟩ := List.mem_filterMap.1 hm
      exact ⟨tx, htx, p.1, p.2, hp⟩
    · cases hm

theorem Readable.index_eq (h : Readable registry config block results txs) {place : Nat}
    (hplace : txs[place]? = some tx) : tx.index.toNat = place := by
  have hlt : place < block.txs.length := by
    have := (List.getElem?_eq_some_iff.1 hplace).1
    have := h.length
    omega
  exact (h.own place tx block.txs[place] hplace (List.getElem?_eq_getElem hlt)).1

theorem Readable.getElem?_index (h : Readable registry config block results txs) (htx : tx ∈ txs) :
    txs[tx.index.toNat]? = some tx := by
  obtain ⟨place, hplace⟩ := List.mem_iff_getElem?.1 htx
  rw [h.index_eq hplace]
  exact hplace

theorem nodup_carried_told (h : Readable registry config block results txs)
    (hsize : ∀ tx ∈ txs, tx.body.messages.length ≤ UInt64.size) :
    ((told registry config block results txs).flatMap (Command.carried txs)).Nodup := by
  have hpairwise : txs.Pairwise fun a b => a.index.toNat ≠ b.index.toNat := by
    refine List.pairwise_iff_getElem.2 fun i j hi hj hij => ?_
    rw [h.index_eq (List.getElem?_eq_getElem hi), h.index_eq (List.getElem?_eq_getElem hj)]
    omega
  rw [flatMap_carried_told]
  refine List.nodup_flatMap.2 ⟨fun tx htx => ?_, hpairwise.imp_of_mem ?_⟩
  · exact nodup_carried_toldTx (h.getElem?_index htx) (hsize tx htx)
  · intro a b ha hb hne p hpa hpb
    have hpa' := fst_of_mem_carried (h.getElem?_index ha) hpa
    have hpb' := fst_of_mem_carried (h.getElem?_index hb) hpb
    exact hne (hpa'.symm.trans hpb')

theorem map_eventAt?_carried (h : Readable registry config block results txs)
    (hm : .msg m ∈ told registry config block results txs) :
    ((Command.msg m).carried txs).map (eventAt? txs) = m.events.map some := by
  obtain ⟨tx, htx, msg, index, htold⟩ := exists_toldMessage hm
  have hget := h.getElem?_index htx
  have hevents : m.events = tx.messageEvents (UInt64.ofNat index) := by
    simp only [toldMessage] at htold
    split at htold
    · cases htold
    · cases htold
      rfl
  rw [carried_toldMessage hget htold, hevents, ← Tx.map_eventAt?_places, List.map_map]
  refine List.map_congr_left fun place _ => ?_
  show (txs[tx.index.toNat]?.bind fun tx => tx.eventAt? place) = _
  rw [hget]
  rfl

/-- **No execution event is attributed to two messages.** In a transaction two messages share no
place of an event, and without logs the events of the first messages are those that name one of
them. In a block no place is carried by two commands, and the rewards that a message claims are
those told at the places that it carries. The messages of a transaction are as many as indices can
count. -/
theorem attributed_once :
    (∀ tx : Tx, tx.AttributedOnce) ∧
      ∀ (registry : Registry) (config : ParserConfig) (block : Block) (results : BlockResults)
        (txs : List Tx) (commands : List Command),
        block.commands registry config results txs = .ok commands →
          (∀ tx ∈ txs, tx.body.messages.length ≤ UInt64.size) → CountedOnce txs commands := by
  refine ⟨Tx.attributedOnce, fun registry config block results txs commands hcommands hsize => ?_⟩
  obtain ⟨hread, rfl⟩ := commands_eq_ok_iff.1 hcommands
  refine ⟨fun m => map_eventAt?_carried hread, nodup_carried_told hread hsize, ?_⟩
  intro m e params hm he hparams hsource
  obtain ⟨q, hq, rfl⟩ := Command.execute_msg_eq_ok_iff.1 he
  cases hparams
  have hcoins := (MsgCommand.told_of_decode hq).coins
  rw [hsource] at hcoins
  have hevents : ((Command.msg m).carried txs).filterMap (eventAt? txs) = m.events := by
    have h := congrArg (List.filterMap id) (map_eventAt?_carried hread hm)
    simpa [List.filterMap_map] using h
  rw [hevents]
  exact hcoins.rewards

/-- A transaction of two delegations, whose events name the second before the first and also a
third. The last one names a number that is not in its decimal form. -/
def delegationsTx (raw : RawTx) : Tx :=
  let delegate := "/cosmos.staking.v1beta1.MsgDelegate"
  let claimed (amount index : String) : AbciEvent :=
    ⟨"withdraw_rewards", [⟨"amount", amount⟩, ⟨"msg_index", index⟩]⟩
  let tx := mixedTx raw 0 0 [delegate, delegate]
  { tx with result := { tx.result with
      events := [claimed "7uatom" "1", claimed "5uatom" "0", claimed "9uatom" "2",
        claimed "3uatom" "01"] } }

/-- Each delegation carries the event that names it. -/
theorem delegations_counted :
    let raws : List RawTx := [⟨[1]⟩]
    let txs := [delegationsTx ⟨[1]⟩]
    ∃ commands,
      (Sim.Script.plainBlock 5 raws).commands .standard {} mixedResults txs = .ok commands ∧
        CountedOnce txs commands ∧
          commands.flatMap (Command.carried txs) = [(0, .flat 1), (0, .flat 0)] := by
  intro raws txs
  have hok : ((Sim.Script.plainBlock 5 raws).commands .standard {} mixedResults txs).isOk := by
    decide +kernel
  obtain ⟨commands, h⟩ := isOk_eq_true_iff.1 hok
  have hsize : ∀ tx ∈ txs, tx.body.messages.length ≤ UInt64.size := by
    intro tx htx
    obtain rfl := List.mem_singleton.1 htx
    decide +kernel
  refine ⟨commands, h, attributed_once.2 _ _ _ _ _ _ h hsize, ?_⟩
  rw [(commands_eq_ok_iff.1 h).2]
  decide +kernel

end Block

end ChainIndexer
