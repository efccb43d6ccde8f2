import ChainIndexer.Proofs.BlockCommands
import ChainIndexer.Proofs.Text.Base64
import ChainIndexer.Proofs.Text.Utf8
import Mathlib.Data.Set.List

/-!
# Block-level events in base64

`encodedText` is the base64 of the bytes of a text. An event is decoded into another one just when
it is that one with all keys and values encoded (`AbciEvent.decodeBase64_eq_ok_iff`).

* `Block.commands_encoded`: encoded results read as base64 are the results read as they are.
* `Block.commands_eq_base64_error_iff`: where reading base64 fails, and what it fails after.
* `Block.commands_known`: events of unknown types are not looked at.
-/

namespace ChainIndexer

/-! ## Texts and events -/

def encodedText (s : String) : String :=
  .ofList ((Base64.encode (Utf8.encode s)).map fun b => Char.ofNat b.toNat)

def IsEncoded (text : String) : Prop := ∃ s, text = encodedText s

theorem encode_encodedText (s : String) :
    Utf8.encode (encodedText s) = Base64.encode (Utf8.encode s) :=
  Utf8.encode_ofList_ascii (Base64.encode_ascii _)

example : encodedText "amount" = "YW1vdW50" := by decide +kernel

namespace AbciEvent

theorem decodeText_eq_ok_iff {kind text s : String} :
    decodeText kind text = .ok s ↔ text = encodedText s := by
  simp only [decodeText, bind_eq_ok_iff, mapError_eq_ok_iff, Base64.decode_eq_ok_iff,
    Utf8.decode_eq_ok_iff]
  constructor
  · rintro ⟨bytes, htext, rfl⟩
    rw [← encode_encodedText] at htext
    exact Utf8.encode_injective htext
  · rintro rfl
    exact ⟨_, encode_encodedText s, rfl⟩

end AbciEvent

/-- An attribute with key and value encoded. -/
def Attribute.encoded (a : Attribute) : Attribute := ⟨encodedText a.key, encodedText a.value⟩

namespace AbciEvent

/-- An event with all its attributes encoded. -/
def encoded (e : AbciEvent) : AbciEvent :=
  { e with attributes := e.attributes.map Attribute.encoded }

/-- Some key or value is no encoded text. -/
def Garbled (e : AbciEvent) : Prop :=
  ∃ a ∈ e.attributes, ¬IsEncoded a.key ∨ ¬IsEncoded a.value

theorem decodeAttribute_eq_ok_iff {kind : String} {a plain : Attribute} :
    decodeAttribute kind a = .ok plain ↔ a = plain.encoded := by
  obtain ⟨key, value⟩ := a
  simp only [decodeAttribute, bind_eq_ok_iff, decodeText_eq_ok_iff]
  constructor
  · rintro ⟨_, rfl, _, rfl, he⟩
    rw [← Except.ok.inj he]
    rfl
  · intro h
    cases h
    exact ⟨_, rfl, _, rfl, rfl⟩

theorem decodeBase64_eq_ok_iff {e plain : AbciEvent} :
    e.decodeBase64 = .ok plain ↔ e = plain.encoded := by
  obtain ⟨kind, attributes⟩ := e
  have hall (plains : List Attribute) :
      attributes.mapM (decodeAttribute kind) = .ok plains ↔
        attributes = plains.map Attribute.encoded := by
    simp only [mapM_eq_ok_iff, decodeAttribute_eq_ok_iff]
    rw [← List.forall₂_map_right_iff (R := Eq), List.forall₂_eq_eq_eq]
  simp only [decodeBase64, bind_eq_ok_iff, hall]
  constructor
  · rintro ⟨plains, rfl, he⟩
    rw [← Except.ok.inj he]
    rfl
  · intro h
    cases h
    exact ⟨_, rfl, rfl⟩

theorem exists_decodeBase64_iff {e : AbciEvent} :
    (∃ plain, e.decodeBase64 = .ok plain) ↔ ¬e.Garbled := by
  have hencoded (a : Attribute) : a ∈ Set.range Attribute.encoded ↔
      IsEncoded a.key ∧ IsEncoded a.value := by
    constructor
    · rintro ⟨plain, rfl⟩
      exact ⟨⟨_, rfl⟩, _, rfl⟩
    · rintro ⟨⟨key, hkey⟩, value, hvalue⟩
      exact ⟨⟨key, value⟩, by rw [Attribute.encoded, ← hkey, ← hvalue]⟩
  have hlist := Set.ext_iff.1 (Set.range_list_map Attribute.encoded) e.attributes
  simp only [Set.mem_range, Set.mem_ofPred_eq] at hlist hencoded
  simp only [decodeBase64_eq_ok_iff, Garbled, not_exists, not_and, not_or, not_not, ← hencoded]
  rw [← hlist]
  constructor
  · rintro ⟨plain, rfl⟩
    exact ⟨_, rfl⟩
  · rintro ⟨plains, hplains⟩
    exact ⟨⟨e.kind, plains⟩, by rw [encoded, hplains]⟩

end AbciEvent

/-- A configuration for attributes that have base64, or for attributes that have none. -/
def ParserConfig.withBase64 (config : ParserConfig) (base64 : Bool) : ParserConfig :=
  { config with base64Attributes := base64 }

/-- Results with the attributes of all block-level events encoded. -/
def BlockResults.encoded (r : BlockResults) : BlockResults :=
  { r with
    beginBlockEvents := r.beginBlockEvents.map AbciEvent.encoded
    endBlockEvents := r.endBlockEvents.map AbciEvent.encoded
    finalizeBlockEvents := r.finalizeBlockEvents.map AbciEvent.encoded }

def AbciEvent.isKnown (e : AbciEvent) : Bool := (BlockEventKind.ofType? e.kind).isSome

/-- Results without the block-level events of other types. -/
def BlockResults.known (r : BlockResults) : BlockResults :=
  { r with
    beginBlockEvents := r.beginBlockEvents.filter AbciEvent.isKnown
    endBlockEvents := r.endBlockEvents.filter AbciEvent.isKnown
    finalizeBlockEvents := r.finalizeBlockEvents.filter AbciEvent.isKnown }

namespace Block

variable {registry : Registry} {config : ParserConfig} {height : Height} {events : List AbciEvent}
  {e : ParseError}

/-! ## Events -/

theorem eventCommands_encoded (config : ParserConfig) (height : Height) (events : List AbciEvent) :
    eventCommands (config.withBase64 true) height (events.map AbciEvent.encoded)
      = eventCommands (config.withBase64 false) height events := by
  induction events with
  | nil => rfl
  | cons e events ih =>
    have hkind : e.encoded.kind = e.kind := rfl
    have hplain : plainEvent (config.withBase64 true) height e.encoded = .ok e :=
      mapError_eq_ok_iff.2 (AbciEvent.decodeBase64_eq_ok_iff.2 rfl)
    rw [List.map_cons, eventCommands, eventCommands, ih, hkind, hplain]
    rfl

theorem eventCommands_known (config : ParserConfig) (height : Height) (events : List AbciEvent) :
    eventCommands config height (events.filter AbciEvent.isKnown)
      = eventCommands config height events := by
  induction events with
  | nil => rfl
  | cons e events ih =>
    rw [List.filter_cons, AbciEvent.isKnown]
    cases hkind : BlockEventKind.ofType? e.kind with
    | none =>
      rw [if_neg (by simp), ih, eventCommands, hkind]
    | some kind =>
      rw [if_pos (by simp), eventCommands, eventCommands, hkind, ih]

/-- An event of a known type has a key or a value that is no encoded text. -/
def GarbledAmong (events : List AbciEvent) : Prop := ∃ e ∈ events, e.isKnown ∧ e.Garbled

theorem garbledAmong_append {events' : List AbciEvent} :
    GarbledAmong (events ++ events') ↔ GarbledAmong events ∨ GarbledAmong events' := by
  simp only [GarbledAmong, List.mem_append, or_and_right, exists_or]

theorem base64_of_eventCommands (h : eventCommands config height events = .error e) :
    ∃ fault, e = .base64 height fault := by
  induction events with
  | nil => cases h
  | cons event events ih =>
    rw [eventCommands] at h
    split at h
    · exact ih h
    · rcases bind_eq_error_iff.1 h with hplain | ⟨plain, -, hrest⟩
      · unfold plainEvent at hplain
        split at hplain
        · obtain ⟨fault, -, rfl⟩ := mapError_eq_error_iff.1 hplain
          exact ⟨fault, rfl⟩
        · cases hplain
      · rcases bind_eq_error_iff.1 hrest with hrest | ⟨rest, -, hdone⟩
        · exact ih hrest
        · cases hdone

theorem decodable_iff : Decodable (config.withBase64 true) events ↔ ¬GarbledAmong events := by
  simp only [Decodable, ParserConfig.withBase64, AbciEvent.exists_decodeBase64_iff, GarbledAmong,
    AbciEvent.isKnown, forall_const, not_exists, not_and]

theorem exists_eventCommands_iff :
    (∃ commands, eventCommands (config.withBase64 true) height events = .ok commands) ↔
      ¬GarbledAmong events := by
  simp only [eventCommands_eq_ok_iff, decodable_iff, exists_and_left, exists_eq, and_true]

theorem eventCommands_eq_base64_error_iff {height' : Height} :
    (∃ fault, eventCommands (config.withBase64 true) height events
        = .error (.base64 height' fault)) ↔ height' = height ∧ GarbledAmong events := by
  have hok : (∃ commands, eventCommands (config.withBase64 true) height events = .ok commands) ↔
      ¬GarbledAmong events := exists_eventCommands_iff
  cases h : eventCommands (config.withBase64 true) height events with
  | ok commands =>
    have hfine := hok.1 ⟨commands, h⟩
    simp [hfine]
  | error e =>
    obtain ⟨fault, rfl⟩ := base64_of_eventCommands h
    have hgarbled : GarbledAmong events := by
      by_contra hfine
      obtain ⟨commands, hcommands⟩ := hok.2 hfine
      rw [h] at hcommands
      cases hcommands
    constructor
    · rintro ⟨_, he⟩
      cases he
      exact ⟨rfl, hgarbled⟩
    · rintro ⟨rfl, -⟩
      exact ⟨fault, rfl⟩

/-! ## Transactions -/

section Transactions

variable (registry : Registry) (config : ParserConfig) (height : Height) (base64 : Bool)

theorem messageCommands_base64 (tx : Tx) (position index : Nat) (msgs : List Json.Value) :
    messageCommands registry (config.withBase64 base64) height tx position index msgs
      = messageCommands registry config height tx position index msgs := by
  induction msgs generalizing index with
  | nil => rfl
  | cons msg msgs ih =>
    rw [messageCommands, messageCommands]
    simp only [ih]
    rfl

theorem allTxCommands_base64 (position : Nat) (txs : List (Tx × RawTx)) :
    allTxCommands registry (config.withBase64 base64) height position txs
      = allTxCommands registry config height position txs := by
  induction txs generalizing position with
  | nil => rfl
  | cons p txs ih =>
    rw [allTxCommands, allTxCommands]
    simp only [txCommands, messageCommands_base64, ih]

end Transactions

theorem unknown_of_messageCommands {tx : Tx} {position index : Nat} {msgs : List Json.Value}
    (h : messageCommands registry config height tx position index msgs = .error e) :
    ∃ type, e = .unknownMessage height tx.hash type := by
  induction msgs generalizing index with
  | nil => cases h
  | cons msg msgs ih =>
    rw [messageCommands] at h
    split at h
    · split at h
      · cases h
        exact ⟨_, rfl⟩
      · exact ih h
    · rcases bind_eq_error_iff.1 h with hrest | ⟨rest, -, hdone⟩
      · exact ih hrest
      · cases hdone

theorem allTxCommands_ne_base64_error {position : Nat} {txs : List (Tx × RawTx)}
    {fault : AbciEvent.AttributeFault} {height' : Height} :
    allTxCommands registry config height position txs ≠ .error (.base64 height' fault) := by
  induction txs generalizing position with
  | nil => simp [allTxCommands]
  | cons p txs ih =>
    obtain ⟨tx, raw⟩ := p
    intro h
    rcases bind_eq_error_iff.1 h with hfirst | ⟨first, -, hrest⟩
    · simp only [txCommands, refuse_eq_error_iff, reduceCtorEq, and_false, false_or] at hfirst
      obtain ⟨-, -, hfirst⟩ := hfirst
      split at hfirst
      · rcases bind_eq_error_iff.1 hfirst with hmsgs | ⟨msgs, -, hdone⟩
        · obtain ⟨type, he⟩ := unknown_of_messageCommands hmsgs
          cases he
        · cases hdone
      · cases hfirst
    · rcases bind_eq_error_iff.1 hrest with hothers | ⟨others, -, hdone⟩
      · exact ih hothers
      · cases hdone

/-- The transactions are those of the block, and their messages are of the types asked for. -/
structure OwnTxs (registry : Registry) (config : ParserConfig) (block : Block) (txs : List Tx) :
    Prop where
  own : ∀ place tx raw, txs[place]? = some tx → block.txs[place]? = some raw → Own place tx raw
  known : ∀ tx ∈ txs, tx.result.code = 0 → Known registry config block.height tx.body.messages

theorem exists_allTxCommands_iff {block : Block} {txs : List Tx}
    (hlength : txs.length = block.txs.length) :
    (∃ commands, allTxCommands registry config block.height 0 (txs.zip block.txs) = .ok commands) ↔
      OwnTxs registry config block txs := by
  simp only [blockTxCommands_eq_ok_iff hlength]
  constructor
  · rintro ⟨_, hown, hknown, -⟩
    exact ⟨hown, hknown⟩
  · rintro ⟨hown, hknown⟩
    exact ⟨_, hown, hknown, rfl⟩

/-! ## The block -/

variable {block : Block} {results : BlockResults} {txs : List Tx}

theorem commands_encoded (registry : Registry) (config : ParserConfig) (block : Block)
    (results : BlockResults) (txs : List Tx) :
    block.commands registry (config.withBase64 true) results.encoded txs
      = block.commands registry (config.withBase64 false) results txs := by
  simp only [commands, BlockResults.encoded, eventCommands_encoded, allTxCommands_base64]

theorem commands_known (registry : Registry) (config : ParserConfig) (block : Block)
    (results : BlockResults) (txs : List Tx) :
    block.commands registry config results.known txs
      = block.commands registry config results txs := by
  simp only [commands, BlockResults.known, eventCommands_known]

theorem commands_eq_base64_error_iff {height' : Height} :
    (∃ fault, block.commands registry (config.withBase64 true) results txs
        = .error (.base64 height' fault)) ↔
      results.height = block.height ∧ txs.length = block.txs.length ∧ height' = block.height ∧
        (GarbledAmong results.beginBlockEvents ∨
          OwnTxs registry config block txs ∧
            GarbledAmong (results.endBlockEvents ++ results.finalizeBlockEvents)) := by
  simp only [commands, refuse_eq_error_iff, not_not, reduceCtorEq, and_false, false_or,
    allTxCommands_base64, exists_and_left]
  refine and_congr_right fun _ => and_congr_right fun hlength => ?_
  have hdone (f : List Command → List Command) (x : Except ParseError (List Command)) :
      (∃ finals, x = .ok finals ∧ ∃ fault : AbciEvent.AttributeFault,
        (pure (f finals) : Except ParseError (List Command)) = .error (.base64 height' fault)) ↔
          False := by
    simp [pure, Except.pure]
  simp only [exists_bind_eq_error_iff, eventCommands_eq_base64_error_iff,
    allTxCommands_ne_base64_error, hdone, or_false, exists_false, false_or, exists_and_right,
    exists_eventCommands_iff, exists_allTxCommands_iff hlength, garbledAmong_append]
  tauto

/-- **Results in base64 are read as results without.** Results with all attributes of block-level
events encoded are read, where attributes have base64, as the results themselves are where they have
none, with the same commands or the same error. Where attributes have base64, reading fails for it
just when an event of a known type has a key or a value that is no base64 of a text and nothing fails
before it: not the height or the number of transactions and, unless the event comes before the
transactions, none of these. Events of other types might as well not be there. -/
theorem base64_agrees (registry : Registry) (config : ParserConfig) (block : Block)
    (results : BlockResults) (txs : List Tx) :
    block.commands registry (config.withBase64 true) results.encoded txs
        = block.commands registry (config.withBase64 false) results txs ∧
      (∀ height, (∃ fault, block.commands registry (config.withBase64 true) results txs
          = .error (.base64 height fault)) ↔
        results.height = block.height ∧ txs.length = block.txs.length ∧ height = block.height ∧
          (GarbledAmong results.beginBlockEvents ∨
            OwnTxs registry config block txs ∧
              GarbledAmong (results.endBlockEvents ++ results.finalizeBlockEvents))) ∧
      block.commands registry (config.withBase64 true) results.known txs
        = block.commands registry (config.withBase64 true) results txs := by
  refine ⟨?_, ?_, ?_⟩
  · exact commands_encoded registry config block results txs
  · intro height
    exact commands_eq_base64_error_iff
  · exact commands_known registry _ block results txs

end Block

end ChainIndexer
