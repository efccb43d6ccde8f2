import ChainIndexer.Node.Answers
import ChainIndexer.Proofs.Json.Likeness

/-!
# Lists in a node's answers

A list that a node leaves out, gives as `null` or gives without items is the same list
(`listField_respects`), at any depth of a block or of block results. Other lists are read item by
item, none is dropped and none moves (`listField_found`). `lists_alike` says both for whole
documents.
-/

namespace ChainIndexer.Node

open Json Json.Fields

/-! ## One list -/

section

variable {ρ α : Type} {key : String} {get : ρ → List α} {c : Codec α}

theorem orEmpty_read_array (c : Codec α) (stage : Stage) (vs : List Value) :
    (orEmpty c).read stage (.array vs) = c.list.read stage (.array vs) := by
  change ((c.list.read stage (.array vs)).map some).map (fun xs => xs.getD []) = _
  cases c.list.read stage (.array vs) <;> rfl

theorem listField_found_blank {stage : Stage} {p : Option Value} (h : Blank p) :
    (listField key get c).found stage p = some [] := by
  rcases h with rfl | rfl | rfl <;> rfl

/-- **The three forms of an empty list are the same**, and items that are read alike are too. -/
theorem listField_respects {R : Likeness} (h : c.Respects R) :
    (listField key get c).Respects (.list R) := by
  intro stage p q hp hq hR
  cases hR with
  | same => rfl
  | blank hp hq => rw [listField_found_blank hp, listField_found_blank hq]
  | @entries vs ws hR =>
    have hvs := Value.ordered_array_iff.1 (hp _ rfl)
    have hws := Value.ordered_array_iff.1 (hq _ rfl)
    change ((orEmpty c).read stage _).toOption = ((orEmpty c).read stage _).toOption
    rw [orEmpty_read_array, orEmpty_read_array, h.list hvs hws hR]

/-- **A list is read item by item, in order.** -/
theorem listField_found {stage : Stage} {p : Option Value} {xs : List α}
    (h : (listField key get c).found stage p = some xs) :
    List.Forall₂ (fun v x => c.read stage v = .ok x) (entries p) xs := by
  cases p with
  | none => cases h; exact .nil
  | some v =>
    have hread : (orEmpty c).read stage v = .ok xs := eq_ok_of_toOption h
    cases v with
    | null => cases hread; exact .nil
    | array vs => exact mapM_eq_ok_iff.1 ((orEmpty_read_array c stage vs).symm.trans hread)
    | _ => cases hread

end

/-! ## How answers may differ -/

def eventLikeness : Likeness := .record [("type", Eq), ("attributes", .list Eq)]

/-- Results of transactions whose events may be missing. -/
def txResultLikeness : Likeness :=
  .record [("code", Eq), ("codespace", Eq), ("log", Eq), ("gas_wanted", Eq), ("gas_used", Eq),
    ("events", .list eventLikeness)]

/-- Block results whose lists may be missing, at any depth. -/
def blockResultsLikeness : Likeness :=
  .record [("height", Eq), ("txs_results", .list txResultLikeness),
    ("begin_block_events", .list eventLikeness), ("end_block_events", .list eventLikeness),
    ("finalize_block_events", .list eventLikeness), ("validator_updates", .list Eq)]

/-- A record whose one part is a list that may be missing. -/
def soleListLikeness (key : String) : Likeness := .record [(key, .list Eq)]

/-- Bodies of blocks whose transactions, evidence or signatures may be missing. -/
def blockBodyLikeness : Likeness :=
  .record [("header", Eq), ("data", soleListLikeness "txs"),
    ("evidence", soleListLikeness "evidence"), ("last_commit", soleListLikeness "signatures")]

/-- Blocks with such a body. -/
def blockLikeness : Likeness := .record [("block_id", Eq), ("block", blockBodyLikeness)]

theorem event_respects : event.Respects eventLikeness :=
  record_respects (by simp [listField]) (by decide) <|
    .fixed <| .cons (listField_respects (.eq _)) nil_respects

theorem txResult_respects : txResult.Respects txResultLikeness :=
  record_respects (by simp [listField]) (by decide) <|
    .fixed <| .fixed <| .fixed <| .fixed <| .fixed <|
    .cons (listField_respects event_respects) nil_respects

theorem blockResults_respects : blockResults.Respects blockResultsLikeness :=
  record_respects (by simp [listField]) (by decide) <|
    .fixed <| .cons (listField_respects txResult_respects) <|
    .cons (listField_respects event_respects) <| .cons (listField_respects event_respects) <|
    .cons (listField_respects event_respects) <| .cons (listField_respects (.eq _)) nil_respects

theorem soleList_respects {α : Type} {name key : String} {c : Codec α} :
    (record name (.cons (listField key id c) .nil) Prod.fst).Respects (soleListLikeness key) :=
  record_respects (by simp [listField]) (List.pairwise_singleton ..) <|
    .cons (listField_respects (.eq _)) nil_respects

theorem blockBody_respects : blockBody.Respects blockBodyLikeness :=
  record_respects (by simp) (by decide) <|
    .fixed <| .cons (.of_codec soleList_respects) <|
    .cons (.of_codec (soleList_respects.option fun _ _ => Likeness.record_null_iff)) <|
    .cons (.of_codec (soleList_respects.option fun _ _ => Likeness.record_null_iff)) nil_respects

theorem encodedBlock_respects : encodedBlock.Respects blockLikeness :=
  record_respects (by simp) (by decide) <|
    .fixed <| .cons (.of_codec blockBody_respects) nil_respects

/-! ## One of each per entry -/

theorem entries_ordered {p : Option Value} (hp : Tidy p) : ∀ v ∈ entries p, v.Ordered := by
  intro v hv
  cases p with
  | none => cases hv
  | some list =>
    cases list with
    | array vs => exact Value.ordered_array_iff.1 (hp _ rfl) v hv
    | _ => cases hv

/-- Each entry of a list in an ordered document is read with all that follows from it. -/
theorem listField_told {ρ α : Type} {key : String} {get : ρ → List α} {c : Codec α}
    {Told : Value → α → Prop} {stage : Stage}
    (htold : ∀ v, v.Ordered → ∀ x, c.read stage v = .ok x → Told v x) {doc : Value}
    (hdoc : doc.Ordered) {name : String} {place : Nat} {xs : List α}
    (h : (listField key get c).found stage (doc.part? name place) = some xs) :
    List.Forall₂ Told (entries (doc.part? name place)) xs := by
  have hordered := entries_ordered fun v (hv : v ∈ doc.part? name place) => hdoc.part? hv
  have hread := (List.forall₂_and_left _ _).2 ⟨hordered, listField_found h⟩
  exact hread.imp fun v x hvx => htold v hvx.1 x hvx.2

/-- The event is that of the entry, with one attribute per entry of its list. -/
def EventTold (v : Value) (e : AbciEvent) : Prop :=
  event.decode v = .ok e ∧
    List.Forall₂ (fun v a => eventAttribute.decode v = .ok a) (entries (v.part? "attributes" 1))
      e.attributes

/-- The result is that of the entry, with one event per entry of its list. -/
def TxResultTold (v : Value) (r : TxResult) : Prop :=
  txResult.decode v = .ok r ∧ List.Forall₂ EventTold (entries (v.part? "events" 5)) r.events

/-- The lists of block results are those of the document, entry by entry. -/
structure BlockResultsTold (v : Value) (r : BlockResults) : Prop where
  txsResults : List.Forall₂ TxResultTold (entries (v.part? "txs_results" 1)) r.txsResults
  beginBlockEvents :
    List.Forall₂ EventTold (entries (v.part? "begin_block_events" 2)) r.beginBlockEvents
  endBlockEvents :
    List.Forall₂ EventTold (entries (v.part? "end_block_events" 3)) r.endBlockEvents
  finalizeBlockEvents :
    List.Forall₂ EventTold (entries (v.part? "finalize_block_events" 4)) r.finalizeBlockEvents
  validatorUpdates :
    List.Forall₂ (fun v u => validatorUpdate.decode v = .ok u)
      (entries (v.part? "validator_updates" 5)) r.validatorUpdates

theorem event_told {v : Value} (hv : v.Ordered) {e : AbciEvent} (h : event.decode v = .ok e) :
    EventTold v e := by
  obtain ⟨-, fields, hfields, rfl⟩ :=
    (record_eq_ok_iff (by simp [listField]) (by decide) hv).1 h
  simp only [gather_cons_eq_some_iff] at hfields
  obtain ⟨-, hattributes, -⟩ := hfields
  exact ⟨h, listField_found hattributes⟩

theorem txResult_told {v : Value} (hv : v.Ordered) {r : TxResult} (h : txResult.decode v = .ok r) :
    TxResultTold v r := by
  obtain ⟨-, fields, hfields, rfl⟩ :=
    (record_eq_ok_iff (by simp [listField]) (by decide) hv).1 h
  simp only [gather_cons_eq_some_iff] at hfields
  obtain ⟨-, -, -, -, -, hevents, -⟩ := hfields
  exact ⟨h, listField_told (fun _ hv _ => event_told hv) hv hevents⟩

theorem blockResults_told {v : Value} (hv : v.Ordered) {r : BlockResults}
    (h : blockResults.decode v = .ok r) : BlockResultsTold v r := by
  obtain ⟨-, fields, hfields, rfl⟩ :=
    (record_eq_ok_iff (by simp [listField]) (by decide) hv).1 h
  simp only [gather_cons_eq_some_iff] at hfields
  obtain ⟨-, htxs, hbegins, hends, hfinals, hupdates, -⟩ := hfields
  exact {
    txsResults := listField_told (fun _ hv _ => txResult_told hv) hv htxs
    beginBlockEvents := listField_told (fun _ hv _ => event_told hv) hv hbegins
    endBlockEvents := listField_told (fun _ hv _ => event_told hv) hv hends
    finalizeBlockEvents := listField_told (fun _ hv _ => event_told hv) hv hfinals
    validatorUpdates := listField_found hupdates }

/-- The document is read as this block. -/
def ReadsBlock (v : Value) (b : Block) : Prop :=
  ∃ e, encodedBlock.decode v = .ok e ∧ e.decode = .ok b

def bodyList (part : String) (place : Nat) (key : String) (body : Value) : Option Value :=
  (body.part? part place).bind (Value.part? key 0)

def blockList (part : String) (place : Nat) (key : String) (v : Value) : Option Value :=
  (v.part? "block" 1).bind (bodyList part place key)

/-- The lists of the block are those of the document, entry by entry; transactions by the bytes that
their base64 stands for. -/
structure BlockTold (v : Value) (b : Block) : Prop where
  txs :
    List.Forall₂ (fun v tx => ∃ s, v = .string s ∧ Base64.decode (Utf8.encode s) = .ok tx.bytes)
      (entries (blockList "data" 1 "txs" v)) b.txs
  signatures :
    List.Forall₂ (fun v s => signature.decode v = .ok s)
      (entries (blockList "last_commit" 3 "signatures" v)) b.signatures
  evidenceCount :
    b.evidenceCount = UInt64.ofNat (entries (blockList "evidence" 2 "evidence" v)).length

section

variable {α : Type} {name key : String} {c : Codec α} {stage : Stage}

theorem soleList_told {v : Value} (hv : v.Ordered) {xs : List α}
    (h : (record name (.cons (listField key id c) .nil) Prod.fst).read stage v = .ok xs) :
    List.Forall₂ (fun v x => c.read stage v = .ok x) (entries (v.part? key 0)) xs := by
  have hkeys : (keys (.cons (listField key (id : List α → List α) c) .nil)).Nodup :=
    List.pairwise_singleton ..
  obtain ⟨-, fields, hfields, rfl⟩ := (record_eq_ok_iff (by simp [listField]) hkeys hv).1 h
  exact listField_found (gather_cons_eq_some_iff.1 hfields).1

theorem optionalList_told {ρ : Type} {part : String} {get : ρ → Option (List α)}
    {p : Option Value} (hp : Tidy p) {xs? : Option (List α)}
    (h : (Field.default part get
        (record name (.cons (listField key id c) .nil) Prod.fst).option none).found stage p
      = some xs?) :
    List.Forall₂ (fun v x => c.read stage v = .ok x) (entries (p.bind (Value.part? key 0)))
      (xs?.getD []) := by
  cases p with
  | none => cases h; exact .nil
  | some v =>
    have hread := eq_ok_of_toOption h
    by_cases hnull : v = .null
    · subst hnull
      cases hread
      exact .nil
    · obtain ⟨xs, hxs, rfl⟩ := map_eq_ok_iff.1 (Codec.option_read_of_ne_null _ _ hnull ▸ hread)
      exact soleList_told (hp v rfl) hxs

end

theorem readTx_eq_ok_iff {s : String} {tx : RawTx} :
    readTx s = .ok tx ↔ Base64.decode (Utf8.encode s) = .ok tx.bytes := by
  rw [readTx]
  split
  · rename_i bytes hbytes
    rw [hbytes, Except.ok.injEq, Except.ok.injEq]
    exact ⟨fun h => h ▸ rfl, fun h => h ▸ rfl⟩
  · rename_i e he
    rw [he]
    exact ⟨fun h => (by cases h), fun h => (by cases h)⟩

theorem blockBody_told {stage : Stage} {v : Value} (hv : v.Ordered)
    {body : BlockHeader × List String × List Value × List CommitSignature}
    (h : blockBody.read stage v = .ok body) :
    List.Forall₂ (fun v s => Codec.string.read stage v = .ok s)
        (entries (bodyList "data" 1 "txs" v)) body.2.1 ∧
      List.Forall₂ (fun v e => Codec.value.read stage v = .ok e)
        (entries (bodyList "evidence" 2 "evidence" v)) body.2.2.1 ∧
      List.Forall₂ (fun v s => signature.read stage v = .ok s)
        (entries (bodyList "last_commit" 3 "signatures" v)) body.2.2.2 := by
  obtain ⟨-, fields, hfields, rfl⟩ := (record_eq_ok_iff (by simp) (by decide) hv).1 h
  simp only [gather_cons_eq_some_iff, Field.found_required] at hfields
  obtain ⟨-, ⟨data, hdata, htxs⟩, hevidence, hsignatures, -⟩ := hfields
  have htold : List.Forall₂ _ (entries ((some data).bind (Value.part? "txs" 0))) _ :=
    soleList_told (hv.part? hdata) htxs
  rw [← hdata] at htold
  exact ⟨htold, optionalList_told (fun _ => hv.part?) hevidence,
    optionalList_told (fun _ => hv.part?) hsignatures⟩

theorem strings_of_read {stage : Stage} {vs : List Value} {ss : List String}
    (h : List.Forall₂ (fun v s => Codec.string.read stage v = .ok s) vs ss) :
    vs = ss.map .string := by
  induction h with
  | nil => rfl
  | @cons v s _ _ hread _ ih =>
    cases v with
    | string s' => cases hread; rw [ih, List.map_cons]
    | _ => cases hread

theorem block_told {v : Value} (hv : v.Ordered) {b : Block} (h : ReadsBlock v b) :
    BlockTold v b := by
  obtain ⟨encoded, hencoded, hdecode⟩ := h
  obtain ⟨-, fields, hfields, rfl⟩ := (record_eq_ok_iff (by simp) (by decide) hv).1 hencoded
  simp only [gather_cons_eq_some_iff, Field.found_required] at hfields
  obtain ⟨-, ⟨body, hbody, hread⟩, -⟩ := hfields
  have hlist : ∀ part place key, blockList part place key v = bodyList part place key body :=
    fun part place key => congrArg (·.bind (bodyList part place key)) hbody
  obtain ⟨htxs, hevidence, hsignatures⟩ := blockBody_told (hv.part? hbody) hread
  obtain ⟨txs, hbytes, hb⟩ := bind_eq_ok_iff.1 hdecode
  cases hb
  refine ⟨?_, ?_, ?_⟩
  · rw [hlist, strings_of_read htxs, List.forall₂_map_left_iff]
    exact (mapM_eq_ok_iff.1 hbytes).imp fun s tx htx => ⟨s, rfl, readTx_eq_ok_iff.1 htx⟩
  · rw [hlist]
    exact hsignatures
  · rw [hlist, hevidence.length_eq]
    rfl

/-! ## Whole documents -/

theorem ReadsBlock.of_alike {v w : Value} (hv : v.Ordered) (hw : w.Ordered)
    (h : blockLikeness (some v) (some w)) {b : Block} (hb : ReadsBlock v b) : ReadsBlock w b := by
  obtain ⟨encoded, hencoded, hdecode⟩ := hb
  have hread := encodedBlock_respects.read_eq .direct hv hw h
  exact ⟨encoded, eq_ok_of_toOption (hread ▸ toOption_eq_some_iff.2 hencoded), hdecode⟩

/-- **Null, absent and empty lists are the same in a node's answers, and other lists are kept.**
Two documents that differ in the form of empty lists only, wherever these stand, are read as the
same block or as the same block results. The lists of what is read have one item for each entry of
the document's list, in its order. A document that was parsed is ordered (`parse?_ordered`). -/
theorem lists_alike {v w : Value} (hv : v.Ordered) (hw : w.Ordered) :
    (blockLikeness (some v) (some w) → ∀ b, ReadsBlock v b → ReadsBlock w b) ∧
      (blockResultsLikeness (some v) (some w) →
        ∀ r, blockResults.decode v = .ok r → blockResults.decode w = .ok r) ∧
      (∀ b, ReadsBlock v b → BlockTold v b) ∧
      ∀ r, blockResults.decode v = .ok r → BlockResultsTold v r := by
  refine ⟨fun h b hb => hb.of_alike hv hw h, fun h r hr => ?_, fun b hb => block_told hv hb,
    fun r hr => blockResults_told hv hr⟩
  have hread := blockResults_respects.read_eq .direct hv hw h
  exact eq_ok_of_toOption (hread ▸ toOption_eq_some_iff.2 hr)

/-- A block with one signature, and with these members below its data and its evidence. -/
def quietBlock (data evidence : Members) : Value :=
  .object [
    ("block", .object [
      ("data", .object data),
      ("evidence", .object evidence),
      ("header", .object [("chain_id", .string "test-1"), ("height", .string "3"),
        ("time", .string "2023-05-01T10:00:00Z")]),
      ("last_commit", .object [("signatures", .array [.object [("block_id_flag", .ofNat 2)]])])]),
    ("block_id", .object [("hash", .string "ABCD")])]

/-- Block results with one event, and with these members before its type and before the height. -/
def quietResults (attributes begins : Members) : Value :=
  .object (begins ++ [
    ("height", .string "3"),
    ("txs_results", .array [.object [
      ("events", .array [.object (attributes ++ [("type", .string "transfer")])])]])])

theorem quietBlock_alike {data evidence data' evidence' : Members}
    (hdata : Blank (data.lookup "txs")) (hdata' : Blank (data'.lookup "txs"))
    (hevidence : Blank (evidence.lookup "evidence"))
    (hevidence' : Blank (evidence'.lookup "evidence")) :
    blockLikeness (some (quietBlock data evidence)) (some (quietBlock data' evidence')) :=
  .object <| .cons rfl <| .cons
    (.object <| .cons rfl <| .cons (.object <| .cons (.blank hdata hdata') .nil) <|
      .cons (.object <| .cons (.blank hevidence hevidence') .nil) <| .cons (.same _) .nil) .nil

theorem quietResults_alike :
    blockResultsLikeness (some (quietResults [("attributes", .null)] []))
      (some (quietResults [] [("begin_block_events", .array [])])) := by
  have hevent : eventLikeness
      (some (.object [("attributes", .null), ("type", .string "transfer")]))
      (some (.object [("type", .string "transfer")])) :=
    .object <| .cons rfl <| .cons (.blank (.inr (.inl rfl)) (.inl rfl)) .nil
  refine .object <| .cons rfl <| .cons (.entries <| .cons ?_ .nil) <|
    .cons (.blank (.inl rfl) (.inr (.inr rfl))) <| .cons (.same _) <| .cons (.same _) <|
    .cons (.same _) .nil
  exact .object <| .cons rfl <| .cons rfl <| .cons rfl <| .cons rfl <| .cons rfl <|
    .cons (.entries <| .cons hevent .nil) .nil

theorem quiet_ordered :
    (quietBlock [("txs", .null)] [("evidence", .array [])]).Ordered ∧
      (quietBlock [] [("evidence", .null)]).Ordered ∧
      (quietResults [("attributes", .null)] []).Ordered ∧
      (quietResults [] [("begin_block_events", .array [])]).Ordered := by
  -- the keys are compared as they stand
  simp only [quietBlock, quietResults, Value.ordered_object_iff, Value.ordered_array_iff,
    Value.ordered_null, Value.ordered_string, Value.ordered_ofNat, List.cons_append,
    List.nil_append, List.map_cons, List.map_nil, List.pairwise_cons, List.Pairwise.nil,
    List.mem_cons, List.not_mem_nil, or_false, forall_eq, forall_eq_or_imp, IsEmpty.forall_iff,
    implies_true, and_self, String.reduceLT]

theorem quiet_alike :
    (∃ b, ReadsBlock (quietBlock [("txs", .null)] [("evidence", .array [])]) b ∧
      ReadsBlock (quietBlock [] [("evidence", .null)]) b) ∧
    ∃ r, blockResults.decode (quietResults [("attributes", .null)] []) = .ok r ∧
      blockResults.decode (quietResults [] [("begin_block_events", .array [])]) = .ok r := by
  have hblock : ((encodedBlock.decode (quietBlock [("txs", .null)] [("evidence", .array [])])).bind
      fun e => e.decode.mapError fun _ => .missingField "").isOk := by decide +kernel
  have hresults : (blockResults.decode (quietResults [("attributes", .null)] [])).isOk := by
    decide +kernel
  obtain ⟨b, hb⟩ := isOk_eq_true_iff.1 hblock
  obtain ⟨e, he, hb⟩ := bind_eq_ok_iff.1 hb
  have hread : ReadsBlock _ b := ⟨e, he, mapError_eq_ok_iff.1 hb⟩
  obtain ⟨r, hr⟩ := isOk_eq_true_iff.1 hresults
  obtain ⟨hb₁, hb₂, hr₁, hr₂⟩ := quiet_ordered
  refine ⟨⟨b, hread, (lists_alike hb₁ hb₂).1 ?_ b hread⟩, r, hr, (lists_alike hr₁ hr₂).2.1 ?_ r hr⟩
  · exact quietBlock_alike (.inr (.inl rfl)) (.inl rfl) (.inr (.inr rfl)) (.inr (.inl rfl))
  · exact quietResults_alike

end ChainIndexer.Node
