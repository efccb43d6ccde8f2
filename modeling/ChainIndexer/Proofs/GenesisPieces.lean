import ChainIndexer.Node.Client
import ChainIndexer.Proofs.FixedServer
import ChainIndexer.Proofs.Json.Outlining
import ChainIndexer.Proofs.Text.Base64
import ChainIndexer.Proofs.Text.Utf8

/-!
# A genesis document in pieces

A node that does not give the document as a whole serves it cut into pieces, each in base64
(`Node.Serves`). Where it is cut makes no difference, not even inside a character: what is read are
the bytes of all pieces together.

* `Node.Serves.piecesFrom_all`: the pieces are asked for one after the other up to the last.
* `Node.readGenesis_of_parse?`: a document that can be read as a whole tells the same.
* `Node.genesis_of_pieces`: the document, and what becomes of it where a piece is not served.
-/

namespace ChainIndexer.Node

variable {σ : Type}

open Client (piecesFrom genesisPiece genesisWith readGenesis)

/-! ## Pieces that are served -/

def base64Text (bytes : List UInt8) : String :=
  .ofList ((Base64.encode bytes).map fun b => Char.ofNat b.toNat)

/-- From a number and a state on, these pieces are served in turn, each with this total; then the
next number is that one. -/
inductive Serves (ask : UInt64 → Query σ GenesisChunk) (total : UInt64) :
    UInt64 → σ → List (List UInt8) → UInt64 → σ → Prop
  | nil {k s} : Serves ask total k s [] k s
  | cons {k s piece s' pieces k' t} (h : ask k s = some (.ok ⟨total, base64Text piece⟩, s'))
      (rest : Serves ask total (k + 1) s' pieces k' t) : Serves ask total k s (piece :: pieces) k' t

/-- The piece with this number is not served: the request fails, or what comes is not base64. -/
inductive Denies (ask : UInt64 → Query σ GenesisChunk) (k : UInt64) (s : σ) : RpcError → σ → Prop
  | failed {e t} (h : ask k s = some (.error e, t)) : Denies ask k s e t
  | garbled {part fault t} (h : ask k s = some (.ok part, t))
      (hfault : Base64.decode (Utf8.encode part.data) = .error fault) :
      Denies ask k s (.decode ("genesis chunk " ++ Numeral.natural k.toNat ++ ": " ++ fault.message))
        t

variable {ask : UInt64 → Query σ GenesisChunk} {total k k' : UInt64} {s t : σ}
  {pieces : List (List UInt8)} {piece : List UInt8} {e : RpcError}

theorem decode_base64Text (bytes : List UInt8) :
    Base64.decode (Utf8.encode (base64Text bytes)) = .ok bytes :=
  Base64.decode_eq_ok_iff.2 (Utf8.encode_ofList_ascii (Base64.encode_ascii bytes))

theorem genesisPiece_of_served (h : ask k s = some (.ok ⟨total, base64Text piece⟩, t)) :
    genesisPiece ask k s = some (.ok (piece, total), t) := by
  rw [genesisPiece, Query.bind_run, h]
  dsimp only
  rw [decode_base64Text]
  rfl

theorem Denies.genesisPiece (h : Denies ask k s e t) :
    genesisPiece ask k s = some (.error e, t) := by
  rw [Client.genesisPiece, Query.bind_run]
  cases h with
  | failed h => rw [h]
  | garbled h hfault =>
    rw [h]
    dsimp only
    rw [hfault]
    rfl

theorem toNat_next (k total : UInt64) (h : k.toNat < total.toNat) :
    (k + 1).toNat = k.toNat + 1 := by
  have hlt := total.toNat_lt
  rw [UInt64.toNat_add]
  exact Nat.mod_eq_of_lt (by simp only [UInt64.toNat_one]; omega)

theorem le_next_iff (k total : UInt64) (h : k.toNat < total.toNat) :
    total ≤ k + 1 ↔ total.toNat = k.toNat + 1 := by
  rw [UInt64.le_iff_toNat_le, toNat_next k total h]
  omega

theorem Serves.toNat_end (h : Serves ask total k s pieces k' t)
    (hle : k.toNat + pieces.length ≤ total.toNat) : k'.toNat = k.toNat + pieces.length := by
  induction h with
  | nil => rfl
  | @cons k s piece s' pieces k' t h rest ih =>
    rw [List.length_cons] at hle ⊢
    have hnext := toNat_next k total (by omega)
    rw [ih (by omega)]
    omega

theorem piecesFrom_of_served {s' : σ} (h : ask k s = some (.ok ⟨total, base64Text piece⟩, s'))
    (left : Nat) (bytes : List UInt8) :
    piecesFrom ask (left + 1) k bytes s
      = if total ≤ k + 1 then some (.ok (bytes ++ piece), s')
        else piecesFrom ask left (k + 1) (bytes ++ piece) s' := by
  rw [piecesFrom, Query.bind_run, genesisPiece_of_served h]
  dsimp only
  split <;> rfl

/-- Pieces that are not the last are joined to what came before, and the next one is asked for. -/
theorem Serves.piecesFrom_eq (h : Serves ask total k s pieces k' t)
    (hlt : k.toNat + pieces.length < total.toNat) (left : Nat) (bytes : List UInt8) :
    piecesFrom ask (pieces.length + left) k bytes s
      = piecesFrom ask left k' (bytes ++ pieces.flatten) t := by
  induction h generalizing bytes with
  | nil => simp
  | @cons k s piece s' pieces k' t h rest ih =>
    rw [List.length_cons] at hlt
    have hnext := toNat_next k total (by omega)
    have hlast := le_next_iff k total (by omega)
    have hfuel : (piece :: pieces).length + left = pieces.length + left + 1 := by
      rw [List.length_cons]
      omega
    -- another piece follows
    rw [hfuel, piecesFrom_of_served h, if_neg (mt hlast.1 (by omega)), ih (by omega),
      List.flatten_cons, List.append_assoc]

theorem Serves.piecesFrom_all (h : Serves ask total k s pieces k' t) (hne : pieces ≠ [])
    (hend : k.toNat + pieces.length = total.toNat) {left : Nat} (hleft : pieces.length ≤ left)
    (bytes : List UInt8) :
    piecesFrom ask left k bytes s = some (.ok (bytes ++ pieces.flatten), t) := by
  induction h generalizing left bytes with
  | nil => exact absurd rfl hne
  | @cons k s piece s' pieces k' t h rest ih =>
    rw [List.length_cons] at hend hleft
    obtain ⟨left, rfl⟩ : ∃ n, left = n + 1 := Nat.exists_eq_add_one.2 (by omega)
    have hnext := toNat_next k total (by omega)
    have hlast := le_next_iff k total (by omega)
    rw [piecesFrom_of_served h]
    cases rest with
    | nil =>
      rw [List.length_nil] at hend
      rw [if_pos (hlast.2 (by omega)), List.flatten_singleton]
    | cons h' rest' =>
      rw [List.length_cons] at hend hleft ih
      have hjoin := ih (List.cons_ne_nil _ _) (by omega) (Nat.le_of_succ_le_succ hleft)
        (bytes ++ piece)
      rw [if_neg (mt hlast.1 (by omega)), hjoin, List.append_assoc, ← List.flatten_cons]

theorem Serves.piecesFrom_denied (h : Serves ask total k s pieces k' t) {e : RpcError} {t' : σ}
    (hdenied : Denies ask k' t e t') (hlt : k.toNat + pieces.length < total.toNat) {left : Nat}
    (hleft : pieces.length < left) (bytes : List UInt8) :
    piecesFrom ask left k bytes s = some (.error e, t') := by
  obtain ⟨left, rfl⟩ : ∃ n, left = pieces.length + (n + 1) := ⟨left - pieces.length - 1, by omega⟩
  rw [h.piecesFrom_eq hlt, piecesFrom, Query.bind_run, hdenied.genesisPiece]

/-! ## What is asked for -/

/-- The numbers from one on, as they are written. -/
def numbersFrom (k n : Nat) : List String := (List.range' k n).map Numeral.natural

theorem Serves.noted (h : Serves ask total k s pieces k' t)
    (hle : k.toNat + pieces.length ≤ total.toNat) (notes : List String) :
    Serves (fun k => (ask k).noting (Numeral.natural k.toNat)) total k (notes, s) pieces k'
      (notes ++ numbersFrom k.toNat pieces.length, t) := by
  induction h generalizing notes with
  | nil =>
    rw [List.length_nil, numbersFrom, List.range'_zero, List.map_nil, List.append_nil]
    exact .nil
  | @cons k s piece s' pieces k' t h rest ih =>
    rw [List.length_cons] at hle ⊢
    have hnext := toNat_next k total (by omega)
    have hrest := ih (by omega) (notes ++ [Numeral.natural k.toNat])
    rw [hnext, List.append_assoc] at hrest
    exact .cons (Query.noting_run h _ _) hrest

theorem Denies.noted (h : Denies ask k s e t) (notes : List String) :
    Denies (fun k => (ask k).noting (Numeral.natural k.toNat)) k (notes, s) e
      (notes ++ [Numeral.natural k.toNat], t) := by
  cases h with
  | failed h => exact .failed (Query.noting_run h _ _)
  | garbled h hfault => exact .garbled (Query.noting_run h _ _) hfault

/-- The genesis document, with a note for every question for it and for every piece. -/
def Client.genesisNoting (c : Client) (net : Network σ) (fuel : Nat) :
    Query (List String × σ) Genesis :=
  genesisWith ((c.call net fuel Node.genesis "genesis" []).noting "genesis")
    (fun k => (c.genesisChunk net fuel k).noting (Numeral.natural k.toNat)) fuel

/-! ## The document -/

variable {whole : Query σ Genesis} {refusal : JsonRpcError} {s₀ : σ}

theorem genesisWith_refused (hwhole : whole s = some (.error (.rpc refusal), s₀))
    (hpieces : Text.contains refusal.detail "genesis_chunked" = true) (fuel : Nat) :
    genesisWith whole ask fuel s
      = (piecesFrom ask fuel 0 [] >>= fun bytes => liftM (readGenesis bytes)) s₀ := by
  have hwants : Client.wantsPieces (.rpc refusal) = true := hpieces
  have hcatch : ∀ handle : RpcError → Query σ Genesis,
      (tryCatch whole handle) s = handle (.rpc refusal) s₀ := by
    intro handle
    change ExceptT.tryCatch whole handle s = _
    unfold ExceptT.tryCatch ExceptT.mk
    change StateT.bind whole _ s = _
    unfold StateT.bind
    rw [hwhole]
    rfl
  rw [genesisWith, hcatch]
  simp only [hwants, if_true]

theorem genesisWith_served (hwhole : whole s = some (.error (.rpc refusal), s₀))
    (hpieces : Text.contains refusal.detail "genesis_chunked" = true)
    (h : Serves ask total 0 s₀ pieces k t) (hne : pieces ≠ []) {fuel : Nat}
    (htotal : total.toNat = pieces.length) (hfuel : pieces.length ≤ fuel) :
    genesisWith whole ask fuel s = some (readGenesis pieces.flatten, t) := by
  have hall := h.piecesFrom_all hne (by rw [htotal]; exact Nat.zero_add _) hfuel []
  rw [genesisWith_refused hwhole hpieces, Query.bind_run, hall]
  exact Query.lift_run _ _

theorem genesisWith_denied (hwhole : whole s = some (.error (.rpc refusal), s₀))
    (hpieces : Text.contains refusal.detail "genesis_chunked" = true) {s₁ : σ}
    (h : Serves ask total 0 s₀ pieces k s₁) (hdenied : Denies ask k s₁ e t) {fuel : Nat}
    (htotal : pieces.length < total.toNat) (hfuel : pieces.length < fuel) :
    genesisWith whole ask fuel s = some (.error e, t) := by
  have hall := h.piecesFrom_denied hdenied (by rw [UInt64.toNat_zero]; omega) hfuel []
  rw [genesisWith_refused hwhole hpieces, Query.bind_run, hall]

theorem readGenesis_error {bytes : List UInt8} (h : readGenesis bytes = .error e) :
    ∃ text, e = .deserialization text := by
  unfold readGenesis at h
  split at h
  · cases h
    exact ⟨_, rfl⟩
  · obtain ⟨fault, -, rfl⟩ := mapError_eq_error_iff.1 h
    exact ⟨_, rfl⟩

/-- The whole document tells the same as what is read of it, unless a member that is read is given
twice. -/
theorem readGenesis_of_parse? {doc : String} {v : Json.Value} (h : Json.parse? doc = some v) :
    (∃ members, Json.parseKnown? genesisFields.names (Utf8.encode doc) = some (.object members) ∧
        ¬(members.map Prod.fst).Nodup) ∨
      (readGenesis (Utf8.encode doc)).toOption = (genesisDocument.decode v).toOption := by
  obtain ⟨w, hw, htwice | hsame⟩ := Json.record_in_outline "GenesisDoc" genesisFields _
    (by simp [genesisFields, Json.Fields.Plain, Json.Field.required, Json.Field.default])
    (by decide) .direct h
  · obtain ⟨members, rfl, htwice⟩ := htwice
    exact .inl ⟨members, hw, htwice⟩
  · refine .inr (Eq.trans ?_ hsame)
    rw [readGenesis, hw]
    exact toOption_mapError ..

/-- **A document in pieces is the whole document.** The pieces are asked for in turn, and the
document is what its bytes are read as, wherever it was cut; a piece that is not served ends it. What
a text is read as is what the value of the whole text tells, unless a member that is read is given
twice. -/
theorem genesis_of_pieces (c : Client) (net : Network σ) (fuel : Nat)
    (hwhole : c.call net fuel Node.genesis "genesis" [] s = some (.error (.rpc refusal), s₀))
    (hpieces : Text.contains refusal.detail "genesis_chunked" = true) :
    (∀ doc pieces total k t, pieces ≠ [] → pieces.flatten = doc → total.toNat = pieces.length →
      pieces.length ≤ fuel → Serves (c.genesisChunk net fuel) total 0 s₀ pieces k t →
      c.genesisNoting net fuel ([], s)
        = some (readGenesis doc, "genesis" :: numbersFrom 0 pieces.length, t) ∧
      c.genesis net fuel s = some (readGenesis doc, t)) ∧
    (∀ before total k s₁ e t, before.length < total.toNat → before.length < fuel →
      Serves (c.genesisChunk net fuel) total 0 s₀ before k s₁ →
      Denies (c.genesisChunk net fuel) k s₁ e t →
      c.genesisNoting net fuel ([], s)
        = some (.error e, "genesis" :: numbersFrom 0 (before.length + 1), t) ∧
      c.genesis net fuel s = some (.error e, t)) ∧
    (∀ doc e, readGenesis doc = .error e → ∃ text, e = .deserialization text) ∧
    ∀ doc v, Json.parse? doc = some v →
      (∃ members, Json.parseKnown? genesisFields.names (Utf8.encode doc) = some (.object members) ∧
          ¬(members.map Prod.fst).Nodup) ∨
        (readGenesis (Utf8.encode doc)).toOption = (genesisDocument.decode v).toOption := by
  have hnoted := Query.noting_run hwhole "genesis" []
  refine ⟨?_, ?_, fun doc e => readGenesis_error, fun doc v => readGenesis_of_parse?⟩
  · rintro doc pieces total k t hne rfl htotal hfuel hserves
    have hle : (0 : UInt64).toNat + pieces.length ≤ total.toNat := by
      rw [UInt64.toNat_zero]
      omega
    have hserves' := hserves.noted hle ["genesis"]
    exact ⟨genesisWith_served hnoted hpieces hserves' hne htotal hfuel,
      genesisWith_served hwhole hpieces hserves hne htotal hfuel⟩
  · intro before total k s₁ e t htotal hfuel hserves hdenied
    have hle : (0 : UInt64).toNat + before.length ≤ total.toNat := by
      rw [UInt64.toNat_zero]
      omega
    have hend : k.toNat = before.length := (hserves.toNat_end hle).trans (Nat.zero_add _)
    have hserves' := hserves.noted hle ["genesis"]
    have hdenied' := hdenied.noted (["genesis"] ++ numbersFrom (0 : UInt64).toNat before.length)
    have hnotes : (["genesis"] ++ numbersFrom (0 : UInt64).toNat before.length)
        ++ [Numeral.natural k.toNat] = "genesis" :: numbersFrom 0 (before.length + 1) := by
      rw [hend, numbersFrom, numbersFrom, UInt64.toNat_zero, List.range'_1_concat, List.map_append,
        Nat.zero_add]
      rfl
    rw [hnotes] at hdenied'
    exact ⟨genesisWith_denied hnoted hpieces hserves' hdenied' htotal hfuel,
      genesisWith_denied hwhole hpieces hserves hdenied htotal hfuel⟩

/-! ## Two pieces, cut inside a character -/

/-- The two pieces of a document whose only long character is cut in two. A member that is passed
over holds a byte that is no text, half a surrogate pair, and a number that is too large. -/
def archivePieces : List (List UInt8) :=
  [Utf8.encode "\x7b\"genesis_time\":\"2019-12-11T16:11:34Z\",\"chain_id\":\"" ++ [0xC3],
   0xA9 :: Utf8.encode "\",\"notes\":[\"" ++ [0xFF] ++ Utf8.encode "\\ud800\",1e999]\x7d"]

/-- A node that serves them, and says that there are so many. -/
def archive (total : String) (u : Url) : Reply :=
  let piece (bytes : List UInt8) : Reply := .response ⟨200, none, .text
    ("\x7b\"result\":\x7b\"total\":\"" ++ total ++ "\",\"data\":\"" ++ base64Text bytes
      ++ "\"\x7d\x7d")⟩
  if u.text = "http://archive/genesis_chunked?chunk=0" then piece (archivePieces.getD 0 [])
  else if u.text = "http://archive/genesis_chunked?chunk=1" then piece (archivePieces.getD 1 [])
  else if u.text = "http://archive/genesis" then .response ⟨500, none, .text
    "\x7b\"error\":\x7b\"code\":-32603,\"message\":\"\",\"data\":\"use genesis_chunked\"\x7d\x7d"⟩
  else .response ⟨404, none, .text ""⟩

def archiveClient : Client :=
  ⟨⟨{ scheme := "http", host := some (.name "archive"), path := .segments [""] }, {}⟩⟩

def refuses : Except RpcError Genesis → Bool
  | .error e => Client.wantsPieces e
  | .ok _ => false

theorem archive_refuses : ∀ total ∈ ["2", "3"], ∃ refusal,
    archiveClient.call (.fixed (archive total)) 3 Node.genesis "genesis" [] ()
      = some (.error (.rpc refusal), ()) ∧
    Text.contains refusal.detail "genesis_chunked" = true := by
  intro total htotal
  have hrefused : ((archiveClient.call (.fixed (archive total)) 3 Node.genesis "genesis" [] ()).map
      fun p => refuses p.1) = some true := by
    revert total
    decide +kernel
  obtain ⟨⟨r, u⟩, hr, hwants⟩ := Option.map_eq_some_iff.1 hrefused
  cases r with
  | ok g => cases hwants
  | error e =>
    cases e with
    | rpc refusal => exact ⟨refusal, hr, hwants⟩
    | _ => cases hwants

theorem archive_serves : ∀ total ∈ [("2", 2), ("3", 3)],
    Serves (archiveClient.genesisChunk (.fixed (archive total.1)) 3) total.2 0 () archivePieces 2
      () := by
  intro total htotal
  have hfirst : ((archiveClient.genesisChunk (.fixed (archive total.1)) 3 0 ()).map
      fun p => p.1.toOption) = some (some ⟨total.2, base64Text (archivePieces.getD 0 [])⟩) := by
    revert total
    decide +kernel
  have hsecond : ((archiveClient.genesisChunk (.fixed (archive total.1)) 3 1 ()).map
      fun p => p.1.toOption) = some (some ⟨total.2, base64Text (archivePieces.getD 1 [])⟩) := by
    revert total
    decide +kernel
  exact .cons (Query.run_of_toOption hfirst) (.cons (Query.run_of_toOption hsecond) .nil)

/-- The document is read where two pieces are promised; where three are, the third is asked for and
missed. -/
theorem archive_in_pieces :
    (∃ g, archiveClient.genesisNoting (.fixed (archive "2")) 3 ([], ())
        = some (.ok g, ["genesis", "0", "1"], ()) ∧
      archiveClient.genesis (.fixed (archive "2")) 3 () = some (.ok g, ()) ∧ g.chainId = "é") ∧
    ∃ e, archiveClient.genesisNoting (.fixed (archive "3")) 3 ([], ())
        = some (.error e, ["genesis", "0", "1", "2"], ()) := by
  obtain ⟨refusal, hwhole, hpieces⟩ := archive_refuses "2" (by simp)
  obtain ⟨refusal', hwhole', hpieces'⟩ := archive_refuses "3" (by simp)
  constructor
  · obtain ⟨hserved, -⟩ := genesis_of_pieces archiveClient _ 3 hwhole hpieces
    obtain ⟨hnoting, hplain⟩ := hserved _ _ 2 _ _ (by decide) rfl rfl (by decide)
      (archive_serves ("2", 2) (by simp))
    have hread : (readGenesis archivePieces.flatten).toOption.map Genesis.chainId = some "é" := by
      decide +kernel
    obtain ⟨g, hg, hid⟩ := Option.map_eq_some_iff.1 hread
    rw [eq_ok_of_toOption hg] at hnoting hplain
    exact ⟨g, hnoting, hplain, hid⟩
  · have hmissed : ((archiveClient.genesisChunk (.fixed (archive "3")) 3 2 ()).map
        fun p => p.1.toOption.isSome) = some false := by decide +kernel
    obtain ⟨⟨r, u⟩, hr, hnone⟩ := Option.map_eq_some_iff.1 hmissed
    cases r with
    | ok part => cases hnone
    | error e =>
      obtain ⟨-, hdenied, -⟩ := genesis_of_pieces archiveClient _ 3 hwhole' hpieces'
      exact ⟨e, (hdenied _ 3 _ _ _ _ (by decide) (by decide)
        (archive_serves ("3", 3) (by simp)) (.failed hr)).1⟩

end ChainIndexer.Node
