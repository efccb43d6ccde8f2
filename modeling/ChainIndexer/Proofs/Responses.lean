import ChainIndexer.Http.Transport
import ChainIndexer.Proofs.Json.Documents

/-!
# What a response means

A document in the body of a response may report an error, whatever the status: an error object
(`ReportsRpc`) or a code (`ReportsCode`).

* `Transport.embeddedError?_spec`: which error is taken from a document.
* `Transport.judge_isRetryable_iff`, `Transport.judge_eq_ok_iff`: after which responses another try
  may succeed, and which bring a document.
-/

namespace ChainIndexer

open Json (Codec Value Members Fields)

/-! ## Errors in a document -/

/-- The value is an error object: it has a code of 64 bits and a text. -/
def IsErrorObject (e : Value) : Prop :=
  ((e.get? "code").bind Value.int64?).isSome ∧ ((e.get? "message").bind Value.string?).isSome

def ReportsRpc (v : Value) : Prop := ∃ e, v.get? "error" = some e ∧ IsErrorObject e

/-- The document reports a code of 64 bits other than zero. -/
def ReportsCode (v : Value) : Prop :=
  ∃ code, (v.get? "code").bind Value.int64? = some code ∧ code ≠ 0

/-- An object is read as an error object when it is one, whatever else its members say. -/
theorem isErrorObject_iff {e : Value} (h : e.Ordered) :
    e.object?.isSome ∧ (JsonRpcError.codec.decode e).toOption.isSome ↔ IsErrorObject e := by
  have hdata : ∀ v, (Codec.value.option.read .direct v).toOption.isSome := by
    intro v
    cases v <;> rfl
  cases e with
  | object members =>
    have hobject : (Value.object members).object?.isSome = true := rfl
    rw [and_iff_right hobject, Codec.decode, JsonRpcError.codec,
      Json.record_toOption _ _ _ _ _ h.nodup, Option.isSome_map]
    · refine Fields.look_cons_isSome.trans (and_congr ?_ (Fields.look_cons_isSome.trans ?_))
      · rw [Json.Field.look_required]
        simp only [Codec.int64_toOption, Value.get?]
      · rw [Json.Field.look_required]
        simp only [Codec.string_toOption, Value.get?]
        refine and_iff_left (Fields.look_cons_isSome.2 ⟨?_, rfl⟩)
        unfold Json.Field.look
        cases members.lookup "data" with
        | none => rfl
        | some v => exact hdata v
    · exact ⟨rfl, rfl, rfl, trivial⟩
    · decide
  | _ => exact iff_of_false (fun h => Bool.false_ne_true h.1) fun h => Bool.false_ne_true h.1

namespace Transport

theorem embeddedError?_spec {v : Value} (h : v.Ordered) :
    (ReportsRpc v ∧ ∃ e, embeddedError? v = some (.rpc e)) ∨
      (¬ReportsRpc v ∧ ReportsCode v ∧ ∃ code text, embeddedError? v = some (.api code text)) ∨
      (¬ReportsRpc v ∧ ¬ReportsCode v ∧ embeddedError? v = none) := by
  by_cases hrpc : ReportsRpc v
  · refine .inl ⟨hrpc, ?_⟩
    obtain ⟨e, herror, he⟩ := hrpc
    obtain ⟨hobject, hdecode⟩ := (isErrorObject_iff (h.get? herror)).2 he
    obtain ⟨members, hmembers⟩ := Option.isSome_iff_exists.1 hobject
    obtain ⟨rpc, hread⟩ := Option.isSome_iff_exists.1 hdecode
    exact ⟨rpc, by simp [embeddedError?, herror, hmembers, hread]⟩
  · -- without an error object the code decides
    have hnone : (do
        let e ← v.get? "error"
        let _ ← e.object?
        let e ← (JsonRpcError.codec.decode e).toOption
        return RpcError.rpc e) = none := by
      simp only [Option.bind_eq_bind, Option.bind_eq_none_iff]
      intro e herror members hmembers rpc hread
      refine absurd ⟨e, herror, (isErrorObject_iff (h.get? herror)).1 ⟨?_, ?_⟩⟩ hrpc
      · rw [hmembers]; rfl
      · rw [hread]; rfl
    refine .inr ?_
    rw [embeddedError?, hnone]
    by_cases hcode : ReportsCode v
    · obtain ⟨code, hget, hne⟩ := hcode
      obtain ⟨w, hw, hint⟩ := Option.bind_eq_some_iff.1 hget
      refine .inl ⟨hrpc, ⟨code, hget, hne⟩, code, ((v.get? "message").bind Value.string?).getD "", ?_⟩
      simp [hw, hint, hne]
    · refine .inr ⟨hrpc, hcode, ?_⟩
      refine Option.bind_eq_none_iff.2 fun w hw => Option.bind_eq_none_iff.2 fun code hint => ?_
      have hzero : code = 0 := by
        by_contra hne
        exact hcode ⟨code, by rw [hw]; exact hint, hne⟩
      rw [if_pos hzero]
      rfl

/-! ## How a response is judged -/

def BodyReportsRpc (body : String) : Prop := ∃ v, Json.parse? body = some v ∧ ReportsRpc v

def bodyError? (body : String) : Option RpcError := (Json.parse? body).bind embeddedError?

variable {body : String}

theorem bodyError?_of_parsed {v : Value} (h : Json.parse? body = some v) :
    bodyError? body = embeddedError? v := by
  rw [bodyError?, h]
  rfl

theorem bodyError?_of_rpc (h : BodyReportsRpc body) : ∃ e, bodyError? body = some (.rpc e) := by
  obtain ⟨v, hv, hrpc⟩ := h
  rw [bodyError?_of_parsed hv]
  rcases embeddedError?_spec (Json.parse?_ordered hv) with ⟨-, he⟩ | ⟨hnot, -⟩ | ⟨hnot, -⟩
  · exact he
  · exact absurd hrpc hnot
  · exact absurd hrpc hnot

theorem bodyError?_of_not_rpc (h : ¬BodyReportsRpc body) {e : RpcError}
    (he : bodyError? body = some e) : ∃ code text, e = .api code text := by
  obtain ⟨v, hv, hembedded⟩ := Option.bind_eq_some_iff.1 he
  rcases embeddedError?_spec (Json.parse?_ordered hv) with
    ⟨hrpc, -⟩ | ⟨-, -, code, text, hcode⟩ | ⟨-, -, hnone⟩
  · exact absurd ⟨v, hv, hrpc⟩ h
  · rw [hcode] at hembedded
    exact ⟨code, text, (Option.some.inj hembedded).symm⟩
  · rw [hnone] at hembedded
    cases hembedded

theorem bodyError?_eq_none_iff {v : Value} (h : Json.parse? body = some v) :
    bodyError? body = none ↔ ¬ReportsRpc v ∧ ¬ReportsCode v := by
  rw [bodyError?_of_parsed h]
  rcases embeddedError?_spec (Json.parse?_ordered h) with
    ⟨hrpc, e, he⟩ | ⟨-, hcode, code, text, he⟩ | ⟨hrpc, hcode, he⟩
  · rw [he]
    exact iff_of_false nofun fun hnot => hnot.1 hrpc
  · rw [he]
    exact iff_of_false nofun fun hnot => hnot.2 hcode
  · exact iff_of_true he ⟨hrpc, hcode⟩

theorem not_isRetryable_of_bodyError? {e : RpcError} (h : bodyError? body = some e) :
    e.isRetryable = false := by
  by_cases hrpc : BodyReportsRpc body
  · obtain ⟨e', he'⟩ := bodyError?_of_rpc hrpc
    cases he'.symm.trans h
    rfl
  · obtain ⟨code, text, rfl⟩ := bodyError?_of_not_rpc hrpc h
    rfl

variable {status : Nat}

theorem isTransient_iff :
    isTransient status = true ↔ status = 429 ∨ 500 ≤ status ∧ status < 600 := by
  simp [isTransient]

theorem isSuccess_iff : isSuccess status = true ↔ 200 ≤ status ∧ status < 300 := by
  simp [isSuccess]

theorem judge_of_transient (h : isTransient status = true) (u : Url) (body : String) :
    judge u status body = .error (((bodyError? body).filter fun e => isRpc e && status == 500).getD
      (.status status (truncate body 512))) := by
  unfold judge
  dsimp only
  rw [if_pos h, ← bodyError?]
  cases (bodyError? body).filter fun e => isRpc e && status == 500 <;> rfl

theorem judge_of_bodyError? (h : isTransient status = false) {e : RpcError}
    (he : bodyError? body = some e) (u : Url) : judge u status body = .error e := by
  unfold judge
  dsimp only
  rw [← bodyError?, he, h]
  rfl

theorem judge_of_plain (h : isTransient status = false) (he : bodyError? body = none) (u : Url) :
    judge u status body =
      if status = 404 then .error (.notFound u.pathText)
      else if !isSuccess status then .error (.status status (truncate body 512))
      else match Json.parse? body with
        | some v => .ok v
        | none => .error (.deserialization
            ("non-JSON body from " ++ u.text ++ ": " ++ truncate body 128)) := by
  unfold judge
  dsimp only
  rw [← bodyError?, he, h]
  rfl

theorem judge_isRetryable_of_transient (h : isTransient status = true) (u : Url) (body : String) :
    (∃ e, judge u status body = .error e ∧ e.isRetryable = true) ↔
      ¬(status = 500 ∧ BodyReportsRpc body) := by
  have hstatus : (RpcError.status status (truncate body 512)).isRetryable = true := by
    have hranges := isTransient_iff.1 h
    simp only [RpcError.isRetryable, Bool.or_eq_true, beq_iff_eq, decide_eq_true_eq]
    omega
  rw [judge_of_transient h]
  simp only [Except.error.injEq, exists_eq_left']
  by_cases hrpc : BodyReportsRpc body
  · obtain ⟨e, he⟩ := bodyError?_of_rpc hrpc
    by_cases h500 : status = 500
    · simp [he, h500, hrpc, isRpc, Option.filter, RpcError.isRetryable]
    · simpa [he, h500, isRpc, Option.filter] using hstatus
  · have hnone : (bodyError? body).filter (fun e => isRpc e && status == 500) = none := by
      rw [Option.filter_eq_none_iff]
      intro e he
      obtain ⟨code, text, rfl⟩ := bodyError?_of_not_rpc hrpc he
      simp [isRpc]
    rw [hnone]
    exact iff_of_true hstatus fun hboth => hrpc hboth.2

theorem judge_isRetryable_of_final (h : isTransient status = false) (hlt : status < 600) {u : Url}
    {e : RpcError} (he : judge u status body = .error e) : e.isRetryable = false := by
  have hranges : ¬(status = 429 ∨ 500 ≤ status ∧ status < 600) := by
    rw [← isTransient_iff, h]
    exact Bool.false_ne_true
  cases hbody : bodyError? body with
  | some e' =>
    rw [judge_of_bodyError? h hbody] at he
    cases he
    exact not_isRetryable_of_bodyError? hbody
  | none =>
    rw [judge_of_plain h hbody] at he
    split at he
    · cases he
      rfl
    · split at he
      · cases he
        simp only [RpcError.isRetryable, Bool.or_eq_false_iff, beq_eq_false_iff_ne,
          decide_eq_false_iff_not]
        omega
      · split at he
        · cases he
        · cases he
          rfl

/-- Another try is made for the statuses that ask for one, but not for a status 500 with which an
error object comes. -/
theorem judge_isRetryable_iff (u : Url) (hlt : status < 600) (body : String) :
    (∃ e, judge u status body = .error e ∧ e.isRetryable = true) ↔
      (status = 429 ∨ 500 ≤ status) ∧ ¬(status = 500 ∧ BodyReportsRpc body) := by
  have hranges : isTransient status = true ↔ status = 429 ∨ 500 ≤ status := by
    rw [isTransient_iff, and_iff_left hlt]
  rw [← hranges]
  cases htransient : isTransient status with
  | true =>
    rw [and_iff_right rfl]
    exact judge_isRetryable_of_transient htransient u body
  | false =>
    refine iff_of_false ?_ fun h => Bool.false_ne_true h.1
    rintro ⟨e, he, hretry⟩
    rw [judge_isRetryable_of_final htransient hlt he] at hretry
    exact Bool.false_ne_true hretry

/-- A response brings the document in its body where its status says that all went well and the
document reports nothing else. -/
theorem judge_eq_ok_iff (u : Url) (body : String) {v : Value} :
    judge u status body = .ok v ↔ (200 ≤ status ∧ status < 300) ∧
      Json.parse? body = some v ∧ ¬ReportsRpc v ∧ ¬ReportsCode v := by
  cases htransient : isTransient status with
  | true =>
    have hranges := isTransient_iff.1 htransient
    rw [judge_of_transient htransient]
    exact iff_of_false nofun fun h => by omega
  | false =>
    cases hbody : bodyError? body with
    | some e =>
      rw [judge_of_bodyError? htransient hbody]
      refine iff_of_false nofun fun h => ?_
      rw [(bodyError?_eq_none_iff h.2.1).2 h.2.2] at hbody
      cases hbody
    | none =>
      rw [judge_of_plain htransient hbody, ← isSuccess_iff]
      cases hsuccess : isSuccess status with
      | false =>
        refine iff_of_false ?_ fun h => Bool.false_ne_true h.1
        split <;> exact nofun
      | true =>
        have h404 : status ≠ 404 := by
          rintro rfl
          cases hsuccess
        rw [if_neg h404, and_iff_right rfl]
        cases hparse : Json.parse? body with
        | none => exact iff_of_false nofun fun h => by cases h.1
        | some w =>
          have hplain := (bodyError?_eq_none_iff hparse).1 hbody
          constructor
          · intro h
            cases h
            exact ⟨rfl, hplain⟩
          · rintro ⟨hw, -⟩
            cases hw
            rfl

end Transport

end ChainIndexer
