import ChainIndexer.Proofs.Except
import ChainIndexer.Proofs.Responses
import Mathlib.Logic.Function.Iterate
import Mathlib.Data.List.Infix

/-!
# Requests that are sent again

A request follows redirects (`Trip`) and ends in some way (`Ending`): `Retryable` says which ends
bring another try, and `Delivers` which bring a document.

* `Transport.send_trip`: one request, with its redirects.
* `Transport.retrying_run`: a step is repeated up to the first outcome that is final, or until the
  policy allows no more.
* `Transport.getJson_retries`: what becomes of a request.
-/

namespace ChainIndexer

open Json (Value)

variable {σ : Type}

def SpeaksOfTls (text : String) : Prop :=
  ∃ word ∈ ["certificate", "tls", "handshake"], word.toList <:+: (Text.lower text).toList

theorem Text.occurs_iff {word cs : List Char} : Text.occurs word cs = true ↔ word <:+: cs := by
  induction cs with
  | nil => rw [Text.occurs, List.isEmpty_iff, List.infix_nil]
  | cons c cs ih => rw [Text.occurs, Bool.or_eq_true, ih, List.isPrefixOf_iff_prefix,
      List.infix_cons_iff]

theorem HttpFailure.speaksOfTls_iff (f : HttpFailure) :
    f.speaksOfTls = true ↔ ∃ text ∈ f.text :: f.causes, SpeaksOfTls text := by
  simp only [HttpFailure.speaksOfTls, List.any_eq_true, Text.contains, Text.occurs_iff, SpeaksOfTls]

/-- The other end, with a note of every request. -/
def Network.noting (net : Network σ) : Network (List Url × σ) where
  reply u s := ((net.reply u s.2).1, s.1 ++ [u], (net.reply u s.2).2)
  now s := net.now s.2

theorem Network.noting_reply {net : Network σ} {u : Url} {s s' : σ} {answer : Reply}
    (h : net.reply u s = (answer, s')) (notes : List Url) :
    net.noting.reply u (notes, s) = (answer, notes ++ [u], s') := by
  simp only [noting, h]

namespace Transport

/-! ## How a request ends -/

/-- How a request ends once its redirects are followed: with a response, a connection that failed,
no answer in time, one redirect more than allowed, or a redirect to a URL of another scheme. -/
inductive Ending
  | response (r : Response)
  | unsent (u : Url) (causes : List String)
  | unanswered (u : Url)
  | misled (u : Url)
  | foreign (u : Url)

namespace Ending

def sent : Ending → Except HttpFailure Response
  | response r => .ok r
  | unsent u causes => .error (.unsent u causes)
  | unanswered u => .error (.unanswered u)
  | misled u => .error (.misled u)
  | foreign u => .error (.foreign u)

/-- The end of a request brings another try. A connection that failed does so unless a cause speaks
of encryption, and the URL itself counts as a cause. A body that breaks off is final, whatever the
status says. -/
def Retryable : Ending → Prop
  | response r => r.body = .stalled ∨ (r.status = 429 ∨ 500 ≤ r.status) ∧
      ∃ body, r.body = .text body ∧ ¬(r.status = 500 ∧ BodyReportsRpc body)
  | unsent u causes =>
      ¬∃ text ∈ ("error sending request for url (" ++ u.text ++ ")") :: causes, SpeaksOfTls text
  | unanswered _ => True
  | misled _ => False
  | foreign _ => False

/-- The end of a request brings this document. -/
def Delivers (v : Value) : Ending → Prop
  | response r => (200 ≤ r.status ∧ r.status < 300) ∧
      ∃ body, r.body = .text body ∧ Json.parse? body = some v ∧ ¬ReportsRpc v ∧ ¬ReportsCode v
  | _ => False

end Ending

def SendsOn (u : Url) (r : Response) (next : Url) : Prop :=
  r.status ∈ [301, 302, 303, 307, 308] ∧ ∃ place, r.location = some place ∧ u.join place = .ok next

def Web (u : Url) : Prop := u.scheme = "http" ∨ u.scheme = "https"

theorem not_web_iff {u : Url} : ¬Web u ↔ u.scheme ≠ "http" ∧ u.scheme ≠ "https" := not_or

/-- The way of a request for a URL, with so many redirects left: the URLs that are asked, one after
another, and how it ends. -/
inductive Trip (net : Network σ) : Nat → Url → σ → List Url → Ending → σ → Prop
  | foreign {left u s} (hu : ¬Web u) :
      Trip net left u s [] (.foreign u) s
  | unsent {left u s causes s'} (hu : Web u)
      (h : net.reply u s = (.failed causes, s')) : Trip net left u s [u] (.unsent u causes) s'
  | unanswered {left u s s'} (hu : Web u)
      (h : net.reply u s = (.silent, s')) : Trip net left u s [u] (.unanswered u) s'
  | stays {left u s r s'} (hu : Web u)
      (h : net.reply u s = (.response r, s')) (hr : ∀ next, ¬SendsOn u r next) :
      Trip net left u s [u] (.response r) s'
  | misled {u s r next s'} (hu : Web u)
      (h : net.reply u s = (.response r, s')) (hr : SendsOn u r next) :
      Trip net 0 u s [u] (.misled u) s'
  | onward {left u s r next s' urls e s''} (hu : Web u)
      (h : net.reply u s = (.response r, s')) (hr : SendsOn u r next)
      (rest : Trip net left next s' urls e s'') : Trip net (left + 1) u s (u :: urls) e s''

theorem redirect?_eq_some_iff {u : Url} {r : Response} {next : Url} :
    redirect? u r = some next ↔ SendsOn u r next := by
  unfold redirect? SendsOn
  rw [Option.ite_none_right_eq_some, List.contains_iff_mem, Option.bind_eq_some_iff]
  simp only [toOption_eq_some_iff, redirectStatuses]

theorem send_trip (net : Network σ) (left : Nat) (u : Url) (s : σ) :
    ∃ urls e, Trip net left u s urls e (send net left u s).2 ∧ (send net left u s).1 = e.sent ∧
      ∀ notes, send net.noting left u (notes, s) = (e.sent, notes ++ urls, (send net left u s).2) := by
  have web {u : Url} (hu : ¬(u.scheme ≠ "http" ∧ u.scheme ≠ "https")) : Web u :=
    not_not.1 (mt not_web_iff.1 hu)
  fun_induction send net left u s with
  | case1 left u s hu =>
    refine ⟨[], .foreign u, .foreign (not_web_iff.2 hu), rfl, fun notes => ?_⟩
    rw [send, if_pos hu, List.append_nil]
    rfl
  | case2 left u s hu causes s' h =>
    refine ⟨[u], .unsent u causes, .unsent (web hu) h, rfl, fun notes => ?_⟩
    rw [send, if_neg hu, net.noting_reply h]
    rfl
  | case3 left u s hu s' h =>
    refine ⟨[u], .unanswered u, .unanswered (web hu) h, rfl, fun notes => ?_⟩
    rw [send, if_neg hu, net.noting_reply h]
    rfl
  | case4 left u s hu r s' h hr =>
    refine ⟨[u], .response r, .stays (web hu) h fun next hnext => ?_, rfl, fun notes => ?_⟩
    · rw [redirect?_eq_some_iff.2 hnext] at hr
      cases hr
    · rw [send, if_neg hu, net.noting_reply h]
      dsimp only
      rw [hr]
      rfl
  | case5 u s hu r s' h next hr =>
    refine ⟨[u], .misled u, .misled (web hu) h (redirect?_eq_some_iff.1 hr), rfl, fun notes => ?_⟩
    rw [send, if_neg hu, net.noting_reply h]
    dsimp only
    rw [hr]
    rfl
  | case6 u s hu r s' h next hr left ih =>
    obtain ⟨urls, e, htrip, hsent, hnoted⟩ := ih
    refine ⟨u :: urls, e, .onward (web hu) h (redirect?_eq_some_iff.1 hr) htrip, hsent,
      fun notes => ?_⟩
    rw [send, if_neg hu, net.noting_reply h]
    dsimp only
    rw [hr]
    dsimp only
    rw [hnoted, List.append_assoc, List.singleton_append]

theorem Trip.status_lt {net : Network σ} {left : Nat} {u : Url} {s s' : σ} {urls : List Url}
    {e : Ending} (h : Trip net left u s urls e s')
    (hstatus : ∀ u s r, (net.reply u s).1 = .response r → r.status < 600) {r : Response}
    (he : e = .response r) : r.status < 600 := by
  induction h with
  | stays hu h hr =>
    cases he
    exact hstatus _ _ _ (congrArg Prod.fst h)
  | onward hu h hr rest ih => exact ih he
  | _ => cases he

/-! ## What the end comes to -/

/-- The outcome is a failure after which another try may succeed. -/
def Transient {α : Type} (outcome : Except RpcError α) : Prop :=
  ∃ e, outcome = .error e ∧ e.isRetryable = true

theorem transient_error_iff {α : Type} {e : RpcError} :
    Transient (.error e : Except RpcError α) ↔ e.isRetryable = true :=
  ⟨fun ⟨_, he, hretry⟩ => by cases he; exact hretry, fun h => ⟨e, rfl, h⟩⟩

theorem conclude_error (t : Transport) (u : Url) (f : HttpFailure) :
    t.conclude u (.error f) = .error (f.toError t.config.requestTimeout) := rfl

theorem conclude_cut (t : Transport) (u : Url) (status : Nat) (location : Option String)
    (causes : List String) : t.conclude u (.ok ⟨status, location, .cut causes⟩) = .error
      (HttpFailure.toError ⟨.body, "error decoding response body", causes⟩ t.config.requestTimeout) :=
  rfl

theorem toError_unsent_isRetryable (u : Url) (causes : List String) (ms : UInt64) :
    ((HttpFailure.unsent u causes).toError ms).isRetryable = true ↔
      (Ending.unsent u causes).Retryable := by
  have hspeaks := (HttpFailure.unsent u causes).speaksOfTls_iff
  change _ ↔ ¬∃ text ∈ (HttpFailure.unsent u causes).text :: (HttpFailure.unsent u causes).causes,
    SpeaksOfTls text
  rw [← hspeaks]
  unfold HttpFailure.toError
  cases (HttpFailure.unsent u causes).speaksOfTls <;> simp [HttpFailure.unsent, HttpFailure.about,
    RpcError.isRetryable]

theorem toError_cut_isRetryable (causes : List String) (ms : UInt64) :
    (HttpFailure.toError ⟨.body, "error decoding response body", causes⟩ ms).isRetryable = false := by
  unfold HttpFailure.toError
  cases HttpFailure.speaksOfTls ⟨.body, "error decoding response body", causes⟩ <;> rfl

theorem transient_conclude_iff (t : Transport) (u : Url) {e : Ending}
    (hstatus : ∀ r, e = .response r → r.status < 600) :
    Transient (t.conclude u e.sent) ↔ e.Retryable := by
  cases e with
  | unsent v causes =>
    rw [Ending.sent, conclude_error, transient_error_iff]
    exact toError_unsent_isRetryable v causes _
  | unanswered v => exact iff_of_true ⟨_, rfl, rfl⟩ trivial
  | misled v => exact iff_of_false (mt transient_error_iff.1 Bool.false_ne_true) id
  | foreign v => exact iff_of_false (mt transient_error_iff.1 Bool.false_ne_true) id
  | response r =>
    have hlt := hstatus r rfl
    obtain ⟨status, location, body⟩ := r
    cases body with
    | stalled => exact iff_of_true ⟨_, rfl, rfl⟩ (.inl rfl)
    | cut causes =>
      refine iff_of_false ?_ ?_
      · intro h
        rw [Ending.sent, conclude_cut, transient_error_iff, toError_cut_isRetryable] at h
        cases h
      · rintro (h | ⟨-, body, hbody, -⟩)
        · cases h
        · cases hbody
    | text body =>
      simp only [Ending.Retryable, Body.text.injEq, exists_eq_left', reduceCtorEq, false_or]
      exact judge_isRetryable_iff u hlt body

theorem conclude_eq_ok_iff (t : Transport) (u : Url) (e : Ending) (w : Value) :
    t.conclude u e.sent = .ok w ↔ e.Delivers w := by
  cases e with
  | response r =>
    obtain ⟨status, location, body⟩ := r
    cases body with
    | text body =>
      simp only [Ending.Delivers, Body.text.injEq, exists_eq_left']
      exact judge_eq_ok_iff u body
    | _ =>
      refine iff_of_false nofun ?_
      rintro ⟨-, body, hbody, -⟩
      cases hbody
  | _ => exact iff_of_false nofun id

/-! ## Tries -/

def stepped {α : Type} (step : σ → α × σ) (s : σ) (n : Nat) : σ := (fun s => (step s).2)^[n] s

/-- A step is repeated up to the first outcome that is final, or until the policy allows no more. -/
theorem retrying_run {α : Type} {retry : RetryConfig} {max : UInt32}
    (hmax : retry.maxRetries = some max) (hlt : max.toNat + 1 < 0x100000000)
    (step : σ → Except RpcError α × σ) {fuel failures : Nat}
    (hfuel : fuel + failures = max.toNat + 1) (hpos : 0 < fuel) (s : σ) :
    ∃ n, failures + n ≤ max.toNat ∧ (∀ i < n, Transient (step (stepped step s i)).1) ∧
      (failures + n = max.toNat ∨ ¬Transient (step (stepped step s n)).1) ∧
      retrying retry step fuel failures s = some (step (stepped step s n)) := by
  induction fuel generalizing failures s with
  | zero => omega
  | succ fuel ih =>
    have hallowed : retry.shouldRetry (UInt32.ofNat (failures + 1)) = true ↔
        failures + 1 ≤ max.toNat := by
      have hcount : (UInt32.ofNat (failures + 1)).toNat = failures + 1 := by
        rw [UInt32.toNat_ofNat']
        exact Nat.mod_eq_of_lt (by omega)
      simp only [RetryConfig.shouldRetry, hmax, decide_eq_true_eq, UInt32.le_iff_toNat_le, hcount]
    have hfirst : stepped step s 0 = s := rfl
    unfold retrying
    -- another try is made exactly when this outcome and the policy allow it
    by_cases hagain : Transient (step s).1 ∧ failures + 1 ≤ max.toNat
    · obtain ⟨⟨e, he, hretry⟩, hleft⟩ := hagain
      obtain ⟨n, hn, hbefore, hlast, hrun⟩ := ih
        (show fuel + (failures + 1) = max.toNat + 1 by omega) (by omega) (step s).2
      have hlater : ∀ i, stepped step s (i + 1) = stepped step (step s).2 i := fun i => rfl
      refine ⟨n + 1, by omega, fun i hi => ?_, ?_, ?_⟩
      · cases i with
        | zero => exact ⟨e, he, hretry⟩
        | succ i => exact hlater i ▸ hbefore i (by omega)
      · exact hlast.imp (fun h => by omega) fun h => hlater n ▸ h
      · have hstep : step s = (.error e, (step s).2) := Prod.ext he rfl
        rw [hlater, ← hrun, hstep]
        dsimp only
        rw [hretry, hallowed.2 hleft]
        rfl
    · refine ⟨0, by omega, fun i hi => by omega, ?_, ?_⟩
      · rw [hfirst]
        by_cases hlast : Transient (step s).1
        · exact .inl (by_contra fun hne => hagain ⟨hlast, by omega⟩)
        · exact .inr hlast
      · rw [hfirst]
        rcases hstep : step s with ⟨e | a, s'⟩
        · dsimp only
          rw [if_neg]
          rw [Bool.and_eq_true, hallowed]
          rintro ⟨hretry, hleft⟩
          exact hagain ⟨⟨e, by rw [hstep], hretry⟩, hleft⟩
        · rfl

theorem stepped_succ {α : Type} (step : σ → α × σ) (s : σ) (n : Nat) :
    stepped step s (n + 1) = (step (stepped step s n)).2 :=
  Function.iterate_succ_apply' _ n s

/-- So many tries are passed over: all before the first that brings no other, or as many as are
allowed. -/
structure PassedOver (most : Nat) (again : Nat → Prop) (n : Nat) : Prop where
  allowed : n ≤ most
  before : ∀ i < n, again i
  last : n = most ∨ ¬again n

theorem PassedOver.unique {most n n' : Nat} {again : Nat → Prop} (h : PassedOver most again n)
    (h' : PassedOver most again n') : n = n' := by
  rcases Nat.lt_trichotomy n n' with hlt | heq | hgt
  · have hmost := h.last.resolve_right (not_not_intro (h'.before n hlt))
    have hle := h'.allowed
    omega
  · exact heq
  · have hmost := h'.last.resolve_right (not_not_intro (h.before n' hgt))
    have hle := h.allowed
    omega

variable {net : Network σ} {t : Transport} {u v : Url} {s : σ}

/-- The tries of a request, one after another: the state before each, the URLs it asks, and its
end. -/
structure Tried (net : Network σ) (redirects : Nat) (v : Url) (s : σ) (states : Nat → σ)
    (urls : Nat → List Url) (ends : Nat → Ending) : Prop where
  start : states 0 = s
  trip : ∀ i, Trip net redirects v (states i) (urls i) (ends i) (states (i + 1))

theorem exists_tried (t : Transport) (net : Network σ) (u : Url) (s : σ) :
    ∃ urls ends, Tried net t.config.maxRedirects u.withoutCredentials s
        (stepped (t.getOnce net u) s) urls ends ∧
      (∀ i, (t.getOnce net u (stepped (t.getOnce net u) s i)).1 = t.conclude u (ends i).sent) ∧
      ∀ i, stepped (t.getOnce net.noting u) ([], s) i
          = ((List.range i).flatMap urls, stepped (t.getOnce net u) s i) ∧
        (t.getOnce net.noting u (stepped (t.getOnce net.noting u) ([], s) i)).1
          = t.conclude u (ends i).sent := by
  choose urls ends htrip hsent hnoted using
    send_trip net t.config.maxRedirects u.withoutCredentials
  refine ⟨fun i => urls (stepped (t.getOnce net u) s i), fun i => ends (stepped (t.getOnce net u) s i),
    ⟨rfl, fun i => ?_⟩, fun i => ?_, fun i => ?_⟩
  · rw [stepped_succ]
    exact htrip _
  · exact congrArg (t.conclude u) (hsent _)
  · have hnotes : stepped (t.getOnce net.noting u) ([], s) i
        = ((List.range i).flatMap fun i => urls (stepped (t.getOnce net u) s i),
          stepped (t.getOnce net u) s i) := by
      induction i with
      | zero => rfl
      | succ i ih =>
        rw [stepped_succ, ih, stepped_succ, getOnce, hnoted, List.range_succ, List.flatMap_append,
          List.flatMap_singleton]
        rfl
    refine ⟨hnotes, ?_⟩
    rw [hnotes, getOnce, hnoted]

/-- **A request is sent again exactly while its tries end in a transient failure**, and no more often
than the policy allows. The outcome is that of the last try. -/
theorem getJson_retries {max : UInt32} (hmax : t.config.retry.maxRetries = some max)
    (hlt : max.toNat + 1 < 0x100000000) {path : String} {query : List (String × String)}
    (hu : t.endpoint path = .ok u) (hv : (u.withQuery query).withoutCredentials = v)
    (hstatus : ∀ u s r, (net.reply u s).1 = .response r → r.status < 600) (fuel : Nat) :
    ∃ n states urls ends outcome, Tried net t.config.maxRedirects v s states urls ends ∧
      PassedOver max.toNat (fun i => (ends i).Retryable) n ∧
      outcome = (t.getOnce net (u.withQuery query) (states n)).1 ∧
      t.getJson net fuel path query s = some (outcome, states (n + 1)) ∧
      t.getJson net.noting fuel path query ([], s)
        = some (outcome, (List.range (n + 1)).flatMap urls, states (n + 1)) ∧
      ∀ w, outcome = .ok w ↔ (ends n).Delivers w := by
  subst hv
  obtain ⟨urls, ends, htried, hends, hnoted⟩ := exists_tried t net (u.withQuery query) s
  have htransient := fun i => transient_conclude_iff t (u.withQuery query)
    fun r => (htried.trip i).status_lt hstatus
  have htries : tries t.config.retry fuel = max.toNat + 1 := by rw [tries, hmax]
  obtain ⟨n, hn, hbefore, hlast, hrun⟩ := retrying_run hmax hlt (t.getOnce net (u.withQuery query))
    (show max.toNat + 1 + 0 = max.toNat + 1 from rfl) (Nat.succ_pos _) s
  obtain ⟨n', hn', hbefore', hlast', hrun'⟩ := retrying_run hmax hlt
    (t.getOnce net.noting (u.withQuery query))
    (show max.toNat + 1 + 0 = max.toNat + 1 from rfl) (Nat.succ_pos _) ([], s)
  simp only [hends, htransient, Nat.zero_add] at hn hbefore hlast
  simp only [(hnoted _).2, htransient, Nat.zero_add] at hn' hbefore' hlast'
  -- the notes change no end, and so both runs pass over equally many
  obtain rfl := PassedOver.unique ⟨hn', hbefore', hlast'⟩ ⟨hn, hbefore, hlast⟩
  refine ⟨n', _, urls, ends, _, htried, ⟨hn, hbefore, hlast⟩, rfl, ?_, ?_, fun w => ?_⟩
  · rw [getJson, hu]
    dsimp only
    rw [htries, hrun, stepped_succ]
  · rw [getJson, hu]
    dsimp only
    rw [htries, hrun', ← (hnoted (n' + 1)).1, hends, ← (hnoted n').2, stepped_succ]
  · rw [hends]
    exact conclude_eq_ok_iff t _ _ w

/-- A node that cannot be reached at first, then sends on to a URL where it is too busy, and then
answers. -/
def waking : Network Nat where
  reply _ n := match n with
    | 0 => (.failed ["tcp connect error", "Connection refused (os error 111)"], n + 1)
    | 1 => (.response ⟨307, some "ready", .text ""⟩, n + 1)
    | 2 => (.response ⟨503, none, .text "busy"⟩, n + 1)
    | _ => (.response ⟨200, none, .text "[1]"⟩, n + 1)
  now _ := 0

def nodeTransport (name : String) : Transport :=
  ⟨{ scheme := "http", host := some (.name name), path := .segments [""] }, {}⟩

def nodeUrl (name page : String) : Url :=
  { scheme := "http", host := some (.name name), path := .segments [page] }

theorem waking_status_lt (u : Url) (n : Nat) (r : Response) (h : (waking.reply u n).1 = .response r) :
    r.status < 600 := by
  rcases n with _ | _ | _ | n <;> cases h <;> decide

theorem waking_retries : ∃ n states urls ends w,
    Tried waking 5 (nodeUrl "node" "status") 0 states urls ends ∧
    PassedOver 3 (fun i => (ends i).Retryable) n ∧ (ends n).Delivers w ∧
    (nodeTransport "node").getJson waking.noting 0 "status" [] ([], 0)
      = some (.ok w, [nodeUrl "node" "status", nodeUrl "node" "status", nodeUrl "node" "ready",
          nodeUrl "node" "status"], 4) := by
  have hu : (nodeTransport "node").endpoint "status" = .ok (nodeUrl "node" "status") :=
    eq_ok_of_toOption (by decide +kernel)
  have hrun : ((nodeTransport "node").getJson waking.noting 0 "status" [] ([], 0)).map
      (fun p => (p.1.toOption.isSome, p.2)) = some (true, [nodeUrl "node" "status",
        nodeUrl "node" "status", nodeUrl "node" "ready", nodeUrl "node" "status"], 4) := by
    decide +kernel
  obtain ⟨n, states, urls, ends, outcome, htried, hpassed, -, -, hnoting, hdelivers⟩ :=
    getJson_retries (t := nodeTransport "node") (s := 0) rfl (by decide) hu rfl waking_status_lt 0
  rw [hnoting, Option.map_some, Option.some.injEq, Prod.mk.injEq] at hrun
  obtain ⟨hok, hasked⟩ := hrun
  dsimp only at hok hasked
  obtain ⟨w, hw⟩ := Option.isSome_iff_exists.1 hok
  obtain rfl := eq_ok_of_toOption hw
  rw [hasked] at hnoting
  exact ⟨n, states, urls, ends, w, htried, hpassed, (hdelivers w).1 rfl, hnoting⟩

def outcomeKind : Except RpcError Value → String
  | .error e => e.kind
  | .ok _ => "Ok"

/-- A node that is too busy and whose answer breaks off. -/
def breaking : Network Unit := ⟨fun _ s => (.response ⟨503, none, .cut []⟩, s), fun _ => 0⟩

/-- A connection to a node whose name speaks of encryption is refused: this is taken for a failure
of the encryption, and no other try is made. None is made either when the answer of a busy node
breaks off. -/
theorem refused_taken_for_tls :
    ((nodeTransport "tls-node.test").getJson Network.unreachable.noting 0 "status" [] ([], ())).map
        (fun p => (outcomeKind p.1, p.2.1)) = some ("Tls", [nodeUrl "tls-node.test" "status"]) ∧
      ((nodeTransport "node").getJson breaking.noting 0 "status" [] ([], ())).map
        (fun p => (outcomeKind p.1, p.2.1)) = some ("Deserialization", [nodeUrl "node" "status"]) := by
  decide +kernel

end Transport

end ChainIndexer
