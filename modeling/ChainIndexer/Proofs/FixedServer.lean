import ChainIndexer.App.Question
import ChainIndexer.Proofs.Retries
import Mathlib.Data.List.Basic

/-!
# A server that replies in one way

Where the server replies to each URL in one way, a question that depends on replies alone has one
outcome (`Query.Settles`): a document, however often it is asked for (`Transport.getJson_settles`),
and all pages of a list, where each page names the next (`getPages_steady`). It comes to an end
where the policy bounds the tries and the chain of pages ends (`PagesEnd.settles`).
-/

namespace ChainIndexer

open Json (Value)

variable {σ τ α β : Type}

/-! ## Questions with one outcome -/

/-- The server replies to each URL in one way, whatever it was asked before. -/
def Network.Fixed (net : Network σ) (reply : Url → Reply) : Prop :=
  ∀ u s, (net.reply u s).1 = reply u

/-- A server that replies in one way and remembers nothing. -/
def Network.fixed (reply : Url → Reply) : Network Unit := ⟨fun u s => (reply u, s), fun _ => 0⟩

namespace Query

theorem bind_run (q : Query σ α) (f : α → Query σ β) (s : σ) :
    (q >>= f) s = match q s with
      | some (.ok a, s) => f a s
      | some (.error e, s) => some (.error e, s)
      | none => none := by
  change ExceptT.bind q f s = _
  unfold ExceptT.bind ExceptT.mk
  change StateT.bind q (ExceptT.bindCont f) s = _
  unfold StateT.bind
  rcases q s with _ | ⟨_ | a, t⟩ <;> rfl

/-- A question that leaves a note. -/
def noting (note : String) (q : Query σ α) : Query (List String × σ) α := fun s =>
  (q s.2).map fun p => (p.1, s.1 ++ [note], p.2)

theorem noting_run {q : Query σ α} {s t : σ} {r : Except RpcError α} (h : q s = some (r, t))
    (note : String) (notes : List String) :
    q.noting note (notes, s) = some (r, notes ++ [note], t) := by
  rw [noting, h]
  rfl

theorem lift_run (x : Except RpcError α) (s : σ) : (liftM x : Query σ α) s = some (x, s) := by
  cases x <;> rfl

theorem run_of_toOption {q : Query Unit α} {a : α}
    (h : (q ()).map (fun p => p.1.toOption) = some (some a)) : q () = some (.ok a, ()) := by
  obtain ⟨⟨r, u⟩, hr, ha⟩ := Option.map_eq_some_iff.1 h
  obtain rfl : r = .ok a := eq_ok_of_toOption ha
  exact hr

/-- From every state with a property the question has this outcome, none if it still goes on, and
the property stays. -/
def Settles (inv : σ → Prop) (q : Query σ α) (o : Option (Except RpcError α)) : Prop :=
  ∀ s, inv s → (q s).map Prod.fst = o ∧ ∀ p, q s = some p → inv p.2

/-- The question has one outcome, and it comes to an end under a condition. -/
def Steady (inv : σ → Prop) (ends : Prop) (q : Query σ α) : Prop :=
  ∃ o, q.Settles inv o ∧ (ends → o.isSome)

variable {inv : σ → Prop} {ends : Prop} {q : Query σ α} {o : Option (Except RpcError α)}

theorem Settles.unique (h : q.Settles inv o) {inv' : σ → Prop} {o' : Option (Except RpcError α)}
    (h' : q.Settles inv' o') {s : σ} (hs : inv s) (hs' : inv' s) : o = o' :=
  (h s hs).1.symm.trans (h' s hs').1

theorem Settles.pure (a : α) : (Pure.pure a : Query σ α).Settles inv (some (.ok a)) := by
  refine fun s hs => ⟨rfl, fun p hp => ?_⟩
  cases hp
  exact hs

theorem Settles.lift (x : Except RpcError α) :
    (liftM x : Query σ α).Settles inv (some x) := by
  intro s hs
  cases x with
  | ok a => exact Settles.pure a s hs
  | error e =>
    refine ⟨rfl, fun p hp => ?_⟩
    cases hp
    exact hs

theorem Settles.bind_ok {f : α → Query σ β} {a : α} {o : Option (Except RpcError β)}
    (h : q.Settles inv (some (.ok a))) (hf : (f a).Settles inv o) : (q >>= f).Settles inv o := by
  intro s hs
  obtain ⟨hq, hstays⟩ := h s hs
  obtain ⟨⟨r, s'⟩, hr, rfl⟩ := Option.map_eq_some_iff.1 hq
  rw [bind_run, hr]
  exact hf s' (hstays _ hr)

theorem Settles.bind_error {f : α → Query σ β} {e : RpcError}
    (h : q.Settles inv (some (.error e))) : (q >>= f).Settles inv (some (.error e)) := by
  intro s hs
  obtain ⟨hq, hstays⟩ := h s hs
  obtain ⟨⟨r, s'⟩, hr, rfl⟩ := Option.map_eq_some_iff.1 hq
  rw [bind_run, hr]
  refine ⟨rfl, fun p hp => ?_⟩
  cases hp
  exact hstays _ hr

theorem Settles.bind_none {f : α → Query σ β} (h : q.Settles inv none) :
    (q >>= f).Settles inv none := by
  intro s hs
  have hq := Option.map_eq_none_iff.1 (h s hs).1
  rw [bind_run, hq]
  exact ⟨rfl, nofun⟩

theorem Settles.mapOutcome {f : Except RpcError α → Except RpcError β} {q' : Query σ β}
    (h : q.Settles inv o) (hq' : ∀ s, q' s = (q s).map fun p => (f p.1, p.2)) :
    q'.Settles inv (o.map f) := by
  intro s hs
  obtain ⟨hq, hstays⟩ := h s hs
  rw [hq', ← hq]
  constructor
  · simp only [Option.map_map]
    rfl
  · intro p hp
    obtain ⟨p', hp', rfl⟩ := Option.map_eq_some_iff.1 hp
    exact hstays p' hp'

theorem Steady.pure (a : α) : (Pure.pure a : Query σ α).Steady inv ends :=
  ⟨_, Settles.pure a, fun _ => rfl⟩

theorem Steady.lift (x : Except RpcError α) : (liftM x : Query σ α).Steady inv ends :=
  ⟨_, Settles.lift x, fun _ => rfl⟩

theorem Steady.bind {f : α → Query σ β} (h : q.Steady inv ends) (hf : ∀ a, (f a).Steady inv ends) :
    (q >>= f).Steady inv ends := by
  obtain ⟨o, ho, hends⟩ := h
  rcases o with _ | ⟨e | a⟩
  · exact ⟨none, ho.bind_none, hends⟩
  · exact ⟨some (.error e), ho.bind_error, fun _ => rfl⟩
  · obtain ⟨o', ho', hends'⟩ := hf a
    exact ⟨o', ho.bind_ok ho', hends'⟩

theorem Steady.mapOutcome {f : Except RpcError α → Except RpcError β} {q' : Query σ β}
    (h : q.Steady inv ends) (hq' : ∀ s, q' s = (q s).map fun p => (f p.1, p.2)) :
    q'.Steady inv ends := by
  obtain ⟨o, ho, hends⟩ := h
  exact ⟨o.map f, ho.mapOutcome hq', fun he => by simpa using hends he⟩

end Query

/-! ## Requests to a fixed server -/

namespace Transport

variable {net : Network σ} {reply : Url → Reply}

theorem reply_fixed (hfixed : net.Fixed reply) {u : Url} {s s' : σ} {answer : Reply}
    (h : net.reply u s = (answer, s')) : (Network.fixed reply).reply u () = (answer, ()) := by
  change (reply u, ()) = (answer, ())
  rw [← hfixed u s, h]

theorem send_fixed (hfixed : net.Fixed reply) (left : Nat) (u : Url) (s : σ) :
    (send net left u s).1 = (send (.fixed reply) left u ()).1 := by
  fun_induction send net left u s with
  | case1 left u s hu => rw [send, if_pos hu]
  | case2 left u s hu causes s' h => rw [send, if_neg hu, reply_fixed hfixed h]
  | case3 left u s hu s' h => rw [send, if_neg hu, reply_fixed hfixed h]
  | case4 left u s hu r s' h hr =>
    rw [send, if_neg hu, reply_fixed hfixed h]
    dsimp only
    rw [hr]
  | case5 u s hu r s' h next hr =>
    rw [send, if_neg hu, reply_fixed hfixed h]
    dsimp only
    rw [hr]
  | case6 u s hu r s' h next hr left ih =>
    refine ih.trans (Eq.symm ?_)
    rw [send, if_neg hu, reply_fixed hfixed h]
    dsimp only
    rw [hr]

theorem getOnce_fixed (hfixed : net.Fixed reply) (t : Transport) (u : Url) (s : σ) :
    (t.getOnce net u s).1 = (t.getOnce (.fixed reply) u ()).1 :=
  congrArg (t.conclude u) (send_fixed hfixed t.config.maxRedirects u.withoutCredentials s)

theorem retrying_congr (retry : RetryConfig) {step : σ → Except RpcError α × σ}
    {step' : τ → Except RpcError α × τ} {t₀ : τ} (h : ∀ s t, (step s).1 = (step' t).1)
    (fuel failures : Nat) (s : σ) :
    (retrying retry step fuel failures s).map Prod.fst
      = (retrying retry step' fuel failures t₀).map Prod.fst := by
  induction fuel generalizing failures s t₀ with
  | zero => rfl
  | succ fuel ih =>
    have hstep := h s t₀
    unfold retrying
    revert hstep
    rcases step s with ⟨a, s'⟩
    rcases step' t₀ with ⟨b, t'⟩
    rintro ⟨⟩
    cases a with
    | ok a => rfl
    | error e =>
      dsimp only
      split
      · exact ih (failures + 1) s'
      · rfl

/-- The policy allows a number of further tries that the count of failures can reach. -/
def Bounded (t : Transport) : Prop :=
  ∃ max, t.config.retry.maxRetries = some max ∧ max.toNat + 1 < 0x100000000

/-- The document at a path has one outcome, that of the server that remembers nothing. -/
theorem getJson_settles (hfixed : net.Fixed reply) (t : Transport) (fuel : Nat) (path : String)
    (query : List (String × String)) :
    (t.getJson net fuel path query).Settles (fun _ => True)
      ((t.getJson (.fixed reply) fuel path query ()).map Prod.fst) := by
  intro s _
  refine ⟨?_, fun _ _ => trivial⟩
  unfold getJson
  cases t.endpoint path with
  | error e => rfl
  | ok u =>
    refine retrying_congr _ (fun s t' => ?_) _ _ s
    exact getOnce_fixed hfixed t (u.withQuery query) s

theorem getJson_isSome {t : Transport} (hb : t.Bounded) (net : Network σ) (fuel : Nat)
    (path : String) (query : List (String × String)) (s : σ) :
    (t.getJson net fuel path query s).isSome := by
  obtain ⟨max, hmax, hlt⟩ := hb
  unfold getJson
  cases t.endpoint path with
  | error e => rfl
  | ok u =>
    have htries : tries t.config.retry fuel = max.toNat + 1 := by rw [tries, hmax]
    obtain ⟨n, -, -, -, hrun⟩ := retrying_run hmax hlt (t.getOnce net (u.withQuery query))
      (show max.toNat + 1 + 0 = max.toNat + 1 from rfl) (Nat.succ_pos _) s
    dsimp only
    rw [htries, hrun]
    rfl

theorem getJson_fuel {t : Transport} (hb : t.Bounded) (net : Network σ) (fuel fuel' : Nat)
    (path : String) (query : List (String × String)) :
    t.getJson net fuel path query = t.getJson net fuel' path query := by
  obtain ⟨max, hmax, -⟩ := hb
  funext s
  unfold getJson
  rw [tries, tries, hmax]

theorem getJson_steady (hfixed : net.Fixed reply) (t : Transport) {ends : Prop}
    (hends : ends → t.Bounded) (fuel : Nat) (path : String) (query : List (String × String)) :
    (t.getJson net fuel path query).Steady (fun _ => True) ends := by
  refine ⟨_, getJson_settles hfixed t fuel path query, fun he => ?_⟩
  rw [Option.isSome_map]
  exact getJson_isSome (hends he) _ fuel path query ()

end Transport

/-! ## Pages -/

namespace App

def Served (c : Client) (reply : Url → Reply) (path key : String) (page : Value) : Prop :=
  ∃ fuel, (c.transport.getJson (.fixed reply) fuel path [("pagination.key", key)] ()).map Prod.fst
    = some (.ok page)

/-- The chain of the pages of a path comes to an end, from a key on. -/
inductive PagesEnd (c : Client) (reply : Url → Reply) (path : String) : String → Prop
  | last {key} (h : ∀ page, Served c reply path key page → nextKey? key page = none) :
      PagesEnd c reply path key
  | next {key page next} (hp : Served c reply path key page) (hn : nextKey? key page = some next)
      (h : PagesEnd c reply path next) : PagesEnd c reply path key

variable {net : Network σ} {reply : Url → Reply} {c : Client} {ends : Prop}

theorem served_iff (hb : c.transport.Bounded) (fuel : Nat) {path key : String} {page : Value} :
    Served c reply path key page ↔
      (c.transport.getJson (.fixed reply) fuel path [("pagination.key", key)] ()).map Prod.fst
        = some (.ok page) := by
  refine ⟨?_, fun h => ⟨fuel, h⟩⟩
  rintro ⟨fuel', h⟩
  rw [Transport.getJson_fuel hb (.fixed reply) fuel fuel']
  exact h

theorem pagesFrom_steady {page : String → Query σ Value}
    (hpage : ∀ key, (page key).Steady (fun _ => True) False) (field : String) (fuel : Nat)
    (key : String) (items : List Value) :
    (pagesFrom page field fuel key items).Steady (fun _ => True) False := by
  induction fuel generalizing key items with
  | zero => exact ⟨none, fun s _ => ⟨rfl, nofun⟩, False.elim⟩
  | succ fuel ih =>
    refine (hpage key).bind fun v => ?_
    dsimp only
    cases nextKey? key v with
    | some next => exact ih next _
    | none => exact Query.Steady.pure _

theorem PagesEnd.settles (hfixed : net.Fixed reply) (hb : c.transport.Bounded) {path key : String}
    (h : PagesEnd c reply path key) :
    ∃ n, ∀ fuel, n ≤ fuel → ∀ fuel' field items, ∃ r,
      (pagesFrom (fun key => c.transport.getJson net fuel' path [("pagination.key", key)]) field
        fuel key items).Settles (fun _ => True) (some r) := by
  induction h with
  | @last key h =>
    refine ⟨1, fun fuel hfuel fuel' field items => ?_⟩
    obtain ⟨fuel, rfl⟩ : ∃ n, fuel = n + 1 := ⟨fuel - 1, by omega⟩
    have hpage := Transport.getJson_settles hfixed c.transport fuel' path [("pagination.key", key)]
    obtain ⟨⟨r, u⟩, hr⟩ := Option.isSome_iff_exists.1
      (Transport.getJson_isSome hb (.fixed reply) fuel' path [("pagination.key", key)] ())
    rw [hr] at hpage
    cases r with
    | error e => exact ⟨.error e, hpage.bind_error⟩
    | ok page =>
      have hserved : Served c reply path key page := (served_iff hb fuel').2 (by rw [hr]; rfl)
      have hlast := h page hserved
      refine ⟨.ok (items ++ pageItems field page), hpage.bind_ok ?_⟩
      dsimp only
      rw [hlast]
      exact Query.Settles.pure _
  | @next key page next hp hn h ih =>
    obtain ⟨n, hrest⟩ := ih
    refine ⟨n + 1, fun fuel hfuel fuel' field items => ?_⟩
    obtain ⟨fuel, rfl⟩ : ∃ n, fuel = n + 1 := ⟨fuel - 1, by omega⟩
    have hpage := Transport.getJson_settles hfixed c.transport fuel' path [("pagination.key", key)]
    rw [(served_iff hb fuel').1 hp] at hpage
    obtain ⟨r, hr⟩ := hrest fuel (by omega) fuel' field (items ++ pageItems field page)
    refine ⟨r, hpage.bind_ok ?_⟩
    dsimp only
    rw [hn]
    exact hr

theorem getPages_steady (hfixed : net.Fixed reply) (fuel : Nat) (path field : String)
    (hends : ends → ∃ r, (c.getPages net fuel path field).Settles (fun _ => True) (some r)) :
    (c.getPages net fuel path field).Steady (fun _ => True) ends := by
  by_cases he : ends
  · obtain ⟨r, hr⟩ := hends he
    exact ⟨some r, hr, fun _ => rfl⟩
  · obtain ⟨o, ho, -⟩ := pagesFrom_steady
      (fun key => Transport.getJson_steady hfixed c.transport False.elim fuel path
        [("pagination.key", key)]) field fuel "" []
    exact ⟨o, ho, fun h => absurd h he⟩

end App

end ChainIndexer
