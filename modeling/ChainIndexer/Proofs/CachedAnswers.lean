import ChainIndexer.Proofs.CacheHistory
import ChainIndexer.Proofs.FixedServer

/-!
# The cache changes no answer

What is asked at a path follows from the path alone (`Client.fresh`), because no two kinds of
questions share a path. The cache holds nothing but what the server would say there (`Sound`), for
only an answer that came is kept, and to forget one does no harm. So every question has the outcome
that it has where nothing is kept (`answers_transparent`), whatever was asked before.
-/

namespace ChainIndexer

open Json (Value)

variable {σ α : Type}

namespace App

variable {net : Network σ} {reply : Url → Reply} {c : Client} {ends : Prop}

/-! ## What is asked at a path -/

/-- The beginnings of the paths whose answers come in pages, and where a page has its items. -/
def pagedFields : List (String × String) :=
  [("cosmos/bank/v1beta1/balances/", "balances"),
    ("cosmos/staking/v1beta1/delegations/", "delegation_responses"),
    ("cosmos/staking/v1beta1/delegators/", "unbonding_responses")]

/-- Where the pages of a path have their items; none for a path with one document. -/
def pagedField? (path : String) : Option String :=
  (pagedFields.find? fun p => p.1.toList.isPrefixOf path.toList).map Prod.snd

/-- What the other end is asked where nothing is kept for a path. -/
def Client.fresh (c : Client) (net : Network σ) (fuel : Nat) (path : String) : Query σ Value :=
  match pagedField? path with
  | some field => do return .array (← c.getPages net fuel path field)
  | none => c.get net fuel path

theorem fresh_of_unpaged {path : String} (h : pagedField? path = none) (net : Network σ)
    (fuel : Nat) : c.fresh net fuel path = c.get net fuel path := by
  rw [Client.fresh, h]

theorem fresh_of_paged {path field : String} (h : pagedField? path = some field)
    (net : Network σ) (fuel : Nat) :
    c.fresh net fuel path = do return .array (← c.getPages net fuel path field) := by
  rw [Client.fresh, h]

theorem pagedField?_append (start : String) (h : ∀ p ∈ pagedFields,
    ¬ p.1.toList <+: start.toList ∧ ¬ start.toList <+: p.1.toList) (rest : String) :
    pagedField? (start ++ rest) = none := by
  unfold pagedField?
  rw [Option.map_eq_none_iff, List.find?_eq_none, String.toList_append]
  intro p hp hbegins
  -- of two beginnings of one path the shorter begins the longer
  rcases List.prefix_or_prefix_of_prefix (List.isPrefixOf_iff_prefix.1 hbegins)
    (List.prefix_append start.toList rest.toList) with hbegins | hbegins
  · exact (h p hp).1 hbegins
  · exact (h p hp).2 hbegins

theorem fresh_steady (hfixed : net.Fixed reply) (hb : ends → c.transport.Bounded) (fuel : Nat)
    (path : String) (hpages : ends → ∀ field ∈ pagedField? path,
      ∃ r, (c.getPages net fuel path field).Settles (fun _ => True) (some r)) :
    (c.fresh net fuel path).Steady (fun _ => True) ends := by
  unfold Client.fresh
  cases hfield : pagedField? path with
  | none => exact Transport.getJson_steady hfixed c.transport hb fuel path []
  | some field =>
    refine (getPages_steady hfixed fuel path field fun he => ?_).bind fun items =>
      Query.Steady.pure _
    exact hpages he field hfield

end App

/-! ## The cache -/

namespace Cache

/-- A cache that holds nothing, and would hold everything for stale at once. -/
def off : Cache := { config := { shortTtl := 0, longTtl := 0, maxEntries := 0 } }

end Cache

namespace App

variable {net : Network σ} {reply : Url → Reply} {c : Client} {ends : Prop}

/-- Whatever is kept is what the other end would say. -/
def Sound (c : Client) (net : Network σ) (fuel : Nat) (s : Session σ) : Prop :=
  ∀ e ∈ s.cache.entries, (c.fresh net fuel e.key).Settles (fun _ => True) (some (.ok e.value))

theorem sound_of_empty {s : Session σ} (h : s.cache.entries = []) (c : Client) (net : Network σ)
    (fuel : Nat) : Sound c net fuel s := by
  intro e he
  rw [h] at he
  cases he

theorem onRemote_settles {fuel : Nat} {q : Query σ α} {o : Option (Except RpcError α)}
    (h : q.Settles (fun _ => True) o) : (onRemote q).Settles (Sound c net fuel) o := by
  intro s hs
  obtain ⟨hq, -⟩ := h s.remote trivial
  constructor
  · rw [onRemote, Option.map_map, ← hq]
    rfl
  · intro p hp
    obtain ⟨p', -, rfl⟩ := Option.map_eq_some_iff.1 hp
    exact hs

theorem onRemote_steady {fuel : Nat} {q : Query σ α} (h : q.Steady (fun _ => True) ends) :
    (onRemote q).Steady (Sound c net fuel) ends := by
  obtain ⟨o, ho, hends⟩ := h
  exact ⟨o, onRemote_settles ho, hends⟩

/-- What becomes of an outcome where a failure may say that there is nothing. -/
def orNothing : Except RpcError α → Except RpcError (Option α)
  | .ok a => .ok (some a)
  | .error e => if e.isNotFound then .ok none else .error e

theorem optional_run (q : Query σ α) (s : σ) :
    optional q s = (q s).map fun p => (orNothing p.1, p.2) := by
  unfold optional
  congr 1
  funext p
  rcases p with ⟨e | a, s'⟩ <;> rfl

theorem optional_steady {inv : σ → Prop} {q : Query σ α} (h : q.Steady inv ends) :
    (optional q).Steady inv ends := h.mapOutcome (optional_run q)

theorem mapError_steady {inv : σ → Prop} {q : Query σ α} (f : RpcError → RpcError)
    (h : q.Steady inv ends) : (mapError f q).Steady inv ends := h.mapOutcome fun _ => rfl

theorem keep_settles {fuel : Nat} {path : String} {v : Value} (ttl : CacheTtl)
    (h : (c.fresh net fuel path).Settles (fun _ => True) (some (.ok v))) :
    (keep net path ttl v).Settles (Sound c net fuel) (some (.ok ())) := by
  refine fun s hs => ⟨rfl, fun p hp => ?_⟩
  cases hp
  intro e he
  rcases Cache.mem_insert he with rfl | ⟨he, -⟩
  · exact h
  · exact hs e he

theorem lookUp_bind_run (net : Network σ) (path : String) (f : Option Value → Query (Session σ) α)
    (s : Session σ) :
    (lookUp net path >>= f) s = f (s.cache.get (net.now s.remote) path).1
      { s with cache := (s.cache.get (net.now s.remote) path).2 } := by
  rw [Query.bind_run]
  rfl

/-- Looking into the cache makes no difference if what follows has one outcome both for the answer
that the other end would give and for none. -/
theorem lookUp_settles {fuel : Nat} {path : String} {o : Option (Except RpcError Value)}
    (h : (c.fresh net fuel path).Settles (fun _ => True) o)
    {f : Option Value → Query (Session σ) α} {o' : Option (Except RpcError α)}
    (hfound : ∀ v, o = some (.ok v) → (f (some v)).Settles (Sound c net fuel) o')
    (hmissed : (f none).Settles (Sound c net fuel) o') :
    (lookUp net path >>= f).Settles (Sound c net fuel) o' := by
  intro s hs
  have hentries := Cache.entries_get s.cache (net.now s.remote) path
  have hsound : Sound c net fuel
      { s with cache := (s.cache.get (net.now s.remote) path).2 } := by
    intro e he
    rw [hentries] at he
    exact hs e he
  rw [lookUp_bind_run]
  cases hget : (s.cache.get (net.now s.remote) path).1 with
  | none => exact hmissed _ hsound
  | some v =>
    obtain ⟨e, he, rfl, rfl, -⟩ := Cache.mem_of_get hget
    exact hfound e.value (h.unique (hs e he) (s := s.remote) trivial trivial) _ hsound

theorem cached_steady {fuel : Nat} {path : String} (ttl : CacheTtl)
    (h : (c.fresh net fuel path).Steady (fun _ => True) ends) :
    (cached net path ttl (c.fresh net fuel path)).Steady (Sound c net fuel) ends := by
  obtain ⟨o, ho, hends⟩ := h
  refine ⟨o, lookUp_settles ho (fun v hv => ?_) ?_, hends⟩
  · rw [hv]
    exact Query.Settles.pure v
  · rcases o with _ | e | v
    · exact (onRemote_settles ho).bind_none
    · exact (onRemote_settles ho).bind_error
    · exact (onRemote_settles ho).bind_ok ((keep_settles ttl ho).bind_ok (Query.Settles.pure v))

theorem getCached_steady {fuel : Nat} {path : String} (hpath : pagedField? path = none)
    (ttl : CacheTtl) (h : (c.fresh net fuel path).Steady (fun _ => True) ends) :
    (c.getCached net fuel path ttl).Steady (Sound c net fuel) ends := by
  unfold Client.getCached
  rw [← fresh_of_unpaged hpath]
  exact cached_steady ttl h

theorem getPagesCached_steady {fuel : Nat} {path field : String}
    (hpath : pagedField? path = some field)
    (h : (c.fresh net fuel path).Steady (fun _ => True) ends) :
    (c.getPagesCached net fuel path field).Steady (Sound c net fuel) ends := by
  unfold Client.getPagesCached
  rw [← fresh_of_paged hpath]
  exact cached_steady .short h

/-- A proposal is kept only once it could be read, and where it is found it is read again. -/
theorem proposal_steady {fuel : Nat} {id : UInt64}
    (hpath : pagedField? (Client.proposalPath id) = none)
    (h : (c.fresh net fuel (Client.proposalPath id)).Steady (fun _ => True) ends) :
    (c.proposal net fuel id).Steady (Sound c net fuel) ends := by
  obtain ⟨o, hfresh, hends⟩ := h
  have ho := hfresh
  rw [fresh_of_unpaged hpath] at ho
  have hremote : (onRemote (c.get net fuel (Client.proposalPath id))).Settles
      (Sound c net fuel) o := onRemote_settles ho
  have hasked := hremote.mapOutcome (optional_run _)
  unfold Client.proposal
  -- what the server says decides: nothing in time, an error, or a document
  rcases o with _ | e | v
  · refine ⟨none, lookUp_settles hfresh (fun v hv => by cases hv) ?_, hends⟩
    exact hasked.bind_none
  · by_cases he : e.isNotFound
    · refine ⟨some (.ok none), lookUp_settles hfresh (fun v hv => by cases hv) ?_, fun _ => rfl⟩
      simp only [Option.map_some, orNothing, he, if_true] at hasked
      exact hasked.bind_ok (Query.Settles.pure none)
    · refine ⟨some (.error e), lookUp_settles hfresh (fun v hv => by cases hv) ?_, fun _ => rfl⟩
      simp only [Option.map_some, orNothing, he] at hasked
      exact hasked.bind_error
  · have hread : (liftM (readMember Proposal.codec "proposal" v) :
        Query (Session σ) Proposal).Settles (Sound c net fuel) _ := Query.Settles.lift _
    cases hp : readMember Proposal.codec "proposal" v with
    | error e =>
      rw [hp] at hread
      refine ⟨some (.error e), lookUp_settles hfresh ?_ ?_, fun _ => rfl⟩
      · rintro _ ⟨⟩
        dsimp only
        rw [hp]
        exact hread.bind_error
      · refine hasked.bind_ok ?_
        dsimp only
        rw [hp]
        exact hread.bind_error
    | ok p =>
      rw [hp] at hread
      refine ⟨some (.ok (some p)), lookUp_settles hfresh ?_ ?_, fun _ => rfl⟩
      · rintro _ ⟨⟩
        dsimp only
        rw [hp]
        exact hread.bind_ok (Query.Settles.pure _)
      · refine hasked.bind_ok ?_
        dsimp only
        rw [hp]
        exact hread.bind_ok ((keep_settles _ hfresh).bind_ok (Query.Settles.pure _))

/-! ## Questions -/

def Question.pagedPath? : Question → Option String
  | .balances address => some ("cosmos/bank/v1beta1/balances/" ++ address)
  | .bondedBalance address => some ("cosmos/staking/v1beta1/delegations/" ++ address)
  | .unbondingBalance address =>
    some ("cosmos/staking/v1beta1/delegators/" ++ address ++ "/unbonding_delegations")
  | _ => none

/-- The pages that a question asks for come to an end. -/
def Question.Ends (c : Client) (reply : Url → Reply) (q : Question) : Prop :=
  ∀ path ∈ q.pagedPath?, PagesEnd c reply path ""

/-- Every question has one outcome, whatever the cache holds of what the server would say. -/
theorem ask_steady (hfixed : net.Fixed reply) (hb : ends → c.transport.Bounded) (fuel : Nat)
    (q : Question) (hpages : ends → ∀ path ∈ q.pagedPath?, ∀ field,
      ∃ r, (c.getPages net fuel path field).Settles (fun _ => True) (some r)) :
    (c.ask net fuel q).Steady (Sound c net fuel) ends := by
  have hone : ∀ {path}, pagedField? path = none →
      (c.fresh net fuel path).Steady (fun _ => True) ends := fun hpath =>
    fresh_steady hfixed hb fuel _ fun _ field hfield => by
      rw [hpath] at hfield
      cases hfield
  have hmany : ∀ {path field}, q.pagedPath? = some path → pagedField? path = some field →
      (c.fresh net fuel path).Steady (fun _ => True) ends := fun hq _ =>
    fresh_steady hfixed hb fuel _ fun he field _ => hpages he _ hq field
  cases q with
  | tx hash =>
    have hget := Transport.getJson_steady hfixed c.transport hb fuel
      ("cosmos/tx/v1beta1/txs/" ++ hash) []
    exact ((onRemote_steady hget).bind fun _ => .lift _).bind fun _ => .pure _
  | account address =>
    have hpath := pagedField?_append "cosmos/auth/v1beta1/accounts/" (by decide) address
    have hget := mapError_steady (onNotFound (.accountNotFound address))
      (getCached_steady hpath .short (hone hpath))
    exact (hget.bind fun _ => (Query.Steady.lift _).bind fun _ => .lift _).bind fun _ => .pure _
  | balances address =>
    have hpath : pagedField? ("cosmos/bank/v1beta1/balances/" ++ address) = some "balances" := by
      rw [pagedField?, String.toList_append]
      rfl
    have hget := getPagesCached_steady hpath (hmany rfl hpath)
    exact (hget.bind fun _ => .lift _).bind fun _ => .pure _
  | bondedBalance address =>
    have hpath : pagedField? ("cosmos/staking/v1beta1/delegations/" ++ address)
        = some "delegation_responses" := by
      rw [pagedField?, String.toList_append]
      rfl
    have hget := mapError_steady (onNotFound (.accountNoDelegation address))
      (getPagesCached_steady hpath (hmany rfl hpath))
    exact (hget.bind fun _ => .lift _).bind fun _ => .pure _
  | unbondingBalance address =>
    have hpath : pagedField?
        ("cosmos/staking/v1beta1/delegators/" ++ address ++ "/unbonding_delegations")
        = some "unbonding_responses" := by
      rw [pagedField?, String.append_assoc, String.toList_append]
      rfl
    have hget := mapError_steady (onNotFound (.accountNoDelegation address))
      (getPagesCached_steady hpath (hmany rfl hpath))
    exact (hget.bind fun _ => .lift _).bind fun _ => .pure _
  | totalRewards address =>
    have hpath := pagedField?_append "cosmos/distribution/v1beta1/delegators/"
      (by decide) (address ++ "/rewards")
    rw [← String.append_assoc] at hpath
    have hget := mapError_steady (onNotFound (.accountNoDelegation address))
      (getCached_steady hpath .short (hone hpath))
    exact (hget.bind fun _ => .lift _).bind fun _ => .pure _
  | commission validator =>
    have hpath := pagedField?_append "cosmos/distribution/v1beta1/validators/"
      (by decide) (validator ++ "/commission")
    rw [← String.append_assoc] at hpath
    have hget := getCached_steady hpath .short (hone hpath)
    exact (hget.bind fun _ => .lift _).bind fun _ => .pure _
  | validator address =>
    have hpath := pagedField?_append "cosmos/staking/v1beta1/validators/" (by decide)
      address
    have hget := optional_steady (getCached_steady hpath .long (hone hpath))
    refine (hget.bind fun v => ?_).bind fun _ => .pure _
    cases v with
    | none => exact .pure none
    | some v => exact (Query.Steady.lift _).bind fun _ => .pure _
  | proposal id =>
    have hpath : pagedField? (Client.proposalPath id) = none :=
      pagedField?_append "cosmos/gov/v1beta1/proposals/" (by decide) _
    exact (proposal_steady hpath (hone hpath)).bind fun _ => .pure _
  | proposalTally id =>
    have hpath := pagedField?_append "cosmos/gov/v1beta1/proposals/" (by decide)
      (Numeral.natural id.toNat ++ "/tally")
    rw [← String.append_assoc] at hpath
    have hget := getCached_steady hpath .short (hone hpath)
    exact (hget.bind fun _ => .lift _).bind fun _ => .pure _
  | govParams kind =>
    have hpath := pagedField?_append "cosmos/gov/v1beta1/params/" (by decide) kind.name
    exact (getCached_steady hpath .long (hone hpath)).bind fun _ => .pure _

/-- One after the other the questions have the outcomes that they have where nothing is kept. -/
theorem askAll_outcomes (hfixed : net.Fixed reply) (c : Client) (fuel : Nat)
    (questions : List Question) (s₀ : σ) {s : Session σ} (hs : Sound c net fuel s) :
    (c.askAll net fuel questions s).map Prod.fst
      = questions.mapM fun q => (c.ask net fuel q ⟨.off, s₀⟩).map Prod.fst := by
  induction questions generalizing s with
  | nil => rfl
  | cons q qs ih =>
    obtain ⟨o, ho, -⟩ : (c.ask net fuel q).Steady (Sound c net fuel) False :=
      ask_steady hfixed False.elim fuel q False.elim
    have hoff := (ho ⟨.off, s₀⟩ (sound_of_empty rfl c net fuel)).1
    obtain ⟨hq, hstays⟩ := ho s hs
    rw [List.mapM_cons, hoff, Client.askAll]
    cases hrun : c.ask net fuel q s with
    | none =>
      rw [hrun] at hq
      rw [← hq]
      rfl
    | some p =>
      rw [hrun] at hq
      rw [← hq, ← ih (hstays p hrun)]
      cases hrest : c.askAll net fuel qs p.2 <;> simp [hrest]

theorem askAll_isSome (hfixed : net.Fixed reply) (hb : c.transport.Bounded) (fuel : Nat)
    (questions : List Question) (hpages : ∀ q ∈ questions, ∀ path ∈ q.pagedPath?, ∀ field,
      ∃ r, (c.getPages net fuel path field).Settles (fun _ => True) (some r))
    {s : Session σ} (hs : Sound c net fuel s) : (c.askAll net fuel questions s).isSome := by
  induction questions generalizing s with
  | nil => rfl
  | cons q qs ih =>
    obtain ⟨o, ho, hends⟩ : (c.ask net fuel q).Steady (Sound c net fuel) True :=
      ask_steady hfixed (fun _ => hb) fuel q fun _ => hpages q (List.mem_cons_self ..)
    obtain ⟨hq, hstays⟩ := ho s hs
    have hsome : (c.ask net fuel q s).isSome := by
      rw [← Option.isSome_map, hq]
      exact hends trivial
    obtain ⟨p, hp⟩ := Option.isSome_iff_exists.1 hsome
    have hrest := ih (fun q hq => hpages q (List.mem_cons_of_mem _ hq)) (hstays p hp)
    obtain ⟨p', hp'⟩ := Option.isSome_iff_exists.1 hrest
    rw [Client.askAll, hp]
    simp [hp']

theorem exists_fuel_pages_settle (hfixed : net.Fixed reply) (hb : c.transport.Bounded)
    (questions : List Question)
    (hends : ∀ q ∈ questions, q.Ends c reply) :
    ∃ n, ∀ fuel, n ≤ fuel → ∀ q ∈ questions, ∀ path ∈ q.pagedPath?, ∀ field,
      ∃ r, (c.getPages net fuel path field).Settles (fun _ => True) (some r) := by
  induction questions with
  | nil => exact ⟨0, fun _ _ _ hq => by cases hq⟩
  | cons q qs ih =>
    obtain ⟨n, hn⟩ := ih fun q hq => hends q (List.mem_cons_of_mem _ hq)
    have hq : ∃ m, ∀ fuel, m ≤ fuel → ∀ path ∈ q.pagedPath?, ∀ field,
        ∃ r, (c.getPages net fuel path field).Settles (fun _ => True) (some r) := by
      cases hpath : q.pagedPath? with
      | none => exact ⟨0, fun _ _ _ hp => by cases hp⟩
      | some path =>
        obtain ⟨m, hm⟩ := (hends q (List.mem_cons_self ..) path hpath).settles hfixed hb
        refine ⟨m, fun fuel hfuel _ hp field => ?_⟩
        cases hp
        exact hm fuel hfuel fuel field []
    obtain ⟨m, hm⟩ := hq
    refine ⟨max n m, fun fuel hfuel q' hq' => ?_⟩
    rcases List.mem_cons.1 hq' with rfl | hq'
    · exact hm fuel (by omega)
    · exact hn fuel (by omega) q' hq'

/-- **The cache changes no answer.** Let the server reply to each URL in one way. A client that asks
questions one after the other with a cache of any configuration, whatever stands where in it, has
the outcomes that the questions have each on its own where nothing is kept, and where the retries
are bounded and the pages end, every one of them comes to an end. -/
theorem answers_transparent (hfixed : net.Fixed reply) (c : Client) (questions : List Question) :
    (∀ fuel config places s,
      (c.askAll net fuel questions ⟨{ config, places }, s⟩).map Prod.fst
        = questions.mapM fun q => (c.ask net fuel q ⟨.off, s⟩).map Prod.fst) ∧
    (c.transport.Bounded → (∀ q ∈ questions, q.Ends c reply) →
      ∃ n, ∀ fuel, n ≤ fuel → ∀ config places s,
        (c.askAll net fuel questions ⟨{ config, places }, s⟩).isSome) := by
  constructor
  · intro fuel config places s
    exact askAll_outcomes hfixed c fuel questions s (sound_of_empty rfl c net fuel)
  · intro hb hends
    obtain ⟨n, hn⟩ := exists_fuel_pages_settle hfixed hb questions hends
    refine ⟨n, fun fuel hfuel config places s => ?_⟩
    exact askAll_isSome hfixed hb fuel questions (hn fuel hfuel) (sound_of_empty rfl c net fuel)

/-- A server with one account, whose balances come on two pages, and no proposals. -/
def ledger (u : Url) : Reply :=
  if u.text = "http://ledger/cosmos/bank/v1beta1/balances/a?pagination.key=" then
    .response ⟨200, none, .text ("\x7b\"balances\":[\x7b\"denom\":\"x\",\"amount\":\"1\"\x7d]," ++
      "\"pagination\":\x7b\"next_key\":\"k\"\x7d\x7d")⟩
  else if u.text = "http://ledger/cosmos/bank/v1beta1/balances/a?pagination.key=k" then
    .response ⟨200, none, .text "\x7b\"balances\":[\x7b\"denom\":\"y\",\"amount\":\"2\"\x7d]\x7d"⟩
  else .response ⟨404, none, .text ""⟩

def ledgerClient : Client :=
  ⟨⟨{ scheme := "http", host := some (.name "ledger"), path := .segments [""] }, {}⟩⟩

def Answer.coins? : Except RpcError Answer → Option (List Coin)
  | .ok (.coins cs) => some cs
  | _ => none

/-- Three questions, of which the last repeats the first. -/
def ledgerQuestions : List Question := [.balances "a", .proposal 7, .balances "a"]

theorem ledger_bounded : ledgerClient.transport.Bounded := ⟨3, rfl, by decide⟩

theorem ledger_pagesEnd :
    PagesEnd ledgerClient ledger ("cosmos/bank/v1beta1/balances/" ++ "a") "" := by
  have hfirst : (ledgerClient.transport.getJson (.fixed ledger) 0
      ("cosmos/bank/v1beta1/balances/" ++ "a") [("pagination.key", "")] ()).map
        (fun p => p.1.toOption.map (nextKey? "")) = some (some (some "k")) := by decide +kernel
  have hsecond : (ledgerClient.transport.getJson (.fixed ledger) 0
      ("cosmos/bank/v1beta1/balances/" ++ "a") [("pagination.key", "k")] ()).map
        (fun p => p.1.toOption.map (nextKey? "k")) = some (some none) := by decide +kernel
  obtain ⟨⟨r, u⟩, hr, hk⟩ := Option.map_eq_some_iff.1 hfirst
  obtain ⟨page, hpage, hnext⟩ := Option.map_eq_some_iff.1 hk
  obtain rfl : r = .ok page := by
    cases r with
    | error e => cases hpage
    | ok a => cases hpage; rfl
  refine .next ((served_iff ledger_bounded 0).2 (by rw [hr]; rfl)) hnext (.last fun page' hp => ?_)
  have hp := (served_iff ledger_bounded 0).1 hp
  obtain ⟨⟨r', u'⟩, hr', rfl⟩ := Option.map_eq_some_iff.1 hp
  rw [hr'] at hsecond
  exact Option.some.inj (Option.some.inj hsecond)

theorem ledger_transparent :
    (Network.fixed ledger).Fixed ledger ∧ ledgerClient.transport.Bounded ∧
    (∀ q ∈ ledgerQuestions, q.Ends ledgerClient ledger) ∧
    (∀ config places,
      ((ledgerClient.askAll (.fixed ledger) 3 ledgerQuestions ⟨{ config, places }, ()⟩).map
        Prod.fst).map (List.map Answer.coins?)
        = some [some [⟨"x", "1"⟩, ⟨"y", "2"⟩], none, some [⟨"x", "1"⟩, ⟨"y", "2"⟩]]) ∧
    ∃ n, ∀ fuel, n ≤ fuel → ∀ config places,
      (ledgerClient.askAll (.fixed ledger) fuel ledgerQuestions ⟨{ config, places }, ()⟩).isSome := by
  have hfixed : (Network.fixed ledger).Fixed ledger := fun _ _ => rfl
  have hends : ∀ q ∈ ledgerQuestions, q.Ends ledgerClient ledger := by
    intro q hq path hpath
    rcases List.mem_cons.1 hq with rfl | hq
    · cases Option.some.inj hpath
      exact ledger_pagesEnd
    rcases List.mem_cons.1 hq with rfl | hq
    · cases hpath
    · cases List.mem_singleton.1 hq
      cases Option.some.inj hpath
      exact ledger_pagesEnd
  obtain ⟨hsame, hfuel⟩ := answers_transparent hfixed ledgerClient ledgerQuestions
  refine ⟨hfixed, ledger_bounded, hends, fun config places => ?_, ?_⟩
  · rw [hsame 3 config places ()]
    decide +kernel
  · obtain ⟨n, hn⟩ := hfuel ledger_bounded hends
    exact ⟨n, fun fuel h config places => hn fuel h config places ()⟩

end App

end ChainIndexer
