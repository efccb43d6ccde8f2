import ChainIndexer.Proofs.FixedServer
import Mathlib.Data.List.Perm.Subperm

/-!
# When the pages of a list end

A page names the key of the next one, and only the key that was asked for last is not asked for
again. Where the server answers each of finitely many keys with one page:

* `getPages_ends_or_repeats`: all pages are fetched, each once, where the chain of keys comes back to
  no key; where it comes back to one, the client goes round forever.
* `book_goes_round`: three pages of which the last names the second.
-/

namespace ChainIndexer

open Json (Value)

variable {σ α : Type}

/-! ## Chains of keys -/

/-- The first keys of a chain. -/
def keysFrom (next : String → Option String) : Nat → String → List String
  | 0, _ => []
  | n + 1, key => key :: (next key).elim [] (keysFrom next n)

/-- From a key on, the chain consists of these keys. -/
inductive EndsAfter (next : String → Option String) : String → List String → Prop
  | last {key} (h : next key = none) : EndsAfter next key [key]
  | step {key key' ks} (h : next key = some key') (rest : EndsAfter next key' ks) :
      EndsAfter next key (key :: ks)

namespace EndsAfter

variable {next : String → Option String} {key : String} {ks ks' : List String}

theorem unique (h : EndsAfter next key ks) (h' : EndsAfter next key ks') : ks = ks' := by
  induction h generalizing ks' with
  | last hlast =>
    cases h' with
    | last => rfl
    | step hstep => cases hlast.symm.trans hstep
  | step hstep _ ih =>
    cases h' with
    | last hlast => cases hlast.symm.trans hstep
    | step hstep' rest' =>
      cases hstep.symm.trans hstep'
      rw [ih rest']

theorem length_pos (h : EndsAfter next key ks) : 0 < ks.length := by
  cases h <;> exact Nat.succ_pos _

theorem exists_suffix (h : EndsAfter next key ks) {k : String} (hk : k ∈ ks) :
    ∃ ks', ks' <:+ ks ∧ EndsAfter next k ks' := by
  induction h with
  | last hlast =>
    cases List.mem_singleton.1 hk
    exact ⟨_, List.suffix_rfl, .last hlast⟩
  | @step key key' ks hstep rest ih =>
    rcases List.mem_cons.1 hk with rfl | hk
    · exact ⟨_, List.suffix_rfl, .step hstep rest⟩
    · obtain ⟨ks', hsuffix, hends⟩ := ih hk
      exact ⟨ks', hsuffix.trans (List.suffix_cons key ks), hends⟩

/-- A chain that ends holds no key twice: after its second place it would go on as after its
first. -/
theorem nodup (h : EndsAfter next key ks) : ks.Nodup := by
  induction h with
  | last => simp
  | @step key key' ks hstep rest ih =>
    refine List.nodup_cons.2 ⟨fun hmem => ?_, ih⟩
    obtain ⟨ks', hsuffix, hends⟩ := rest.exists_suffix hmem
    have hsame : ks' = key :: ks := hends.unique (.step hstep rest)
    have hlength : ks'.length ≤ ks.length := hsuffix.length_le
    rw [hsame, List.length_cons] at hlength
    omega

theorem keysFrom_eq (h : EndsAfter next key ks) (n : Nat) : keysFrom next n key = ks.take n := by
  induction h generalizing n with
  | last hlast =>
    cases n with
    | zero => rfl
    | succ n => rw [keysFrom, hlast, Option.elim_none, List.take_succ_cons, List.take_nil]
  | step hstep _ ih =>
    cases n with
    | zero => rfl
    | succ n => rw [keysFrom, hstep, Option.elim_some, List.take_succ_cons, ih]

end EndsAfter

section Finite

variable {next : String → Option String} {keys : List String}

theorem endsAfter_or_length (next : String → Option String) (n : Nat) (key : String) :
    (∃ ks, EndsAfter next key ks) ∨ (keysFrom next n key).length = n := by
  induction n generalizing key with
  | zero => exact .inr rfl
  | succ n ih =>
    cases hnext : next key with
    | none => exact .inl ⟨_, .last hnext⟩
    | some key' =>
      rcases ih key' with ⟨ks, hends⟩ | hlength
      · exact .inl ⟨_, .step hnext hends⟩
      · refine .inr ?_
        rw [keysFrom, hnext, Option.elim_some, List.length_cons, hlength]

variable (hclosed : ∀ key ∈ keys, ∀ key' ∈ next key, key' ∈ keys)

include hclosed

theorem keysFrom_subset {key : String} (hkey : key ∈ keys) (n : Nat) :
    keysFrom next n key ⊆ keys := by
  induction n generalizing key with
  | zero => exact List.nil_subset _
  | succ n ih =>
    rw [keysFrom, List.cons_subset]
    refine ⟨hkey, ?_⟩
    cases hnext : next key with
    | none => exact List.nil_subset _
    | some key' => exact ih (hclosed key hkey key' hnext)

theorem EndsAfter.subset {key : String} (hkey : key ∈ keys) {ks : List String}
    (h : EndsAfter next key ks) : ks ⊆ keys := by
  have hsubset := keysFrom_subset hclosed hkey ks.length
  rwa [h.keysFrom_eq, List.take_length] at hsubset

theorem EndsAfter.length_le {key : String} (hkey : key ∈ keys) {ks : List String}
    (h : EndsAfter next key ks) : ks.length ≤ keys.length :=
  (List.subperm_of_subset h.nodup (h.subset hclosed hkey)).length_le

theorem exists_endsAfter_iff {key : String} (hkey : key ∈ keys) :
    (∃ ks, EndsAfter next key ks) ↔ ∀ n, (keysFrom next n key).Nodup := by
  constructor
  · rintro ⟨ks, hends⟩ n
    rw [hends.keysFrom_eq]
    exact hends.nodup.sublist (List.take_sublist n ks)
  · intro hnodup
    rcases endsAfter_or_length next (keys.length + 1) key with hends | hlength
    · exact hends
    · have hsubset := keysFrom_subset hclosed hkey (keys.length + 1)
      have hle := (List.subperm_of_subset (hnodup (keys.length + 1)) hsubset).length_le
      omega

end Finite

/-! ## Keys that are asked for -/

namespace App

def Client.pageNoting (c : Client) (net : Network σ) (fuel : Nat) (path key : String) :
    Query (List String × σ) Value :=
  (c.transport.getJson net fuel path [("pagination.key", key)]).noting key

/-- The items of all pages at a path, with a note of each key that is asked for. -/
def Client.getPagesNoting (c : Client) (net : Network σ) (fuel : Nat) (path field : String) :
    Query (List String × σ) (List Value) :=
  pagesFrom (c.pageNoting net fuel path) field fuel "" []

theorem pagesFrom_noting (page : String → Query σ Value) (field : String) (fuel : Nat)
    (key : String) (items : List Value) (notes : List String) (s : σ) :
    (pagesFrom (fun key => (page key).noting key) field fuel key items (notes, s)).map
      (fun p => (p.1, p.2.2)) = pagesFrom page field fuel key items s := by
  induction fuel generalizing key items notes s with
  | zero => rfl
  | succ fuel ih =>
    rw [pagesFrom, pagesFrom, Query.bind_run, Query.bind_run, Query.noting]
    cases page key s with
    | none => rfl
    | some p =>
      obtain ⟨e | v, s'⟩ := p
      · rfl
      · dsimp only [Option.map_some]
        cases nextKey? key v with
        | none => rfl
        | some key' => exact ih key' _ _ s'

theorem getPagesNoting_forget (c : Client) (net : Network σ) (fuel : Nat) (path field : String)
    (s : σ) :
    (c.getPagesNoting net fuel path field ([], s)).map (fun p => (p.1, p.2.2))
      = c.getPages net fuel path field s :=
  pagesFrom_noting _ field fuel "" [] [] s

/-! ## Pages under keys -/

/-- Asked for a key, the server gives this page, whatever it was asked before and however often it
may be tried. -/
def Client.Answers (c : Client) (net : Network σ) (path key : String) (page : Value) : Prop :=
  ∀ fuel s, ∃ s',
    c.transport.getJson net (fuel + 1) path [("pagination.key", key)] s = some (.ok page, s')

/-- The key that is asked for after a key. -/
def following (page : String → Value) (key : String) : Option String := nextKey? key (page key)

/-- The server answers each of these keys with one page, the first key among them, and its pages
name no other. -/
structure Paged (c : Client) (net : Network σ) (path : String) (keys : List String)
    (page : String → Value) : Prop where
  first : "" ∈ keys
  answers : ∀ key ∈ keys, c.Answers net path key (page key)
  closed : ∀ key ∈ keys, ∀ key' ∈ following page key, key' ∈ keys

variable {net : Network σ} {c : Client} {path : String} {keys : List String}
  {page : String → Value}

/-- One turn: the page's items are added, its key is noted, and the next key is asked for. -/
theorem Paged.pagesFrom_succ (h : Paged c net path keys page) {key : String} (hkey : key ∈ keys)
    (fuel fuel' : Nat) (field : String) (items : List Value) (notes : List String) (s : σ) :
    ∃ s', pagesFrom (c.pageNoting net (fuel' + 1) path) field (fuel + 1) key items (notes, s)
      = (following page key).elim
          (some (.ok (items ++ pageItems field (page key)), notes ++ [key], s')) fun key' =>
          pagesFrom (c.pageNoting net (fuel' + 1) path) field fuel key'
            (items ++ pageItems field (page key)) (notes ++ [key], s') := by
  obtain ⟨s', hrun⟩ := h.answers key hkey fuel' s
  refine ⟨s', ?_⟩
  rw [following, pagesFrom, Query.bind_run, Client.pageNoting, Query.noting, hrun]
  dsimp only [Option.map_some]
  cases nextKey? key (page key) <;> rfl

theorem Paged.pagesFrom_of_endsAfter (h : Paged c net path keys page) (fuel' : Nat)
    (field : String) {key : String} {ks : List String} (hends : EndsAfter (following page) key ks)
    (hkey : key ∈ keys) {fuel : Nat} (hfuel : ks.length ≤ fuel) (items : List Value)
    (notes : List String) (s : σ) :
    ∃ s', pagesFrom (c.pageNoting net (fuel' + 1) path) field fuel key items (notes, s)
      = some (.ok (items ++ ks.flatMap fun key => pageItems field (page key)),
          notes ++ ks, s') := by
  induction hends generalizing fuel items notes s with
  | @last key hlast =>
    obtain ⟨fuel, rfl⟩ : ∃ n, fuel = n + 1 := Nat.exists_eq_add_one.2 hfuel
    obtain ⟨s', hturn⟩ := h.pagesFrom_succ hkey fuel fuel' field items notes s
    refine ⟨s', ?_⟩
    rw [hturn, hlast, Option.elim_none, List.flatMap_singleton]
  | @step key key' ks hstep rest ih =>
    obtain ⟨fuel, rfl⟩ : ∃ n, fuel = n + 1 := Nat.exists_eq_add_one.2 (Nat.zero_lt_of_lt hfuel)
    obtain ⟨s', hturn⟩ := h.pagesFrom_succ hkey fuel fuel' field items notes s
    obtain ⟨s'', hrest⟩ := ih (h.closed key hkey key' hstep) (Nat.le_of_succ_le_succ hfuel)
      (items ++ pageItems field (page key)) (notes ++ [key]) s'
    refine ⟨s'', ?_⟩
    rw [hturn, hstep, Option.elim_some, hrest, List.flatMap_cons, List.append_assoc,
      List.append_assoc, List.singleton_append]

theorem Paged.exists_endsAfter (h : Paged c net path keys page) (fuel' : Nat) (field : String)
    {key : String} (hkey : key ∈ keys) {fuel : Nat} {items : List Value} {notes : List String}
    {s : σ} (hsome : (pagesFrom (c.pageNoting net (fuel' + 1) path) field fuel key items
      (notes, s)).isSome) :
    ∃ ks, EndsAfter (following page) key ks := by
  induction fuel generalizing key items notes s with
  | zero => cases hsome
  | succ fuel ih =>
    obtain ⟨s', hturn⟩ := h.pagesFrom_succ hkey fuel fuel' field items notes s
    cases hnext : following page key with
    | none => exact ⟨_, .last hnext⟩
    | some key' =>
      rw [hturn, hnext] at hsome
      obtain ⟨ks, hends⟩ := ih (h.closed key hkey key' hnext) hsome
      exact ⟨_, .step hnext hends⟩

theorem Paged.getPages_eq_none (h : Paged c net path keys page) {n : Nat}
    (hagain : ¬(keysFrom (following page) n "").Nodup) (fuel : Nat) (field : String) (s : σ) :
    c.getPages net fuel path field s = none := by
  cases fuel with
  | zero => rfl
  | succ fuel =>
    rw [← Option.not_isSome_iff_eq_none, ← getPagesNoting_forget, Option.isSome_map]
    intro hsome
    have hends := h.exists_endsAfter fuel field h.first hsome
    exact hagain ((exists_endsAfter_iff h.closed h.first).1 hends n)

/-- **Pages end unless they come back.** Let the server answer each of finitely many keys with one
page. If the chain of keys comes back to no key, all its pages are fetched, at most as many as there
are keys, and no key is asked for twice. If it comes back to one, the pages never end. -/
theorem getPages_ends_or_repeats (h : Paged c net path keys page) (field : String) (s : σ) :
    ((∀ n, (keysFrom (following page) n "").Nodup) →
      ∃ asked, EndsAfter (following page) "" asked ∧ asked.Nodup ∧ asked.length ≤ keys.length ∧
        ∀ fuel, asked.length ≤ fuel → ∃ s',
          c.getPagesNoting net fuel path field ([], s)
            = some (.ok (asked.flatMap fun key => pageItems field (page key)), asked, s') ∧
          c.getPages net fuel path field s
            = some (.ok (asked.flatMap fun key => pageItems field (page key)), s')) ∧
    ((∃ n, ¬(keysFrom (following page) n "").Nodup) →
      ∀ fuel, c.getPages net fuel path field s = none) := by
  constructor
  · intro hnodup
    obtain ⟨asked, hends⟩ := (exists_endsAfter_iff h.closed h.first).2 hnodup
    refine ⟨asked, hends, hends.nodup, hends.length_le h.closed h.first, fun fuel hfuel => ?_⟩
    obtain ⟨fuel, rfl⟩ : ∃ n, fuel = n + 1 :=
      Nat.exists_eq_add_one.2 (Nat.lt_of_lt_of_le hends.length_pos hfuel)
    obtain ⟨s', hrun⟩ := h.pagesFrom_of_endsAfter fuel field hends h.first hfuel [] [] s
    refine ⟨s', hrun, ?_⟩
    rw [← getPagesNoting_forget, Client.getPagesNoting, hrun]
    rfl
  · rintro ⟨n, hagain⟩ fuel
    exact h.getPages_eq_none hagain fuel field s

/-! ## Three pages -/

theorem eq_ok_of_retrying {retry : RetryConfig} {step : σ → Except RpcError α × σ}
    (hsame : ∀ s t, (step s).1 = (step t).1) {fuel failures : Nat} {s : σ}
    {p : Except RpcError α × σ} {a : α}
    (h : Transport.retrying retry step fuel failures s = some p) (hp : p.1 = .ok a) (t : σ) :
    (step t).1 = .ok a := by
  induction fuel generalizing failures s with
  | zero => cases h
  | succ fuel ih =>
    have hstep := hsame t s
    unfold Transport.retrying at h
    revert h hstep
    rcases step s with ⟨e | a', s'⟩
    · dsimp only
      intro hstep h
      split at h
      · exact ih h
      · cases h
        cases hp
    · intro hstep h
      cases h
      exact hstep.trans hp

theorem Served.answers {reply : Url → Reply} (hfixed : net.Fixed reply) {key : String} {v : Value}
    (h : Served c reply path key v) : c.Answers net path key v := by
  obtain ⟨fuel₀, h⟩ := h
  obtain ⟨p, hp, hok⟩ := Option.map_eq_some_iff.1 h
  intro fuel s
  unfold Transport.getJson at hp ⊢
  cases hu : c.transport.endpoint path with
  | error e =>
    rw [hu] at hp
    cases hp
    cases hok
  | ok u =>
    rw [hu] at hp
    dsimp only at hp ⊢
    have honce := eq_ok_of_retrying (fun _ _ => rfl) hp hok ()
    rw [← Transport.getOnce_fixed hfixed c.transport _ s] at honce
    obtain ⟨n, hn⟩ : ∃ n, Transport.tries c.transport.config.retry (fuel + 1) = n + 1 := by
      unfold Transport.tries
      cases c.transport.config.retry.maxRetries <;> exact ⟨_, rfl⟩
    rw [hn, Transport.retrying]
    dsimp only
    revert honce
    rcases c.transport.getOnce net (u.withQuery [("pagination.key", key)]) s with ⟨r, s'⟩
    rintro rfl
    exact ⟨s', rfl⟩

def leaf (item next : String) : Reply :=
  .response ⟨200, none, .text ("\x7b\"items\":[\"" ++ item ++
    "\"],\"pagination\":\x7b\"next_key\":\"" ++ next ++ "\"\x7d\x7d")⟩

/-- A server with three pages, of which the last names this key. -/
def book (last : String) (u : Url) : Reply :=
  if u.text = "http://book/pages?pagination.key=" then leaf "x" "a"
  else if u.text = "http://book/pages?pagination.key=a" then leaf "y" "b"
  else leaf "z" last

def bookClient : Client :=
  ⟨⟨{ scheme := "http", host := some (.name "book"), path := .segments [""] }, {}⟩⟩

/-- The pages of such a server. -/
def bookPage (last key : String) : Value :=
  (bookClient.transport.getJson (.fixed (book last)) 0 "pages" [("pagination.key", key)] ()).elim
    .null fun p => p.1.toOption.getD .null

theorem book_served : ∀ last ∈ ["", "a"], ∀ key ∈ ["", "a", "b"],
    Served bookClient (book last) "pages" key (bookPage last key) := by
  intro last hlast key hkey
  have hok : ((bookClient.transport.getJson (.fixed (book last)) 0 "pages"
      [("pagination.key", key)] ()).map fun p => p.1.toOption.isSome) = some true := by
    revert last key
    decide +kernel
  obtain ⟨⟨r, u⟩, hr, hsome⟩ := Option.map_eq_some_iff.1 hok
  refine ⟨0, ?_⟩
  rw [bookPage, hr]
  cases r with
  | error e => cases hsome
  | ok v => rfl

theorem book_paged (last : String) (hlast : last ∈ ["", "a"]) :
    Paged bookClient (.fixed (book last)) "pages" ["", "a", "b"] (bookPage last) where
  first := by decide
  answers key hkey := (book_served last hlast key hkey).answers fun _ _ => rfl
  closed := by
    revert last
    decide +kernel

theorem book_endsAfter : EndsAfter (following (bookPage "")) "" ["", "a", "b"] := by
  have hfirst : following (bookPage "") "" = some "a" := by decide +kernel
  have hsecond : following (bookPage "") "a" = some "b" := by decide +kernel
  have hlast : following (bookPage "") "b" = none := by decide +kernel
  exact .step hfirst (.step hsecond (.last hlast))

theorem book_ends :
    Paged bookClient (.fixed (book "")) "pages" ["", "a", "b"] (bookPage "") ∧
    ∀ fuel, 3 ≤ fuel → ∃ items, items.map Value.string? = [some "x", some "y", some "z"] ∧
      bookClient.getPagesNoting (.fixed (book "")) fuel "pages" "items" ([], ())
        = some (.ok items, ["", "a", "b"], ()) := by
  have hpaged := book_paged "" (by decide)
  obtain ⟨asked, hends, -, -, hrun⟩ := (getPages_ends_or_repeats hpaged "items" ()).1
    ((exists_endsAfter_iff hpaged.closed hpaged.first).1 ⟨_, book_endsAfter⟩)
  obtain rfl := hends.unique book_endsAfter
  refine ⟨hpaged, fun fuel hfuel => ?_⟩
  obtain ⟨s', hnoting, -⟩ := hrun fuel hfuel
  exact ⟨_, by decide +kernel, hnoting⟩

/-- Three pages of which the last names the second are fetched over and over. -/
theorem book_goes_round :
    Paged bookClient (.fixed (book "a")) "pages" ["", "a", "b"] (bookPage "a") ∧
    keysFrom (following (bookPage "a")) 4 "" = ["", "a", "b", "a"] ∧
    ∀ fuel, bookClient.getPages (.fixed (book "a")) fuel "pages" "items" () = none := by
  have hpaged := book_paged "a" (by decide)
  have hkeys : keysFrom (following (bookPage "a")) 4 "" = ["", "a", "b", "a"] := by
    decide +kernel
  have hagain : ¬(keysFrom (following (bookPage "a")) 4 "").Nodup := by
    rw [hkeys]
    decide
  exact ⟨hpaged, hkeys, fun fuel => hpaged.getPages_eq_none hagain fuel "items" ()⟩

end App

end ChainIndexer
