import ChainIndexer.Message.Registry
import Mathlib.Data.List.Induction

/-!
# Registries and their history

A schedule and the routes of a type are both lists that ascend by a key, into which an item is put in
place of one with its key. So either list holds the item last given for each key
(`mem_foldl_put`), and the last item that a bound reaches is known from the history alone
(`reached_of_history`).

* `Registry.resolve_of_history`: the protocol version of a height and the route of a type, from the
  registrations and upgrades in the order in which they were given; the routes of a type ascend, and
  registrations of different types or versions can change places.
-/

namespace ChainIndexer

/-! ## Histories of keyed items -/

namespace Keyed

variable {α : Type} {key : α → Nat} {bound : Nat} {x y : α} {xs ys history : List α}

def LastGiven (key : α → Nat) (history : List α) (x : α) : Prop :=
  ∃ before after, history = before ++ x :: after ∧ ∀ y ∈ after, key y ≠ key x

/-- The item last given for the greatest key of the history that the bound reaches. -/
structure LastReached (key : α → Nat) (bound : Nat) (history : List α) (x : α) : Prop where
  reached : key x ≤ bound
  greatest : ∀ y ∈ history, key y ≤ bound → key y ≤ key x
  last : LastGiven key history x

/-- Puts an item into a list that ascends by a key, in place of one with its key. -/
def put (key : α → Nat) (x : α) : List α → List α
  | [] => [x]
  | y :: ys =>
    if key x < key y then x :: y :: ys
    else if key x = key y then x :: ys
    else y :: put key x ys

def Ascending (key : α → Nat) (xs : List α) : Prop := xs.Pairwise fun a b => key a < key b

theorem lastGiven_concat : LastGiven key (xs ++ [x]) y ↔
    y = x ∨ LastGiven key xs y ∧ key y ≠ key x := by
  constructor
  · rintro ⟨before, after, he, hafter⟩
    rcases List.eq_nil_or_concat after with rfl | ⟨after, z, rfl⟩
    · obtain ⟨-, h⟩ := List.append_inj' he rfl
      exact .inl (List.cons.inj h).1.symm
    · rw [List.concat_eq_append, ← List.cons_append, ← List.append_assoc] at he
      obtain ⟨rfl, h⟩ := List.append_inj' he rfl
      obtain rfl := (List.cons.inj h).1
      refine .inr ⟨⟨before, after, rfl, fun w hw => hafter w (by simp [hw])⟩, ?_⟩
      exact (hafter x (by simp)).symm
  · rintro (rfl | ⟨⟨before, after, rfl, hafter⟩, hne⟩)
    · exact ⟨xs, [], rfl, by simp⟩
    · refine ⟨before, after ++ [x], by simp, ?_⟩
      intro z hz
      rcases List.mem_append.1 hz with hz | hz
      · exact hafter z hz
      · rw [List.mem_singleton.1 hz]
        exact hne.symm

/-! ### Putting items into a list -/

theorem mem_put (h : Ascending key ys) : y ∈ put key x ys ↔ y = x ∨ y ∈ ys ∧ key y ≠ key x := by
  induction ys with
  | nil => simp [put]
  | cons z zs ih =>
    obtain ⟨hz, hzs⟩ := List.pairwise_cons.1 h
    unfold put
    by_cases hlt : key x < key z
    · -- all that is there has a greater key
      have hne : ∀ w ∈ z :: zs, key w ≠ key x := by
        intro w hw
        rcases List.mem_cons.1 hw with rfl | hw
        · omega
        · have := hz w hw
          omega
      rw [if_pos hlt, List.mem_cons]
      exact or_congr_right ⟨fun hy => ⟨hy, hne y hy⟩, And.left⟩
    · rw [if_neg hlt]
      by_cases heq : key x = key z
      · have hne : ∀ w ∈ zs, key w ≠ key x := by
          intro w hw
          have := hz w hw
          omega
        rw [if_pos heq, List.mem_cons, List.mem_cons]
        refine or_congr_right ⟨fun hy => ⟨.inr hy, hne y hy⟩, ?_⟩
        rintro ⟨rfl | hy, hk⟩
        · exact absurd heq.symm hk
        · exact hy
      · rw [if_neg heq, List.mem_cons, List.mem_cons, ih hzs]
        constructor
        · rintro (rfl | rfl | ⟨hy, hk⟩)
          · exact .inr ⟨.inl rfl, fun hk => heq hk.symm⟩
          · exact .inl rfl
          · exact .inr ⟨.inr hy, hk⟩
        · rintro (rfl | ⟨rfl | hy, hk⟩)
          · exact .inr (.inl rfl)
          · exact .inl rfl
          · exact .inr (.inr ⟨hy, hk⟩)

theorem ascending_put (h : Ascending key ys) : Ascending key (put key x ys) := by
  induction ys with
  | nil => simp [put, Ascending]
  | cons z zs ih =>
    obtain ⟨hz, hzs⟩ := List.pairwise_cons.1 h
    unfold put
    by_cases hlt : key x < key z
    · rw [if_pos hlt]
      refine List.pairwise_cons.2 ⟨fun w hw => ?_, h⟩
      rcases List.mem_cons.1 hw with rfl | hw
      · exact hlt
      · exact Nat.lt_trans hlt (hz w hw)
    · rw [if_neg hlt]
      by_cases heq : key x = key z
      · rw [if_pos heq]
        exact List.pairwise_cons.2 ⟨fun w hw => heq ▸ hz w hw, hzs⟩
      · rw [if_neg heq]
        refine List.pairwise_cons.2 ⟨fun w hw => ?_, ih hzs⟩
        rcases (mem_put hzs).1 hw with rfl | ⟨hw, -⟩
        · omega
        · exact hz w hw

theorem Ascending.ext (hx : Ascending key xs) (hy : Ascending key ys) (h : ∀ a, a ∈ xs ↔ a ∈ ys) :
    xs = ys := by
  have hnodup : ∀ {zs : List α}, Ascending key zs → zs.Nodup := by
    intro zs hz
    exact hz.imp fun hlt he => absurd (congrArg key he) (by omega)
  have hperm : xs.Perm ys := (List.perm_ext_iff_of_nodup (hnodup hx) (hnodup hy)).2 h
  exact hperm.eq_of_pairwise (fun a b _ _ hab hba => absurd hab (by omega)) hx hy

theorem put_comm (h : Ascending key xs) (hne : key x ≠ key y) :
    put key x (put key y xs) = put key y (put key x xs) := by
  refine (ascending_put (ascending_put h)).ext (ascending_put (ascending_put h)) fun a => ?_
  rw [mem_put (ascending_put h), mem_put h, mem_put (ascending_put h), mem_put h]
  constructor
  · rintro (rfl | ⟨rfl | ⟨ha, hy⟩, hx⟩)
    · exact .inr ⟨.inl rfl, hne⟩
    · exact .inl rfl
    · exact .inr ⟨.inr ⟨ha, hx⟩, hy⟩
  · rintro (rfl | ⟨rfl | ⟨ha, hx⟩, hy⟩)
    · exact .inr ⟨.inl rfl, hne.symm⟩
    · exact .inl rfl
    · exact .inr ⟨.inr ⟨ha, hy⟩, hx⟩

theorem ascending_foldl_put (key : α → Nat) (history : List α) :
    Ascending key (history.foldl (fun ys x => put key x ys) []) := by
  induction history using List.reverseRecOn with
  | nil => exact .nil
  | append_singleton history x ih =>
    rw [List.foldl_append]
    exact ascending_put ih

theorem mem_foldl_put :
    x ∈ history.foldl (fun ys x => put key x ys) [] ↔ LastGiven key history x := by
  induction history using List.reverseRecOn with
  | nil => simp [LastGiven]
  | append_singleton history y ih =>
    rw [List.foldl_append, lastGiven_concat, ← ih]
    exact mem_put (ascending_foldl_put key history)

theorem exists_lastGiven (key : α → Nat) (h : y ∈ history) :
    ∃ x, LastGiven key history x ∧ key x = key y := by
  induction history using List.reverseRecOn with
  | nil => simp at h
  | append_singleton history z ih =>
    by_cases hk : key z = key y
    · exact ⟨z, lastGiven_concat.2 (.inl rfl), hk⟩
    · have hy : y ∈ history := by
        rcases List.mem_append.1 h with hy | hy
        · exact hy
        · exact absurd (congrArg key (List.mem_singleton.1 hy)).symm hk
      obtain ⟨x, hx, hxy⟩ := ih hy
      exact ⟨x, lastGiven_concat.2 (.inr ⟨hx, by omega⟩), hxy⟩

/-! ### Looking up what a bound reaches -/

theorem getLast?_reached (bound : Nat) (h : Ascending key xs) :
    (∃ x ∈ xs, key x ≤ bound ∧ (∀ y ∈ xs, key y ≤ bound → key y ≤ key x) ∧
        (xs.takeWhile fun x => key x ≤ bound).getLast? = some x) ∨
      (∀ x ∈ xs, bound < key x) ∧ (xs.takeWhile fun x => key x ≤ bound).getLast? = none := by
  induction xs with
  | nil => exact .inr ⟨by simp, rfl⟩
  | cons z zs ih =>
    obtain ⟨hz, hzs⟩ := List.pairwise_cons.1 h
    by_cases hreach : key z ≤ bound
    · rw [List.takeWhile_cons_of_pos (by simpa using hreach), List.getLast?_cons]
      rcases ih hzs with ⟨x, hx, hle, hmax, hlast⟩ | ⟨hnone, hlast⟩
      · refine .inl ⟨x, by simp [hx], hle, ?_, by rw [hlast]; rfl⟩
        intro y hy hyb
        rcases List.mem_cons.1 hy with rfl | hy
        · exact Nat.le_of_lt (hz x hx)
        · exact hmax y hy hyb
      · refine .inl ⟨z, by simp, hreach, ?_, by rw [hlast]; rfl⟩
        intro y hy hyb
        rcases List.mem_cons.1 hy with rfl | hy
        · exact Nat.le_refl _
        · have := hnone y hy
          omega
    · -- the list ascends, so nothing after this item is reached either
      rw [List.takeWhile_cons_of_neg (by simpa using hreach)]
      refine .inr ⟨fun x hx => ?_, rfl⟩
      rcases List.mem_cons.1 hx with rfl | hx
      · omega
      · have := hz x hx
        omega

/-- What is looked up after a history is what it gave last for the greatest key that is reached. -/
theorem reached_of_history (key : α → Nat) (bound : Nat) (history : List α) :
    (∃ x, LastReached key bound history x ∧
        ((history.foldl (fun ys x => put key x ys) []).takeWhile fun x => key x ≤ bound).getLast?
          = some x) ∨
      (∀ x ∈ history, bound < key x) ∧
        ((history.foldl (fun ys x => put key x ys) []).takeWhile fun x => key x ≤ bound).getLast?
          = none := by
  rcases getLast?_reached bound (ascending_foldl_put key history) with
    ⟨x, hx, hle, hmax, hlast⟩ | ⟨hnone, hlast⟩
  · refine .inl ⟨x, ⟨hle, fun y hy hyb => ?_, mem_foldl_put.1 hx⟩, hlast⟩
    obtain ⟨z, hz, hzy⟩ := exists_lastGiven key hy
    have := hmax z (mem_foldl_put.2 hz) (by omega)
    omega
  · refine .inr ⟨fun y hy => ?_, hlast⟩
    obtain ⟨z, hz, hzy⟩ := exists_lastGiven key hy
    have := hnone z (mem_foldl_put.2 hz)
    omega

end Keyed

open Keyed

/-! ## Schedules -/

namespace UpgradeSchedule

theorem insert_eq_put (height : Height) (version : UInt32) (upgrades : List (Height × UInt32)) :
    insert height version upgrades = put (fun u => u.1.toNat) (height, version) upgrades := by
  induction upgrades with
  | nil => rfl
  | cons u upgrades ih =>
    rw [insert, put, ih]
    simp only [UInt64.lt_iff_toNat_lt, ← UInt64.toNat_inj]

theorem upgrades_ofList (upgrades : List (Height × UInt32)) :
    (ofList upgrades).upgrades = upgrades.foldl (fun us u => put (fun u => u.1.toNat) u us) [] := by
  induction upgrades using List.reverseRecOn with
  | nil => rfl
  | append_singleton upgrades u ih =>
    rw [ofList, List.foldl_append, List.foldl_append]
    rw [ofList] at ih
    exact (insert_eq_put _ _ _).trans (congrArg _ ih)

end UpgradeSchedule

/-! ## Routes -/

namespace Registry

/-- A call while a registry is built: a route for a type, or another schedule, given by its upgrades
in the order of the calls. -/
inductive Change
  | register (url : String) (entry : RouteEntry)
  | schedule (upgrades : List (Height × UInt32))

namespace Change

def apply (r : Registry) : Change → Registry
  | register url e => r.register url e.since e.route.kind e.route.version
  | schedule upgrades => r.withSchedule (.ofList upgrades)

def entry? (url : String) : Change → Option RouteEntry
  | register u e => if u = url then some e else none
  | schedule _ => none

def upgrades? : Change → Option (List (Height × UInt32))
  | register _ _ => none
  | schedule upgrades => some upgrades

end Change

variable {r r' : Registry} {changes : List Change} {url url' : String} {e e' : RouteEntry}

/-- The registry after these calls on an empty one. -/
def built (changes : List Change) : Registry := changes.foldl Change.apply {}

/-- The registrations of a type, in the order of the calls. -/
def registered (changes : List Change) (url : String) : List RouteEntry :=
  changes.filterMap (Change.entry? url)

/-- The upgrades of the schedule that was given last. -/
def upgraded (changes : List Change) : List (Height × UInt32) :=
  (changes.filterMap Change.upgrades?).getLast?.getD []

theorem insertEntry_eq_put (e : RouteEntry) (entries : List RouteEntry) :
    insertEntry e entries = put (fun e => e.since.toNat) e entries := by
  induction entries with
  | nil => rfl
  | cons f entries ih =>
    rw [insertEntry, put, ih]
    simp only [UInt32.lt_iff_toNat_lt, ← UInt32.toNat_inj]

theorem lookup_insertInto (entries : List (String × List RouteEntry)) :
    (insertInto url e entries).lookup url' =
      if url' = url then some (insertEntry e ((entries.lookup url).getD []))
      else entries.lookup url' := by
  induction entries with
  | nil =>
    by_cases h : url' = url
    · simp [insertInto, insertEntry, h]
    · simp [insertInto, List.lookup_cons, beq_false_of_ne h, h]
  | cons p entries ih =>
    obtain ⟨u, es⟩ := p
    unfold insertInto
    by_cases hu : u = url
    · subst hu
      by_cases h : url' = u
      · simp [h]
      · simp [List.lookup_cons, beq_false_of_ne h, h]
    · have hu' : url ≠ u := fun he => hu he.symm
      by_cases h : url' = u
      · subst h
        simp [hu]
      · simp [List.lookup_cons, beq_false_of_ne hu', beq_false_of_ne h, hu, ih]

theorem length_insertInto (entries : List (String × List RouteEntry)) :
    (insertInto url e entries).length =
      if (entries.lookup url).isSome then entries.length else entries.length + 1 := by
  induction entries with
  | nil => rfl
  | cons p entries ih =>
    obtain ⟨u, es⟩ := p
    unfold insertInto
    by_cases hu : u = url
    · subst hu
      simp
    · have hu' : (url == u) = false := beq_false_of_ne fun he => hu he.symm
      rw [if_neg hu, List.length_cons, ih, List.lookup_cons, hu']
      by_cases h : (entries.lookup url).isSome = true <;> simp [h]

theorem entriesOf_apply (c : Change) :
    (c.apply r).entriesOf url =
      (c.entry? url).elim (r.entriesOf url) fun e => insertEntry e (r.entriesOf url) := by
  cases c with
  | schedule upgrades => rfl
  | register u e =>
    simp only [Change.apply, entriesOf, register, lookup_insertInto, Change.entry?, eq_comm (a := u)]
    by_cases h : url = u
    · simp [h]
    · simp [h]

theorem entriesOf_built (changes : List Change) (url : String) :
    (built changes).entriesOf url =
      (registered changes url).foldl (fun es e => put (fun e => e.since.toNat) e es) [] := by
  induction changes using List.reverseRecOn with
  | nil => rfl
  | append_singleton changes c ih =>
    rw [built, List.foldl_append, registered, List.filterMap_append, List.foldl_append]
    show (c.apply (built changes)).entriesOf url = _
    rw [entriesOf_apply, ih]
    cases hc : c.entry? url with
    | none => simp [hc, registered]
    | some e => simp [hc, registered, insertEntry_eq_put]

theorem schedule_built (changes : List Change) :
    (built changes).schedule = .ofList (upgraded changes) := by
  induction changes using List.reverseRecOn with
  | nil => rfl
  | append_singleton changes c ih =>
    rw [built, List.foldl_append, upgraded, List.filterMap_append]
    cases c with
    | register u e =>
      rw [List.filterMap_cons_none rfl, List.filterMap_nil, List.append_nil]
      exact ih
    | schedule upgrades => simp [Change.upgrades?, Change.apply, withSchedule]

/-! ## Registrations that change places -/

/-- Two registries that cannot be told apart: each type has the same routes in both. -/
structure Alike (r r' : Registry) : Prop where
  lookup : ∀ url, r.entries.lookup url = r'.entries.lookup url
  size : r.size = r'.size
  schedule : r.schedule = r'.schedule

theorem Alike.resolve (h : Alike r r') (url : String) (height : Height) :
    r.resolve url height = r'.resolve url height := by
  simp only [Registry.resolve, entriesOf, h.lookup, h.schedule]

theorem Alike.apply (h : Alike r r') (c : Change) : Alike (c.apply r) (c.apply r') := by
  cases c with
  | schedule upgrades => exact ⟨h.lookup, h.size, rfl⟩
  | register url e =>
    refine ⟨fun url' => ?_, ?_, h.schedule⟩
    · show (insertInto _ _ _).lookup url' = (insertInto _ _ _).lookup url'
      rw [lookup_insertInto, lookup_insertInto, h.lookup, h.lookup]
    · have hsize : r.entries.length = r'.entries.length := h.size
      show (insertInto _ _ _).length = (insertInto _ _ _).length
      rw [length_insertInto, length_insertInto, h.lookup, hsize]

theorem Alike.foldl (h : Alike r r') (changes : List Change) :
    Alike (changes.foldl Change.apply r) (changes.foldl Change.apply r') := by
  induction changes generalizing r r' with
  | nil => exact h
  | cons c changes ih => exact ih (h.apply c)

theorem register_alike (hascending : ∀ url, Ascending (fun e => e.since.toNat) (r.entriesOf url))
    (hne : (url, e.since) ≠ (url', e'.since)) :
    Alike ((Change.register url' e').apply ((Change.register url e).apply r))
      ((Change.register url e).apply ((Change.register url' e').apply r)) := by
  refine ⟨fun u => ?_, ?_, rfl⟩
  · show (insertInto _ _ (insertInto _ _ _)).lookup u = (insertInto _ _ (insertInto _ _ _)).lookup u
    simp only [lookup_insertInto]
    by_cases hurl : url' = url
    · -- one type: the two routes have different versions
      subst hurl
      have hsince : e'.since.toNat ≠ e.since.toNat := by
        intro h
        exact hne (by rw [UInt32.toNat_inj.1 h])
      have hcomm := put_comm (x := e') (y := e) (hascending url') hsince
      rw [entriesOf] at hcomm
      simp only [if_true, Option.getD_some, insertEntry_eq_put]
      rw [hcomm]
      by_cases h : u = url' <;> simp [h]
    · have hurl' : url ≠ url' := fun h => hurl h.symm
      by_cases h : u = url'
      · subst h
        simp [hurl]
      · simp [h, hurl']
  · show (insertInto _ _ (insertInto _ _ _)).length = (insertInto _ _ (insertInto _ _ _)).length
    simp only [length_insertInto, lookup_insertInto]
    by_cases hurl : url' = url
    · subst hurl
      simp
    · have hurl' : url ≠ url' := fun h => hurl h.symm
      rw [if_neg hurl, if_neg hurl']
      by_cases h : (r.entries.lookup url).isSome = true <;>
        by_cases h' : (r.entries.lookup url').isSome = true <;> simp [h, h']

/-- **Look-ups and the history.** The protocol version of a height is that last given for the
greatest upgrade height that is at most the height, and zero before the first upgrade. The route of a
type is that last registered for the greatest version up to the protocol version, and unknown where
there is none. The routes of a type strictly ascend, and two registrations in a row can change places
unless they are for the same type from the same version. -/
theorem resolve_of_history (changes : List Change) (url : String) (height : Height) :
    ((∃ u, LastReached (fun u => u.1.toNat) height.toNat (upgraded changes) u ∧
        (built changes).schedule.versionAt height = u.2) ∨
      (∀ u ∈ upgraded changes, height < u.1) ∧ (built changes).schedule.versionAt height = 0) ∧
    ((∃ e, LastReached (fun e => e.since.toNat) ((built changes).schedule.versionAt height).toNat
          (registered changes url) e ∧ (built changes).resolve url height = e.route) ∨
      (∀ e ∈ registered changes url, (built changes).schedule.versionAt height < e.since) ∧
        (built changes).resolve url height = .unknown) ∧
    ((built changes).entriesOf url).Pairwise (fun a b => a.since < b.since) ∧
    ∀ url₁ url₂ e₁ e₂ later, (url₁, e₁.since) ≠ (url₂, e₂.since) →
      Alike (built (changes ++ .register url₁ e₁ :: .register url₂ e₂ :: later))
        (built (changes ++ .register url₂ e₂ :: .register url₁ e₁ :: later)) := by
  have hascending : ∀ url, Ascending (fun e => e.since.toNat) ((built changes).entriesOf url) := by
    intro url
    rw [entriesOf_built]
    exact ascending_foldl_put _ _
  refine ⟨?_, ?_, ?_, fun url₁ url₂ e₁ e₂ later hne => ?_⟩
  · simp only [schedule_built, UpgradeSchedule.versionAt, UpgradeSchedule.upgrades_ofList,
      UInt64.le_iff_toNat_le, UInt64.lt_iff_toNat_lt]
    rcases reached_of_history (fun u => u.1.toNat) height.toNat (upgraded changes) with
      ⟨u, hu, hlast⟩ | ⟨hnone, hlast⟩
    · exact .inl ⟨u, hu, by rw [hlast]⟩
    · exact .inr ⟨hnone, by rw [hlast]⟩
  · simp only [resolve, routeAt, entriesOf_built, UInt32.le_iff_toNat_le, UInt32.lt_iff_toNat_lt]
    rcases reached_of_history (fun e => e.since.toNat)
      ((built changes).schedule.versionAt height).toNat (registered changes url) with
      ⟨e, he, hlast⟩ | ⟨hnone, hlast⟩
    · exact .inl ⟨e, he, by rw [hlast]⟩
    · exact .inr ⟨hnone, by rw [hlast]⟩
  · exact (hascending url).imp fun h => UInt32.lt_iff_toNat_lt.2 h
  · simp only [built, List.foldl_append, List.foldl_cons]
    exact (register_alike hascending hne).foldl later

/-- A type whose route changes with the second of two upgrades; its routes can be registered in either
order. -/
theorem upgraded_resolves :
    let first : RouteEntry := ⟨0, .send, 1⟩
    let second : RouteEntry := ⟨2, .send, 3⟩
    let schedule : Change := .schedule [(5000, 7), (1000, 1), (5000, 2)]
    ("/x.MsgY", first.since) ≠ ("/x.MsgY", second.since) ∧
      Alike (built [schedule, .register "/x.MsgY" first, .register "/x.MsgY" second])
        (built [schedule, .register "/x.MsgY" second, .register "/x.MsgY" first]) ∧
      (built [schedule, .register "/x.MsgY" second, .register "/x.MsgY" first]).resolve "/x.MsgY" 5000
        = ⟨.send, 3⟩ := by
  intro first second schedule
  have hne : ("/x.MsgY", first.since) ≠ ("/x.MsgY", second.since) := by decide
  obtain ⟨-, -, -, hcommute⟩ := resolve_of_history [schedule] "/x.MsgY" 5000
  exact ⟨hne, hcommute _ _ first second [] hne, by decide +kernel⟩

end Registry

end ChainIndexer
