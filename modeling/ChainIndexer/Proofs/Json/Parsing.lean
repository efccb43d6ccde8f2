import ChainIndexer.Proofs.Json.Lexing

/-!
# Reading back what was written

The tokens of a value are put together to the value, whatever is open around it
(`Reading.run_value`), as long as no more than 127 values are open at once. So the compact text of
a value that fits reads back as the value (`parse?_compact`).
-/

namespace ChainIndexer.Json

/-! ## Members -/

theorem Members.insert_of_above {key : String} {members : Members}
    (h : ∀ p ∈ members, p.1 < key) (v : Value) :
    members.insert key v = members ++ [(key, v)] := by
  induction members with
  | nil => rfl
  | cons p members ih =>
    obtain ⟨k, w⟩ := p
    have hk : k < key := h (k, w) (by simp)
    have hnot : ¬ key < k := String.lt_asymm hk
    have hne : key ≠ k := by rintro rfl; exact hnot hk
    rw [Members.insert, if_neg hnot, if_neg hne, ih fun q hq => h q (by simp [hq])]
    rfl

theorem Members.insert_of_ascending {key : String} {v : Value} {members more : Members}
    (ha : ((members ++ (key, v) :: more).map Prod.fst).Pairwise (· < ·)) :
    members.insert key v = members ++ [(key, v)] := by
  rw [List.map_append, List.pairwise_append] at ha
  exact Members.insert_of_above
    (fun p hp => ha.2.2 p.1 (List.mem_map_of_mem hp) key (by simp)) v

/-! ## Arrays and objects -/

theorem Reading.run_firstItem (stack : List Frame) (v : Value) (ts : List Token) :
    (Reading.firstItem stack).run (tokens v ++ ts)
      = (Reading.value (.array [] :: stack)).run (tokens v ++ ts) := by
  rcases v with _ | b | n | s | ⟨_ | ⟨v, vs⟩⟩ | ⟨_ | ⟨⟨k, v⟩, ms⟩⟩ <;> simp [tokens, run, step]

/-- The tokens of the value are put together to the value, where so many more values may be
open. -/
def Value.Reads (n : Nat) (v : Value) : Prop :=
  ∀ (stack : List Frame) (ts : List Token), stack.length + n ≤ maxDepth →
    (Reading.value stack).run (tokens v ++ ts) = (complete v stack).run ts

theorem Reading.run_itemTokens {n : Nat} {stack : List Frame} (hs : stack.length + 1 + n ≤ maxDepth)
    {vs : List Value} (h : ∀ v ∈ vs, v.Reads n) (items : List Value) (last : Value)
    (ts : List Token) :
    (Reading.separator stack (.array items) last).run (itemTokens vs ++ ts)
      = (complete (.array ((last :: items).reverse ++ vs)) stack).run ts := by
  induction vs generalizing items last with
  | nil => simp [itemTokens, run, step]
  | cons v vs ih =>
    have hv := h v (by simp) (.array (last :: items) :: stack) (itemTokens vs ++ ts) hs
    simp only [itemTokens, List.cons_append, List.append_assoc, run, step, Option.bind_some]
    rw [hv, complete, ih fun w hw => h w (by simp [hw])]
    simp

theorem Reading.run_memberTokens {n : Nat} {stack : List Frame}
    (hs : stack.length + 1 + n ≤ maxDepth) {ms : Members} (h : ∀ p ∈ ms, p.2.Reads n)
    {members : Members} {key : String} {v : Value}
    (ha : ((members ++ (key, v) :: ms).map Prod.fst).Pairwise (· < ·)) (ts : List Token) :
    (Reading.separator stack (.object members key) v).run (memberTokens ms ++ ts)
      = (complete (.object (members ++ (key, v) :: ms)) stack).run ts := by
  induction ms generalizing members key v with
  | nil => simp [memberTokens, run, step, Members.insert_of_ascending ha]
  | cons p ms ih =>
    obtain ⟨k, w⟩ := p
    have hinsert := Members.insert_of_ascending ha
    have hw := h (k, w) (by simp) (.object (members ++ [(key, v)]) k :: stack)
      (memberTokens ms ++ ts) hs
    have ha' : (((members ++ [(key, v)]) ++ (k, w) :: ms).map Prod.fst).Pairwise (· < ·) := by
      simpa using ha
    simp only [memberTokens, List.cons_append, List.append_assoc, run, step, Option.bind_some,
      hinsert, String.ofList_toList]
    rw [hw, complete, ih (fun q hq => h q (by simp [hq])) ha']
    simp

/-- **The tokens of a value are put together to the value.** -/
theorem Reading.run_value {n : Nat} {v : Value} (h : v.Fits n) : v.Reads n := by
  induction h with
  | null => exact fun _ ts _ => by simp [tokens, run, step, readValue]
  | bool => exact fun _ ts _ => by simp [tokens, run, step, readValue]
  | whole => exact fun _ ts _ => by simp [tokens, run, step, readValue]
  | string => exact fun _ ts _ => by simp [tokens, run, step, readValue]
  | @array n items h ih =>
    intro stack ts hs
    have hopen : readValue stack .openArray = some (.firstItem stack) := by
      rw [readValue, if_pos (by omega)]
    cases items with
    | nil =>
      simp only [tokens, List.cons_append, List.nil_append, run, step, hopen, Option.bind_some]
    | cons v vs =>
      have hv := ih v (by simp) (.array [] :: stack) (itemTokens vs ++ ts)
        (by simp only [List.length_cons]; omega)
      simp only [tokens, List.cons_append, List.append_assoc, run, step, hopen, Option.bind_some]
      rw [run_firstItem, hv, complete,
        run_itemTokens (n := n) (by omega) fun w hw => ih w (by simp [hw])]
      rfl
  | @object n members ha h ih =>
    intro stack ts hs
    have hopen : readValue stack .openObject = some (.firstKey stack) := by
      rw [readValue, if_pos (by omega)]
    rcases members with _ | ⟨⟨k, v⟩, ms⟩
    · simp only [tokens, List.cons_append, List.nil_append, run, step, hopen, Option.bind_some]
    · have hv := ih (k, v) (by simp) (.object [] k :: stack) (memberTokens ms ++ ts)
        (by simp only [List.length_cons]; omega)
      simp only [tokens, List.cons_append, List.append_assoc, run, step, hopen, Option.bind_some,
        String.ofList_toList]
      rw [hv, complete,
        run_memberTokens (n := n) (by omega) (fun q hq => ih q (by simp [hq])) ha]
      rfl

/-- **The compact text of a value reads back as the value.** -/
theorem parse?_compact {v : Value} (h : v.Fits maxDepth) : parse? v.compact = some v := by
  have hrun := Reading.run_value h [] [] (by simp)
  rw [List.append_nil] at hrun
  simp [parse?, lex_compact h, hrun, complete, Reading.run, Reading.result?]

end ChainIndexer.Json
