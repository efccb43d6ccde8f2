import ChainIndexer.Proofs.Json.Documents
import ChainIndexer.Proofs.Json.Skimming

/-!
# A document in outline and as a whole

Where a document can be read as a whole, what is read of it in outline is the same. The outline of a
place (`Reading.outline`) goes where the place goes. What happens inside a value does not depend on
what the value belongs to (`Reading.step_under`), so the parts of a member can be read on their own.

* `readMembers?_of_parse?`: the members that are read in outline are those of the whole document.
* `record_in_outline`: so a record that is read in outline is the record.
-/

namespace ChainIndexer.Json

variable {ts : List Token}

/-! ## Pieces in their places -/

def Frame.bracket : Frame → Bracket
  | .array _ => .array
  | .object _ _ => .object

/-- What the outline keeps of a place in a document. -/
def Reading.outline : Reading → Outline
  | .value stack => ⟨.value, stack.map Frame.bracket⟩
  | .firstItem stack => ⟨.firstItem, .array :: stack.map Frame.bracket⟩
  | .firstKey stack => ⟨.firstKey, .object :: stack.map Frame.bracket⟩
  | .nextKey stack _ => ⟨.nextKey, .object :: stack.map Frame.bracket⟩
  | .colon stack _ _ => ⟨.colon, .object :: stack.map Frame.bracket⟩
  | .separator stack frame _ => ⟨.separator, frame.bracket :: stack.map Frame.bracket⟩
  | .done _ => ⟨.done, []⟩

theorem outline_complete (v : Value) (stack : List Frame) :
    (complete v stack).outline = Outline.complete (stack.map Frame.bracket) := by
  cases stack <;> rfl

theorem startValue_of_readValue {stack : List Frame} {t : Token} {p : Piece} {r : Reading}
    (hp : p.Spells t) (h : readValue stack t = some r) :
    Outline.startValue (stack.map Frame.bracket) p = some r.outline := by
  obtain ⟨-, hform⟩ := hp
  cases t with
  | null | bool | number | string =>
    obtain ⟨bytes, rfl⟩ := hform
    cases h
    rw [outline_complete]
    rfl
  | openArray | openObject =>
    cases hform
    rw [readValue, Option.ite_none_right_eq_some] at h
    cases h.2
    rfl
  | _ => cases h

theorem Reading.outline_step {r r' : Reading} {t : Token} {p : Piece} (hp : p.Spells t)
    (h : r.step t = some r') : r.outline.step p = some r'.outline := by
  have hform := hp.2
  cases steps_of_step h with
  | value h => exact startValue_of_readValue hp h
  | @firstItem stack t r ht h =>
    have hne : p ≠ .mark .closeArray := by
      rintro rfl
      exact ht (Option.some.inj hp.1).symm
    have hplace : (Reading.firstItem stack).outline.step p
        = Outline.startValue ((Frame.array [] :: stack).map Frame.bracket) p := by
      cases p with
      | mark t' =>
        cases t' with
        | closeArray => exact absurd rfl hne
        | _ => rfl
      | _ => rfl
    rw [hplace]
    exact startValue_of_readValue hp h
  | emptyArray | emptyObject | endArray | endObject =>
    cases hform
    rw [outline_complete]
    rfl
  | firstKey | nextKey =>
    obtain ⟨bytes, rfl⟩ := hform
    rfl
  | colon | nextItem | nextMember =>
    cases hform
    rfl

/-- The same place inside a value, which belongs to this frame. -/
def Reading.under (outer : Frame) : Reading → Reading
  | .value stack => .value (stack ++ [outer])
  | .firstItem stack => .firstItem (stack ++ [outer])
  | .firstKey stack => .firstKey (stack ++ [outer])
  | .nextKey stack members => .nextKey (stack ++ [outer]) members
  | .colon stack members key => .colon (stack ++ [outer]) members key
  | .separator stack frame last => .separator (stack ++ [outer]) frame last
  | .done v => .separator [] outer v

theorem complete_under (v : Value) (stack : List Frame) (outer : Frame) :
    complete v (stack ++ [outer]) = (complete v stack).under outer := by
  cases stack <;> rfl

theorem readValue_under {stack : List Frame} {outer : Frame} {t : Token} {r : Reading}
    (h : readValue (stack ++ [outer]) t = some r) :
    ∃ inner : Reading, r = inner.under outer ∧
      ∀ outer', readValue (stack ++ [outer']) t = some (inner.under outer') := by
  cases t with
  | null | bool | number | string =>
    cases h
    exact ⟨_, complete_under .., fun outer' => congrArg some (complete_under ..)⟩
  | openArray =>
    rw [readValue, Option.ite_none_right_eq_some] at h
    cases h.2
    refine ⟨.firstItem stack, rfl, fun outer' => ?_⟩
    rw [readValue, if_pos (by simpa using h.1)]
    rfl
  | openObject =>
    rw [readValue, Option.ite_none_right_eq_some] at h
    cases h.2
    refine ⟨.firstKey stack, rfl, fun outer' => ?_⟩
    rw [readValue, if_pos (by simpa using h.1)]
    rfl
  | _ => cases h

/-- What happens inside a value does not depend on the frame that it belongs to. -/
theorem Reading.step_under {r r' : Reading} {outer : Frame} {t : Token} (hr : ∀ v, r ≠ .done v)
    (h : (r.under outer).step t = some r') :
    ∃ inner : Reading, r' = inner.under outer ∧
      ∀ outer', (r.under outer').step t = some (inner.under outer') := by
  have hcomplete (v : Value) (stack : List Frame)
      (hstep : ∀ outer', (r.under outer').step t = some (complete v (stack ++ [outer']))) :
      ∃ inner : Reading, complete v (stack ++ [outer]) = inner.under outer ∧
        ∀ outer', (r.under outer').step t = some (inner.under outer') :=
    ⟨complete v stack, complete_under .., fun outer' => (hstep outer').trans (by rw [complete_under])⟩
  cases r with
  | value stack => exact readValue_under h
  | firstItem stack =>
    cases steps_of_step h with
    | emptyArray => exact hcomplete _ stack fun _ => rfl
    | firstItem ht h =>
      obtain ⟨inner, hr', hinner⟩ := @readValue_under (.array [] :: stack) _ _ _ h
      refine ⟨inner, hr', fun outer' => ?_⟩
      rw [← hinner]
      cases t with
      | closeArray => exact absurd rfl ht
      | _ => rfl
  | firstKey stack =>
    cases steps_of_step h with
    | emptyObject => exact hcomplete _ stack fun _ => rfl
    | @firstKey _ key => exact ⟨.colon stack [] (String.ofList key), rfl, fun _ => rfl⟩
  | nextKey stack members =>
    cases steps_of_step h with
    | @nextKey _ _ key => exact ⟨.colon stack members (String.ofList key), rfl, fun _ => rfl⟩
  | colon stack members key =>
    cases steps_of_step h with
    | colon => exact ⟨.value (.object members key :: stack), rfl, fun _ => rfl⟩
  | separator stack frame last =>
    cases steps_of_step h with
    | @nextItem _ items => exact ⟨.value (.array (last :: items) :: stack), rfl, fun _ => rfl⟩
    | endArray => exact hcomplete _ stack fun _ => rfl
    | @nextMember _ members key =>
      exact ⟨.nextKey stack (members.insert key last), rfl, fun _ => rfl⟩
    | endObject => exact hcomplete _ stack fun _ => rfl
  | done v => exact absurd rfl (hr v)

/-! ## Members -/

/-- The parts of a member give this key and this value. -/
def Gives (m : Piece × List Piece) (p : String × Value) : Prop :=
  m.1.key? = some p.1 ∧ readParts? m.2 = some p.2

def Members.extend (members : Members) (pairs : List (String × Value)) : Members :=
  pairs.foldl (fun ms p => ms.insert p.1 p.2) members

variable {ps : List Piece} {v : Value}

/-- Before a key the pieces give the members to come. -/
def FromKey (v : Value) (ts : List Token) (ps : List Piece) : Prop :=
  ∀ members, (Reading.nextKey [] members).run ts = some (.done v) →
    ∃ raw pairs, membersFrom ⟨.nextKey, [.object]⟩ ps = some ([], raw) ∧
      List.Forall₂ Gives raw pairs ∧ v = .object (members.extend pairs)

/-- After a key they begin with the parts of its value. -/
def FromColon (v : Value) (ts : List Token) (ps : List Piece) : Prop :=
  ∀ members key, (Reading.colon [] members key).run ts = some (.done v) →
    ∃ parts raw w pairs, membersFrom ⟨.colon, [.object]⟩ ps = some (parts, raw) ∧
      readParts? parts = some w ∧ List.Forall₂ Gives raw pairs ∧
      v = .object (members.extend ((key, w) :: pairs))

/-- Inside a value they begin with the rest of its parts. -/
def FromInside (v : Value) (ts : List Token) (ps : List Piece) : Prop :=
  ∀ members key (r : Reading), (r.under (.object members key)).run ts = some (.done v) →
    ∃ parts raw w pairs ts',
      membersFrom (r.under (.object members key)).outline ps = some (parts, raw) ∧
      parts.mapM Piece.token? = some ts' ∧
      (∀ outer, (r.under outer).run ts' = some (.separator [] outer w)) ∧
      List.Forall₂ Gives raw pairs ∧ v = .object (members.extend ((key, w) :: pairs))

section

variable {at_ after : Outline} {p : Piece} {parts : List Piece} {raw : List (Piece × List Piece)}

theorem membersFrom_key (hstep : at_.step p = some after) (hrole : at_.role p = .key)
    (h : membersFrom after ps = some (parts, raw)) :
    membersFrom at_ (p :: ps) = some ([], (p, parts) :: raw) := by
  rw [membersFrom, hstep, hrole]
  simp [h]

theorem membersFrom_part (hstep : at_.step p = some after) (hrole : at_.role p = .part)
    (h : membersFrom after ps = some (parts, raw)) :
    membersFrom at_ (p :: ps) = some (p :: parts, raw) := by
  rw [membersFrom, hstep, hrole]
  simp [h]

theorem membersFrom_neither (hstep : at_.step p = some after) (hrole : at_.role p = .neither)
    (h : membersFrom after ps = some (parts, raw)) :
    membersFrom at_ (p :: ps) = some (parts, raw) := by
  rw [membersFrom, hstep, hrole]
  simp [h]

end

theorem run_cons_eq_some {r r' : Reading} {t : Token} (h : r.run (t :: ts) = some r') :
    ∃ middle, r.step t = some middle ∧ middle.run ts = some r' :=
  Option.bind_eq_some_iff.1 h

theorem run_done {w : Value} (h : (Reading.done w).run ts = some (.done v)) : ts = [] ∧ w = v := by
  cases ts with
  | nil =>
    cases h
    exact ⟨rfl, rfl⟩
  | cons t ts =>
    obtain ⟨middle, hstep, -⟩ := run_cons_eq_some h
    cases t <;> cases hstep

theorem key?_of_spells {p : Piece} {key : List Char} (h : p.Spells (.string key)) :
    p.key? = some (String.ofList key) := by
  rw [Piece.key?, h.1]
  rfl

variable {t : Token} {p : Piece}

theorem fromKey_cons (hp : p.Spells t) (h : FromColon v ts ps) : FromKey v (t :: ts) (p :: ps) := by
  intro members hrun
  obtain ⟨r, hstep, hrun⟩ := run_cons_eq_some hrun
  cases t with
  | string key =>
    cases hstep
    obtain ⟨parts, raw, w, pairs, hfrom, hparts, hraw, hv⟩ := h _ _ hrun
    obtain ⟨bytes, rfl⟩ := hp.2
    exact ⟨_, _, membersFrom_key rfl rfl hfrom, .cons ⟨key?_of_spells hp, hparts⟩ hraw, hv⟩
  | _ => cases hstep

theorem fromColon_cons (hp : p.Spells t) (h : FromInside v ts ps) :
    FromColon v (t :: ts) (p :: ps) := by
  intro members key hrun
  obtain ⟨r, hstep, hrun⟩ := run_cons_eq_some hrun
  cases t with
  | colon =>
    cases hstep
    obtain ⟨parts, raw, w, pairs, ts', hfrom, hparts, hinside, hraw, hv⟩ :=
      h members key (.value []) hrun
    cases hp.2
    refine ⟨parts, raw, w, pairs, membersFrom_neither rfl rfl hfrom, ?_, hraw, hv⟩
    have hvalue : (Reading.value [.object [] ""]).run ts' = _ := hinside (.object [] "")
    simp [readParts?, hparts, hvalue]
  | _ => cases hstep

theorem role_under {r : Reading} (hr : ∀ v, r ≠ .done v) (members : Members) (key : String) :
    (r.under (.object members key)).outline.role p = .part := by
  cases r with
  | value stack => rcases stack with _ | ⟨_, _ | _⟩ <;> rfl
  | firstItem stack | firstKey stack | nextKey stack | colon stack | separator stack =>
    rcases stack with _ | ⟨_, _ | _⟩ <;> cases p <;> rfl
  | done v => exact absurd rfl (hr v)

theorem fromInside_cons (hp : p.Spells t) (hps : List.Forall₂ Piece.Spells ps ts)
    (hkey : FromKey v ts ps) (h : FromInside v ts ps) : FromInside v (t :: ts) (p :: ps) := by
  intro members key r hrun
  obtain ⟨r', hstep, hrun⟩ := run_cons_eq_some hrun
  have houtline := Reading.outline_step hp hstep
  by_cases hr : ∀ v, r ≠ .done v
  · obtain ⟨inner, rfl, hinner⟩ := Reading.step_under hr hstep
    obtain ⟨parts, raw, w, pairs, ts', hfrom, hparts, hinside, hraw, hv⟩ := h members key inner hrun
    refine ⟨p :: parts, raw, w, pairs, t :: ts', membersFrom_part houtline (role_under hr _ _) hfrom,
      ?_, fun outer => ?_, hraw, hv⟩
    · simp [hp.1, hparts]
    · rw [Reading.run, hinner, Option.bind_some, hinside]
  · -- the value is complete: another member follows, or the end of the object
    obtain ⟨w, rfl⟩ := not_forall_not.1 hr
    cases t with
    | comma =>
      cases hstep
      cases hp.2
      obtain ⟨raw, pairs, hfrom, hraw, hv⟩ := hkey _ hrun
      exact ⟨[], raw, w, pairs, [], membersFrom_neither houtline rfl hfrom, rfl, fun _ => rfl, hraw,
        hv⟩
    | closeObject =>
      cases hstep
      cases hp.2
      obtain ⟨rfl, rfl⟩ := run_done hrun
      cases hps
      exact ⟨[], [], w, [], [], membersFrom_neither houtline rfl rfl, rfl, fun _ => rfl, .nil, rfl⟩
    | _ => cases hstep

theorem reads_of_spells (h : List.Forall₂ Piece.Spells ps ts) :
    FromKey v ts ps ∧ FromColon v ts ps ∧ FromInside v ts ps := by
  induction h with
  | nil =>
    refine ⟨fun members hrun => ?_, fun members key hrun => ?_, fun members key r hrun => ?_⟩
    · cases hrun
    · cases hrun
    · cases r <;> cases hrun
  | cons hp hps ih =>
    obtain ⟨hkey, hcolon, hinside⟩ := ih
    exact ⟨fromKey_cons hp hcolon, fromColon_cons hp hinside, fromInside_cons hp hps hkey hinside⟩

/-- The members of an object, from its first key on. -/
theorem members_of_spells (h : List.Forall₂ Piece.Spells ps ts)
    (hrun : (Reading.firstKey []).run ts = some (.done v)) :
    ∃ raw pairs, membersFrom ⟨.firstKey, [.object]⟩ ps = some ([], raw) ∧
      List.Forall₂ Gives raw pairs ∧ v = .object (Members.ofList pairs) := by
  cases h with
  | nil => cases hrun
  | @cons p t ps ts hp hps =>
    obtain ⟨r, hstep, hrun⟩ := run_cons_eq_some hrun
    cases t with
    | closeObject =>
      cases hstep
      cases hp.2
      obtain ⟨rfl, rfl⟩ := run_done hrun
      cases hps
      exact ⟨[], [], rfl, .nil, rfl⟩
    | string key =>
      cases hstep
      obtain ⟨parts, raw, w, pairs, hfrom, hparts, hraw, hv⟩ :=
        (reads_of_spells hps).2.1 _ _ hrun
      obtain ⟨bytes, rfl⟩ := hp.2
      exact ⟨_, _, membersFrom_key rfl rfl hfrom, .cons ⟨key?_of_spells hp, hparts⟩ hraw, hv⟩
    | _ => cases hstep

/-! ## Documents -/

theorem openObject_of_beginsObject {cs : List Char} (hlex : lexFrom .blank cs = some ts)
    (h : beginsObject (bytesOf cs) = true) : ∃ rest, ts = .openObject :: rest := by
  induction cs generalizing ts with
  | nil => cases h
  | cons c cs ih =>
    rw [lexFrom_cons] at hlex
    obtain ⟨⟨first, next⟩, hstep, hmap⟩ := Option.bind_eq_some_iff.1 hlex
    obtain ⟨later, hrest, rfl⟩ := Option.map_eq_some_iff.1 hmap
    rcases Utf8.narrow_or_wide c.toNat with hc | ⟨more, hc⟩
    · have hbytes : bytesOf (c :: cs) = UInt8.ofNat c.toNat :: bytesOf cs := by
        rw [bytesOf, List.flatMap_cons, Utf8.utf8EncodeChar_of_narrow hc]
        rfl
      rw [beginsObject, hbytes, List.map_cons, latin_narrow hc, List.find?_cons] at h
      cases hspace : isSpace c with
      | true =>
        have hskip : Lexing.blank.step c = some ([], .blank) := if_pos hspace
        rw [hskip] at hstep
        cases hstep
        rw [hspace] at h
        exact ih hrest h
      | false =>
        rw [hspace] at h
        obtain rfl : c = '\x7b' := by simpa using h
        cases hstep
        exact ⟨later, rfl⟩
    · obtain ⟨read, hblank, -⟩ := step_wide (Utf8.le_of_wide hc) hstep
      cases hblank

theorem readMembers?_of_gives (known : List String) {raw : List (Piece × List Piece)}
    {pairs : List (String × Value)} (h : List.Forall₂ Gives raw pairs) :
    ∃ named, raw.mapM (fun m => m.1.key?.map (·, m.2)) = some named ∧
      (named.filter fun m => known.contains m.1).mapM (fun m => (readParts? m.2).map (m.1, ·))
        = some (pairs.filter fun m => known.contains m.1) := by
  induction h with
  | nil => exact ⟨[], rfl, rfl⟩
  | @cons m p raw pairs hm hraw ih =>
    obtain ⟨named, hnamed, hfilter⟩ := ih
    obtain ⟨hkey, hparts⟩ := hm
    refine ⟨(p.1, m.2) :: named, by simp [hkey, hnamed], ?_⟩
    rw [List.filter_cons, List.filter_cons]
    dsimp only
    split
    · rw [List.mapM_cons, hparts, hfilter]
      rfl
    · exact hfilter

variable {s : String}

/-- **What is read of an object in outline is there in the whole document.** -/
theorem readMembers?_of_parse? (h : parse? s = some v) (hbegins : beginsObject (Utf8.encode s) = true)
    (known : List String) :
    ∃ members, v = .object (Members.ofList members) ∧
      readMembers? known (Utf8.encode s) = some (members.filter fun m => known.contains m.1) := by
  obtain ⟨tokens, hlex, h⟩ := Option.bind_eq_some_iff.1 h
  obtain ⟨last, hrun, hlast⟩ := Option.bind_eq_some_iff.1 h
  obtain ⟨pieces, hskim, hspells⟩ := skim_spells hlex
  obtain ⟨rest, rfl⟩ := openObject_of_beginsObject hlex (by rwa [bytesOf, ← Utf8.encode_eq])
  obtain rfl : last = .done v := by
    cases last with
    | done w =>
      cases hlast
      rfl
    | _ => cases hlast
  cases hspells with
  | cons hp hps =>
    cases hp.2
    obtain ⟨raw, members, hfrom, hraw, hv⟩ := members_of_spells hps hrun
    obtain ⟨named, hnamed, hfilter⟩ := readMembers?_of_gives known hraw
    refine ⟨members, hv, ?_⟩
    have hmembers : membersFrom ⟨.value, []⟩ (.mark .openObject :: _) = some ([], raw) :=
      membersFrom_neither rfl rfl hfrom
    rw [readMembers?, hskim]
    simp only [Option.bind_eq_bind, Option.bind_some, hmembers, hnamed]
    exact hfilter

/-! ## Records -/

theorem lookup_cons_ite (key k : String) (v : Value) (members : Members) :
    List.lookup key ((k, v) :: members) = if key = k then some v else members.lookup key := by
  rw [List.lookup_cons]
  by_cases h : key = k
  · rw [if_pos h, beq_iff_eq.2 h]
  · rw [if_neg h, beq_eq_false_iff_ne.2 h]

theorem Members.lookup_insert (members : Members) (key other : String) (v : Value) :
    (members.insert key v).lookup other
      = if other = key then some v else members.lookup other := by
  induction members with
  | nil => exact lookup_cons_ite ..
  | cons p members ih =>
    obtain ⟨k, w⟩ := p
    rw [insert]
    by_cases hlt : key < k
    · rw [if_pos hlt, lookup_cons_ite]
    by_cases heq : key = k
    · rw [if_neg hlt, if_pos heq, lookup_cons_ite, lookup_cons_ite, ← heq]
      by_cases hother : other = key
      · rw [if_pos hother, if_pos hother]
      · rw [if_neg hother, if_neg hother, if_neg hother]
    · rw [if_neg hlt, if_neg heq, lookup_cons_ite, lookup_cons_ite, ih]
      by_cases hother : other = k
      · rw [if_pos hother, if_pos hother, if_neg fun h => heq (h.symm.trans hother)]
      · rw [if_neg hother, if_neg hother]

/-- Where no known key comes twice, the value of a known key is that of its only member. -/
theorem Members.lookup_extend {known : List String} {key : String} (hkey : key ∈ known)
    {pairs : List (String × Value)}
    (hnodup : ((pairs.filter fun m => known.contains m.1).map Prod.fst).Nodup) (members : Members) :
    (members.extend pairs).lookup key
      = ((pairs.filter fun m => known.contains m.1).lookup key).or (members.lookup key) := by
  induction pairs generalizing members with
  | nil => rfl
  | cons p pairs ih =>
    obtain ⟨k, w⟩ := p
    have hfirst : members.extend ((k, w) :: pairs) = (members.insert k w).extend pairs := rfl
    rw [hfirst]
    rw [List.filter_cons] at hnodup ⊢
    dsimp only at hnodup ⊢
    by_cases hk : known.contains k = true
    · rw [if_pos hk] at hnodup ⊢
      obtain ⟨hnew, hnodup⟩ := List.nodup_cons.1 hnodup
      rw [ih hnodup, lookup_insert, lookup_cons_ite]
      split_ifs with hthis
      · subst hthis
        have hnone : (pairs.filter fun m => known.contains m.1).lookup key = none := by
          rw [List.lookup_eq_none_iff]
          intro p hp
          exact bne_iff_ne.2 fun heq => hnew (List.mem_map.2 ⟨p, hp, heq.symm⟩)
        rw [hnone]
        rfl
      · rfl
    · rw [if_neg hk] at hnodup ⊢
      have hne : key ≠ k := by
        rintro rfl
        exact hk (List.contains_iff_mem.2 hkey)
      rw [ih hnodup, lookup_insert, if_neg hne]

theorem Fields.look_congr {ρ : Type} {αs : List Type} {fields : Fields ρ αs} (stage : Stage)
    {members members' : Members} (h : ∀ key ∈ fields.keys, members.lookup key = members'.lookup key)
    (slots : Slots αs) : fields.look stage members slots = fields.look stage members' slots := by
  induction fields with
  | nil => rfl
  | cons f rest ih =>
    obtain ⟨slot, slots⟩ := slots
    obtain ⟨hf, hrest⟩ := List.forall_mem_cons.1 h
    rw [look, look, Field.look, Field.look, hf, ih hrest]

theorem Fields.names_of_plain {ρ : Type} {αs : List Type} {fields : Fields ρ αs}
    (h : fields.Plain) : fields.names = fields.keys := by
  induction fields with
  | nil => rfl
  | cons f rest ih =>
    rw [names, keys, h.1, ih h.2]
    rfl

/-- **A record that is read in outline is the record**, unless a member that it knows is given
twice. -/
theorem record_in_outline {ρ : Type} {αs : List Type} (name : String) (fields : Fields ρ αs)
    (build : Tuple αs → ρ) (hplain : fields.Plain) (hkeys : fields.keys.Nodup) (stage : Stage)
    (h : parse? s = some v) :
    ∃ w, parseKnown? fields.names (Utf8.encode s) = some w ∧
      ((∃ members, w = .object members ∧ ¬(members.map Prod.fst).Nodup) ∨
        ((record name fields build).read stage w).toOption
          = ((record name fields build).read stage v).toOption) := by
  unfold parseKnown?
  split
  · rename_i hbegins
    obtain ⟨members, rfl, hread⟩ := readMembers?_of_parse? h hbegins fields.names
    refine ⟨.object (members.filter fun m => fields.names.contains m.1), by rw [hread]; rfl, ?_⟩
    by_cases hnodup : ((members.filter fun m => fields.names.contains m.1).map Prod.fst).Nodup
    · right
      have hordered := (parse?_ordered h).nodup
      rw [record_toOption name build hplain hkeys stage hnodup,
        record_toOption name build hplain hkeys stage hordered]
      refine congrArg _ (Fields.look_congr stage (fun key hkey => ?_) _)
      have hlookup := Members.lookup_extend (Fields.names_of_plain hplain ▸ hkey) hnodup []
      rw [List.lookup_nil, Option.or_none] at hlookup
      exact hlookup.symm
    · exact .inl ⟨_, rfl, hnodup⟩
  · refine ⟨v, ?_, .inr rfl⟩
    rw [Utf8.decode_eq_ok_iff.2 rfl]
    exact h

end ChainIndexer.Json
