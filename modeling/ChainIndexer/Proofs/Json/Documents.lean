import ChainIndexer.Proofs.Json.Omitting
import ChainIndexer.Proofs.Json.Parsing
import ChainIndexer.Proofs.Json.Restoring

/-!
# What a document can hold

A document that was read gives the members of each object in ascending order, each key once
(`parse?_ordered`). Of such an object a record takes each field from the member of its key
(`record_toOption`), whatever other members there are.
-/

namespace ChainIndexer.Json

/-! ## What one token does -/

/-- From one place in a document a token leads to another. -/
inductive Reading.Steps : Reading → Token → Reading → Prop
  | value {stack t r} (h : readValue stack t = some r) : Steps (.value stack) t r
  | emptyArray {stack} : Steps (.firstItem stack) .closeArray (complete (.array []) stack)
  | firstItem {stack t r} (ht : t ≠ .closeArray)
      (h : readValue (.array [] :: stack) t = some r) : Steps (.firstItem stack) t r
  | emptyObject {stack} : Steps (.firstKey stack) .closeObject (complete (.object []) stack)
  | firstKey {stack key} :
      Steps (.firstKey stack) (.string key) (.colon stack [] (String.ofList key))
  | nextKey {stack members key} :
      Steps (.nextKey stack members) (.string key) (.colon stack members (String.ofList key))
  | colon {stack members key} :
      Steps (.colon stack members key) .colon (.value (.object members key :: stack))
  | nextItem {stack items v} :
      Steps (.separator stack (.array items) v) .comma (.value (.array (v :: items) :: stack))
  | endArray {stack items v} : Steps (.separator stack (.array items) v) .closeArray
      (complete (.array (v :: items).reverse) stack)
  | nextMember {stack members key v} : Steps (.separator stack (.object members key) v) .comma
      (.nextKey stack (members.insert key v))
  | endObject {stack members key v} : Steps (.separator stack (.object members key) v) .closeObject
      (complete (.object (members.insert key v)) stack)

theorem Reading.steps_of_step {r r' : Reading} {t : Token} (h : r.step t = some r') :
    r.Steps t r' := by
  cases r with
  | value stack => exact .value h
  | firstItem stack =>
    by_cases hclose : t = .closeArray
    · subst hclose
      cases h
      exact .emptyArray
    · refine .firstItem hclose ?_
      cases t with
      | closeArray => exact absurd rfl hclose
      | _ => exact h
  | separator stack frame v =>
    cases frame <;> cases t <;> cases h
    · exact .endArray
    · exact .nextItem
    · exact .endObject
    · exact .nextMember
  | firstKey stack =>
    cases t <;> cases h
    · exact .emptyObject
    · exact .firstKey
  | nextKey stack members =>
    cases t <;> cases h
    exact .nextKey
  | colon stack members key =>
    cases t <;> cases h
    exact .colon
  | done v => cases t <;> cases h

/-! ## Ordered values -/

/-- The members of every object in the value ascend. -/
inductive Value.Ordered : Value → Prop
  | null : Ordered .null
  | bool {b} : Ordered (.bool b)
  | number {n} : Ordered (.number n)
  | string {s} : Ordered (.string s)
  | array {items} (h : ∀ v ∈ items, Ordered v) : Ordered (.array items)
  | object {members} (ha : (members.map Prod.fst).Pairwise (· < ·))
      (h : ∀ p ∈ members, Ordered p.2) : Ordered (.object members)

namespace Members

theorem mem_insert {key : String} {v : Value} {members : Members} {p : String × Value}
    (h : p ∈ members.insert key v) : p = (key, v) ∨ p ∈ members := by
  induction members with
  | nil => exact .inl (List.mem_singleton.1 h)
  | cons q members ih =>
    obtain ⟨k, w⟩ := q
    rw [insert] at h
    split at h
    · exact List.mem_cons.1 h
    · split at h
      · exact (List.mem_cons.1 h).imp_right (List.mem_cons_of_mem _)
      · rcases List.mem_cons.1 h with rfl | h
        · exact .inr (List.mem_cons_self ..)
        · exact (ih h).imp_right (List.mem_cons_of_mem _)

theorem insert_ascending {members : Members} (ha : (members.map Prod.fst).Pairwise (· < ·))
    (key : String) (v : Value) : ((members.insert key v).map Prod.fst).Pairwise (· < ·) := by
  induction members with
  | nil => exact List.pairwise_singleton _ _
  | cons q members ih =>
    obtain ⟨k, w⟩ := q
    have hcons := List.pairwise_cons.1 ha
    rw [insert]
    by_cases hlt : key < k
    · rw [if_pos hlt]
      refine List.pairwise_cons.2 ⟨fun k' hk' => ?_, ha⟩
      rcases List.mem_cons.1 hk' with rfl | hk'
      · exact hlt
      · exact String.lt_trans hlt (hcons.1 k' hk')
    · rw [if_neg hlt]
      by_cases heq : key = k
      · rw [if_pos heq]
        subst heq
        exact ha
      · rw [if_neg heq]
        refine List.pairwise_cons.2 ⟨fun k' hk' => ?_, ih hcons.2⟩
        obtain ⟨p, hp, rfl⟩ := List.mem_map.1 hk'
        rcases mem_insert hp with rfl | hp
        · exact String.not_le.1 fun hle => heq (String.le_antisymm hle (String.not_lt.1 hlt))
        · exact hcons.1 _ (List.mem_map_of_mem hp)

end Members

theorem Value.Ordered.insert {members : Members} (h : (Value.object members).Ordered)
    {v : Value} (hv : v.Ordered) (key : String) :
    (Value.object (members.insert key v)).Ordered := by
  cases h with
  | object ha h =>
    refine .object (Members.insert_ascending ha key v) fun p hp => ?_
    rcases Members.mem_insert hp with rfl | hp
    · exact hv
    · exact h p hp

theorem Value.Ordered.nodup {members : Members} (h : (Value.object members).Ordered) :
    (members.map Prod.fst).Nodup := by
  cases h with
  | object ha h =>
    refine ha.imp fun hlt heq => ?_
    subst heq
    exact String.lt_irrefl _ hlt

theorem Value.Ordered.get? {v w : Value} (h : v.Ordered) {key : String}
    (hget : v.get? key = some w) : w.Ordered := by
  cases h with
  | object ha h =>
    obtain ⟨before, after, rfl, -⟩ := List.lookup_eq_some_iff.1 hget
    exact h (key, w) (by simp)
  | _ => cases hget

/-- What is open holds ordered values so far. -/
def Frame.Ordered : Frame → Prop
  | .array items => ∀ v ∈ items, v.Ordered
  | .object members _ => (Value.object members).Ordered

/-- All that was read so far is ordered. -/
def Reading.Ordered : Reading → Prop
  | .value stack | .firstItem stack | .firstKey stack => ∀ frame ∈ stack, frame.Ordered
  | .nextKey stack members | .colon stack members _ =>
    (Value.object members).Ordered ∧ ∀ frame ∈ stack, frame.Ordered
  | .separator stack frame last =>
    frame.Ordered ∧ last.Ordered ∧ ∀ frame' ∈ stack, frame'.Ordered
  | .done v => v.Ordered

theorem complete_ordered {v : Value} (hv : v.Ordered) {stack : List Frame}
    (hstack : ∀ frame ∈ stack, frame.Ordered) : (complete v stack).Ordered := by
  cases stack with
  | nil => exact hv
  | cons frame stack =>
    obtain ⟨hframe, hstack⟩ := List.forall_mem_cons.1 hstack
    exact ⟨hframe, hv, hstack⟩

theorem readValue_ordered {stack : List Frame} (hstack : ∀ frame ∈ stack, frame.Ordered)
    {t : Token} {r : Reading} (h : readValue stack t = some r) : r.Ordered := by
  cases t with
  | null => cases h; exact complete_ordered .null hstack
  | bool b => cases h; exact complete_ordered .bool hstack
  | number n => cases h; exact complete_ordered .number hstack
  | string s => cases h; exact complete_ordered .string hstack
  | openArray =>
    rw [readValue, Option.ite_none_right_eq_some] at h
    cases h.2
    exact hstack
  | openObject =>
    rw [readValue, Option.ite_none_right_eq_some] at h
    cases h.2
    exact hstack
  | _ => cases h

theorem Reading.Ordered.step {r r' : Reading} (hr : r.Ordered) {t : Token}
    (h : r.step t = some r') : r'.Ordered := by
  have hnothing : (Value.object []).Ordered := .object .nil (fun p hp => by cases hp)
  have hempty : (Frame.array []).Ordered := fun v hv => by cases hv
  cases steps_of_step h with
  | value h => exact readValue_ordered hr h
  | emptyArray => exact complete_ordered (.array hempty) hr
  | firstItem ht h => exact readValue_ordered (List.forall_mem_cons.2 ⟨hempty, hr⟩) h
  | emptyObject => exact complete_ordered hnothing hr
  | firstKey => exact ⟨hnothing, hr⟩
  | nextKey => exact hr
  | colon => exact List.forall_mem_cons.2 hr
  | nextItem =>
    obtain ⟨hframe, hlast, hstack⟩ := hr
    exact List.forall_mem_cons.2 ⟨List.forall_mem_cons.2 ⟨hlast, hframe⟩, hstack⟩
  | @endArray stack items v =>
    obtain ⟨hframe, hlast, hstack⟩ := hr
    have hitems : ∀ w ∈ v :: items, w.Ordered := List.forall_mem_cons.2 ⟨hlast, hframe⟩
    exact complete_ordered (.array fun w hw => hitems w (List.mem_reverse.1 hw)) hstack
  | nextMember =>
    obtain ⟨hframe, hlast, hstack⟩ := hr
    exact ⟨hframe.insert hlast _, hstack⟩
  | endObject =>
    obtain ⟨hframe, hlast, hstack⟩ := hr
    exact complete_ordered (hframe.insert hlast _) hstack

theorem Reading.Ordered.run {r r' : Reading} (hr : r.Ordered) {ts : List Token}
    (h : r.run ts = some r') : r'.Ordered := by
  induction ts generalizing r with
  | nil => cases h; exact hr
  | cons t ts ih =>
    obtain ⟨next, hnext, hrun⟩ := Option.bind_eq_some_iff.1 h
    exact ih (hr.step hnext) hrun

/-- **A document holds an ordered value.** -/
theorem parse?_ordered {s : String} {v : Value} (h : parse? s = some v) : v.Ordered := by
  obtain ⟨tokens, -, h⟩ := Option.bind_eq_some_iff.1 h
  obtain ⟨last, hrun, hlast⟩ := Option.bind_eq_some_iff.1 h
  have hordered : last.Ordered :=
    Reading.Ordered.run (r := .value []) (fun frame hframe => by cases hframe) hrun
  cases last with
  | done v' => cases hlast; exact hordered
  | _ => cases hlast

/-! ## Records of ordered objects -/

theorem Codec.string_toOption (stage : Stage) (v : Value) :
    (Codec.string.read stage v).toOption = v.string? := by
  cases v <;> rfl

theorem Codec.int64_toOption (stage : Stage) (v : Value) :
    (Codec.int64.read stage v).toOption = v.int64? := by
  cases v with
  | number n =>
    cases n with
    | whole n fits =>
      by_cases hn : n < 0x8000000000000000
      · have hin : -0x8000000000000000 ≤ n ∧ n ≤ 0x7FFFFFFFFFFFFFFF := by omega
        simp [Codec.int64, Codec.readInteger, Value.int64?, Value.int?, hn, hin, Except.map,
          Except.toOption]
      · have hout : ¬(-0x8000000000000000 ≤ n ∧ n ≤ 0x7FFFFFFFFFFFFFFF) := by omega
        simp [Codec.int64, Codec.readInteger, Value.int64?, Value.int?, hn, hout, Except.map,
          Except.toOption]
    | double bits => rfl
  | _ => rfl

/-- The value of a field: the one that it has, or else that of the member of its key. -/
def Field.look {ρ α : Type} (f : Field ρ α) (stage : Stage) (members : Members) (slot : Option α) :
    Option α :=
  slot <|> match members.lookup f.key with
    | some v => (f.codec.read stage v).toOption
    | none => f.absent.value?

theorem Field.look_required {ρ α : Type} (key : String) (get : ρ → α) (codec : Codec α)
    (stage : Stage) (members : Members) :
    (Field.required key get codec).look stage members none
      = (members.lookup key).bind fun v => (codec.read stage v).toOption := by
  unfold Field.look Field.required
  cases members.lookup key <;> rfl

namespace Fields

variable {ρ : Type} {αs : List Type} {fields : Fields ρ αs}

/-- The values of the fields, each from the member of its key. -/
def look (stage : Stage) (members : Members) :
    {αs : List Type} → Fields ρ αs → Slots αs → Option (Tuple αs)
  | _, nil, _ => some ()
  | _, cons f rest, (slot, slots) => do
    let a ← f.look stage members slot
    let as ← rest.look stage members slots
    return (a, as)

theorem look_cons_isSome {α : Type} {f : Field ρ α} {stage : Stage} {members : Members}
    {slot : Option α} {slots : Slots αs} :
    ((cons f fields).look stage members (slot, slots)).isSome ↔
      (f.look stage members slot).isSome ∧ (fields.look stage members slots).isSome := by
  change ((f.look stage members slot).bind fun a => (fields.look stage members slots).bind fun as =>
    some (a, as)).isSome ↔ _
  cases f.look stage members slot <;> cases fields.look stage members slots <;> simp

/-- Every field goes by one key only. -/
def Plain : {αs : List Type} → Fields ρ αs → Prop
  | _, nil => True
  | _, cons f rest => f.aliases = [] ∧ rest.Plain

def Awaits (keys : List String) : {αs : List Type} → Fields ρ αs → Slots αs → Prop
  | _, nil, _ => True
  | _, cons f rest, (slot, slots) => (slot.isSome → f.key ∉ keys) ∧ rest.Awaits keys slots

theorem Awaits.tail {key : String} {seen : List String} {slots : Slots αs}
    (h : fields.Awaits (key :: seen) slots) : fields.Awaits seen slots := by
  induction fields with
  | nil => trivial
  | cons f rest ih =>
    obtain ⟨slot, slots⟩ := slots
    obtain ⟨hslot, hslots⟩ := h
    exact ⟨fun hsome hmem => hslot hsome (List.mem_cons_of_mem _ hmem), ih hslots⟩

theorem look_nil (stage : Stage) (slots : Slots αs) :
    fields.look stage [] slots = (fields.finish slots).toOption := by
  induction fields with
  | nil => rfl
  | cons f rest ih =>
    obtain ⟨slot, slots⟩ := slots
    simp only [look, finish, Field.look, List.lookup_nil, ih]
    cases slot <|> f.absent.value? with
    | none => rfl
    | some a => cases rest.finish slots <;> rfl

theorem look_cons_of_not_mem (stage : Stage) {key : String} (h : key ∉ fields.keys) (v : Value)
    (members : Members) (slots : Slots αs) :
    fields.look stage ((key, v) :: members) slots = fields.look stage members slots := by
  induction fields with
  | nil => rfl
  | cons f rest ih =>
    obtain ⟨slot, slots⟩ := slots
    rw [keys, List.mem_cons, not_or] at h
    have hother : (f.key == key) = false := by simpa using Ne.symm h.1
    simp only [look, Field.look, List.lookup_cons, hother, ih h.2]
    rfl

theorem visit_awaits (hplain : fields.Plain) {stage : Stage} {key : String} {v : Value}
    {seen : List String} (hkey : key ∉ seen) {slots slots' : Slots αs}
    (h : fields.Awaits (key :: seen) slots) (hvisit : fields.visit stage key v slots = .ok slots') :
    fields.Awaits seen slots' := by
  induction fields with
  | nil => trivial
  | cons f rest ih =>
    obtain ⟨slot, slots⟩ := slots
    obtain ⟨hslot, hslots⟩ := h
    obtain ⟨haliases, hplain⟩ := hplain
    have hstill : slot.isSome → f.key ∉ seen := fun hsome hmem =>
      hslot hsome (List.mem_cons_of_mem _ hmem)
    rw [visit] at hvisit
    split at hvisit
    · rename_i hnamed
      rw [named_iff haliases] at hnamed
      split at hvisit
      · cases hvisit
      · obtain ⟨a, -, rfl⟩ := map_eq_ok_iff.1 hvisit
        exact ⟨fun _ => hnamed ▸ hkey, hslots.tail⟩
    · obtain ⟨slots', hrest, rfl⟩ := map_eq_ok_iff.1 hvisit
      exact ⟨hstill, ih hplain hslots hrest⟩

theorem visit_look (hplain : fields.Plain) (hkeys : fields.keys.Nodup) (stage : Stage)
    {key : String} (v : Value) (members : Members) {seen : List String} {slots : Slots αs}
    (h : fields.Awaits (key :: seen) slots) :
    (fields.visit stage key v slots).toOption.bind (fields.look stage members)
      = fields.look stage ((key, v) :: members) slots := by
  induction fields with
  | nil => rfl
  | cons f rest ih =>
    obtain ⟨slot, slots⟩ := slots
    obtain ⟨hslot, hslots⟩ := h
    obtain ⟨haliases, hplain⟩ := hplain
    obtain ⟨hnew, hkeys⟩ := List.nodup_cons.1 hkeys
    by_cases hkey : key = f.key
    · -- the field has no value yet, since each key comes once
      subst hkey
      have hnamed : f.named f.key = true := by simp [Field.named]
      have hnone : slot = none := by
        by_contra hsome
        exact hslot (Option.isSome_iff_ne_none.2 hsome) (List.mem_cons_self ..)
      subst hnone
      have hrest := look_cons_of_not_mem stage hnew v members slots
      simp only [visit, hnamed, if_true, look, Field.look, List.lookup_cons, beq_self_eq_true, hrest]
      cases f.codec.read stage v with
      | error e => rfl
      | ok a => rfl
    · have hnamed : f.named key = false := by simp [Field.named, haliases, hkey]
      have hother : (f.key == key) = false := by simpa using Ne.symm hkey
      have hrest := ih hplain hkeys hslots
      simp only [visit, hnamed, look, Field.look, List.lookup_cons, hother, ← hrest]
      cases rest.visit stage key v slots with
      | error e =>
        cases slot <|> (match members.lookup f.key with
          | some v => (f.codec.read stage v).toOption
          | none => f.absent.value?) <;> rfl
      | ok slots' => rfl

theorem visitAll_look (hplain : fields.Plain) (hkeys : fields.keys.Nodup) (stage : Stage)
    {members : Members} (hmembers : (members.map Prod.fst).Nodup) {slots : Slots αs}
    (h : fields.Awaits (members.map Prod.fst) slots) :
    (fields.visitAll stage members slots).toOption.bind (fun slots => (fields.finish slots).toOption)
      = fields.look stage members slots := by
  induction members generalizing slots with
  | nil => exact (look_nil stage slots).symm
  | cons p members ih =>
    obtain ⟨key, v⟩ := p
    obtain ⟨hkey, hmembers⟩ := List.nodup_cons.1 hmembers
    have hlook := visit_look hplain hkeys stage v members h
    rw [visitAll, ← hlook]
    cases hvisit : fields.visit stage key v slots with
    | error e => rfl
    | ok slots' => exact ih hmembers (visit_awaits hplain hkey h hvisit)

theorem awaits_empty (seen : List String) : fields.Awaits seen fields.empty := by
  induction fields with
  | nil => trivial
  | cons f rest ih => exact ⟨nofun, ih⟩

end Fields

/-- **A record takes each field from the member of its key.** -/
theorem record_toOption {ρ : Type} {αs : List Type} (name : String) {fields : Fields ρ αs}
    (build : Tuple αs → ρ) (hplain : fields.Plain) (hkeys : fields.keys.Nodup) (stage : Stage)
    {members : Members} (hmembers : (members.map Prod.fst).Nodup) :
    ((record name fields build).read stage (.object members)).toOption
      = (fields.look stage members fields.empty).map build := by
  have hlook := Fields.visitAll_look hplain hkeys stage hmembers
    (Fields.awaits_empty (members.map Prod.fst))
  rw [← hlook, record]
  dsimp only
  cases fields.visitAll stage members fields.empty with
  | error e => rfl
  | ok slots =>
    change ((fields.finish slots).bind fun values => .ok (build values)).toOption
      = ((fields.finish slots).toOption).map build
    cases fields.finish slots <;> rfl

end ChainIndexer.Json
