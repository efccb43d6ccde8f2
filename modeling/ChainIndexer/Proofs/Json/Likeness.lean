import ChainIndexer.Proofs.Json.Documents

/-!
# Documents that are read alike

A record takes each field from one part of its value: the member of the field's key, or the item at
the field's place (`record_toOption_parts`). How two documents may differ is said part by part, by a
`Likeness`. A codec respects a likeness if it reads alike parts alike; a record does if each field
respects the likeness of its part (`record_respects`).
-/

namespace ChainIndexer.Json

/-! ## Parts of a value -/

namespace Value

def part? (key : String) (place : Nat) : Value → Option Value
  | object members => members.lookup key
  | array items => items[place]?
  | _ => none

/-- The value has the form of a record with so many fields. -/
def isRecord (count : Nat) : Value → Bool
  | object _ => true
  | array items => items.length ≤ count
  | _ => false

@[simp] theorem ordered_null : null.Ordered := .null

@[simp] theorem ordered_string (s : String) : (string s).Ordered := .string

@[simp] theorem ordered_ofNat (n : Nat) : (ofNat n).Ordered := .number

@[simp] theorem ordered_array_iff {vs : List Value} :
    (array vs).Ordered ↔ ∀ v ∈ vs, v.Ordered := by
  refine ⟨fun h => ?_, .array⟩
  cases h
  assumption

@[simp] theorem ordered_object_iff {members : Members} :
    (object members).Ordered ↔
      (members.map Prod.fst).Pairwise (· < ·) ∧ ∀ p ∈ members, p.2.Ordered := by
  refine ⟨fun h => ?_, fun h => .object h.1 h.2⟩
  cases h
  exact ⟨‹_›, ‹_›⟩

theorem Ordered.part? {v w : Value} (h : v.Ordered) {key : String} {place : Nat}
    (hpart : v.part? key place = some w) : w.Ordered := by
  cases h with
  | array h => exact h w (List.mem_of_getElem? hpart)
  | object ha h => exact (Ordered.object ha h).get? hpart
  | _ => cases hpart

end Value

def entries : Option Value → List Value
  | some (.array items) => items
  | _ => []

variable {ρ α : Type} {αs : List Type}

/-- The value of a field, read from its part. -/
def Field.found (f : Field ρ α) (stage : Stage) : Option Value → Option α
  | some v => (f.codec.read stage v).toOption
  | none => f.absent.value?

theorem Field.found_required {key : String} {get : ρ → α} {c : Codec α} {stage : Stage}
    {p : Option Value} {a : α} :
    (Field.required key get c).found stage p = some a ↔
      ∃ v, p = some v ∧ c.read stage v = .ok a := by
  cases p with
  | none => exact ⟨fun h => (by cases h), fun ⟨v, hv, _⟩ => (by cases hv)⟩
  | some v =>
    refine toOption_eq_some_iff.trans ⟨fun h => ⟨v, rfl, h⟩, fun ⟨w, hw, h⟩ => ?_⟩
    exact Option.some.inj hw ▸ h

theorem Field.look_none (f : Field ρ α) (stage : Stage) (members : Members) :
    f.look stage members none = f.found stage (members.lookup f.key) := by
  unfold Field.look Field.found
  cases members.lookup f.key <;> simp

namespace Fields

variable {fields : Fields ρ αs}

/-- Each field goes by one key only and has the same value without a member as without an item. -/
def Steady : {αs : List Type} → Fields ρ αs → Prop
  | _, nil => True
  | _, cons f rest => (f.aliases = [] ∧ f.absent.item? = f.absent.value?) ∧ rest.Steady

@[simp] theorem nil_steady : (nil : Fields ρ []).Steady := trivial

@[simp] theorem required_steady {key : String} {get : ρ → α} {codec : Codec α} :
    (cons (.required key get codec) fields).Steady ↔ fields.Steady := by
  simp [Steady, Field.required, Absence.value?, Absence.item?]

@[simp] theorem default_steady {key : String} {get : ρ → α} {codec : Codec α} {value : α} :
    (cons (.default key get codec value) fields).Steady ↔ fields.Steady := by
  simp [Steady, Field.default, Absence.value?, Absence.item?]

theorem Steady.plain (h : fields.Steady) : fields.Plain := by
  induction fields with
  | nil => trivial
  | cons f rest ih => exact ⟨h.1.1, ih h.2⟩

/-- The values of the fields from this place on, each from its part. -/
def gather (stage : Stage) (v : Value) :
    {αs : List Type} → Fields ρ αs → Nat → Option (Tuple αs)
  | _, nil, _ => some ()
  | _, cons f rest, place => do
    let a ← f.found stage (v.part? f.key place)
    let as ← rest.gather stage v (place + 1)
    return (a, as)

theorem gather_cons_eq_some_iff {f : Field ρ α} {stage : Stage} {v : Value} {place : Nat}
    {as : Tuple (α :: αs)} :
    (cons f fields).gather stage v place = some as ↔
      f.found stage (v.part? f.key place) = some as.1 ∧
        fields.gather stage v (place + 1) = some as.2 := by
  constructor
  · intro h
    obtain ⟨a, ha, hrest⟩ := Option.bind_eq_some_iff.1 h
    obtain ⟨more, hmore, he⟩ := Option.bind_eq_some_iff.1 hrest
    cases he
    exact ⟨ha, hmore⟩
  · rintro ⟨ha, hmore⟩
    exact Option.bind_eq_some_iff.2 ⟨_, ha, Option.bind_eq_some_iff.2 ⟨_, hmore, rfl⟩⟩

theorem look_empty (stage : Stage) (members : Members) (place : Nat) :
    fields.look stage members fields.empty = fields.gather stage (.object members) place := by
  induction fields generalizing place with
  | nil => rfl
  | cons f rest ih =>
    rw [gather, ← ih (place + 1)]
    change (f.look stage members none >>= _) = _
    rw [Field.look_none]
    rfl

/-- The items of a list are taken one by one, and those after the last field are left. -/
theorem readItems_toOption (hsteady : fields.Steady) (stage : Stage) (wanted : String)
    (all : List Value) (place : Nat) :
    (fields.readItems stage wanted place (all.drop place)).toOption
      = (fields.gather stage (.array all) place).map fun as =>
        (as, all.drop (place + fields.count)) := by
  induction fields generalizing place with
  | nil => rfl
  | cons f rest ih =>
    have hcount : place + (cons f rest).count = place + 1 + rest.count := by
      rw [count, Nat.add_assoc, Nat.add_comm 1]
    have hrest := ih hsteady.2 (place + 1)
    rw [hcount, gather]
    cases hitem : all[place]? with
    | none =>
      have hlen : all.length ≤ place := List.getElem?_eq_none_iff.1 hitem
      have hpart : (Value.array all).part? f.key place = none := hitem
      rw [List.drop_eq_nil_of_le (Nat.le_succ_of_le hlen)] at hrest
      rw [List.drop_eq_nil_of_le hlen, readItems, hpart, Field.found, ← hsteady.1.2]
      cases f.absent.item? with
      | none => rfl
      | some a =>
        simp only [pure_bind, Option.bind_eq_bind, Option.bind_some]
        revert hrest
        cases rest.readItems stage wanted (place + 1) [] <;>
          cases rest.gather stage (.array all) (place + 1) <;> intro hrest <;> cases hrest <;> rfl
    | some v =>
      have hlt : place < all.length := (List.getElem?_eq_some_iff.1 hitem).1
      have hv : all[place] = v := (List.getElem?_eq_some_iff.1 hitem).2
      have hpart : (Value.array all).part? f.key place = some v := hitem
      rw [List.drop_eq_getElem_cons hlt, hv, readItems, hpart, Field.found]
      cases f.codec.read stage v with
      | error e => rfl
      | ok a =>
        revert hrest
        cases rest.readItems stage wanted (place + 1) (all.drop (place + 1)) <;>
          cases rest.gather stage (.array all) (place + 1) <;> intro hrest <;> cases hrest <;> rfl

end Fields

/-- **A record takes each field from its part**, and nothing else of an object. -/
theorem record_toOption_parts {name : String} {fields : Fields ρ αs} {build : Tuple αs → ρ}
    (hsteady : fields.Steady) (hkeys : fields.keys.Nodup) (stage : Stage) {v : Value}
    (hv : v.Ordered) :
    ((record name fields build).read stage v).toOption
      = if v.isRecord fields.count then (fields.gather stage v 0).map build else none := by
  cases v with
  | object members =>
    rw [record_toOption name build hsteady.plain hkeys stage hv.nodup, Fields.look_empty _ _ 0]
    rfl
  | array items =>
    have hitems := Fields.readItems_toOption hsteady stage
      ("struct " ++ name ++ " with " ++ counted fields.count "element") items 0
    rw [List.drop_zero, Nat.zero_add] at hitems
    change (((fields.readItems stage _ 0 items).bind _ : Except DecodeError ρ)).toOption = _
    cases hread : fields.readItems stage
        ("struct " ++ name ++ " with " ++ counted fields.count "element") 0 items with
    | error e =>
      rw [hread] at hitems
      rw [Option.map_eq_none_iff.1 hitems.symm]
      exact (ite_self none).symm
    | ok read =>
      rw [hread] at hitems
      obtain ⟨as, has, rfl⟩ := Option.map_eq_some_iff.1 hitems.symm
      rw [has]
      by_cases hlen : items.length ≤ fields.count
      · simp [Value.isRecord, Except.bind, hlen, Except.toOption, pure, Except.pure]
      · simp [Value.isRecord, Except.bind, hlen, Except.toOption, throw, throwThe,
          MonadExceptOf.throw]
  | _ => rfl

theorem record_eq_ok_iff {name : String} {fields : Fields ρ αs} {build : Tuple αs → ρ}
    (hsteady : fields.Steady) (hkeys : fields.keys.Nodup) {stage : Stage} {v : Value}
    (hv : v.Ordered) {r : ρ} :
    (record name fields build).read stage v = .ok r ↔
      v.isRecord fields.count ∧ ∃ as, fields.gather stage v 0 = some as ∧ build as = r := by
  rw [← toOption_eq_some_iff, record_toOption_parts hsteady hkeys stage hv,
    Option.ite_none_right_eq_some, Option.map_eq_some_iff]

/-! ## Likeness -/

/-- How what stands for a part may differ between two documents; `none` is an absent part. -/
abbrev Likeness := Option Value → Option Value → Prop

/-- What reads as the empty list: nothing, `null`, or a list without items. -/
def Blank (p : Option Value) : Prop := p = none ∨ p = some .null ∨ p = some (.array [])

/-- Lists that may be missing. An empty one has any of its three forms, others have alike items. -/
inductive Likeness.list (item : Likeness) : Option Value → Option Value → Prop
  | same (p : Option Value) : list item p p
  | blank {p q : Option Value} (hp : Blank p) (hq : Blank q) : list item p q
  | entries {vs ws : List Value} (h : List.Forall₂ (fun v w => item (some v) (some w)) vs ws) :
    list item (some (.array vs)) (some (.array ws))

/-- The parts with these keys, from this place on, are each alike in two values. -/
def PartsAlike (parts : List (String × Likeness)) (place : Nat) (v w : Value) : Prop :=
  ∀ part ∈ parts.zipIdx place, part.1.2 (v.part? part.1.1 part.2) (w.part? part.1.1 part.2)

theorem PartsAlike.nil {place : Nat} {v w : Value} : PartsAlike [] place v w :=
  List.forall_mem_nil _

theorem PartsAlike.cons {key : String} {R : Likeness} {parts : List (String × Likeness)}
    {place : Nat} {v w : Value} (h : R (v.part? key place) (w.part? key place))
    (hrest : PartsAlike parts (place + 1) v w) : PartsAlike ((key, R) :: parts) place v w :=
  List.forall_mem_cons.2 ⟨h, hrest⟩

/-- Records with these parts, in the same one of their two forms. Members with other keys may be
anything. -/
inductive Likeness.record (parts : List (String × Likeness)) : Option Value → Option Value → Prop
  | same (p : Option Value) : record parts p p
  | object {ms ns : Members} (h : PartsAlike parts 0 (.object ms) (.object ns)) :
    record parts (some (.object ms)) (some (.object ns))
  | items {vs ws : List Value} (h : PartsAlike parts 0 (.array vs) (.array ws))
      (hrest : vs.drop parts.length = ws.drop parts.length) :
    record parts (some (.array vs)) (some (.array ws))

theorem Likeness.record_null_iff {parts : List (String × Likeness)} {v w : Value}
    (h : record parts (some v) (some w)) : v = .null ↔ w = .null := by
  cases h with
  | same => rfl
  | object => exact ⟨fun h => (by cases h), fun h => (by cases h)⟩
  | items => exact ⟨fun h => (by cases h), fun h => (by cases h)⟩

def Tidy (p : Option Value) : Prop := ∀ v ∈ p, v.Ordered

/-- Alike parts are there or not in both documents, and are read as the same if they are read. -/
def Codec.Respects (c : Codec α) (R : Likeness) : Prop :=
  ∀ stage p q, Tidy p → Tidy q → R p q →
    p.map (fun v => (c.read stage v).toOption) = q.map (fun w => (c.read stage w).toOption)

/-- A field has the same value for alike parts. -/
def Field.Respects (f : Field ρ α) (R : Likeness) : Prop :=
  ∀ stage p q, Tidy p → Tidy q → R p q → f.found stage p = f.found stage q

theorem Codec.option_read_of_ne_null (c : Codec α) (stage : Stage) {v : Value} (hv : v ≠ .null) :
    c.option.read stage v = (c.read stage v).map some := by
  simp only [option]

namespace Codec.Respects

variable {c : Codec α} {R : Likeness}

theorem eq (c : Codec α) : c.Respects Eq := by
  rintro stage p q - - rfl
  rfl

theorem read_eq (h : c.Respects R) (stage : Stage) {v w : Value} (hv : v.Ordered)
    (hw : w.Ordered) (hR : R (some v) (some w)) :
    (c.read stage v).toOption = (c.read stage w).toOption :=
  Option.some.inj (h stage (some v) (some w) (fun _ hu => Option.some.inj hu ▸ hv)
    (fun _ hu => Option.some.inj hu ▸ hw) hR)

theorem option (h : c.Respects R)
    (hnull : ∀ v w, R (some v) (some w) → (v = .null ↔ w = .null)) : c.option.Respects R := by
  intro stage p q hp hq hR
  have hmap := h stage p q hp hq hR
  cases p <;> cases q
  · rfl
  · cases hmap
  · cases hmap
  · rename_i v w
    have hread : (c.read stage v).toOption = (c.read stage w).toOption := Option.some.inj hmap
    by_cases hv : v = .null
    · rw [hv, (hnull v w hR).1 hv]
    · rw [Option.map_some, Option.map_some, option_read_of_ne_null c stage hv,
        option_read_of_ne_null c stage (mt (hnull v w hR).2 hv), toOption_map, toOption_map, hread]

end Codec.Respects

theorem Field.Respects.of_codec {f : Field ρ α} {R : Likeness} (h : f.codec.Respects R) :
    f.Respects R := by
  intro stage p q hp hq hR
  have hmap := h stage p q hp hq hR
  cases p <;> cases q
  · rfl
  · cases hmap
  · cases hmap
  · exact Option.some.inj hmap

/-! ## Lists and records of parts that are read alike -/

theorem mapM_toOption_congr {β : Type} {f : β → Except DecodeError α} {vs ws : List β}
    (h : List.Forall₂ (fun v w => (f v).toOption = (f w).toOption) vs ws) :
    (vs.mapM f).toOption = (ws.mapM f).toOption := by
  induction h with
  | nil => rfl
  | cons hvw _ ih => simp only [List.mapM_cons, toOption_bind, hvw, ih]

theorem Codec.Respects.list {c : Codec α} {R : Likeness} (h : c.Respects R) {stage : Stage}
    {vs ws : List Value} (hvs : ∀ v ∈ vs, v.Ordered) (hws : ∀ w ∈ ws, w.Ordered)
    (hR : List.Forall₂ (fun v w => R (some v) (some w)) vs ws) :
    (c.list.read stage (.array vs)).toOption = (c.list.read stage (.array ws)).toOption := by
  refine mapM_toOption_congr ?_
  induction hR with
  | nil => exact .nil
  | cons hvw _ ih =>
    obtain ⟨hv, hvs⟩ := List.forall_mem_cons.1 hvs
    obtain ⟨hw, hws⟩ := List.forall_mem_cons.1 hws
    exact .cons (h.read_eq stage hv hw hvw) (ih hvs hws)

def Fields.Respects : {αs : List Type} → Fields ρ αs → List (String × Likeness) → Prop
  | _, .nil, parts => parts = []
  | _, .cons f rest, parts =>
    ∃ R more, parts = (f.key, R) :: more ∧ f.Respects R ∧ rest.Respects more

namespace Fields

variable {fields : Fields ρ αs} {parts : List (String × Likeness)}

@[simp] theorem nil_respects : (nil : Fields ρ []).Respects [] := rfl

theorem Respects.cons {f : Field ρ α} {R : Likeness} (hf : f.Respects R)
    (h : fields.Respects parts) : (Fields.cons f fields).Respects ((f.key, R) :: parts) :=
  ⟨R, parts, rfl, hf, h⟩

theorem Respects.fixed {f : Field ρ α} (h : fields.Respects parts) :
    (Fields.cons f fields).Respects ((f.key, Eq) :: parts) :=
  .cons (.of_codec (.eq f.codec)) h

theorem Respects.length_eq (h : fields.Respects parts) : parts.length = fields.count := by
  induction fields generalizing parts with
  | nil => rw [show parts = [] from h]; rfl
  | cons f rest ih =>
    obtain ⟨R, more, rfl, -, hrest⟩ := h
    rw [List.length_cons, ih hrest, count]

theorem Respects.gather_eq (h : fields.Respects parts) {stage : Stage} {v w : Value}
    (hv : v.Ordered) (hw : w.Ordered) {place : Nat} (halike : PartsAlike parts place v w) :
    fields.gather stage v place = fields.gather stage w place := by
  induction fields generalizing parts place with
  | nil => rfl
  | cons f rest ih =>
    obtain ⟨R, more, rfl, hf, hrest⟩ := h
    obtain ⟨hpart, hmore⟩ := List.forall_mem_cons.1 halike
    rw [gather, gather, ih hrest hmore,
      hf stage _ _ (fun _ => hv.part?) (fun _ => hw.part?) hpart]

end Fields

/-- **A record respects the likeness of its parts** if each field respects that of its part. -/
theorem record_respects {name : String} {fields : Fields ρ αs} {build : Tuple αs → ρ}
    {parts : List (String × Likeness)} (hsteady : fields.Steady) (hkeys : fields.keys.Nodup)
    (h : fields.Respects parts) : (record name fields build).Respects (.record parts) := by
  intro stage p q hp hq hR
  cases hR with
  | same => rfl
  | @object ms ns halike =>
    have hms := hp _ rfl
    have hns := hq _ rfl
    rw [Option.map_some, Option.map_some, record_toOption_parts hsteady hkeys stage hms,
      record_toOption_parts hsteady hkeys stage hns, h.gather_eq hms hns halike]
    rfl
  | @items vs ws halike hrest =>
    have hvs := hp _ rfl
    have hws := hq _ rfl
    have hlength : vs.length ≤ fields.count ↔ ws.length ≤ fields.count := by
      rw [← h.length_eq, ← List.drop_eq_nil_iff, hrest, List.drop_eq_nil_iff]
    have hform : (Value.array vs).isRecord fields.count = (Value.array ws).isRecord fields.count :=
      decide_eq_decide.2 hlength
    rw [Option.map_some, Option.map_some, record_toOption_parts hsteady hkeys stage hvs,
      record_toOption_parts hsteady hkeys stage hws, h.gather_eq hvs hws halike,
      hform]

end ChainIndexer.Json
