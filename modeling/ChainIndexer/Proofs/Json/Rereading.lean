import ChainIndexer.Proofs.Json.Restoring

/-!
# Forms that are normal after one reading

A codec is stable if it restores whatever it has read: reading a value, writing what was read and
reading that again gives the same. Scalars are stable, lists and options of stable forms are, a
record is where the forms of its fields are (`record_stable`), and a union where its cases are
(`union_stable`). A value that stands for an absent field has to be restored too, since it is
written where nothing was read.
-/

namespace ChainIndexer.Json

/-- Whatever was read is restored. -/
def Codec.Stable {α : Type} (c : Codec α) : Prop :=
  ∀ stage v a, c.read stage v = .ok a → c.Restores a

namespace Codec

variable {α β : Type}

theorem stable_of_restores {c : Codec α} (h : ∀ a, c.Restores a) : c.Stable :=
  fun _ _ a _ => h a

/-! ## Scalars -/

@[simp] theorem value_stable : value.Stable := stable_of_restores value_restores

@[simp] theorem string_stable : string.Stable := stable_of_restores string_restores

@[simp] theorem bool_stable : bool.Stable := stable_of_restores bool_restores

@[simp] theorem uint64_stable : uint64.Stable := stable_of_restores uint64_restores

@[simp] theorem index_stable : index.Stable := stable_of_restores index_restores

@[simp] theorem uint32_stable : uint32.Stable := stable_of_restores uint32_restores

theorem uint8_restores (n : UInt8) : uint8.Restores n := by
  intro stage
  have hn := n.toNat_lt
  simp only [uint8, Value.ofNat, Number.ofInt]
  rw [dif_pos ⟨by omega, by omega⟩]
  simp only [readInteger]
  rw [if_pos ⟨by omega, by omega⟩]
  simp [Except.map]

@[simp] theorem uint8_stable : uint8.Stable := stable_of_restores uint8_restores

@[simp] theorem int64_stable : int64.Stable := stable_of_restores int64_restores

@[simp] theorem stringUInt64_stable : stringUInt64.Stable := stable_of_restores stringUInt64_restores

/-! ## Containers -/

@[simp] theorem list_stable {c : Codec α} (h : c.Stable) : c.list.Stable := by
  intro stage v as hread
  simp only [list] at hread
  split at hread
  · refine list_restores fun a ha => ?_
    obtain ⟨item, -, hitem⟩ := exists_of_mem_right (mapM_eq_ok_iff.1 hread) ha
    exact h stage item a hitem
  · cases hread

/-- An option is stable if nothing but `null` is read as what is written as `null`. -/
theorem option_stable {c : Codec α} (h : c.Stable)
    (hnull : ∀ stage v a, v ≠ .null → c.read stage v = .ok a → c.write a ≠ .null) :
    c.option.Stable := by
  intro stage v a? hread
  refine option_restores fun a ha => ?_
  cases ha
  by_cases hv : v = .null
  · subst hv
    cases hread
  · have hvalue : c.option.read stage v = (c.read stage v).map some := by
      simp only [option]
    obtain ⟨b, hb, he⟩ := map_eq_ok_iff.1 (hvalue ▸ hread)
    cases he
    exact ⟨h stage v a hb, hnull stage v a hv hb⟩

@[simp] theorem option_value_stable : value.option.Stable := by
  refine option_stable value_stable fun stage v a hv hread => ?_
  cases hread
  exact hv

@[simp] theorem option_string_stable : string.option.Stable :=
  option_stable string_stable fun _ _ _ _ _ => nofun

@[simp] theorem option_uint64_stable : uint64.option.Stable :=
  option_stable uint64_stable fun _ _ _ _ _ => nofun

@[simp] theorem option_none_restores {c : Codec α} : c.option.Restores none := fun _ => rfl

theorem transport_stable {c : Codec α} {there : α → β} {back : β → α} (h : c.Stable)
    (hback : ∀ a, back (there a) = a) : (c.transport there back).Stable := by
  intro stage v b hread stage'
  obtain ⟨a, ha, rfl⟩ := map_eq_ok_iff.1 hread
  have hwritten : (c.transport there back).write (there a) = c.write a := congrArg c.write (hback a)
  rw [hwritten]
  exact map_eq_ok_iff.2 ⟨a, h stage v a ha stage', rfl⟩

end Codec

/-! ## Records -/

theorem Absence.value?_of_item? {α : Type} {absent : Absence α} {a : α} (h : absent.item? = some a) :
    absent.value? = some a := by
  cases absent with
  | required => cases h
  | optional b => cases h
  | default b => exact h

namespace Fields

variable {ρ : Type}

/-- Every field is written, goes by one key only, and has a stable form, which restores what stands
for the field where it is absent. -/
def Stable : {αs : List Type} → Fields ρ αs → Prop
  | _, nil => True
  | _, cons f rest =>
    (f.aliases = [] ∧ (∀ r, f.written r = true) ∧ f.codec.Stable ∧
      ∀ a ∈ f.absent.value?, f.codec.Restores a) ∧ rest.Stable

def RestoresAll : {αs : List Type} → Fields ρ αs → Tuple αs → Prop
  | _, nil, _ => True
  | _, cons f rest, (a, as) => f.codec.Restores a ∧ rest.RestoresAll as

def RestoresSlots : {αs : List Type} → Fields ρ αs → Slots αs → Prop
  | _, nil, _ => True
  | _, cons f rest, (slot, slots) => (∀ a ∈ slot, f.codec.Restores a) ∧ rest.RestoresSlots slots

variable {α : Type} {αs : List Type} {fields : Fields ρ αs}

@[simp] theorem nil_stable : (nil : Fields ρ []).Stable := trivial

@[simp] theorem required_stable {key : String} {get : ρ → α} {codec : Codec α} :
    (cons (.required key get codec) fields).Stable ↔ codec.Stable ∧ fields.Stable := by
  simp [Stable, Field.required, Absence.value?]

@[simp] theorem default_stable {key : String} {get : ρ → α} {codec : Codec α} {value : α} :
    (cons (.default key get codec value) fields).Stable
      ↔ (codec.Stable ∧ codec.Restores value) ∧ fields.Stable := by
  simp [Stable, Field.default, Absence.value?]

@[simp] theorem optional_stable {key : String} {get : ρ → Option α} {codec : Codec α} :
    (cons (.optional key get codec) fields).Stable ↔ codec.option.Stable ∧ fields.Stable := by
  simp [Stable, Field.optional, Absence.value?]

theorem empty_restoresSlots : fields.RestoresSlots fields.empty := by
  induction fields with
  | nil => trivial
  | cons f rest ih => exact ⟨nofun, ih⟩

theorem visit_restoresSlots (h : fields.Stable) {stage : Stage} {key : String} {v : Value}
    {slots slots' : Slots αs} (hslots : fields.RestoresSlots slots)
    (hv : fields.visit stage key v slots = .ok slots') : fields.RestoresSlots slots' := by
  induction fields with
  | nil => trivial
  | cons f rest ih =>
    obtain ⟨slot, slots⟩ := slots
    obtain ⟨⟨-, -, hf, -⟩, hrest⟩ := h
    obtain ⟨hslot, hslots⟩ := hslots
    simp only [visit] at hv
    split at hv
    · split at hv
      · cases hv
      · obtain ⟨a, ha, rfl⟩ := map_eq_ok_iff.1 hv
        refine ⟨fun b hb => ?_, hslots⟩
        cases hb
        exact hf stage v a ha
    · obtain ⟨more, hmore, rfl⟩ := map_eq_ok_iff.1 hv
      exact ⟨hslot, ih hrest hslots hmore⟩

theorem visitAll_restoresSlots (h : fields.Stable) {stage : Stage} {members : Members}
    {slots slots' : Slots αs} (hslots : fields.RestoresSlots slots)
    (hv : fields.visitAll stage members slots = .ok slots') : fields.RestoresSlots slots' := by
  induction members generalizing slots with
  | nil =>
    cases hv
    exact hslots
  | cons p members ih =>
    obtain ⟨next, hnext, hrest⟩ := bind_eq_ok_iff.1 hv
    exact ih (visit_restoresSlots h hslots hnext) hrest

/-- The values of the fields are what was read, and what stands for those that are absent. -/
theorem finish_restoresAll (h : fields.Stable) {slots : Slots αs} {values : Tuple αs}
    (hslots : fields.RestoresSlots slots) (hf : fields.finish slots = .ok values) :
    fields.RestoresAll values := by
  induction fields with
  | nil => trivial
  | cons f rest ih =>
    obtain ⟨slot, slots⟩ := slots
    obtain ⟨⟨-, -, -, habsent⟩, hrest⟩ := h
    obtain ⟨hslot, hslots⟩ := hslots
    simp only [finish] at hf
    split at hf
    · rename_i a ha
      obtain ⟨b, hb, hf⟩ := bind_eq_ok_iff.1 hf
      obtain rfl := Except.ok.inj hb
      obtain ⟨as, has, he⟩ := bind_eq_ok_iff.1 hf
      cases he
      refine ⟨?_, ih hrest hslots has⟩
      cases slot with
      | some b => exact hslot a ha
      | none => exact habsent a ha
    · cases hf

theorem readItems_restoresAll (h : fields.Stable) {stage : Stage} {wanted : String} {place : Nat}
    {items rest : List Value} {values : Tuple αs}
    (hr : fields.readItems stage wanted place items = .ok (values, rest)) :
    fields.RestoresAll values := by
  induction fields generalizing place items with
  | nil => trivial
  | cons f fields ih =>
    obtain ⟨⟨-, -, hf, habsent⟩, hfields⟩ := h
    cases items with
    | nil =>
      simp only [readItems] at hr
      split at hr
      · rename_i a ha
        obtain ⟨b, hb, hr⟩ := bind_eq_ok_iff.1 hr
        obtain rfl := Except.ok.inj hb
        obtain ⟨⟨as, more⟩, has, he⟩ := bind_eq_ok_iff.1 hr
        cases he
        exact ⟨habsent a (Absence.value?_of_item? ha), ih hfields has⟩
      · cases hr
    | cons v items =>
      obtain ⟨a, ha, hr⟩ := bind_eq_ok_iff.1 hr
      obtain ⟨⟨as, more⟩, has, he⟩ := bind_eq_ok_iff.1 hr
      cases he
      exact ⟨hf stage v a ha, ih hfields has⟩

theorem restores_of_values (h : fields.Stable) {r : ρ} (hr : fields.RestoresAll (fields.values r)) :
    fields.Restores r := by
  induction fields with
  | nil => trivial
  | cons f rest ih =>
    obtain ⟨⟨haliases, hwritten, -, -⟩, hrest⟩ := h
    exact ⟨⟨haliases, hwritten r, hr.1⟩, ih hrest hr.2⟩

end Fields

/-- **A record is stable where its fields are.** -/
theorem record_stable {ρ : Type} {αs : List Type} {name : String} {fields : Fields ρ αs}
    {build : Tuple αs → ρ} (hkeys : fields.keys.Nodup) (h : fields.Stable)
    (hbuild : ∀ values, fields.values (build values) = values) :
    (record name fields build).Stable := by
  intro stage v r hread
  have hvalues : ∃ values, fields.RestoresAll values ∧ build values = r := by
    simp only [record] at hread
    split at hread
    · obtain ⟨slots, hslots, hread⟩ := bind_eq_ok_iff.1 hread
      obtain ⟨values, hfinish, he⟩ := bind_eq_ok_iff.1 hread
      have hrestored := Fields.visitAll_restoresSlots h Fields.empty_restoresSlots hslots
      exact ⟨values, Fields.finish_restoresAll h hrestored hfinish, Except.ok.inj he⟩
    · obtain ⟨⟨values, rest⟩, hitems, hread⟩ := bind_eq_ok_iff.1 hread
      dsimp only at hread
      split at hread
      · exact ⟨values, Fields.readItems_restoresAll h hitems, Except.ok.inj hread⟩
      · cases hread
    · cases hread
  obtain ⟨values, hall, rfl⟩ := hvalues
  refine record_restores hkeys (Fields.restores_of_values h ?_) ?_
  · rw [hbuild]
    exact hall
  · rw [hbuild]

/-! ## Unions -/

namespace Codec

variable {α β : Type}

/-- What the case has read is written as that case, and read back from its data. -/
def Case.Stable (write : α → String × Value) (c : Case α) : Prop :=
  ∀ stage v a, c.read stage v = .ok a →
    (write a).1 = c.name ∧ ∀ stage', c.read stage' (write a).2 = .ok a

theorem Case.of_stable {c : Codec β} (h : c.Stable) {write : α → String × Value} {name : String}
    {inject : β → α} (hwrite : ∀ b, write (inject b) = (name, c.write b)) :
    (Case.of name c inject).Stable write := by
  intro stage v a hread
  obtain ⟨b, hb, rfl⟩ := map_eq_ok_iff.1 hread
  rw [hwrite]
  exact ⟨rfl, Case.of_restores (h stage v b hb) name inject⟩

theorem find?_name {cases : List (Case α)} (hnames : (cases.map Case.name).Nodup) {c : Case α}
    (hc : c ∈ cases) : (cases.find? fun d => d.name == c.name) = some c := by
  induction cases with
  | nil => simp at hc
  | cons d cases ih =>
    obtain ⟨hfresh, hnames⟩ := List.nodup_cons.1 hnames
    rcases List.mem_cons.1 hc with rfl | hc
    · simp
    · have hne : d.name ≠ c.name := by
        intro he
        exact hfresh (he ▸ List.mem_map_of_mem hc)
      rw [List.find?_cons_of_neg (by simpa using hne)]
      exact ih hnames hc

theorem readCase_eq_ok {cases : List (Case α)} {stage : Stage} {tag content : Value} {a : α}
    (h : readCase cases stage tag content = .ok a) :
    ∃ c ∈ cases, c.read stage content = .ok a := by
  obtain ⟨key, -, h⟩ := bind_eq_ok_iff.1 h
  split at h
  · rename_i c hc
    exact ⟨c, List.mem_of_find?_eq_some hc, h⟩
  · cases h

/-- **A union is stable where its cases are.** -/
theorem union_stable {type tagKey contentKey : String} {cases : List (Case α)}
    {write : α → String × Value} (hne : tagKey ≠ contentKey) (hnames : (cases.map Case.name).Nodup)
    (h : ∀ c ∈ cases, c.Stable write) : (union type tagKey contentKey cases write).Stable := by
  intro stage v a hread
  have hcase : ∃ stage', ∃ tag content, readCase cases stage' tag content = .ok a := by
    simp only [union] at hread
    split at hread
    · split at hread
      · obtain ⟨tag, -, hread⟩ := bind_eq_ok_iff.1 hread
        split at hread
        · exact ⟨_, tag, _, hread⟩
        · obtain ⟨-, -, hread⟩ := bind_eq_ok_iff.1 hread
          cases hread
      · cases hread
    · split at hread
      · cases hread
      · obtain ⟨-, -, hread⟩ := bind_eq_ok_iff.1 hread
        cases hread
      · rename_i tag content rest
        obtain ⟨b, hb, hread⟩ := bind_eq_ok_iff.1 hread
        split at hread
        · cases hread
          exact ⟨stage, tag, content, hb⟩
        · cases hread
    · cases hread
  obtain ⟨stage', tag, content, hcase⟩ := hcase
  obtain ⟨c, hc, hread⟩ := readCase_eq_ok hcase
  obtain ⟨hname, hback⟩ := h c hc stage' content a hread
  refine union_restores hne ?_ hback
  rw [hname]
  exact find?_name hnames hc

end Codec

end ChainIndexer.Json
