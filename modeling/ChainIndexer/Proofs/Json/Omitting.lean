import ChainIndexer.Json.Record
import ChainIndexer.Proofs.Except

/-!
# Members that can be left out

`Value.without` takes members with some keys out of an object. A codec overlooks these keys if it
reads what is left, and reads the same up to what stood under them. A record does where the fields
of these keys have something to fall back on (`record_overlooks`).
-/

namespace ChainIndexer.Json

/-- The value without the members of these keys, if it is an object. -/
def Value.without (keys : List String) : Value → Value
  | .object members => .object (members.filter fun p => p.1 ∉ keys)
  | v => v

theorem Value.without_nil (v : Value) : v.without [] = v := by
  cases v with
  | object members => simp [without]
  | _ => rfl

/-- What is read stays the same without these keys, up to a change that forgets what they said. -/
def Codec.Overlooks {α : Type} (c : Codec α) (keys : List String) (forget : α → α) : Prop :=
  ∀ v a, c.decode v = .ok a → ∃ b, c.decode (v.without keys) = .ok b ∧ forget b = forget a

namespace Fields

variable {ρ : Type} {αs : List Type} {fields : Fields ρ αs} {keys : List String}

/-- Each field goes by one key only, and those of the given keys have a value to fall back on. -/
def Omittable (keys : List String) : {αs : List Type} → Fields ρ αs → Prop
  | _, nil => True
  | _, cons f rest =>
    (f.aliases = [] ∧ (f.key ∈ keys → f.absent.value?.isSome)) ∧ rest.Omittable keys

/-- The values read so far without those of the given keys. -/
def clear (keys : List String) : {αs : List Type} → Fields ρ αs → Slots αs → Slots αs
  | _, nil, _ => ()
  | _, cons f rest, (slot, slots) => (if f.key ∈ keys then none else slot, rest.clear keys slots)

/-- The values of all fields, those of the given keys by what they fall back on. -/
@[simp] def fallBack (keys : List String) : {αs : List Type} → Fields ρ αs → Tuple αs → Tuple αs
  | _, nil, _ => ()
  | _, cons f rest, (a, as) =>
    (if f.key ∈ keys then f.absent.value?.getD a else a, rest.fallBack keys as)

@[simp] theorem nil_omittable : (nil : Fields ρ []).Omittable keys := trivial

@[simp] theorem required_omittable {α : Type} {key : String} {get : ρ → α} {codec : Codec α} :
    (cons (.required key get codec) fields).Omittable keys ↔ key ∉ keys ∧ fields.Omittable keys := by
  simp [Omittable, Field.required, Absence.value?]

@[simp] theorem default_omittable {α : Type} {key : String} {get : ρ → α} {codec : Codec α}
    {value : α} :
    (cons (.default key get codec value) fields).Omittable keys ↔ fields.Omittable keys := by
  simp [Omittable, Field.default, Absence.value?]

theorem clear_empty : fields.clear keys fields.empty = fields.empty := by
  induction fields with
  | nil => rfl
  | cons f rest ih =>
    show ((if f.key ∈ keys then none else none, rest.clear keys rest.empty) : _ × _) = (none, _)
    rw [ih, ite_self]

theorem named_iff {α : Type} {f : Field ρ α} (h : f.aliases = []) {key : String} :
    f.named key = true ↔ key = f.key := by
  simp [Field.named, h]

theorem visit_clear (h : fields.Omittable keys) {stage : Stage} {key : String} (hkey : key ∉ keys)
    {v : Value} {slots slots' : Slots αs} (hv : fields.visit stage key v slots = .ok slots') :
    fields.visit stage key v (fields.clear keys slots) = .ok (fields.clear keys slots') := by
  induction fields with
  | nil => rfl
  | cons f rest ih =>
    obtain ⟨slot, slots⟩ := slots
    obtain ⟨⟨haliases, -⟩, hrest⟩ := h
    by_cases hnamed : f.named key = true
    · have hf : f.key ∉ keys := named_iff haliases |>.1 hnamed ▸ hkey
      simp only [visit, clear, if_pos hnamed, if_neg hf] at hv ⊢
      split at hv
      · cases hv
      · rename_i hslot
        obtain ⟨a, ha, rfl⟩ := map_eq_ok_iff.1 hv
        rw [if_neg hslot, ha]
        show Except.ok (some a, rest.clear keys slots) = _
        simp only [clear, if_neg hf]
        rfl
    · simp only [visit, clear, if_neg hnamed] at hv ⊢
      obtain ⟨more, hmore, rfl⟩ := map_eq_ok_iff.1 hv
      rw [ih hrest hmore]
      rfl

theorem clear_visit (h : fields.Omittable keys) {stage : Stage} {key : String} (hkey : key ∈ keys)
    {v : Value} {slots slots' : Slots αs} (hv : fields.visit stage key v slots = .ok slots') :
    fields.clear keys slots' = fields.clear keys slots := by
  induction fields with
  | nil => rfl
  | cons f rest ih =>
    obtain ⟨slot, slots⟩ := slots
    obtain ⟨⟨haliases, -⟩, hrest⟩ := h
    simp only [visit] at hv
    by_cases hnamed : f.named key = true
    · have hf : f.key ∈ keys := named_iff haliases |>.1 hnamed ▸ hkey
      rw [if_pos hnamed] at hv
      split at hv
      · cases hv
      · obtain ⟨a, -, rfl⟩ := map_eq_ok_iff.1 hv
        simp only [clear, if_pos hf]
        rfl
    · rw [if_neg hnamed] at hv
      obtain ⟨more, hmore, rfl⟩ := map_eq_ok_iff.1 hv
      simp only [clear, ih hrest hmore]
      rfl

theorem visitAll_clear (h : fields.Omittable keys) {stage : Stage} {members : Members}
    {slots slots' : Slots αs} (hv : fields.visitAll stage members slots = .ok slots') :
    fields.visitAll stage (members.filter fun p => p.1 ∉ keys) (fields.clear keys slots)
      = .ok (fields.clear keys slots') := by
  induction members generalizing slots with
  | nil =>
    obtain rfl := Except.ok.inj hv
    rfl
  | cons p members ih =>
    obtain ⟨next, hnext, hrest⟩ := bind_eq_ok_iff.1 hv
    by_cases hkey : p.1 ∈ keys
    · rw [List.filter_cons_of_neg (by simpa using hkey), ← clear_visit h hkey hnext]
      exact ih hrest
    · rw [List.filter_cons_of_pos (by simpa using hkey), visitAll, visit_clear h hkey hnext]
      exact ih hrest

theorem finish_clear (h : fields.Omittable keys) {slots : Slots αs} {values : Tuple αs}
    (hf : fields.finish slots = .ok values) :
    fields.finish (fields.clear keys slots) = .ok (fields.fallBack keys values) := by
  induction fields with
  | nil => rfl
  | cons f rest ih =>
    obtain ⟨slot, slots⟩ := slots
    obtain ⟨⟨-, habsent⟩, hrest⟩ := h
    simp only [finish] at hf
    split at hf
    · rename_i a ha
      obtain ⟨b, hb, hf⟩ := bind_eq_ok_iff.1 hf
      obtain rfl := Except.ok.inj hb
      obtain ⟨as, has, he⟩ := bind_eq_ok_iff.1 hf
      obtain rfl := Except.ok.inj he
      by_cases hkey : f.key ∈ keys
      · obtain ⟨b, hb⟩ := Option.isSome_iff_exists.1 (habsent hkey)
        simp only [finish, clear, fallBack, ih hrest has, if_pos hkey, hb]
        rfl
      · simp only [finish, clear, fallBack, ih hrest has, if_neg hkey, ha]
        rfl
    · cases hf

end Fields

/-- **A record overlooks the keys of fields that may be left out.** -/
theorem record_overlooks {ρ : Type} {αs : List Type} {name : String} {fields : Fields ρ αs}
    {build : Tuple αs → ρ} {keys : List String} {forget : ρ → ρ} (h : fields.Omittable keys)
    (hforget : ∀ values, forget (build (fields.fallBack keys values)) = forget (build values)) :
    (record name fields build).Overlooks keys forget := by
  intro v r hread
  cases v with
  | object members =>
    obtain ⟨slots, hslots, hread⟩ := bind_eq_ok_iff.1 hread
    obtain ⟨values, hvalues, he⟩ := bind_eq_ok_iff.1 hread
    obtain rfl := Except.ok.inj he
    refine ⟨build (fields.fallBack keys values), ?_, hforget values⟩
    have hvisit := Fields.visitAll_clear h hslots
    rw [Fields.clear_empty] at hvisit
    refine bind_eq_ok_iff.2 ⟨_, hvisit, ?_⟩
    rw [Fields.finish_clear h hvalues]
    rfl
  | _ => exact ⟨r, hread, rfl⟩

end ChainIndexer.Json
