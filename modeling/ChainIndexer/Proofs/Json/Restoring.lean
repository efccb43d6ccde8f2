import ChainIndexer.Json.Record
import ChainIndexer.Proofs.Digits
import ChainIndexer.Proofs.Except

/-!
# Values that their own form restores

A codec restores a value if reading what it wrote gives the value back. Numbers, texts, lists and
options do; a record does where its fields do (`record_restores`), and a union where the case of
the value does (`union_restores`).
-/

namespace ChainIndexer.Json

/-- Reading what was written for `a` gives `a`. -/
def Codec.Restores {α : Type} (c : Codec α) (a : α) : Prop :=
  ∀ stage, c.read stage (c.write a) = .ok a

namespace Codec

variable {α β : Type}

/-! ## Scalars -/

@[simp] theorem value_restores (v : Value) : value.Restores v := fun _ => rfl

@[simp] theorem string_restores (s : String) : string.Restores s := fun _ => rfl

@[simp] theorem bool_restores (b : Bool) : bool.Restores b := fun _ => rfl

@[simp] theorem natural64_restores (wanted : String) (n : UInt64) :
    (natural64 wanted).Restores n := by
  intro stage
  have hn := n.toNat_lt
  simp only [natural64, Value.ofUInt64, Number.ofUInt64, readInteger]
  rw [if_pos ⟨by omega, by omega⟩]
  simp [Except.map]

@[simp] theorem uint64_restores (n : UInt64) : uint64.Restores n := natural64_restores _ n

@[simp] theorem index_restores (n : UInt64) : index.Restores n := natural64_restores _ n

@[simp] theorem uint32_restores (n : UInt32) : uint32.Restores n := by
  intro stage
  have hn := n.toNat_lt
  simp only [uint32, Value.ofNat, Number.ofInt]
  rw [dif_pos ⟨by omega, by omega⟩]
  simp only [readInteger]
  rw [if_pos ⟨by omega, by omega⟩]
  simp [Except.map]

@[simp] theorem int64_restores (n : Int64) : int64.Restores n := by
  intro stage
  have hlow := n.le_toInt
  have hhigh := n.toInt_lt
  simp only [int64, Value.ofInt64, Number.ofInt64, readInteger]
  rw [if_pos ⟨by omega, by omega⟩]
  simp [Except.map]

@[simp] theorem stringUInt64_restores (n : UInt64) : stringUInt64.Restores n := by
  intro stage
  simp only [stringUInt64, Numeral.natural_ne_empty, Numeral.readUInt64_natural]
  rfl

/-! ## Containers -/

@[simp] theorem list_restores {c : Codec α} {as : List α} (h : ∀ a ∈ as, c.Restores a) :
    c.list.Restores as := by
  intro stage
  simp only [list]
  induction as with
  | nil => rfl
  | cons a as ih =>
    have ha := h a (by simp) stage
    have has := ih fun b hb => h b (by simp [hb])
    simp only [List.map_cons, List.mapM_cons, ha, has]
    rfl

theorem option_restores {c : Codec α} {a? : Option α}
    (h : ∀ a ∈ a?, c.Restores a ∧ c.write a ≠ .null) : c.option.Restores a? := by
  intro stage
  cases a? with
  | none => rfl
  | some a =>
    obtain ⟨ha, hnull⟩ := h a rfl
    have hread : c.option.read stage (c.write a) = (c.read stage (c.write a)).map some := by
      simp only [option]
    exact hread.trans (by rw [ha stage]; rfl)

@[simp] theorem option_string_restores (s? : Option String) : string.option.Restores s? :=
  option_restores fun s _ => ⟨string_restores s, nofun⟩

@[simp] theorem option_uint64_restores (n? : Option UInt64) : uint64.option.Restores n? :=
  option_restores fun n _ => ⟨uint64_restores n, nofun⟩

end Codec

/-! ## Records -/

namespace Members

theorem insert_perm {key : String} {members : Members} (h : key ∉ members.map Prod.fst)
    (v : Value) : (members.insert key v).Perm ((key, v) :: members) := by
  induction members with
  | nil => rfl
  | cons p members ih =>
    obtain ⟨k, w⟩ := p
    simp only [List.map_cons, List.mem_cons, not_or] at h
    rw [insert]
    split
    · rfl
    · rw [if_neg h.1]
      exact ((ih h.2).cons _).trans (.swap ..)

theorem ofList_perm {pairs : List (String × Value)} (h : (pairs.map Prod.fst).Nodup) :
    (ofList pairs).Perm pairs := by
  suffices hfold : ∀ members : Members, ((members ++ pairs).map Prod.fst).Nodup →
      (pairs.foldl (fun ms p => insert p.1 p.2 ms) members).Perm (members ++ pairs) from
    hfold [] h
  clear h
  induction pairs with
  | nil => simp
  | cons p pairs ih =>
    intro members h
    have hinsert : (insert p.1 p.2 members).Perm (p :: members) := by
      refine insert_perm (fun hmem => ?_) p.2
      rw [List.map_append, List.nodup_append] at h
      exact h.2.2 p.1 hmem p.1 (by simp) rfl
    have hperm : (insert p.1 p.2 members ++ pairs).Perm (members ++ p :: pairs) :=
      (hinsert.append_right pairs).trans List.perm_middle.symm
    have hnodup : ((insert p.1 p.2 members ++ pairs).map Prod.fst).Nodup :=
      (hperm.map Prod.fst).nodup_iff.2 h
    exact (ih _ hnodup).trans hperm

theorem lookup_pair {a b : String} (h : a ≠ b) (v w : Value) :
    (ofList [(a, v), (b, w)]).lookup a = some v ∧ (ofList [(a, v), (b, w)]).lookup b = some w := by
  have hba : (b == a) = false := by simpa using h.symm
  have hab : (a == b) = false := by simpa using h
  simp only [ofList, List.foldl_cons, List.foldl_nil, insert, if_neg h.symm]
  split <;> simp [List.lookup_cons, hab, hba]

end Members

namespace Fields

variable {ρ : Type}

/-- The keys of the fields, in order. -/
def keys : {αs : List Type} → Fields ρ αs → List String
  | _, nil => []
  | _, cons f rest => f.key :: rest.keys

def values (r : ρ) : {αs : List Type} → Fields ρ αs → Tuple αs
  | _, nil => ()
  | _, cons f rest => (f.get r, rest.values r)

/-- The values of those fields of a record that were read. -/
def taken (r : ρ) (seen : List String) : {αs : List Type} → Fields ρ αs → Slots αs
  | _, nil => ()
  | _, cons f rest => (if f.key ∈ seen then some (f.get r) else none, rest.taken r seen)

/-- Every field is written, goes by one key only, and restores its value. -/
def Restores (r : ρ) : {αs : List Type} → Fields ρ αs → Prop
  | _, nil => True
  | _, cons f rest =>
    (f.aliases = [] ∧ f.written r = true ∧ f.codec.Restores (f.get r)) ∧ rest.Restores r

variable {α : Type} {αs : List Type} {fields : Fields ρ αs} {r : ρ}

@[simp] theorem nil_restores : (nil : Fields ρ []).Restores r := trivial

@[simp] theorem required_restores {key : String} {get : ρ → α} {codec : Codec α} :
    (cons (.required key get codec) fields).Restores r
      ↔ codec.Restores (get r) ∧ fields.Restores r := by
  simp [Restores, Field.required]

@[simp] theorem default_restores {key : String} {get : ρ → α} {codec : Codec α} {value : α} :
    (cons (.default key get codec value) fields).Restores r
      ↔ codec.Restores (get r) ∧ fields.Restores r := by
  simp [Restores, Field.default]

@[simp] theorem optional_restores {key : String} {get : ρ → Option α} {codec : Codec α} :
    (cons (.optional key get codec) fields).Restores r
      ↔ codec.option.Restores (get r) ∧ fields.Restores r := by
  simp [Restores, Field.optional]

theorem keys_pairs (h : fields.Restores r) : (fields.pairs r).map Prod.fst = fields.keys := by
  induction fields with
  | nil => rfl
  | cons f rest ih =>
    obtain ⟨⟨-, hwritten, -⟩, hrest⟩ := h
    simp [pairs, keys, hwritten, ih hrest]

theorem taken_nil : fields.taken r [] = fields.empty := by
  induction fields with
  | nil => rfl
  | cons f rest ih =>
    simp only [taken, empty, ih]
    rfl

theorem taken_cons_of_not_mem {seen : List String} {key : String} (h : key ∉ fields.keys) :
    fields.taken r (key :: seen) = fields.taken r seen := by
  induction fields with
  | nil => rfl
  | cons f rest ih =>
    simp only [keys, List.mem_cons, not_or] at h
    simp only [taken, ih h.2, List.mem_cons, Ne.symm h.1, false_or]
    rfl

theorem visit_taken (h : fields.Restores r) (hkeys : fields.keys.Nodup) {seen : List String}
    {p : String × Value} (hp : p ∈ fields.pairs r) (hnew : p.1 ∉ seen) (stage : Stage) :
    fields.visit stage p.1 p.2 (fields.taken r seen) = .ok (fields.taken r (p.1 :: seen)) := by
  induction fields with
  | nil => simp [pairs] at hp
  | cons f rest ih =>
    obtain ⟨⟨haliases, hwritten, hf⟩, hrest⟩ := h
    obtain ⟨hfresh, hkeys⟩ := List.nodup_cons.1 hkeys
    simp only [pairs, hwritten, if_true, List.mem_cons] at hp
    rcases hp with rfl | hp
    · have hnamed : f.named f.key = true := by simp [Field.named]
      simp only [visit, taken, hnamed, if_neg hnew, hf stage, taken_cons_of_not_mem hfresh]
      simp [Except.map]
    · have hne : p.1 ≠ f.key := by
        rintro heq
        exact hfresh (heq ▸ keys_pairs hrest ▸ List.mem_map_of_mem hp)
      have hnamed : f.named p.1 = false := by simp [Field.named, haliases, hne]
      simp only [visit, taken, hnamed, ih hrest hkeys hp]
      simp [Except.map, Ne.symm hne]

theorem visitAll_taken (h : fields.Restores r) (hkeys : fields.keys.Nodup) {members : Members}
    (hm : ∀ p ∈ members, p ∈ fields.pairs r) {seen : List String}
    (hnew : (members.map Prod.fst ++ seen).Nodup) (stage : Stage) :
    fields.visitAll stage members (fields.taken r seen)
      = .ok (fields.taken r ((members.map Prod.fst).reverse ++ seen)) := by
  induction members generalizing seen with
  | nil => rfl
  | cons p members ih =>
    obtain ⟨hp, hm⟩ := List.forall_mem_cons.1 hm
    simp only [List.map_cons, List.cons_append, List.nodup_cons, List.mem_append, not_or] at hnew
    have hnext : (members.map Prod.fst ++ p.1 :: seen).Nodup := by
      rw [List.perm_middle.nodup_iff, List.nodup_cons, List.mem_append, not_or]
      exact hnew
    have hvisit := visit_taken h hkeys hp hnew.1.2 stage
    have hrest := ih hm hnext
    rw [visitAll, hvisit]
    simp only [List.map_cons, List.reverse_cons, List.append_assoc, List.singleton_append]
    exact hrest

theorem finish_taken {seen : List String} (h : ∀ key ∈ fields.keys, key ∈ seen) :
    fields.finish (fields.taken r seen) = .ok (fields.values r) := by
  induction fields with
  | nil => rfl
  | cons f rest ih =>
    obtain ⟨hkey, hrest⟩ := List.forall_mem_cons.1 h
    simp only [finish, taken, if_pos hkey, ih hrest]
    rfl

end Fields

/-- **A record is restored where its fields are.** -/
theorem record_restores {ρ : Type} {αs : List Type} {name : String} {fields : Fields ρ αs}
    {build : Tuple αs → ρ} {r : ρ} (hkeys : fields.keys.Nodup) (h : fields.Restores r)
    (hbuild : build (fields.values r) = r) : (record name fields build).Restores r := by
  intro stage
  have hpairs := Fields.keys_pairs h
  have hperm : (Members.ofList (fields.pairs r)).Perm (fields.pairs r) :=
    Members.ofList_perm (hpairs ▸ hkeys)
  have hperm_keys : ((Members.ofList (fields.pairs r)).map Prod.fst).Perm fields.keys :=
    hpairs ▸ hperm.map Prod.fst
  have hnodup : ((Members.ofList (fields.pairs r)).map Prod.fst ++ []).Nodup := by
    simpa using hperm_keys.nodup_iff.2 hkeys
  have hvisit := Fields.visitAll_taken h hkeys (fun p hp => hperm.mem_iff.1 hp) hnodup stage
  have hfinish : fields.finish (fields.taken r
      (((Members.ofList (fields.pairs r)).map Prod.fst).reverse ++ [])) = .ok (fields.values r) :=
    Fields.finish_taken fun key hkey => by simpa using hperm_keys.mem_iff.2 hkey
  rw [Fields.taken_nil] at hvisit
  simp only [record, Value.ofList, hvisit]
  change ((fields.finish _).bind fun values => .ok (build values)) = _
  rw [hfinish]
  exact congrArg Except.ok hbuild

/-! ## Unions -/

namespace Codec

variable {α β : Type}

theorem Case.of_restores {c : Codec β} {b : β} (h : c.Restores b) (name : String) (inject : β → α)
    (stage : Stage) : (Case.of name c inject).read stage (c.write b) = .ok (inject b) := by
  simp [Case.of, h stage, Except.map]

/-- **A union is restored where the case of the value is.** -/
theorem union_restores {type tagKey contentKey : String} {cases : List (Case α)}
    {write : α → String × Value} {a : α} {c : Case α} (hne : tagKey ≠ contentKey)
    (hfind : (cases.find? fun c => c.name == (write a).1) = some c)
    (hread : ∀ stage, c.read stage (write a).2 = .ok a) :
    (union type tagKey contentKey cases write).Restores a := by
  intro stage
  obtain ⟨htag, hcontent⟩ := Members.lookup_pair hne (.string (write a).1) (write a).2
  have hknown : (cases.map Case.name).contains (write a).1 = true := by
    have hname : c.name = (write a).1 := by simpa using List.find?_some hfind
    simpa using ⟨c, List.mem_of_find?_eq_some hfind, hname⟩
  have hcase (stage : Stage) : readCase cases stage (.string (write a).1) (write a).2 = .ok a := by
    simp only [readCase, readName, hknown, if_true, Value.isNull, bind, Except.bind]
    rw [hfind]
    exact hread stage
  simp only [union, Value.ofList, htag, hcontent]
  exact hcase _

end Codec

end ChainIndexer.Json
