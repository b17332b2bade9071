import DesignCompiler.Json.Decoder
import Mathlib.Data.List.Basic

/-! Records that differ in the value of one field are read alike: the fields that do not look at it
read the same, and a record fails in both or in none when this field does. -/
namespace DesignCompiler.Json

/-- Two results agree: they are the same failure, or successes that stand in a relation. -/
inductive Agree {ε α β : Type} (R : α → β → Prop) : Except ε α → Except ε β → Prop
  | error (e : ε) : Agree R (.error e) (.error e)
  | ok {a : α} {b : β} : R a b → Agree R (.ok a) (.ok b)

namespace Agree
variable {ε ε' α β γ δ : Type} {R : α → β → Prop} {S : γ → δ → Prop}

lemma of_eq {x y : Except ε α} (h : x = y) : Agree Eq x y := by
  rw [h]
  cases y with
  | error e => exact .error e
  | ok a => exact .ok rfl

lemma map {x : Except ε α} {y : Except ε β} {f : α → γ} {g : β → δ} (h : Agree R x y)
    (hf : ∀ a b, R a b → S (f a) (g b)) : Agree S (x.map f) (y.map g) := by
  cases h with
  | error e => exact .error e
  | ok hr => exact .ok (hf _ _ hr)

lemma mapError {x : Except ε α} {y : Except ε β} (h : Agree R x y) (f : ε → ε') :
    Agree R (x.mapError f) (y.mapError f) := by
  cases h with
  | error e => exact .error (f e)
  | ok hr => exact .ok hr

/-- Of two faults the first in the text is reported, in both. -/
lemma both {f : Except (ℕ × Fault) (α → γ)} {g : Except (ℕ × Fault) (β → δ)}
    {x : Except (ℕ × Fault) α} {y : Except (ℕ × Fault) β}
    (hf : Agree (fun f g => ∀ a b, R a b → S (f a) (g b)) f g) (hx : Agree R x y) :
    Agree S (Fields.both f x) (Fields.both g y) := by
  cases hf with
  | error e =>
    cases hx with
    | error e' => exact .error _
    | ok hr => exact .error e
  | ok hfg =>
    cases hx with
    | error e' => exact .error e'
    | ok hr => exact .ok (hfg _ _ hr)

lemma firstFault {x : Except (ℕ × Fault) α} {y : Except (ℕ × Fault) β} (h : Agree R x y)
    (faults : List (ℕ × Fault)) :
    Agree R (Decoder.firstFault faults x) (Decoder.firstFault faults y) := by
  cases h with
  | error e =>
    cases faults with
    | nil => exact .error _
    | cons f fs => exact .error _
  | ok hr =>
    cases faults with
    | nil => exact .ok hr
    | cons f fs => exact .error _

end Agree

/-! ## Fields -/

/-- The entries of two records differ only in what stands under a key. -/
structure Present.Swapped (k : String) (d d' : Draft) (e e' : Present) : Prop where
  place : e.place = e'.place
  absent : e.absent = e'.absent
  absentOption : e.absentOption = e'.absentOption
  entries : ∃ pos before after, (∀ x ∈ before, x.2.1 ≠ k) ∧
    e.entries = before ++ (pos,k,d) :: after ∧ e'.entries = before ++ (pos,k,d') :: after

namespace Present.Swapped
variable {k : String} {d d' : Draft} {e e' : Present}

lemma last (h : Swapped k d d' e e') : e.last = e'.last := by
  obtain ⟨pos,before,after,-,he,he'⟩ := h.entries
  rw [Present.last, Present.last, he, he']
  simp only [List.map_append, List.map_cons]

lemma find?_of_ne (h : Swapped k d d' e e') {name : String} (hn : name ≠ k) :
    e.find? name = e'.find? name := by
  obtain ⟨pos,before,after,-,he,he'⟩ := h.entries
  have hk : (k == name) = false := beq_eq_false_iff_ne.mpr hn.symm
  rw [Present.find?, Present.find?, he, he', List.find?_append, List.find?_append]
  simp only [List.find?_cons, hk]

lemma find?_self (h : Swapped k d d' e e') :
    ∃ pos, e.find? k = some (pos,d) ∧ e'.find? k = some (pos,d') := by
  obtain ⟨pos,before,after,hk,he,he'⟩ := h.entries
  have hnone : before.find? (·.2.1 == k) = none :=
    List.find?_eq_none.mpr fun x hx => by simpa using hk x hx
  refine ⟨pos,?_⟩
  rw [Present.find?, Present.find?, he, he', List.find?_append, List.find?_append, hnone]
  simp

end Present.Swapped

namespace Fields
open Present
variable {α β : Type} {k : String}

lemma read_field_of_some {name : String} {dec : Decoder α} {absent : Present → Except Fault α}
    {e : Present} {pos : ℕ} {d : Draft} (h : e.find? name = some (pos,d)) :
    (field name dec absent).read e = (dec e.place d).mapError (pos,·) := by
  simp only [field, h]

lemma read_field_of_none {name : String} {dec : Decoder α} {absent : Present → Except Fault α}
    {e : Present} (h : e.find? name = none) :
    (field name dec absent).read e = (absent e).mapError (e.last,·) := by
  simp only [field, h]

/-- Fields that do not look at a key. -/
def Blind (k : String) (f : Fields α) : Prop :=
  ∀ ⦃d d' : Draft⦄ ⦃e e' : Present⦄, Swapped k d d' e e' → f.read e = f.read e'

lemma blind_pure (a : α) : Blind k (pure a : Fields α) := fun _ _ _ _ _ => rfl

lemma Blind.seq {f : Fields (α → β)} {x : Fields α} (hf : Blind k f) (hx : Blind k x) :
    Blind k (f <*> x) := fun _ _ _ _ h => congrArg₂ Fields.both (hf h) (hx h)

lemma Blind.map {x : Fields α} (hx : Blind k x) (f : α → β) : Blind k (f <$> x) :=
  (blind_pure f).seq hx

lemma blind_field {name : String} {dec : Decoder α} {absent : Present → Except Fault α}
    (hn : name ≠ k)
    (ha : ∀ ⦃d d' : Draft⦄ ⦃e e' : Present⦄, Swapped k d d' e e' → absent e = absent e') :
    Blind k (field name dec absent) := by
  intro d d' e e' h
  unfold field
  simp only [h.find?_of_ne hn, h.place, ha h, h.last]

lemma blind_required {name : String} {dec : Decoder α} (hn : name ≠ k) :
    Blind k (required name dec) :=
  blind_field hn fun _ _ _ _ h => by rw [h.absent]

lemma blind_withDefault {name : String} {default : α} {dec : Decoder α} (hn : name ≠ k) :
    Blind k (withDefault name default dec) :=
  blind_field hn fun _ _ _ _ _ => rfl

/-- The field that is swapped is read alike if its values are. -/
lemma agree_field {R : α → α → Prop} {dec : Decoder α} {absent : Present → Except Fault α}
    {d d' : Draft} {e e' : Present} (h : Swapped k d d' e e')
    (hd : Agree R (dec e.place d) (dec e.place d')) :
    Agree R ((field k dec absent).read e) ((field k dec absent).read e') := by
  obtain ⟨pos,he,he'⟩ := h.find?_self
  rw [read_field_of_some he, read_field_of_some he', ← h.place]
  exact hd.mapError _

end Fields

/-! ## Records -/

namespace Decoder
open Present
variable {α : Type} {R : α → α → Prop} {form k : String} {fields : Fields α} {p : Place}
  {d d' : Draft}

lemma entryFaults_append_cons {names : List String} (hk : k ∈ names)
    (before after : List (Option String × Draft)) (d d' : Draft) (seen : List String) (i : ℕ) :
    entryFaults names seen i (before ++ (some k,d) :: after) =
      entryFaults names seen i (before ++ (some k,d') :: after) := by
  induction before generalizing seen i with
  | nil =>
    have hmem : names.contains k = true := List.contains_iff_mem.mpr hk
    simp only [List.nil_append, entryFaults, hmem, if_true]
  | cons e before ih =>
    obtain ⟨k',d''⟩ := e
    cases k' with
    | none => rfl
    | some k' => simp only [List.cons_append, entryFaults, ih]

lemma knownEntries_append_cons {names : List String} (hk : k ∈ names)
    (before : List (String × Draft)) (after : List (Option String × Draft)) (d : Draft) (i : ℕ) :
    knownEntries names i (before.map (fun e => (some e.1,e.2)) ++ (some k,d) :: after) =
      knownEntries names i (before.map fun e => (some e.1,e.2)) ++
        (2*(i+before.length)+1,k,d) :: knownEntries names (i+before.length+1) after := by
  induction before generalizing i with
  | nil =>
    have hmem : names.contains k = true := List.contains_iff_mem.mpr hk
    simp only [List.map_nil, List.nil_append, knownEntries, hmem, if_true, List.length_nil,
      Nat.add_zero]
  | cons e before ih =>
    have hi : i+1+before.length = i+(before.length+1) := by omega
    simp only [List.map_cons, List.cons_append, knownEntries, ih, List.length_cons, hi]
    split <;> rfl

lemma ne_of_mem_knownEntries {names : List String} {before : List (String × Draft)}
    (h : ∀ e ∈ before, e.1 ≠ k) (i : ℕ) :
    ∀ x ∈ knownEntries names i (before.map fun e => (some e.1,e.2)), x.2.1 ≠ k := by
  induction before generalizing i with
  | nil => exact List.forall_mem_nil _
  | cons e before ih =>
    obtain ⟨he,hbefore⟩ := List.forall_mem_cons.mp h
    rw [List.map_cons, knownEntries]
    split
    · exact List.forall_mem_cons.mpr ⟨he,ih hbefore (i+1)⟩
    · exact ih hbefore (i+1)

/-- Two objects that differ in the value of one field are read alike if the fields are. -/
theorem agree_recordAs_object (hk : k ∈ fields.names) {before : List (String × Draft)}
    (hbefore : ∀ e ∈ before, e.1 ≠ k) (after : List (Option String × Draft)) (closed : Bool)
    (hfields : ∀ q, p.enter = .ok q → ∀ e e' : Present, e.place = q → Swapped k d d' e e' →
      Agree R (fields.read e) (fields.read e')) :
    Agree R
      (recordAs form fields p
        (.object (before.map (fun e => (some e.1,e.2)) ++ (some k,d) :: after) closed))
      (recordAs form fields p
        (.object (before.map (fun e => (some e.1,e.2)) ++ (some k,d') :: after) closed)) := by
  unfold recordAs
  cases hp : p.enter with
  | error f => exact .error f
  | ok q =>
    simp only [entryFaults_append_cons hk _ after d d', List.length_append, List.length_map,
      List.length_cons]
    refine Agree.firstFault (hfields q hp _ _ ?_ ?_) _
    · rfl
    refine ⟨rfl,rfl,rfl,2*(0+before.length)+1,knownEntries fields.names 0 _,
      knownEntries fields.names (0+before.length+1) after ++
        [(2*(before.length+(after.length+1)),"",.null)],
      ne_of_mem_knownEntries hbefore 0,?_,?_⟩
    · rw [knownEntries_append_cons hk, List.append_assoc, List.cons_append]
    · rw [knownEntries_append_cons hk, List.append_assoc, List.cons_append]

lemma positional_append_cons {ns ms : List String} {before after : List Draft}
    (hl : ns.length = before.length) (d : Draft) (i : ℕ) :
    positional i (ns ++ k :: ms) (before ++ d :: after) =
      positional i ns before ++
        (2*(i+before.length)+1,k,d) :: positional (i+before.length+1) ms after := by
  induction before generalizing ns i with
  | nil =>
    rw [List.length_eq_zero_iff.mp hl]
    rfl
  | cons d' before ih =>
    obtain ⟨n,ns,rfl⟩ := List.exists_cons_of_length_eq_add_one hl
    have hi : i+1+before.length = i+(before.length+1) := by omega
    simp only [List.cons_append, positional, ih (Nat.succ.inj hl), hi, List.length_cons]

lemma mem_of_mem_positional {names : List String} {ds : List Draft} {i : ℕ} :
    ∀ x ∈ positional i names ds, x.2.1 ∈ names := by
  induction names generalizing i ds with
  | nil =>
    rw [positional]
    · exact List.forall_mem_nil _
    · simp
  | cons n names ih =>
    cases ds with
    | nil => exact List.forall_mem_nil _
    | cons d ds =>
      rw [positional]
      exact List.forall_mem_cons.mpr
        ⟨List.mem_cons_self,fun x hx => List.mem_cons_of_mem _ (ih x hx)⟩

/-- Two lists that differ in the value of one field are read alike if the fields are. -/
theorem agree_recordAs_array {ns ms : List String} (hnames : fields.names = ns ++ k :: ms)
    (hk : k ∉ ns) {before : List Draft} (hl : ns.length = before.length) (after : List Draft)
    (closed : Bool)
    (hfields : ∀ q, p.enter = .ok q → ∀ e e' : Present, e.place = q → Swapped k d d' e e' →
      Agree R (fields.read e) (fields.read e')) :
    Agree R (recordAs form fields p (.array (before ++ d :: after) closed))
      (recordAs form fields p (.array (before ++ d' :: after) closed)) := by
  unfold recordAs
  cases hp : p.enter with
  | error f => exact .error f
  | ok q =>
    simp only [List.length_append, List.length_cons]
    refine Agree.firstFault (hfields q hp _ _ ?_ ?_) _
    · rfl
    refine ⟨rfl,rfl,rfl,2*(0+before.length)+1,positional 0 ns before,
      positional (0+before.length+1) ms after ++ [(2*(before.length+(after.length+1)),"",.null)],
      fun x hx => ne_of_mem_of_not_mem (mem_of_mem_positional x hx) hk,?_,?_⟩
    · rw [hnames, positional_append_cons hl, List.append_assoc, List.cons_append]
    · rw [hnames, positional_append_cons hl, List.append_assoc, List.cons_append]

end Decoder

end DesignCompiler.Json
