import DesignCompiler.Proofs.Document.Slot

/-! A child affects no more of a document than its own slot: two documents that differ in one
element of some list of children are both readable or both not, and are equal elsewhere. -/
namespace DesignCompiler.Document
open Json Json.Decoder Read

/-- What surrounds one child in the value of its parent: the list of children, and the other fields
of the parent, with or without their names. -/
inductive ChildFrame where
  | named (before : List (String × Value)) (pre post : List Value) (after : List (String × Value))
      (alone : ∀ e ∈ before ++ after, e.1 ≠ childrenField)
  | listed (before pre post after : List Value)
      (position : attributes.names.length = before.length)

namespace ChildFrame

/-- The parent with a child put in its place. -/
def plug : ChildFrame → Value → Value
  | named before pre post after _, v =>
    .object (before ++ (childrenField,.array (pre ++ v :: post)) :: after)
  | listed before pre post after _, v => .array (before ++ .array (pre ++ v :: post) :: after)

/-- The children before the place. -/
def pre : ChildFrame → List Value
  | named _ pre _ _ _ => pre
  | listed _ pre _ _ _ => pre

/-- The children after the place. -/
def post : ChildFrame → List Value
  | named _ _ post _ _ => post
  | listed _ _ post _ _ => post

/-- The value that lies so deep inside others. -/
def plugAll (fs : List ChildFrame) (v : Value) : Value := fs.foldr plug v

variable (f : ChildFrame) (v w : Value)

lemma childrenValue?_plug :
    childrenValue? (f.plug v) = some (.array (f.pre ++ v :: f.post)) := by
  cases f with
  | named before pre post after alone =>
    have hnone : before.find? (·.1 == childrenField) = none :=
      List.find?_eq_none.mpr fun e he => by simpa using alone e (List.mem_append_left _ he)
    simp [plug, childrenValue?, List.find?_append, hnone, ChildFrame.pre, ChildFrame.post]
  | listed before pre post after position =>
    rw [plug, childrenValue?, position, List.getElem?_append_right (Nat.le_refl _), Nat.sub_self]
    rfl

lemma get?_plug {k : String} (hk : k ≠ childrenField) : (f.plug v).get? k = (f.plug w).get? k := by
  cases f with
  | named before pre post after alone =>
    have hbeq : (childrenField == k) = false := beq_eq_false_iff_ne.mpr hk.symm
    simp only [plug, Value.get?, List.find?_append, List.find?_cons, hbeq]
  | listed => rfl

/-- The normal form of the parent has that of the child in the place. -/
lemma exists_normal_plug : ∃ g : ChildFrame, g.pre = f.pre.map Value.normal ∧
    g.post = f.post.map Value.normal ∧ ∀ v, (f.plug v).normal = g.plug v.normal := by
  cases f with
  | named before pre post after alone =>
    have hafter : ∀ e ∈ after.map (fun e => (e.1,e.2.normal)), e.1 ≠ childrenField :=
      List.forall_mem_map.mpr fun e he => alone e (List.mem_append_right _ he)
    obtain ⟨before',after',hsplit⟩ :=
      Draft.splits_sortEntries (before.map fun e => (e.1,e.2.normal)) hafter
    have hsorted : Draft.Sorted (before' ++ (childrenField,Value.null) :: after') :=
      hsplit .null ▸ Draft.sorted_sortEntries _
    refine ⟨.named before' (pre.map Value.normal) (post.map Value.normal) after'
      hsorted.ne_of_mem,rfl,rfl,fun v => ?_⟩
    simp only [plug, Value.normal_object, List.map_append, List.map_cons, Value.normal_array,
      hsplit]
  | listed before pre post after position =>
    refine ⟨.listed (before.map Value.normal) (pre.map Value.normal) (post.map Value.normal)
      (after.map Value.normal) (by rwa [List.length_map]),rfl,rfl,fun v => ?_⟩
    simp only [plug, Value.normal_array, List.map_append, List.map_cons]

/-- What lies inside a parent is nested less deep, by its list of children and by itself. -/
lemma nesting_lt {d : ℕ} (h : (f.plug v).nesting < d) :
    1 < d ∧ (Value.array (f.pre ++ v :: f.post)).nesting < d-1 := by
  cases f with
  | named before pre post after alone =>
    obtain ⟨hd,hes⟩ := Value.nesting_object_lt.mp h
    exact ⟨hd,hes (childrenField,_) (List.mem_append_right _ List.mem_cons_self)⟩
  | listed before pre post after position =>
    obtain ⟨hd,hvs⟩ := Value.nesting_array_lt.mp h
    exact ⟨hd,hvs _ (List.mem_append_right _ List.mem_cons_self)⟩

lemma nesting_lt_of_plug {d : ℕ} (h : (f.plug v).nesting < d) : v.nesting < d := by
  obtain ⟨-,hchildren⟩ := f.nesting_lt v h
  have hv := (Value.nesting_array_lt.mp hchildren).2 v (List.mem_append_right _ List.mem_cons_self)
  omega

lemma nesting_lt_of_plugAll (fs : List ChildFrame) {d : ℕ} (h : (plugAll fs v).nesting < d) :
    v.nesting < d := by
  induction fs with
  | nil => exact h
  | cons f fs ih => exact ih (f.nesting_lt_of_plug _ h)

end ChildFrame

open ChildFrame

/-- Two parents that differ in one child are read alike: both fail for the same reason, or they have
the same attributes and their lists of children. -/
lemma agree_parts (f : ChildFrame) {v w : Value} {p : Place} (hv : (f.plug v).nesting < p.room)
    (hw : (f.plug w).nesting < p.room) :
    Agree (fun x y => x.1 = y.1 ∧ x.2 = (f.pre ++ v :: f.post).map Value.normal ∧
        y.2 = (f.pre ++ w :: f.post).map Value.normal)
      (parts p (Draft.ofValue (f.plug v))) (parts p (Draft.ofValue (f.plug w))) := by
  obtain ⟨hp,hv⟩ := f.nesting_lt v hv
  obtain ⟨-,hw⟩ := f.nesting_lt w hw
  have hfields : ∀ q, p.enter = .ok q → ∀ e e' : Present, e.place = q →
      Present.Swapped childrenField (Draft.ofValue (.array (f.pre ++ v :: f.post)))
        (Draft.ofValue (.array (f.pre ++ w :: f.post))) e e' →
      Agree (fun x y => x.1 = y.1 ∧ x.2 = (f.pre ++ v :: f.post).map Value.normal ∧
        y.2 = (f.pre ++ w :: f.post).map Value.normal)
        (nodeFields.read e) (nodeFields.read e') := by
    intro q hq e e' he hs
    obtain ⟨q',hq',hroom⟩ := Place.exists_enter hp
    cases hq.symm.trans hq'
    refine Agree.both (R := fun x y => x = (f.pre ++ v :: f.post).map Value.normal ∧
      y = (f.pre ++ w :: f.post).map Value.normal) ?_ (Fields.agree_field hs ?_)
    · refine Agree.both (.ok ?_) (Agree.of_eq (blind_attributes hs))
      rintro a _ rfl vs ws ⟨hvs,hws⟩
      exact ⟨rfl,hvs,hws⟩
    · rw [he, list_any_ofValue (lt_of_lt_of_le hv hroom),
        list_any_ofValue (lt_of_lt_of_le hw hroom)]
      exact .ok ⟨rfl,rfl⟩
  cases f with
  | named before pre post after alone =>
    have hbefore : ∀ e ∈ before.map (fun e => (e.1,Draft.ofValue e.2)), e.1 ≠ childrenField :=
      List.forall_mem_map.mpr fun e he => alone e (List.mem_append_left _ he)
    have hplug : ∀ u, Draft.ofValue (plug (.named before pre post after alone) u) = .object
        ((before.map fun e => (e.1,Draft.ofValue e.2)).map (fun e => (some e.1,e.2)) ++
          (some childrenField,Draft.ofValue (.array (pre ++ u :: post))) ::
            after.map fun e => (some e.1,Draft.ofValue e.2)) true := by
      intro u
      rw [plug, Draft.ofValue_object, List.map_append, List.map_map]
      rfl
    rw [hplug, hplug, parts_eq, record]
    exact agree_recordAs_object (List.mem_append_right _ List.mem_cons_self) hbefore _ true hfields
  | listed before pre post after position =>
    have hplug : ∀ u, Draft.ofValue (plug (.listed before pre post after position) u) = .array
        (before.map Draft.ofValue ++ Draft.ofValue (.array (pre ++ u :: post)) ::
          after.map Draft.ofValue) true := by
      intro u
      rw [plug, Draft.ofValue_array, List.map_append]
      rfl
    rw [hplug, hplug, parts_eq, record]
    exact agree_recordAs_array names_nodeFields childrenField_notMem_names
      (by rw [position, List.length_map]) _ true hfields

/-- Two slots that are equal, except that at a path below them there is one child or the other. No
such place is left below a child that cannot be read. -/
inductive DifferAt (c c' : Child) : List ℕ → Child → Child → Prop
  | here : DifferAt c c' [] c c'
  | inside (attrs : Attributes) (pre post : List Child) {path : List ℕ} {a a' : Child} :
      DifferAt c c' path a a' →
      DifferAt c c' (pre.length :: path) (.node attrs (pre ++ a :: post))
        (.node attrs (pre ++ a' :: post))
  | lost (i : ℕ) (path : List ℕ) (unread : InvalidChild) :
      DifferAt c c' (i :: path) (.invalid unread) (.invalid unread)

/-- The slots of two parents that differ in one child. -/
lemma differAt_plug {c c' : Child} {path : List ℕ} (f : ChildFrame) {v w : Value}
    (h : DifferAt c c' path (child v) (child w)) (hv : (f.plug v).nesting < UInt64.size)
    (hw : (f.plug w).nesting < UInt64.size) :
    DifferAt c c' (f.pre.length :: path) (child (f.plug v)) (child (f.plug w)) := by
  have hparts := agree_parts (p := .known) f hv hw
  rw [child_eq, child_eq, childrenValue?_plug, childrenValue?_plug, slot, slot, decodeValue,
    decodeValue, f.get?_plug v w (by decide), f.get?_plug v w (by decide)]
  generalize parts .known (Draft.ofValue (f.plug v)) = r at hparts
  generalize parts .known (Draft.ofValue (f.plug w)) = r' at hparts
  cases hparts with
  | error e => cases e <;> exact .lost _ _ _
  | @ok r r' hr =>
    obtain ⟨attrs,vs⟩ := r
    obtain ⟨attrs',ws⟩ := r'
    obtain ⟨rfl,-,-⟩ := hr
    simp only [Option.map_some, Option.getD_some, childrenOf, children_eq_map, List.map_append,
      List.map_cons]
    have hinside := DifferAt.inside attrs (f.pre.map child) (f.post.map child) h
    rw [List.length_map] at hinside
    exact hinside

/-- The slots of two values that differ in one child, so deep inside them. -/
theorem differAt_plugAll (fs : List ChildFrame) {x y : Value}
    (hx : (plugAll fs x).nesting < UInt64.size) (hy : (plugAll fs y).nesting < UInt64.size) :
    DifferAt (child x.normal) (child y.normal) (fs.map (·.pre.length))
      (child (plugAll fs x).normal) (child (plugAll fs y).normal) := by
  induction fs with
  | nil => exact .here
  | cons f fs ih =>
    obtain ⟨g,hpre,-,hg⟩ := f.exists_normal_plug
    have hplug : ∀ v, ((f.plug v).nesting < UInt64.size → v.nesting < UInt64.size) ∧
        ((f.plug v).nesting < UInt64.size → (g.plug v.normal).nesting < UInt64.size) :=
      fun v => ⟨f.nesting_lt_of_plug v,fun h => hg v ▸ Value.nesting_normal_lt h⟩
    have hlength : f.pre.length = g.pre.length := by rw [hpre, List.length_map]
    have hinside := ih ((hplug _).1 hx) ((hplug _).1 hy)
    rw [plugAll, plugAll, List.foldr_cons, List.foldr_cons, hg, hg, List.map_cons, hlength]
    exact differAt_plug g hinside ((hplug _).2 hx) ((hplug _).2 hy)

/-- What surrounds the root in the value of a document. -/
inductive RootFrame where
  | named (before after : List (String × Value)) (alone : ∀ e ∈ before ++ after, e.1 ≠ "document")
  | listed (name : Value) (after : List Value)

/-- The document with a value put in the place of the root. -/
def RootFrame.plug : RootFrame → Value → Value
  | named before after _, v => .object (before ++ ("document",v) :: after)
  | listed name after, v => .array (name :: v :: after)

/-- The place of one element of some list of children in a document: what surrounds the root, and
what surrounds the child of the root, of this child, and so on. -/
structure ChildPlace where
  root : RootFrame
  outermost : ChildFrame
  inner : List ChildFrame

namespace ChildPlace

/-- The document with a value put in the place. -/
def value (l : ChildPlace) (v : Value) : Value :=
  l.root.plug (l.outermost.plug (plugAll l.inner v))

/-- The positions of the children that lead to the place. -/
def path (l : ChildPlace) : List ℕ := l.outermost.pre.length :: l.inner.map (·.pre.length)

end ChildPlace

/-- Two documents that are equal everywhere, except that at a path there is one child or the
other. -/
structure EqualButAt (c c' : Child) (path : List ℕ) (d e : Document) : Prop where
  name : d.name = e.name
  components : d.components = e.components
  componentSets : d.componentSets = e.componentSets
  styles : d.styles = e.styles
  root : DifferAt c c' path d.root.toChild e.root.toChild

/-- The fields of a document. -/
def documentFields : Fields Document :=
  Document.mk <$> Fields.withDefault "name" "" string <*> Fields.required "document" node
    <*> Fields.withDefault "components" [] (table componentMeta)
    <*> Fields.withDefault "componentSets" [] (table componentMeta)
    <*> Fields.withDefault "styles" [] (table styleMeta)

lemma document_eq : document = record "SourceDocument" documentFields := rfl

lemma names_documentFields :
    documentFields.names = ["name"] ++ "document" :: ["components","componentSets","styles"] := rfl

section
variable {c c' : Child} {path : List ℕ} {p : Place} {v w : Value}

/-- Documents whose roots are read alike are read alike. -/
lemma agree_document (r : RootFrame)
    (h : ∀ q, p.enter = .ok q → Agree (fun n n' => DifferAt c c' path n.toChild n'.toChild)
      (node q (Draft.ofValue v)) (node q (Draft.ofValue w))) :
    Agree (EqualButAt c c' path) (document p (Draft.ofValue (r.plug v)))
      (document p (Draft.ofValue (r.plug w))) := by
  have hfields : ∀ q, p.enter = .ok q → ∀ e e' : Present, e.place = q →
      Present.Swapped "document" (Draft.ofValue v) (Draft.ofValue w) e e' →
      Agree (EqualButAt c c' path) (documentFields.read e) (documentFields.read e') := by
    intro q hq e e' he hs
    have hblind : ∀ {α : Type} {name : String} {default : α} {dec : Decoder α},
        name ≠ "document" → Agree Eq ((Fields.withDefault name default dec).read e)
          ((Fields.withDefault name default dec).read e') :=
      fun hn => Agree.of_eq (Fields.blind_withDefault hn hs)
    refine Agree.both (Agree.both (Agree.both (Agree.both (Agree.both
      (R := Eq) (.ok ?_) (hblind (by decide))) (Fields.agree_field hs (he ▸ h q hq)))
      (hblind (by decide))) (hblind (by decide))) (hblind (by decide))
    rintro name _ rfl n n' hn components _ rfl sets _ rfl styles _ rfl
    exact ⟨rfl,rfl,rfl,rfl,hn⟩
  cases r with
  | named before after alone =>
    have hbefore : ∀ e ∈ before.map (fun e => (e.1,Draft.ofValue e.2)), e.1 ≠ "document" :=
      List.forall_mem_map.mpr fun e he => alone e (List.mem_append_left _ he)
    have hplug : ∀ u, Draft.ofValue (RootFrame.plug (.named before after alone) u) = .object
        ((before.map fun e => (e.1,Draft.ofValue e.2)).map (fun e => (some e.1,e.2)) ++
          (some "document",Draft.ofValue u) ::
            after.map fun e => (some e.1,Draft.ofValue e.2)) true := by
      intro u
      rw [RootFrame.plug, Draft.ofValue_object, List.map_append, List.map_map]
      rfl
    rw [hplug, hplug, document_eq, record]
    exact agree_recordAs_object (by decide) hbefore _ true hfields
  | listed name after =>
    have hplug : ∀ u, Draft.ofValue (RootFrame.plug (.listed name after) u) = .array
        ([Draft.ofValue name] ++ Draft.ofValue u :: after.map Draft.ofValue) true := by
      intro u
      rw [RootFrame.plug, Draft.ofValue_array]
      rfl
    rw [hplug, hplug, document_eq, record]
    exact agree_recordAs_array names_documentFields (by decide) rfl _ true hfields

/-- Two roots that differ in one child are read alike. -/
lemma agree_node (f : ChildFrame) (h : DifferAt c c' path (child v.normal) (child w.normal))
    (hv : (f.plug v).nesting < p.room) (hw : (f.plug w).nesting < p.room) :
    Agree (fun n n' => DifferAt c c' (f.pre.length :: path) n.toChild n'.toChild)
      (node p (Draft.ofValue (f.plug v))) (node p (Draft.ofValue (f.plug w))) := by
  refine (agree_parts f hv hw).map ?_
  rintro ⟨attrs,vs⟩ ⟨attrs',ws⟩ ⟨rfl,rfl,rfl⟩
  have hinside := DifferAt.inside attrs ((f.pre.map Value.normal).map child)
    ((f.post.map Value.normal).map child) h
  rw [List.length_map, List.length_map] at hinside
  simp only [Node.toChild, children_eq_map, List.map_append, List.map_cons]
  exact hinside

end

lemma RootFrame.nesting_lt (r : RootFrame) (v : Value) {d : ℕ} (h : (r.plug v).nesting < d) :
    1 < d ∧ v.nesting < d-1 := by
  cases r with
  | named before after alone =>
    obtain ⟨hd,hes⟩ := Value.nesting_object_lt.mp h
    exact ⟨hd,hes ("document",v) (List.mem_append_right _ List.mem_cons_self)⟩
  | listed name after =>
    obtain ⟨hd,hvs⟩ := Value.nesting_array_lt.mp h
    exact ⟨hd,hvs v (List.mem_cons_of_mem _ List.mem_cons_self)⟩

/-- A text denotes a value: it is well formed and spells the value out. -/
def Denotes (s : String) (v : Value) : Prop := Reader.read s = ⟨Draft.ofValue v,true⟩

lemma denotes_of_spells {s : String} {v : Value}
    (h : ((Reader.read s).value.spells v && (Reader.read s).ended) = true) : Denotes s v := by
  obtain ⟨hvalue,hended⟩ := Bool.and_eq_true_iff.mp h
  unfold Denotes
  rw [← Draft.eq_ofValue_of_spells hvalue, ← hended]

lemma read_of_denotes {s : String} {v : Value} (h : Denotes s v) :
    Document.read s =
      (document (.text maxDepth) (Draft.ofValue v)).mapError DocumentError.unreadable := by
  have hdecode : decodeText document s = document (.text maxDepth) (Draft.ofValue v) := by
    rw [decodeText, h]
    cases document (.text maxDepth) (Draft.ofValue v) <;> rfl
  rw [Document.read, hdecode]

/-- Two documents that differ in one element of a list of children, at any depth, are both read or
fail for the same reason. When they are read they are equal everywhere but in the slot of that
element, which holds what the element is on its own. -/
theorem children_isolated (l : ChildPlace) {x y : Value} {s t : String}
    (hs : Denotes s (l.value x)) (ht : Denotes t (l.value y))
    (hx : (l.value x).nesting < maxDepth) (hy : (l.value y).nesting < maxDepth) :
    ∃ c c' : Child, Holds x.normal c ∧ Holds y.normal c' ∧
      Agree (EqualButAt c c' l.path) (Document.read s) (Document.read t) := by
  have hsize : maxDepth ≤ UInt64.size := by decide
  have hroot : ∀ v, (l.value v).nesting < maxDepth →
      (l.outermost.plug (plugAll l.inner v)).nesting < maxDepth-1 :=
    fun v h => (l.root.nesting_lt _ h).2
  have hinner : ∀ v, (l.value v).nesting < maxDepth →
      (plugAll l.inner v).nesting < UInt64.size :=
    fun v h => lt_of_lt_of_le (l.outermost.nesting_lt_of_plug _ (hroot v h)) (by omega)
  have hholds : ∀ v, (l.value v).nesting < maxDepth → Holds v.normal (child v.normal) :=
    fun v h => holds_child v.normal_normal
      (Value.nesting_normal_lt (nesting_lt_of_plugAll v l.inner (hinner v h)))
  refine ⟨child x.normal,child y.normal,hholds x hx,hholds y hy,?_⟩
  rw [read_of_denotes hs, read_of_denotes ht]
  refine Agree.mapError (agree_document l.root fun q hq => ?_) _
  obtain ⟨q',hq',hroom⟩ := Place.exists_enter (p := .text maxDepth) (by decide)
  cases hq.symm.trans hq'
  exact agree_node l.outermost (differAt_plugAll l.inner (hinner x hx) (hinner y hy))
    (lt_of_lt_of_le (hroot x hx) hroom) (lt_of_lt_of_le (hroot y hy) hroom)

/-- A node inside a node inside the root, and in its place one without a kind. -/
theorem children_isolated_kindless :
    let fields (id : String) := [("id",Value.string id),("type",.string "TEXT")]
    let l : ChildPlace := ⟨.named [] [] (by decide),.named (fields "0") [] [] [] (by decide),
      [.named (fields "1") [.null] [] [] (by decide)]⟩
    let x : Value := .object (fields "2")
    let y : Value := .object [("name",.string "B"),("id",.string "2")]
    let s := "\x7b\"document\":\x7b\"id\":\"0\",\"type\":\"TEXT\",\"children\":[\x7b\"id\":\"1\"," ++
      "\"type\":\"TEXT\",\"children\":[null,\x7b\"id\":\"2\",\"type\":\"TEXT\"\x7d]\x7d]\x7d\x7d"
    let t := "\x7b\"document\":\x7b\"id\":\"0\",\"type\":\"TEXT\",\"children\":[\x7b\"id\":\"1\"," ++
      "\"type\":\"TEXT\",\"children\":[null,\x7b\"name\":\"B\",\"id\":\"2\"\x7d]\x7d]\x7d\x7d"
    Denotes s (l.value x) ∧ Denotes t (l.value y) ∧
      ∃ c c' d e, Document.read s = .ok d ∧ Document.read t = .ok e ∧
        EqualButAt c c' [0,1] d e ∧ c.node?.isSome = true ∧
        ∃ reason, c' = .invalid ⟨some "2",some "B",reason⟩ := by
  intro frame l x y s t
  have hs : Denotes s (l.value x) := denotes_of_spells (by decide +kernel)
  have ht : Denotes t (l.value y) := denotes_of_spells (by decide +kernel)
  have hread : (document (.text maxDepth) (Draft.ofValue (l.value x))).isOk = true := by
    decide +kernel
  have hx : (decodeValue node x.normal).isOk = true := by decide +kernel
  have hy : (decodeValue node y.normal).isOk = false := by decide +kernel
  clear_value s t
  refine ⟨hs,ht,?_⟩
  obtain ⟨c,c',hc,hc',hagree⟩ := children_isolated l hs ht (by decide) (by decide)
  refine ⟨c,c',?_⟩
  have hnode : c.node?.isSome = true := by
    cases hd : decodeValue node x.normal with
    | error m =>
      rw [hd] at hx
      contradiction
    | ok n => rw [(hc.node n).mpr hd]; rfl
  have hinvalid : c'.node? = none := by
    cases hn : c'.node? with
    | none => rfl
    | some n =>
      rw [(hc'.node n).mp hn] at hy
      contradiction
  rw [read_of_denotes hs] at hagree ⊢
  generalize document (.text maxDepth) (Draft.ofValue (l.value x)) = r at hread hagree
  generalize Document.read t = r' at hagree
  cases r with
  | error f => contradiction
  | ok d =>
    cases hagree with
    | ok hde => exact ⟨d,_,rfl,rfl,hde,hnode,hc'.invalid hinvalid⟩

end DesignCompiler.Document
