import DesignCompiler.Proofs.Markup.ScriptStrings
import DesignCompiler.Proofs.Project.Success
import DesignCompiler.Proofs.UserBlocks.Marker

/-! The literals in which defaults and enum values are written. They are read back from the
parameters and the types of a component unless a carriage return stands in them, and they differ
wherever the texts do. -/
namespace DesignCompiler.Project
open Document Markup Output

/-! ## Reading -/

/-- The default of a prop that is written as a literal: a text, or for an enum its first value if it
has no default of its own. -/
def textDefault? (p : PropDef) : Option String :=
  match p.type with
  | .string => p.default
  | .enum => p.default.orElse fun _ => p.values.head?
  | .boolean | .node => none

/-- The text that a parameter gives to the prop of a name. -/
def givenText? (name parameter : String) : Option String :=
  (Text.afterPrefix? (name ++ " = ").toList parameter.toList).bind fun cs =>
    scriptText? (String.ofList cs)

/-- The text of the first literal of a union type, and what comes after the bar behind it. -/
def unionMember? : List Char → Option (String × List Char)
  | '\'' :: cs =>
    match scriptRest? cs with
    | some (text,[]) => some (String.ofList text,[])
    | some (text,' ' :: '|' :: ' ' :: c :: rest) => some (String.ofList text,c :: rest)
    | _ => none
  | _ => none

/-- The texts of a union type of literals. -/
def unionTexts? (type : String) : Option (List String) := Text.readAll? unionMember? type.toList

/-! ## Defaults -/

lemma paramText_eq {p : PropDef} {v : String} (h : textDefault? p = some v) :
    paramText p = p.name ++ " = " ++ scriptString v := by
  have hdefault : defaultText p = some (scriptString v) := by
    unfold textDefault? at h
    unfold defaultText
    cases hp : p.type with
    | string | enum =>
      simp only [hp] at h ⊢
      rw [h]
      rfl
    | boolean | node => simp [hp] at h
  rw [paramText, hdefault]

theorem givenText?_paramText {p : PropDef} {v : String} (h : textDefault? p = some v) :
    givenText? p.name (paramText p) = if '\r' ∈ v.toList then none else some v := by
  have hsplit : (paramText p).toList = (p.name ++ " = ").toList ++ (scriptString v).toList := by
    rw [paramText_eq h, String.toList_append]
  rw [givenText?, UserBlocks.afterPrefix?_eq_some.mpr hsplit, Option.bind_some,
    String.ofList_toList, scriptText?_scriptString]

/-! ## Union types -/

/-- The characters of a union type. -/
def unionChars (vs : List String) : List Char := (" | ".intercalate (vs.map scriptString)).toList

@[simp] lemma unionChars_nil : unionChars [] = [] := by simp [unionChars]

lemma unionChars_cons (v : String) (vs : List String) :
    unionChars (v :: vs) = '\'' :: (v.toList.flatMap scriptChar ++ '\'' ::
      if vs.isEmpty then [] else ' ' :: '|' :: ' ' :: unionChars vs) := by
  cases vs with
  | nil => simp [unionChars, scriptString, scriptStringChars]
  | cons w vs => simp [unionChars, scriptString, scriptStringChars]

/-- The first literal of a union type is read unless a carriage return stands in its text. -/
lemma unionMember?_unionChars (v : String) (vs : List String) :
    unionMember? (unionChars (v :: vs)) =
      if '\r' ∈ v.toList then none else some (v,unionChars vs) := by
  rw [unionChars_cons]
  simp only [unionMember?, scriptRest?_flatMap_scriptChar]
  by_cases hv : '\r' ∈ v.toList
  · simp only [if_pos hv]
  · cases vs with
    | nil => simp [hv]
    | cons w vs => simp [hv, unionChars_cons w vs]

/-- A union type is read as its texts exactly if no carriage return stands in one of them. -/
theorem unionTexts?_iff (vs : List String) :
    unionTexts? (" | ".intercalate (vs.map scriptString)) = some vs ↔
      ∀ v ∈ vs, '\r' ∉ v.toList := by
  change Text.readAll? unionMember? (unionChars vs) = some vs ↔ _
  induction vs with
  | nil => simp
  | cons v vs ih =>
    have hstep : ∀ rest, unionMember? (unionChars (v :: vs)) = some (v,rest) ↔
        '\r' ∉ v.toList ∧ rest = unionChars vs := by
      intro rest
      rw [unionMember?_unionChars]
      by_cases hv : '\r' ∈ v.toList <;> simp [hv, eq_comm]
    have hshorter : (unionChars vs).length < (unionChars (v :: vs)).length := by
      rw [unionChars_cons]
      simp only [List.length_cons, List.length_append]
      cases vs with
      | nil => simp
      | cons w vs =>
        simp only [List.isEmpty_cons, Bool.false_eq_true, if_false, List.length_cons]
        omega
    rw [Text.readAll?_eq_cons_iff hshorter hstep, ih, List.forall_mem_cons]

/-! ## Files -/

/-- What fills in a field stands in the text. -/
lemma infix_render? {value? : String → Option String} {t : Template} {name v s : String}
    (hname : name ∈ t.fieldNames) (hv : value? name = some v) (h : t.render? value? = some s) :
    v.toList <:+: s.toList := by
  induction t generalizing s with
  | nil => nomatch hname
  | cons part t ih =>
    cases part with
    | text u =>
      obtain ⟨more,hmore,rfl⟩ := Option.map_eq_some_iff.mp h
      rw [String.toList_append]
      exact (ih hname hmore).trans (List.suffix_append _ _).isInfix
    | field name' =>
      rw [Template.render?] at h
      split at h
      · next u more hu hmore =>
        cases h
        rw [String.toList_append]
        obtain rfl | hname := List.mem_cons.mp hname
        · rw [hv] at hu
          cases hu
          exact (List.prefix_append _ _).isInfix
        · exact (ih hname hmore).trans (List.suffix_append _ _).isInfix
      · contradiction

/-- What a field has stands in the text that is filled in with it. -/
lemma infix_fillIn {t : Template} {fields : List (String × String)} {v : String} (name : String)
    (ht : t.fieldNames ⊆ fields.map (·.1)) (hname : name ∈ t.fieldNames)
    (hv : (fields.find? (·.1 == name)).map (·.2) = some v) :
    v.toList <:+: (fillIn t fields).toList := by
  obtain ⟨s,hs⟩ := exists_render?_of_fields ht
  rw [fillIn, hs, Option.getD_some]
  exact infix_render? hname hv hs

section
variable {o : ConvertOptions} {name : String} {props : List PropDef} {m : DesignCompiler.Markup}
  {p : PropDef}

/-- A text inside another stands inside whatever is put around that. -/
lemma infix_around {s t : String} (h : s.toList <:+: t.toList) (before after : String) :
    s.toList <:+: (before ++ t ++ after).toList := by
  rw [String.toList_append, String.toList_append]
  exact h.trans (List.infix_append _ _ _)

/-- Each prop stands among the parameters in the file of its component. -/
lemma infix_componentFile (hp : p ∈ props) (depth : ℕ) (imports : List String) :
    (paramText p).toList <:+: (componentFile o name props m depth imports).content.toList := by
  have hmem : paramText p ∈ props.map paramText ++ m.collections.map collectionParam :=
    List.mem_append_left _ (List.mem_map_of_mem hp)
  have hfields : (props.map paramText ++ m.collections.map collectionParam).isEmpty = false := by
    rw [List.isEmpty_eq_false_iff]
    exact List.ne_nil_of_mem hmem
  have hparams : (paramText p).toList <:+: (paramsText o name props m).toList := by
    rw [paramsText, hfields, if_neg Bool.false_ne_true, String.append_assoc]
    exact infix_around (Text.infix_intercalate hmem) _ _
  refine hparams.trans (infix_fillIn "params" ?_ ?_ ?_)
  · simp [Template.fieldNames, Template.component, componentFields]
  · decide
  · rfl

/-- The type of each prop stands in the file of types. -/
lemma infix_typesFile (hp : p ∈ props) {f : GeneratedFile} (hf : f ∈ typesFile o name props m) :
    ("  " ++ p.name ++ "?: " ++ typeText p ++ ";").toList <:+: f.content.toList := by
  have hmem : "  " ++ p.name ++ "?: " ++ typeText p ++ ";" ∈ typeFields props m :=
    List.mem_append_left _ (List.mem_map_of_mem hp)
  have hfields : (typeFields props m).isEmpty = false := by
    rw [List.isEmpty_eq_false_iff]
    exact List.ne_nil_of_mem hmem
  unfold typesFile at hf
  split at hf
  · cases hf
    rw [hfields, if_neg Bool.false_ne_true]
    refine (infix_around (Text.infix_intercalate hmem) _ _).trans (infix_fillIn "body" ?_ ?_ rfl)
    · simp [Template.fieldNames, Template.types]
    · decide
  · contradiction

end

/-! ## The literals of a prop -/

/-- A prop stands in the files of its component with its default and its type. The literal of its
default is read as that default, and the literals of its values as these values, exactly if no
carriage return stands in the texts. Literals are equal only for equal texts. -/
theorem prop_literals_read_back_iff (o : ConvertOptions) (name : String) {props : List PropDef}
    (m : DesignCompiler.Markup) (depth : ℕ) (imports : List String) {p : PropDef} (hp : p ∈ props) :
    (paramText p).toList <:+: (componentFile o name props m depth imports).content.toList ∧
      (∀ f ∈ typesFile o name props m,
        ("  " ++ p.name ++ "?: " ++ typeText p ++ ";").toList <:+: f.content.toList) ∧
      (∀ v, textDefault? p = some v →
        (givenText? p.name (paramText p) = some v ↔ '\r' ∉ v.toList)) ∧
      (p.type = .enum →
        (unionTexts? (typeText p) = some p.values ↔ ∀ v ∈ p.values, '\r' ∉ v.toList)) ∧
      ∀ v w, scriptString v = scriptString w → v = w := by
  refine ⟨infix_componentFile hp depth imports,fun f hf => infix_typesFile hp hf,?_,?_,?_⟩
  · intro v hv
    rw [givenText?_paramText hv]
    by_cases hreturn : '\r' ∈ v.toList <;> simp [hreturn]
  · intro htype
    rw [typeText, htype]
    exact unionTexts?_iff p.values
  · exact fun v w h => scriptString_injective h

/-- Quotes, bars, backslashes and line feeds in the values of an enum do not mix up its type. -/
theorem prop_literals_read_back_iff_size :
    let p : PropDef := ⟨"size",.enum,["a' | 'b","c\\\n"],none⟩
    let m : DesignCompiler.Markup := ⟨"Badge",.comment "",[]⟩
    let f := componentFile .standard "Badge" [p] m markupDepth []
    typeText p = "'a\\' | \\'b' | 'c\\\\\\n'" ∧ unionTexts? (typeText p) = some p.values ∧
      paramText p = "size = 'a\\' | \\'b'" ∧ givenText? "size" (paramText p) = some "a' | 'b" ∧
      (paramText p).toList <:+: f.content.toList := by
  intro p m f
  obtain ⟨hfile,-,hdefault,hvalues,-⟩ :=
    prop_literals_read_back_iff .standard "Badge" m markupDepth [] (List.mem_singleton_self p)
  refine ⟨by decide +kernel,(hvalues rfl).mpr ?_,by decide +kernel,(hdefault _ rfl).mpr ?_,hfile⟩
  all_goals decide +kernel

/-- A carriage return in the default of a text property is written as it is, so that the file has no
literal for it. -/
theorem carriage_return_in_literal :
    let root := { Attributes.bare "0" "Badge" .component with
      propertyDefinitions := [("Label",⟨.text,.string "a\rb",[]⟩)] }
    let d : Document := .ofRoot ⟨root,[]⟩
    let t : Target := ⟨d.root,"Badge"⟩
    (convert .standard d).isOk = true ∧
      (nameTargets [] (targetNodes .standard d).1).map (fun t => (t.node.attrs.id,t.name)) =
        [("0","Badge")] ∧
      (t.tree d).head.props = [.string "label" (some "a\rb")] ∧
      paramText (.string "label" (some "a\rb")) = "label = 'a\rb'" ∧
      scriptText? "'a\rb'" = none := by
  refine ⟨?_,?_,?_,?_,?_⟩ <;> decide +kernel

end DesignCompiler.Project
