import DesignCompiler.Proofs.FromDesign.Overrides
import DesignCompiler.Proofs.Project.Instances

/-! The attributes of instances and the types of the props that they set. An attribute is written by
the kind of a property of the instance, and the type of a prop is found from the component, so the
two can disagree. -/
namespace DesignCompiler

/-! ## Attributes -/

namespace Markup
open FromDesign

/-- Whether a text is an attribute for a prop of a type. A boolean is set by its name alone, or to
false; a text is set to a string. Nothing is asked of an attribute for a node. -/
def WrittenAs (name text : String) : PropType → Prop
  | .boolean => text = " " ++ name ∨ text = attributeText name "\x7bfalse\x7d"
  | .string | .enum => ∃ s, text = attributeText name (attributeValue s)
  | .node => True

section
variable {name a b : String}

lemma attributeText_inj : attributeText name a = attributeText name b ↔ a = b := by
  rw [attributeText, attributeText, String.append_right_inj]

lemma attributeText_ne_name : attributeText name a ≠ " " ++ name := by
  intro h
  have hlength := congrArg String.length h
  simp only [attributeText, String.length_append] at hlength
  have hequals : "=".length = 1 := rfl
  omega

/-- A string in braces begins with a quote, so it is not the value false. -/
lemma attributeValue_ne_false (s : String) : attributeValue s ≠ "\x7bfalse\x7d" := by
  intro h
  have hchars : attributeChars s.toList = "\x7bfalse\x7d".toList := by
    rw [← h, attributeValue, String.toList_ofList]
  unfold attributeChars at hchars
  split at hchars
  · exact absurd (List.cons.inj (List.cons.inj hchars).2).1 (by decide)
  · exact absurd (List.cons.inj hchars).1 (by decide)

/-- A value is written as an attribute for the types that it has. -/
theorem writtenAs_overrideText {type : PropType} {v : OverrideValue} :
    WrittenAs name (overrideText name v) type ↔ Fits type v := by
  cases v with
  | text s => cases type <;> simp [WrittenAs, overrideText, Fits, attributeText_ne_name,
      attributeText_inj, attributeValue_ne_false]
  | bool b =>
    cases b <;> cases type <;> simp [WrittenAs, overrideText, Fits, attributeText_ne_name.symm,
      attributeText_inj, (attributeValue_ne_false _).symm]

end

end Markup

namespace Project
open Document FromDesign Styling Markup Output

/-- A property of an instance's node that gives a value to a prop of a name. The node is one of
those below a component, or the component itself. -/
structure GivenBy (n : Node) (h : ElementHead) (name : String) (v : OverrideValue)
    (p : PropertyValue) : Prop where
  value : overrideOf p = some v
  source : ∃ a cs key, .node a cs ∈ n.toChild.subtrees ∧ a.id = h.sourceId ∧
    a.componentId = h.instanceOf.map (·.componentId) ∧ (key,p) ∈ a.componentProperties ∧
    Naming.propIdentifier key = name

section
variable {o : ConvertOptions} {d : Document} {t t' : Target}

lemma exists_givenBy {h : ElementHead} {i : InstanceRef} {name : String} {v : OverrideValue}
    (hh : h ∈ instances (registryOf d) (t.tree d)) (hi : h.instanceOf = some i)
    (hv : (name,v) ∈ i.overrides) : ∃ p, GivenBy t.node h name v p := by
  obtain ⟨a,cs,hnode,hid,hcomponent,hoverrides⟩ := instanceFrom_of_mem_walk (registryOf d) (some d.styles)
    t.node (mem_walk_of_mem_instances hh).1 i hi
  obtain ⟨key,p,hp,hname,hvalue⟩ := exists_of_mem_overridesOf (hoverrides ▸ hv)
  refine ⟨p,hvalue,a,cs,key,hnode,hid,?_,hp,hname⟩
  rw [hcomponent, hi, Option.map_some]

/-- In the file of a component, each instance that is shown has an attribute for each of its values.
If a component has a prop of that name, the attribute has the type of the prop exactly if both the
prop and the property that gives the value are booleans or neither is. If the property has the kind
as which the component declares the prop, this is so unless the prop is a boolean that variants
make. -/
theorem attribute_fits_prop_iff {out : ConversionOutput} (hc : convert o d = .ok out)
    (ht : t ∈ nameTargets [] (targetNodes o d).1)
    {h : ElementHead} {i : InstanceRef} (hh : h ∈ instances (registryOf d) (t.tree d))
    (hi : h.instanceOf = some i) {q : PropDef} (hq : q ∈ (t'.tree d).head.props)
    {v : OverrideValue} (hv : (q.name,v) ∈ i.overrides) :
    (∃ f ∈ out.files, f.path = o.componentPath (t.name ++ "." ++ o.componentExt) ∧
      f.content = (t.preamble o d).fileText o (t.built o d).2 ∧
      ∃ keyed, .component h.tag i.overrides keyed ∈ (t.built o d).2.root.subtrees) ∧
    (∃ kind, DeclaredAs t'.node q kind) ∧
    ∃ p, GivenBy t.node h q.name v p ∧
      (q.type ≠ .node → (WrittenAs q.name (overrideText q.name v) q.type ↔
        (q.type = .boolean ↔ p.kind = .boolean))) ∧
      (DeclaredAs t'.node q p.kind → (WrittenAs q.name (overrideText q.name v) q.type ↔
        ¬ (q.type = .boolean ∧ p.kind = .variant))) := by
  obtain ⟨p,hp⟩ := exists_givenBy hh hi hv
  rw [Target.tree, props_build] at hq
  obtain ⟨f,hf,-,hpath,hcontent⟩ := exists_file_of_target hc ht
  refine ⟨⟨f,hf,hpath,hcontent,?_⟩,exists_declaredAs hq,p,hp,?_,?_⟩
  · exact exists_component_markup (Target.setting o d) _ false hh hi
  · intro htype
    rw [writtenAs_overrideText, fits_iff hp.value htype]
  · intro hdeclared
    rw [writtenAs_overrideText, fits_iff_of_declaredAs hp.value hdeclared]

end

/-- A set of two toggles, whose property is on or off by its values. -/
def toggleTarget (on off : String) : Target :=
  ⟨⟨.bare "1" "Toggle" .componentSet,[.node (.bare "2" ("On=" ++ on) .component) [],
    .node (.bare "3" ("On=" ++ off) .component) []]⟩,"Toggle"⟩

/-- A panel with a toggle that is off. -/
def panelTarget (off : String) : Target :=
  ⟨⟨.bare "4" "Panel" .component,
    [.node { Attributes.bare "5" "Toggle" .componentInstance with
      componentId := some "3", componentProperties := [("On",⟨.variant,.string off⟩)] } []]⟩,
    "Panel"⟩

/-- A page with the toggles and the panel. -/
def togglePage (on off : String) : Document :=
  .ofRoot ⟨.bare "0" "Page" .frame,
    [(toggleTarget on off).node.toChild,(panelTarget off).node.toChild]⟩

/-- Values that are no truth values make an enum, and the toggle of the panel has one of them. -/
theorem attribute_fits_prop_iff_choice :
    let d := togglePage "Yes" "No"
    let o := ConvertOptions.standard
    let panel := panelTarget "No"
    ∃ out, convert o d = .ok out ∧
      (∃ f ∈ out.files, f.path = "components/Panel.tsx" ∧
        f.content = (panel.preamble o d).fileText o (panel.built o d).2 ∧ ∃ keyed,
        .component "Toggle" [("on",.text "No")] keyed ∈ (panel.built o d).2.root.subtrees) ∧
      WrittenAs "on" (overrideText "on" (.text "No")) .enum := by
  intro d o panel
  let toggle := toggleTarget "Yes" "No"
  let q : PropDef := ⟨"on",.enum,["Yes","No"],some "Yes"⟩
  obtain ⟨out,hc⟩ : ∃ out, convert o d = .ok out := exists_of_isOk (by decide +kernel)
  have htoggle : Naming.fresh [] (Naming.componentIdentifier "Toggle") = "Toggle" := by
    decide +kernel
  have hpanel : Naming.fresh ["Toggle"] (Naming.componentIdentifier "Panel") = "Panel" := by
    decide +kernel
  have ht : panel ∈ nameTargets [] (targetNodes o d).1 := by
    change panel ∈ nameTargets [] [toggle.node,panel.node]
    rw [nameTargets_cons htoggle (n := toggle.node) rfl, List.nil_append,
      nameTargets_cons hpanel (n := panel.node) rfl]
    exact List.mem_cons_of_mem _ List.mem_cons_self
  have hpath : o.componentPath "Panel.tsx" = "components/Panel.tsx" := by decide +kernel
  have hinstances : (instances (registryOf d) (panel.tree d)).map (fun h => (h.tag,h.instanceOf)) =
      [("Toggle",some ⟨"3",[("on",.text "No")]⟩)] := by decide +kernel
  have hq : q ∈ (toggle.tree d).head.props := by decide +kernel
  obtain ⟨h,hh,he⟩ := List.mem_map.mp (hinstances ▸ List.mem_singleton_self _)
  obtain ⟨htag,hi⟩ := Prod.mk.inj he
  obtain ⟨⟨f,hf,hfile,hcontent,hshown⟩,-,p,hp,hfits,-⟩ :=
    attribute_fits_prop_iff hc ht hh hi hq (List.mem_singleton_self _)
  rw [htag] at hshown
  refine ⟨out,hc,⟨f,hf,hfile.trans hpath,hcontent,hshown⟩,(hfits (by decide)).mpr ?_⟩
  obtain ⟨-,b,hb⟩ | ⟨hk | hk,-⟩ := overrideOf_cases hp.value
  · cases hb
  · simp [q, hk]
  · simp [q, hk]

/-- Truth values make a boolean, and the toggle of the panel has one of them as a string. -/
theorem string_attribute_for_boolean :
    let d := togglePage "True" "False"
    let o := ConvertOptions.standard
    let panel := panelTarget "False"
    (convert o d).isOk = true ∧
      (nameTargets [] (targetNodes o d).1).map (fun t => (t.node.attrs.id,t.name)) =
        [("1","Toggle"),("4","Panel")] ∧
      ((toggleTarget "True" "False").tree d).head.props = [.boolean "on" (some "true")] ∧
      (instances (registryOf d) (panel.tree d)).map (fun h => (h.tag,h.instanceOf)) =
        [("Toggle",some ⟨"3",[("on",.text "False")]⟩)] ∧
      (panel.built o d).2.text "  " 2 = "    <div className=\"relative\">\n" ++
        "      \x7b/* interactive behavior likely needed (toggle) */\x7d\n" ++
        "      <Toggle on=\"False\" />\n" ++
        "    </div>" ∧
      ¬ WrittenAs "on" (overrideText "on" (.text "False")) .boolean := by
  refine ⟨?_,?_,?_,?_,?_,writtenAs_overrideText.not.mpr id⟩ <;> decide +kernel

end Project

end DesignCompiler
