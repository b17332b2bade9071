import DesignCompiler.Proofs.Project.References

/-! A conversion succeeds whatever the document and the options are, as long as the token table is
readable: every target becomes a component, and no template lacks a field. -/
namespace DesignCompiler.Project
open Document Styling Output

/-! ## Templates -/

namespace Template

/-- The names of a template's fields. -/
def fieldNames (t : Template) : List String :=
  t.filterMap fun
    | .text _ => none
    | .field name => some name

/-- A template with a value for each of its fields can be filled in. -/
lemma exists_render? {value? : String → Option String} {t : Template}
    (h : ∀ name ∈ t.fieldNames, (value? name).isSome) : ∃ s, t.render? value? = some s := by
  induction t with
  | nil => exact ⟨"",rfl⟩
  | cons part t ih =>
    cases part with
    | text s =>
      obtain ⟨more,hmore⟩ := ih h
      exact ⟨s ++ more,by rw [render?, hmore]; rfl⟩
    | field name =>
      obtain ⟨hname,ht⟩ := List.forall_mem_cons.mp h
      obtain ⟨v,hv⟩ := Option.isSome_iff_exists.mp hname
      obtain ⟨more,hmore⟩ := ih ht
      exact ⟨v ++ more,by rw [render?, hv, hmore]⟩

end Template

/-- The template of a kind of files; style sheets and themes have none. -/
def templateOf? : FileKind → Option Template
  | .component => some Template.component
  | .types => some Template.types
  | .index => some Template.index
  | .stylesheet => none
  | .theme => none

/-- A file is its template with a value in each field. -/
def FilledIn (f : GeneratedFile) : Prop :=
  ∀ t ∈ templateOf? f.kind, ∃ value?, t.render? value? = some f.content

/-- A template can be filled in with fields that have a text for each of its own. -/
lemma exists_render?_of_fields {t : Template} {fields : List (String × String)}
    (h : t.fieldNames ⊆ fields.map (·.1)) :
    ∃ s, t.render? (fun name => (fields.find? (·.1 == name)).map (·.2)) = some s := by
  refine Template.exists_render? fun name hname => ?_
  obtain ⟨e,he,rfl⟩ := List.mem_map.mp (h hname)
  rw [Option.isSome_map, List.find?_isSome]
  exact ⟨e,he,beq_self_eq_true _⟩

/-- A file is filled in when there is a text for each field of its template. -/
lemma filledIn_of_fields {t : Template} {fields : List (String × String)} {kind : FileKind}
    (ht : templateOf? kind = some t) (h : t.fieldNames ⊆ fields.map (·.1)) (path : String) :
    FilledIn ⟨path,fillIn t fields,kind⟩ := by
  obtain ⟨s,hs⟩ := exists_render?_of_fields h
  intro t' ht'
  rw [ht] at ht'
  cases ht'
  refine ⟨_,hs.trans ?_⟩
  rw [fillIn, hs, Option.getD_some]

/-! ## Files -/

section
variable (o : ConvertOptions) (d : Document)

lemma filledIn_componentFile (name : String) (props : List PropDef) (m : DesignCompiler.Markup)
    (depth : ℕ) (imports : List String) :
    FilledIn (componentFile o name props m depth imports) :=
  filledIn_of_fields rfl (by simp [Template.fieldNames, Template.component, componentFields]) _

lemma filledIn_typesFile {name : String} {props : List PropDef} {m : DesignCompiler.Markup}
    {f : GeneratedFile} (hf : f ∈ typesFile o name props m) : FilledIn f := by
  unfold typesFile at hf
  split at hf
  · cases hf
    exact filledIn_of_fields rfl (by simp [Template.fieldNames, Template.types]) _
  · contradiction

lemma filledIn_indexFile (components : List String) : FilledIn (indexFile o components) :=
  filledIn_of_fields rfl (by simp [Template.fieldNames, Template.index]) _

lemma filledIn_themeFile {t : Tokens.TokenTable} {f : GeneratedFile} (hf : f ∈ themeFile o t) :
    FilledIn f := by
  intro t ht
  rw [kind_themeFile hf] at ht
  contradiction

lemma filledIn_convertComponent (r : ComponentRegistry) (t : Target) :
    ∀ f ∈ (convertComponent o d r t).files, FilledIn f := by
  intro f hf
  unfold convertComponent at hf
  dsimp only at hf
  rw [List.mem_append, List.mem_cons, Option.mem_toList, Option.mem_toList] at hf
  obtain (rfl | hf) | hf := hf
  · exact filledIn_componentFile o _ _ _ _ _
  · exact filledIn_typesFile o hf
  · obtain ⟨css,-,rfl⟩ := Option.map_eq_some_iff.mp hf
    exact fun _ => nofun

end

/-! ## Runs -/

section
variable {o : ConvertOptions} {d : Document}

/-- No lookup for a component fails. -/
lemma readable_convertComponent (ht : o.tokenTable.Readable) (t : Target) :
    (convertComponent o d (FromDesign.registryOf d) t).tally.unreadable = false := by
  have hstart : (Progress.start.beginComponent t.name).Readable := rfl
  have hbuilt : (t.built o d).1.Readable := by
    rw [← (renders_built o d t).progress]
    exact readable_styleAll (s := (Target.setting o d).scheme) ht hstart _
  exact readable_styleSheet (s := (Target.setting o d).scheme) ht hbuilt _

/-- Every conversion with a readable token table succeeds: the targets that the document has are its
components, each with its file, and no file lacks a field. -/
theorem convert_succeeds (ht : o.tokenTable.Readable) :
    ∃ out, convert o d = .ok out ∧
      (∃ ts : List Target, ts.map (·.node) = resolvedNodes o d ∧
        out.components = ts.map (·.name) ∧
        ∀ t ∈ ts, ∃ f ∈ out.files, f.kind = .component ∧
          f.path = o.componentPath (t.name ++ "." ++ o.componentExt)) ∧
      ∀ f ∈ out.files, FilledIn f := by
  obtain ⟨out,hc⟩ := exists_convert (o := o) (d := d) fun t _ => readable_convertComponent ht t
  refine ⟨out,hc,⟨nameTargets [] (targetNodes o d).1,?_,components_of_convert hc,?_⟩,?_⟩
  · rw [node_nameTargets, targetNodes_fst]
  · intro t htarget
    exact ⟨componentFile o t.name (t.tree d).head.props (t.built o d).2 markupDepth
      (t.styleLines o d),files_subset_of_convert hc htarget List.mem_cons_self,rfl,rfl⟩
  · intro f hf
    obtain ⟨t,-,hf⟩ | rfl | hf := mem_files_of_convert hc hf
    · exact filledIn_convertComponent o d _ t f hf
    · exact filledIn_indexFile o _
    · exact filledIn_themeFile o hf

end

/-- Two texts that are read, with a property of what they hold. -/
lemma exists_of_readings {ε ε' α β : Type} {e : Except ε α} {e' : Except ε' β} {P : α → β → Prop}
    (p : α → β → Bool)
    (h : (match e, e' with
      | .ok a, .ok b => p a b
      | _, _ => false) = true) (hp : ∀ a b, p a b = true → P a b) :
    ∃ a b, e = .ok a ∧ e' = .ok b ∧ P a b := by
  split at h
  · exact ⟨_,_,rfl,rfl,hp _ _ h⟩
  · contradiction

/-- The only preset has a pair of digits that is cut inside a character, but the pair before it is
already not one of digits. -/
theorem convert_succeeds_uncut_shadow :
    ∃ o d, ConvertOptions.read
        "\x7b\"tokens\":\x7b\"shadows\":\x7b\"sm\":\"0 1px 2px 0 #é€b\"\x7d\x7d\x7d" = .ok o ∧
      Document.read ("\x7b\"document\":\x7b\"id\":\"0\",\"name\":\"Badge\",\"type\":\"COMPONENT\"," ++
        "\"effects\":[\x7b\"type\":\"DROP_SHADOW\"\x7d]\x7d\x7d") = .ok d ∧
      o.tokenTable.Readable ∧
      ∃ out, convert o d = .ok out ∧ out.components = ["Badge"] ∧
        ∃ f ∈ out.files, f.path = "components/Badge.tsx" ∧ FilledIn f := by
  refine exists_of_readings (fun o d => decide o.tokenTable.Readable &&
    (convert o d).toOption.map (·.components) == some ["Badge"] &&
    o.componentPath ("Badge." ++ o.componentExt) == "components/Badge.tsx")
    (by decide +kernel) fun o d hcheck => ?_
  simp only [Bool.and_eq_true, decide_eq_true_eq, beq_iff_eq] at hcheck
  obtain ⟨⟨hreadable,hcomponents⟩,hpath⟩ := hcheck
  obtain ⟨out,hout,⟨ts,-,hts,hfiles⟩,hall⟩ := convert_succeeds (d := d) hreadable
  rw [hout] at hcomponents
  have hbadge : out.components = ["Badge"] := Option.some.inj hcomponents
  obtain ⟨t,ht,hname⟩ : ∃ t ∈ ts, t.name = "Badge" := by
    refine List.mem_map.mp ?_
    rw [← hts, hbadge]
    exact List.mem_singleton_self _
  obtain ⟨f,hf,-,hfile⟩ := hfiles t ht
  rw [hname] at hfile
  exact ⟨hreadable,out,hout,hbadge,f,hf,hfile.trans hpath,hall f hf⟩

/-- Options with a preset that is cut inside a character are accepted, but a conversion that looks a
shadow up in them fails. -/
theorem convert_fails_on_cut_shadow :
    ∃ o d, ConvertOptions.read
        "\x7b\"tokens\":\x7b\"shadows\":\x7b\"sm\":\"0 1px 2px 0 #ab€f\"\x7d\x7d\x7d" = .ok o ∧
      Document.read ("\x7b\"document\":\x7b\"id\":\"0\",\"name\":\"Badge\",\"type\":\"COMPONENT\"," ++
        "\"effects\":[\x7b\"type\":\"DROP_SHADOW\"\x7d]\x7d\x7d") = .ok d ∧
      convert o d = .error .unreadableToken := by
  refine exists_of_readings (fun o d => !(convert o d).isOk) (by decide +kernel)
    fun o d hcheck => ?_
  cases hc : convert o d with
  | ok out =>
    rw [hc] at hcheck
    contradiction
  | error e => rw [error_of_convert hc]

end DesignCompiler.Project
