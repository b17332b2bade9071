import DesignCompiler.Proofs.Script.Reading
import DesignCompiler.Proofs.Styling.DeclarationTexts
import DesignCompiler.Proofs.Styling.Styler
import DesignCompiler.Proofs.Tokens.Access

/-! Style definitions as parts of scripts. They have no types when the texts that are inserted keep
to their places, unless a style object is a function of the theme: then it says the type of that. -/
namespace DesignCompiler.Script
open Styling Tokens

section
variable {gs : List Frame} {s : String}

/-! ## Accesses -/

/-- An access goes on in code, whatever its key is written as. -/
lemma Reads.access (hs : Reads (.curly :: gs) s) {key : String} (hkey : Free quoteMarks key) :
    Reads (.curly :: gs) (s ++ TokenPath.access key) := by
  have hdigit : ∀ c : Char, c.isDigit = true → isIdentifierChar c = true := by
    intro c hc
    rw [isIdentifierChar, Char.isAlphanum, hc, Bool.or_true]
    rfl
  unfold TokenPath.access
  split
  · next hi =>
    have hpoint : Passes ⟨.curly :: gs,[],[]⟩ "." ⟨.curly :: gs,[],[]⟩ := passes_of_read rfl rfl
    rw [← String.append_assoc]
    exact hs.append rfl (by decide) hpoint (reads_word rfl (all_of_isScriptIdentifier hi))
  · split
    · next hd =>
      have hopen : Passes ⟨.curly :: gs,[],[]⟩ "[" ⟨.square :: .curly :: gs,[],[]⟩ :=
        passes_of_read rfl rfl
      have hclose : Passes ⟨.square :: .curly :: gs,[],[]⟩ "]" ⟨.curly :: gs,[],[]⟩ :=
        passes_of_read rfl rfl
      have hnumber : Reads (.square :: .curly :: gs) key :=
        reads_word rfl fun c hc => hdigit c (List.all_eq_true.mp hd c hc)
      have hall := (hs.passes rfl (by decide) hopen).append (hnumber.passes rfl (by decide) hclose)
      simp only [String.append_assoc] at hall ⊢
      exact hall.reads
    · have hopen : Passes ⟨.curly :: gs,[],[]⟩ "['"
          ⟨.quote '\'' :: .square :: .curly :: gs,[],[]⟩ := passes_of_read rfl rfl
      have hclose : Passes ⟨.quote '\'' :: .square :: .curly :: gs,[],[]⟩ "']"
          ⟨.curly :: gs,[],[]⟩ := passes_of_read rfl rfl
      have hall := ((hs.passes rfl (by decide) hopen).append (passes_quoted hkey)).append hclose
      simp only [String.append_assoc] at hall ⊢
      exact hall.reads

lemma Reads.accesses (hs : Reads (.curly :: gs) s) {keys : List String}
    (hkeys : ∀ key ∈ keys, Free quoteMarks key) :
    Reads (.curly :: gs) (s ++ String.join (keys.map TokenPath.access)) := by
  induction keys generalizing s with
  | nil => simpa using hs
  | cons key keys ih =>
    obtain ⟨hkey,hkeys⟩ := List.forall_mem_cons.mp hkeys
    rw [List.map_cons, String.join_cons, ← String.append_assoc]
    exact ih (hs.access hkey) hkeys

/-- The access to a token is code without types. -/
lemma reads_accessor {path : TokenPath} (hpath : ∀ key ∈ path.segments, Free quoteMarks key) :
    Reads (.curly :: gs) (path.accessor "theme") :=
  (reads_word rfl (by decide)).accesses hpath

/-! ## Values -/

/-- What ends a literal of a script, leads to code in it, or can hide its end. -/
def literalMarks : List Char := quoteMarks ++ templateMarks

lemma Free.mono {marks marks' : List Char} (hs : Free marks s) (h : marks' ⊆ marks) :
    Free marks' s := fun c hc hmark => hs c hc (h hmark)

lemma holdsOfValues_templateMarks : HoldsOfValues (· ∉ templateMarks) := by
  intro c hc hmark
  simp only [templateMarks, List.mem_cons, List.not_mem_nil, or_false] at hmark
  obtain rfl | rfl | rfl := hmark <;> exact absurd hc (by decide)

lemma free_lower (hs : Free templateMarks s) : Free templateMarks (Text.lower s) := by
  have hsmall : ∀ x ∈ templateMarks, 0 < x.toNat ∧ x.toNat < 97 := by decide
  intro c hc hmark
  obtain ⟨h0,h97⟩ := hsmall c hmark
  exact Text.notMem_lower h0 h97 (fun h => hs c h hmark) hc

section
variable {t : TokenTable} {v : TokenValue} {style : TokenStyle}

/-- A token keeps to its place in a template, as its text or as an access. -/
lemma passes_render (hstyle : style ≠ .cssVar) (ht : ∀ s ∈ t.rawTexts, Free literalMarks s)
    (hv : Matched t v) :
    Passes ⟨.template :: gs,[],[]⟩ (style.render v) ⟨.template :: gs,[],[]⟩ := by
  have hvalue : ∀ {css : String}, IsValueText css → Free templateMarks css := fun hcss =>
    holdsOfValues_templateMarks.of_isValueText hcss
  have htable : ∀ s ∈ t.rawTexts, Free templateMarks s :=
    fun s hs => (ht s hs).mono (by simp [literalMarks])
  have hnames : ∀ s ∈ tableNames, Free quoteMarks s := by decide
  cases writtenFrom_of_matched hv with
  | raw hcss => exact passes_template (hvalue hcss)
  | @token path css hpath hcss =>
    have hcss : Free templateMarks css := by
      obtain hcss | hcss | ⟨s,hs,rfl⟩ := hcss
      · exact hvalue hcss
      · exact htable css hcss
      · exact free_lower (htable s hs)
    have hkeys : ∀ key ∈ path.segments, Free quoteMarks key := fun key hkey =>
      (hpath key hkey).elim (hnames key) fun h => (ht key h).mono (by simp [literalMarks])
    have hclose : Passes ⟨.curly :: .template :: gs,[],[]⟩ "\x7d" ⟨.template :: gs,[],[]⟩ :=
      passes_of_read rfl rfl
    have hcode : Reads (.curly :: .template :: gs) (path.accessor "theme") := reads_accessor hkeys
    have haccess := hcode.passes rfl (by decide) hclose
    cases style with
    | literal => exact passes_template hcss
    | themeProps =>
      have hopen : Passes ⟨.template :: gs,[],[]⟩ "$\x7b(\x7b theme \x7d) => "
          ⟨.curly :: .template :: gs,[],[]⟩ := passes_of_read rfl rfl
      have hall := hopen.append haccess
      rwa [← String.append_assoc] at hall
    | themeScope =>
      have hopen : Passes ⟨.template :: gs,[],[]⟩ "$\x7b" ⟨.curly :: .template :: gs,[],[]⟩ :=
        passes_of_read rfl rfl
      have hall := hopen.append haccess
      rwa [← String.append_assoc] at hall
    | cssVar => exact absurd rfl hstyle

/-- The declarations of an element keep to their template. -/
lemma passes_blockBody (hstyle : style ≠ .cssVar) (ht : ∀ s ∈ t.rawTexts, Free literalMarks s)
    {h : ElementHead} (hs : ∀ s ∈ h.style.rawTexts, Free templateMarks s) :
    Passes ⟨.template :: gs,[],[]⟩ (blockBody style "  " (declarations t h).1)
      ⟨.template :: gs,[],[]⟩ := by
  have hproperties : ∀ name ∈ propertyNames, Free templateMarks name := by decide
  refine Passes.join (List.forall_mem_map.mpr fun d hd => ?_)
  have hwritten := writtenIn_declarations (t := t) holdsOfValues_templateMarks (by decide) hs d hd
  have hvalue : Passes ⟨.template :: gs,[],[]⟩ (d.value style) ⟨.template :: gs,[],[]⟩ := by
    refine Passes.join (List.forall_mem_map.mpr fun part hpart => ?_)
    cases part with
    | text s => exact passes_template (hwritten.texts s hpart)
    | token v =>
      have hv : v ∈ (declarations t h).tokens :=
        List.mem_flatMap.mpr ⟨d,hd,Declaration.mem_tokens.mpr hpart⟩
      exact passes_render hstyle ht (matched_of_mem_declarations hv)
  have hproperty : Passes ⟨.template :: gs,[],[]⟩ d.property ⟨.template :: gs,[],[]⟩ :=
    passes_template (hproperties _ hwritten.property)
  have hindent : Free templateMarks "  " := by decide
  have hcolon : Free templateMarks ": " := by decide
  have hend : Free templateMarks ";\n" := by decide
  exact ((((passes_template hindent).append hproperty).append (passes_template hcolon)).append
    hvalue).append (passes_template hend)

/-! ## Definitions -/

variable {name : String}

lemma passes_const (hname : ∀ c ∈ name.toList, isIdentifierChar c = true) :
    Passes Place.start ("const " ++ name) ⟨[],["const".toList],name.toList⟩ := by
  have hconst : Passes Place.start "const " ⟨[],["const".toList],[]⟩ := passes_of_read rfl rfl
  exact hconst.append (passes_word rfl hname)

/-- The name of a definition is no word for types, as `const` stands before it. -/
lemma passes_const_append (hname : ∀ c ∈ name.toList, isIdentifierChar c = true) {q : Place}
    (hends : endsWords s.toList = true) (h : Passes Place.start s q) :
    Passes Place.start ("const " ++ name ++ s) q := by
  refine (passes_const hname).append (Passes.after_words rfl hends ?_ h)
  unfold Place.phrase
  split <;> rfl

variable {ds : List Declaration}
  (hname : ∀ c ∈ name.toList, isIdentifierChar c = true)
  (hbody : Passes ⟨[.template],[],[]⟩ (blockBody style "  " ds) ⟨[.template],[],[]⟩)
include hname hbody

/-- The definition of a component has no types. -/
lemma reads_styledSource {tag : String} (htag : ∀ c ∈ tag.toList, isIdentifierChar c = true) :
    Reads [] (styledSource style name tag ds) := by
  have hstyled : Passes Place.start " = styled." Place.start := passes_of_read rfl rfl
  have hopen : Passes Place.start "\x60\n" ⟨[.template],[],[]⟩ := passes_of_read rfl rfl
  have hclose : Passes ⟨[.template],[],[]⟩ "\x60;" Place.start := passes_of_read rfl rfl
  have hconst := passes_const_append hname (by decide) hstyled
  have htag : Passes Place.start (tag ++ "\x60\n") ⟨[.template],[],[]⟩ :=
    (reads_word rfl htag).passes rfl (by decide) hopen
  have hall := ((hconst.append htag).append hbody).append hclose
  rw [← String.append_assoc] at hall
  exact hall.reads

/-- The definition of a style object has no types without a theme. -/
lemma reads_objectSource (hstyle : style.isThemed = false) :
    Reads [] (objectSource style name ds) := by
  have hopen : Passes Place.start " = css\x60\n" ⟨[.template],[],[]⟩ := passes_of_read rfl rfl
  have hclose : Passes ⟨[.template],[],[]⟩ "\x60;" Place.start := passes_of_read rfl rfl
  have hall := ((passes_const_append hname (by decide) hopen).append hbody).append hclose
  have hsplit : " = css\x60\n" = " = " ++ "" ++ "css\x60\n" := rfl
  simp only [objectSource, hstyle, Bool.false_eq_true, if_false]
  simp only [hsplit, String.append_assoc] at hall ⊢
  exact hall.reads

omit hbody in
/-- A style object that is a function of the theme says the type of that. -/
lemma hasTypes_objectSource (hstyle : style.isThemed = true) :
    HasTypes (objectSource style name ds) := by
  have hopen : Passes Place.start " = (theme" ⟨[.round],[],"theme".toList⟩ := passes_of_read rfl rfl
  have hconst := passes_const_append hname (by decide) hopen
  have htypes := hasTypes_of_passes hconst (t := ":") ⟨.sign ':' (some .round),by decide,rfl⟩
    (" Theme) => " ++ "css\x60\n" ++ blockBody style "  " ds ++ "\x60;")
  have hequals : " = (theme" = " = " ++ "(theme" := rfl
  have hparameter : "(theme: Theme) => " = "(theme" ++ ":" ++ " Theme) => " := rfl
  simp only [objectSource, hstyle, if_true]
  simp only [hequals, hparameter, String.append_assoc] at htypes ⊢
  exact htypes

end

end

end DesignCompiler.Script
