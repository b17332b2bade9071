import DesignCompiler.Markup.Escape
import DesignCompiler.Proofs.Json.Normal
import DesignCompiler.Proofs.Json.Strings
import DesignCompiler.Proofs.Script.Reading
import DesignCompiler.Proofs.Styling.Alphabet

/-! Literals are code without types: strings, numbers, and values with all that they hold. -/
namespace DesignCompiler.Script
open Text Tokens Json

section
variable {fs : List Frame} {ws : List (List Char)} {w : List Char} {mark : Char}

/-! ## Strings -/

/-- What stands for a character between quotes: characters that neither end the quoted text nor
hide its end, possibly after a backslash with the character that it hides. -/
def IsUnit (mark : Char) (cs : List Char) : Prop :=
  ∃ plain, (∀ c ∈ plain, c ≠ mark ∧ c ≠ '\\') ∧ (cs = plain ∨ ∃ e, cs = '\\' :: e :: plain)

lemma read_plain {cs : List Char} (h : ∀ c ∈ cs, c ≠ mark ∧ c ≠ '\\') :
    Place.read ⟨.quote mark :: fs,ws,w⟩ cs = (⟨.quote mark :: fs,ws,w⟩,[]) := by
  induction cs with
  | nil => rfl
  | cons c cs ih =>
    obtain ⟨⟨hmark,hescape⟩,hcs⟩ := List.forall_mem_cons.mp h
    simp only [Place.read, Place.step, if_neg hmark, if_neg hescape, ih hcs, List.nil_append]

/-- Between quotes nothing is read before the second one. -/
lemma read_unit (hmark : mark ≠ '\\') {cs : List Char} (h : IsUnit mark cs) :
    Place.read ⟨.quote mark :: fs,ws,w⟩ cs = (⟨.quote mark :: fs,ws,w⟩,[]) := by
  obtain ⟨plain,hplain,rfl | ⟨e,rfl⟩⟩ := h
  · exact read_plain hplain
  · simp only [Place.read, Place.step, if_neg hmark.symm, if_true, read_plain hplain,
      List.nil_append]

lemma read_units (hmark : mark ≠ '\\') {f : Char → List Char} (hf : ∀ c, IsUnit mark (f c))
    (cs : List Char) :
    Place.read ⟨.quote mark :: fs,ws,w⟩ (cs.flatMap f) = (⟨.quote mark :: fs,ws,w⟩,[]) := by
  induction cs with
  | nil => rfl
  | cons c cs ih => rw [List.flatMap_cons, Place.read_append, read_unit hmark (hf c), ih]; rfl

/-- A quoted text is passed over. -/
lemma passes_quotedUnits (hfs : isCode fs = true) (hmark : mark = '\'' ∨ mark = '"')
    {f : Char → List Char} (hf : ∀ c, IsUnit mark (f c)) (cs : List Char) :
    Passes ⟨fs,[],[]⟩ (String.ofList (mark :: cs.flatMap f ++ [mark])) ⟨fs,[],[]⟩ := by
  have hescape : mark ≠ '\\' := by
    rintro rfl
    exact absurd hmark (by decide)
  have hopen : Place.step ⟨fs,[],[]⟩ mark = (⟨.quote mark :: fs,[],[]⟩,[.literal]) := by
    rw [step_of_isCode hfs]
    obtain rfl | rfl := hmark <;> rfl
  have hclose : Place.step ⟨.quote mark :: fs,[],[]⟩ mark = (⟨fs,[],[]⟩,[]) := by
    simp only [Place.step, if_true]
  rw [Passes, String.toList_ofList, List.cons_append]
  simp only [Place.read, Place.read_append, hopen, read_units hescape hf, hclose, List.append_nil]
  exact ⟨trivial,by decide⟩

/-- A script string is passed over, whatever its text is. -/
theorem passes_scriptString (hfs : isCode fs = true) (s : String) :
    Passes ⟨fs,[],[]⟩ (Markup.scriptString s) ⟨fs,[],[]⟩ := by
  refine passes_quotedUnits hfs (.inl rfl) (fun c => ?_) s.toList
  unfold Markup.scriptChar
  split_ifs with hbackslash hquote hfeed
  · exact ⟨[],List.forall_mem_nil _,.inr ⟨_,rfl⟩⟩
  · exact ⟨[],List.forall_mem_nil _,.inr ⟨_,rfl⟩⟩
  · exact ⟨[],List.forall_mem_nil _,.inr ⟨_,rfl⟩⟩
  · refine ⟨[c],List.forall_mem_singleton.mpr ?_,.inl rfl⟩
    exact ⟨by simpa using hquote,by simpa using hbackslash⟩

/-- A string of a value is passed over. -/
theorem passes_quote (hfs : isCode fs = true) (s : String) :
    Passes ⟨fs,[],[]⟩ (quote s) ⟨fs,[],[]⟩ := by
  have hdigit : ∀ n < 16, Nat.digitChar n ≠ '"' ∧ Nat.digitChar n ≠ '\\' := by decide
  refine passes_quotedUnits hfs (.inr rfl) (fun c => ?_) s.toList
  have hc := Reader.escapeOf_escapeChar c
  generalize escapeChar c = cs at hc
  cases hc with
  | letter => exact ⟨[],List.forall_mem_nil _,.inr ⟨_,rfl⟩⟩
  | number hlow =>
    refine ⟨_,?_,.inr ⟨_,rfl⟩⟩
    simp only [List.forall_mem_cons]
    exact ⟨by decide,by decide,hdigit _ (by omega),hdigit _ (by omega),List.forall_mem_nil _⟩
  | self hquote hbackslash =>
    exact ⟨[c],List.forall_mem_singleton.mpr ⟨hquote,hbackslash⟩,.inl rfl⟩

/-! ## Numbers -/

/-- A character of a number: one of a word, or a point or a sign. -/
def isNumeric (c : Char) : Bool := isIdentifierChar c || c == '.' || c == '-' || c == '+'

lemma isNumeric_of_isDigit (c : Char) (h : c.isDigit = true) : isNumeric c = true := by
  rw [isNumeric, isIdentifierChar, Char.isAlphanum, h]
  simp

/-- A number is a word, or words with signs between them. -/
lemma reads_numeric (hfs : isCode fs = true) {s : String}
    (hs : ∀ c ∈ s.toList, isNumeric c = true) : Reads fs s := by
  suffices h : ∃ w', Passes ⟨fs,[],[]⟩ s ⟨fs,[],w'⟩ by
    obtain ⟨w',hw⟩ := h
    refine ⟨[],w',hw,?_⟩
    unfold Place.phrase
    split <;> rfl
  unfold Passes
  generalize s.toList = cs at hs
  -- any word may have begun before
  generalize ([] : List Char) = w
  induction cs generalizing w with
  | nil => exact ⟨w,rfl,List.forall_mem_nil _⟩
  | cons c cs ih =>
    obtain ⟨hc,hcs⟩ := List.forall_mem_cons.mp hs
    by_cases hword : isIdentifierChar c = true
    · obtain ⟨w',hend,htokens⟩ := ih hcs (w ++ [c])
      refine ⟨w',?_⟩
      simp only [Place.read, step_of_isCode hfs, Place.code, if_pos hword]
      exact ⟨hend,htokens⟩
    · obtain ⟨w',hend,htokens⟩ := ih hcs []
      have hw : haveTypeWords (Place.phrase ⟨fs,[],w⟩) = false := by
        unfold Place.phrase
        split <;> rfl
      have hsign : c = '.' ∨ c = '-' ∨ c = '+' := by
        simpa [isNumeric, hword, or_assoc] using hc
      have hstep : Place.step ⟨fs,[],w⟩ c =
          (⟨fs,[],[]⟩,Place.phraseToken ⟨fs,[],w⟩ ++ [.sign c fs.head?]) := by
        rw [step_of_isCode hfs]
        obtain rfl | rfl | rfl := hsign <;> rfl
      have htyped : (Token.sign c fs.head?).isTyped = false := by
        obtain rfl | rfl | rfl := hsign <;> rfl
      refine ⟨w',?_⟩
      simp only [Place.read, hstep, List.append_assoc, List.singleton_append,
        List.forall_mem_append, List.forall_mem_cons]
      exact ⟨hend,isTyped_phraseToken hw,htyped,htokens⟩

lemma reads_number (hfs : isCode fs = true) (n : Number) : Reads fs n.text := by
  refine reads_numeric hfs ?_
  have hnatural : ∀ k : ℕ, ∀ c ∈ (toString k).toList, isNumeric c = true := by
    intro k
    rw [Nat.toString_eq_ofList_toDigits, String.toList_ofList]
    exact Decimal.forall_mem_digitChars isNumeric_of_isDigit k
  cases n with
  | natural k => exact hnatural k
  | negative k =>
    change ∀ c ∈ ("-" ++ toString k).toList, _
    rw [String.toList_append, List.forall_mem_append]
    exact ⟨by decide,hnatural k⟩
  | float x =>
    unfold Number.text
    dsimp only
    split
    · exact Decimal.forall_mem_write isNumeric_of_isDigit (by decide) _ x
    · decide

/-! ## Values -/

/-- The brackets of a value. -/
inductive Brackets : String → Frame → String → Prop
  | square : Brackets "[" .square "]"
  | curly : Brackets "\x7b" .curly "\x7d"

namespace Brackets
variable {opening closing : String} {f : Frame}

lemma isCode (h : Brackets opening f closing) : isCode (f :: fs) = true := by cases h <;> rfl

lemma endsWords (h : Brackets opening f closing) : endsWords closing.toList = true := by
  cases h <;> decide

lemma passes (h : Brackets opening f closing) (hfs : Script.isCode fs = true) :
    Passes ⟨fs,[],[]⟩ opening ⟨f :: fs,[],[]⟩ ∧ Passes ⟨f :: fs,[],[]⟩ closing ⟨fs,[],[]⟩ ∧
      Passes ⟨f :: fs,[],[]⟩ ",\n" ⟨f :: fs,[],[]⟩ := by
  cases h
  all_goals
    exact ⟨passes_char hfs rfl rfl rfl,passes_of_read rfl rfl,passes_of_read rfl rfl⟩

end Brackets

lemma endsWords_of_isSpace {as bs : List Char} (h : ∀ c ∈ as, isSpace c = true)
    (hb : endsWords bs = true) : endsWords (as ++ bs) = true := by
  induction as with
  | nil => exact hb
  | cons c as ih =>
    obtain ⟨hc,has⟩ := List.forall_mem_cons.mp h
    rw [List.cons_append, endsWords, if_pos hc]
    exact ih has

/-- Items in brackets, one a line, are code if they are. -/
lemma reads_bracketed (hfs : isCode fs = true) {opening closing indent : String} {f : Frame}
    (h : Brackets opening f closing) (hindent : ∀ c ∈ indent.toList, isSpace c = true)
    {items : List String} (hitems : ∀ item ∈ items, Reads (f :: fs) item) :
    Reads fs (Value.bracketed opening closing indent items) := by
  obtain ⟨hopen,hclose,hcomma⟩ := h.passes hfs
  unfold Value.bracketed
  split
  · exact (hopen.append hclose).reads
  · have hinner : ∀ c ∈ (indent ++ "  ").toList, isSpace c = true := by
      rw [String.toList_append, List.forall_mem_append]
      exact ⟨hindent,by decide⟩
    have hlines : Reads (f :: fs)
        (",\n".intercalate (items.map (indent ++ "  " ++ ·))) := by
      refine Reads.intercalate h.isCode (by decide) hcomma (List.forall_mem_map.mpr ?_)
      intro item hitem
      exact (passes_spaces h.isCode hinner).append_reads (hitems item hitem)
    have hfeed : Passes ⟨f :: fs,[],[]⟩ "\n" ⟨f :: fs,[],[]⟩ := passes_spaces h.isCode (by decide)
    have hends : endsWords ("\n" ++ (indent ++ closing)).toList = true := by
      rw [String.toList_append, String.toList_append]
      exact endsWords_of_isSpace (by decide) (endsWords_of_isSpace hindent h.endsWords)
    have hlast := hfeed.append ((passes_spaces h.isCode hindent).append hclose)
    have hall := (hopen.append hfeed).append (hlines.passes h.isCode hends hlast)
    simp only [String.append_assoc] at hall ⊢
    exact hall.reads

lemma indentedItems_eq_map (indent : String) (items : List Value) :
    Value.indentedItems indent items = items.map (·.indented indent) := by
  induction items with
  | nil => rfl
  | cons v vs ih => rw [Value.indentedItems, ih, List.map_cons]

lemma indentedEntries_eq_map (indent : String) (entries : List (String × Value)) :
    Value.indentedEntries indent entries =
      entries.map fun e => quote e.1 ++ ": " ++ e.2.indented indent := by
  induction entries with
  | nil => rfl
  | cons e es ih => rw [Value.indentedEntries, ih, List.map_cons]

/-- The text of a value is code without types. -/
theorem reads_indented (v : Value) {indent : String}
    (hindent : ∀ c ∈ indent.toList, isSpace c = true) (hfs : isCode fs = true) :
    Reads fs (v.indented indent) := by
  have hinner : ∀ {indent : String}, (∀ c ∈ indent.toList, isSpace c = true) →
      ∀ c ∈ (indent ++ "  ").toList, isSpace c = true := by
    intro indent hindent
    rw [String.toList_append, List.forall_mem_append]
    exact ⟨hindent,by decide⟩
  induction v using Value.induction generalizing indent fs with
  | null =>
    have hword : ∀ c ∈ "null".toList, isIdentifierChar c = true := by decide
    exact reads_word hfs hword
  | bool b =>
    have hword : ∀ c ∈ (if b then "true" else "false").toList, isIdentifierChar c = true := by
      cases b <;> decide
    exact reads_word hfs hword
  | number n => exact reads_number hfs n
  | string s => exact (passes_quote hfs s).reads
  | array items ih =>
    rw [Value.indented, indentedItems_eq_map]
    refine reads_bracketed hfs .square hindent (List.forall_mem_map.mpr fun v hv => ?_)
    exact ih v hv (hinner hindent) rfl
  | object entries ih =>
    rw [Value.indented, indentedEntries_eq_map]
    refine reads_bracketed hfs .curly hindent (List.forall_mem_map.mpr fun e he => ?_)
    have hcolon : Passes ⟨.curly :: fs,[],[]⟩ ": " ⟨.curly :: fs,[],[]⟩ := passes_of_read rfl rfl
    exact ((passes_quote rfl e.1).append hcolon).append_reads (ih e he (hinner hindent) rfl)

end

end DesignCompiler.Script
