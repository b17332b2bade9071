import DesignCompiler.Proofs.Text.Lines
import DesignCompiler.Text.Blank
import DesignCompiler.Tokens.Path
import Mathlib.Data.List.Basic
import Mathlib.Tactic.SplitIfs

/-! Scripts are read character by character: comments and quoted texts are passed over, and words
that stand side by side are kept together. A script has types if it has the words that declare a
type, import or export it, or a colon right inside round brackets, which says the type of a
parameter. -/
namespace DesignCompiler.Script
open Text Tokens

/-! ## Reading -/

/-- What has been opened at a place of a script: brackets, quoted texts and comments, and the first
of two characters that have a meaning together. -/
inductive Frame where
  | round
  | square
  | curly
  | quote (mark : Char)
  | template
  | line
  | block
  | slash
  | star
  | dollar
  | escape
  deriving DecidableEq

/-- What a script consists of: words side by side, signs with the bracket right around them, and
quoted texts. -/
inductive Token where
  | words (ws : List (List Char))
  | sign (c : Char) (inside : Option Frame)
  | literal
  deriving DecidableEq

/-- A place of a script: what is open, the innermost first, the words side by side before it, and
the word in which it stands. -/
structure Place where
  frames : List Frame
  words : List (List Char)
  word : List Char
  deriving DecidableEq

/-- The brackets after a sign. -/
def nest (c : Char) (fs : List Frame) : List Frame :=
  if c = '(' then .round :: fs
  else if c = '[' then .square :: fs
  else if c = '\x7b' then .curly :: fs
  else if c = ')' ∨ c = ']' ∨ c = '\x7d' then fs.tail
  else fs

/-- A template after one of its characters. -/
def inTemplate (fs : List Frame) (c : Char) : List Frame :=
  if c = '\x60' then fs.tail
  else if c = '\\' then .escape :: fs
  else if c = '$' then .dollar :: fs
  else fs

namespace Place
variable (p : Place)

/-- The beginning of a script. -/
def start : Place := ⟨[],[],[]⟩

/-- All words side by side up to a place. -/
def phrase : List (List Char) := if p.word = [] then p.words else p.words ++ [p.word]

/-- The words side by side, if there are any. -/
def phraseToken : List Token := if p.phrase = [] then [] else [.words p.phrase]

/-- One character of code further. -/
def code (c : Char) : Place × List Token :=
  if isIdentifierChar c then (⟨p.frames,p.words,p.word ++ [c]⟩,[])
  else if isBlank c then (⟨p.frames,p.phrase,[]⟩,[])
  else if c = '/' then (⟨.slash :: p.frames,p.words,p.word⟩,[])
  else if c = '\'' ∨ c = '"' then (⟨.quote c :: p.frames,[],[]⟩,p.phraseToken ++ [.literal])
  else if c = '\x60' then (⟨.template :: p.frames,[],[]⟩,p.phraseToken ++ [.literal])
  else (⟨nest c p.frames,[],[]⟩,p.phraseToken ++ [.sign c p.frames.head?])

/-- One character further. -/
def step (c : Char) : Place × List Token :=
  match p.frames with
  | .quote mark :: fs =>
    ({ p with frames := if c = mark then fs
                        else if c = '\\' then .escape :: p.frames else p.frames },[])
  | .template :: _ => ({ p with frames := inTemplate p.frames c },[])
  | .dollar :: fs => ({ p with frames := if c = '\x7b' then .curly :: fs else inTemplate fs c },[])
  | .escape :: fs => ({ p with frames := fs },[])
  | .line :: fs => ({ p with frames := if c = '\n' then fs else p.frames },[])
  | .block :: _ => ({ p with frames := if c = '*' then .star :: p.frames else p.frames },[])
  | .star :: fs =>
    ({ p with frames := if c = '/' then fs.tail else if c = '*' then p.frames else fs },[])
  | .slash :: fs =>
    if c = '/' then (⟨.line :: fs,p.phrase,[]⟩,[])
    else if c = '*' then (⟨.block :: fs,p.phrase,[]⟩,[])
    else
      let (q,ts) := code ⟨fs,[],[]⟩ c
      (q,p.phraseToken ++ .sign '/' fs.head? :: ts)
  | _ => p.code c

/-- A text further. -/
def read (p : Place) : List Char → Place × List Token
  | [] => (p,[])
  | c :: cs =>
    let (q,ts) := p.step c
    let (r,us) := read q cs
    (r,ts ++ us)

end Place

/-- What a script consists of. -/
def tokens (s : String) : List Token :=
  let (p,ts) := Place.start.read s.toList
  ts ++ p.phraseToken

/-! ## Types -/

/-- Whether two words side by side import, export or declare a type. -/
def areTypeWords (a b : List Char) : Bool :=
  (a == "import".toList || a == "export".toList) && b == "type".toList ||
    a == "type".toList || a == "interface".toList

/-- Whether words side by side have a type among them. -/
def haveTypeWords : List (List Char) → Bool
  | a :: b :: ws => areTypeWords a b || haveTypeWords (b :: ws)
  | _ => false

/-- Whether a token imports, exports or declares types, or says the type of a parameter. -/
def Token.isTyped : Token → Bool
  | words ws => haveTypeWords ws
  | sign c inside => c == ':' && inside == some .round
  | literal => false

/-- A script with types. -/
def HasTypes (s : String) : Prop := ∃ t ∈ tokens s, t.isTyped = true

instance (s : String) : Decidable (HasTypes s) := inferInstanceAs (Decidable (∃ _ ∈ _, _))

/-! ## Parts of scripts -/

/-- A text leads from one place to another, and there are no types on the way. -/
def Passes (p : Place) (s : String) (q : Place) : Prop :=
  (p.read s.toList).1 = q ∧ ∀ t ∈ (p.read s.toList).2, t.isTyped = false

instance (p : Place) (s : String) (q : Place) : Decidable (Passes p s q) :=
  inferInstanceAs (Decidable (_ ∧ _))

section
variable {p q r : Place} {fs : List Frame} {ws : List (List Char)} {w : List Char} {s t u : String}

/-- What a text leads to is computed, also where it is not known what is open further out. -/
lemma passes_of_read (hq : (p.read s.toList).1 = q)
    (ht : ((p.read s.toList).2.all fun t => !t.isTyped) = true) : Passes p s q :=
  ⟨hq,fun t h => by simpa using List.all_eq_true.mp ht t h⟩

lemma Place.read_append (p : Place) (as bs : List Char) :
    p.read (as ++ bs) =
      (((p.read as).1.read bs).1,(p.read as).2 ++ ((p.read as).1.read bs).2) := by
  induction as generalizing p with
  | nil => rfl
  | cons a as ih => simp only [List.cons_append, read, ih, List.append_assoc]

lemma Passes.append (h : Passes p s q) (h' : Passes q t r) : Passes p (s ++ t) r := by
  obtain ⟨rfl,hs⟩ := h
  obtain ⟨rfl,ht⟩ := h'
  rw [Passes, String.toList_append, Place.read_append]
  exact ⟨rfl,List.forall_mem_append.mpr ⟨hs,ht⟩⟩

lemma passes_empty (p : Place) : Passes p "" p := ⟨rfl,List.forall_mem_nil _⟩

lemma Passes.join {ss : List String} (h : ∀ s ∈ ss, Passes p s p) :
    Passes p (String.join ss) p := by
  induction ss with
  | nil => exact passes_empty p
  | cons s ss ih =>
    obtain ⟨hs,hss⟩ := List.forall_mem_cons.mp h
    rw [String.join_cons]
    exact hs.append (ih hss)

/-- Characters that change nothing are passed over. -/
lemma passes_of_forall (h : ∀ c ∈ s.toList, p.step c = (p,[])) : Passes p s p := by
  unfold Passes
  generalize s.toList = cs at h
  induction cs with
  | nil => exact ⟨rfl,List.forall_mem_nil _⟩
  | cons c cs ih =>
    obtain ⟨hc,hcs⟩ := List.forall_mem_cons.mp h
    simp only [Place.read, hc]
    exact ih hcs

/-! ## Quoted texts and comments -/

/-- A text without some characters. -/
def Free (marks : List Char) (s : String) : Prop := ∀ c ∈ s.toList, c ∉ marks

instance (marks : List Char) (s : String) : Decidable (Free marks s) :=
  inferInstanceAs (Decidable (∀ _ ∈ _, _))

lemma free_append {marks : List Char} : Free marks (s ++ t) ↔ Free marks s ∧ Free marks t := by
  rw [Free, String.toList_append, List.forall_mem_append]
  rfl

/-- What ends a text in single quotes, or can hide its end. -/
def quoteMarks : List Char := ['\'','\\']

/-- What ends a template, leads to code in it, or can hide its end. -/
def templateMarks : List Char := ['\x60','\\','$']

lemma passes_quoted (hs : Free quoteMarks s) :
    Passes ⟨.quote '\'' :: fs,ws,w⟩ s ⟨.quote '\'' :: fs,ws,w⟩ := by
  refine passes_of_forall fun c hc => ?_
  have hmark : c ≠ '\'' ∧ c ≠ '\\' := by simpa [quoteMarks] using hs c hc
  simp only [Place.step, if_neg hmark.1, if_neg hmark.2]

lemma passes_template (hs : Free templateMarks s) :
    Passes ⟨.template :: fs,ws,w⟩ s ⟨.template :: fs,ws,w⟩ := by
  refine passes_of_forall fun c hc => ?_
  have hmark : c ≠ '\x60' ∧ c ≠ '\\' ∧ c ≠ '$' := by simpa [templateMarks] using hs c hc
  simp only [Place.step, inTemplate, if_neg hmark.1, if_neg hmark.2.1, if_neg hmark.2.2]

lemma passes_line (hs : OneLine s) : Passes ⟨.line :: fs,ws,w⟩ s ⟨.line :: fs,ws,w⟩ := by
  refine passes_of_forall fun c hc => ?_
  have hc : c ≠ '\n' := fun he => hs (he ▸ hc)
  simp only [Place.step, if_neg hc]

/-! ## Code -/

/-- Whether a place is in code: it is right inside brackets or in none. -/
def isCode : List Frame → Bool
  | [] => true
  | f :: _ => f == .round || f == .square || f == .curly

lemma step_of_isCode (hfs : isCode fs = true) (c : Char) :
    Place.step ⟨fs,ws,w⟩ c = Place.code ⟨fs,ws,w⟩ c := by
  cases fs with
  | nil => rfl
  | cons f fs => cases f <;> first | rfl | contradiction

lemma passes_char (hfs : isCode fs = true) {c : Char} (hs : s.toList = [c])
    (hq : (Place.code ⟨fs,ws,w⟩ c).1 = q)
    (ht : ((Place.code ⟨fs,ws,w⟩ c).2.all fun t => !t.isTyped) = true) :
    Passes ⟨fs,ws,w⟩ s q := by
  have hread : Place.read ⟨fs,ws,w⟩ s.toList = Place.code ⟨fs,ws,w⟩ c := by
    simp [hs, Place.read, step_of_isCode hfs]
  exact passes_of_read (hread ▸ hq) (hread ▸ ht)

lemma passes_word (hfs : isCode fs = true) (hs : ∀ c ∈ s.toList, isIdentifierChar c = true) :
    Passes ⟨fs,ws,w⟩ s ⟨fs,ws,w ++ s.toList⟩ := by
  unfold Passes
  generalize s.toList = cs at hs
  induction cs generalizing w with
  | nil => simp [Place.read]
  | cons c cs ih =>
    obtain ⟨hc,hcs⟩ := List.forall_mem_cons.mp hs
    simp only [Place.read, step_of_isCode hfs, Place.code, if_pos hc]
    simpa using ih hcs (w := w ++ [c])

/-- Whether a character sets words apart that stand side by side. -/
def isSpace (c : Char) : Bool := c == ' ' || c == '\n'

lemma step_of_isSpace (hfs : isCode fs = true) {c : Char} (hc : isSpace c = true) :
    Place.step ⟨fs,ws,w⟩ c = (⟨fs,Place.phrase ⟨fs,ws,w⟩,[]⟩,[]) := by
  rw [step_of_isCode hfs]
  simp only [isSpace, Bool.or_eq_true, beq_iff_eq] at hc
  obtain rfl | rfl := hc <;> rfl

lemma passes_spaces (hfs : isCode fs = true) (hs : ∀ c ∈ s.toList, isSpace c = true) :
    Passes ⟨fs,[],[]⟩ s ⟨fs,[],[]⟩ :=
  passes_of_forall fun c hc => step_of_isSpace hfs (hs c hc)

/-- Whether words come to an end: space may follow, and then a sign that begins no comment. -/
def endsWords : List Char → Bool
  | [] => false
  | c :: cs => if isSpace c then endsWords cs else !isIdentifierChar c && !isBlank c && c != '/'

/-- A sign ends the words before it. -/
lemma step_of_endsWords (hfs : isCode fs = true) {c : Char} (hword : isIdentifierChar c = false)
    (hblank : isBlank c = false) (hslash : c ≠ '/') :
    Place.step ⟨fs,ws,w⟩ c = ((Place.step ⟨fs,[],[]⟩ c).1,
      Place.phraseToken ⟨fs,ws,w⟩ ++ (Place.step ⟨fs,[],[]⟩ c).2) := by
  simp only [step_of_isCode hfs, Place.code, hword, hblank, if_neg hslash, Bool.false_eq_true,
    if_false]
  split_ifs <;> rfl

lemma isTyped_phraseToken {p : Place} (hp : haveTypeWords p.phrase = false) :
    ∀ t ∈ p.phraseToken, t.isTyped = false := by
  unfold Place.phraseToken
  split
  · exact List.forall_mem_nil _
  · exact List.forall_mem_singleton.mpr hp

/-- Where words end, those that stand before have no part in what follows. -/
lemma Passes.after_words (hfs : isCode fs = true) (hs : endsWords s.toList = true)
    (hw : haveTypeWords (Place.phrase ⟨fs,ws,w⟩) = false) (h : Passes ⟨fs,[],[]⟩ s q) :
    Passes ⟨fs,ws,w⟩ s q := by
  unfold Passes at h ⊢
  generalize s.toList = cs at hs h
  induction cs generalizing ws w with
  | nil => contradiction
  | cons c cs ih =>
    rw [endsWords] at hs
    simp only [Place.read] at h ⊢
    by_cases hc : isSpace c = true
    · rw [if_pos hc] at hs
      rw [step_of_isSpace hfs hc] at h ⊢
      exact ih hw hs h
    · rw [if_neg hc] at hs
      simp only [Bool.and_eq_true, Bool.not_eq_true', bne_iff_ne, ne_eq] at hs
      obtain ⟨⟨hword,hblank⟩,hslash⟩ := hs
      rw [step_of_endsWords hfs hword hblank hslash, List.append_assoc]
      exact ⟨h.1,List.forall_mem_append.mpr ⟨isTyped_phraseToken hw,h.2⟩⟩

/-- Code in brackets that leaves them open as they are, without types. Words may stand at its end.
-/
def Reads (fs : List Frame) (s : String) : Prop :=
  ∃ ws w, Passes ⟨fs,[],[]⟩ s ⟨fs,ws,w⟩ ∧ haveTypeWords (Place.phrase ⟨fs,ws,w⟩) = false

lemma Passes.reads (h : Passes ⟨fs,[],[]⟩ s ⟨fs,[],[]⟩) : Reads fs s := ⟨[],[],h,rfl⟩

lemma reads_word (hfs : isCode fs = true) (hs : ∀ c ∈ s.toList, isIdentifierChar c = true) :
    Reads fs s := by
  refine ⟨[],s.toList,passes_word hfs hs,?_⟩
  unfold Place.phrase
  split <;> rfl

/-- Code goes on where the words at its end come to an end. -/
lemma Reads.passes (hfs : isCode fs = true) (hs : Reads fs s) (ht : endsWords t.toList = true)
    (h : Passes ⟨fs,[],[]⟩ t q) : Passes ⟨fs,[],[]⟩ (s ++ t) q := by
  obtain ⟨ws,w,hs,hw⟩ := hs
  exact hs.append (h.after_words hfs ht hw)

lemma Passes.append_reads (hs : Passes ⟨fs,[],[]⟩ s ⟨fs,[],[]⟩) (ht : Reads fs t) :
    Reads fs (s ++ t) := by
  obtain ⟨ws,w,ht,hw⟩ := ht
  exact ⟨ws,w,hs.append ht,hw⟩

/-- Pieces of code with a sign between them are code. -/
lemma Reads.append (hfs : isCode fs = true) (hs : Reads fs s) (hr : endsWords u.toList = true)
    (h : Passes ⟨fs,[],[]⟩ u ⟨fs,[],[]⟩) (ht : Reads fs t) : Reads fs (s ++ u ++ t) :=
  (hs.passes hfs hr h).append_reads ht

lemma Reads.intercalate {sep : String} {ss : List String} (hfs : isCode fs = true)
    (hsep : endsWords sep.toList = true) (h : Passes ⟨fs,[],[]⟩ sep ⟨fs,[],[]⟩)
    (hss : ∀ s ∈ ss, Reads fs s) : Reads fs (sep.intercalate ss) := by
  induction ss with
  | nil => exact (passes_empty _).reads
  | cons s ss ih =>
    obtain ⟨hs,hss⟩ := List.forall_mem_cons.mp hss
    cases ss with
    | nil => simpa using hs
    | cons s' ss =>
      rw [String.intercalate_cons_of_ne_nil (List.cons_ne_nil _ _)]
      exact hs.append hfs hsep h (ih hss)

/-- Code without types has none to its end. -/
theorem not_hasTypes_of_reads (hs : Reads [] s) : ¬ HasTypes s := by
  obtain ⟨ws,w,⟨hend,htokens⟩,hw⟩ := hs
  rintro ⟨t,ht,htyped⟩
  rw [tokens, List.mem_append] at ht
  obtain ht | ht := ht
  · rw [htokens t ht] at htyped
    contradiction
  · change (Place.start.read s.toList).1 = _ at hend
    rw [hend] at ht
    rw [isTyped_phraseToken hw t ht] at htyped
    contradiction

/-- Types that are read after some text are types of the script. -/
lemma hasTypes_of_passes (h : Passes Place.start s q) (ht : ∃ x ∈ (q.read t.toList).2, x.isTyped)
    (u : String) : HasTypes (s ++ t ++ u) := by
  obtain ⟨x,hx,htyped⟩ := ht
  refine ⟨x,?_,htyped⟩
  obtain ⟨rfl,-⟩ := h
  simp only [tokens, String.toList_append, Place.read_append, List.mem_append]
  exact .inl (.inl (.inr hx))

end

end DesignCompiler.Script
