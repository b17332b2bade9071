import DesignCompiler.Proofs.FromDesign.Overrides
import DesignCompiler.Proofs.Text.Lines

/-! What an element is remarked, and what is reported with that. A container that positions its
children by hand, an element that tells of behaviour and an instance without a known component are
each reported by one diagnostic about the element. -/
namespace DesignCompiler

/-- The nodes that the diagnostics of a code are about, in order. -/
def Diagnostics.subjects (ds : Diagnostics) (code : DiagnosticCode) : List (Option String) :=
  (ds.filter (·.code == code)).map (·.node)

namespace Diagnostics
variable {code : DiagnosticCode}

@[simp] lemma subjects_nil : subjects [] code = [] := rfl

@[simp] lemma subjects_append (ds es : Diagnostics) :
    subjects (ds ++ es) code = subjects ds code ++ subjects es code := by
  rw [subjects, List.filter_append, List.map_append]
  rfl

@[simp] lemma subjects_warning (c : DiagnosticCode) (node : Option String) (message : String) :
    subjects [.warning c node message] code = if code = c then [node] else [] := by
  by_cases h : code = c
  · simp [subjects, Diagnostic.warning, h]
  · simp [subjects, Diagnostic.warning, h, Ne.symm h]

lemma length_subjects (ds : Diagnostics) : (ds.subjects code).length = ds.count code := by
  rw [subjects, List.length_map, count, List.countP_eq_length_filter]

/-- No diagnostic of another code is about anything. -/
lemma subjects_of_forall {ds : Diagnostics} {c : DiagnosticCode} (h : ∀ d ∈ ds, d.code = c)
    (hc : c ≠ code) : ds.subjects code = [] := by
  rw [subjects, List.map_eq_nil_iff, List.filter_eq_nil_iff]
  intro d hd
  rw [h d hd, beq_iff_eq]
  exact hc

end Diagnostics

namespace FromDesign
open Document Element Diagnostics Text

/-! ## What elements bear -/

/-- Whether a remark says that a child could not be read. -/
def isUnreadRemark (remark : String) : Bool :=
  "source node could not be parsed: ".toList.isPrefixOf remark.toList

/-- Whether an element stands for a child that could not be read. -/
def isPlaceholder (h : ElementHead) : Bool := h.remarks.warnings.any isUnreadRemark

/-- Whether an element is remarked to position its children by hand. -/
def positionsByHand (h : ElementHead) : Bool := h.remarks.warnings.contains noAutoLayoutWarning

/-- Whether an element tells of behaviour. -/
def tellsOfBehaviour (h : ElementHead) : Bool := h.remarks.interactionHint.isSome

/-- Whether an element is an instance that names no component, or one that is not known. -/
def lacksComponent (r : ComponentRegistry) (h : ElementHead) : Bool :=
  h.kind == .componentInstance && !h.instanceOf.any fun i => r.contains i.componentId

/-- Whether an element has what diagnostics of a code report. -/
def bears (r : ComponentRegistry) (code : DiagnosticCode) (h : ElementHead) : Bool :=
  match code with
  | .nodeParseFailure => isPlaceholder h
  | .noAutoLayout => positionsByHand h
  | .interactionHint => tellsOfBehaviour h
  | .nodeNotFound => lacksComponent r h
  | .unsupportedStyle | .unterminatedBlock | .outputWriteFailed | .componentFailed => false

/-- What an element bears depends on its kind, its component and its remarks. -/
lemma bears_congr {r : ComponentRegistry} {code : DiagnosticCode} {h k : ElementHead}
    (hkind : h.kind = k.kind) (hinstance : h.instanceOf = k.instanceOf)
    (hwarnings : h.remarks.warnings = k.remarks.warnings)
    (hhint : h.remarks.interactionHint = k.remarks.interactionHint) :
    bears r code h = bears r code k := by
  unfold bears isPlaceholder positionsByHand tellsOfBehaviour lacksComponent
  rw [hkind, hinstance, hwarnings, hhint]

/-- The codes of diagnostics about what elements bear. -/
def elementCodes : List DiagnosticCode :=
  [.nodeParseFailure,.noAutoLayout,.interactionHint,.nodeNotFound]

/-- What is to be reported of an element by diagnostics of a code. -/
def due (r : ComponentRegistry) (code : DiagnosticCode) (h : ElementHead) : List (Option String) :=
  if bears r code h then [some h.sourceId] else []

lemma due_congr {r : ComponentRegistry} {code : DiagnosticCode} {h k : ElementHead}
    (hid : h.sourceId = k.sourceId) (hbears : bears r code h = bears r code k) :
    due r code h = due r code k := by
  rw [due, due, hid, hbears]

lemma flatMap_due (r : ComponentRegistry) (code : DiagnosticCode) (hs : List ElementHead) :
    hs.flatMap (due r code) = (hs.filter (bears r code)).map fun h => some h.sourceId := by
  induction hs with
  | nil => rfl
  | cons h hs ih =>
    rw [List.flatMap_cons, ih, List.filter_cons, due]
    split <;> rfl

/-! ## The head of an element -/

/-- An element is remarked to tell of behaviour if its node does, and there are further remarks. -/
structure Remarked (a : Attributes) (more : List String) (h : ElementHead) : Prop where
  hint : h.remarks.interactionHint = interactionHint a.name
  warnings : h.remarks.warnings = (interactionHint a.name).toList.map hintWarning ++ more

section
variable {s : Surroundings} {a : Attributes} {more : List String} {h : ElementHead}

lemma Remarked.addWarning (hh : Remarked a [] h) (warning : String) :
    Remarked a [warning] (addWarning warning h) := by
  refine ⟨hh.hint,?_⟩
  rw [FromDesign.addWarning, hh.warnings, List.append_nil]

lemma Remarked.withContent (hh : Remarked a more h) (s : Surroundings) :
    Remarked a more (withContent s a h) := ⟨hh.hint,hh.warnings⟩

lemma remarked_startHead (c : Classification) (a : Attributes) :
    Remarked a [] (startHead s c a).1 := by
  unfold startHead
  cases hi : interactionHint a.name with
  | none => exact ⟨hi.symm,by rw [hi]; rfl⟩
  | some hint => exact ⟨hi.symm,by rw [hi]; rfl⟩

/-- The first character of a remark about behaviour. -/
lemma head?_hintWarning (hint : String) : (hintWarning hint).toList.head? = some 'i' :=
  head?_toList_append (head?_toList_append (by decide +kernel) hint) ")"

lemma isUnreadRemark_of_head? {remark : String} {c : Char} (h : remark.toList.head? = some c)
    (hc : c ≠ 's') : isUnreadRemark remark = false := by
  have hstart : "source node could not be parsed: ".toList.head? = some 's' := by decide +kernel
  rw [isUnreadRemark, Bool.eq_false_iff]
  intro hp
  obtain ⟨rest,hrest⟩ := List.isPrefixOf_iff_prefix.mp hp
  rw [← hrest, List.head?_append, hstart, Option.some_or] at h
  exact hc (Option.some.inj h).symm

lemma isUnreadRemark_noAutoLayout : isUnreadRemark noAutoLayoutWarning = false :=
  isUnreadRemark_of_head? (c := 'n') (by decide +kernel) (by decide)

lemma Remarked.isPlaceholder_eq (hh : Remarked a more h) :
    isPlaceholder h = more.any isUnreadRemark := by
  rw [isPlaceholder, hh.warnings, List.any_append]
  cases interactionHint a.name with
  | none => rfl
  | some hint => simp [isUnreadRemark_of_head? (head?_hintWarning hint)]

lemma noAutoLayoutWarning_ne (hint : String) : noAutoLayoutWarning ≠ hintWarning hint := by
  have hstart : noAutoLayoutWarning.toList.head? = some 'n' := by decide +kernel
  intro he
  rw [he, head?_hintWarning] at hstart
  exact absurd (Option.some.inj hstart) (by decide)

lemma Remarked.positionsByHand_eq (hh : Remarked a more h) :
    positionsByHand h = more.contains noAutoLayoutWarning := by
  rw [positionsByHand, hh.warnings]
  cases interactionHint a.name with
  | none => rfl
  | some hint => simp [noAutoLayoutWarning_ne]

end

/-! ## What is reported of one element -/

/-- Diagnostics that are about the look of elements only. -/
def AboutStyle (ds : Diagnostics) : Prop := ∀ d ∈ ds, d.code = .unsupportedStyle

lemma aboutStyle_nil : AboutStyle [] := List.forall_mem_nil _

lemma AboutStyle.append {ds es : Diagnostics} (hd : AboutStyle ds) (he : AboutStyle es) :
    AboutStyle (ds ++ es) := List.forall_mem_append.mpr ⟨hd,he⟩

section
variable (a : Attributes)

lemma aboutStyle_unsupported (message : String) : AboutStyle (unsupported a message) :=
  List.forall_mem_singleton.mpr rfl

lemma aboutStyle_backgroundOf (p : Paint) : AboutStyle (backgroundOf a p).2 := by
  unfold backgroundOf
  cases p.kind
  case gradientDiamond => exact aboutStyle_unsupported a _
  all_goals exact aboutStyle_nil

lemma aboutStyle_borderOf : AboutStyle (borderOf a).2 := by
  unfold borderOf
  cases borderStroke a.strokes with
  | none => exact aboutStyle_nil
  | some p =>
    change AboutStyle (borderColorOf a p).2
    unfold borderColorOf
    split
    · exact aboutStyle_nil
    · exact aboutStyle_unsupported a _
    · exact aboutStyle_nil

lemma aboutStyle_shadowsOf (es : List Effect) : AboutStyle (shadowsOf a es).2 := by
  induction es with
  | nil => exact aboutStyle_nil
  | cons e es ih =>
    rw [shadowsOf]
    dsimp only
    split
    · exact ih
    · cases e.kind
      case layerBlur | backgroundBlur => exact (aboutStyle_unsupported a _).append ih
      all_goals exact ih

lemma aboutStyle_fontOf : AboutStyle (fontOf a).2 := by
  have htext : AboutStyle (textColorOf a).2 := by
    unfold textColorOf
    cases topFill a.fills with
    | none => exact aboutStyle_nil
    | some p =>
      dsimp only
      split
      · exact aboutStyle_nil
      · exact aboutStyle_unsupported a _
  unfold fontOf
  dsimp only
  split <;> exact htext

lemma aboutStyle_styleOf : AboutStyle (styleOf a).2 := by
  unfold styleOf
  dsimp only
  refine ((AboutStyle.append ?_ ?_).append (aboutStyle_borderOf a)).append
    (aboutStyle_shadowsOf a _)
  · split
    · exact aboutStyle_fontOf a
    · exact aboutStyle_nil
  · split
    · exact aboutStyle_nil
    · split
      · exact aboutStyle_backgroundOf a _
      · exact aboutStyle_nil

end

section
variable {s : Surroundings} {code : DiagnosticCode}

/-- Before anything is done that its kind asks for, only the behaviour of an element is reported. -/
lemma subjects_startHead (hcode : code ∈ elementCodes) (c : Classification) (a : Attributes) :
    subjects (startHead s c a).2 code =
      if code = .interactionHint ∧ (interactionHint a.name).isSome then [some a.id] else [] := by
  have hstyle : subjects (styleOf a).2 code = [] := by
    refine subjects_of_forall (aboutStyle_styleOf a) ?_
    rintro rfl
    exact absurd hcode (by decide)
  unfold startHead
  cases interactionHint a.name with
  | none => simp [hstyle]
  | some hint => simp [hstyle, addHint]

/-- An instance is remarked and reported once if it names no component that is known. -/
lemma withComponent_cases {a : Attributes} {h : ElementHead} (hh : Remarked a [] h) :
    a.componentId.any s.registry.contains = true ∧ Remarked a [] (withComponent s a h).1 ∧
        (withComponent s a h).2 = [] ∨
      a.componentId.any s.registry.contains = false ∧
        ∃ remark message, isUnreadRemark remark = false ∧ remark ≠ noAutoLayoutWarning ∧
          Remarked a [remark] (withComponent s a h).1 ∧
          (withComponent s a h).2 = [.warning .nodeNotFound (some a.id) message] := by
  unfold withComponent
  cases a.componentId with
  | none => exact .inr ⟨rfl,_,_,by decide +kernel,by decide +kernel,hh.addWarning _,rfl⟩
  | some id =>
    have hi : Remarked a [] { h with instanceOf := some ⟨id,overridesOf a⟩ } :=
      ⟨hh.hint,hh.warnings⟩
    dsimp only
    cases hr : s.registry.get? id with
    | some entry =>
      refine .inl ⟨?_,⟨hi.hint,hi.warnings⟩,rfl⟩
      rw [Option.any_some, ComponentRegistry.contains, hr]
      rfl
    | none =>
      have hstart : ("component " ++ id ++ " not found").toList.head? = some 'c' :=
        head?_toList_append (head?_toList_append (by decide +kernel) id) _
      refine .inr ⟨?_,_,_,?_,?_,hi.addWarning _,rfl⟩
      · rw [Option.any_some, ComponentRegistry.contains, hr]
        rfl
      · exact isUnreadRemark_of_head? hstart (by decide)
      · intro he
        rw [he] at hstart
        exact absurd hstart (by decide +kernel)

/-- A container is remarked and reported once if it does not arrange its children. -/
lemma withShownChildren_cases {a : Attributes} {h : ElementHead} (hh : Remarked a [] h)
    (shown : List Child) :
    a.hasAutoLayout = true ∧ Remarked a [] (withShownChildren a shown h).1 ∧
        (withShownChildren a shown h).2 = [] ∨
      a.hasAutoLayout = false ∧
        Remarked a [noAutoLayoutWarning] (withShownChildren a shown h).1 ∧
        ∃ message, (withShownChildren a shown h).2 =
          [.warning .noAutoLayout (some a.id) message] := by
  unfold withShownChildren
  cases a.hasAutoLayout with
  | true =>
    refine .inl ⟨rfl,?_,rfl⟩
    cases shown.any isOptedOut with
    | true => exact ⟨hh.hint,hh.warnings⟩
    | false => exact hh
  | false =>
    refine .inr ⟨rfl,?_,_,rfl⟩
    exact Remarked.addWarning (h := { h with
      layout := { h.layout with position := .relative }
      remarks := { h.remarks with hasAbsoluteChildren := true } }) ⟨hh.hint,hh.warnings⟩ _

/-- What is due for an element by its remarks, and by its kind. -/
lemma due_of_remarked {r : ComponentRegistry} {a : Attributes} {more : List String}
    {h : ElementHead} (hh : Remarked a more h) (hid : h.sourceId = a.id)
    (hcode : code ∈ elementCodes) : due r code h =
      (if code = .interactionHint ∧ (interactionHint a.name).isSome then [some a.id] else []) ++
      (if code = .nodeParseFailure ∧ more.any isUnreadRemark ∨
          code = .noAutoLayout ∧ noAutoLayoutWarning ∈ more ∨
          code = .nodeNotFound ∧ lacksComponent r h then [some a.id] else []) := by
  simp only [elementCodes, List.mem_cons, List.not_mem_nil, or_false] at hcode
  obtain rfl | rfl | rfl | rfl := hcode <;>
    simp [due, bears, hid, hh.isPlaceholder_eq, hh.positionsByHand_eq, tellsOfBehaviour, hh.hint]

lemma lacksComponent_assemble (c : Classification) (a : Attributes) (children : List Child)
    (built : Reported (List Element)) :
    lacksComponent s.registry (assemble s c a children built).1.head =
      (c.kind == .componentInstance && !a.componentId.any s.registry.contains) := by
  rw [lacksComponent, (headOf_assemble s c a children built).kind, instanceOf_assemble]
  cases c.kind
  case componentInstance => cases a.componentId <;> rfl
  all_goals rfl

/-- What an assembled element is remarked beyond its behaviour, and what is reported with that: it
positions its children by hand, or it lacks a component. -/
theorem remarked_assemble (s : Surroundings) (c : Classification) (a : Attributes)
    (children : List Child) (built : Reported (List Element)) :
    ∃ more own, Remarked a more (assemble s c a children built).1.head ∧
      more.any isUnreadRemark = false ∧
      (assemble s c a children built).2 = (startHead s c a).2 ++ own ++
        (if c.kind.holdsChildren && children.any isShown then built.2 else []) ∧
      ∀ code, subjects own code =
        if code = .noAutoLayout ∧ noAutoLayoutWarning ∈ more ∨
            code = .nodeNotFound ∧ lacksComponent s.registry (assemble s c a children built).1.head
        then [some a.id] else [] := by
  have hlack := lacksComponent_assemble (s := s) c a children built
  have hrem := remarked_startHead (s := s) c a
  rw [hlack]
  unfold assemble
  cases hk : c.kind
  case text =>
    exact ⟨[],[],hrem.withContent s,rfl,by simp [ElementKind.holdsChildren],by simp⟩
  case image | icon | divider =>
    exact ⟨[],[],hrem,rfl,by simp [ElementKind.holdsChildren],by simp⟩
  case componentInstance =>
    obtain ⟨hknown,hh,hds⟩ | ⟨hknown,remark,message,hread,hother,hh,hds⟩ :=
      withComponent_cases (s := s) hrem
    · exact ⟨[],[],hh,rfl,by simp [hds, ElementKind.holdsChildren],by simp [hknown]⟩
    · exact ⟨[remark],[.warning .nodeNotFound (some a.id) message],hh,by simp [hread],
        by simp [hds, ElementKind.holdsChildren],by simp [hknown, hother.symm]⟩
  case container | component =>
    cases hf : children.filter isShown with
    | nil =>
      have hnone : children.any isShown = false := by
        rw [List.any_eq_false]
        exact List.filter_eq_nil_iff.mp hf
      exact ⟨[],[],hrem,rfl,by simp [hnone],by simp⟩
    | cons d ds =>
      have hsome : children.any isShown = true := by
        rw [List.any_eq_true]
        exact ⟨d,List.mem_filter.mp (hf ▸ List.mem_cons_self)⟩
      obtain ⟨-,hh,hds⟩ | ⟨-,hh,message,hds⟩ := withShownChildren_cases hrem (d :: ds)
      · exact ⟨[],[],hh,rfl,by simp [hds, hsome, ElementKind.holdsChildren],by simp⟩
      · exact ⟨[noAutoLayoutWarning],[.warning .noAutoLayout (some a.id) message],hh,
          by simp [isUnreadRemark_noAutoLayout],
          by simp [hds, hsome, ElementKind.holdsChildren],by simp⟩

/-- The diagnostics about an element and the elements inside it: what is due for the element, and
what was reported of its children if it holds them. -/
theorem subjects_assemble (hcode : code ∈ elementCodes) (c : Classification) (a : Attributes)
    (children : List Child) (built : Reported (List Element)) :
    subjects (assemble s c a children built).2 code =
      due s.registry code (assemble s c a children built).1.head ++
        if c.kind.holdsChildren && children.any isShown then subjects built.2 code else [] := by
  obtain ⟨more,own,hh,hread,hds,hown⟩ := remarked_assemble s c a children built
  have hid := (headOf_assemble s c a children built).sourceId
  rw [hds, due_of_remarked hh hid hcode, subjects_append, subjects_append,
    subjects_startHead hcode, hown, hread]
  congr 1
  · simp
  · split <;> rfl

/-- The element of a node does not stand for an unread child. -/
lemma isPlaceholder_assemble (s : Surroundings) (c : Classification) (a : Attributes)
    (children : List Child) (built : Reported (List Element)) :
    isPlaceholder (assemble s c a children built).1.head = false := by
  obtain ⟨more,-,hh,hread,-⟩ := remarked_assemble s c a children built
  rw [hh.isPlaceholder_eq, hread]

end

end FromDesign

end DesignCompiler
