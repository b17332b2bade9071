import DesignCompiler.Proofs.Text.Lines
import Mathlib.Data.Int.Notation
import Mathlib.Data.Nat.Notation
import Mathlib.Tactic.ByContra

/-! Where paths lead: `.` and empty names stay in a folder, and `..` leaves it. -/
namespace DesignCompiler.Output

/-- A place among folders: how far it is above where relative paths start, and then the names that
lead to it, the last one first. Above the top of all folders is nothing. -/
structure Location where
  absolute : Bool
  ups : ℕ
  names : List (List Char)
  deriving DecidableEq

namespace Location

/-- The folder around a place. -/
def up (l : Location) : Location :=
  match l.names with
  | _ :: names => { l with names := names }
  | [] => if l.absolute then l else { l with ups := l.ups + 1 }

/-- One name of a path further. -/
def enter (l : Location) (name : List Char) : Location :=
  if name = [] ∨ name = ['.'] then l
  else if name = ['.','.'] then l.up
  else { l with names := name :: l.names }

/-- A path further. -/
def follow (l : Location) (path : List Char) : Location := (path.splitOn '/').foldl enter l

/-- Where paths start. -/
def origin (absolute : Bool) : Location := ⟨absolute,0,[]⟩

/-- Where a path leads. -/
def ofPath (path : List Char) : Location :=
  (origin (path.head? == some '/')).follow path

/-- Whether there is nothing above a place. -/
def IsTop (l : Location) : Prop := l.absolute = true ∧ l.names = []

instance (l : Location) : Decidable l.IsTop := inferInstanceAs (Decidable (_ ∧ _))

/-- Whether a name is that of a file or folder, other than those that every folder has. -/
def IsOrdinary (name : List Char) : Prop := name ≠ [] ∧ name ≠ ['.'] ∧ name ≠ ['.','.']

instance (name : List Char) : Decidable (IsOrdinary name) :=
  inferInstanceAs (Decidable (_ ∧ _ ∧ _))

section
variable {l m : Location} {name name' : List Char}

/-! ## One name -/

@[simp] lemma enter_nil (l : Location) : l.enter [] = l := rfl

@[simp] lemma enter_dot (l : Location) : l.enter ['.'] = l := rfl

@[simp] lemma enter_dots (l : Location) : l.enter ['.','.'] = l.up := rfl

lemma enter_of_isOrdinary (h : IsOrdinary name) :
    l.enter name = { l with names := name :: l.names } := by
  obtain ⟨hnil,hdot,hdots⟩ := h
  rw [enter, if_neg (by simp [hnil, hdot]), if_neg hdots]

lemma up_enter (h : IsOrdinary name) : (l.enter name).up = l := by
  rw [enter_of_isOrdinary h, up]

lemma enter_inj (h : IsOrdinary name) : l.enter name = m.enter name ↔ l = m := by
  constructor
  · intro he
    rw [← up_enter (l := l) h, he, up_enter h]
  · rintro rfl
    rfl

/-- How far below a given folder a place is. -/
def depth (l : Location) : ℤ := l.names.length - l.ups

lemma depth_up (h : ¬ l.IsTop) : l.up.depth = l.depth - 1 := by
  obtain ⟨absolute,ups,names⟩ := l
  cases names with
  | cons name names =>
    simp only [up, depth, List.length_cons]
    omega
  | nil =>
    have ha : absolute = false := by simpa [IsTop] using h
    simp only [up, ha, depth]
    simp
    omega

lemma up_of_isTop (h : l.IsTop) : l.up = l := by
  rw [up, h.2, h.1]
  rfl

lemma isTop_up_up (h : ¬ l.IsTop) (hup : l.up.IsTop) : l.up.up ≠ l := by
  rw [up_of_isTop hup]
  intro he
  rw [he] at hup
  exact h hup

/-- Only the top lies in itself. -/
lemma up_eq_iff : l.up = l ↔ l.IsTop := by
  refine ⟨fun he => ?_,up_of_isTop⟩
  by_contra h
  have hd := depth_up h
  rw [he] at hd
  omega

lemma up_up_eq_iff : l.up.up = l ↔ l.IsTop := by
  refine ⟨fun he => ?_,fun h => by rw [up_of_isTop h, up_of_isTop h]⟩
  by_contra h
  by_cases hup : l.up.IsTop
  · exact isTop_up_up h hup he
  · have hd := depth_up hup
    rw [he, depth_up h] at hd
    omega

/-- Whatever is entered, the folder around it is the one before: unless nothing is entered or the
folder is left, and there is a folder around it. -/
lemma up_enter_eq_iff :
    (l.enter name).up = l ↔ (IsOrdinary name ∨ l.IsTop) := by
  by_cases h : IsOrdinary name
  · exact iff_of_true (up_enter h) (.inl h)
  rw [or_iff_right h]
  simp only [IsOrdinary, not_and_or, not_not] at h
  obtain rfl | rfl | rfl := h
  · rw [enter_nil, up_eq_iff]
  · rw [enter_dot, up_eq_iff]
  · rw [enter_dots, up_up_eq_iff]

/-! ## Paths -/

/-- A name is followed by entering it. -/
lemma follow_of_notMem (h : '/' ∉ name) : l.follow name = l.enter name := by
  rw [follow, List.splitOn_eq_singleton h, List.foldl_cons, List.foldl_nil]

/-- A path is followed in two parts. -/
lemma follow_append_slash (l : Location) (as bs : List Char) :
    l.follow (as ++ '/' :: bs) = (l.follow as).follow bs := by
  unfold follow List.splitOn
  rw [List.splitOnP_append_cons as bs rfl, List.foldl_append]

/-- What stands in a folder is found from there. -/
lemma ofPath_append_slash (folder rest : List Char) :
    ofPath (folder ++ '/' :: rest) = (ofPath (folder ++ ['/'])).follow rest := by
  have hhead : (folder ++ '/' :: rest).head? = (folder ++ ['/']).head? := by
    simp only [List.head?_append, List.head?_cons]
  rw [ofPath, ofPath, follow_append_slash, follow_append_slash, hhead]
  rfl

/-- A slash at the end of a folder's path changes nothing. -/
lemma ofPath_folder {folder : List Char} (h : folder ≠ []) :
    ofPath (folder ++ ['/']) = ofPath folder := by
  obtain ⟨c,cs,rfl⟩ := List.exists_cons_of_ne_nil h
  rw [ofPath, ofPath, follow_append_slash]
  rfl

end

end Location

end DesignCompiler.Output
