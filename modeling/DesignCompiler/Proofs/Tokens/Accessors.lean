import DesignCompiler.Decimal.Reading
import DesignCompiler.Proofs.Markup.ScriptStrings
import DesignCompiler.Proofs.Text.Lines
import DesignCompiler.Proofs.Tokens.Access
import DesignCompiler.Proofs.UserBlocks.Marker

/-! Property accesses as scripts read them. A chain of accesses names the segments of its path
exactly if each segment can stand in an access as it is: nothing is escaped, and digits are written
as a number. Segments without quotes always make different chains. -/
namespace DesignCompiler.Tokens
open Markup

/-! ## Reading -/

/-- Digits that are a whole number in a script: no zero stands ahead of others. -/
def isWholeNumber (ds : List Char) : Bool := ds == ['0'] || ds.head?.any (· != '0')

section
variable (numberKey : ℕ → String)

/-- The key that the first access of a chain names, and the rest of the chain: an identifier after a
dot, a script string in brackets, or a whole number in brackets, whose key is `numberKey` of it. -/
def accessKey? : List Char → Option (String × List Char)
  | '.' :: cs =>
    let name := cs.takeWhile isIdentifierChar
    if isScriptIdentifier name then some (String.ofList name,cs.dropWhile isIdentifierChar)
    else none
  | '[' :: '\'' :: cs =>
    match scriptRest? cs with
    | some (text,']' :: rest) => some (String.ofList text,rest)
    | _ => none
  | '[' :: cs =>
    let digits := cs.takeWhile Char.isDigit
    match cs.dropWhile Char.isDigit with
    | ']' :: rest =>
      if isWholeNumber digits then some (numberKey (Decimal.natOfDigits digits),rest) else none
    | _ => none
  | _ => none

/-- The keys that a text names from a root on, if it is the root with a chain of accesses. -/
def keysFrom? (root text : String) : Option (List String) :=
  (Text.afterPrefix? root.toList text.toList).bind (Text.readAll? (accessKey? numberKey))

/-- Whether the access to a key names it: an identifier, a whole number whose key it is, or a text
that needs no escapes between quotes. -/
def IsNamed (key : String) : Prop :=
  isScriptIdentifier key.toList = true ∨
    if key.toList.all Char.isDigit then
      isWholeNumber key.toList = true ∧ numberKey (Decimal.natOfDigits key.toList) = key
    else ∀ c ∈ key.toList, isQuotable c = true

instance (key : String) : Decidable (IsNamed numberKey key) := by
  unfold IsNamed
  infer_instance

end

/-! ## The three accesses -/

section
variable {numberKey : ℕ → String} {key key' : String} {rest rest' : List Char}

/-- A name is read to its end if no character of a name comes after it. -/
lemma accessKey?_name (hname : isScriptIdentifier key.toList = true)
    (hrest : ∀ c ∈ rest.head?, isIdentifierChar c = false) :
    accessKey? numberKey ('.' :: (key.toList ++ rest)) = some (key,rest) := by
  obtain ⟨htake,hdrop⟩ := takeWhile_append_of_head (all_of_isScriptIdentifier hname) hrest
  simp only [accessKey?, htake, hdrop, hname, if_true, String.ofList_toList]

/-- Digits and the bracket after them do not begin with a quote. -/
lemma digits_append_ne (hdigits : key.toList.all Char.isDigit = true) (cs : List Char) :
    key.toList ++ ']' :: rest ≠ '\'' :: cs := by
  intro he
  cases hkey : key.toList with
  | nil => simp [hkey] at he
  | cons d ds =>
    rw [hkey] at he hdigits
    cases he
    simp at hdigits

lemma accessKey?_number (hdigits : key.toList.all Char.isDigit = true) :
    accessKey? numberKey ('[' :: (key.toList ++ ']' :: rest)) =
      if isWholeNumber key.toList then some (numberKey (Decimal.natOfDigits key.toList),rest)
      else none := by
  have hclose : ∀ c ∈ (']' :: rest).head?, c.isDigit = false := by simp
  obtain ⟨htake,hdrop⟩ := takeWhile_append_of_head (List.all_eq_true.mp hdigits) hclose
  rw [accessKey?.eq_3 _ _ (digits_append_ne hdigits)]
  simp only [htake, hdrop]

/-- A key between quotes is read as itself exactly if it needs no escapes. -/
lemma accessKey?_text :
    accessKey? numberKey ('[' :: '\'' :: (key.toList ++ '\'' :: ']' :: rest)) = some (key,rest') ↔
      (∀ c ∈ key.toList, isQuotable c = true) ∧ rest' = rest := by
  constructor
  · intro h
    rw [accessKey?] at h
    split at h
    · next text rest'' hread =>
      obtain ⟨hkey,hrest⟩ := Prod.mk.inj (Option.some.inj h)
      rw [← String.ofList_toList (s := key), String.ofList_inj] at hkey
      subst hkey hrest
      obtain ⟨hall,he⟩ := isQuotable_of_scriptRest? hread
      exact ⟨hall,(List.cons.inj he).2⟩
    · contradiction
  · rintro ⟨hall,rfl⟩
    rw [accessKey?, scriptRest?_of_isQuotable hall]
    simp only [String.ofList_toList]

/-- The access to a key is read as that key exactly if it names it. -/
theorem accessKey?_access_iff (hrest : ∀ c ∈ rest.head?, isIdentifierChar c = false) :
    accessKey? numberKey ((TokenPath.access key).toList ++ rest) = some (key,rest') ↔
      IsNamed numberKey key ∧ rest' = rest := by
  have hform := accessForm_access key
  generalize (TokenPath.access key).toList = cs at hform ⊢
  unfold IsNamed
  cases hform with
  | name hname => simp [accessKey?_name hname hrest, hname, @eq_comm _ rest]
  | number hname hdigits =>
    simp [accessKey?_number hdigits, hname, hdigits, @eq_comm _ rest, and_assoc]
  | text hname hdigits => simp [accessKey?_text, hname, hdigits]

end

/-! ## Chains -/

section
variable {numberKey : ℕ → String}

/-- A chain is read as the keys for which it is written exactly if their accesses name them all. -/
theorem readAll?_accesses_iff (keys : List String) :
    Text.readAll? (accessKey? numberKey) (accesses keys) = some keys ↔
      ∀ key ∈ keys, IsNamed numberKey key := by
  induction keys with
  | nil => simp [accesses]
  | cons key keys ih =>
    have hstep : ∀ rest, accessKey? numberKey ((TokenPath.access key).toList ++ accesses keys) =
        some (key,rest) ↔ IsNamed numberKey key ∧ rest = accesses keys :=
      fun rest => accessKey?_access_iff (head?_accesses keys)
    -- an access has a character at least, so that what comes after it is shorter
    have hshorter : (accesses keys).length <
        ((TokenPath.access key).toList ++ accesses keys).length := by
      obtain ⟨c,cs,hc,-⟩ := head?_access key
      rw [hc, List.length_append, List.length_cons]
      omega
    rw [accesses_cons, List.forall_mem_cons, Text.readAll?_eq_cons_iff hshorter hstep, ih]

/-! ## Different keys -/

/-- Keys without quotes that begin the same chain are the same. -/
lemma access_append_inj {key key' : String} {rest rest' : List Char}
    (hkey : '\'' ∉ key.toList) (hkey' : '\'' ∉ key'.toList)
    (hrest : ∀ c ∈ rest.head?, isIdentifierChar c = false)
    (hrest' : ∀ c ∈ rest'.head?, isIdentifierChar c = false)
    (h : (TokenPath.access key).toList ++ rest = (TokenPath.access key').toList ++ rest') :
    key = key' ∧ rest = rest' := by
  have hform := accessForm_access key
  have hform' := accessForm_access key'
  generalize (TokenPath.access key).toList = cs at hform h
  generalize (TokenPath.access key').toList = cs' at hform' h
  rw [← String.toList_inj]
  cases hform with
  | name hname =>
    cases hform' with
    | name hname' =>
      have hchars : key.toList ++ rest = key'.toList ++ rest' := (List.cons.inj h).2
      obtain ⟨htake,hdrop⟩ := takeWhile_append_of_head (all_of_isScriptIdentifier hname) hrest
      obtain ⟨htake',hdrop'⟩ := takeWhile_append_of_head (all_of_isScriptIdentifier hname') hrest'
      rw [hchars] at htake hdrop
      exact ⟨htake.symm.trans htake',hdrop.symm.trans hdrop'⟩
    | number | text => cases h
  | number hname hdigits =>
    cases hform' with
    | name => cases h
    | number hname' hdigits' =>
      have hopen : ∀ {s : String}, s.toList.all Char.isDigit = true → ']' ∉ s.toList :=
        fun hs hmem => absurd (List.all_eq_true.mp hs _ hmem) (by decide)
      have hchars : key.toList ++ ']' :: rest = key'.toList ++ ']' :: rest' := by simpa using h
      have hcut := Text.cutAt_append (hopen hdigits) rest
      rw [hchars, Text.cutAt_append (hopen hdigits')] at hcut
      obtain ⟨hkeys,hrests⟩ := Prod.mk.inj (Option.some.inj hcut)
      exact ⟨hkeys.symm,hrests.symm⟩
    | text => exact absurd (by simpa using h) (digits_append_ne hdigits _)
  | text hname hdigits =>
    cases hform' with
    | name => cases h
    | number hname' hdigits' => exact absurd (by simpa using h.symm) (digits_append_ne hdigits' _)
    | text hname' hdigits' =>
      have hchars : key.toList ++ '\'' :: ']' :: rest = key'.toList ++ '\'' :: ']' :: rest' := by
        simpa using h
      have hcut := Text.cutAt_append hkey (']' :: rest)
      rw [hchars, Text.cutAt_append hkey'] at hcut
      obtain ⟨hkeys,hrests⟩ := Prod.mk.inj (Option.some.inj hcut)
      exact ⟨hkeys.symm,(List.cons.inj hrests).2.symm⟩

/-- Keys without quotes make different chains. -/
theorem accesses_inj {keys keys' : List String} (hkeys : ∀ key ∈ keys, '\'' ∉ key.toList)
    (hkeys' : ∀ key ∈ keys', '\'' ∉ key.toList) (h : accesses keys = accesses keys') :
    keys = keys' := by
  have hne : ∀ key keys, accesses (key :: keys) ≠ [] := by
    intro key keys he
    obtain ⟨c,cs,hc,-⟩ := head?_access key
    simp [accesses_cons, hc] at he
  induction keys generalizing keys' with
  | nil =>
    cases keys' with
    | nil => rfl
    | cons key' keys' => exact absurd h.symm (hne key' keys')
  | cons key keys ih =>
    cases keys' with
    | nil => exact absurd h (hne key keys)
    | cons key' keys' =>
      rw [List.forall_mem_cons] at hkeys hkeys'
      rw [accesses_cons, accesses_cons] at h
      obtain ⟨rfl,hrest⟩ := access_append_inj hkeys.1 hkeys'.1 (head?_accesses keys)
        (head?_accesses keys') h
      rw [ih hkeys.2 hkeys'.2 hrest]

/-- An accessor names exactly the segments of its path if and only if each segment is named by its
own access, whatever the keys of whole numbers are. Paths without quotes have different
accessors. -/
theorem accessor_names_segments_iff (numberKey : ℕ → String) (p : TokenPath) (root : String) :
    (keysFrom? numberKey root (p.accessor root) = some p.segments ↔
        ∀ key ∈ p.segments, IsNamed numberKey key) ∧
      ∀ q : TokenPath, (∀ key ∈ p.segments ++ q.segments, '\'' ∉ key.toList) →
        p.accessor root = q.accessor root → p = q := by
  refine ⟨?_,fun q hkeys h => ?_⟩
  · rw [keysFrom?, UserBlocks.afterPrefix?_eq_some.mpr (toList_accessor p root), Option.bind_some]
    exact readAll?_accesses_iff p.segments
  · rw [List.forall_mem_append] at hkeys
    have hchains : accesses p.segments = accesses q.segments := by
      rw [← String.toList_inj, toList_accessor, toList_accessor] at h
      exact List.append_cancel_left h
    cases p
    cases q
    exact congrArg TokenPath.mk (accesses_inj hkeys.1 hkeys.2 hchains)

end

/-- A name, a text with a point and a number are named by their accesses, and no other path has the
same accessor unless a quote stands in it. -/
theorem accessor_names_segments_iff_brand :
    let p : TokenPath := ⟨["colors","brand.1","500"]⟩
    let text := "theme.colors['brand.1'][500]"
    p.accessor "theme" = text ∧ keysFrom? toString "theme" text = some p.segments ∧
      ∀ q : TokenPath, (∀ key ∈ q.segments, '\'' ∉ key.toList) → q.accessor "theme" = text →
        q = p := by
  intro p text
  have htext : p.accessor "theme" = text := by decide +kernel
  obtain ⟨hread,hdistinct⟩ := accessor_names_segments_iff toString p "theme"
  rw [htext] at hread hdistinct
  refine ⟨htext,hread.mpr (by decide +kernel),fun q hq h => (hdistinct q ?_ h.symm).symm⟩
  exact List.forall_mem_append.mpr ⟨by decide +kernel,hq⟩

/-- A quote in a key is not escaped, so that one key reads as two and two paths share an
accessor. -/
theorem quoted_key_shares_accessor :
    let p : TokenPath := ⟨["a b']['c d"]⟩
    let q : TokenPath := ⟨["a b","c d"]⟩
    p ≠ q ∧ p.accessor "theme" = "theme['a b']['c d']" ∧ q.accessor "theme" = p.accessor "theme" ∧
      keysFrom? toString "theme" (p.accessor "theme") = some q.segments := by
  intro p q
  have htext : q.accessor "theme" = p.accessor "theme" := by decide +kernel
  have hread : Text.readAll? (accessKey? toString) (accesses q.segments) = some q.segments :=
    (readAll?_accesses_iff q.segments).mpr (by decide +kernel)
  refine ⟨by decide,by decide +kernel,htext,?_⟩
  rw [← htext, keysFrom?, UserBlocks.afterPrefix?_eq_some.mpr (toList_accessor q "theme")]
  exact hread

end DesignCompiler.Tokens
