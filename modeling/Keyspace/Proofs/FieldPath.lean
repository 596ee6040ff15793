import Keyspace.StructuredQuery
import Mathlib.Data.List.Basic

set_option autoImplicit false

namespace Keyspace.FieldPath

def unquote? (escaped : Bool) : List Char → Option (List Char)
  | [] => none
  | c :: rest =>
    if escaped then (unquote? false rest).map (c :: ·)
    else if c = '\\' then unquote? true rest
    else if c = '\x60' then if rest.isEmpty then some [] else none
    else (unquote? false rest).map (c :: ·)

def name? (path : String) : Option String :=
  match path.toList with
  | '\x60' :: quoted => (unquote? false quoted).map String.ofList
  | cs => if isPlain cs then some path else none

theorem unquote?_quoted (cs : List Char) :
    unquote? false (cs.flatMap quotedChar ++ ['\x60']) = some cs := by
  induction cs with
  | nil => rfl
  | cons c cs ih =>
    rw [List.flatMap_cons, List.append_assoc, quotedChar]
    split
    · simp [unquote?, ih]
    · rename_i hc
      obtain ⟨hslash, htick⟩ := not_or.1 hc
      simp [unquote?, hslash, htick, ih]

theorem ne_backtick_of_isStart {c : Char} (h : isStart c = true) : c ≠ '\x60' := by
  rintro rfl
  exact absurd h (by decide)

theorem name?_ofName (name : String) : name? (ofName name) = some name := by
  unfold ofName
  split
  · rename_i hplain
    unfold name?
    split
    · rename_i quoted hquoted
      rw [hquoted, isPlain, Bool.and_eq_true] at hplain
      exact absurd rfl (ne_backtick_of_isStart hplain.1)
    · rw [if_pos hplain]
  · simp only [name?, String.toList_ofList, List.cons_append]
    rw [unquote?_quoted, Option.map_some, String.ofList_toList]

theorem ofName_injective : Function.Injective ofName := by
  intro name other h
  have hread := name?_ofName name
  rw [h, name?_ofName, Option.some.injEq] at hread
  exact hread.symm

def replaced (c : Char) (new cs : List Char) : List Char :=
  cs.flatMap fun d => if d = c then new else [d]

/-- Backslashes are escaped first: the other way round, those in front of the backticks would be
escaped once more. -/
def escape (cs : List Char) : List Char :=
  replaced '\x60' ['\\', '\x60'] (replaced '\\' ['\\', '\\'] cs)

theorem flatMap_quotedChar (cs : List Char) : cs.flatMap quotedChar = escape cs := by
  induction cs with
  | nil => rfl
  | cons c cs ih =>
    simp only [escape, replaced, List.flatMap_cons, List.flatMap_append] at ih ⊢
    rw [ih, List.append_left_inj, quotedChar]
    by_cases hslash : c = '\\'
    · subst hslash
      rfl
    · by_cases htick : c = '\x60' <;> simp [hslash, htick]

theorem toList_ofName {name : String} (h : isPlain name.toList = false) :
    (ofName name).toList = '\x60' :: escape name.toList ++ ['\x60'] := by
  rw [ofName, h, if_neg Bool.false_ne_true, String.toList_ofList, flatMap_quotedChar]

/-- A path can be read so that it leads along names: to a field of the document, from there to a
field of that field, and so on. -/
inductive LeadsTo : String → List String → Prop where
  | last {path name : String} (h : name? path = some name) : LeadsTo path [name]
  | dot {first rest name : String} {names : List String} (hfirst : name? first = some name)
      (hrest : LeadsTo rest names) : LeadsTo (first ++ "." ++ rest) (name :: names)

theorem name?_eq_some_iff {path name : String} :
    name? path = some name ↔
      (∃ quoted, path.toList = '\x60' :: quoted ∧ unquote? false quoted = some name.toList) ∨
        isPlain path.toList = true ∧ path = name := by
  unfold name?
  split
  · rename_i quoted hquoted
    have hplain : isPlain path.toList = false := by
      rw [hquoted]
      rfl
    simp only [Option.map_eq_some_iff, hquoted, List.cons.injEq, true_and]
    constructor
    · rintro ⟨cs, hcs, rfl⟩
      exact .inl ⟨quoted, rfl, by rw [hcs, String.toList_ofList]⟩
    · rintro (⟨_, rfl, h⟩ | ⟨h, -⟩)
      · exact ⟨name.toList, h, String.ofList_toList⟩
      · cases h
  · rename_i cs hne
    constructor
    · intro h
      by_cases hplain : isPlain path.toList = true
      · rw [if_pos hplain, Option.some.injEq] at h
        exact .inr ⟨hplain, h⟩
      · rw [if_neg hplain] at h
        cases h
    · rintro (⟨quoted, hquoted, -⟩ | ⟨hplain, rfl⟩)
      · exact (hne quoted hquoted).elim
      · rw [if_pos hplain]

/-- A quotation is over at its closing backtick: with more behind it, the text is no quotation. -/
theorem unquote?_append_cons {escaped : Bool} {cs name : List Char}
    (h : unquote? escaped cs = some name) (c : Char) (rest : List Char) :
    unquote? escaped (cs ++ c :: rest) = none := by
  induction cs generalizing escaped name with
  | nil => simp [unquote?] at h
  | cons d cs ih =>
    simp only [List.cons_append, unquote?] at h ⊢
    cases escaped with
    | true =>
      obtain ⟨inner, hinner, -⟩ := Option.map_eq_some_iff.1 h
      simp [ih hinner]
    | false =>
      by_cases hslash : d = '\\'
      · simp only [hslash, if_true, Bool.false_eq_true, if_false] at h ⊢
        exact ih h
      · by_cases htick : d = '\x60'
        · simp [htick]
        · simp only [hslash, htick, if_false, Bool.false_eq_true] at h ⊢
          obtain ⟨inner, hinner, -⟩ := Option.map_eq_some_iff.1 h
          simp [ih hinner]

theorem isPlain_append_dot (cs rest : List Char) : isPlain (cs ++ '.' :: rest) = false := by
  cases cs with
  | nil => rfl
  | cons c cs => simp [isPlain, isRest]

theorem toList_dotted (first rest : String) :
    (first ++ "." ++ rest).toList = first.toList ++ '.' :: rest.toList := by
  simp

theorem name?_append_dot {first name path : String} (h : name? first = some name)
    {rest : List Char} (hpath : path.toList = first.toList ++ '.' :: rest) :
    name? path = none := by
  rw [Option.eq_none_iff_forall_ne_some]
  intro other hother
  rcases name?_eq_some_iff.1 hother with ⟨quoted, hquoted, hread⟩ | ⟨hplain, -⟩
  · rcases name?_eq_some_iff.1 h with ⟨inner, hinner, hread'⟩ | ⟨hplain, -⟩
    · rw [hpath, hinner, List.cons_append, List.cons.injEq] at hquoted
      rw [← hquoted.2, unquote?_append_cons hread'] at hread
      cases hread
    · cases hfirst : first.toList with
      | nil => simp [hfirst, isPlain] at hplain
      | cons c cs =>
        rw [hpath, hfirst, List.cons_append, List.cons.injEq] at hquoted
        rw [hfirst, isPlain, Bool.and_eq_true] at hplain
        exact ne_backtick_of_isStart hplain.1 hquoted.1
  · rw [hpath, isPlain_append_dot] at hplain
    cases hplain

theorem eq_nil_of_append {first first' name name' : String} (h : name? first = some name)
    (h' : name? first' = some name') {more rest rest' : List Char}
    (hmore : first'.toList = first.toList ++ more) (hrest : '.' :: rest = more ++ '.' :: rest') :
    more = [] := by
  cases more with
  | nil => rfl
  | cons c more =>
    rw [List.cons_append, List.cons.injEq] at hrest
    rw [name?_append_dot h (hrest.1 ▸ hmore)] at h'
    cases h'

/-- The first segment of a path is fixed by the path. -/
theorem segment_unique {first rest first' rest' name name' : String}
    (h : name? first = some name) (h' : name? first' = some name')
    (heq : first ++ "." ++ rest = first' ++ "." ++ rest') : first = first' ∧ rest = rest' := by
  have hlist : first.toList ++ '.' :: rest.toList = first'.toList ++ '.' :: rest'.toList := by
    rw [← toList_dotted, ← toList_dotted, heq]
  have hfirst : first.toList = first'.toList := by
    rcases List.append_eq_append_iff.1 hlist with ⟨more, hmore, hrest⟩ | ⟨more, hmore, hrest⟩
    · rw [hmore, eq_nil_of_append h h' hmore hrest, List.append_nil]
    · rw [hmore, eq_nil_of_append h' h hmore hrest, List.append_nil]
  rw [hfirst, List.append_cancel_left_eq, List.cons.injEq] at hlist
  exact ⟨String.toList_inj.1 hfirst, String.toList_inj.1 hlist.2⟩

theorem LeadsTo.unique {path : String} {names names' : List String} (h : LeadsTo path names)
    (h' : LeadsTo path names') : names = names' := by
  induction h generalizing names' with
  | @last path name hpath =>
    cases h' with
    | last hpath' =>
      rw [hpath, Option.some.injEq] at hpath'
      rw [hpath']
    | @dot first rest _ _ hfirst hrest =>
      rw [name?_append_dot hfirst (toList_dotted first rest)] at hpath
      cases hpath
  | @dot first rest name names hfirst hrest ih =>
    generalize hpath : first ++ "." ++ rest = path at h'
    cases h' with
    | last hpath' =>
      rw [← hpath, name?_append_dot hfirst (toList_dotted first rest)] at hpath'
      cases hpath'
    | dot hfirst' hrest' =>
      obtain ⟨rfl, rfl⟩ := segment_unique hfirst hfirst' hpath
      rw [hfirst, Option.some.injEq] at hfirst'
      rw [hfirst', ih hrest']

/-- The path of a name is the name, if that is a word of letters, digits and underscores, or else
the name with backslashes and backticks escaped, between backticks. Read from left to right, it has
its closing backtick at its end, and what stands before that is the name. So no two names have one
path, and a path leads to the one top-level field it was made for. -/
theorem ofName_unambiguous :
    (∀ name : String,
      (isPlain name.toList = true ∧ ofName name = name ∨
        isPlain name.toList = false ∧
          (ofName name).toList = '\x60' :: escape name.toList ++ ['\x60'] ∧
          unquote? false (escape name.toList ++ ['\x60']) = some name.toList) ∧
      ∀ names, LeadsTo (ofName name) names ↔ names = [name]) ∧
    Function.Injective ofName := by
  refine ⟨fun name => ⟨?_, fun names => ⟨?_, ?_⟩⟩, ofName_injective⟩
  · cases hplain : isPlain name.toList with
    | true => exact .inl ⟨rfl, if_pos hplain⟩
    | false =>
      refine .inr ⟨rfl, toList_ofName hplain, ?_⟩
      rw [← flatMap_quotedChar, unquote?_quoted]
  · intro h
    exact h.unique (.last (name?_ofName name))
  · rintro rfl
    exact .last (name?_ofName name)

example : ofName "a\\\x60" = "\x60a\\\\\\\x60\x60" := by decide

end Keyspace.FieldPath
