import Keyspace.Proofs.Json.Token
import Keyspace.Json.Access
import Mathlib.Data.List.DropRight

set_option autoImplicit false

namespace Keyspace.Json

mutual

/-- How deep the containers of a value nest. -/
def depth : Json → Nat
  | arr xs => depthItems xs + 1
  | obj ms => depthMembers ms + 1
  | _ => 0

def depthItems : List Json → Nat
  | [] => 0
  | x :: xs => max (depth x) (depthItems xs)

def depthMembers : List (String × Json) → Nat
  | [] => 0
  | (_, x) :: ms => max (depth x) (depthMembers ms)

end

mutual

/-- The value that the reader makes of a text of a value that does not nest too deep. -/
def reread : Json → Json
  | num n => num n.reread
  | arr xs => arr (rereadItems xs)
  | obj ms => obj (SortedMap.ofList (rereadMembers ms)).entries
  | v => v

def rereadItems : List Json → List Json
  | [] => []
  | x :: xs => reread x :: rereadItems xs

def rereadMembers : List (String × Json) → List (String × Json)
  | [] => []
  | (k, x) :: ms => (k, reread x) :: rereadMembers ms

end

def Space (t rest : List Char) : Prop := ∃ ws, (∀ c ∈ ws, isSpace c = true) ∧ t = ws ++ rest

def WritesName (k : String) (t rest : List Char) : Prop :=
  ∃ u u', Space t ('"' :: u) ∧ WritesChars k.toList u u' ∧ Space u' (':' :: rest)

mutual

/-- A text that starts with the value, and what follows it. -/
def Writes : Json → List Char → List Char → Prop
  | null, t, rest => Space t ('n' :: 'u' :: 'l' :: 'l' :: rest)
  | bool true, t, rest => Space t ('t' :: 'r' :: 'u' :: 'e' :: rest)
  | bool false, t, rest => Space t ('f' :: 'a' :: 'l' :: 's' :: 'e' :: rest)
  | num n, t, rest => Space t (n.text.toList ++ rest)
  | str s, t, rest => ∃ u, Space t ('"' :: u) ∧ WritesChars s.toList u rest
  | arr [], t, rest => ∃ u, Space t ('[' :: u) ∧ Space u (']' :: rest)
  | arr (x :: xs), t, rest =>
    ∃ u u', Space t ('[' :: u) ∧ Writes x u u' ∧ WritesItems xs u' rest
  | obj [], t, rest => ∃ u, Space t ('\x7b' :: u) ∧ Space u ('\x7d' :: rest)
  | obj ((k, x) :: ms), t, rest => ∃ u u' u'', Space t ('\x7b' :: u) ∧ WritesName k u u' ∧
    Writes x u' u'' ∧ WritesMembers ms u'' rest

def WritesItems : List Json → List Char → List Char → Prop
  | [], t, rest => Space t (']' :: rest)
  | x :: xs, t, rest => ∃ u u', Space t (',' :: u) ∧ Writes x u u' ∧ WritesItems xs u' rest

def WritesMembers : List (String × Json) → List Char → List Char → Prop
  | [], t, rest => Space t ('\x7d' :: rest)
  | (k, x) :: ms, t, rest => ∃ u u' u'', Space t (',' :: u) ∧ WritesName k u u' ∧
    Writes x u' u'' ∧ WritesMembers ms u'' rest

end

/-- The characters are a JSON text of the value. -/
def IsText (cs : List Char) (v : Json) : Prop := ∃ t, Writes v cs t ∧ Space t []

theorem Space.refl (t : List Char) : Space t t := ⟨[], by simp, rfl⟩

theorem skipSpace_cons {c : Char} (h : isSpace c = false) (cs : List Char) :
    skipSpace (c :: cs) = c :: cs := by
  rw [skipSpace, List.dropWhile_cons_of_neg (by simp [h])]

theorem Space.skipSpace {t : List Char} {c : Char} {rest : List Char} (h : Space t (c :: rest))
    (hc : isSpace c = false) : skipSpace t = c :: rest := by
  obtain ⟨ws, hws, rfl⟩ := h
  rw [Json.skipSpace, List.dropWhile_append_of_pos hws]
  exact skipSpace_cons hc rest

theorem Space.length_le {t rest : List Char} (h : Space t rest) : rest.length ≤ t.length := by
  obtain ⟨ws, -, rfl⟩ := h
  simp

theorem ends_number {c : Char} (h : isSpace c = true ∨ c ∈ [',', ']', '\x7d']) :
    c.isDigit = false ∧ c ≠ '.' ∧ c ≠ 'e' ∧ c ≠ 'E' := by
  simp only [isSpace, Bool.or_eq_true, beq_iff_eq, List.mem_cons, List.not_mem_nil, or_false] at h
  rcases h with (((rfl | rfl) | rfl) | rfl) | rfl | rfl | rfl <;> decide

theorem Space.endsNumber {t : List Char} {c : Char} {rest : List Char} (h : Space t (c :: rest))
    (hc : c ∈ [',', ']', '\x7d']) : EndsNumber t := by
  obtain ⟨ws, hws, rfl⟩ := h
  cases ws with
  | nil =>
    rintro _ ⟨⟩
    exact ends_number (.inr hc)
  | cons w ws =>
    rintro _ ⟨⟩
    exact ends_number (.inl (hws w List.mem_cons_self))

theorem WritesChars.length_lt {cs t rest : List Char} (h : WritesChars cs t rest) :
    rest.length < t.length := by
  induction cs generalizing t with
  | nil =>
    rw [WritesChars] at h
    simp [h]
  | cons c cs ih =>
    obtain ⟨t', hc, hcs⟩ := h
    have hlt := ih hcs
    cases hc <;> simp only [List.length_cons] <;> omega

theorem WritesName.length_lt {k : String} {t rest : List Char} (h : WritesName k t rest) :
    rest.length < t.length := by
  obtain ⟨u, u', ht, hk, hrest⟩ := h
  have hfirst := ht.length_le
  have hlast := hrest.length_le
  have hchars := hk.length_lt
  simp only [List.length_cons] at hfirst hlast
  omega

theorem text_cons (n : Number) :
    ∃ c cs, n.text.toList = c :: cs ∧ (c = '-' ∨ c.isDigit = true) := by
  obtain ⟨p, hp, htext, -⟩ := Number.exists_value? n
  obtain ⟨hne, hdigits⟩ := hp.whole
  obtain ⟨c, cs, hwhole⟩ := List.exists_cons_of_ne_nil hne
  rw [← htext, Numeral.text, Numeral.unsigned, hwhole]
  cases p.negative with
  | true => exact ⟨'-', _, rfl, .inl rfl⟩
  | false => exact ⟨c, _, rfl, .inr (hdigits c (by simp [hwhole]))⟩

mutual

theorem Writes.length_lt : ∀ {v : Json} {t rest : List Char}, Writes v t rest →
    rest.length < t.length
  | null, _, _, h | bool true, _, _, h | bool false, _, _, h => by
    have hle := Space.length_le h
    simp only [List.length_cons] at hle
    omega
  | num n, _, _, h => by
    obtain ⟨c, cs, htext, -⟩ := text_cons n
    have hle := Space.length_le h
    simp only [htext, List.cons_append, List.length_cons, List.length_append] at hle
    omega
  | str s, _, _, ⟨_, ht, hs⟩ => by
    have hle := ht.length_le
    have hlt := hs.length_lt
    simp only [List.length_cons] at hle
    omega
  | arr [], _, _, ⟨_, ht, hrest⟩ | obj [], _, _, ⟨_, ht, hrest⟩ => by
    have hle := ht.length_le
    have hle' := hrest.length_le
    simp only [List.length_cons] at hle hle'
    omega
  | arr (x :: xs), _, _, ⟨_, _, ht, hx, hxs⟩ => by
    have hle := ht.length_le
    have hlt := hx.length_lt
    have hlt' := WritesItems.length_lt hxs
    simp only [List.length_cons] at hle
    omega
  | obj ((k, x) :: ms), _, _, ⟨_, _, _, ht, hk, hx, hms⟩ => by
    have hle := ht.length_le
    have hname := hk.length_lt
    have hlt := hx.length_lt
    have hlt' := WritesMembers.length_lt hms
    simp only [List.length_cons] at hle
    omega

theorem WritesItems.length_lt : ∀ {xs : List Json} {t rest : List Char}, WritesItems xs t rest →
    rest.length < t.length
  | [], _, _, h => by
    have hle := Space.length_le h
    simp only [List.length_cons] at hle
    omega
  | x :: xs, _, _, ⟨_, _, ht, hx, hxs⟩ => by
    have hle := ht.length_le
    have hlt := hx.length_lt
    have hlt' := WritesItems.length_lt hxs
    simp only [List.length_cons] at hle
    omega

theorem WritesMembers.length_lt : ∀ {ms : List (String × Json)} {t rest : List Char},
    WritesMembers ms t rest → rest.length < t.length
  | [], _, _, h => by
    have hle := Space.length_le h
    simp only [List.length_cons] at hle
    omega
  | (k, x) :: ms, _, _, ⟨_, _, _, ht, hk, hx, hms⟩ => by
    have hle := ht.length_le
    have hname := hk.length_lt
    have hlt := hx.length_lt
    have hlt' := WritesMembers.length_lt hms
    simp only [List.length_cons] at hle
    omega

end

theorem ne_of_startsNumber {c : Char} (h : c = '-' ∨ c.isDigit = true) {d : Char}
    (hd : d ∈ [' ', '\n', '\t', '\r', 'n', 't', 'f', '"', '[', ']', '\x7b', '\x7d']) : c ≠ d := by
  rintro rfl
  have hall : [' ', '\n', '\t', '\r', 'n', 't', 'f', '"', '[', ']', '\x7b', '\x7d'].all
      (fun c => !(c == '-' || c.isDigit)) = true := by decide
  have hnot := List.all_eq_true.1 hall c hd
  simp only [Bool.not_eq_true', Bool.or_eq_false_iff, beq_eq_false_iff_ne] at hnot
  exact h.elim hnot.1 (by simp [hnot.2])

theorem isSpace_of_startsNumber {c : Char} (h : c = '-' ∨ c.isDigit = true) :
    isSpace c = false := by
  have hne := fun d hd => beq_false_of_ne (ne_of_startsNumber (d := d) h hd)
  simp [isSpace, hne]

theorem readValue_number (n : Number) {t rest : List Char} (ht : Space t (n.text.toList ++ rest))
    (hrest : EndsNumber rest) (fuel depth : Nat) :
    readValue (fuel + 1) depth t = some (num n.reread, rest) := by
  obtain ⟨c, cs, htext, hc⟩ := text_cons n
  have hread := Number.readNumber_text n hrest
  rw [htext, List.cons_append] at hread ht
  rw [readValue, ht.skipSpace (isSpace_of_startsNumber hc)]
  split
  · rename_i h
    exact absurd (List.cons.inj h).1 (ne_of_startsNumber hc (by decide))
  · rename_i h
    exact absurd (List.cons.inj h).1 (ne_of_startsNumber hc (by decide))
  · rename_i h
    exact absurd (List.cons.inj h).1 (ne_of_startsNumber hc (by decide))
  · rename_i h
    exact absurd (List.cons.inj h).1 (ne_of_startsNumber hc (by decide))
  · rename_i h
    exact absurd (List.cons.inj h).1 (ne_of_startsNumber hc (by decide))
  · rename_i h
    exact absurd (List.cons.inj h).1 (ne_of_startsNumber hc (by decide))
  · rw [hread]
    rfl

theorem Writes.skipSpace {v : Json} {t rest : List Char} (h : Writes v t rest) :
    ∃ c cs, Json.skipSpace t = c :: cs ∧ isSpace c = false ∧ c ≠ ']' := by
  cases v with
  | null => exact ⟨_, _, Space.skipSpace h rfl, rfl, by decide⟩
  | bool b => cases b <;> exact ⟨_, _, Space.skipSpace h rfl, rfl, by decide⟩
  | num n =>
    obtain ⟨c, cs, htext, hc⟩ := text_cons n
    rw [Writes, htext] at h
    exact ⟨c, _, h.skipSpace (isSpace_of_startsNumber hc), isSpace_of_startsNumber hc,
      ne_of_startsNumber hc (by decide)⟩
  | str s => exact ⟨_, _, h.choose_spec.1.skipSpace rfl, rfl, by decide⟩
  | arr xs =>
    cases xs with
    | nil => exact ⟨_, _, h.choose_spec.1.skipSpace rfl, rfl, by decide⟩
    | cons x xs =>
      obtain ⟨u, u', ht, -⟩ := h
      exact ⟨_, _, ht.skipSpace rfl, rfl, by decide⟩
  | obj ms =>
    cases ms with
    | nil => exact ⟨_, _, h.choose_spec.1.skipSpace rfl, rfl, by decide⟩
    | cons e ms =>
      obtain ⟨u, u', u'', ht, -⟩ := h
      exact ⟨_, _, ht.skipSpace rfl, rfl, by decide⟩

theorem skipSpace_skipSpace (t : List Char) : skipSpace (skipSpace t) = skipSpace t := by
  rw [skipSpace, skipSpace, List.dropWhile_idempotent]

theorem readValue_skipSpace (fuel limit : Nat) (t : List Char) :
    readValue fuel limit (skipSpace t) = readValue fuel limit t := by
  cases fuel with
  | zero => rfl
  | succ fuel => rw [readValue, readValue, skipSpace_skipSpace]

theorem readItems_skipSpace (fuel limit : Nat) (before : List Json) (t : List Char) :
    readItems fuel limit before (skipSpace t) = readItems fuel limit before t := by
  cases fuel with
  | zero => rfl
  | succ fuel => rw [readItems, readItems, readValue_skipSpace]

theorem readMembers_skipSpace (fuel limit : Nat) (before : List (String × Json)) (t : List Char) :
    readMembers fuel limit before (skipSpace t) = readMembers fuel limit before t := by
  cases fuel with
  | zero => rfl
  | succ fuel => rw [readMembers, readMembers, skipSpace_skipSpace]

theorem WritesItems.endsNumber {xs : List Json} {t rest : List Char} (h : WritesItems xs t rest) :
    EndsNumber t := by
  cases xs with
  | nil => exact Space.endsNumber h (by decide)
  | cons x xs =>
    obtain ⟨u, u', ht, -⟩ := h
    exact ht.endsNumber (by decide)

theorem WritesMembers.endsNumber {ms : List (String × Json)} {t rest : List Char}
    (h : WritesMembers ms t rest) : EndsNumber t := by
  cases ms with
  | nil => exact Space.endsNumber h (by decide)
  | cons e ms =>
    obtain ⟨u, u', u'', ht, -⟩ := h
    exact ht.endsNumber (by decide)

def ReadsValues (fuel : Nat) : Prop :=
  ∀ {v : Json} {t rest : List Char} (limit : Nat), Writes v t rest → EndsNumber rest →
    2 * t.length ≤ 2 * rest.length + fuel →
    readValue fuel limit t = if v.depth ≤ limit then some (v.reread, rest) else none

def ReadsItems (fuel : Nat) : Prop :=
  ∀ {x : Json} {xs : List Json} {t u rest : List Char} (limit : Nat) (before : List Json),
    Writes x t u → WritesItems xs u rest → 2 * t.length + 1 ≤ 2 * rest.length + fuel →
    readItems fuel limit before t = if depthItems (x :: xs) ≤ limit then
      some (arr (before.reverse ++ rereadItems (x :: xs)), rest) else none

def ReadsMembers (fuel : Nat) : Prop :=
  ∀ {k : String} {x : Json} {ms : List (String × Json)} {t u u' rest : List Char} (limit : Nat)
    (before : SortedMap Json),
    WritesName k t u → Writes x u u' → WritesMembers ms u' rest →
    2 * t.length + 1 ≤ 2 * rest.length + fuel →
    readMembers fuel limit before.entries t = if depthMembers ((k, x) :: ms) ≤ limit then
      some (obj (before.extend (rereadMembers ((k, x) :: ms))).entries, rest) else none

variable {fuel : Nat}

theorem readsValues_succ (hitems : ReadsItems fuel) (hmembers : ReadsMembers fuel) :
    ReadsValues (fuel + 1) := by
  intro v t rest limit h hrest hfuel
  cases v with
  | null => simp [readValue, Space.skipSpace h, isSpace, depth, reread]
  | bool b => cases b <;> simp [readValue, Space.skipSpace h, isSpace, depth, reread]
  | num n => simp [readValue_number n h hrest, depth, reread]
  | str s =>
    obtain ⟨u, ht, hs⟩ := h
    simp [readValue, ht.skipSpace, isSpace, hs.readString, depth, reread]
  | arr xs =>
    cases xs with
    | nil =>
      obtain ⟨u, ht, hu⟩ := h
      cases limit <;>
        simp [readValue, ht.skipSpace, hu.skipSpace, isSpace, depth, reread, depthItems,
          rereadItems]
    | cons x xs =>
      obtain ⟨u, u', ht, hx, hxs⟩ := h
      cases limit with
      | zero => simp [readValue, ht.skipSpace, isSpace, depth]
      | succ limit =>
        have hle := ht.length_le
        rw [List.length_cons] at hle
        have hread := hitems limit [] hx hxs (by omega)
        obtain ⟨c, cs, hskip, -, hne⟩ := hx.skipSpace
        rw [← readItems_skipSpace, hskip] at hread
        simp only [readValue, ht.skipSpace rfl, hskip]
        split
        · rename_i h
          exact absurd (List.cons.inj h).1 hne
        · simpa [depth, reread] using hread
  | obj ms =>
    cases ms with
    | nil =>
      obtain ⟨u, ht, hu⟩ := h
      cases limit <;>
        simp [readValue, ht.skipSpace, hu.skipSpace, isSpace, depth, reread, depthMembers,
          rereadMembers, SortedMap.ofList, SortedMap.extend, SortedMap.empty]
    | cons e ms =>
      obtain ⟨u, u', u'', ht, hk, hx, hms⟩ := h
      cases limit with
      | zero => simp [readValue, ht.skipSpace, isSpace, depth]
      | succ limit =>
        have hle := ht.length_le
        rw [List.length_cons] at hle
        have hread := hmembers limit SortedMap.empty hk hx hms (by omega)
        obtain ⟨w, -, hquote, -⟩ := hk
        rw [← readMembers_skipSpace, hquote.skipSpace rfl] at hread
        simp only [readValue, ht.skipSpace rfl, hquote.skipSpace rfl]
        simpa [depth, reread, SortedMap.empty, SortedMap.ofList] using hread

theorem readsItems_succ (hvalues : ReadsValues fuel) (hitems : ReadsItems fuel) :
    ReadsItems (fuel + 1) := by
  intro x xs t u rest limit before hx hxs hfuel
  have hlt := hxs.length_lt
  rw [readItems, hvalues limit hx hxs.endsNumber (by omega), depthItems]
  simp only [Nat.max_le]
  by_cases hdepth : x.depth ≤ limit
  · rw [if_pos hdepth]
    cases xs with
    | nil =>
      have hend : Space u (']' :: rest) := hxs
      simp [hdepth, hend.skipSpace, isSpace, depthItems, rereadItems]
    | cons x' xs =>
      obtain ⟨w, w', hcomma, hx', hxs⟩ := hxs
      have hle := hcomma.length_le
      have hlt' := hx.length_lt
      rw [List.length_cons] at hle
      have hnext := hitems limit (x.reread :: before) hx' hxs (by omega)
      simp [hdepth, hcomma.skipSpace, isSpace, hnext, rereadItems]
  · rw [if_neg hdepth, if_neg fun h => hdepth h.1]

theorem readsMembers_succ (hvalues : ReadsValues fuel) (hmembers : ReadsMembers fuel) :
    ReadsMembers (fuel + 1) := by
  intro k x ms t u u' rest limit before hk hx hms hfuel
  have hname := hk.length_lt
  have hlt := hms.length_lt
  obtain ⟨w, w', hquote, hchars, hcolon⟩ := hk
  have hvalue := hvalues limit hx hms.endsNumber (by omega)
  rw [readMembers, hquote.skipSpace rfl]
  simp only [hchars.readString, hcolon.skipSpace (c := ':') rfl, hvalue, List.reverse_nil,
    List.nil_append, String.ofList_toList]
  rw [depthMembers]
  simp only [Nat.max_le]
  by_cases hdepth : x.depth ≤ limit
  · rw [if_pos hdepth]
    cases ms with
    | nil =>
      have hend : Space u' ('\x7d' :: rest) := hms
      simp [hdepth, hend.skipSpace, isSpace, depthMembers, rereadMembers, SortedMap.extend,
        SortedMap.insert]
    | cons e ms =>
      obtain ⟨y, y', y'', hcomma, hk', hx', hms⟩ := hms
      have hle := hcomma.length_le
      have hlt' := hx.length_lt
      rw [List.length_cons] at hle
      have hnext := hmembers limit (before.insert k x.reread) hk' hx' hms (by omega)
      rw [SortedMap.insert] at hnext
      simp [hdepth, hcomma.skipSpace, isSpace, hnext, rereadMembers, SortedMap.extend,
        SortedMap.insert]
  · rw [if_neg hdepth, if_neg fun h => hdepth h.1]

theorem reads (fuel : Nat) : ReadsValues fuel ∧ ReadsItems fuel ∧ ReadsMembers fuel := by
  -- Each reader takes one of the fuel and leaves the rest to the readers that it calls.
  induction fuel with
  | zero =>
    refine ⟨fun _ h _ hfuel => ?_, fun _ _ hx hxs hfuel => ?_, fun _ _ hk hx hms hfuel => ?_⟩
    · have hlt := h.length_lt
      omega
    · have hlt := hx.length_lt
      have hlt' := hxs.length_lt
      omega
    · have hname := hk.length_lt
      have hlt := hx.length_lt
      have hlt' := hms.length_lt
      omega
  | succ fuel ih =>
    exact ⟨readsValues_succ ih.2.1 ih.2.2, readsItems_succ ih.1 ih.2.1,
      readsMembers_succ ih.1 ih.2.2⟩

theorem endsNumber_of_space {t : List Char} (h : Space t []) : EndsNumber t := by
  obtain ⟨ws, hws, rfl⟩ := h
  intro c hc
  rw [List.append_nil] at hc
  exact ends_number (.inl (hws c (List.mem_of_mem_head? hc)))

/-- What is read of a text of a value. -/
theorem parseChars_of_isText {cs : List Char} {v : Json} (h : IsText cs v) :
    parseChars cs = if v.depth ≤ maxDepth then some v.reread else none := by
  obtain ⟨t, hv, hend⟩ := h
  have hread := (reads (2 * cs.length + 2)).1 maxDepth hv (endsNumber_of_space hend) (by omega)
  obtain ⟨ws, hws, rfl⟩ := hend
  have hskip : skipSpace (ws ++ []) = [] := by
    rw [List.append_nil]
    exact List.dropWhile_eq_nil_iff.2 hws
  rw [parseChars]
  simp only [hread]
  by_cases hdepth : v.depth ≤ maxDepth
  · simp only [if_pos hdepth, hskip, List.isEmpty_nil, if_true]
  · simp only [if_neg hdepth]

theorem writesName_stringText (k : String) (rest : List Char) :
    WritesName k (stringText k ++ ':' :: rest) rest := by
  rw [stringText, List.cons_append, List.cons_append, List.append_assoc]
  exact ⟨_, _, .refl _, writesChars_escaped .., .refl _⟩

mutual

theorem writes_chars : ∀ (v : Json) (rest : List Char), Writes v (v.chars ++ rest) rest
  | null, rest | bool true, rest | bool false, rest => by
    rw [chars]
    exact .refl _
  | num n, rest => .refl _
  | str s, rest => by
    rw [chars, stringText, List.cons_append, List.cons_append, List.append_assoc]
    exact ⟨_, .refl _, writesChars_escaped ..⟩
  | arr [], rest | obj [], rest => ⟨_, .refl _, .refl _⟩
  | arr (x :: xs), rest => by
    simp only [chars, List.cons_append, List.append_assoc]
    exact ⟨_, _, .refl _, writes_chars x _, writesItems_itemChars xs rest⟩
  | obj ((k, x) :: ms), rest => by
    simp only [chars, List.cons_append, List.append_assoc]
    exact ⟨_, _, _, .refl _, writesName_stringText k _, writes_chars x _,
      writesMembers_memberChars ms rest⟩

theorem writesItems_itemChars : ∀ (xs : List Json) (rest : List Char),
    WritesItems xs (itemChars xs ++ ']' :: rest) rest
  | [], rest => .refl _
  | x :: xs, rest => by
    simp only [itemChars, List.cons_append, List.append_assoc]
    exact ⟨_, _, .refl _, writes_chars x _, writesItems_itemChars xs rest⟩

theorem writesMembers_memberChars : ∀ (ms : List (String × Json)) (rest : List Char),
    WritesMembers ms (memberChars ms ++ '\x7d' :: rest) rest
  | [], rest => .refl _
  | (k, x) :: ms, rest => by
    simp only [memberChars, List.cons_append, List.append_assoc]
    exact ⟨_, _, _, .refl _, writesName_stringText k _, writes_chars x _,
      writesMembers_memberChars ms rest⟩

end

theorem isText_chars (v : Json) : IsText v.chars v :=
  ⟨[], by simpa using writes_chars v [], .refl _⟩

theorem parse_compact (v : Json) :
    parse v.compact = if v.depth ≤ maxDepth then some v.reread else none := by
  rw [parse, compact, String.toList_ofList, parseChars_of_isText (isText_chars v)]

end Keyspace.Json
