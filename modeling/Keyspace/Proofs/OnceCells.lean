import Keyspace.OnceCells
import Keyspace.Proofs.Lockstep
import Mathlib.Data.List.Induction
import Mathlib.Data.Set.Card

set_option autoImplicit false

namespace Keyspace

namespace Once

variable {κ ε S T : Type}

/-- What is done for a key. An attempt is known by what comes of the key's work if it is run. -/
inductive Step (κ ε : Type) where
  | ensure (key : κ) (outcome : Except ε Unit)
  | contains (key : κ)
  | forget (key : κ)

def Step.key : Step κ ε → κ
  | ensure key _ => key
  | contains key => key
  | forget key => key

inductive Answer (ε : Type) where
  | ensured (ran : Bool) (result : Except ε Unit)
  | contained (answer : Bool)
  | forgotten

section Transcripts

variable (respond : S → Step κ ε → Answer ε × S)

def after (steps : List (Step κ ε)) (s : S) : S := steps.foldl (fun s step => (respond s step).2) s

def transcript : List (Step κ ε) → S → List (Step κ ε × Answer ε)
  | [], _ => []
  | step :: steps, s => (step, (respond s step).1) :: transcript steps (respond s step).2

theorem after_concat (steps : List (Step κ ε)) (step : Step κ ε) (s : S) :
    after respond (steps ++ [step]) s = (respond (after respond steps s) step).2 :=
  List.foldl_concat ..

theorem transcript_concat (steps : List (Step κ ε)) (step : Step κ ε) (s : S) :
    transcript respond (steps ++ [step]) s =
      transcript respond steps s ++ [(step, (respond (after respond steps s) step).1)] := by
  induction steps generalizing s with
  | nil => rfl
  | cons first steps ih =>
    rw [List.cons_append, transcript, ih]
    rfl

end Transcripts

/-- A transcript in which an attempt at a key has succeeded, and the key has not been forgotten
since. -/
def Done (seen : List (Step κ ε × Answer ε)) (key : κ) : Prop :=
  ∃ before outcome ran later,
    seen = before ++ (.ensure key outcome, .ensured ran (.ok ())) :: later ∧
      (.forget key, .forgotten) ∉ later

theorem not_done_nil (key : κ) : ¬ Done ([] : List (Step κ ε × Answer ε)) key := by
  rintro ⟨before, outcome, ran, later, h, -⟩
  simp at h

theorem done_concat_iff {seen : List (Step κ ε × Answer ε)} {last : Step κ ε × Answer ε}
    {key : κ} :
    Done (seen ++ [last]) key ↔
      (∃ outcome ran, last = (.ensure key outcome, .ensured ran (.ok ()))) ∨
        Done seen key ∧ last ≠ (.forget key, .forgotten) := by
  constructor
  · rintro ⟨before, outcome, ran, later, h, hkept⟩
    cases later using List.reverseRecOn with
    | nil =>
      obtain ⟨-, rfl⟩ := List.append_singleton_inj.1 h
      exact .inl ⟨outcome, ran, rfl⟩
    | append_singleton later answered =>
      rw [← List.cons_append, ← List.append_assoc, List.append_singleton_inj] at h
      rw [List.mem_append, not_or, List.mem_singleton] at hkept
      exact .inr ⟨⟨before, outcome, ran, later, h.1, hkept.1⟩, h.2 ▸ fun heq => hkept.2 heq.symm⟩
  · rintro (⟨outcome, ran, rfl⟩ | ⟨⟨before, outcome, ran, later, rfl, hkept⟩, hlast⟩)
    · exact ⟨seen, outcome, ran, [], rfl, List.not_mem_nil⟩
    · refine ⟨before, outcome, ran, later ++ [last], by simp, ?_⟩
      rw [List.mem_append, List.mem_singleton, not_or]
      exact ⟨hkept, fun h => hlast h.symm⟩

def Step.answer (recorded : Bool) : Step κ ε → Answer ε
  | ensure _ outcome => if recorded then .ensured false (.ok ()) else .ensured true outcome
  | contains _ => .contained recorded
  | forget _ => .forgotten

def Step.leaves (recorded : Bool) : Step κ ε → Bool
  | ensure _ outcome => recorded || outcome.isOk
  | contains _ => recorded
  | forget _ => false

/-- Steps keep a record of keys: each goes by what is recorded of its own key, and changes nothing
else. -/
structure Keeps (respond : S → Step κ ε → Answer ε × S) (recorded : S → κ → Bool) : Prop where
  answer : ∀ s step, (respond s step).1 = step.answer (recorded s step.key)
  same : ∀ s step, recorded (respond s step).2 step.key = step.leaves (recorded s step.key)
  other : ∀ s step key, step.key ≠ key → recorded (respond s step).2 key = recorded s key

namespace Keeps

variable {respond : S → Step κ ε → Answer ε × S} {recorded : S → κ → Bool}

/-- A record is kept if an attempt runs the work unless the key is recorded, and records the key if
that succeeds. Whatever else an attempt does is not to show. -/
theorem of_parts [DecidableEq κ] {attempt fill drop : S → κ → S}
    (hensure : ∀ s key outcome, respond s (.ensure key outcome) =
      if recorded s key then (.ensured false (.ok ()), attempt s key) else
        (.ensured true outcome, if outcome.isOk then fill s key else attempt s key))
    (hcontains : ∀ s key, respond s (.contains key) = (.contained (recorded s key), s))
    (hforget : ∀ s key, respond s (.forget key) = (.forgotten, drop s key))
    (hattempt : ∀ s key other, recorded (attempt s key) other = recorded s other)
    (hfill : ∀ s key other,
      recorded (fill s key) other = (decide (other = key) || recorded s other))
    (hdrop : ∀ s key other,
      recorded (drop s key) other = (decide (other ≠ key) && recorded s other)) :
    Keeps respond recorded where
  answer s step := by
    cases step with
    | ensure key outcome =>
      rw [hensure]
      cases hrecorded : recorded s key <;> simp [Step.answer, Step.key, hrecorded]
    | contains key => rw [hcontains]; rfl
    | forget key => rw [hforget]; rfl
  same s step := by
    cases step with
    | ensure key outcome =>
      rw [hensure]
      cases hrecorded : recorded s key <;> cases hok : outcome.isOk <;>
        simp [Step.key, Step.leaves, hattempt, hfill, hrecorded, hok]
    | contains key => rw [hcontains]; rfl
    | forget key => simp [Step.key, Step.leaves, hforget, hdrop]
  other s step key hkey := by
    cases step with
    | ensure first outcome =>
      have hne : key ≠ first := Ne.symm hkey
      rw [hensure]
      cases recorded s first <;> cases outcome.isOk <;> simp [hattempt, hfill, hne]
    | contains first => rw [hcontains]
    | forget first =>
      have hne : key ≠ first := Ne.symm hkey
      simp [hforget, hdrop, hne]

theorem recorded_after_iff (h : Keeps respond recorded) {s : S}
    (hs : ∀ key, recorded s key = false) (steps : List (Step κ ε)) (key : κ) :
    recorded (after respond steps s) key = true ↔ Done (transcript respond steps s) key := by
  induction steps using List.reverseRecOn with
  | nil => simpa [after, transcript, hs key] using not_done_nil key
  | append_singleton steps step ih =>
    rw [after_concat, transcript_concat, done_concat_iff, ← ih, h.answer]
    by_cases hkey : step.key = key
    · subst hkey
      rw [h.same]
      cases step with
      | ensure key outcome =>
        cases outcome <;> cases hrecorded : recorded (after respond steps s) key <;>
          simp [Step.key, Step.leaves, Step.answer, hrecorded, Except.isOk, Except.toBool]
      | contains key => simp [Step.key, Step.leaves, Step.answer]
      | forget key => simp [Step.key, Step.leaves, Step.answer]
    · rw [h.other _ _ _ hkey]
      cases step <;> simp_all [Step.key]

theorem transcript_filter [DecidableEq κ] (h : Keeps respond recorded) {key : κ} {s t : S}
    (hs : recorded s key = recorded t key) (steps : List (Step κ ε)) :
    (transcript respond steps s).filter (·.1.key = key) =
      transcript respond (steps.filter (·.key = key)) t := by
  induction steps generalizing s t with
  | nil => rfl
  | cons step steps ih =>
    rw [transcript]
    by_cases hkey : step.key = key
    · subst hkey
      have hnext : recorded (respond s step).2 step.key = recorded (respond t step).2 step.key := by
        rw [h.same, h.same, hs]
      rw [List.filter_cons_of_pos (by simp), List.filter_cons_of_pos (by simp), transcript,
        ih hnext, h.answer, h.answer, hs]
    · rw [List.filter_cons_of_neg (by simpa using hkey),
        List.filter_cons_of_neg (by simpa using hkey), ih ((h.other s step key hkey).trans hs)]

theorem transcript_eq {respond' : T → Step κ ε → Answer ε × T} {recorded' : T → κ → Bool}
    (h : Keeps respond recorded) (h' : Keeps respond' recorded') {s : S} {t : T}
    (hst : recorded s = recorded' t) (steps : List (Step κ ε)) :
    transcript respond steps s = transcript respond' steps t ∧
      recorded (after respond steps s) = recorded' (after respond' steps t) := by
  induction steps using List.reverseRecOn with
  | nil => exact ⟨rfl, hst⟩
  | append_singleton steps step ih =>
    obtain ⟨hseen, hafter⟩ := ih
    refine ⟨?_, ?_⟩
    · rw [transcript_concat, transcript_concat, hseen, h.answer, h'.answer, hafter]
    · rw [after_concat, after_concat]
      funext key
      by_cases hkey : step.key = key
      · rw [← hkey, h.same, h'.same, hafter]
      · rw [h.other _ _ _ hkey, h'.other _ _ _ hkey, hafter]

end Keeps

def noted (outcome : Except ε Unit) : EStateM ε Bool Unit := fun _ =>
  match outcome with
  | .ok () => .ok () true
  | .error e => .error e true

end Once

variable {κ ε σ : Type} [DecidableEq κ]

open Once (Answer Step Done Keeps after noted transcript transcript_concat)

namespace OnceCells

theorem lookup_eq_some_iff {entries : List (κ × Bool)} (h : (entries.map (·.1)).Nodup) {key : κ}
    {filled : Bool} : entries.lookup key = some filled ↔ (key, filled) ∈ entries := by
  induction entries with
  | nil => simp
  | cons c entries ih =>
    obtain ⟨first, filled'⟩ := c
    rw [List.map_cons, List.nodup_cons] at h
    by_cases hkey : key = first
    · have hrest : (key, filled) ∉ entries := fun hmem =>
        h.1 (hkey ▸ List.mem_map_of_mem (f := (·.1)) hmem)
      simp [hkey, hkey ▸ hrest, eq_comm]
    · rw [List.lookup_cons, beq_eq_false_iff_ne.2 hkey, ih h.2]
      simp [hkey]

theorem contains_iff (cells : OnceCells κ) (key : κ) :
    cells.contains key = true ↔ (key, true) ∈ cells.entries := by
  rw [← lookup_eq_some_iff cells.nodup, contains]
  cases cells.entries.lookup key <;> simp

theorem contains_reserve (cells : OnceCells κ) (key other : κ) :
    (cells.reserve key).contains other = cells.contains other := by
  rw [Bool.eq_iff_iff, contains_iff, contains_iff, reserve]
  split
  · rfl
  · simp

theorem mem_reserve (cells : OnceCells κ) (key : κ) :
    ∃ filled, (key, filled) ∈ (cells.reserve key).entries := by
  unfold reserve
  split
  · rename_i h
    obtain ⟨c, hc, rfl⟩ := List.mem_map.1 h
    exact ⟨c.2, hc⟩
  · exact ⟨false, List.mem_cons_self⟩

theorem contains_fill (cells : OnceCells κ) (key other : κ) :
    (cells.fill key).contains other = true ↔
      cells.contains other = true ∨ other = key ∧ ∃ filled, (key, filled) ∈ cells.entries := by
  simp only [contains_iff, fill, List.mem_map, Prod.ext_iff, Bool.or_eq_true, decide_eq_true_eq]
  constructor
  · rintro ⟨⟨first, filled⟩, hmem, rfl, rfl | rfl⟩
    · exact .inl hmem
    · exact .inr ⟨rfl, filled, hmem⟩
  · rintro (hmem | ⟨rfl, filled, hmem⟩)
    · exact ⟨(other, true), hmem, rfl, .inl rfl⟩
    · exact ⟨(other, filled), hmem, rfl, .inr rfl⟩

theorem contains_fill_reserve (cells : OnceCells κ) (key other : κ) :
    ((cells.reserve key).fill key).contains other =
      (decide (other = key) || cells.contains other) := by
  rw [Bool.eq_iff_iff, contains_fill, contains_reserve, Bool.or_eq_true, decide_eq_true_eq, or_comm]
  simp [cells.mem_reserve key]

theorem contains_forget (cells : OnceCells κ) (key other : κ) :
    (cells.forget key).contains other = (decide (other ≠ key) && cells.contains other) := by
  rw [Bool.eq_iff_iff, contains_iff, Bool.and_eq_true, contains_iff, forget]
  simp [and_comm]

theorem encard_contains (cells : OnceCells κ) :
    {key | cells.contains key = true}.encard = cells.size := by
  have hnodup : ((cells.entries.filter (·.2)).map (·.1)).Nodup :=
    (List.filter_sublist.map _).nodup cells.nodup
  have hset : {key | cells.contains key = true} =
      (((cells.entries.filter (·.2)).map (·.1)).toFinset : Set κ) := by
    ext key
    simp [contains_iff]
  rw [hset, Set.encard_coe_eq_coe_finsetCard, List.toFinset_card_of_nodup hnodup, List.length_map,
    size, List.countP_eq_length_filter]

theorem ensure_apply (cells : OnceCells κ) (key : κ) (work : EStateM ε σ Unit) (s : σ) :
    ensure key work (cells, s) =
      if cells.contains key then .ok () (cells.reserve key, s) else
        match work s with
        | .ok _ s' => .ok () ((cells.reserve key).fill key, s')
        | .error e s' => .error e (cells.reserve key, s') := by
  simp only [ensure, contains_reserve]
  cases work s <;> rfl

def respond (cells : OnceCells κ) : Step κ ε → Answer ε × OnceCells κ
  | .ensure key outcome =>
    match ensure key (noted outcome) (cells, false) with
    | .ok _ (cells, ran) => (.ensured ran (.ok ()), cells)
    | .error e (cells, ran) => (.ensured ran (.error e), cells)
  | .contains key => (.contained (cells.contains key), cells)
  | .forget key => (.forgotten, cells.forget key)

theorem respond_ensure (cells : OnceCells κ) (key : κ) (outcome : Except ε Unit) :
    cells.respond (.ensure key outcome) =
      if cells.contains key then (.ensured false (.ok ()), cells.reserve key) else
        (.ensured true outcome,
          if outcome.isOk then (cells.reserve key).fill key else cells.reserve key) := by
  by_cases hfilled : cells.contains key = true
  · simp only [respond, ensure_apply, hfilled, if_true]
  · cases outcome <;>
      simp [respond, ensure_apply, hfilled, noted, Except.isOk, Except.toBool]

theorem keeps_respond : Keeps (fun cells (step : Step κ ε) => respond cells step) contains :=
  .of_parts respond_ensure (fun _ _ => rfl) (fun _ _ => rfl) contains_reserve
    contains_fill_reserve contains_forget

/-- Steps, from no cells on, with their answers. -/
abbrev history (steps : List (Step κ ε)) : List (Step κ ε × Answer ε) :=
  transcript respond steps empty

abbrev reached (steps : List (Step κ ε)) : OnceCells κ := after respond steps empty

theorem history_concat (steps : List (Step κ ε)) (step : Step κ ε) :
    history (steps ++ [step]) =
      history steps ++ [(step, step.answer ((reached steps).contains step.key))] :=
  (transcript_concat ..).trans <| by rw [keeps_respond.answer]

theorem contains_reached_iff (steps : List (Step κ ε)) (key : κ) :
    (reached steps).contains key = true ↔ Done (history steps) key :=
  keeps_respond.recorded_after_iff (fun _ => rfl) steps key

instance (steps : List (Step κ ε)) (key : κ) : Decidable (Done (history steps) key) :=
  decidable_of_iff _ (contains_reached_iff steps key)

/-- Cells remember exactly the successes. After any steps, an attempt runs the work of its key
unless one has succeeded since the key was last forgotten. If the work is run, what comes of it
comes of the attempt; otherwise the attempt succeeds. The keys that are contained are those with
such a success, the size is the number of them, and the cells are empty if there are none. The steps
for one key are answered as if there were none for others. -/
theorem remembers_successes (steps : List (Step κ ε)) :
    (∀ key outcome, history (steps ++ [.ensure key outcome]) = history steps ++
      [(.ensure key outcome,
        if Done (history steps) key then .ensured false (.ok ()) else .ensured true outcome)]) ∧
    (∀ key, (reached steps).contains key = true ↔ Done (history steps) key) ∧
    {key | Done (history steps) key}.encard = (reached steps).size ∧
    ((reached steps).isEmpty = true ↔ ∀ key, ¬ Done (history steps) key) ∧
    ∀ key, (history steps).filter (·.1.key = key) = history (steps.filter (·.key = key)) := by
  have hsize : {key | Done (history steps) key}.encard = (reached steps).size := by
    rw [← encard_contains]
    simp only [contains_reached_iff]
  refine ⟨fun key outcome => ?_, contains_reached_iff steps, hsize, ?_, fun key => ?_⟩
  · rw [history_concat]
    simp only [Step.answer, Step.key, contains_reached_iff]
  · rw [isEmpty, beq_iff_eq, ← Nat.cast_eq_zero (R := ℕ∞), ← hsize, Set.encard_eq_zero,
      Set.eq_empty_iff_forall_notMem]
    rfl
  · exact keeps_respond.transcript_filter rfl steps

/-- A failed attempt leaves a cell, which does not count. -/
example : (reached [.ensure "a" (.error "b")]).entries = [("a", false)] ∧
    (reached [.ensure "a" (.error "b")]).isEmpty = true := by decide

end OnceCells

namespace DoneSet

def respond (set : DoneSet κ) : Step κ ε → Answer ε × DoneSet κ
  | .ensure key outcome =>
    match set.ensure key (noted outcome) false with
    | .ok set ran => (.ensured ran (.ok ()), set)
    | .error e ran => (.ensured ran (.error e), set)
  | .contains key => (.contained (set.contains key), set)
  | .forget key => (.forgotten, set.forget key)

theorem encard_contains (set : DoneSet κ) :
    {key | set.contains key = true}.encard = set.size := by
  have hset : {key | set.contains key = true} = (set.keys.toFinset : Set κ) := by
    ext key
    simp [contains]
  rw [hset, Set.encard_coe_eq_coe_finsetCard, List.toFinset_card_of_nodup set.nodup, size]

theorem respond_ensure (set : DoneSet κ) (key : κ) (outcome : Except ε Unit) :
    set.respond (.ensure key outcome) =
      if set.contains key then (.ensured false (.ok ()), set) else
        (.ensured true outcome, if outcome.isOk then set.insert key else set) := by
  by_cases hdone : set.contains key = true
  · simp only [respond, ensure_apply, hdone, if_true]
  · cases outcome <;> simp [respond, ensure_apply, hdone, noted, Except.isOk, Except.toBool]

theorem keeps_respond : Keeps (fun set (step : Step κ ε) => respond set step) contains :=
  .of_parts respond_ensure (fun _ _ => rfl) (fun _ _ => rfl) (fun _ _ _ => rfl)
    contains_insert contains_forget

end DoneSet

namespace OnceCells

/-- Over cells and over a set that says the same, an attempt comes to the same, whatever the work
does. The set after a success still says what the cells say, and so does the set from before after a
failure. -/
theorem ensure_doneSet {cells : OnceCells κ} {set : DoneSet κ} (h : cells.contains = set.contains)
    (key : κ) (work : EStateM ε σ Unit) (s : σ) :
    match set.ensure key work s with
    | .ok set' s' =>
      ∃ cells', ensure key work (cells, s) = .ok () (cells', s') ∧ cells'.contains = set'.contains
    | .error e s' =>
      ∃ cells', ensure key work (cells, s) = .error e (cells', s') ∧
        cells'.contains = set.contains := by
  have hreserve : (cells.reserve key).contains = set.contains := by
    rw [← h]
    exact funext (cells.contains_reserve key)
  rw [DoneSet.ensure_apply, ensure_apply, h]
  by_cases hdone : set.contains key = true
  · rw [if_pos hdone, if_pos hdone]
    exact ⟨_, rfl, hreserve⟩
  · rw [if_neg hdone, if_neg hdone]
    cases work s with
    | ok _ s' =>
      refine ⟨_, rfl, funext fun other => ?_⟩
      rw [contains_fill_reserve, DoneSet.contains_insert, h]
    | error e s' => exact ⟨_, rfl, hreserve⟩

/-- A set of the keys whose work has been done stands for the cells: it gives the same answers, and
is of the same size. -/
theorem transcript_doneSet (steps : List (Step κ ε)) :
    history steps = transcript DoneSet.respond steps DoneSet.empty ∧
      (reached steps).size = (after DoneSet.respond steps DoneSet.empty).size := by
  have hempty : (empty : OnceCells κ).contains = DoneSet.empty.contains := rfl
  obtain ⟨hseen, hrecorded⟩ := keeps_respond.transcript_eq DoneSet.keeps_respond hempty steps
  refine ⟨hseen, ?_⟩
  have hsize := (reached steps).encard_contains
  rw [hrecorded, DoneSet.encard_contains] at hsize
  exact (ENat.natCast_inj.1 hsize).symm

end OnceCells

end Keyspace
