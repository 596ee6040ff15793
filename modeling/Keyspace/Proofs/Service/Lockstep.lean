import Keyspace.Proofs.Service.Alike
import Mathlib.Algebra.GroupWithZero.Nat

set_option autoImplicit false

namespace Keyspace

open Service

variable {σ τ : Type} {user : String} {k : Contract} {R : Nat → σ → τ → Prop} {e : Engine σ}
  {f : Engine τ} {n : Nat}

namespace Service

theorem over_mono (h : Engine.Alike user k R e f) {m : Nat} (hle : m ≤ n) (s : State σ)
    (t : State τ) : Over (R m) s t → Over (R n) s t :=
  h.mono hle s.store t.store

theorem lockstep_lookup (h : Engine.Alike user k R e f) {space key : String}
    (hkey : k.allowed user space key) :
    Lockstep (Over (R n)) (Option.Rel (k.Pairs n (docId user space key)))
      (lookup e (docId user space key)) (lookup f (docId user space key)) := by
  unfold lookup
  refine (lockstep_attempt (h.get n space key hkey)).bind fun d d' hd => ?_
  cases hd with
  | ok hd => exact .pure (.some hd)
  | error =>
    dsimp only
    split
    · exact .pure .none
    · exact .throw _

theorem lockstep_readRecord {d d' : Document} (h : Document.Alike k.tokens d d') :
    Lockstep (Over (R n)) (fun r r' => Record.AlikeBy k.tokens r r' ∧ Record.Reads d r)
      (readRecord d) (readRecord d') := by
  unfold readRecord
  rcases Record.ofDocument_alike h with ⟨err, hd, hd'⟩ | ⟨r, r', hd, hd', hr⟩
  · rw [hd, hd']
    exact .throw _
  · have hreads := Record.ofDocument_eq_ok_iff.1 hd
    rw [hd, hd']
    exact .pure ⟨hr, hreads⟩

theorem lockstep_trackRead (h : Engine.Alike user k R e f) (hwithin : k.upkeep.within (n + 1))
    {now : Instant} (hnow : k.ready → now.InRange) {id : String} (agent : String) {d d' : Document}
    (hd : k.Pairs n id d d') :
    LockstepTo (Over (R n)) (Over (R (n + 1))) (k.Pairs (n + 1) id) (trackRead e now id agent d)
      (trackRead f now id agent d') := by
  refine LockstepTo.mono (R := Over (R (n + 1))) ?_ (over_mono h n.le_succ) fun _ _ hst => hst
  unfold trackRead
  rcases hd.counted hwithin agent hnow with ⟨hc, hc'⟩ | ⟨c, c', hc, hc', hpair⟩
  · rw [hc, hc']
    exact .throw _
  · rw [hc, hc']
    refine (lockstep_attempt (h.save (n + 1) now id c c' hpair)).bind fun r r' hr => ?_
    cases hr with
    | ok hrev => exact .pure (hpair.insert_rev hrev)
    | error => exact .pure hpair

theorem lockstep_get (h : Engine.Alike user k R e f) {agent : Option String}
    (hwithin : k.upkeep.within (n + readCost agent)) {now : Instant}
    (hnow : k.ready → now.InRange) {space key : String} (hkey : k.allowed user space key) :
    LockstepTo (Over (R n)) (Over (R (n + readCost agent)))
      (Option.Rel (Record.AlikeBy k.tokens)) (get e now user space key agent)
      (get f now user space key agent) := by
  have hmono := over_mono (n := n + readCost agent) h (Nat.le_add_right ..)
  unfold get
  refine LockstepTo.bind (lockstep_lookup h hkey) hmono fun d d' hd => ?_
  cases hd with
  | none => exact LockstepTo.mono (.pure .none) (fun _ _ hst => hst) hmono
  | some hd =>
    rename_i d d'
    cases agent with
    | none =>
      refine (lockstep_readRecord hd.1).bind fun r r' hr => ?_
      exact .pure (.some hr.1)
    | some agent =>
      refine LockstepTo.bind (lockstep_trackRead h hwithin hnow agent hd) (fun _ _ hst => hst)
        fun c c' hc => ?_
      refine (lockstep_readRecord hc.1).bind fun r r' hr => ?_
      exact .pure (.some hr.1)

theorem lockstep_write (h : Engine.Alike user k R e f) (now : Instant) {id : String}
    {r r' : Record} (hr : Record.AlikeBy k.tokens r r') (hextra : r.ExtraUnknown)
    (hkeeps : k.Keeps n id r.toDocument) :
    Lockstep (Over (R n)) (Record.AlikeBy k.tokens)
      (do
        let receipt ← onStore (e.save now database id r.toDocument)
        return { r with rev := some receipt.rev })
      (do
        let receipt ← onStore (f.save now database id r'.toDocument)
        return { r' with rev := some receipt.rev }) := by
  refine (lockstep_onStore (h.save n now id _ _ ⟨hr.toDocument hextra, hkeeps⟩)).map
    fun a b hab => ⟨?_, hab⟩
  rw [hr.parts]

theorem lockstep_set (h : Engine.Alike user k R e f) {now : Instant}
    (hnow : k.ready → now.InRange) {space key : String} (hkey : k.allowed user space key)
    (hnamed : k.allowed user (Record.named space) key) {value : Json} {metadata : Option Document}
    (hvalue : k.upkeep.writes value) (hmetadata : ∀ m ∈ metadata, k.upkeep.writes m.toJson)
    (agent : Option String) :
    Lockstep (Over (R n)) (Record.AlikeBy k.tokens) (set e now user space key value agent metadata)
      (set f now user space key value agent metadata) := by
  unfold set
  refine (lockstep_ensureIndexed (h.ensureIndex_left n) (h.ensureIndex_right n) user space).bind
    fun _ _ _ => ?_
  refine (lockstep_lookup h hkey).bind fun d d' hd => ?_
  cases hd with
  | none =>
    exact lockstep_write h now (r := Record.fresh user space key value
        (metadata.getD SortedMap.empty) agent now) ⟨rfl, k.tokens_none⟩ (fun _ _ => rfl)
      ⟨Kept.fresh hkey hnamed value _ agent hnow,
        k.upkeep.fresh n user space key agent now hvalue hmetadata⟩
  | some hd =>
    obtain ⟨halike, hkept, hholds⟩ := hd
    refine (lockstep_readRecord halike).bind fun r r' hr => ?_
    have hupdated : Record.AlikeBy k.tokens
        (updated r (docId user space key) value agent metadata now)
        (updated r' (docId user space key) value agent metadata now) := by
      refine ⟨?_, hr.1.tokens⟩
      rw [hr.1.parts]
      rfl
    exact lockstep_write h now hupdated
      (Record.extraUnknown_updated hr.2 _ value agent metadata now)
      ⟨hkept.updated hr.2 value agent metadata hnow,
        k.upkeep.updated _ agent now hholds hr.2 hvalue hmetadata⟩

theorem lockstep_delete (h : Engine.Alike user k R e f) {space key : String}
    (hkey : k.allowed user space key) :
    Lockstep (Over (R n)) Eq (delete e user space key) (delete f user space key) := by
  unfold delete
  refine (lockstep_attempt (h.delete n space key hkey)).bind fun r r' hr => ?_
  cases hr with
  | ok _ => exact .pure rfl
  | error =>
    dsimp only
    split
    · exact .pure rfl
    · exact .throw _

theorem lockstep_listKeys (h : Engine.Alike user k R e f) (space : String)
    (keyPrefix : Option String) :
    Lockstep (Over (R n)) (fun ks ks' => ks = ks' ∧ ∀ key ∈ ks, k.allowed user space key)
      (listKeys e user space keyPrefix) (listKeys f user space keyPrefix) := by
  unfold listKeys
  refine (lockstep_onStore (h.findKeys n space)).map fun ds ds' hds => ⟨by rw [hds.1], ?_⟩
  intro key hkey
  simp only [sortedKeys, List.mem_mergeSort, List.mem_filter] at hkey
  exact hds.2 key hkey.1

theorem lockstep_listSpaces (h : Engine.Alike user k R e f) :
    Lockstep (Over (R n)) Eq (listSpaces e user) (listSpaces f user) := by
  unfold listSpaces
  refine (lockstep_onStore (h.findSpaces n)).map fun ds ds' hds => ?_
  have hpairs : ds.map (fun doc => (spaceOf doc, ())) = ds'.map fun doc => (spaceOf doc, ()) := by
    simpa [List.map_map, Function.comp_def] using congrArg (List.map fun s => (s, ())) hds
  rw [hpairs]

theorem countReads_cons (user space agent : String) (now : Instant) (d : Document)
    (ds : List Document) :
    countReads user space agent now (d :: ds) = (Record.countRead d agent now).bind fun c =>
      (countReads user space agent now ds).map fun cs =>
        ((d.text? Document.idField).getD (docId user space (keyOf d)), c) :: cs := by
  rw [countReads, List.mapM_cons, ← countReads]
  cases Record.countRead d agent now with
  | none => rfl
  | some c => cases countReads user space agent now ds <;> rfl

theorem countReads_alike {ds ds' : List Document}
    (h : List.Forall₂ (fun d d' => ∃ id, k.Pairs n id d d') ds ds')
    (hwithin : k.upkeep.within (n + 1)) (space agent : String) {now : Instant}
    (hnow : k.ready → now.InRange) :
    (countReads user space agent now ds = none ∧ countReads user space agent now ds' = none) ∨
      ∃ cs cs', countReads user space agent now ds = some cs ∧
        countReads user space agent now ds' = some cs' ∧
        List.Forall₂ (fun c c' => c.1 = c'.1 ∧ k.Pairs (n + 1) c.1 c.2 c'.2) cs cs' := by
  induction h with
  | nil => exact .inr ⟨[], [], rfl, rfl, .nil⟩
  | @cons d d' ds ds' hd _ ih =>
    obtain ⟨id, hpair⟩ := hd
    have hid : d.text? Document.idField = some id := hpair.2.1.text?_id
    have hid' : d'.text? Document.idField = some id := by
      rw [← hpair.1.text?_eq (by decide), hid]
    rw [countReads_cons, countReads_cons, hid, hid']
    rcases hpair.counted hwithin agent hnow with ⟨hc, hc'⟩ | ⟨c, c', hc, hc', hcounted⟩
    · exact .inl ⟨by simp [hc], by simp [hc']⟩
    · rcases ih with ⟨hs, hs'⟩ | ⟨cs, cs', hs, hs', hrest⟩
      · exact .inl ⟨by simp [hc, hs], by simp [hc', hs']⟩
      · exact .inr ⟨(id, c) :: cs, (id, c') :: cs', by simp [hc, hs], by simp [hc', hs'],
          .cons ⟨rfl, hcounted⟩ hrest⟩

theorem lockstep_writeBack (h : Engine.Alike user k R e f) (now : Instant)
    {cs cs' : List (String × Document)}
    (hcs : List.Forall₂ (fun c c' => c.1 = c'.1 ∧ k.Pairs n c.1 c.2 c'.2) cs cs') :
    Lockstep (Over (R n)) (fun _ _ => True) (writeBack e now cs) (writeBack f now cs') := by
  unfold writeBack
  refine .forM hcs fun c c' hc => ?_
  obtain ⟨id, d⟩ := c
  obtain ⟨id', d'⟩ := c'
  obtain ⟨rfl, hpair⟩ := hc
  exact (lockstep_attempt (h.save n now _ d d' hpair)).map fun _ _ _ => trivial

theorem lockstep_getAll (h : Engine.Alike user k R e f) (hwhole : k.whole) {agent : Option String}
    (hwithin : k.upkeep.within (n + readCost agent)) {now : Instant}
    (hnow : k.ready → now.InRange) (space : String) :
    LockstepTo (Over (R n)) (Over (R (n + readCost agent))) Eq (getAll e now user space agent)
      (getAll f now user space agent) := by
  have hmono := over_mono (n := n + readCost agent) h (Nat.le_add_right ..)
  unfold getAll
  refine LockstepTo.bind (lockstep_onStore (h.findWhole hwhole n space)) hmono fun ds ds' hds => ?_
  have hvalues : ds.map (fun doc => (keyOf doc, doc.field Record.valueField)) =
      ds'.map fun doc => (keyOf doc, doc.field Record.valueField) := by
    clear hwithin hmono
    induction hds with
    | nil => rfl
    | cons hd _ ih =>
      obtain ⟨_, halike, _⟩ := hd
      rw [List.map_cons, List.map_cons, ih, keyOf, keyOf, halike.text?_eq (by decide),
        halike.field_eq (by decide)]
  rw [hvalues]
  refine LockstepTo.mono (R := Over (R (n + readCost agent))) ?_ hmono fun _ _ hst => hst
  cases agent with
  | none => exact .pure rfl
  | some agent =>
    dsimp only
    rcases countReads_alike hds hwithin space agent hnow with ⟨hc, hc'⟩ | ⟨cs, cs', hc, hc', hcs⟩
    · rw [hc, hc']
      exact Lockstep.bind (Q := Eq) (.throw _) fun _ _ _ => .pure rfl
    · rw [hc, hc']
      exact (lockstep_writeBack h now hcs).map fun _ _ _ => rfl

theorem lockstep_getMany (h : Engine.Alike user k R e f) {keys : List String}
    {agent : Option String} (hwithin : k.upkeep.within (n + keys.length * readCost agent))
    {now : Instant} (hnow : k.ready → now.InRange) {space : String}
    (hkeys : ∀ key ∈ keys, k.allowed user space key) :
    LockstepTo (Over (R n)) (Over (R (n + keys.length * readCost agent))) Eq
      (getMany e now user space keys agent) (getMany f now user space keys agent) := by
  unfold getMany
  refine LockstepTo.foldlM (R := fun n => Over (R n)) (fun hle => over_mono h hle) rfl
    fun m hm key hkey found found' hfound => ?_
  subst hfound
  refine (lockstep_get h (k.upkeep.within_of_le hm hwithin) hnow (hkeys key hkey)).bind
    (fun _ _ hst => hst) fun r r' hr => ?_
  cases hr with
  | none => exact .pure rfl
  | some hr =>
    rename_i r r'
    have hvalue : r'.value = r.value := by rw [hr.parts]
    dsimp only
    rw [hvalue]
    exact .pure rfl

theorem lockstep_setMany (h : Engine.Alike user k R e f) {now : Instant}
    (hnow : k.ready → now.InRange) {items : List BatchItem}
    (hitems : ∀ item ∈ items, k.allowed user item.space item.key ∧
      k.allowed user (Record.named item.space) item.key)
    (hwrites : ∀ item ∈ items, k.upkeep.writes item.value ∧
      ∀ m ∈ item.metadata, k.upkeep.writes m.toJson)
    (agent : Option String) :
    Lockstep (Over (R n)) Eq (setMany e now user items agent) (setMany f now user items agent) := by
  unfold setMany
  refine .foldlM rfl fun item hitem count count' hcount => ?_
  subst hcount
  obtain ⟨hplace, hnamed⟩ := hitems item hitem
  obtain ⟨hvalue, hmetadata⟩ := hwrites item hitem
  exact (lockstep_set h hnow hplace hnamed hvalue hmetadata agent).map fun _ _ _ => rfl

theorem lockstep_clear (h : Engine.Alike user k R e f) (space : String) :
    Lockstep (Over (R n)) Eq (clear e user space) (clear f user space) := by
  unfold clear
  refine (lockstep_listKeys h space none).bind fun keys keys' hkeys => ?_
  obtain ⟨rfl, hallowed⟩ := hkeys
  refine .foldlM rfl fun key hkey count count' hcount => ?_
  subst hcount
  refine (lockstep_delete h (hallowed key hkey)).map fun found found' hfound => ?_
  rw [hfound]

inductive Answer.AlikeBy (U : Option String → Option String → Prop) : Answer → Answer → Prop where
  | record {r r' : Record} (h : Record.AlikeBy U r r') :
    AlikeBy U (.record (some r)) (.record (some r'))
  | written {r r' : Record} (h : Record.AlikeBy U r r') : AlikeBy U (.written r) (.written r')
  | same (a : Answer) : AlikeBy U a a

inductive Answer.Alike (T : String → String → Prop) : Answer → Answer → Prop where
  | record {r r' : Record} (h : Record.Alike T r r') :
    Alike T (.record (some r)) (.record (some r'))
  | written {r r' : Record} (h : Record.Alike T r r') : Alike T (.written r) (.written r')
  | same (a : Answer) : Alike T a a

theorem Answer.AlikeBy.alike {T : String → String → Prop} {a b : Answer}
    (h : AlikeBy (Option.Rel T) a b) : Alike T a b := by
  cases h with
  | record h => exact .record h.alike
  | written h => exact .written h.alike
  | same => exact .same a

/-- The keys that an operation names are allowed. What it writes in the empty namespace may come to
show the default one. -/
def Operation.Within (allowed : String → String → Prop) : Operation → Prop
  | .get space key _ => allowed space key
  | .set space key _ _ _ => allowed space key ∧ allowed (Record.named space) key
  | .delete space key => allowed space key
  | .getMany space keys _ => ∀ key ∈ keys, allowed space key
  | .setMany items _ => ∀ item ∈ items, allowed item.space item.key ∧
      allowed (Record.named item.space) item.key
  | .listKeys .. | .listSpaces | .getAll .. | .clear _ => True

abbrev placesOf (user : String) (other _ _ : String) : Prop := user = other

theorem Operation.within_placesOf (operation : Operation) {user other : String}
    (h : other = user) : operation.Within (placesOf user other) := by
  cases operation <;> simp [Operation.Within, placesOf, h]

theorem Operation.writes_filing (operation : Operation) :
    operation.Writes Upkeep.filing.writes := by
  cases operation <;> simp [Operation.Writes, Upkeep.filing]

theorem lockstep_perform {r : Request} (h : Engine.Alike r.user k R e f)
    (hnow : k.ready → r.now.InRange) (hwhole : r.operation.listsWhole = true → k.whole)
    (hplaces : r.operation.Within (k.allowed r.user))
    (hwrites : r.operation.Writes k.upkeep.writes)
    (hwithin : k.upkeep.within (n + r.operation.taggedReads)) :
    LockstepTo (Over (R n)) (Over (R (n + r.operation.taggedReads))) (Answer.AlikeBy k.tokens)
      (perform e r) (perform f r) := by
  obtain ⟨user, now, operation⟩ := r
  unfold perform
  cases operation with
  | get space key agent =>
    refine (lockstep_get h hwithin hnow hplaces).map fun r r' hr => ?_
    cases hr with
    | none => exact .same _
    | some hr => exact .record hr
  | set space key value agent metadata =>
    exact (lockstep_set h hnow hplaces.1 hplaces.2 hwrites.1 hwrites.2 agent).map fun _ _ hr =>
      .written hr
  | delete space key => exact (lockstep_delete h hplaces).map fun _ _ hr => hr ▸ .same _
  | listKeys space keyPrefix =>
    exact (lockstep_listKeys h space keyPrefix).map fun _ _ hr => hr.1 ▸ .same _
  | listSpaces => exact (lockstep_listSpaces h).map fun _ _ hr => hr ▸ .same _
  | getAll space agent =>
    exact (lockstep_getAll h (hwhole rfl) hwithin hnow space).map fun _ _ hr => hr ▸ .same _
  | getMany space keys agent =>
    exact (lockstep_getMany h hwithin hnow hplaces).map fun _ _ hr => hr ▸ .same _
  | setMany items agent =>
    exact (lockstep_setMany h hnow hplaces hwrites agent).map fun _ _ hr => hr ▸ .same _
  | clear space => exact (lockstep_clear h space).map fun _ _ hr => hr ▸ .same _

theorem outcome_alike {r : Request} (h : Engine.Alike r.user k R e f)
    (hnow : k.ready → r.now.InRange) (hwhole : r.operation.listsWhole = true → k.whole)
    (hplaces : r.operation.Within (k.allowed r.user))
    (hwrites : r.operation.Writes k.upkeep.writes)
    (hwithin : k.upkeep.within (n + r.operation.taggedReads)) {s : State σ} {t : State τ}
    (hst : R n s.store t.store) :
    Agree (Answer.AlikeBy k.tokens) (outcome e r s).1 (outcome f r t).1 ∧
      R (n + r.operation.taggedReads) (outcome e r s).2.store (outcome f r t).2.store :=
  agree_outcome (lockstep_perform h hnow hwhole hplaces hwrites hwithin) hst

def taggedReads (requests : List Request) : Nat :=
  (requests.map (·.operation.taggedReads)).sum

/-- Over engines that serve the users of some requests alike, the requests leave transcripts that
differ in tokens only. -/
theorem transcript_alike {requests : List Request}
    (h : ∀ r ∈ requests, Engine.Alike r.user k R e f)
    (hnow : ∀ r ∈ requests, k.ready → r.now.InRange)
    (hwhole : ∀ r ∈ requests, r.operation.listsWhole = true → k.whole)
    (hplaces : ∀ r ∈ requests, r.operation.Within (k.allowed r.user))
    (hwrites : ∀ r ∈ requests, r.operation.Writes k.upkeep.writes)
    (hwithin : k.upkeep.within (n + taggedReads requests)) {s : State σ} {t : State τ}
    (hst : R n s.store t.store) :
    List.Forall₂ (fun x y => x.1 = y.1 ∧ Agree (Answer.AlikeBy k.tokens) x.2 y.2)
        (transcript e requests s) (transcript f requests t) ∧
      R (n + taggedReads requests) (after e requests s).store (after f requests t).store := by
  induction requests generalizing n s t with
  | nil => exact ⟨.nil, hst⟩
  | cons r rest ih =>
    have htotal : n + r.operation.taggedReads + taggedReads rest = n + taggedReads (r :: rest) := by
      rw [Nat.add_assoc]
      rfl
    rw [← htotal] at hwithin ⊢
    obtain ⟨hanswer, hst'⟩ := outcome_alike (h r List.mem_cons_self)
      (hnow r List.mem_cons_self) (hwhole r List.mem_cons_self) (hplaces r List.mem_cons_self)
      (hwrites r List.mem_cons_self)
      (k.upkeep.within_of_le (Nat.le_add_right ..) hwithin) hst
    obtain ⟨htranscript, hafter⟩ := ih (fun q hq => h q (List.mem_cons_of_mem r hq))
      (fun q hq => hnow q (List.mem_cons_of_mem r hq))
      (fun q hq => hwhole q (List.mem_cons_of_mem r hq))
      (fun q hq => hplaces q (List.mem_cons_of_mem r hq))
      (fun q hq => hwrites q (List.mem_cons_of_mem r hq)) hwithin hst'
    exact ⟨.cons ⟨rfl, hanswer⟩ htranscript, hafter⟩

theorem not_forall₂_transcript {P : Except Failure Answer → Except Failure Answer → Prop}
    (requests : List Request) {r : Request} {s : State σ} {t : State τ}
    (h : ¬ P (outcome e r (after e requests s)).1 (outcome f r (after f requests t)).1) :
    ¬ List.Forall₂ (fun x y => x.1 = y.1 ∧ P x.2 y.2) (transcript e (requests ++ [r]) s)
      (transcript f (requests ++ [r]) t) := by
  induction requests generalizing s t with
  | nil => exact fun hall => h (List.forall₂_cons.1 hall).1.2
  | cons q rest ih => exact fun hall => ih h (List.forall₂_cons.1 hall).2

end Service

end Keyspace
