import Keyspace.Proofs.Text.Base64
import Keyspace.Record

set_option autoImplicit false

namespace Keyspace

theorem append_colon_inj {xs ys ws zs : List Char} (hy : ':' ∉ ys) (hz : ':' ∉ zs)
    (h : xs ++ ':' :: ys = ws ++ ':' :: zs) : xs = ws ∧ ys = zs := by
  rcases List.append_eq_append_iff.1 h with ⟨l, h1, h2⟩ | ⟨l, h1, h2⟩
  · cases l with
    | nil => simp_all
    | cons c l =>
      simp only [List.cons_append, List.cons.injEq] at h2
      exact absurd (h2.2 ▸ by simp : ':' ∈ ys) hy
  · cases l with
    | nil => simp_all
    | cons c l =>
      simp only [List.cons_append, List.cons.injEq] at h2
      exact absurd (h2.2 ▸ by simp : ':' ∈ zs) hz

theorem docId_ne {name : String} (h : ':' ∉ name.toList) (user space key : String) :
    docId user space key ≠ name := by
  rintro rfl
  exact h (by simp [docId, String.toList_append])

theorem docId_not_dots (user space key : String) :
    docId user space key ≠ "." ∧ docId user space key ≠ ".." :=
  ⟨docId_ne (by decide) user space key, docId_ne (by decide) user space key⟩

theorem slash_notMem_docId_iff {user space key : String} :
    '/' ∉ (docId user space key).toList ↔ '/' ∉ user.toList ∧ '/' ∉ space.toList := by
  simp [docId, String.toList_append, Text.Base64.slash_notMem_encode]

theorem slash_notMem_docId {user space : String} (huser : '/' ∉ user.toList)
    (hspace : '/' ∉ space.toList) (key : String) : '/' ∉ (docId user space key).toList :=
  slash_notMem_docId_iff.2 ⟨huser, hspace⟩

theorem docId_inj {user space key user' space' key' : String} :
    docId user space key = docId user' space' key' ↔
      key = key' ∧ user ++ ":" ++ space = user' ++ ":" ++ space' := by
  constructor
  · intro h
    have split : (user ++ ":" ++ space).toList ++ ':' :: (Text.Base64.urlSafe.encode key).toList =
        (user' ++ ":" ++ space').toList ++ ':' :: (Text.Base64.urlSafe.encode key').toList := by
      simpa [docId] using congrArg String.toList h
    have parts := append_colon_inj (Text.Base64.colon_notMem_encode _ _)
      (Text.Base64.colon_notMem_encode _ _) split
    exact ⟨Text.Base64.encode_injective _ (String.toList_inj.1 parts.2),
      String.toList_inj.1 parts.1⟩
  · rintro ⟨rfl, h⟩
    rw [docId, docId, h]

theorem docId_inj_of_user {user space key space' key' : String} :
    docId user space key = docId user space' key' ↔ space = space' ∧ key = key' := by
  rw [docId_inj]
  constructor
  · rintro ⟨rfl, h⟩
    exact ⟨by simpa using h, rfl⟩
  · rintro ⟨rfl, rfl⟩
    exact ⟨rfl, rfl⟩

/-- Users are apart when no id of the one is an id of the other. -/
def Apart (a b : String) : Prop :=
  ∀ space key space' key', docId a space key ≠ docId b space' key'

theorem Apart.symm {a b : String} (h : Apart a b) : Apart b a :=
  fun space key space' key' e => h space' key' space key e.symm

theorem Apart.ne {a b : String} (h : Apart a b) : a ≠ b := by
  rintro rfl
  exact h "" "" "" "" rfl

theorem not_apart_of_prefix {a b : String} (h : (a ++ ":").toList <+: b.toList) :
    ∃ space, ∀ key, docId a space key = docId b "" key := by
  obtain ⟨rest, hrest⟩ := h
  refine ⟨String.ofList (rest ++ [':']), fun key => docId_inj.2 ⟨rfl, ?_⟩⟩
  rw [← String.toList_inj]
  simp [← hrest]

theorem apart_iff {a b : String} (hne : a ≠ b) :
    Apart a b ↔ ¬ (a ++ ":").toList <+: b.toList ∧ ¬ (b ++ ":").toList <+: a.toList := by
  constructor
  · intro h
    constructor
    · intro hp
      obtain ⟨space, hspace⟩ := not_apart_of_prefix hp
      exact h space "" "" "" (hspace "")
    · intro hp
      obtain ⟨space, hspace⟩ := not_apart_of_prefix hp
      exact h "" "" space "" (hspace "").symm
  · intro ⟨ha, hb⟩ space key space' key' h
    have split : a.toList ++ ':' :: space.toList = b.toList ++ ':' :: space'.toList := by
      simpa using congrArg String.toList (docId_inj.1 h).2
    rcases List.append_eq_append_iff.1 split with ⟨l, h1, h2⟩ | ⟨l, h1, h2⟩
    · cases l with
      | nil => exact hne (String.toList_inj.1 (by simpa using h1.symm))
      | cons c l =>
        simp only [List.cons_append, List.cons.injEq] at h2
        obtain ⟨rfl, _⟩ := h2
        exact ha ⟨l, by simp [h1]⟩
    · cases l with
      | nil => exact hne (String.toList_inj.1 (by simpa using h1))
      | cons c l =>
        simp only [List.cons_append, List.cons.injEq] at h2
        obtain ⟨rfl, _⟩ := h2
        exact hb ⟨l, by simp [h1]⟩

theorem apart_of_colonless {a b : String} (ha : ':' ∉ a.toList) (hb : ':' ∉ b.toList)
    (hne : a ≠ b) : Apart a b := by
  have hstart : ∀ c d : String, ':' ∉ d.toList → ¬ (c ++ ":").toList <+: d.toList := by
    intro c d hd h
    exact hd (h.subset (by simp))
  exact (apart_iff hne).2 ⟨hstart a b hb, hstart b a ha⟩

/-- Ids are equal exactly when the keys are, and user and namespace with a colon between them. So
the ids of one user determine namespace and key, and those of users without a colon determine the
user as well. -/
theorem docId_determines :
    (∀ user space key user' space' key', docId user space key = docId user' space' key' ↔
      key = key' ∧ user ++ ":" ++ space = user' ++ ":" ++ space') ∧
    (∀ user space key space' key', docId user space key = docId user space' key' ↔
      space = space' ∧ key = key') ∧
    ∀ user space key user' space' key', ':' ∉ user.toList → ':' ∉ user'.toList →
      (docId user space key = docId user' space' key' ↔
        user = user' ∧ space = space' ∧ key = key') := by
  refine ⟨fun _ _ _ _ _ _ => docId_inj, fun _ _ _ _ _ => docId_inj_of_user, ?_⟩
  intro user space key user' space' key' huser huser'
  by_cases hsame : user = user'
  · subst hsame
    simpa using docId_inj_of_user
  · have hapart := apart_of_colonless huser huser' hsame
    exact iff_of_false (hapart space key space' key') fun h => hsame h.1

theorem docId_determines_sample :
    docId "u" "n:a" "b" ≠ docId "u" "n" "a:b" ∧
      ':' ∉ "u".toList ∧ ':' ∉ "v".toList ∧ docId "u" "v:n" "ключ" ≠ docId "v" "u:n" "ключ" := by
  have hu : ':' ∉ "u".toList := by decide
  have hv : ':' ∉ "v".toList := by decide
  refine ⟨fun h => ?_, hu, hv, fun h => ?_⟩
  · exact absurd ((docId_determines.2.1 ..).1 h).1 (by decide)
  · exact absurd ((docId_determines.2.2 _ _ _ _ _ _ hu hv).1 h).1 (by decide)

end Keyspace
