import Keyspace.Proofs.Record.SameData

set_option autoImplicit false

namespace Keyspace.Record

theorem named_eq_self_iff {space : String} : named space = space ↔ space ≠ "" :=
  ⟨fun h hempty => named_ne_empty space (h.trans hempty), named_of_ne⟩

theorem withSpace_eq_self_iff {r : Record} {space : String} :
    { r with space := space } = r ↔ space = r.space :=
  ⟨fun h => congrArg Record.space h, fun h => by rw [h]⟩

/-- A record that keeps no field among the unknown ones that it knows is what its document reads as
exactly when it names a namespace and all of its times are in the years of four digits. -/
theorem ofDocument_toDocument_eq_self_iff {r : Record} (h : r.ExtraUnknown) :
    ofDocument r.toDocument = .ok r ↔ r.space ≠ "" ∧ r.Timely := by
  rw [ofDocument_toDocument h, ← firstUntimely_eq_none_iff]
  cases r.firstUntimely with
  | none => rw [Except.ok.injEq, withSpace_eq_self_iff, named_eq_self_iff, and_iff_left rfl]
  | some u => simp

def leapSecond : Instant := (Instant.of? 2016 12 31 23 59 60 500000000).get (by decide)

def lastNanosecond : Instant := (Instant.of? 9999 12 31 23 59 59 999999999).get (by decide)

def longKept : Record :=
  { fresh "u" "n" "k" (.arr [.null, .num (.natural 1)]) SortedMap.empty (some "a") leapSecond with
    rev := some ""
    lastAccessedAt := some lastNanosecond
    extra := SortedMap.ofList [("sizeBytes", .num (.natural 12))] }

theorem ofDocument_toDocument_longKept :
    longKept.ExtraUnknown ∧ ofDocument longKept.toDocument = .ok longKept := by
  have hextra : ∀ name ∈ knownFields, longKept.extra.get? name = none := by decide
  refine ⟨hextra, (ofDocument_toDocument_eq_self_iff hextra).2 ⟨by decide, ?_⟩⟩
  exact firstUntimely_eq_none_iff.1 (by decide)

end Keyspace.Record
