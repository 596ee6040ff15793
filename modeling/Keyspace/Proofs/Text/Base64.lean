import Keyspace.Text.Base64

set_option autoImplicit false

namespace Keyspace.Text.Base64

theorem letter_injective (alphabet : Base64) {m n : Nat} (hm : m < 64) (hn : n < 64)
    (h : alphabet.letter m = alphabet.letter n) : m = n := by
  have all : ∀ m n : Fin 64, alphabet.letter m = alphabet.letter n → m = n := by
    cases alphabet <;> decide +kernel
  exact Fin.mk.inj (all ⟨m, hm⟩ ⟨n, hn⟩ h)

theorem letter_ne_pad (alphabet : Base64) {n : Nat} (hn : n < 64) : alphabet.letter n ≠ '=' := by
  have all : ∀ n : Fin 64, alphabet.letter n ≠ '=' := by cases alphabet <;> decide
  exact all ⟨n, hn⟩

theorem encodeBytes_injective (alphabet : Base64) {xs ys : List UInt8}
    (h : alphabet.encodeBytes xs = alphabet.encodeBytes ys) : xs = ys := by
  have letter {m n : Nat} (e : alphabet.letter m = alphabet.letter n)
      (hm : m < 64) (hn : n < 64) : m = n := letter_injective alphabet hm hn e
  induction xs using encodeBytes.induct generalizing ys with
  | case1 =>
    match ys with
    | [] => rfl
    | [_] | [_, _] | _ :: _ :: _ :: _ => simp [encodeBytes] at h
  | case2 a =>
    have ha := a.toNat_lt
    match ys with
    | [] => simp [encodeBytes] at h
    | [x] =>
      have hx := x.toNat_lt
      simp only [encodeBytes, List.cons.injEq] at h
      have h1 := letter h.1 (by omega) (by omega)
      have h2 := letter h.2.1 (by omega) (by omega)
      rw [UInt8.toNat_inj.1 (show a.toNat = x.toNat by omega)]
    | [x, y] =>
      have hy := y.toNat_lt
      simp only [encodeBytes, List.cons.injEq] at h
      exact absurd h.2.2.1.symm (letter_ne_pad alphabet (by omega))
    | x :: y :: z :: rest =>
      have hz := z.toNat_lt
      simp only [encodeBytes, List.cons_append, List.cons.injEq] at h
      exact absurd h.2.2.2.1.symm (letter_ne_pad alphabet (by omega))
  | case3 a b =>
    have ha := a.toNat_lt
    have hb := b.toNat_lt
    match ys with
    | [] => simp [encodeBytes] at h
    | [x] =>
      simp only [encodeBytes, List.cons.injEq] at h
      exact absurd h.2.2.1 (letter_ne_pad alphabet (by omega))
    | [x, y] =>
      have hx := x.toNat_lt
      have hy := y.toNat_lt
      simp only [encodeBytes, List.cons.injEq] at h
      have h1 := letter h.1 (by omega) (by omega)
      have h2 := letter h.2.1 (by omega) (by omega)
      have h3 := letter h.2.2.1 (by omega) (by omega)
      rw [UInt8.toNat_inj.1 (show a.toNat = x.toNat by omega),
        UInt8.toNat_inj.1 (show b.toNat = y.toNat by omega)]
    | x :: y :: z :: rest =>
      have hz := z.toNat_lt
      simp only [encodeBytes, List.cons_append, List.cons.injEq] at h
      exact absurd h.2.2.2.1.symm (letter_ne_pad alphabet (by omega))
  | case4 a b c rest ih =>
    have ha := a.toNat_lt
    have hb := b.toNat_lt
    have hc := c.toNat_lt
    match ys with
    | [] => simp [encodeBytes] at h
    | [x] =>
      simp only [encodeBytes, List.cons_append, List.cons.injEq] at h
      exact absurd h.2.2.2.1 (letter_ne_pad alphabet (by omega))
    | [x, y] =>
      simp only [encodeBytes, List.cons_append, List.cons.injEq] at h
      exact absurd h.2.2.2.1 (letter_ne_pad alphabet (by omega))
    | x :: y :: z :: rest' =>
      have hx := x.toNat_lt
      have hy := y.toNat_lt
      have hz := z.toNat_lt
      simp only [encodeBytes, List.cons_append, List.nil_append, List.cons.injEq] at h
      have h1 := letter h.1 (by omega) (by omega)
      have h2 := letter h.2.1 (by omega) (by omega)
      have h3 := letter h.2.2.1 (by omega) (by omega)
      have h4 := letter h.2.2.2.1 (by omega) (by omega)
      rw [UInt8.toNat_inj.1 (show a.toNat = x.toNat by omega),
        UInt8.toNat_inj.1 (show b.toNat = y.toNat by omega),
        UInt8.toNat_inj.1 (show c.toNat = z.toNat by omega), ih h.2.2.2.2]

theorem notMem_encodeBytes {alphabet : Base64} {d : Char} (hpad : d ≠ '=')
    (hletter : ∀ n : Fin 64, d ≠ alphabet.letter n) (xs : List UInt8) :
    d ∉ alphabet.encodeBytes xs := by
  have letter (n : Nat) (hn : n < 64) : d ≠ alphabet.letter n := hletter ⟨n, hn⟩
  induction xs using encodeBytes.induct with
  | case1 => simp [encodeBytes]
  | case2 a =>
    have ha := a.toNat_lt
    have h1 := letter (a.toNat / 4) (by omega)
    have h2 := letter (a.toNat % 4 * 16) (by omega)
    simp [encodeBytes, h1, h2, hpad]
  | case3 a b =>
    have ha := a.toNat_lt
    have hb := b.toNat_lt
    have h1 := letter (a.toNat / 4) (by omega)
    have h2 := letter (a.toNat % 4 * 16 + b.toNat / 16) (by omega)
    have h3 := letter (b.toNat % 16 * 4) (by omega)
    simp [encodeBytes, h1, h2, h3, hpad]
  | case4 a b c rest ih =>
    have ha := a.toNat_lt
    have hb := b.toNat_lt
    have hc := c.toNat_lt
    have h1 := letter (a.toNat / 4) (by omega)
    have h2 := letter (a.toNat % 4 * 16 + b.toNat / 16) (by omega)
    have h3 := letter (b.toNat % 16 * 4 + c.toNat / 64) (by omega)
    have h4 := letter (c.toNat % 64) (by omega)
    simp [encodeBytes, h1, h2, h3, h4, ih]

theorem encode_injective (alphabet : Base64) {s t : String}
    (h : alphabet.encode s = alphabet.encode t) : s = t :=
  utf8_injective (encodeBytes_injective alphabet (String.ofList_inj.1 h))

theorem colon_notMem_encode (alphabet : Base64) (s : String) :
    ':' ∉ (alphabet.encode s).toList := by
  rw [encode, String.toList_ofList]
  exact notMem_encodeBytes (by decide) (by cases alphabet <;> decide) _

theorem slash_notMem_encode (s : String) : '/' ∉ (urlSafe.encode s).toList := by
  rw [encode, String.toList_ofList]
  exact notMem_encodeBytes (by decide) (by decide) _

end Keyspace.Text.Base64
