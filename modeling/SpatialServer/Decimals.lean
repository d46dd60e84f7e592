import Mathlib.Tactic

/-!
# Words with a numeral at the end

A numeral is a word of digits, with a sign in front of it where the number is
negative. It is read back from the right: in a word that ends in a separator and a
part without separators, both the part and what stands before the separator can be
told.
-/
namespace SpatialServer.Decimals

/-- The last letter that is not of a kind splits a word in one way only. -/
theorem append_cons_inj {α : Type*} {P : α → Prop} {l l' t t' : List α} {a b : α}
    (ht : ∀ c ∈ t, P c) (ht' : ∀ c ∈ t', P c) (ha : ¬P a) (hb : ¬P b)
    (h : l ++ a :: t = l' ++ b :: t') : l = l' ∧ a = b ∧ t = t' := by
  obtain ⟨m, hm, hcons⟩ | ⟨m, hm, hcons⟩ := List.append_eq_append_iff.mp h
  · cases m with
    | nil =>
      obtain ⟨rfl, rfl⟩ := List.cons.inj hcons
      exact ⟨by simpa using hm.symm, rfl, rfl⟩
    | cons c m =>
      -- the other separator would be among the letters of the kind
      obtain ⟨-, rfl⟩ := List.cons.inj hcons
      exact absurd (ht b (by simp)) hb
  · cases m with
    | nil =>
      obtain ⟨rfl, rfl⟩ := List.cons.inj hcons
      exact ⟨by simpa using hm, rfl, rfl⟩
    | cons c m =>
      obtain ⟨-, rfl⟩ := List.cons.inj hcons
      exact absurd (ht' a (by simp)) ha

theorem isDigit_of_mem_toString {n : ℕ} {c : Char} (h : c ∈ (toString n).toList) :
    c.isDigit = true := by
  rw [Nat.toString_eq_ofList_toDigits, String.toList_ofList] at h
  exact Nat.isDigit_of_mem_toDigits (by norm_num) (by norm_num) h

theorem toString_nat_injective : Function.Injective fun n : ℕ => toString n := by
  intro m n h
  have hdigits := congrArg (fun s : String => Nat.ofDigitChars 10 s.toList 0) h
  simpa [Nat.toString_eq_ofList_toDigits, Nat.ofDigitChars_toDigits] using hdigits

/-- A numeral is a possible sign and the digits of the magnitude. -/
theorem toString_int_cases (i : ℤ) :
    0 ≤ i ∧ toString i = toString i.natAbs ∨ i < 0 ∧ toString i = "-" ++ toString i.natAbs := by
  cases i with
  | ofNat n => exact .inl ⟨Int.natCast_nonneg n, rfl⟩
  | negSucc n => exact .inr ⟨Int.negSucc_lt_zero n, rfl⟩

theorem toString_int_injective : Function.Injective fun i : ℤ => toString i := by
  have hsign : ∀ m n : ℕ, toString m ≠ "-" ++ toString n := by
    intro m n h
    have hmem : '-' ∈ (toString m).toList := by
      rw [h, String.toList_append]
      simp
    exact absurd (isDigit_of_mem_toString hmem) (by decide)
  intro i j h
  simp only at h
  obtain ⟨hi, hitext⟩ | ⟨hi, hitext⟩ := toString_int_cases i <;>
    obtain ⟨hj, hjtext⟩ | ⟨hj, hjtext⟩ := toString_int_cases j <;> rw [hitext, hjtext] at h
  · have := toString_nat_injective h
    omega
  · exact absurd h (hsign _ _)
  · exact absurd h.symm (hsign _ _)
  · have hlist := congrArg String.toList h
    simp only [String.toList_append] at hlist
    have := toString_nat_injective (String.toList_inj.mp (List.append_cancel_left hlist))
    omega

/-- No letter but a digit or a sign is in a numeral. -/
theorem isDigit_or_sign_of_mem_toString {i : ℤ} {c : Char} (h : c ∈ (toString i).toList) :
    c.isDigit = true ∨ c = '-' := by
  obtain ⟨-, htext⟩ | ⟨-, htext⟩ := toString_int_cases i
  · rw [htext] at h
    exact .inl (isDigit_of_mem_toString h)
  · rw [htext, String.toList_append, List.mem_append] at h
    rcases h with h | h
    · exact .inr (by simpa using h)
    · exact .inl (isDigit_of_mem_toString h)

end SpatialServer.Decimals
