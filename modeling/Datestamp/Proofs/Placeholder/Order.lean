import Datestamp.Proofs.Placeholder.Padding

/-!
# Padded numerals in order

Numerals of one length stand in the order of their numbers, character by character, since the first
digit in which they differ decides both. Padding to a common width gives them one length. So texts
that start with padded numerals are ordered by their numbers first, and by what follows where the
numbers are equal (`zeroPadded_append_lt`).
-/

namespace Datestamp

/-- Of texts that start with parts of one length, the order of these parts decides. -/
theorem Text.append_lt_append {a b : Text} (hlength : a.length = b.length) (h : a < b) (s t : Text) :
    a ++ s < b ++ t := by
  induction a generalizing b with
  | nil =>
      obtain rfl := List.eq_nil_of_length_eq_zero hlength.symm
      exact absurd h (List.lt_irrefl [])
  | cons c a ih =>
      cases b with
      | nil => cases hlength
      | cons d b =>
          rw [List.cons_append, List.cons_append, List.cons_lt_cons_iff]
          rcases List.cons_lt_cons_iff.mp h with hcd | ⟨hcd, hab⟩
          · exact .inl hcd
          · exact .inr ⟨hcd, ih (Nat.succ.inj hlength) hab⟩

namespace Decimal

/-! ## Digits in order -/

theorem digitValue_le_nine {c : Char} (h : c.isDigit = true) : digitValue c ≤ 9 := by
  obtain ⟨-, hle⟩ := Char.isDigit_iff_toNat.mp h
  have hnine : '9'.toNat = '0'.toNat + 9 := rfl
  unfold digitValue
  omega

theorem lt_of_digitValue_lt {c d : Char} (h : digitValue c < digitValue d) : c < d := by
  unfold digitValue at h
  have hlt : c.toNat < d.toNat := by omega
  exact hlt

theorem eq_of_digitValue_eq {c d : Char} (hc : c.isDigit = true) (hd : d.isDigit = true)
    (h : digitValue c = digitValue d) : c = d := by
  have hc' := Char.isDigit_iff_toNat.mp hc
  have hd' := Char.isDigit_iff_toNat.mp hd
  unfold digitValue at h
  exact Char.toNat_inj.mp (by omega)

/-- The value of digits that follow on the number `n`. -/
def valueFrom (n : Nat) (ds : Text) : Nat := ds.foldl (fun n c => 10 * n + digitValue c) n

/-- A number that is behind stays behind, whatever digits follow on both. -/
theorem valueFrom_lt {m n : Nat} (h : m < n) {ds es : Text} (hlength : ds.length = es.length)
    (hds : ∀ c ∈ ds, c.isDigit = true) : valueFrom m ds < valueFrom n es := by
  induction ds generalizing m n es with
  | nil =>
      obtain rfl := List.eq_nil_of_length_eq_zero hlength.symm
      exact h
  | cons c ds ih =>
      cases es with
      | nil => cases hlength
      | cons d es =>
          have hc := digitValue_le_nine (hds c List.mem_cons_self)
          have hnext : 10 * m + digitValue c < 10 * n + digitValue d := by omega
          exact ih hnext (Nat.succ.inj hlength) fun e he => hds e (List.mem_cons_of_mem c he)

theorem lt_of_valueFrom_lt {n : Nat} {ds es : Text} (hlength : ds.length = es.length)
    (hds : ∀ c ∈ ds, c.isDigit = true) (hes : ∀ c ∈ es, c.isDigit = true)
    (h : valueFrom n ds < valueFrom n es) : ds < es := by
  induction ds generalizing n es with
  | nil =>
      obtain rfl := List.eq_nil_of_length_eq_zero hlength.symm
      exact absurd h (Nat.lt_irrefl _)
  | cons c ds ih =>
      cases es with
      | nil => cases hlength
      | cons d es =>
          have hrest := Nat.succ.inj hlength
          have hds' : ∀ e ∈ ds, e.isDigit = true := fun e he => hds e (List.mem_cons_of_mem c he)
          have hes' : ∀ e ∈ es, e.isDigit = true := fun e he => hes e (List.mem_cons_of_mem d he)
          rw [List.cons_lt_cons_iff]
          rcases Nat.lt_trichotomy (digitValue c) (digitValue d) with hcd | hcd | hcd
          · exact .inl (lt_of_digitValue_lt hcd)
          · obtain rfl := eq_of_digitValue_eq (hds c List.mem_cons_self)
              (hes d List.mem_cons_self) hcd
            exact .inr ⟨rfl, ih hrest hds' hes' h⟩
          · -- the second numeral would be behind from here on
            have hback : valueFrom (10 * n + digitValue d) es < valueFrom (10 * n + digitValue c) ds :=
              valueFrom_lt (by omega) hrest.symm hes'
            exact absurd h (Nat.lt_asymm hback)

theorem lt_of_value_lt {ds es : Text} (hlength : ds.length = es.length)
    (hds : ∀ c ∈ ds, c.isDigit = true) (hes : ∀ c ∈ es, c.isDigit = true)
    (h : value ds < value es) : ds < es :=
  lt_of_valueFrom_lt hlength hds hes h

theorem length_digits_le_four {n : Nat} (h : n < 10000) : (digits n).length ≤ 4 := by
  by_cases hshort : n < 100
  · exact Nat.le_trans (length_digits_le_two hshort) (by decide)
  · have hhigh : ¬ n / 10 < 10 := by omega
    have hlow : ¬ n < 10 := by omega
    have hrest : (digits (n / 10 / 10)).length ≤ 2 := length_digits_le_two (by omega)
    rw [digits, if_neg hlow, digits, if_neg hhigh]
    simp only [List.length_append, List.length_singleton]
    omega

end Decimal

namespace Placeholder

open Decimal

theorem zeroPadded_natCast (width n : Nat) :
    zeroPadded width n = (digits n).leftpad width '0' := by
  have hn : ¬ (n : Int) < 0 := by omega
  rw [zeroPadded, if_neg hn, Int.natAbs_natCast]

theorem zeroPadded_lt {width m n : Nat} (hm : (digits m).length ≤ width)
    (hn : (digits n).length ≤ width) (h : m < n) : zeroPadded width m < zeroPadded width n := by
  rw [zeroPadded_natCast, zeroPadded_natCast]
  apply lt_of_value_lt
  · rw [List.length_leftpad, List.length_leftpad, Nat.max_eq_left hm, Nat.max_eq_left hn]
  · exact fun _ => isDigit_of_mem_leftpad
  · exact fun _ => isDigit_of_mem_leftpad
  · rwa [value_leftpad, value_leftpad]

theorem zeroPadded_append_lt {width m n : Nat} {s t : Text} (hm : (digits m).length ≤ width)
    (hn : (digits n).length ≤ width) (h : m < n ∨ m = n ∧ s < t) :
    zeroPadded width m ++ s < zeroPadded width n ++ t := by
  rcases h with h | ⟨rfl, h⟩
  · apply Text.append_lt_append _ (zeroPadded_lt hm hn h)
    rw [zeroPadded_natCast, zeroPadded_natCast, List.length_leftpad, List.length_leftpad,
      Nat.max_eq_left hm, Nat.max_eq_left hn]
  · exact List.append_left_lt h

end Placeholder

end Datestamp
