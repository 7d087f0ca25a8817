import Datestamp.Proofs.Placeholder.Spelling

/-!
# Padded numerals

Zeros between the sign of a number and its digits change nothing about the number, and a numeral
ends where its digits end. So a padded numeral is read back whatever follows it, as long as that
does not start with a digit (`readInt_zeroPadded_append`). Two texts that start with padded numerals
and go on with the same separator therefore start with the same number.
-/

namespace Datestamp

namespace Decimal

/-- The integer at the head of a text, and the rest. -/
def readInt : Text → Int × Text
  | '-' :: t => (-(value (span t).1 : Int), (span t).2)
  | t => (value (span t).1, (span t).2)

theorem value_zeros_append (k : Nat) (ds : Text) :
    value (List.replicate k '0' ++ ds) = value ds := by
  induction k with
  | zero => rfl
  | succ k ih => exact ih

theorem digits_ne_nil (n : Nat) : digits n ≠ [] := by
  rw [digits]
  split
  · simp
  · simp

theorem length_digits_le_two {n : Nat} (h : n < 100) : (digits n).length ≤ 2 := by
  rw [digits]
  split
  · simp
  · have hlow : n / 10 < 10 := by omega
    rw [digits, if_pos hlow]
    simp

end Decimal

namespace Placeholder

open Decimal

/-! ## Digits with zeros in front -/

theorem leftpad_digits_ne_nil (width n : Nat) : (digits n).leftpad width '0' ≠ [] := by
  intro h
  exact digits_ne_nil n (List.append_eq_nil_iff.mp h).2

theorem isDigit_of_mem_leftpad {width n : Nat} {c : Char}
    (h : c ∈ (digits n).leftpad width '0') : c.isDigit = true := by
  rcases List.mem_append.mp h with h | h
  · obtain rfl := List.eq_of_mem_replicate h
    rfl
  · exact isDigit_of_mem_digits h

theorem value_leftpad (width n : Nat) : value ((digits n).leftpad width '0') = n := by
  rw [List.leftpad, value_zeros_append, value_digits]

/-! ## Reading a padded numeral back -/

theorem readInt_digits {ds : Text} (hne : ds ≠ []) (hds : ∀ c ∈ ds, c.isDigit = true) {c : Char}
    (hc : c.isDigit = false) (rest : Text) :
    readInt (ds ++ c :: rest) = ((value ds : Int), c :: rest) := by
  have hspan := span_append hds hc rest
  unfold readInt
  split
  · rename_i t ht
    -- the sign would have to be the first digit
    cases ds with
    | nil => exact absurd rfl hne
    | cons d ds =>
        have hd := hds d List.mem_cons_self
        rw [(List.cons.inj ht).1] at hd
        exact absurd hd (by decide)
  · rw [hspan]

theorem readInt_minus {ds : Text} (hds : ∀ c ∈ ds, c.isDigit = true) {c : Char}
    (hc : c.isDigit = false) (rest : Text) :
    readInt ('-' :: (ds ++ c :: rest)) = (-(value ds : Int), c :: rest) := by
  rw [readInt, span_append hds hc]

theorem readInt_zeroPadded_append (width : Nat) (n : Int) {c : Char} (hc : c.isDigit = false)
    (rest : Text) : readInt (zeroPadded width n ++ c :: rest) = (n, c :: rest) := by
  by_cases hn : n < 0
  · have htext : zeroPadded width n ++ c :: rest =
        '-' :: ((digits n.natAbs).leftpad (width - 1) '0' ++ c :: rest) := by
      rw [zeroPadded, if_pos hn]
      rfl
    rw [htext, readInt_minus (fun _ => isDigit_of_mem_leftpad) hc, value_leftpad]
    congr 1
    omega
  · rw [zeroPadded, if_neg hn,
      readInt_digits (leftpad_digits_ne_nil width _) (fun _ => isDigit_of_mem_leftpad) hc, value_leftpad]
    congr 1
    omega

theorem zeroPadded_append_inj {width : Nat} {m n : Int} {c : Char} {s t : Text}
    (hc : c.isDigit = false) (h : zeroPadded width m ++ c :: s = zeroPadded width n ++ c :: t) :
    m = n ∧ s = t := by
  have hread := congrArg readInt h
  rw [readInt_zeroPadded_append width m hc, readInt_zeroPadded_append width n hc] at hread
  obtain ⟨hnumber, hrest⟩ := Prod.mk.inj hread
  exact ⟨hnumber, (List.cons.inj hrest).2⟩

theorem zeroPadded_inj {width : Nat} {m n : Int} (h : zeroPadded width m = zeroPadded width n) :
    m = n := by
  have hblank : zeroPadded width m ++ [' '] = zeroPadded width n ++ [' '] := by rw [h]
  exact (zeroPadded_append_inj rfl hblank).1

/-- A number below a hundred takes up two characters. -/
theorem length_zeroPadded_two {n : Nat} (h : n < 100) : (zeroPadded 2 n).length = 2 := by
  have hn : ¬ (n : Int) < 0 := by omega
  have hlength := length_digits_le_two h
  rw [zeroPadded, if_neg hn, Int.natAbs_natCast, List.length_leftpad]
  omega

end Placeholder

end Datestamp
