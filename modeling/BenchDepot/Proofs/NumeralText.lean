import BenchDepot.Decimal.Progress
import Mathlib.Data.Nat.Digits.Defs

/-!
# Reading a numeral that was written

The text of a numeral is read one character at a time.  The digits of a whole part or an exponent
build up the number they spell, most significant first; the digits of a fraction are collected; and
after every part that may be the last one the numeral may end.

* `Progress.toDigits_spec` — the digits of a number;
* `Numeral.render_spec` — a whole numeral.
-/

namespace BenchDepot.Decimal

/-- Digits are read one by one, most significant first. -/
theorem Progress.toDigits_spec (first : Char → Option Progress) (reading : Nat → Progress)
    (hfirst : ∀ d : Fin 10, first (digitChar d) = some (reading d.val))
    (hnext : ∀ m (d : Fin 10), 0 < m →
      (reading m).step (digitChar d) = some (reading (10 * m + d)))
    (n : Nat) : ∃ c cs p, Nat.toDigits 10 n = c :: cs ∧ first c = some p ∧
      cs.foldlM Progress.step p = some (reading n) := by
  -- the last digit comes off the end of the text, and is the last one that is read
  induction n using Nat.strongRecOn with
  | ind n ih =>
      by_cases hsmall : n < 10
      · exact ⟨digitChar ⟨n, hsmall⟩, [], reading n, Nat.toDigits_of_lt_base hsmall,
          hfirst ⟨n, hsmall⟩, rfl⟩
      · have hbase : 10 ≤ n := Nat.le_of_not_lt hsmall
        obtain ⟨c, cs, p, hcs, hp, hrun⟩ := ih (n / 10) (by omega)
        have hlast := hnext (n / 10) ⟨n % 10, Nat.mod_lt _ (by decide)⟩ (by omega)
        have hn : 10 * (n / 10) + n % 10 = n := Nat.div_add_mod n 10
        refine ⟨c, cs ++ [digitChar ⟨n % 10, Nat.mod_lt _ (by decide)⟩], p, ?_, hp, ?_⟩
        · rw [Nat.toDigits_of_base_le (by decide) hbase, hcs]
          rfl
        · rw [List.foldlM_append, hrun]
          simp [hlast, hn]

/-- Where a numeral may go on after its whole part. -/
def Progress.afterDigits (negative : Bool) (n : Nat) : Progress :=
  if n = 0 then .zero negative else .whole negative n

theorem Progress.afterDigits_cases (negative : Bool) (n : Nat) :
    (n = 0 ∧ Progress.afterDigits negative n = .zero negative) ∨
      Progress.afterDigits negative n = .whole negative n := by
  by_cases hn : n = 0
  · exact Or.inl ⟨hn, if_pos hn⟩
  · exact Or.inr (if_neg hn)

theorem Progress.step_afterDigits (negative : Bool) {m : Nat} (d : Fin 10) (hm : 0 < m) :
    (Progress.afterDigits negative m).step (digitChar d) =
      some (Progress.afterDigits negative (10 * m + d)) := by
  have hne : m ≠ 0 := by omega
  have hne' : ¬10 * m + d.val = 0 := by omega
  rw [Progress.afterDigits, Progress.afterDigits, if_neg hne, if_neg hne']
  simp only [Progress.step, digit?_digitChar]

/-- The digits of a fraction are read one by one. -/
theorem Progress.foldlM_fraction (negative : Bool) (n : Nat) (found digits : List (Fin 10)) :
    (digits.map digitChar).foldlM Progress.step (.fraction negative n found) =
      some (.fraction negative n (digits.reverse ++ found)) := by
  induction digits generalizing found with
  | nil => rfl
  | cons d digits ih =>
      rw [List.map_cons, List.foldlM_cons]
      simp only [Progress.step, digit?_digitChar]
      rw [List.reverse_cons, List.append_assoc]
      exact ih (d :: found)

/-- The progress after a fraction, which may be missing. -/
def Progress.afterFraction (negative : Bool) (n : Nat) : List (Fin 10) → Progress
  | [] => .afterDigits negative n
  | digits => .fraction negative n digits.reverse

theorem Progress.foldlM_renderFraction (negative : Bool) (n : Nat) (digits : List (Fin 10)) :
    (Numeral.renderFraction digits).foldlM Progress.step (.afterDigits negative n) =
      some (.afterFraction negative n digits) := by
  cases digits with
  | nil => rfl
  | cons d digits =>
      have hpoint : (Progress.afterDigits negative n).step '.' = some (.point negative n) := by
        rcases Progress.afterDigits_cases negative n with ⟨rfl, h⟩ | h <;> rw [h] <;> rfl
      have hd : (Progress.point negative n).step (digitChar d) =
          some (.fraction negative n [d]) := by
        simp only [Progress.step, digit?_digitChar]
        rfl
      have hrender : Numeral.renderFraction (d :: digits) =
          ['.', digitChar d] ++ digits.map digitChar := rfl
      have hfirst : ['.', digitChar d].foldlM Progress.step (.afterDigits negative n) =
          some (.fraction negative n [d]) := by
        simp [hpoint, hd]
      rw [hrender, List.foldlM_append, hfirst]
      show (digits.map digitChar).foldlM Progress.step (.fraction negative n [d]) = _
      rw [Progress.foldlM_fraction, ← List.reverse_cons]
      rfl

/-- The mark of an exponent may follow a whole part and a fraction. -/
theorem Progress.step_mark (negative : Bool) (n : Nat) (digits : List (Fin 10)) :
    (Progress.afterFraction negative n digits).step 'e' =
      some (.mark negative n digits.reverse) := by
  cases digits with
  | nil =>
      rw [Progress.afterFraction]
      rcases Progress.afterDigits_cases negative n with ⟨rfl, h⟩ | h <;> rw [h] <;> rfl
  | cons d digits => rfl

/-- An exponent behind its sign. -/
theorem Progress.foldlM_exponent (negative : Bool) (n : Nat) (found : List (Fin 10)) (down : Bool)
    (size : Nat) :
    (Nat.toDigits 10 size).foldlM Progress.step (.markSign negative n found down) =
      some (.exponent negative n found down size) := by
  obtain ⟨c, cs, p, hcs, hp, hrun⟩ := Progress.toDigits_spec
    (Progress.markSign negative n found down).step (Progress.exponent negative n found down)
    (fun d => by simp only [Progress.step, digit?_digitChar]; rfl)
    (fun m d _ => by simp only [Progress.step, digit?_digitChar]; rfl) size
  rw [hcs, List.foldlM_cons, hp]
  exact hrun

/-- The rest of a numeral behind its whole part, after which it may end. -/
theorem Progress.foldlM_rest (n : Numeral) : ∃ p,
    (Numeral.renderFraction n.fraction ++ Numeral.renderExponent n.exponent).foldlM Progress.step
        (.afterDigits n.negative n.whole) = some p ∧ p.finish = some n := by
  obtain ⟨negative, whole, digits, exponent⟩ := n
  have hfraction := Progress.foldlM_renderFraction negative whole digits
  have hmark := Progress.step_mark negative whole digits
  have hexponent := Progress.foldlM_exponent negative whole digits.reverse
  simp only [List.foldlM_append, hfraction]
  show ∃ p, (Numeral.renderExponent exponent).foldlM Progress.step
    (.afterFraction negative whole digits) = some p ∧ _
  match exponent with
  | none =>
      refine ⟨.afterFraction negative whole digits, rfl, ?_⟩
      cases digits with
      | nil =>
          rw [Progress.afterFraction]
          rcases Progress.afterDigits_cases negative whole with ⟨rfl, h⟩ | h <;> rw [h] <;> rfl
      | cons d digits => simp [Progress.afterFraction, Progress.finish]
  | some (.ofNat size) =>
      refine ⟨.exponent negative whole digits.reverse false size, ?_, by simp [Progress.finish]⟩
      rw [Numeral.renderExponent, List.foldlM_cons, hmark]
      exact hexponent false size
  | some (.negSucc size) =>
      refine ⟨.exponent negative whole digits.reverse true (size + 1), ?_, ?_⟩
      · rw [Numeral.renderExponent, List.foldlM_cons, hmark]
        exact hexponent true (size + 1)
      · simp [Progress.finish, Int.negSucc_eq]

/-- A numeral is read to its end, where it may end. -/
theorem Numeral.render_spec (n : Numeral) : ∃ c cs p q, n.render = c :: cs ∧
    Progress.start? c = some p ∧ cs.foldlM Progress.step p = some q ∧ q.finish = some n := by
  obtain ⟨q, hrest, hq⟩ := Progress.foldlM_rest n
  have hfirst : ∀ negative (d : Fin 10),
      ((digit? (digitChar d)).map fun d => if d = 0 then Progress.zero negative
        else .whole negative d.val) = some (Progress.afterDigits negative d.val) := by
    intro negative d
    rw [digit?_digitChar]
    simp only [Option.map_some, Progress.afterDigits, Fin.ext_iff]
    rfl
  -- the digits are read behind the sign, or the first of them starts the numeral
  cases hsign : n.negative with
  | true =>
      obtain ⟨c, cs, p, hcs, hp, hrun⟩ := Progress.toDigits_spec Progress.sign.step
        (Progress.afterDigits true) (hfirst true) (fun m d => Progress.step_afterDigits true d)
        n.whole
      refine ⟨'-', c :: cs ++ (renderFraction n.fraction ++ renderExponent n.exponent), .sign, q,
        ?_, rfl, ?_, hq⟩
      · rw [render, hsign, hcs]
        simp
      · rw [List.cons_append, List.foldlM_cons, hp, ← hrest, hsign]
        show (cs ++ _).foldlM Progress.step p = _
        rw [List.foldlM_append, hrun]
        rfl
  | false =>
      have hstart : ∀ d : Fin 10, Progress.start? (digitChar d) =
          some (Progress.afterDigits false d.val) := by
        intro d
        have hne : digitChar d ≠ '-' := by
          revert d
          decide
        rw [Progress.start?, if_neg hne]
        exact hfirst false d
      obtain ⟨c, cs, p, hcs, hp, hrun⟩ := Progress.toDigits_spec Progress.start?
        (Progress.afterDigits false) hstart (fun m d => Progress.step_afterDigits false d) n.whole
      refine ⟨c, cs ++ (renderFraction n.fraction ++ renderExponent n.exponent), p, q, ?_, hp, ?_,
        hq⟩
      · rw [render, hsign, hcs]
        simp
      · rw [List.foldlM_append, hrun, ← hrest, hsign]
        rfl

end BenchDepot.Decimal
