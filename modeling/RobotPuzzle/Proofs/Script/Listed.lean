import RobotPuzzle.Proofs.Script.Layout
import RobotPuzzle.Proofs.Script.Guard

namespace RobotPuzzle

def Command.IsCounted : Command → Prop
  | .forward count => 1 ≤ count.toNat
  | .backward count => 1 ≤ count.toNat
  | _ => True

namespace Script

inductive Lists : String → Token → Prop
  | command (c : Command) : Lists c.listing (.command c)
  | bareIf (condition : Condition) :
      Lists ("se(" ++ condition.listing ++ ")") (.bareIf condition condition.listing)
  | opening : Lists "\x7b" .opening
  | closing : Lists "\x7d" .closing

def numeral (count : UInt32) : List Char := Nat.toDigits 10 count.toNat

lemma numeral_isDigit (count : UInt32) : ∀ c ∈ numeral count, c.isDigit :=
  fun _ hc => Nat.isDigit_of_mem_toDigits (by decide) (by decide) hc

lemma isSolid_numeral (count : UInt32) : IsSolid (numeral count) :=
  isSolid_of_digits Nat.toDigits_ne_nil (numeral_isDigit count)

lemma head_toDigits {n : Nat} (h : 1 ≤ n) : (Nat.toDigits 10 n).head? ≠ some '0' := by
  induction n using Nat.strong_induction_on with
  | h n ih =>
    rcases Nat.lt_or_ge n 10 with hn | hn
    · rw [Nat.toDigits_of_lt_base hn]
      interval_cases n <;> decide
    · rw [Nat.toDigits_of_base_le (by decide) hn, List.head?_append_of_ne_nil _ Nat.toDigits_ne_nil]
      exact ih (n / 10) (by omega) (by omega)

lemma count_numeral {count : UInt32} (h : 1 ≤ count.toNat) :
    count? (numeral count) = some count := by
  obtain ⟨c, rest, hd⟩ := List.exists_cons_of_ne_nil (isSolid_numeral count).1
  have hc : c ≠ '0' := by
    rintro rfl
    exact head_toDigits h (by rw [← numeral, hd]; rfl)
  have hn : Nat.ofDigitChars 10 (c :: rest) 0 = count.toNat := by
    rw [← hd]
    exact Nat.ofDigitChars_ten_toDigits
  rw [hd]
  simp only [count?, hn]
  rw [if_pos ⟨hc, count.toNat_lt_size⟩, UInt32.ofNat_toNat]

lemma count_numeral_zero {count : UInt32} (h : ¬ 1 ≤ count.toNat) :
    count? (numeral count) = none := by
  have hz : count.toNat = 0 := by omega
  rw [numeral, hz]
  rfl

lemma skipGap_solid {text rest : List Char} (h : IsSolid text) :
    skipGap (text ++ rest) = text ++ rest := by
  obtain ⟨c, tail, rfl⟩ := List.exists_cons_of_ne_nil h.1
  have hc := (h.2 c List.mem_cons_self).1
  refine List.dropWhile_cons_of_neg ?_
  intro hg
  simp only [isGap, Bool.or_eq_true, beq_iff_eq] at hg
  rcases hg with rfl | rfl <;> exact absurd hc (by decide)

lemma moveCount_numeral (count : UInt32) :
    moveCount? ('(' :: (numeral count ++ [')'])) = count? (numeral count) := by
  have hd := numeral_isDigit count
  have ho : afterMark? '(' ('(' :: (numeral count ++ [')'])) = some (numeral count ++ [')']) := rfl
  have hc : afterMark? ')' [')'] = some [] := rfl
  rw [moveCount?, ho]
  simp only [Option.bind_some, skipGap_solid (isSolid_numeral count),
    List.dropWhile_append_of_pos hd, List.takeWhile_append_of_pos hd]
  rw [List.dropWhile_cons_of_neg (by decide), List.takeWhile_cons_of_neg (by decide), hc,
    List.append_nil]
  rfl

lemma command_forward (rest : List Char) :
    command? ("andarFrente".toList ++ rest) = (moveCount? rest).map .forward := rfl

lemma command_backward (rest : List Char) :
    command? ("andarTras".toList ++ rest) = (moveCount? rest).map .backward := rfl

lemma listing_forward (count : UInt32) : (Command.forward count).listing.toList =
    "andarFrente".toList ++ '(' :: (numeral count ++ [')']) := by
  simp [Command.listing, Command.keyword, numeral]

lemma listing_backward (count : UInt32) : (Command.backward count).listing.toList =
    "andarTras".toList ++ '(' :: (numeral count ++ [')']) := by
  simp [Command.listing, Command.keyword, numeral]

lemma command_listing_forward (count : UInt32) :
    command? (Command.forward count).listing.toList =
      (count? (numeral count)).map .forward := by
  rw [listing_forward, command_forward, moveCount_numeral]

lemma command_listing_backward (count : UInt32) :
    command? (Command.backward count).listing.toList =
      (count? (numeral count)).map .backward := by
  rw [listing_backward, command_backward, moveCount_numeral]

lemma shape_andar (rest : List Char) : shape? ("andar".toList ++ rest) =
    (command? ("andar".toList ++ rest)).map .command := by
  rw [shape?]
  cases command? ("andar".toList ++ rest) with
  | some c => rfl
  | none => rfl

lemma reads_command {c : Command} (h : c.IsCounted) : Reads c.listing.toList (.command c) := by
  cases c with
  | forward count =>
    have hc := command_listing_forward count
    rw [count_numeral h] at hc
    exact shape_command_iff.mpr hc
  | backward count =>
    have hc := command_listing_backward count
    rw [count_numeral h] at hc
    exact shape_command_iff.mpr hc
  | _ => exact shape_command_iff.mpr rfl

lemma shape_uncounted {c : Command} (h : ¬ c.IsCounted) : shape? c.listing.toList = none := by
  cases c with
  | forward count =>
    have hc := command_listing_forward count
    rw [count_numeral_zero h] at hc
    rw [listing_forward] at hc ⊢
    exact (shape_andar ("Frente".toList ++ '(' :: (numeral count ++ [')']))).trans (congrArg _ hc)
  | backward count =>
    have hc := command_listing_backward count
    rw [count_numeral_zero h] at hc
    rw [listing_backward] at hc ⊢
    exact (shape_andar ("Tras".toList ++ '(' :: (numeral count ++ [')']))).trans (congrArg _ hc)
  | _ => exact absurd trivial h

lemma Lists.reads {text : String} {token : Token} (h : Lists text token)
    (hc : ∀ c ∈ token.command?, c.IsCounted) : Reads text.toList token := by
  cases h with
  | command c => exact reads_command (hc c rfl)
  | bareIf condition =>
    refine ⟨condition.listing.toList, ?_, ?_⟩
    · rcases condition with (_ | _) | (_ | _) <;> decide
    · rcases condition with (_ | _) | (_ | _) <;> rfl
  | opening => rfl
  | closing => rfl

lemma isSolid_listing (c : Command) : IsSolid c.listing.toList := by
  cases c with
  | forward count =>
    rw [listing_forward, ← List.singleton_append]
    exact .append (by decide) (.append (by decide) ((isSolid_numeral count).append (by decide)))
  | backward count =>
    rw [listing_backward, ← List.singleton_append]
    exact .append (by decide) (.append (by decide) ((isSolid_numeral count).append (by decide)))
  | _ => decide

lemma Lists.isSolid {text : String} {token : Token} (h : Lists text token) :
    IsSolid text.toList := by
  cases h with
  | command c => exact isSolid_listing c
  | bareIf condition => rcases condition with (_ | _) | (_ | _) <;> decide
  | opening => decide
  | closing => decide

end Script

end RobotPuzzle
