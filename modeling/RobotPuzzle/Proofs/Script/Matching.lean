import Mathlib.Combinatorics.Enumerative.DyckWord
import Mathlib.Order.Bounds.Defs
import RobotPuzzle.Proofs.Script.Braces

/-! The scans for a brace, down and up from its line, find what one pass with a stack pairs it with.
-/

namespace RobotPuzzle

namespace Script

def Line.braceCount (line : Line) : Nat := line.text.count '\x7b' + line.text.count '\x7d'

def opensAt (lines : List Line) (i : Nat) : Bool := lines[i]?.any Line.opensBlock

def closesAt (lines : List Line) (i : Nat) : Bool := lines[i]?.any Line.closesBlock

def hasCloserAt (lines : List Line) (i : Nat) : Bool := hasCloser 0 (lines.drop (i + 1))

def hasOpenerAt (lines : List Line) (i : Nat) : Bool := hasOpener 0 (lines.take i).reverse

/-- The stack behind the first lines: an opening line is put on it, and a closing line takes the
uppermost one off. -/
def stackAfter (lines : List Line) : Nat → List Nat
  | 0 => []
  | n + 1 =>
    if opensAt lines n then n :: stackAfter lines n
    else if closesAt lines n then (stackAfter lines n).tail
    else stackAfter lines n

def Pairs (lines : List Line) (i j : Nat) : Prop :=
  closesAt lines j ∧ (stackAfter lines j).head? = some i

def strayOpeners (lines : List Line) : Set Nat :=
  {i | opensAt lines i ∧ ∀ j, ¬ Pairs lines i j}

def strayClosers (lines : List Line) : Set Nat :=
  {j | closesAt lines j ∧ ∀ i, ¬ Pairs lines i j}

def FailsScan (lines : List Line) (i : Nat) : Prop :=
  opensAt lines i ∧ hasCloserAt lines i = false ∨ closesAt lines i ∧ hasOpenerAt lines i = false

def Line.brace? (line : Line) : Option DyckStep :=
  if line.opensBlock then some .U else if line.closesBlock then some .D else none

def braces (lines : List Line) : List DyckStep := lines.filterMap Line.brace?

def HoldsOneBrace (lines : List Line) : Prop := ∀ line ∈ lines, line.braceCount ≤ 1

lemma Line.not_closesBlock {line : Line} (h : line.braceCount ≤ 1) (ho : line.opensBlock = true) :
    line.closesBlock = false := by
  apply Bool.eq_false_iff.mpr
  intro hc
  have ho' := List.count_pos_iff.mpr (List.contains_iff_mem.mp ho)
  have hc' := List.count_pos_iff.mpr (List.contains_iff_mem.mp hc)
  rw [braceCount] at h
  omega

variable {lines : List Line} {i j n s depth : Nat}

lemma opensAt_of_getElem? {line : Line} (h : lines[n]? = some line) :
    opensAt lines n = line.opensBlock := by
  rw [opensAt, h, Option.any_some]

lemma closesAt_of_getElem? {line : Line} (h : lines[n]? = some line) :
    closesAt lines n = line.closesBlock := by
  rw [closesAt, h, Option.any_some]

lemma lt_length_of_closesAt (h : closesAt lines n = true) : n < lines.length := by
  obtain ⟨line, hn, -⟩ := (Option.any_eq_true ..).mp h
  exact (List.getElem?_eq_some_iff.mp hn).1

lemma stackAfter_opening (ho : opensAt lines n = true) :
    stackAfter lines (n + 1) = n :: stackAfter lines n := by
  rw [stackAfter, if_pos ho]

lemma stackAfter_closing (ho : opensAt lines n = false) (hc : closesAt lines n = true) :
    stackAfter lines (n + 1) = (stackAfter lines n).tail := by
  rw [stackAfter, if_neg (Bool.eq_false_iff.mp ho), if_pos hc]

lemma stackAfter_plain (ho : opensAt lines n = false) (hc : closesAt lines n = false) :
    stackAfter lines (n + 1) = stackAfter lines n := by
  rw [stackAfter, if_neg (Bool.eq_false_iff.mp ho), if_neg (Bool.eq_false_iff.mp hc)]

lemma pairwise_stackAfter (lines : List Line) (n : Nat) :
    (n :: stackAfter lines n).Pairwise (· > ·) := by
  induction n with
  | zero => exact List.pairwise_singleton _ _
  | succ n ih =>
    obtain ⟨hn, hs⟩ := List.pairwise_cons.mp ih
    apply List.pairwise_cons.mpr
    cases ho : opensAt lines n with
    | true =>
      rw [stackAfter_opening ho]
      refine ⟨fun s hs => ?_, ih⟩
      obtain rfl | hs := List.mem_cons.mp hs
      · exact Nat.lt_succ_self s
      · exact Nat.lt_succ_of_lt (hn s hs)
    | false =>
      cases hc : closesAt lines n with
      | true =>
        rw [stackAfter_closing ho hc]
        exact ⟨fun s hs => Nat.lt_succ_of_lt (hn s (List.mem_of_mem_tail hs)), hs.tail⟩
      | false =>
        rw [stackAfter_plain ho hc]
        exact ⟨fun s hs => Nat.lt_succ_of_lt (hn s hs), hs⟩

lemma lt_of_mem_stackAfter (h : s ∈ stackAfter lines n) : s < n :=
  List.rel_of_pairwise_cons (pairwise_stackAfter lines n) h

lemma Pairs.lt (h : Pairs lines i j) : i < j :=
  lt_of_mem_stackAfter (List.mem_of_mem_head? h.2)

lemma not_pairs_of_closesAt (h : closesAt lines n = false) (s : Nat) : ¬ Pairs lines s n := by
  intro hp
  rw [Pairs, h] at hp
  exact absurd hp.1 Bool.false_ne_true

lemma HoldsOneBrace.not_closesAt (hb : HoldsOneBrace lines) (ho : opensAt lines n = true) :
    closesAt lines n = false := by
  obtain ⟨line, hn, hl⟩ := (Option.any_eq_true ..).mp ho
  rw [closesAt_of_getElem? hn]
  exact Line.not_closesBlock (hb line (List.mem_of_getElem? hn)) hl

lemma mem_tail_stackAfter :
    s ∈ (stackAfter lines n).tail ↔
      s ∈ stackAfter lines n ∧ (stackAfter lines n).head? ≠ some s := by
  have hp := (List.pairwise_cons.mp (pairwise_stackAfter lines n)).2
  cases hs : stackAfter lines n with
  | nil => simp
  | cons top rest =>
    rw [hs] at hp
    have ht : s ∈ rest → top ≠ s := fun hm => (List.rel_of_pairwise_cons hp hm).ne'
    simp only [List.tail_cons, List.mem_cons, List.head?_cons, ne_eq, Option.some.injEq]
    tauto

lemma mem_stackAfter_iff (hb : HoldsOneBrace lines) :
    s ∈ stackAfter lines n ↔
      s < n ∧ opensAt lines s = true ∧ ∀ j < n, ¬ Pairs lines s j := by
  induction n with
  | zero => simp [stackAfter]
  | succ n ih =>
    rw [Nat.forall_lt_succ_right]
    cases ho : opensAt lines n with
    | true =>
      rw [stackAfter_opening ho, List.mem_cons, ih, Nat.lt_succ_iff_lt_or_eq]
      have hn := not_pairs_of_closesAt (hb.not_closesAt ho) s
      constructor
      · rintro (rfl | ⟨hs, ho', hj⟩)
        · exact ⟨.inr rfl, ho, fun j hj h => Nat.lt_asymm hj h.lt, hn⟩
        · exact ⟨.inl hs, ho', hj, hn⟩
      · rintro ⟨hs | rfl, ho', hj, -⟩
        · exact .inr ⟨hs, ho', hj⟩
        · exact .inl rfl
    | false =>
      have hs : opensAt lines s = true → (s < n + 1 ↔ s < n) := fun h => by
        have hne : s ≠ n := fun e => Bool.eq_false_iff.mp ho (e ▸ h)
        omega
      cases hc : closesAt lines n with
      | true =>
        rw [stackAfter_closing ho hc, mem_tail_stackAfter, ih]
        simp only [Pairs, hc, true_and]
        tauto
      | false =>
        have hn := not_pairs_of_closesAt hc s
        rw [stackAfter_plain ho hc, ih]
        tauto

lemma hasOpener_take (hb : HoldsOneBrace lines) (n depth : Nat) :
    hasOpener depth (lines.take n).reverse = true ↔ depth < (stackAfter lines n).length := by
  rw [hasOpener]
  induction n generalizing depth with
  | zero => simp [scan, stackAfter]
  | succ n ih =>
    rw [List.take_add_one, List.reverse_append]
    cases hn : lines[n]? with
    | none => simpa [stackAfter, opensAt, closesAt, hn] using ih depth
    | some line =>
      have ho := opensAt_of_getElem? hn
      have hc := closesAt_of_getElem? hn
      change scan _ _ depth (line :: (lines.take n).reverse) = true ↔ _
      rw [scan_cons, stackAfter, ho, hc]
      cases h : line.opensBlock with
      | true =>
        have hc' : line.closesBlock = false := hc ▸ hb.not_closesAt (ho.trans h)
        cases depth with
        | zero => simp
        | succ depth => simpa [hc'] using ih depth
      | false =>
        cases hc' : line.closesBlock with
        | true =>
          have hi := ih (depth + 1)
          simp only [if_true, Bool.false_eq_true, if_false, List.length_tail]
          rw [hi]
          omega
        | false => simpa using ih depth

lemma exists_pairs_of_not_pairs (h : ¬ Pairs lines s n) :
    (∃ j, n ≤ j ∧ Pairs lines s j) ↔ ∃ j, n + 1 ≤ j ∧ Pairs lines s j := by
  apply exists_congr
  intro j
  apply and_congr_left
  intro hj
  have hne : n ≠ j := fun e => h (e ▸ hj)
  omega

lemma not_pairs_of_getElem? (hs : (stackAfter lines n)[depth + 1]? = some s) :
    ¬ Pairs lines s n := by
  intro h
  rw [← List.getElem?_tail] at hs
  exact (mem_tail_stackAfter.mp (List.mem_of_getElem? hs)).2 h.2

lemma hasCloser_drop (hb : HoldsOneBrace lines) (hs : (stackAfter lines n)[depth]? = some s) :
    hasCloser depth (lines.drop n) = true ↔ ∃ j, n ≤ j ∧ Pairs lines s j := by
  rw [hasCloser]
  generalize hd : lines.drop n = below
  induction below generalizing n depth with
  | nil =>
    have hl := List.drop_eq_nil_iff.mp hd
    simp only [scan, Bool.false_eq_true, false_iff, not_exists, not_and]
    intro j hj h
    have := lt_length_of_closesAt h.1
    omega
  | cons line below ih =>
    have hn : lines[n]? = some line := by rw [← List.head?_drop, hd, List.head?_cons]
    have hd' : lines.drop (n + 1) = below := by rw [← List.tail_drop, hd, List.tail_cons]
    have ho := opensAt_of_getElem? hn
    have hc := closesAt_of_getElem? hn
    rw [scan_cons]
    cases h : line.opensBlock with
    | true =>
      have hc' := hb.not_closesAt (ho.trans h)
      rw [exists_pairs_of_not_pairs (not_pairs_of_closesAt hc' s),
        ← ih (by rw [stackAfter_opening (ho.trans h), List.getElem?_cons_succ, hs]) hd',
        ← hc, hc']
      rfl
    | false =>
      cases h' : line.closesBlock with
      | true =>
        have ht := stackAfter_closing (ho.trans h) (hc.trans h')
        cases depth with
        | zero =>
          exact iff_of_true rfl ⟨n, le_rfl, hc.trans h', by rw [List.head?_eq_getElem?, hs]⟩
        | succ depth =>
          rw [exists_pairs_of_not_pairs (not_pairs_of_getElem? hs),
            ← ih (by rw [ht, List.getElem?_tail, hs]) hd']
          rfl
      | false =>
        rw [exists_pairs_of_not_pairs (not_pairs_of_closesAt (hc.trans h') s),
          ← ih (by rw [stackAfter_plain (ho.trans h) (hc.trans h'), hs]) hd']
        rfl

lemma hasCloserAt_iff (hb : HoldsOneBrace lines) (ho : opensAt lines i = true) :
    hasCloserAt lines i = true ↔ ∃ j, i < j ∧ Pairs lines i j :=
  hasCloser_drop hb (by rw [stackAfter_opening ho, List.getElem?_cons_zero])

lemma hasOpenerAt_iff (hb : HoldsOneBrace lines) (hc : closesAt lines j = true) :
    hasOpenerAt lines j = true ↔ ∃ i, Pairs lines i j := by
  rw [hasOpenerAt, hasOpener_take hb, List.length_pos_iff_ne_nil, ← List.isSome_head?,
    Option.isSome_iff_exists]
  exact exists_congr fun i => (and_iff_right hc).symm

lemma failsScan_iff (hb : HoldsOneBrace lines) :
    FailsScan lines i ↔ i ∈ strayClosers lines ∨ i ∈ strayOpeners lines := by
  rw [or_comm]
  apply or_congr
  · apply and_congr_right
    intro ho
    rw [← Bool.not_eq_true, hasCloserAt_iff hb ho]
    refine ⟨fun h j hp => h ⟨j, hp.lt, hp⟩, fun h ⟨j, _, hp⟩ => h j hp⟩
  · apply and_congr_right
    intro hc
    rw [← Bool.not_eq_true, hasOpenerAt_iff hb hc, not_exists]

lemma strayCloser_lt_strayOpener (hb : HoldsOneBrace lines) (hj : j ∈ strayClosers lines)
    (hi : i ∈ strayOpeners lines) : j < i := by
  obtain ⟨hc, hj⟩ := hj
  by_contra hle
  have hne : i ≠ j := by
    rintro rfl
    exact Bool.eq_false_iff.mp (hb.not_closesAt hi.1) hc
  have hm : i ∈ stackAfter lines j :=
    (mem_stackAfter_iff hb).mpr ⟨by omega, hi.1, fun k _ => hi.2 k⟩
  cases hs : stackAfter lines j with
  | nil => exact absurd (hs ▸ hm) List.not_mem_nil
  | cons top rest => exact hj top ⟨hc, by rw [hs, List.head?_cons]⟩

lemma isLeast_failsScan_iff (hb : HoldsOneBrace lines) :
    IsLeast {i | FailsScan lines i} i ↔
      IsLeast (strayClosers lines) i ∨ strayClosers lines = ∅ ∧ IsLeast (strayOpeners lines) i := by
  have hf : {i | FailsScan lines i} = strayClosers lines ∪ strayOpeners lines :=
    Set.ext fun i => failsScan_iff hb
  rw [hf]
  obtain he | ⟨j, hj⟩ := (strayClosers lines).eq_empty_or_nonempty
  · simp only [he, Set.empty_union, true_and, iff_or_self]
    exact fun h => absurd h.1 (Set.notMem_empty i)
  · have hne : strayClosers lines ≠ ∅ := Set.nonempty_iff_ne_empty.mp ⟨j, hj⟩
    simp only [hne, false_and, or_false]
    constructor
    · rintro ⟨hi | hi, hl⟩
      · exact ⟨hi, fun k hk => hl (.inl hk)⟩
      · exact absurd (hl (.inl hj)) (Nat.not_le.mpr (strayCloser_lt_strayOpener hb hj hi))
    · rintro ⟨hi, hl⟩
      refine ⟨.inl hi, ?_⟩
      rintro k (hk | hk)
      · exact hl hk
      · exact (strayCloser_lt_strayOpener hb hi hk).le

lemma brace?_of_getElem? (lines : List Line) (n : Nat) :
    lines[n]?.bind Line.brace? =
      if opensAt lines n then some .U else if closesAt lines n then some .D else none := by
  cases hn : lines[n]? with
  | none => simp [opensAt, closesAt, hn]
  | some line =>
    rw [opensAt_of_getElem? hn, closesAt_of_getElem? hn]
    rfl

lemma braces_take_succ (lines : List Line) (n : Nat) :
    braces (lines.take (n + 1)) =
      braces (lines.take n) ++ (lines[n]?.bind Line.brace?).toList := by
  rw [List.take_add_one, braces, braces, List.filterMap_append]
  cases lines[n]? with
  | none => rfl
  | some line => cases h : line.brace? <;> simp [h]

def KeepsCount (lines : List Line) (n : Nat) : Prop :=
  (stackAfter lines n).length + (braces (lines.take n)).count .D = (braces (lines.take n)).count .U

lemma KeepsCount.succ (h : KeepsCount lines n)
    (hc : opensAt lines n = false → closesAt lines n = true → stackAfter lines n ≠ []) :
    KeepsCount lines (n + 1) := by
  rw [KeepsCount] at h ⊢
  rw [braces_take_succ, brace?_of_getElem?, List.count_append, List.count_append]
  cases ho : opensAt lines n with
  | true =>
    rw [stackAfter_opening ho]
    simp
    omega
  | false =>
    cases hc' : closesAt lines n with
    | true =>
      have hl := List.length_pos_iff_ne_nil.mpr (hc ho hc')
      rw [stackAfter_closing ho hc', List.length_tail]
      simp
      omega
    | false =>
      rw [stackAfter_plain ho hc']
      simpa using h

lemma stackAfter_ne_nil_of_strayClosers (h : strayClosers lines = ∅)
    (hc : closesAt lines n = true) : stackAfter lines n ≠ [] := by
  intro hs
  have hn : n ∈ strayClosers lines := ⟨hc, fun i hp => by simpa [hs] using hp.2⟩
  exact absurd hn (h ▸ Set.notMem_empty n)

lemma KeepsCount.count_lt (h : KeepsCount lines n) (hb : HoldsOneBrace lines)
    (hc : closesAt lines n = true) (hs : stackAfter lines n = []) :
    (braces (lines.take (n + 1))).count .U < (braces (lines.take (n + 1))).count .D := by
  have ho : opensAt lines n = false :=
    Bool.eq_false_iff.mpr fun ho => Bool.eq_false_iff.mp (hb.not_closesAt ho) hc
  rw [KeepsCount, hs, List.length_nil, Nat.zero_add] at h
  rw [braces_take_succ, brace?_of_getElem?, ho, hc, List.count_append, List.count_append, h]
  simp

lemma keepsCount_of_strayClosers (h : strayClosers lines = ∅) (n : Nat) : KeepsCount lines n := by
  induction n with
  | zero => exact rfl
  | succ n ih => exact ih.succ fun _ => stackAfter_ne_nil_of_strayClosers h

lemma keepsCount_of_prefixes (hb : HoldsOneBrace lines)
    (h : ∀ n, (braces (lines.take n)).count .D ≤ (braces (lines.take n)).count .U) (n : Nat) :
    KeepsCount lines n := by
  induction n with
  | zero => exact rfl
  | succ n ih =>
    apply ih.succ
    intro _ hc hs
    exact absurd (h (n + 1)) (Nat.not_le.mpr (ih.count_lt hb hc hs))

lemma strayClosers_eq_empty_iff (hb : HoldsOneBrace lines) :
    strayClosers lines = ∅ ↔
      ∀ n, (braces (lines.take n)).count .D ≤ (braces (lines.take n)).count .U := by
  constructor
  · intro h n
    have hk := keepsCount_of_strayClosers h n
    rw [KeepsCount] at hk
    omega
  · intro h
    apply Set.eq_empty_of_forall_notMem
    rintro j ⟨hc, hj⟩
    have hs : stackAfter lines j = [] := by
      cases hs : stackAfter lines j with
      | nil => rfl
      | cons top rest => exact absurd ⟨hc, by rw [hs, List.head?_cons]⟩ (hj top)
    exact absurd (h (j + 1)) (Nat.not_le.mpr ((keepsCount_of_prefixes hb h j).count_lt hb hc hs))

lemma strayOpeners_eq_empty_iff (hb : HoldsOneBrace lines) :
    strayOpeners lines = ∅ ↔ stackAfter lines lines.length = [] := by
  rw [List.eq_nil_iff_forall_not_mem, Set.eq_empty_iff_forall_notMem]
  apply forall_congr'
  intro s
  rw [mem_stackAfter_iff hb]
  apply not_congr
  constructor
  · rintro ⟨ho, hj⟩
    obtain ⟨line, hn, -⟩ := (Option.any_eq_true ..).mp ho
    exact ⟨(List.getElem?_eq_some_iff.mp hn).1, ho, fun j _ => hj j⟩
  · rintro ⟨-, ho, hj⟩
    exact ⟨ho, fun j hp => hj j (lt_length_of_closesAt hp.1) hp⟩

lemma prefixes_braces_iff (lines : List Line) :
    (∀ n, (braces (lines.take n)).count .D ≤ (braces (lines.take n)).count .U) ↔
      ∀ i, ((braces lines).take i).count .D ≤ ((braces lines).take i).count .U := by
  constructor
  · intro h i
    obtain ⟨front, hf, he⟩ := List.prefix_filterMap_iff.mp (List.take_prefix i (braces lines))
    have hn := h front.length
    rwa [← List.prefix_iff_eq_take.mp hf, braces, ← he] at hn
  · intro h n
    have hp : braces (lines.take n) <+: braces lines :=
      List.IsPrefix.filterMap Line.brace? (List.take_prefix n lines)
    rw [List.prefix_iff_eq_take.mp hp]
    exact h _

lemma forall_not_failsScan_iff (hb : HoldsOneBrace lines) :
    (∀ i, ¬ FailsScan lines i) ↔ ∃ word : DyckWord, word.toList = braces lines := by
  have hs : (∀ i, ¬ FailsScan lines i) ↔ strayClosers lines = ∅ ∧ strayOpeners lines = ∅ := by
    simp only [failsScan_iff hb, not_or, forall_and, Set.eq_empty_iff_forall_notMem]
  have hp := (strayClosers_eq_empty_iff hb).trans (prefixes_braces_iff lines)
  rw [hs, strayOpeners_eq_empty_iff hb]
  have hk : strayClosers lines = ∅ → (stackAfter lines lines.length).length +
      (braces lines).count .D = (braces lines).count .U := fun h => by
    have hk := keepsCount_of_strayClosers h lines.length
    rwa [KeepsCount, List.take_length] at hk
  constructor
  · rintro ⟨hc, ho⟩
    have hk := hk hc
    rw [ho, List.length_nil, Nat.zero_add] at hk
    exact ⟨⟨braces lines, hk.symm, hp.mp hc⟩, rfl⟩
  · rintro ⟨word, hw⟩
    have hc : strayClosers lines = ∅ := hp.mpr (hw ▸ word.count_D_le_count_U)
    have he := hw ▸ word.count_U_eq_count_D
    have hk := hk hc
    exact ⟨hc, List.length_eq_zero_iff.mp (by omega)⟩

/-- For lines with a brace at most, which those that pass their check are, a scan finds a brace
where the stack pairs one, all scans succeed just when the braces are balanced, and the first scan
to fail is that of the first stray closing line, or else of the first stray opening line. -/
theorem scans_match_stack :
    (∀ (guard : Guard) (above : List Placed) (line : Line) (below : List Line) (token : Token),
      check guard above line below = .ok token → line.braceCount ≤ 1) ∧
    ∀ lines : List Line, HoldsOneBrace lines →
      (∀ i, opensAt lines i →
        (hasCloserAt lines i ↔ ∃ j, i < j ∧ closesAt lines j ∧ Pairs lines i j)) ∧
      (∀ j, closesAt lines j →
        (hasOpenerAt lines j ↔ ∃ i, i < j ∧ opensAt lines i ∧ Pairs lines i j)) ∧
      ((∀ i, ¬ FailsScan lines i) ↔ ∃ word : DyckWord, word.toList = braces lines) ∧
      ∀ i, IsLeast {i | FailsScan lines i} i ↔
        IsLeast (strayClosers lines) i ∨
          strayClosers lines = ∅ ∧ IsLeast (strayOpeners lines) i := by
  refine ⟨fun guard above line below token h => Reads.count_braces_le (check_ok_iff.mp h).1,
    fun lines hb => ⟨fun i ho => ?_, fun j hc => ?_, forall_not_failsScan_iff hb,
      fun i => isLeast_failsScan_iff hb⟩⟩
  · rw [hasCloserAt_iff hb ho]
    exact exists_congr fun j => and_congr_right fun _ => ⟨fun h => ⟨h.1, h⟩, And.right⟩
  · rw [hasOpenerAt_iff hb hc]
    refine exists_congr fun i => ⟨fun h => ?_, fun h => h.2.2⟩
    exact ⟨h.lt, ((mem_stackAfter_iff hb).mp (List.mem_of_mem_head? h.2)).2.1, h⟩

instance (lines : List Line) (i j : Nat) : Decidable (Pairs lines i j) :=
  inferInstanceAs (Decidable (_ ∧ _))

instance (lines : List Line) : Decidable (HoldsOneBrace lines) :=
  inferInstanceAs (Decidable (∀ _ ∈ _, _))

def strayLines : List Line := Script.lines "\x7d\n\x7b\n\x7b\n\x7d"

theorem scans_match_stack_strayLines :
    (check sensorGuard [] ⟨3, "\x7b", ['\x7b']⟩ (strayLines.drop 3) = .ok .opening ∧
      Line.braceCount ⟨3, "\x7b", ['\x7b']⟩ ≤ 1) ∧
    HoldsOneBrace strayLines ∧ hasCloserAt strayLines 2 = true ∧
      hasOpenerAt strayLines 3 = true ∧ IsLeast {i | FailsScan strayLines i} 0 ∧
      ¬ ∃ word : DyckWord, word.toList = braces strayLines := by
  have ht : check sensorGuard [] ⟨3, "\x7b", ['\x7b']⟩ (strayLines.drop 3) = .ok .opening := by
    decide +kernel
  have hb : HoldsOneBrace strayLines := by decide +kernel
  obtain ⟨hcheck, h⟩ := scans_match_stack
  obtain ⟨hcloser, hopener, hbalanced, hfirst⟩ := h strayLines hb
  have hp : Pairs strayLines 2 3 := by decide +kernel
  have h0 : IsLeast {i | FailsScan strayLines i} 0 := by
    refine (hfirst 0).mpr (.inl ⟨⟨by decide +kernel, fun i h => ?_⟩, fun i _ => Nat.zero_le i⟩)
    exact absurd h.lt (Nat.not_lt_zero i)
  exact ⟨⟨ht, hcheck _ _ _ _ _ ht⟩, hb,
    (hcloser 2 (by decide +kernel)).mpr ⟨3, by decide, hp.1, hp⟩,
    (hopener 3 (by decide +kernel)).mpr ⟨2, by decide, by decide +kernel, hp⟩, h0,
    fun hw => hbalanced.mpr hw 0 h0.1⟩

end Script

end RobotPuzzle
