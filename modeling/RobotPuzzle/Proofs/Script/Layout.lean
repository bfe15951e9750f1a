import Mathlib.Data.List.Forall2
import RobotPuzzle.Program.Listing
import RobotPuzzle.Script.Line

namespace RobotPuzzle.Script

open Text

def IsSolid (text : List Char) : Prop :=
  text ≠ [] ∧ ∀ c ∈ text, isBlank c = false ∧ c ≠ '\ufeff'

instance (text : List Char) : Decidable (IsSolid text) :=
  @instDecidableAnd _ _ inferInstance (List.decidableBAll _ text)

lemma IsSolid.append {text rest : List Char} (ht : IsSolid text) (hr : IsSolid rest) :
    IsSolid (text ++ rest) :=
  ⟨List.append_ne_nil_of_left_ne_nil ht.1 rest, List.forall_mem_append.mpr ⟨ht.2, hr.2⟩⟩

lemma isBlank_of_isDigit {c : Char} (h : c.isDigit) : isBlank c = false := by
  simp only [Char.isDigit, Bool.and_eq_true, decide_eq_true_eq, ge_iff_le,
    UInt32.le_iff_toNat_le] at h
  simp only [isBlank, blankRanges, List.any_cons, List.any_nil, Bool.or_eq_false_iff,
    Bool.and_eq_false_iff, decide_eq_false_iff_not, UInt32.le_iff_toNat_le]
  simp at h ⊢
  omega

lemma isSolid_of_digits {digits : List Char} (hn : digits ≠ []) (h : ∀ c ∈ digits, c.isDigit) :
    IsSolid digits := by
  refine ⟨hn, fun c hc => ⟨isBlank_of_isDigit (h c hc), ?_⟩⟩
  rintro rfl
  exact absurd (h _ hc) (by decide)

lemma dropWhile_isBlank_solid {text : List Char} (h : IsSolid text) :
    text.dropWhile isBlank = text := by
  obtain ⟨c, rest, rfl⟩ := List.exists_cons_of_ne_nil h.1
  exact List.dropWhile_cons_of_neg (by simp [(h.2 c (by simp)).1])

lemma IsSolid.reverse {text : List Char} (h : IsSolid text) : IsSolid text.reverse :=
  ⟨by simpa using h.1, by simpa using h.2⟩

lemma trim_indented (depth : Nat) {text : List Char} (h : IsSolid text) :
    trim (List.replicate depth ' ' ++ text) = text := by
  have hd : (List.replicate depth ' ' ++ text).dropWhile isBlank = text := by
    rw [List.dropWhile_append_of_pos, dropWhile_isBlank_solid h]
    intro c hc
    rw [List.eq_of_mem_replicate hc]
    decide
  rw [trim, hd, dropWhile_isBlank_solid h.reverse, List.reverse_reverse]

lemma dropReturn_indented (depth : Nat) {text : List Char} (h : IsSolid text) :
    dropReturn (List.replicate depth ' ' ++ text) = List.replicate depth ' ' ++ text := by
  apply if_neg
  rw [List.getLast?_append_of_ne_nil _ h.1]
  intro hl
  exact absurd (h.2 _ (List.mem_of_getLast? hl)).1 (by decide)

def IsIndented (line : String) (text : List Char) : Prop :=
  ∃ depth, line.toList = List.replicate depth ' ' ++ text ∧ IsSolid text

lemma isIndented_indent (depth : Nat) {text : String} (h : IsSolid text.toList) :
    IsIndented (indent depth text) text.toList :=
  ⟨4 * depth, by simp [indent], h⟩

lemma IsIndented.newline_not_mem {line : String} {text : List Char} (h : IsIndented line text) :
    '\n' ∉ line.toList := by
  obtain ⟨depth, hl, hs⟩ := h
  rw [hl, List.mem_append, not_or]
  refine ⟨fun hc => absurd (List.eq_of_mem_replicate hc) (by decide), fun hc => ?_⟩
  exact absurd (hs.2 _ hc).1 (by decide)

lemma IsIndented.trim_dropReturn {line : String} {text : List Char} (h : IsIndented line text) :
    trim (dropReturn line.toList) = text := by
  obtain ⟨depth, hl, hs⟩ := h
  rw [hl, dropReturn_indented depth hs, trim_indented depth hs]

lemma toList_unlines (ls : List String) :
    (unlines ls).toList = ls.flatMap fun line => line.toList ++ ['\n'] := by
  simp [unlines, String.toList_join, List.flatMap_map]

lemma splitOn_unlines {ls : List String} (h : ∀ line ∈ ls, '\n' ∉ line.toList) :
    (unlines ls).toList.splitOn '\n' = ls.map String.toList ++ [[]] := by
  rw [toList_unlines]
  induction ls with
  | nil => rfl
  | cons line ls ih =>
    obtain ⟨hl, hs⟩ := List.forall_mem_cons.mp h
    rw [List.flatMap_cons, List.append_assoc, List.singleton_append,
      List.splitOn_append_cons_self_of_not_mem hl, ih hs]
    rfl

lemma dropMark_of_head {text : List Char} (h : text.head? ≠ some '\ufeff') :
    dropMark text = text := by
  simp only [dropMark]
  split
  · exact absurd rfl h
  · rfl

lemma IsIndented.head {line : String} {text : List Char} (h : IsIndented line text)
    (rest : List Char) : (line.toList ++ rest).head? ≠ some '\ufeff' := by
  obtain ⟨depth, hl, hs⟩ := h
  rw [hl]
  cases depth with
  | zero =>
    obtain ⟨c, tail, rfl⟩ := List.exists_cons_of_ne_nil hs.1
    simpa using (hs.2 c (by simp)).2
  | succ depth =>
    rw [List.replicate_succ]
    simp

lemma numberLines_texts (start : Nat) (ls : List (List Char)) :
    (numberLines start ls).map (·.text) = ls.map fun line => trim (dropReturn line) := by
  induction ls generalizing start with
  | nil => rfl
  | cons line ls ih => rw [numberLines, List.map_cons, List.map_cons, ih]

lemma filter_text {ls : List Line} : (ls.filter fun line => !line.isBlank).map (·.text) =
    (ls.map (·.text)).filter fun text => !text.isEmpty := by
  rw [List.filter_map]
  rfl

variable {ls : List String} {texts : List (List Char)}

lemma dropMark_unlines (h : List.Forall₂ IsIndented ls texts) :
    dropMark (unlines ls).toList = (unlines ls).toList := by
  apply dropMark_of_head
  rw [toList_unlines]
  cases h with
  | nil => simp
  | cons hl _ =>
    rw [List.flatMap_cons, List.append_assoc]
    exact hl.head _

lemma newline_not_mem (h : List.Forall₂ IsIndented ls texts) :
    ∀ line ∈ ls, '\n' ∉ line.toList := by
  induction h with
  | nil => simp
  | cons hl _ ih => exact List.forall_mem_cons.mpr ⟨hl.newline_not_mem, ih⟩

lemma map_trim_dropReturn (h : List.Forall₂ IsIndented ls texts) :
    ls.map (fun line => trim (dropReturn line.toList)) = texts := by
  induction h with
  | nil => rfl
  | cons hl _ ih => rw [List.map_cons, hl.trim_dropReturn, ih]

lemma filter_nonempty (h : List.Forall₂ IsIndented ls texts) :
    texts.filter (fun text => !text.isEmpty) = texts := by
  induction h with
  | nil => rfl
  | cons hl _ ih =>
    obtain ⟨-, -, hs⟩ := hl
    rw [List.filter_cons_of_pos (by simpa using hs.1), ih]

theorem lines_unlines (h : List.Forall₂ IsIndented ls texts) :
    (lines (unlines ls)).map (·.text) = texts := by
  have hb : trim (dropReturn []) = [] := rfl
  rw [lines, filter_text, allLines, dropMark_unlines h, splitOn_unlines (newline_not_mem h),
    numberLines_texts]
  simp only [List.map_append, List.map_map, Function.comp_def, map_trim_dropReturn h,
    List.filter_append, filter_nonempty h, List.map_cons, List.map_nil, hb]
  simp

end RobotPuzzle.Script
