import RobotPuzzle.Proofs.Script.Reading
import RobotPuzzle.Proofs.Script.Spelling

/-! Lines that have passed their checks have no brace that assembly could miss: the scans for a
brace count the blocks that are still to be opened or closed. -/

namespace RobotPuzzle

namespace Script

lemma hasCloser_eq {tokens : List Placed} {assembly : Assembly}
    (h : assembleFrom tokens = .ok assembly) (hr : AllRead tokens) (depth : Nat) :
    hasCloser depth (tokens.map (·.line)) = decide (depth < assembly.outer.length) := by
  induction tokens generalizing assembly depth with
  | nil =>
    obtain rfl := Except.ok.inj h
    rfl
  | cons placed below ih =>
    obtain ⟨-, rest, ha, hp⟩ := assembleFrom_cons_ok h
    obtain ⟨line, token⟩ := placed
    obtain ⟨hl, hb⟩ := List.forall_mem_cons.mp hr
    rw [List.map_cons, hasCloser_cons hl]
    simp only [ih ha hb]
    cases hw : token.wrap? with
    | some wrap =>
      rw [push_of_wrap hw] at hp
      obtain ⟨close, statements, outer, ho, rfl⟩ := Assembly.openBlock_ok hp
      obtain ⟨hopens, hcloses⟩ := opens_of_wrap hw
      simp [hopens, hcloses, ho]
    | none =>
      cases token with
      | command c =>
        obtain rfl := Except.ok.inj hp
        rfl
      | bareIf condition source =>
        obtain ⟨statement, statements, hs, rfl⟩ := Assembly.push_bareIf_ok hp
        rfl
      | closing =>
        obtain rfl := Except.ok.inj hp
        cases depth <;> simp [Token.closes]
      | opening => simp [Token.wrap?] at hw
      | blockIf condition source => simp [Token.wrap?] at hw

lemma hasOpener_eq {above : List Placed} (hr : AllRead above) (depth : Nat) :
    hasOpener depth (above.map (·.line)) = decide (depth < (governors above).length) := by
  induction above generalizing depth with
  | nil => rfl
  | cons placed above ih =>
    obtain ⟨line, token⟩ := placed
    obtain ⟨hl, ha⟩ := List.forall_mem_cons.mp hr
    rw [List.map_cons, hasOpener_cons hl]
    simp only [ih ha]
    cases token with
    | closing =>
      simp only [Token.closes, Token.opens, governors, List.length_tail]
      simp
      omega
    | opening => cases depth <;> simp [Token.opens, governors]
    | blockIf condition source => cases depth <;> simp [Token.opens, governors]
    | _ => rfl

lemma length_governors_of_wrap {token : Token} {wrap : List Statement → Statement}
    (h : token.wrap? = some wrap) (line : Line) (above : List Placed) :
    (governors (⟨line, token⟩ :: above)).length = (governors above).length + 1 := by
  cases token <;> first | rfl | simp [Token.wrap?] at h

variable {guard : Guard} {limit : Option Nat} {above tokens : List Placed} {lines : List Line}

lemma Passes.map_line (h : Passes guard limit above lines tokens) :
    tokens.map (·.line) = lines := by
  induction h with
  | nil => rfl
  | cons _ _ _ ih => rw [List.map_cons, ih]

lemma Passes.allRead (h : Passes guard limit above lines tokens) : AllRead tokens := by
  induction h with
  | nil => simp [AllRead]
  | cons hc _ _ ih => exact List.forall_mem_cons.mpr ⟨(check_ok_iff.mp hc).1, ih⟩

lemma hasCloser_of_wrap {token : Token} {wrap : List Statement → Statement} {below : List Line}
    (h : token.wrap? = some wrap) (hf : Fits guard above below token) : hasCloser 0 below := by
  cases token <;> first | exact hf | simp [Token.wrap?] at h

lemma Assembly.push_of_fits {rest : Assembly} {line : Line} {token : Token} {below : List Placed}
    (hr : AllRead above) (hb : AllRead below) (ha : assembleFrom below = .ok rest)
    (hf : Fits guard above (below.map (·.line)) token)
    (ho : rest.outer.length ≤ (governors (⟨line, token⟩ :: above)).length) :
    (∃ assembly, rest.push ⟨line, token⟩ = .ok assembly ∧
      assembly.outer.length ≤ (governors above).length) ∨
    ∃ empty, rest.push ⟨line, token⟩ = .error (.faulty .emptyConditional empty) := by
  cases hw : token.wrap? with
  | some wrap =>
    have hc := hasCloser_of_wrap hw hf
    rw [hasCloser_eq ha hb, decide_eq_true_eq] at hc
    obtain ⟨body, outer⟩ := rest
    rw [push_of_wrap hw]
    cases outer with
    | nil => exact absurd hc (Nat.lt_irrefl 0)
    | cons item outer =>
      refine Or.inl ⟨_, rfl, ?_⟩
      rw [length_governors_of_wrap hw] at ho
      exact Nat.le_of_succ_le_succ ho
  | none =>
    cases token with
    | command c => exact Or.inl ⟨_, rfl, ho⟩
    | bareIf condition source =>
      obtain ⟨body, outer⟩ := rest
      cases body with
      | nil => exact Or.inr ⟨line, rfl⟩
      | cons statement statements => exact Or.inl ⟨_, rfl, ho⟩
    | closing =>
      have hc : hasOpener 0 (above.map (·.line)) := hf
      rw [hasOpener_eq hr, decide_eq_true_eq] at hc
      refine Or.inl ⟨_, rfl, ?_⟩
      simp only [governors, List.length_tail, List.length_cons] at ho ⊢
      omega
    | opening => simp [Token.wrap?] at hw
    | blockIf condition source => simp [Token.wrap?] at hw

lemma Passes.assembleFrom_eq (h : Passes guard limit above lines tokens) (hr : AllRead above) :
    (∃ assembly, assembleFrom tokens = .ok assembly ∧
      assembly.outer.length ≤ (governors above).length) ∨
    ∃ line, assembleFrom tokens = .error (.faulty .emptyConditional line) := by
  induction h with
  | nil => exact Or.inl ⟨_, rfl, Nat.zero_le _⟩
  | @cons above line token below tokens hc _ hp ih =>
    obtain ⟨hl, hf⟩ := check_ok_iff.mp hc
    by_cases he : isEmptyConditional ⟨line, token⟩ tokens
    · exact Or.inr ⟨line, by rw [assembleFrom, if_pos he]⟩
    · obtain ⟨rest, ha, ho⟩ | ⟨empty, ha⟩ := ih (List.forall_mem_cons.mpr ⟨hl, hr⟩)
      · rw [assembleFrom_cons _ (by simpa using he) ha]
        rw [← hp.map_line] at hf
        exact Assembly.push_of_fits hr hp.allRead ha hf ho
      · refine Or.inr ⟨empty, ?_⟩
        rw [assembleFrom, if_neg he, ha]
        rfl

lemma Passes.assembleFrom_top (h : Passes guard limit [] lines tokens) :
    (∃ body, assembleFrom tokens = .ok ⟨body, []⟩) ∨
    ∃ line, assembleFrom tokens = .error (.faulty .emptyConditional line) := by
  obtain ⟨⟨body, outer⟩, ha, ho⟩ | he := h.assembleFrom_eq (List.forall_mem_nil _)
  · obtain rfl := List.eq_nil_of_length_eq_zero (Nat.le_zero.mp ho)
    exact Or.inl ⟨body, ha⟩
  · exact Or.inr he

lemma Passes.assemble_eq (h : Passes guard limit [] lines tokens) :
    (∃ program, assemble tokens = .ok program) ∨
    ∃ line, assemble tokens = .error (.faulty .emptyConditional line) := by
  obtain ⟨body, ha⟩ | ⟨line, ha⟩ := h.assembleFrom_top
  · exact Or.inl ⟨⟨body⟩, assemble_ok_iff.mpr ha⟩
  · refine Or.inr ⟨line, ?_⟩
    rw [assemble, ha]
    rfl

end Script

end RobotPuzzle
