import RobotPuzzle.Proofs.Script.Balance

/-! The statement tree read from the front, one block at a time, with a look at the next token. On
lines that have passed their checks this gives what assembly from the end gives. -/

namespace RobotPuzzle

namespace Script

structure Front (α : Type) (bound : Nat) where
  value : α
  rest : List Placed
  bounded : rest.length ≤ bound

def Front.wrap {α β : Type} {bound bound' : Nat} (front : Front α bound) (f : α → β)
    (h : bound ≤ bound') : Front β bound' :=
  ⟨f front.value, front.rest, front.bounded.trans h⟩

mutual

def statementFrom (placed : Placed) (below : List Placed) :
    Except Rejection (Front Statement below.length) :=
  match placed.token with
  | .command c => .ok ⟨.command c, below, le_rfl⟩
  | .opening =>
    (blockFrom (some placed.line) below).map fun front => front.wrap .block le_rfl
  | .blockIf condition source =>
    (blockFrom (some placed.line) below).map fun front =>
      front.wrap (fun body => .when condition source (.block body)) le_rfl
  | .bareIf condition source =>
    match below with
    | [] => .error (.faulty .emptyConditional placed.line)
    | next :: below =>
      if next.token = .closing then .error (.faulty .emptyConditional placed.line)
      else (statementFrom next below).map fun front =>
        front.wrap (.when condition source) (Nat.le_succ below.length)
  | .closing => .error (.faulty .unopenedBlock placed.line)
-- An opening brace hands on all that is below it, which still counts for less than the brace.
termination_by 2 * below.length + 2

def blockFrom (opener : Option Line) (tokens : List Placed) :
    Except Rejection (Front (List Statement) tokens.length) :=
  match tokens with
  | [] =>
    match opener with
    | some line => .error (.faulty .unclosedBlock line)
    | none => .ok ⟨[], [], le_rfl⟩
  | next :: below =>
    if next.token = .closing then
      match opener with
      | some _ => .ok ⟨[], below, Nat.le_succ below.length⟩
      | none => .error (.faulty .unopenedBlock next.line)
    else do
      let first ← statementFrom next below
      let others ← blockFrom opener first.rest
      return others.wrap (first.value :: ·) (first.bounded.trans (Nat.le_succ below.length))
termination_by 2 * tokens.length + 1
decreasing_by
  · simp
    omega
  · have hb := first.bounded
    simp
    omega

end

def descend (tokens : List Placed) : Except Rejection Program :=
  (blockFrom none tokens).map fun front => ⟨front.value⟩

lemma statementFrom_of_wrap {token : Token} {wrap : List Statement → Statement}
    (h : token.wrap? = some wrap) (line : Line) (below : List Placed) :
    statementFrom ⟨line, token⟩ below =
      (blockFrom (some line) below).map fun front => front.wrap wrap le_rfl := by
  cases token with
  | opening =>
    obtain rfl := Option.some.inj h
    rw [statementFrom]
  | blockIf condition source =>
    obtain rfl := Option.some.inj h
    rw [statementFrom]
  | _ => simp [Token.wrap?] at h

lemma statementFrom_bareIf (line : Line) (condition : Condition) (source : String) {next : Placed}
    (below : List Placed) (hc : next.token ≠ .closing) :
    statementFrom ⟨line, .bareIf condition source⟩ (next :: below) =
      (statementFrom next below).map fun front =>
        front.wrap (.when condition source) (Nat.le_succ below.length) := by
  rw [statementFrom]
  exact if_neg hc

lemma blockFrom_cons (opener : Option Line) {next : Placed} (below : List Placed)
    (hc : next.token ≠ .closing) :
    blockFrom opener (next :: below) = (statementFrom next below).bind fun first =>
      (blockFrom opener first.rest).map fun others =>
        others.wrap (first.value :: ·) (first.bounded.trans (Nat.le_succ below.length)) := by
  cases opener <;> (rw [blockFrom, if_neg hc]; rfl)

/-- Where a block ends, given what the lines below are assembled into: behind the next closing
brace, or at the end when no block is open. -/
def Stops (opener : Option Line) (outer : List (Line × List Statement))
    (rest : List Placed) : Prop :=
  match opener, outer with
  | some _, (_, statements) :: outer => assembleFrom rest = .ok ⟨statements, outer⟩
  | none, [] => rest = []
  | _, _ => False

lemma isEmptyConditional_cons {placed next : Placed} {below : List Placed}
    (h : isEmptyConditional placed (next :: below) = false) {condition : Condition}
    {source : String} (ht : placed.token = .bareIf condition source) : next.token ≠ .closing := by
  obtain ⟨line, token⟩ := placed
  obtain ⟨line', token'⟩ := next
  rintro rfl
  obtain rfl : token = .bareIf condition source := ht
  simp [isEmptyConditional] at h

mutual

lemma statementFrom_ok (placed : Placed) (below : List Placed) {assembly : Assembly}
    (h : assembleFrom (placed :: below) = .ok assembly) (hc : placed.token ≠ .closing) :
    ∃ front statements, statementFrom placed below = .ok front ∧
      assembly.body = front.value :: statements ∧
      assembleFrom front.rest = .ok ⟨statements, assembly.outer⟩ := by
  obtain ⟨he, rest, hr, hp⟩ := assembleFrom_cons_ok h
  obtain ⟨line, token⟩ := placed
  cases hw : token.wrap? with
  | some wrap =>
    rw [push_of_wrap hw] at hp
    obtain ⟨close, statements, outer, ho, rfl⟩ := Assembly.openBlock_ok hp
    obtain ⟨front, hf, hv, hs⟩ := blockFrom_ok (some line) below hr (by simp [ho])
    rw [ho] at hs
    refine ⟨front.wrap wrap le_rfl, statements, ?_, ?_, hs⟩
    · rw [statementFrom_of_wrap hw, hf, Except.map]
    · rw [← hv]
      rfl
  | none =>
    cases token with
    | command c =>
      obtain rfl := Except.ok.inj hp
      exact ⟨⟨.command c, below, le_rfl⟩, rest.body, by rw [statementFrom], rfl, hr⟩
    | bareIf condition source =>
      obtain ⟨statement, statements, hb, rfl⟩ := Assembly.push_bareIf_ok hp
      cases below with
      | nil => simp [isEmptyConditional] at he
      | cons next below =>
        have hn := isEmptyConditional_cons he rfl
        obtain ⟨front, more, hf, hv, hs⟩ := statementFrom_ok next below hr hn
        obtain ⟨rfl, rfl⟩ := List.cons.inj (hb.symm.trans hv)
        refine ⟨front.wrap (.when condition source) (Nat.le_succ below.length), statements,
          ?_, rfl, hs⟩
        rw [statementFrom_bareIf line condition source below hn, hf, Except.map]
    | closing => exact absurd rfl hc
    | opening => simp [Token.wrap?] at hw
    | blockIf condition source => simp [Token.wrap?] at hw
termination_by 2 * below.length + 2

lemma blockFrom_ok (opener : Option Line) : (tokens : List Placed) → {assembly : Assembly} →
    assembleFrom tokens = .ok assembly → (opener = none ↔ assembly.outer = []) →
    ∃ front, blockFrom opener tokens = .ok front ∧ front.value = assembly.body ∧
      Stops opener assembly.outer front.rest
  | [], assembly, h, ho => by
    obtain rfl := Except.ok.inj h
    obtain rfl := ho.mpr rfl
    exact ⟨⟨[], [], le_rfl⟩, by rw [blockFrom], rfl, rfl⟩
  | next :: below, assembly, h, ho => by
    by_cases hc : next.token = .closing
    · obtain ⟨-, rest, hr, hp⟩ := assembleFrom_cons_ok h
      obtain ⟨line, token⟩ := next
      obtain rfl : token = .closing := hc
      obtain rfl := Except.ok.inj hp
      cases opener with
      | none => simp at ho
      | some opener =>
        exact ⟨⟨[], below, Nat.le_succ below.length⟩, by rw [blockFrom, if_pos rfl], rfl, hr⟩
    · obtain ⟨first, statements, hf, hv, hs⟩ := statementFrom_ok next below h hc
      have hb := first.bounded
      obtain ⟨others, hos, hov, host⟩ := blockFrom_ok opener first.rest hs ho
      refine ⟨others.wrap (first.value :: ·) (first.bounded.trans (Nat.le_succ below.length)),
        ?_, ?_, host⟩
      · rw [blockFrom_cons opener below hc, hf, Except.bind, hos, Except.map]
      · rw [hv]
        exact congrArg (first.value :: ·) hov
termination_by tokens => 2 * tokens.length + 1
decreasing_by
  · simp
    omega
  · simp
    omega

end

lemma assembleFrom_cons_error {placed : Placed} {below : List Placed} {line : Line}
    (h : assembleFrom (placed :: below) = .error (.faulty .emptyConditional line)) :
    isEmptyConditional placed below = true ∧ placed.line = line ∨
      isEmptyConditional placed below = false ∧
        assembleFrom below = .error (.faulty .emptyConditional line) := by
  by_cases he : isEmptyConditional placed below = true
  · rw [assembleFrom, if_pos he] at h
    simp only [Except.error.injEq, Rejection.faulty.injEq, true_and] at h
    exact Or.inl ⟨he, h⟩
  have hn := eq_false_of_ne_true he
  refine Or.inr ⟨hn, ?_⟩
  cases hr : assembleFrom below with
  | error rejection =>
    rw [assembleFrom, if_neg he, hr] at h
    exact h
  | ok rest =>
    rw [assembleFrom_cons _ hn hr] at h
    obtain ⟨line', token⟩ := placed
    cases hw : token.wrap? with
    | some wrap =>
      obtain ⟨body, outer⟩ := rest
      rw [push_of_wrap hw] at h
      cases outer <;> simp [Assembly.openBlock] at h
    | none =>
      cases token with
      | bareIf condition source =>
        cases below with
        | nil => simp [isEmptyConditional] at hn
        | cons next below =>
          obtain ⟨front, statements, -, hv, -⟩ :=
            statementFrom_ok next below hr (isEmptyConditional_cons hn rfl)
          simp [Assembly.push, hv] at h
      | command c => simp [Assembly.push] at h
      | closing => simp [Assembly.push] at h
      | opening => simp [Token.wrap?] at hw
      | blockIf condition source => simp [Token.wrap?] at hw

lemma isEmptyConditional_eq_true {placed : Placed} {below : List Placed}
    (h : isEmptyConditional placed below = true) :
    ∃ condition source, placed.token = .bareIf condition source ∧
      (below = [] ∨ ∃ line more, below = ⟨line, .closing⟩ :: more) := by
  obtain ⟨line, token⟩ := placed
  cases token with
  | bareIf condition source =>
    refine ⟨condition, source, rfl, ?_⟩
    rcases below with _ | ⟨⟨line', token'⟩, more⟩
    · exact Or.inl rfl
    · cases token' with
      | closing => exact Or.inr ⟨line', more, rfl⟩
      | _ => simp [isEmptyConditional] at h
  | _ => simp [isEmptyConditional] at h

lemma exists_header {tokens : List Placed} {line : Line}
    (h : assembleFrom tokens = .error (.faulty .emptyConditional line)) :
    ∃ before condition source more,
      tokens.flatMap (·.token.pieces) = before ++ .bareIf condition source :: more ∧
      (more = [] ∨ ∃ last, more = .closing :: last) := by
  induction tokens with
  | nil => exact nomatch h
  | cons placed below ih =>
    rw [List.flatMap_cons]
    obtain ⟨he, -⟩ | ⟨-, hb⟩ := assembleFrom_cons_error h
    · obtain ⟨condition, source, ht, hm⟩ := isEmptyConditional_eq_true he
      refine ⟨[], condition, source, below.flatMap (·.token.pieces), by rw [ht]; rfl, ?_⟩
      obtain rfl | ⟨line', more, rfl⟩ := hm
      · exact Or.inl rfl
      · exact Or.inr ⟨_, rfl⟩
    · obtain ⟨before, condition, source, more, hp, hm⟩ := ih hb
      exact ⟨placed.token.pieces ++ before, condition, source, more, by rw [hp]; simp, hm⟩

def Nested : Nat → List Placed → Prop
  | _, [] => True
  | depth, ⟨_, token⟩ :: below =>
    if token.closes then 0 < depth ∧ Nested (depth - 1) below
    else Nested (if token.opens then depth + 1 else depth) below

mutual

lemma statementFrom_error (placed : Placed) (below : List Placed) {line : Line} {depth : Nat}
    (h : assembleFrom (placed :: below) = .error (.faulty .emptyConditional line))
    (hn : Nested depth (placed :: below)) (hc : placed.token ≠ .closing) :
    statementFrom placed below = .error (.faulty .emptyConditional line) ∨
      ∃ front, statementFrom placed below = .ok front ∧
        assembleFrom front.rest = .error (.faulty .emptyConditional line) ∧
        Nested depth front.rest := by
  obtain ⟨line', token⟩ := placed
  obtain ⟨he, hl⟩ | ⟨he, hb⟩ := assembleFrom_cons_error h
  · obtain rfl : line' = line := hl
    cases token with
    | bareIf condition source =>
      cases below with
      | nil => exact Or.inl (by rw [statementFrom])
      | cons next below =>
        have ht : next.token = .closing := by
          obtain ⟨-, -, -, hm | ⟨line', more, hm⟩⟩ := isEmptyConditional_eq_true he
          · exact nomatch hm
          · rw [(List.cons.inj hm).1]
        exact Or.inl (by rw [statementFrom]; exact if_pos ht)
    | _ => exact nomatch he
  cases hw : token.wrap? with
  | some wrap =>
    have hn' : Nested (depth + 1) below := by
      obtain ⟨hopens, hcloses⟩ := opens_of_wrap hw
      simpa [Nested, hopens, hcloses] using hn
    obtain hf | ⟨front, -, hf, hr⟩ := blockFrom_error (some line') below hb hn' (by simp)
    · exact Or.inl (by rw [statementFrom_of_wrap hw, hf, Except.map])
    · exact Or.inr ⟨front.wrap wrap le_rfl,
        by rw [statementFrom_of_wrap hw, hf, Except.map], hr⟩
  | none =>
    cases token with
    | command c => exact Or.inr ⟨⟨.command c, below, le_rfl⟩, by rw [statementFrom], hb, hn⟩
    | bareIf condition source =>
      cases below with
      | nil => exact nomatch hb
      | cons next below =>
        have ht := isEmptyConditional_cons he rfl
        obtain hf | ⟨front, hf, hr⟩ := statementFrom_error next below hb hn ht
        · refine Or.inl ?_
          rw [statementFrom_bareIf line' condition source below ht, hf, Except.map]
        · refine Or.inr ⟨front.wrap (.when condition source) (Nat.le_succ below.length), ?_, hr⟩
          rw [statementFrom_bareIf line' condition source below ht, hf, Except.map]
    | closing => exact absurd rfl hc
    | opening => simp [Token.wrap?] at hw
    | blockIf condition source => simp [Token.wrap?] at hw
termination_by 2 * below.length + 2

lemma blockFrom_error (opener : Option Line) : (tokens : List Placed) → {line : Line} →
    {depth : Nat} → assembleFrom tokens = .error (.faulty .emptyConditional line) →
    Nested depth tokens → (opener = none ↔ depth = 0) →
    blockFrom opener tokens = .error (.faulty .emptyConditional line) ∨
      ∃ front, opener ≠ none ∧ blockFrom opener tokens = .ok front ∧
        assembleFrom front.rest = .error (.faulty .emptyConditional line) ∧
        Nested (depth - 1) front.rest
  | [], line, depth, h, hn, ho => nomatch h
  | next :: below, line, depth, h, hn, ho => by
    by_cases hc : next.token = .closing
    · obtain ⟨line', token⟩ := next
      obtain rfl : token = .closing := hc
      obtain ⟨he, -⟩ | ⟨-, hb⟩ := assembleFrom_cons_error h
      · exact nomatch he
      obtain ⟨hd, hr⟩ : 0 < depth ∧ Nested (depth - 1) below := hn
      cases opener with
      | none => simp [ho.mp rfl] at hd
      | some opener =>
        exact Or.inr ⟨⟨[], below, Nat.le_succ below.length⟩, by simp,
          by rw [blockFrom, if_pos rfl], hb, hr⟩
    · obtain hf | ⟨first, hf, hb, hr⟩ := statementFrom_error next below h hn hc
      · exact Or.inl (by rw [blockFrom_cons opener below hc, hf, Except.bind])
      · have hl := first.bounded
        obtain hs | ⟨others, hs, hos, hor⟩ := blockFrom_error opener first.rest hb hr ho
        · exact Or.inl (by rw [blockFrom_cons opener below hc, hf, Except.bind, hs, Except.map])
        · exact Or.inr ⟨others.wrap (first.value :: ·) (hl.trans (Nat.le_succ below.length)), hs,
            by rw [blockFrom_cons opener below hc, hf, Except.bind, hos, Except.map], hor⟩
termination_by tokens => 2 * tokens.length + 1
decreasing_by
  · simp
    omega
  · simp
    omega

end

variable {guard : Guard} {limit : Option Nat} {above tokens : List Placed} {lines : List Line}

lemma Passes.nested (h : Passes guard limit above lines tokens) (hr : AllRead above) :
    Nested (governors above).length tokens := by
  induction h with
  | nil => trivial
  | @cons above line token below tokens hc _ hp ih =>
    obtain ⟨hl, hf⟩ := check_ok_iff.mp hc
    have hn := ih (List.forall_mem_cons.mpr ⟨hl, hr⟩)
    cases token with
    | closing =>
      have ho : hasOpener 0 (above.map (·.line)) := hf
      rw [hasOpener_eq hr, decide_eq_true_eq] at ho
      simp only [governors, List.length_tail] at hn
      exact ⟨ho, hn⟩
    | _ => exact hn

lemma Passes.descend_eq (h : Passes guard limit [] lines tokens) :
    descend tokens = assemble tokens := by
  obtain ⟨body, ha⟩ | ⟨line, ha⟩ := h.assembleFrom_top
  · have hp : assemble tokens = .ok ⟨body⟩ := assemble_ok_iff.mpr ha
    obtain ⟨front, hf, hv, -⟩ := blockFrom_ok none tokens ha (by simp)
    rw [descend, hf, hp, Except.map, hv]
  · have hn : Nested 0 tokens := h.nested (List.forall_mem_nil _)
    obtain hf | ⟨front, hs, -⟩ := blockFrom_error none tokens ha hn (by simp)
    · rw [descend, hf, assemble, ha]
      rfl
    · exact absurd rfl hs

lemma Passes.assemble_iff (h : Passes guard limit [] lines tokens) {program : Program} :
    assemble tokens = .ok program ↔ program.reading = tokens.flatMap (·.token.pieces) := by
  refine ⟨reading_assemble, fun hr => ?_⟩
  obtain ⟨body, ha⟩ | ⟨line, ha⟩ := h.assembleFrom_top
  · have hp : assemble tokens = .ok ⟨body⟩ := assemble_ok_iff.mpr ha
    rw [Program.reading_injective (hr.trans (reading_assemble hp).symm), hp]
  · obtain ⟨before, condition, source, more, hp, hm⟩ := exists_header ha
    have hb : Statement.readings program.body ++ [] =
        before ++ .bareIf condition source :: more := by
      rw [List.append_nil, ← hp, ← hr, Program.reading]
    obtain ⟨between, hn⟩ := Statement.header_behind_readings hm program.body hb
    simp at hn

end Script

open Script

namespace Program

/-- Lines that pass their checks are put together as they stand: every brace meets its partner, and
the tree is the one that reads line by line as the source does. -/
theorem reading_exact (limit : Option Nat) (source : String) :
    (∀ placed, checkAll sensorGuard limit [] (lines source) = .ok placed →
      descend placed = assemble placed ∧
      ((∃ program, assemble placed = .ok program) ∨
        ∃ line, assemble placed = .error (.faulty .emptyConditional line)) ∧
      ∀ program, assemble placed = .ok program ↔
        program.reading = placed.flatMap (·.token.pieces)) ∧
    ∀ program, ofSource limit source = .ok program →
      (∃ tokens : List Token,
        (lines source).map (fun line => token? line.text) = tokens.map some ∧
        program.reading = tokens.flatMap Token.pieces) ∧
      ∀ other : Program, other.reading = program.reading → other = program := by
  constructor
  · intro tokens h
    obtain ⟨passed, rfl, hp⟩ := passes_of_checkAll h
    exact ⟨hp.descend_eq, hp.assemble_eq, fun program => hp.assemble_iff⟩
  · intro program h
    obtain ⟨placed, hp, ha⟩ := ofLines_ok_iff.mp h
    refine ⟨⟨placed.map (·.token), ?_, ?_⟩, fun other ho => reading_injective ho⟩
    · rw [← hp.map_line, List.map_map, List.map_map]
      exact List.map_congr_left fun item hi => (hp.allRead item hi).token_eq
    · rw [reading_assemble ha, List.flatMap_map]

theorem reading_exact_nested : ∃ tokens program,
    checkAll sensorGuard none []
      (lines "se(true)\n\x7b\nse(false) \x7b\n\ncoletarCristal()\n\x7d\n\x7d\nse(false)\ndarMeiaVolta()") =
      .ok tokens ∧
    descend tokens = .ok program ∧
    program.reading = [.bareIf (.literal true) "true", .opening, .bareIf (.literal false) "false",
      .opening, .command .collect, .closing, .closing, .bareIf (.literal false) "false",
      .command .turnAround] ∧
    ∀ other : Program, other.reading = program.reading → other = program := by
  have hs : ofSource none
      "se(true)\n\x7b\nse(false) \x7b\n\ncoletarCristal()\n\x7d\n\x7d\nse(false)\ndarMeiaVolta()" =
    .ok ⟨[.when (.literal true) "true" (.block [.when (.literal false) "false"
      (.block [.command .collect])]), .when (.literal false) "false" (.command .turnAround)]⟩ :=
    rfl
  obtain ⟨tokens, hp, ha⟩ := ofLines_ok_iff.mp hs
  obtain ⟨hd, -⟩ := (reading_exact none _).1 tokens hp.checkAll_eq
  exact ⟨tokens, _, hp.checkAll_eq, hd.trans ha, rfl, ((reading_exact none _).2 _ hs).2⟩

end Program

end RobotPuzzle
