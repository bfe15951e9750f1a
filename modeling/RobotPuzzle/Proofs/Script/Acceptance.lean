import RobotPuzzle.Proofs.Script.Forms
import RobotPuzzle.Proofs.Script.Reading
import RobotPuzzle.Proofs.Script.Relabelling
import RobotPuzzle.Proofs.Script.Spelling

namespace RobotPuzzle

namespace Script

def reading? : List (List Char) → Option (List Token)
  | [] => some []
  | text :: texts => (token? text).bind fun token => (reading? texts).map (token.pieces ++ ·)

lemma reading_append (texts others : List (List Char)) : reading? (texts ++ others) =
    (reading? texts).bind fun pieces => (reading? others).map (pieces ++ ·) := by
  induction texts with
  | nil => simp [reading?]
  | cons text texts ih =>
    rw [List.cons_append, reading?, reading?, ih]
    cases token? text <;> cases reading? texts <;> cases reading? others <;> simp

def piecesOf (placed : List Placed) : List Token := placed.flatMap (·.token.pieces)

lemma reads_of_token {text : List Char} {token : Token} (h : token? text = some token) :
    Reads text token := by
  have hr : ∀ {inner} {f : Condition × String → Token},
      (readCondition inner).toOption.map f = some token →
      ∃ c source, readCondition inner = .ok (c, source) ∧ f (c, source) = token := by
    intro inner f hf
    cases hc : readCondition inner with
    | error fault => simp [hc, Except.toOption] at hf
    | ok read =>
      rw [hc] at hf
      exact ⟨read.1, read.2, rfl, Option.some.inj hf⟩
  rw [token?] at h
  split at h
  · cases h
  · rename_i hs
    obtain rfl := Option.some.inj h
    exact hs
  · rename_i hs
    obtain ⟨c, source, hc, rfl⟩ := hr h
    exact ⟨_, hs, hc⟩
  · rename_i hs
    obtain ⟨c, source, hc, rfl⟩ := hr h
    exact ⟨_, hs, hc⟩
  · rename_i hs
    obtain rfl := Option.some.inj h
    exact hs
  · rename_i hs
    obtain rfl := Option.some.inj h
    exact hs

lemma reading_of_allRead {placed : List Placed} (h : AllRead placed) :
    reading? ((placed.map (·.line)).map (·.text)) = some (piecesOf placed) := by
  induction placed with
  | nil => rfl
  | cons item placed ih =>
    obtain ⟨hi, hp⟩ := List.forall_mem_cons.mp h
    rw [List.map_cons, List.map_cons, reading?, hi.token_eq, ih hp]
    rfl

lemma exists_allRead {lines : List Line} {pieces : List Token}
    (h : reading? (lines.map (·.text)) = some pieces) :
    ∃ placed, placed.map (·.line) = lines ∧ AllRead placed ∧ piecesOf placed = pieces := by
  induction lines generalizing pieces with
  | nil => exact ⟨[], rfl, List.forall_mem_nil _, Option.some.inj h⟩
  | cons line lines ih =>
    rw [List.map_cons, reading?] at h
    obtain ⟨token, ht, hb⟩ := Option.bind_eq_some_iff.mp h
    obtain ⟨rest, hr, rfl⟩ := Option.map_eq_some_iff.mp hb
    obtain ⟨placed, rfl, hp, rfl⟩ := ih hr
    exact ⟨⟨line, token⟩ :: placed, rfl, List.forall_mem_cons.mpr ⟨reads_of_token ht, hp⟩, rfl⟩

lemma piecesOf_eq_cons {placed : List Placed} {token : Token} {rest : List Token}
    (h : piecesOf placed = token :: rest) :
    (∃ line back, placed = ⟨line, token⟩ :: back ∧ piecesOf back = rest) ∨
    ∃ line condition source back, placed = ⟨line, .blockIf condition source⟩ :: back ∧
      token = .bareIf condition source ∧ rest = .opening :: piecesOf back := by
  cases placed with
  | nil => exact nomatch h
  | cons item back =>
    obtain ⟨line, first⟩ := item
    cases first with
    | blockIf condition source =>
      obtain ⟨rfl, rfl⟩ := List.cons.inj h
      exact Or.inr ⟨line, condition, source, back, rfl, rfl, rfl⟩
    | _ =>
      obtain ⟨rfl, rfl⟩ := List.cons.inj h
      exact Or.inl ⟨line, back, rfl, rfl⟩

def SpellsFirst (front : List Placed) (statement : Statement) : Prop :=
  ∀ back statements, Spells back statements → Spells (front ++ back) (statement :: statements)

lemma spellsFirst_block {line close : Line} {token : Token} {inner : List Placed}
    {wrap : List Statement → Statement} {body : List Statement} (hw : token.wrap? = some wrap)
    (hi : Spells inner body) :
    SpellsFirst (⟨line, token⟩ :: (inner ++ [⟨close, .closing⟩])) (wrap body) := by
  intro back statements hs
  simpa using Spells.block line close hw hi hs

lemma Spells.joinHeader {line : Line} {placed : List Placed} {statement : Statement}
    {statements : List Statement}
    (h : Spells (⟨line, .opening⟩ :: placed) (statement :: statements)) (condition : Condition)
    (source : String) : Spells (⟨line, .blockIf condition source⟩ :: placed)
      (.when condition source statement :: statements) := by
  cases h with
  | block line close hw hb hs =>
    obtain rfl := Option.some.inj hw
    have hj : (Token.blockIf condition source).wrap? =
      some fun body => .when condition source (.block body) := rfl
    exact .block line close hj hb hs

lemma SpellsFirst.joinHeader {line : Line} {front : List Placed} {statement : Statement}
    (h : SpellsFirst (⟨line, .opening⟩ :: front) statement) (condition : Condition)
    (source : String) :
    SpellsFirst (⟨line, .blockIf condition source⟩ :: front) (.when condition source statement) :=
  fun back statements hs => (h back statements hs).joinHeader condition source

lemma SpellsFirst.ne_nil {front : List Placed} {statement : Statement}
    (h : SpellsFirst front statement) : front ≠ [] := by
  rintro rfl
  exact nomatch h [] [] .nil

mutual

lemma spells_of_reading : (statement : Statement) → {placed : List Placed} → {rest : List Token} →
    piecesOf placed = statement.reading ++ rest →
    ∃ front back, placed = front ++ back ∧ piecesOf back = rest ∧ SpellsFirst front statement
  | .command c, placed, rest, h => by
    obtain ⟨line, back, rfl, hr⟩ | ⟨_, _, _, _, -, ht, -⟩ := piecesOf_eq_cons h
    · exact ⟨[⟨line, .command c⟩], back, rfl, hr, fun _ _ hs => .command line c hs⟩
    · exact nomatch ht
  | .block body, placed, rest, h => by
    have hc : piecesOf placed =
        .opening :: (Statement.readings body ++ (.closing :: rest)) := by
      simpa [Statement.reading] using h
    obtain ⟨line, inner, rfl, hi⟩ | ⟨_, _, _, _, -, ht, -⟩ := piecesOf_eq_cons hc
    · obtain ⟨front, close, back, rfl, hr, hs⟩ := spells_of_readings_closing body hi
      exact ⟨⟨line, .opening⟩ :: (front ++ [⟨close, .closing⟩]), back, by simp, hr,
        spellsFirst_block rfl hs⟩
    · exact nomatch ht
  | .when condition source body, placed, rest, h => by
    obtain ⟨line, below, rfl, hb⟩ | ⟨line, _, _, below, rfl, ht, hb⟩ := piecesOf_eq_cons h
    · obtain ⟨front, back, rfl, hr, hs⟩ := spells_of_reading body hb
      exact ⟨⟨line, .bareIf condition source⟩ :: front, back, rfl, hr,
        fun _ _ hn => .bareIf line condition source (hs _ _ hn)⟩
    · obtain ⟨rfl, rfl⟩ := Token.bareIf.inj ht
      have hp : piecesOf (⟨line, .opening⟩ :: below) = body.reading ++ rest := hb.symm
      obtain ⟨front, back, hf, hr, hs⟩ := spells_of_reading body hp
      obtain ⟨first, front, rfl⟩ := List.exists_cons_of_ne_nil hs.ne_nil
      obtain ⟨rfl, rfl⟩ := List.cons.inj hf
      exact ⟨⟨line, .blockIf condition source⟩ :: front, back, rfl, hr, hs.joinHeader _ _⟩

lemma spells_of_readings_closing : (body : List Statement) → {placed : List Placed} →
    {rest : List Token} → piecesOf placed = Statement.readings body ++ (.closing :: rest) →
    ∃ front close back, placed = front ++ ⟨close, .closing⟩ :: back ∧ piecesOf back = rest ∧
      Spells front body
  | [], placed, rest, h => by
    obtain ⟨line, back, rfl, hr⟩ | ⟨_, _, _, _, -, ht, -⟩ := piecesOf_eq_cons h
    · exact ⟨[], line, back, rfl, hr, .nil⟩
    · exact nomatch ht
  | statement :: body, placed, rest, h => by
    rw [Statement.readings, List.append_assoc] at h
    obtain ⟨front, inner, rfl, hi, hs⟩ := spells_of_reading statement h
    obtain ⟨middle, close, back, rfl, hr, hb⟩ := spells_of_readings_closing body hi
    exact ⟨front ++ middle, close, back, by simp, hr, hs _ _ hb⟩

end

lemma piecesOf_eq_nil {placed : List Placed} (h : piecesOf placed = []) : placed = [] := by
  cases placed with
  | nil => rfl
  | cons item back =>
    obtain ⟨line, token⟩ := item
    cases token <;> exact nomatch h

lemma spells_of_readings (body : List Statement) {placed : List Placed}
    (h : piecesOf placed = Statement.readings body) : Spells placed body := by
  induction body generalizing placed with
  | nil =>
    rw [piecesOf_eq_nil h]
    exact .nil
  | cons statement body ih =>
    obtain ⟨front, back, rfl, hb, hs⟩ := spells_of_reading statement h
    exact hs _ _ (ih hb)

lemma ofLines_noGuard_iff {lines : List Line} {program : Program} :
    Program.ofLines noGuard none lines = .ok program ↔
      reading? (lines.map (·.text)) = some program.reading := by
  constructor
  · intro h
    obtain ⟨placed, hp, ha⟩ := ofLines_ok_iff.mp h
    rw [← hp.map_line, reading_of_allRead hp.allRead, reading_assemble ha]
    rfl
  · intro h
    obtain ⟨placed, rfl, hr, hp⟩ := exists_allRead h
    exact (spells_of_readings program.body hp).ofLines_eq hr

lemma ofSource_ok_iff {source : String} {program : Program} :
    Program.ofSource none source = .ok program ↔
      program.IsGuarded ∧ reading? (texts source) = some program.reading := by
  rw [← lines_texts, ← ofLines_noGuard_iff]
  constructor
  · intro h
    have hn := ofLines_noGuard h
    exact ⟨(ofLines_sensorGuard_iff hn).mp h, hn⟩
  · rintro ⟨hg, hn⟩
    exact (ofLines_sensorGuard_iff hn).mpr hg

lemma shape_header {condition tail text : List Char} (h : IsHeaderOf condition tail text) :
    shape? text = (closeHeader? (condition ++ ')' :: tail)).map .header := by
  obtain ⟨gap, rfl⟩ := h
  have hc : command? ("se".toList ++ (gap.1 ++ '(' :: (condition ++ ')' :: tail))) = none := rfl
  rw [shape?, hc, header_append]
  cases closeHeader? (condition ++ ')' :: tail) <;> rfl

lemma token_bare {condition text : List Char} (h : IsHeaderOf condition [] text) :
    token? text = if condition = [] then none else
      (readCondition condition).toOption.map fun (c, source) => .bareIf c source := by
  rw [token?, shape_header h, closeHeader_end]
  by_cases hn : condition = [] <;> simp [hn]

lemma token_block {gap : Gap} {condition text : List Char}
    (h : IsHeaderOf condition (gap.1 ++ ['\x7b']) text) :
    token? text = if condition = [] then none else
      (readCondition condition).toOption.map fun (c, source) => .blockIf c source := by
  rw [token?, shape_header h, closeHeader_brace]
  by_cases hn : condition = [] <;> simp [hn]

lemma reading_header {gap : Gap} {condition line header : List Char}
    (hl : IsHeaderOf condition (gap.1 ++ ['\x7b']) line) (hh : IsHeaderOf condition [] header) :
    reading? [line] = reading? [header, ['\x7b']] := by
  have hb : token? ['\x7b'] = some .opening := rfl
  simp only [reading?, hb, token_block hl, token_bare hh]
  split
  · rfl
  · cases (readCondition condition).toOption <;> rfl

lemma IsHeaderOf.isEmpty {condition tail text : List Char}
    (h : IsHeaderOf condition tail text) : text.isEmpty = false := by
  obtain ⟨gap, rfl⟩ := h
  rfl

lemma reading_texts_congr {source other : String} {before middle middle' after : List (List Char)}
    (hs : rows source = before ++ (middle ++ after))
    (ho : rows other = before ++ (middle' ++ after))
    (h : reading? ((middle.map Text.trim).filter fun text => !text.isEmpty) =
      reading? ((middle'.map Text.trim).filter fun text => !text.isEmpty)) :
    reading? (texts source) = reading? (texts other) := by
  simp only [texts, hs, ho, List.map_append, List.filter_append, reading_append, h]

end Script

open Script

theorem Program.brace_below_header {source other : String} {before after : List (List Char)}
    {line header brace condition : List Char} {gap : Gap}
    (hs : rows source = before ++ line :: after)
    (ho : rows other = before ++ header :: brace :: after)
    (hl : IsHeaderOf condition (gap.1 ++ ['\x7b']) (Text.trim line))
    (hh : IsHeaderOf condition [] (Text.trim header)) (hb : Text.trim brace = ['\x7b'])
    (program : Program) :
    ofSource none source = .ok program ↔ ofSource none other = .ok program := by
  have hr : reading? (texts source) = reading? (texts other) := by
    have hs' : rows source = before ++ ([line] ++ after) := hs
    have ho' : rows other = before ++ ([header, brace] ++ after) := ho
    refine reading_texts_congr hs' ho' ?_
    simpa [hl.isEmpty, hh.isEmpty, hb] using reading_header hl hh
  rw [ofSource_ok_iff, ofSource_ok_iff, hr]

theorem Program.brace_below_header_fire :
    ofSource none "se(true) \x7b\n se(pegandoFogo()) \x7b\n apagarFogoECobrirBuraco()\n\x7d\n\x7d" =
      .ok ⟨[.when (.literal true) "true" (.block
        [.when (.sensor .fire) "pegandoFogo()" (.block [.command .putOutFire])])]⟩ := by
  have ho : ofSource none
      "se(true) \x7b\n\tse(pegandoFogo())\n \x7b\r\n apagarFogoECobrirBuraco()\n\x7d\n\x7d" =
    .ok ⟨[.when (.literal true) "true" (.block
      [.when (.sensor .fire) "pegandoFogo()" (.block [.command .putOutFire])])]⟩ := rfl
  let blank : Gap := ⟨[' '], List.forall_mem_singleton.mpr rfl⟩
  let nothing : Gap := ⟨[], List.forall_mem_nil _⟩
  have hl : IsHeaderOf "pegandoFogo()".toList (blank.1 ++ ['\x7b'])
    (Text.trim " se(pegandoFogo()) \x7b".toList) := ⟨nothing, rfl⟩
  have hh : IsHeaderOf "pegandoFogo()".toList [] (Text.trim "\tse(pegandoFogo())".toList) :=
    ⟨nothing, rfl⟩
  have hb : Text.trim " \x7b\r".toList = ['\x7b'] := rfl
  have hr : rows
      "se(true) \x7b\n se(pegandoFogo()) \x7b\n apagarFogoECobrirBuraco()\n\x7d\n\x7d" =
    ["se(true) \x7b".toList] ++ " se(pegandoFogo()) \x7b".toList ::
      [" apagarFogoECobrirBuraco()".toList, ['\x7d'], ['\x7d']] := rfl
  exact (brace_below_header hr rfl hl hh hb _).mpr ho

end RobotPuzzle
