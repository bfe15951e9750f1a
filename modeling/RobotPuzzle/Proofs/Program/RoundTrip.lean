import RobotPuzzle.Proofs.Script.Listed
import RobotPuzzle.Proofs.Script.Spelling

namespace RobotPuzzle

open Script

mutual

def Statement.canonical : Statement → Statement
  | .command c => .command c
  | .when condition _ body => .when condition condition.listing body.canonical
  | .block body => .block (Statement.canonicals body)

def Statement.canonicals : List Statement → List Statement
  | [] => []
  | statement :: rest => statement.canonical :: Statement.canonicals rest

end

def Program.canonical (program : Program) : Program := ⟨Statement.canonicals program.body⟩

mutual

def Statement.tokens : Statement → List Token
  | .command c => [.command c]
  | .when condition _ body => .bareIf condition condition.listing :: body.tokens
  | .block body => .opening :: (Statement.tokensOf body ++ [.closing])

def Statement.tokensOf : List Statement → List Token
  | [] => []
  | statement :: rest => statement.tokens ++ Statement.tokensOf rest

end

def Program.IsCounted (program : Program) : Prop :=
  ∀ item ∈ program.governed, item.1.IsCounted

namespace Statement

mutual

lemma governed_canonical (governor : Option Condition) :
    (statement : Statement) → statement.canonical.governed governor = statement.governed governor
  | .command _ => rfl
  | .when condition _ body => governed_canonical (some condition) body
  | .block body => governedAll_canonicals governor body

lemma governedAll_canonicals (governor : Option Condition) : (body : List Statement) →
    governedAll governor (canonicals body) = governedAll governor body
  | [] => rfl
  | statement :: rest => by
    rw [canonicals, governedAll, governedAll, governed_canonical governor statement,
      governedAll_canonicals governor rest]

end

mutual

lemma length_governed (governor : Option Condition) :
    (statement : Statement) → (statement.governed governor).length = statement.commandCount
  | .command _ => rfl
  | .when condition _ body => length_governed (some condition) body
  | .block body => length_governedAll governor body

lemma length_governedAll (governor : Option Condition) :
    (body : List Statement) → (governedAll governor body).length = commandCounts body
  | [] => rfl
  | statement :: rest => by
    rw [governedAll, List.length_append, length_governed governor statement,
      length_governedAll governor rest, commandCounts]

end

lemma isBlock_canonical (statement : Statement) :
    statement.canonical.isBlock = statement.isBlock := by
  cases statement <;> rfl

mutual

lemma listingLines_canonical (depth : Nat) : (statement : Statement) →
    statement.canonical.listingLines depth = statement.listingLines depth
  | .command _ => rfl
  | .when _ _ body => by
    rw [canonical, listingLines, listingLines, isBlock_canonical, listingLines_canonical _ body]
  | .block body => by
    rw [canonical, listingLines, listingLines, listingLinesOf_canonicals _ body]

lemma listingLinesOf_canonicals (depth : Nat) : (body : List Statement) →
    listingLinesOf depth (canonicals body) = listingLinesOf depth body
  | [] => rfl
  | statement :: rest => by
    rw [canonicals, listingLinesOf, listingLinesOf, listingLines_canonical depth statement,
      listingLinesOf_canonicals depth rest]

end

mutual

lemma commands_tokens (governor : Option Condition) : (statement : Statement) →
    statement.tokens.filterMap Token.command? = (statement.governed governor).map (·.1)
  | .command _ => rfl
  | .when condition _ body => commands_tokens (some condition) body
  | .block body => by
    have hb := commands_tokensOf governor body
    rw [tokens, governed, ← hb, List.filterMap_cons_none rfl, List.filterMap_append]
    exact List.append_nil _

lemma commands_tokensOf (governor : Option Condition) : (body : List Statement) →
    (tokensOf body).filterMap Token.command? = (governedAll governor body).map (·.1)
  | [] => rfl
  | statement :: rest => by
    rw [tokensOf, governedAll, List.filterMap_append, List.map_append,
      commands_tokens governor statement, commands_tokensOf governor rest]

end

def ListsLine (line : String) (token : Token) : Prop :=
  ∃ depth text, line = indent depth text ∧ Lists text token

mutual

lemma listingLines_lists (depth : Nat) : (statement : Statement) →
    List.Forall₂ ListsLine (statement.listingLines depth) statement.tokens
  | .command c => .cons ⟨depth, _, rfl, .command c⟩ .nil
  | .when condition _ body =>
    .cons ⟨depth, _, rfl, .bareIf condition⟩ (listingLines_lists _ body)
  | .block body => by
    have hc : List.Forall₂ ListsLine [indent depth "\x7d"] [.closing] :=
      .cons ⟨depth, _, rfl, .closing⟩ .nil
    exact .cons ⟨depth, _, rfl, .opening⟩ (List.rel_append (listingLinesOf_lists _ body) hc)

lemma listingLinesOf_lists (depth : Nat) : (body : List Statement) →
    List.Forall₂ ListsLine (listingLinesOf depth body) (tokensOf body)
  | [] => .nil
  | statement :: rest =>
    List.rel_append (listingLines_lists depth statement) (listingLinesOf_lists depth rest)

end

mutual

lemma spells_tokens : (statement : Statement) → {placed rest : List Placed} →
    {statements : List Statement} → placed.map (·.token) = statement.tokens →
    Spells rest statements → Spells (placed ++ rest) (statement.canonical :: statements)
  | .command c, placed, rest, statements, hp, hr => by
    obtain ⟨⟨line, token⟩, tail, rfl, rfl, ht⟩ := List.map_eq_cons_iff.mp hp
    obtain rfl := List.map_eq_nil_iff.mp ht
    exact .command line c hr
  | .when condition _ body, placed, rest, statements, hp, hr => by
    obtain ⟨⟨line, token⟩, tail, rfl, rfl, ht⟩ := List.map_eq_cons_iff.mp hp
    exact .bareIf line condition _ (spells_tokens body ht hr)
  | .block body, placed, rest, statements, hp, hr => by
    obtain ⟨⟨line, token⟩, tail, rfl, rfl, ht⟩ := List.map_eq_cons_iff.mp hp
    obtain ⟨inner, last, rfl, hi, hl⟩ := List.map_eq_append_iff.mp ht
    obtain ⟨⟨close, token⟩, tail, rfl, rfl, he⟩ := List.map_eq_cons_iff.mp hl
    obtain rfl := List.map_eq_nil_iff.mp he
    have hb := spells_tokensOf body hi
    simpa [canonical] using Spells.block line close rfl hb hr

lemma spells_tokensOf : (body : List Statement) → {placed : List Placed} →
    placed.map (·.token) = tokensOf body → Spells placed (canonicals body)
  | [], placed, hp => by
    obtain rfl := List.map_eq_nil_iff.mp hp
    exact .nil
  | statement :: rest, placed, hp => by
    obtain ⟨first, last, rfl, hf, hl⟩ := List.map_eq_append_iff.mp hp
    exact spells_tokens statement hf (spells_tokensOf rest hl)

end

end Statement

lemma Statement.texts_of_lists {ls : List String} {tokens : List Token}
    (h : List.Forall₂ ListsLine ls tokens) :
    ∃ texts, List.Forall₂ IsIndented ls texts ∧
      List.Forall₂ (fun text token => Lists (String.ofList text) token) texts tokens := by
  induction h with
  | nil => exact ⟨[], .nil, .nil⟩
  | cons hl _ ih =>
    obtain ⟨depth, text, rfl, ht⟩ := hl
    obtain ⟨texts, hi, hs⟩ := ih
    refine ⟨text.toList :: texts, .cons (isIndented_indent depth ht.isSolid) hi, .cons ?_ hs⟩
    rwa [String.ofList_toList]

lemma exists_placed {ls : List Line} {texts : List (List Char)} {tokens : List Token}
    (hl : ls.map (·.text) = texts)
    (h : List.Forall₂ (fun text token => Lists (String.ofList text) token) texts tokens) :
    ∃ placed : List Placed, placed.map (·.line) = ls ∧ placed.map (·.token) = tokens ∧
      ∀ item ∈ placed, Lists (String.ofList item.line.text) item.token := by
  induction h generalizing ls with
  | nil =>
    obtain rfl := List.map_eq_nil_iff.mp hl
    exact ⟨[], rfl, rfl, by simp⟩
  | @cons text token texts tokens ht _ ih =>
    obtain ⟨line, rest, rfl, rfl, hr⟩ := List.map_eq_cons_iff.mp hl
    obtain ⟨placed, rfl, rfl, hp⟩ := ih hr
    exact ⟨⟨line, token⟩ :: placed, rfl, rfl, List.forall_mem_cons.mpr ⟨ht, hp⟩⟩

namespace Program

variable {program : Program}

lemma exists_listed (program : Program) :
    ∃ placed : List Placed, placed.map (·.line) = lines program.listing ∧
      placed.map (·.token) = Statement.tokensOf program.body ∧
      ∀ item ∈ placed, Lists (String.ofList item.line.text) item.token := by
  obtain ⟨texts, hi, ht⟩ := Statement.texts_of_lists (Statement.listingLinesOf_lists 0 program.body)
  exact exists_placed (lines_unlines hi) ht

lemma mem_tokensOf {c : Command} :
    Token.command c ∈ Statement.tokensOf program.body ↔ ∃ item ∈ program.governed, item.1 = c := by
  rw [← List.mem_map, governed, ← Statement.commands_tokensOf, List.mem_filterMap]
  constructor
  · exact fun h => ⟨_, h, rfl⟩
  · rintro ⟨token, ht, hc⟩
    obtain rfl := Token.command_eq_some.mp hc
    exact ht

lemma ofLines_listing (h : program.IsCounted) :
    ofLines noGuard none (lines program.listing) = .ok program.canonical := by
  obtain ⟨placed, hl, ht, hp⟩ := exists_listed program
  have hr : AllRead placed := by
    intro item hi
    have hc : ∀ c ∈ item.token.command?, c.IsCounted := by
      intro c hc
      have hm : item.token ∈ Statement.tokensOf program.body := ht ▸ List.mem_map_of_mem hi
      rw [Token.command_eq_some.mp hc] at hm
      obtain ⟨found, hf, rfl⟩ := mem_tokensOf.mp hm
      exact h found hf
    simpa using (hp item hi).reads hc
  rw [← hl]
  exact (Statement.spells_tokensOf program.body ht).ofLines_eq hr

lemma isCounted_of_ofLines {guard : Guard} {limit : Option Nat} {result : Program}
    (h : ofLines guard limit (lines program.listing) = .ok result) : program.IsCounted := by
  intro item hi
  by_contra hu
  -- The line of a move by nothing has no shape, and so it stops every reading.
  obtain ⟨placed, hl, ht, hp⟩ := exists_listed program
  obtain ⟨checked, hc, -⟩ := ofLines_ok_iff.mp h
  have hm : Token.command item.1 ∈ placed.map (·.token) := ht ▸ mem_tokensOf.mpr ⟨item, hi, rfl⟩
  obtain ⟨⟨line, token⟩, hk, rfl⟩ := List.mem_map.mp hm
  have hs : shape? line.text = none := by
    have hq := hp _ hk
    generalize hx : String.ofList line.text = text at hq
    cases hq
    rw [← String.toList_ofList (l := line.text), hx]
    exact shape_uncounted hu
  have hline : line ∈ lines program.listing := hl ▸ List.mem_map_of_mem hk
  obtain ⟨token, hr⟩ := hc.reads hline
  exact hr.shape_ne_none hs

lemma governed_canonical (program : Program) : program.canonical.governed = program.governed :=
  Statement.governedAll_canonicals none program.body

lemma isGuarded_canonical : program.canonical.IsGuarded ↔ program.IsGuarded := by
  rw [IsGuarded, governed_canonical, IsGuarded]

lemma commandCount_canonical (program : Program) :
    program.canonical.commandCount = program.commandCount := by
  rw [commandCount, commandCount, ← Statement.length_governedAll none,
    ← Statement.length_governedAll none]
  exact congrArg List.length (governed_canonical program)

lemma listing_canonical (program : Program) : program.canonical.listing = program.listing :=
  congrArg Text.unlines (Statement.listingLinesOf_canonicals 0 program.body)

theorem listing_round_trip (program : Program) :
    ((∃ result, ofSource none program.listing = .ok result) ↔
      program.IsCounted ∧ program.IsGuarded) ∧
    ∀ result, ofSource none program.listing = .ok result →
      result = program.canonical ∧ result.commandCount = program.commandCount ∧
        result.listing = program.listing := by
  have hread : ∀ result, ofSource none program.listing = .ok result →
      result = program.canonical ∧ program.IsCounted ∧ program.IsGuarded := by
    intro result hr
    have hc := isCounted_of_ofLines hr
    have hl := ofLines_listing hc
    obtain rfl : result = program.canonical := Except.ok.inj ((ofLines_noGuard hr).symm.trans hl)
    exact ⟨rfl, hc, isGuarded_canonical.mp ((ofLines_sensorGuard_iff hl).mp hr)⟩
  refine ⟨⟨?_, ?_⟩, ?_⟩
  · rintro ⟨result, hr⟩
    exact (hread result hr).2
  · rintro ⟨hc, hg⟩
    have hs := ofLines_sensorGuard_iff (ofLines_listing hc)
    exact ⟨program.canonical, hs.mpr (isGuarded_canonical.mpr hg)⟩
  · intro result hr
    obtain rfl := (hread result hr).1
    exact ⟨rfl, commandCount_canonical program, listing_canonical program⟩

theorem listing_round_trip_fire :
    (∃ result, ofSource none (listing ⟨[.command (.forward 12),
        .when (.sensor .fire) " pegandoFogo( )" (.block [.command .putOutFire])]⟩) = .ok result ∧
      result = ⟨[.command (.forward 12),
        .when (.sensor .fire) "pegandoFogo()" (.block [.command .putOutFire])]⟩) ∧
    (∀ result, ofSource none (listing
        ⟨[.when (.sensor .hole) "" (.command .putOutFire)]⟩) ≠ .ok result) ∧
    ∀ result, ofSource none (listing
        ⟨[.when (.sensor .fire) "" (.command .coverHole)]⟩) ≠ .ok result := by
  have hc : IsCounted ⟨[.command (.forward 12),
      .when (.sensor .fire) " pegandoFogo( )" (.block [.command .putOutFire])]⟩ := by
    simp [IsCounted, governed, Statement.governedAll, Statement.governed, Command.IsCounted]
  have hg : IsGuarded ⟨[.command (.forward 12),
      .when (.sensor .fire) " pegandoFogo( )" (.block [.command .putOutFire])]⟩ := by
    simp [IsGuarded, governed, Statement.governedAll, Statement.governed, Command.IsMetBy,
      Command.requiredSensor]
  refine ⟨?_, fun result hr => ?_, fun result hr => ?_⟩
  · obtain ⟨result, hr⟩ := (listing_round_trip _).1.mpr ⟨hc, hg⟩
    exact ⟨result, hr, ((listing_round_trip _).2 result hr).1⟩
  · obtain ⟨-, hn⟩ := (listing_round_trip _).1.mp ⟨result, hr⟩
    exact absurd (hn (.putOutFire, some (.sensor .hole)) List.mem_cons_self .fire rfl) (by decide)
  · obtain ⟨-, hn⟩ := (listing_round_trip _).1.mp ⟨result, hr⟩
    exact absurd (hn (.coverHole, some (.sensor .fire)) List.mem_cons_self .hole rfl) (by decide)

end Program

end RobotPuzzle
