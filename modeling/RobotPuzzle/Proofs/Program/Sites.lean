import Mathlib.Tactic
import RobotPuzzle.Program.Basic

namespace RobotPuzzle

structure Site where
  place : Nat
  statement : Statement

namespace Statement

def placed (place : Nat) : List Statement → List Site
  | [] => []
  | statement :: rest => ⟨place, statement⟩ :: placed (place + statement.size) rest

mutual

def sites (place : Nat) : Statement → List Site
  | .command c => [⟨place, .command c⟩]
  | .when condition source body => ⟨place, .when condition source body⟩ :: body.sites (place + 1)
  | .block body => ⟨place, .block body⟩ :: sitesOf (place + 1) body

def sitesOf (place : Nat) : List Statement → List Site
  | [] => []
  | statement :: rest => statement.sites place ++ sitesOf (place + statement.size) rest

end

def isCommand : Statement → Bool
  | .command _ => true
  | _ => false

end Statement

namespace Site

def inner (site : Site) : List Site :=
  match site.statement with
  | .command _ => []
  | .when _ _ body => [⟨site.place + 1, body⟩]
  | .block body => Statement.placed (site.place + 1) body

def tree (site : Site) : List Site := site.statement.sites site.place

def isCommand (site : Site) : Bool := site.statement.isCommand

end Site

namespace Program

def queue (program : Program) : List Site := Statement.placed 0 program.body

def sites (program : Program) : List Site := Statement.sitesOf 0 program.body

def commandSites (program : Program) : List Site := program.sites.filter Site.isCommand

end Program

lemma Statement.placed_statements (place : Nat) (body : List Statement) :
    (placed place body).map (·.statement) = body := by
  induction body generalizing place with
  | nil => rfl
  | cons statement body ih => rw [placed, List.map_cons, ih]

lemma Statement.sitesOf_eq (place : Nat) (body : List Statement) :
    sitesOf place body = (placed place body).flatMap Site.tree := by
  induction body generalizing place with
  | nil => rfl
  | cons statement body ih => rw [sitesOf, placed, List.flatMap_cons, ih, Site.tree]

lemma Site.tree_eq (site : Site) : site.tree = site :: site.inner.flatMap Site.tree := by
  obtain ⟨place, statement⟩ := site
  cases statement with
  | command c => rfl
  | when condition source body => simp [tree, inner, Statement.sites]
  | block body => simp [tree, inner, Statement.sites, Statement.sitesOf_eq]

namespace Statement

mutual

lemma sites_places (place : Nat) : (statement : Statement) →
    (statement.sites place).map (·.place) = List.range' place statement.size
  | .command c => rfl
  | .when condition source body => by
    rw [sites, List.map_cons, sites_places (place + 1) body, size, List.range'_succ]
  | .block body => by
    rw [sites, List.map_cons, sitesOf_places (place + 1) body, size, List.range'_succ]

lemma sitesOf_places (place : Nat) : (body : List Statement) →
    (sitesOf place body).map (·.place) = List.range' place (sizes body)
  | [] => rfl
  | statement :: rest => by
    rw [sitesOf, List.map_append, sites_places place statement,
      sitesOf_places (place + statement.size) rest, sizes, ← List.range'_append_1]

end

mutual

lemma sites_commands (place : Nat) : (statement : Statement) →
    (statement.sites place).countP Site.isCommand = statement.commandCount
  | .command c => rfl
  | .when condition source body => by
    rw [sites, List.countP_cons_of_neg (by simp [Site.isCommand, isCommand]), commandCount]
    exact sites_commands (place + 1) body
  | .block body => by
    rw [sites, List.countP_cons_of_neg (by simp [Site.isCommand, isCommand]), commandCount]
    exact sitesOf_commands (place + 1) body

lemma sitesOf_commands (place : Nat) : (body : List Statement) →
    (sitesOf place body).countP Site.isCommand = commandCounts body
  | [] => rfl
  | statement :: rest => by
    rw [sitesOf, List.countP_append, sites_commands place statement,
      sitesOf_commands (place + statement.size) rest, commandCounts]

end

end Statement

namespace Program

lemma sites_eq (program : Program) : program.sites = program.queue.flatMap Site.tree :=
  Statement.sitesOf_eq 0 program.body

lemma places (program : Program) :
    program.sites.map (·.place) = List.range (Statement.sizes program.body) := by
  rw [List.range_eq_range']
  exact Statement.sitesOf_places 0 program.body

lemma nodup_sites (program : Program) : program.sites.Nodup := by
  apply List.Nodup.of_map (·.place)
  rw [places]
  exact List.nodup_range

lemma length_sites (program : Program) :
    program.sites.length = Statement.sizes program.body := by
  rw [← List.length_map (·.place), places, List.length_range]

lemma length_commandSites (program : Program) :
    program.commandSites.length = program.commandCount := by
  rw [commandSites, ← List.countP_eq_length_filter]
  exact Statement.sitesOf_commands 0 program.body

end Program

end RobotPuzzle
