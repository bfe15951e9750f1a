import RobotPuzzle.Puzzle.Basic

namespace RobotPuzzle.Puzzle

def level1Phase5 : Puzzle where
  id := "level1/phase5"
  title := "Nível 1 - Fase 5"
  start := ⟨0, 2⟩
  obstacles := [⟨5, 7, 7, 7⟩, ⟨5, 5, 2, 3⟩]
  crystals := [⟨6, 2⟩, ⟨7, 8⟩]

def level1Phase6 : Puzzle where
  id := "level1/phase6"
  title := "Nível 1 - Fase 6"
  start := ⟨0, 5⟩
  obstacles := [⟨2, 8, 2, 2⟩, ⟨2, 9, 4, 4⟩, ⟨7, 7, 0, 1⟩]
  crystals := [⟨8, 0⟩]
  winRule := .collectedAndStanding

def level2Phase1 : Puzzle where
  id := "level2/phase1"
  title := "Nível 2 - Fase 1"
  start := ⟨0, 5⟩
  obstacles := [⟨1, 9, 4, 4⟩, ⟨1, 9, 6, 6⟩]
  fires := [⟨7, 5⟩]
  crystals := [⟨9, 5⟩]
  limit := some 10
  extinguishers := some 1
  winRule := .collectedAndStanding

def level2Phase2 : Puzzle where
  id := "level2/phase2"
  title := "Nível 2 - Fase 2"
  start := ⟨0, 5⟩
  obstacles := [⟨2, 8, 2, 2⟩, ⟨2, 8, 4, 4⟩, ⟨2, 8, 6, 6⟩, ⟨2, 8, 8, 8⟩]
  traps := [⟨9, 2⟩, ⟨8, 5⟩, ⟨9, 8⟩]
  fires := [⟨3, 3⟩, ⟨6, 3⟩, ⟨3, 7⟩, ⟨6, 7⟩, ⟨9, 6⟩]
  crystals := [⟨9, 5⟩]
  extinguishers := some 1
  flicker := some ⟨[0, 3], [1, 4]⟩
  winRule := .collectedAndStanding

def level2Phase5 : Puzzle where
  id := "level2/phase5"
  title := "Nível 2 - Fase 5"
  start := ⟨0, 5⟩
  obstacles :=
    [⟨3, 7, 8, 8⟩, ⟨7, 7, 6, 6⟩, ⟨3, 4, 4, 6⟩, ⟨6, 6, 4, 6⟩, ⟨3, 8, 2, 2⟩, ⟨7, 7, 4, 4⟩]
  traps := [⟨5, 5⟩]
  fires := [⟨3, 7⟩, ⟨7, 7⟩, ⟨7, 3⟩, ⟨3, 3⟩, ⟨9, 2⟩]
  crystals := [⟨5, 7⟩, ⟨5, 3⟩]
  extinguishers := some 1
  flicker := some ⟨[1], [2]⟩

def level2Phase7 : Puzzle where
  id := "level2/phase7"
  title := "Nível 2 - Fase 7"
  start := ⟨0, 5⟩
  obstacles :=
    [⟨2, 8, 8, 8⟩, ⟨2, 2, 7, 7⟩, ⟨2, 2, 3, 3⟩, ⟨5, 5, 4, 6⟩, ⟨2, 3, 6, 6⟩, ⟨8, 8, 1, 7⟩,
      ⟨5, 5, 2, 2⟩, ⟨2, 3, 4, 4⟩, ⟨8, 8, 7, 7⟩, ⟨7, 8, 5, 5⟩, ⟨8, 8, 2, 3⟩]
  traps := [⟨2, 5⟩, ⟨5, 3⟩]
  fires := [⟨2, 9⟩, ⟨2, 0⟩, ⟨6, 5⟩, ⟨8, 6⟩, ⟨8, 4⟩, ⟨4, 5⟩]
  crystals := [⟨3, 5⟩, ⟨7, 3⟩]
  extinguishers := some 1
  flicker := some ⟨[2, 3, 4], [0, 1, 5]⟩

def level2Phase8 : Puzzle where
  id := "level2/phase8"
  title := "Nível 2 - Fase 8"
  start := ⟨0, 5⟩
  obstacles :=
    [⟨2, 2, 6, 7⟩, ⟨2, 2, 3, 4⟩, ⟨2, 2, 0, 1⟩, ⟨4, 4, 1, 2⟩, ⟨6, 7, 2, 2⟩, ⟨8, 8, 1, 3⟩,
      ⟨4, 4, 6, 6⟩, ⟨6, 6, 6, 6⟩, ⟨4, 4, 4, 4⟩, ⟨6, 6, 4, 4⟩]
  traps := [⟨4, 7⟩, ⟨6, 7⟩, ⟨2, 5⟩, ⟨4, 5⟩, ⟨6, 5⟩, ⟨8, 5⟩, ⟨6, 0⟩]
  fires := [⟨3, 7⟩, ⟨5, 7⟩, ⟨7, 7⟩, ⟨3, 3⟩, ⟨5, 3⟩, ⟨7, 3⟩, ⟨9, 5⟩]
  crystals := [⟨3, 5⟩, ⟨5, 5⟩, ⟨7, 5⟩]
  extinguishers := some 1
  flicker := some ⟨[3, 5], [4, 6]⟩

def catalog : List Puzzle :=
  [level1Phase5, level1Phase6, level2Phase1, level2Phase2, level2Phase5, level2Phase7, level2Phase8]

def find? (id : String) : Option Puzzle := catalog.find? fun puzzle => puzzle.id == id

end RobotPuzzle.Puzzle
