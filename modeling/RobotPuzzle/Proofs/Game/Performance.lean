import RobotPuzzle.Game.Performance
import RobotPuzzle.Proofs.Game.Calls
import RobotPuzzle.Proofs.Run.Rest
import RobotPuzzle.Puzzle.Catalog

namespace RobotPuzzle

namespace Frame

variable {α : Type}

def shown (frames : List (Frame α)) (before : Nat) : List (Nat × List (Event α)) :=
  ((frames.zipIdx before).map fun (frame, before) => (before, frame.events)).filter
    fun (_, events) => !events.isEmpty

variable (frame : Frame α) (frames : List (Frame α)) (before : Nat)

lemma shown_cons : shown (frame :: frames) before =
    if frame.events.isEmpty then shown frames (before + 1)
    else (before, frame.events) :: shown frames (before + 1) := by
  cases h : frame.events.isEmpty <;> simp [shown, List.zipIdx_cons, h]

lemma reverse_append_shown (renders : List (Nat × List (Event α))) :
    (if frame.events.isEmpty then renders else (before, frame.events) :: renders).reverse ++
      shown frames (before + 1) = renders.reverse ++ shown (frame :: frames) before := by
  rw [shown_cons]
  cases frame.events.isEmpty with
  | true => rfl
  | false => simp

lemma flatMap_shown : (shown frames before).flatMap (·.2) = frames.flatMap (·.events) := by
  induction frames generalizing before with
  | nil => rfl
  | cons frame frames ih =>
    rw [shown_cons, List.flatMap_cons, ← ih (before + 1)]
    cases h : frame.events with
    | nil => rfl
    | cons event events => rfl

end Frame

variable {α : Type} [Scalar α]

lemma Trial.not_cancelled_of_running (trial : Trial α) (h : trial.tick.1.step = .running) :
    trial.cancelled = false ∧ trial.tick.2.cancelled = false := by
  have hs : (trial.run.tick trial.cancelled trial.scene).step = .running := h
  have hc := Run.not_cancelled_of_running hs
  refine ⟨hc, ?_⟩
  simp only [tick]
  rw [hs, hc]
  rfl

namespace Game

/-- The play is carried on by hand, one frame after the other up to the first that is done. -/
inductive Plays : Game α → Play α → List (Frame α) → Ending → Game α → Play α → Prop
  | done {game play ending} : (game.tick play).1.step = .done ending →
      Plays game play [(game.tick play).1] ending (game.tick play).2.1 (game.tick play).2.2
  | running {game play frames ending final last} : (game.tick play).1.step = .running →
      Plays (game.tick play).2.1 (game.tick play).2.2 frames ending final last →
      Plays game play ((game.tick play).1 :: frames) ending final last

variable {game : Game α} {play : Play α}

lemma tick_eq {frame : Frame α} (hc : game.signals.isRaised play.signal = false)
    (hf : play.run.tick false game.scene = frame) : game.tick play =
      (frame, game.adopt play ⟨frame.run, frame.scene, frame.step == .done .trapped⟩) := by
  simp only [tick, Trial.tick, trial, hc, hf, Bool.false_or]

lemma tick_of_running (h : (game.tick play).1.step = .running) :
    game.tick play = ((game.trial play).tick.1,
      { game with scene := (game.trial play).tick.2.scene },
      { play with run := (game.trial play).tick.2.run }) := by
  obtain ⟨-, ht⟩ := (game.trial play).not_cancelled_of_running h
  simp only [tick, adopt, ht, Bool.false_eq_true, if_false]

lemma trial_tick (h : (game.tick play).1.step = .running) :
    (game.tick play).2.1.trial (game.tick play).2.2 = (game.trial play).tick.2 := by
  obtain ⟨hc, ht⟩ := (game.trial play).not_cancelled_of_running h
  rw [tick_of_running h, trial]
  exact congrArg (Trial.mk _ _) (hc.trans ht.symm)

lemma adopt_tick (h : (game.tick play).1.step = .running) (trial : Trial α) :
    (game.tick play).2.1.adopt (game.tick play).2.2 trial = game.adopt play trial := by
  rw [tick_of_running h]
  rfl

lemma Plays.showFrom {frames : List (Frame α)} {ending : Ending} {final : Game α} {last : Play α}
    (h : game.Plays play frames ending final last) {patience : Nat}
    (hp : frames.length ≤ patience) (before : Nat) (renders : List (Nat × List (Event α))) :
    ∃ trial, game.adopt play trial = (final, last) ∧
      (game.trial play).showFrom before renders patience =
        ⟨trial, some ending, before + frames.countP (·.step = .running),
          renders.reverse ++ Frame.shown frames before⟩ := by
  induction h generalizing patience before renders with
  | @done game play ending hs =>
    obtain ⟨patience, rfl⟩ := Nat.exists_eq_add_one_of_ne_zero (Nat.ne_zero_of_lt hp)
    refine ⟨(game.trial play).tick.2, rfl, ?_⟩
    have hd : (game.trial play).tick.1.step = .done ending := hs
    have hn : [(game.tick play).1].countP (·.step = .running) = 0 := by simp [hs]
    rw [Trial.showFrom, hn, ← Frame.reverse_append_shown]
    simp only [hd]
    exact congrArg (Showing.mk _ _ _) (List.append_nil _).symm
  | @running game play frames ending final last hs hr ih =>
    obtain ⟨patience, rfl⟩ := Nat.exists_eq_add_one_of_ne_zero (Nat.ne_zero_of_lt hp)
    obtain ⟨trial, ha, he⟩ := ih (Nat.le_of_succ_le_succ hp) (before + 1)
      (if (game.tick play).1.events.isEmpty then renders
        else (before, (game.tick play).1.events) :: renders)
    rw [trial_tick hs, Frame.reverse_append_shown, Nat.add_assoc, Nat.add_comm 1] at he
    refine ⟨trial, (adopt_tick hs trial).symm.trans ha, ?_⟩
    have hd : (game.trial play).tick.1.step = .running := hs
    have hn : ((game.tick play).1 :: frames).countP (·.step = .running) =
        frames.countP (·.step = .running) + 1 := by simp [hs]
    rw [Trial.showFrom, hn]
    simp only [hd]
    exact he

lemma showFrom_of_not_plays {patience : Nat}
    (h : ∀ frames ending final last, game.Plays play frames ending final last →
      patience < frames.length) (before : Nat) (renders : List (Nat × List (Event α))) :
    ((game.trial play).showFrom before renders patience).ending = none ∧
      ((game.trial play).showFrom before renders patience).frames = before + patience := by
  induction patience generalizing game play before renders with
  | zero => exact ⟨rfl, rfl⟩
  | succ patience ih =>
    cases hs : (game.tick play).1.step with
    | done ending =>
      have hl := h _ _ _ _ (.done hs)
      rw [List.length_singleton] at hl
      omega
    | running =>
      have hd : (game.trial play).tick.1.step = .running := hs
      rw [Trial.showFrom]
      simp only [hd]
      rw [← trial_tick hs, Nat.add_comm patience, ← Nat.add_assoc]
      exact ih (fun frames ending final last hp =>
        Nat.lt_of_succ_lt_succ (h _ _ _ _ (.running hs hp))) _ _

lemma Plays.unique {final final' : Game α} {last last' : Play α} {frames frames' : List (Frame α)}
    {ending ending' : Ending} (h : game.Plays play frames ending final last)
    (h' : game.Plays play frames' ending' final' last') :
    frames = frames' ∧ ending = ending' ∧ final = final' ∧ last = last' := by
  induction h generalizing frames' ending' final' last' with
  | done hs =>
    cases h' with
    | done hs' =>
      obtain rfl := Step.done.inj (hs.symm.trans hs')
      exact ⟨rfl, rfl, rfl, rfl⟩
    | running hs' => exact absurd (hs.symm.trans hs') Step.noConfusion
  | running hs _ ih =>
    cases h' with
    | done hs' => exact absurd (hs.symm.trans hs') Step.noConfusion
    | running _ hr' =>
      obtain ⟨rfl, rfl, rfl, rfl⟩ := ih hr'
      exact ⟨rfl, rfl, rfl, rfl⟩

section

variable {begun final : Game α} {last : Play α} {code : String} {opening closing : List (Event α)}
  {frames : List (Frame α)} {ending : Ending} {report : Report} {patience : Nat}

lemma perform_of_plays {closed : Game α} (hs : game.start code = (begun, opening, .ok play))
    (hplays : begun.Plays play frames ending final last)
    (hf : final.finish last.signal ending = (report, closed, closing))
    (hl : frames.length ≤ patience) :
    game.perform code patience =
      ⟨closed, .ok (some report), frames.countP (·.step = .running),
        (0, opening) :: Frame.shown frames 0 ++
          [(frames.countP (·.step = .running), closing)]⟩ := by
  obtain ⟨trial, ha, he⟩ := hplays.showFrom hl 0 []
  rw [perform, hs]
  simp only [Trial.showAll, he, ha, hf, Nat.zero_add]
  rfl

def PlaysOut (game : Game α) (code : String) (frames : List (Frame α)) (report : Report)
    (events : List (Event α)) : Prop :=
  ∃ begun opening play ending final last closed closing,
    game.start code = (begun, opening, .ok play) ∧
    begun.Plays play frames ending final last ∧
    final.finish last.signal ending = (report, closed, closing) ∧
    events = opening ++ frames.flatMap (·.events) ++ closing

lemma PlaysOut.unique {frames' : List (Frame α)} {report' : Report}
    {events events' : List (Event α)}
    (h : game.PlaysOut code frames report events)
    (h' : game.PlaysOut code frames' report' events') :
    frames = frames' ∧ report = report' ∧ events = events' := by
  obtain ⟨begun, opening, play, ending, final, last, closed, closing, hs, hp, hf, rfl⟩ := h
  obtain ⟨_, _, _, _, _, _, _, _, hs', hp', hf', rfl⟩ := h'
  obtain ⟨rfl, hrest⟩ := Prod.mk.inj (hs.symm.trans hs')
  obtain ⟨rfl, hok⟩ := Prod.mk.inj hrest
  obtain rfl := Except.ok.inj hok
  obtain ⟨rfl, rfl, rfl, rfl⟩ := hp.unique hp'
  obtain ⟨rfl, hc⟩ := Prod.mk.inj (hf.symm.trans hf')
  obtain ⟨-, rfl⟩ := Prod.mk.inj hc
  exact ⟨rfl, rfl, rfl⟩

lemma PlaysOut.perform {events : List (Event α)} (h : game.PlaysOut code frames report events)
    (hl : frames.length ≤ patience) :
    (game.perform code patience).outcome = .ok (some report) ∧
      (game.perform code patience).frames = frames.countP (·.step = .running) ∧
      (game.perform code patience).events = events := by
  obtain ⟨begun, opening, play, ending, final, last, closed, closing, hs, hplays, hf, rfl⟩ := h
  rw [perform_of_plays hs hplays hf hl]
  refine ⟨rfl, rfl, ?_⟩
  simp [Performance.events, Frame.flatMap_shown]

lemma exists_playsOut (h : (game.perform code patience).outcome = .ok (some report)) :
    ∃ frames events, game.PlaysOut code frames report events ∧ frames.length ≤ patience := by
  by_contra hno
  rcases hs : game.start code with ⟨begun, opening, refusal | play⟩
  · rw [perform, hs] at h
    cases h
  · have hnone : ((begun.trial play).showAll patience).ending = none := by
      apply (showFrom_of_not_plays ?_ 0 []).1
      intro frames ending final last hplays
      apply Nat.lt_of_not_le
      intro hl
      have ho : game.PlaysOut code frames _ _ :=
        ⟨begun, opening, play, ending, final, last, _, _, hs, hplays, rfl, rfl⟩
      have hr := Except.ok.inj (h.symm.trans (ho.perform hl).1)
      exact hno ⟨frames, _, Option.some.inj hr ▸ ho, hl⟩
    rw [perform, hs] at h
    simp only [hnone] at h
    cases h

end

end Game

/-- A performance of an idle game gives what starting the program, playing it by hand to its end and
closing it give. Every render on the way has the events of one frame, and the audience waits once
for each frame that is not the last. A rejected program is told and leaves the game alone. -/
theorem Game.perform_eq_by_hand (game : Game α) (code : String) (h : game.running = false) :
    (∀ rejection, Program.ofSource game.scene.puzzle.limit code = .error rejection →
      game.start code = (game, [.console rejection.console], .error (.rejected rejection)) ∧
      ∀ patience, game.perform code patience =
        ⟨game, .error (.rejected rejection), 0, [(0, [.console rejection.console])]⟩) ∧
    ∀ program, Program.ofSource game.scene.puzzle.limit code = .ok program →
      ∃ begun opening play, game.start code = (begun, opening, .ok play) ∧
        (∀ frames ending final last, begun.Plays play frames ending final last →
          ∀ patience, frames.length ≤ patience →
            let performance := game.perform code patience
            let (report, closed, closing) := final.finish last.signal ending
            performance.outcome = .ok (some report) ∧ performance.game = closed ∧
              performance.events = opening ++ frames.flatMap (·.events) ++ closing ∧
              performance.frames = frames.countP (·.step = .running) ∧
              performance.renders =
                (0, opening) :: Frame.shown frames 0 ++ [(performance.frames, closing)]) ∧
        ∀ patience, (∀ frames ending final last, begun.Plays play frames ending final last →
            patience < frames.length) →
          (game.perform code patience).outcome = .ok none ∧
            (game.perform code patience).frames = patience := by
  refine ⟨fun rejection hp => ?_, fun program hp => ?_⟩
  · have hs := start_of_rejected h hp
    exact ⟨hs, fun patience => by rw [perform, hs]⟩
  · have hs := start_of_accepted h hp
    refine ⟨_, _, _, hs, ?_, ?_⟩
    · intro frames ending final last hplays patience hpat
      rcases hc : final.finish last.signal ending with ⟨report, closed, closing⟩
      rw [perform_of_plays hs hplays hc hpat]
      refine ⟨rfl, rfl, ?_, rfl, rfl⟩
      simp [Performance.events, Frame.flatMap_shown]
    · intro patience hn
      obtain ⟨he, hf⟩ := showFrom_of_not_plays hn 0 []
      rw [perform, hs]
      simp only [Trial.showAll, he, hf, Nat.zero_add]
      exact ⟨trivial, trivial⟩

theorem Game.perform_eq_by_hand_turn :
    let game : Game Rat := Puzzle.level2Phase2.game { Pace.standard with turn := 90 }
    game.running = false ∧
    (∃ rejection, game.perform "andarFrente(3" 9 =
      ⟨game, .error (.rejected rejection), 0, [(0, [.console rejection.console])]⟩) ∧
    let performance := game.perform "girarDireita()" 9
    performance.outcome = .ok (some ⟨.completed, false⟩) ∧ performance.frames = 1 ∧
      ∃ opening pose, performance.renders =
        [(0, opening), (1, [pose]), (1, [.finished false])] := by
  intro game
  have hr : game.running = false := rfl
  refine ⟨hr, ?_, ?_⟩
  · obtain ⟨hrej, -⟩ := perform_eq_by_hand game "andarFrente(3" hr
    exact ⟨_, (hrej _ rfl).2 9⟩
  · obtain ⟨-, hacc⟩ := perform_eq_by_hand game "girarDireita()" hr
    obtain ⟨started, opening, play, hs, hp, -⟩ := hacc ⟨[.command .turnRight]⟩ rfl
    obtain ⟨hg, ho⟩ := Prod.mk.inj hs
    obtain ⟨rfl, hplay⟩ := Prod.mk.inj ho
    let scene : Scene Rat := (Puzzle.level2Phase2.scene : Scene Rat).reset.1
    let turned : Scene Rat := { scene with
      actor := { scene.actor with yaw := Scalar.wrap (90 - 90) 360, heading := .south } }
    let turn : Motion Rat := .turn (90 - 90) .south
    let begun : Game Rat := ⟨scene, game.pace, ⟨[false, false]⟩, ⟨1⟩, true⟩
    let first : Play Rat := ⟨⟨[.command .turnRight], none, game.pace, none⟩, ⟨1⟩⟩
    let second : Play Rat := ⟨⟨[], turn, game.pace, none⟩, ⟨1⟩⟩
    have hturn : turn.step game.pace scene = (.settled, turned, [turned.actor.pose]) :=
      if_pos (by decide +kernel)
    have hfirst : begun.tick first =
        ((Frame.paused game.pace [] turn scene []).after [] [.performed .turnRight], begun,
          second) := by
      refine (tick_eq rfl ?_).trans rfl
      show proceed _ [_] _ = _
      rw [proceed]
      rfl
    have hsecond : begun.tick second =
        ((Frame.stopped game.pace .completed turned []).after [turned.actor.pose] [],
          { begun with scene := turned },
          ⟨⟨[], none, game.pace, some .completed⟩, ⟨1⟩⟩) := by
      refine (tick_eq rfl ?_).trans rfl
      show second.run.tick false scene = _
      simp only [Run.tick, second, hturn, Bool.false_eq_true, if_false]
      rw [proceed]
    have hplays : begun.Plays first _ .completed _ _ :=
      .running (by rw [hfirst]; rfl) (by rw [hfirst]; exact .done (by rw [hsecond]; rfl))
    rw [hfirst, hsecond] at hplays
    obtain rfl : started = begun := hg.symm.trans rfl
    obtain rfl : play = first := Except.ok.inj (hplay.symm.trans rfl)
    obtain ⟨hout, -, -, hframes, hrenders⟩ := hp _ _ _ _ hplays 9 (by decide)
    refine ⟨hout, hframes, scene.overview, turned.actor.pose, ?_⟩
    rw [hrenders, hframes]
    rfl

end RobotPuzzle
