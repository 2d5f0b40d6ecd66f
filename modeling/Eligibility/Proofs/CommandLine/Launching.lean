import Eligibility.CommandLine.Report
import Eligibility.Proofs.Settings.Reading

/-!
# Starting the server

Only `serve` starts the server, and it does so whenever there are settings and logging can be set up
(`launches_iff`). Settings with several workers on an SQLite database are refused when they are read
(`Settings.workers_le_one_of_read`). The options are not known then, and nothing is checked after
they have been applied: so on an SQLite database the server has one worker unless more are asked for
and reloading is not (`Launch.workers_le_one_iff`).
-/

namespace Eligibility.CommandLine

/-! ## The number of workers -/

/-- Reloading goes first, then the option, unless it is zero, and the settings come last. -/
theorem Launch.workers_le_one_iff {s : Settings} (h : s.workers ≤ 1) (o : ServeOptions) :
    (Launch.ofOptions s o).workers ≤ 1 ↔ o.reload = true ∨ ∀ n ∈ o.workers, n ≤ 1 := by
  rcases o with ⟨host, port, workers, reload⟩
  cases reload with
  | true => simp [Launch.ofOptions]
  | false =>
      cases workers with
      | none => simpa [Launch.ofOptions, givenInteger] using h
      | some n =>
          by_cases hn : n = 0
          · simpa [Launch.ofOptions, givenInteger, hn] using h
          · simp [Launch.ofOptions, givenInteger, hn]

/-! ## Commands that start nothing -/

/-- If it comes to a report, then without a server. -/
def StartsNothing (x : Except CommandError Report) : Prop :=
  ∀ report, x = .ok report → report.launch = none

section StartsNothing

variable {α : Type} {env : Variables} {input : List String}

theorem startsNothing_ok {report : Report} (h : report.launch = none) :
    StartsNothing (.ok report) := by
  intro other hother
  rw [← Except.ok.inj hother, h]

theorem startsNothing_error (e : CommandError) : StartsNothing (.error e) := by
  rintro report ⟨⟩

theorem startsNothing_bind {x : Except CommandError α} {f : α → Except CommandError Report}
    (h : ∀ a, StartsNothing (f a)) : StartsNothing (x >>= f) := by
  intro report hreport
  obtain ⟨a, -, hlast⟩ := exists_of_bind_eq_ok hreport
  exact h a report hlast

theorem Command.startsNothing_withFormula (status : Nat) (text : String)
    {work : Formula → Except CommandError Report} (h : ∀ f, StartsNothing (work f)) :
    StartsNothing (withFormula env status text work) := by
  refine startsNothing_bind fun s => ?_
  split
  · exact startsNothing_ok rfl
  · exact startsNothing_error _
  · exact h _

theorem Command.startsNothing_outcomeReport (result : Except Number.ConversionError Outcome) :
    StartsNothing ((result.map outcomeReport).mapError .number) := by
  cases result with
  | error e => exact startsNothing_error _
  | ok outcome => exact startsNothing_ok rfl

theorem Command.startsNothing_createDatabase (force : Bool) (answers : List String) :
    StartsNothing (createDatabase env force answers) := by
  refine startsNothing_bind fun s => startsNothing_bind fun _ => ?_
  rcases confirm createTablesQuestion answers with ⟨shown, confirmed⟩
  cases force with
  | true => exact startsNothing_bind fun line => startsNothing_ok rfl
  | false =>
      cases s.isProduction with
      | true => exact startsNothing_ok rfl
      | false =>
          cases confirmed with
          | true => exact startsNothing_bind fun line => startsNothing_ok rfl
          | false => exact startsNothing_ok rfl

/-- Only `serve` starts the server. -/
theorem Command.startsNothing_run (c : Command) :
    (∃ o, c = .serve o) ∨ StartsNothing (c.run env input) := by
  cases c with
  | evaluate rule data =>
      right
      show StartsNothing (printOutcome env rule data)
      unfold printOutcome
      split
      · exact startsNothing_ok rfl
      · exact startsNothing_error _
      · exact startsNothing_withFormula _ _ fun f => startsNothing_outcomeReport _
      · exact startsNothing_ok rfl
  | info => exact .inr (startsNothing_bind fun s => startsNothing_ok rfl)
  | initDb force => exact .inr (startsNothing_createDatabase force input)
  | parse rule => exact .inr (startsNothing_withFormula _ _ fun _ => startsNothing_ok rfl)
  | serve o => exact .inl ⟨o, rfl⟩

end StartsNothing

/-- The command line starts the server in this way. -/
def Launches (env : Variables) (input words : List String) (launch : Launch) : Prop :=
  ∃ report, run env input words = .ok report ∧ report.launch = some launch

section Launches

variable {env : Variables} {input words : List String} {o : ServeOptions} {s : Settings}
  {launch : Launch}

theorem Command.startServer_of_read (hread : Settings.read env [] = .ok s)
    (hlogging : checkLogging s = .ok ()) :
    startServer env o = .ok ⟨0, "", "", some (.ofOptions s o)⟩ := by
  have hsettings : Command.settings env = .ok s := by
    rw [Command.settings, hread]
    rfl
  simp only [startServer, hsettings, hlogging, bind, Except.bind]
  rfl

theorem Command.exists_of_startServer {report : Report} (h : startServer env o = .ok report) :
    ∃ s, Settings.read env [] = .ok s ∧ checkLogging s = .ok () ∧
      report = ⟨0, "", "", some (.ofOptions s o)⟩ := by
  obtain ⟨s, hsettings, h⟩ := exists_of_bind_eq_ok h
  obtain ⟨⟨⟩, hlogging, h⟩ := exists_of_bind_eq_ok h
  exact ⟨s, eq_ok_of_mapError hsettings, hlogging, (Except.ok.inj h).symm⟩

/-- The server is started by `serve` alone, and always if there are settings and logging can be set
up. -/
theorem launches_iff : Launches env input words launch ↔ ∃ o s,
    Invocation.ofWords? words = .ok (.command (.serve o)) ∧ Settings.read env [] = .ok s ∧
      Command.checkLogging s = .ok () ∧ launch = .ofOptions s o := by
  constructor
  · rintro ⟨report, hrun, hlaunch⟩
    unfold run at hrun
    split at hrun
    case h_3 c hwords =>
      rcases Command.startsNothing_run c with ⟨o, rfl⟩ | hnothing
      · obtain ⟨s, hread, hlogging, rfl⟩ := Command.exists_of_startServer hrun
        exact ⟨o, s, hwords, hread, hlogging, (Option.some.inj hlaunch).symm⟩
      · exact nomatch (hnothing report hrun).symm.trans hlaunch
    -- a page is shown
    all_goals
      obtain rfl := Except.ok.inj hrun
      exact nomatch hlaunch
  · rintro ⟨o, s, hwords, hread, hlogging, rfl⟩
    refine ⟨⟨0, "", "", some (.ofOptions s o)⟩, ?_, rfl⟩
    rw [run, hwords]
    exact Command.startServer_of_read hread hlogging

end Launches

/-- **Workers on SQLite.** Under settings that were read, with an SQLite database, the server is to
have at most one worker if and only if reloading is asked for or no more than one worker is. What a
command line starts is told by its options and the settings of its environment, and by nothing
else. -/
theorem workers_on_sqlite (env : Variables) (given : Fields) (input words : List String) :
    (∀ s, Settings.read env given = .ok s → s.usesSqlite = true → ∀ o : ServeOptions,
      ((Launch.ofOptions s o).workers ≤ 1 ↔ o.reload = true ∨ ∀ n ∈ o.workers, n ≤ 1)) ∧
    ∀ launch, Launches env input words launch ↔ ∃ o s,
      Invocation.ofWords? words = .ok (.command (.serve o)) ∧ Settings.read env [] = .ok s ∧
        Command.checkLogging s = .ok () ∧ launch = .ofOptions s o := by
  refine ⟨fun s hread hsqlite => ?_, fun launch => launches_iff⟩
  exact Launch.workers_le_one_iff (Settings.workers_le_one_of_read hread hsqlite)

/-- With reloading four workers become one. -/
theorem workers_on_sqlite_of_reload :
    let o : ServeOptions := ⟨none, none, some 4, true⟩
    Settings.read [] [] = .ok .default ∧ Settings.default.usesSqlite = true ∧
      (Launch.ofOptions .default o).workers ≤ 1 ∧
      Launches [] [] ["serve", "--workers", "4", "--reload"] (.ofOptions .default o) := by
  intro o
  have hread : Settings.read [] [] = .ok .default := rfl
  have hsqlite : Settings.default.usesSqlite = true := by decide
  obtain ⟨hworkers, hlaunches⟩ :=
    workers_on_sqlite [] [] [] ["serve", "--workers", "4", "--reload"]
  exact ⟨hread, hsqlite, (hworkers .default hread hsqlite o).mpr (.inl rfl),
    (hlaunches _).mpr ⟨o, .default, rfl, hread, rfl, rfl⟩⟩

/-- Without it there are four. -/
theorem four_workers_on_sqlite :
    let launch : Launch := .ofOptions .default ⟨none, none, some 4, false⟩
    Settings.read [] [] = .ok .default ∧ Settings.default.usesSqlite = true ∧
      Launches [] [] ["serve", "--workers", "4"] launch ∧ launch.workers = 4 ∧
      ¬ launch.workers ≤ 1 :=
  ⟨rfl, by decide, ⟨_, rfl, rfl⟩, rfl, by decide⟩

end Eligibility.CommandLine
