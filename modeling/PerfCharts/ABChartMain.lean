import PerfCharts.ABChartParse
import PerfCharts.ABChartMetrics

/-! A whole run of `main`: the argument handling, the matplotlib check, loading the two result
files, `os.makedirs` and the three charts, with all that the run prints and writes. -/
namespace PerfCharts.ABChart

/-- Python's `s.endswith(suf)`, over code points. -/
def endswith (s suf : String) : Bool := suf.data.isSuffixOf s.data

/-- `os.path.join(a, b)` of `posixpath`. -/
def pathJoin (a b : String) : String :=
  if startswith b "/" then b
  else if a = "" ∨ endswith a "/" then a ++ b
  else a ++ "/" ++ b

/-- One axes of a figure: title, y label, tick labels, and the bar series, each with the legend
label it has. Colours, sizes and the value labels on the bars are left out. -/
structure Panel where
  title : String
  ylabel : String
  ticks : List String
  series : List (Option String × List PyValue)

/-- Chart 1, drawn when `labels` is not empty. -/
def latencyChart (c : Config) (rows : List Row) : List Panel :=
  [⟨"P95 Latency Comparison", "Latency (ms)", rows.map (·.label),
    [(some c.labelA, rows.map (·.a)), (some c.labelB, rows.map (·.b))]⟩]

/-- Chart 2: `ax1` with the iteration rates and `ax2` with the request rates. -/
def throughputChart (c : Config) (rates : List PyValue × List PyValue) : List Panel :=
  [⟨"Iterations per Second", "iter/s", [c.labelA, c.labelB], [(none, rates.1)]⟩,
    ⟨"HTTP Requests per Second", "req/s", [c.labelA, c.labelB], [(none, rates.2)]⟩]

/-- Chart 3. -/
def errorChart (c : Config) (errs : List PyValue × List PyValue) : List Panel :=
  [⟨"Error Rate Comparison", "Error Rate (%)", ["HTTP Failures", "Mixed Workload Errors"],
    [(some c.labelA, errs.1), (some c.labelB, errs.2)]⟩]

/-- What `main` finds around it: whether the matplotlib imports succeed; what
`json.load(open(path))` gives for each path, `none` when the open or the decoding raises; what
`os.makedirs(path, exist_ok=True)` raises on a non-empty path, if anything (nothing on an
existing directory, `FileExistsError` on an existing file, as the file system has it); and what
`plt.savefig(path, dpi=150)` raises writing a chart, if anything (an `OSError` when the file
cannot be written, a `ValueError` on a label that is not valid mathtext). -/
structure Env where
  hasMatplotlib : Bool
  load : String → Option PyValue
  makedirs : String → Option PyError
  savefig : String → List Panel → Option PyError

/-- `os.makedirs(path, exist_ok=True)`: the empty path raises `FileNotFoundError` whatever the
file system holds. -/
def makedirs (env : Env) (path : String) : Option PyError :=
  if path = "" then some (.other "FileNotFoundError") else env.makedirs path

/-- What a run does outside the process, in order: its `print` calls, the paths it calls
`os.makedirs` on (whether the call creates them, finds them there or raises), and the files
`plt.savefig` writes with the chart in each. -/
structure World where
  printed : List String
  makedirsCalls : List String
  saved : List (String × List Panel)

/-- `print(line)`. -/
def World.print (w : World) (line : String) : World := { w with printed := w.printed ++ [line] }

/-- `plt.savefig(chart_path, dpi=150)`, then `print(f"  Chart saved: {chart_path}")`. -/
def World.save (w : World) (path : String) (chart : List Panel) : World :=
  { w with saved := w.saved ++ [(path, chart)], printed := w.printed ++ ["  Chart saved: " ++ path] }

/-- How the process ends: `sys.exit(n)`, or the end of `main` as `code 0`; an exception nothing
catches; or a chart handed a bar height whose drawing the model does not follow. -/
inductive Exit where
  | code (n : Nat)
  | uncaught (e : PyError)
  | nonNumericBar

/-- The exit status of the process: CPython exits 1 after the traceback of an uncaught
exception. A run that leaves the model has none. -/
def Exit.status : Exit → Option Nat
  | .code n => some n
  | .uncaught _ => some 1
  | .nonNumericBar => none

structure Run where
  world : World
  exit : Exit

/-- The lines printed when matplotlib cannot be imported. -/
def matplotlibMissing : List String :=
  ["matplotlib is not installed. Charts will not be generated.", "", "To install matplotlib:",
    "  pip3 install matplotlib", "  # or", "  brew install python-matplotlib", "",
    "The A/B comparison report (ab-compare.sh) includes ASCII charts as a fallback."]

/-- One chart: `ax.bar` on the bar heights, `plt.savefig(path, dpi=150)` and the `Chart saved`
line, after which `next` goes on from the world with the file written. -/
def drawChart (env : Env) (heights : List PyValue) (path : String) (chart : List Panel)
    (w : World) (next : World → Run) : Run :=
  if !heights.all PyValue.isBarHeight then ⟨w, .nonNumericBar⟩
  else match env.savefig path chart with
    | some e => ⟨w, .uncaught e⟩
    | none => next (w.save path chart)

/-- Chart 3 of `main`, then its last line. -/
def drawErrorChart (env : Env) (c : Config) (dataA dataB : PyValue) (w : World) : Run :=
  match errorRates dataA dataB with
  | .error e => ⟨w, .uncaught e⟩
  | .ok errs =>
    drawChart env (errs.1 ++ errs.2) (pathJoin c.outputDir "error-rate-comparison.png")
      (errorChart c errs) w fun w =>
        ⟨w.print ("\nAll charts saved to: " ++ c.outputDir ++ "/"), .code 0⟩

/-- Chart 2 of `main`, then chart 3. -/
def drawThroughputChart (env : Env) (c : Config) (dataA dataB : PyValue) (w : World) : Run :=
  match throughputRates dataA dataB with
  | .error e => ⟨w, .uncaught e⟩
  | .ok rates =>
    drawChart env (rates.1 ++ rates.2) (pathJoin c.outputDir "throughput-comparison.png")
      (throughputChart c rates) w (drawErrorChart env c dataA dataB)

/-- Lines 106 to 242 of `main`, from the world `w` after `os.makedirs`: chart 1 when an
operation has a p95 on either side, then charts 2 and 3. -/
def drawCharts (env : Env) (c : Config) (dataA dataB : PyValue) (w : World) : Run :=
  match latencyRows dataA dataB latencyMetrics with
  | .error e => ⟨w, .uncaught e⟩
  | .ok rows =>
    if rows.isEmpty then drawThroughputChart env c dataA dataB w
    else drawChart env (rows.map (·.a) ++ rows.map (·.b))
      (pathJoin c.outputDir "p95-latency-comparison.png") (latencyChart c rows) w
      (drawThroughputChart env c dataA dataB)

/-- `main()` with `args = sys.argv[1:]`. -/
def main (env : Env) (args : List String) : Run :=
  match parseArgs args with
  | .error (.exit n out) => ⟨⟨out, [], []⟩, .code n⟩
  | .error (.raise e) => ⟨⟨[], [], []⟩, .uncaught e⟩
  | .ok c =>
    if !env.hasMatplotlib then ⟨⟨matplotlibMissing, [], []⟩, .code 0⟩
    else match env.load c.fileA, env.load c.fileB with
      | some dataA, some dataB =>
        match makedirs env c.outputDir with
        | some e => ⟨⟨[], [c.outputDir], []⟩, .uncaught e⟩
        | none => drawCharts env c dataA dataB ⟨[], [c.outputDir], []⟩
      | none, _ => ⟨⟨[], [], []⟩, .uncaught (.loadError c.fileA)⟩
      | some _, none => ⟨⟨[], [], []⟩, .uncaught (.loadError c.fileB)⟩

/-- The line `main` prints after writing a chart file. -/
def announce (f : String × List Panel) : String := "  Chart saved: " ++ f.1

/-- The three chart paths inside `output_dir`, in the order `main` writes them. -/
def chartPaths (dir : String) : List String :=
  ["p95-latency-comparison.png", "throughput-comparison.png", "error-rate-comparison.png"].map
    (pathJoin dir)

/-- What the run from world `w` on does, `ps` being the chart paths still ahead of it: it writes
some of them, in order, and prints a `Chart saved` line after each, then `last` exactly when it
ends with status 0; it calls `os.makedirs` no more. -/
def Writes (last : String) (w : World) (ps : List String) (r : Run) : Prop :=
  ∃ s : List (String × List Panel), (s.map (·.1)).Sublist ps ∧
    r.world = ⟨w.printed ++ s.map announce ++ (if r.exit.status = some 0 then [last] else []),
      w.makedirsCalls, w.saved ++ s⟩

theorem Writes.stop {last : String} {w : World} {x : Exit} (hx : x.status ≠ some 0)
    (ps : List String) : Writes last w ps ⟨w, x⟩ :=
  ⟨[], List.nil_sublist _, by simp [hx]⟩

theorem Writes.finish (last : String) (w : World) (ps : List String) :
    Writes last w ps ⟨w.print last, .code 0⟩ :=
  ⟨[], List.nil_sublist _, by simp [World.print, Exit.status]⟩

theorem Writes.mono {last : String} {w : World} {ps ps' : List String} {r : Run}
    (h : Writes last w ps r) (hp : ps.Sublist ps') : Writes last w ps' r :=
  h.imp fun _ ⟨hs, hr⟩ => ⟨hs.trans hp, hr⟩

/-- A chart is written and announced and the run goes on, or the run ends there with the world
as it was and a status other than 0. -/
theorem drawChart_writes {env : Env} {heights : List PyValue} {path : String}
    {chart : List Panel} {w : World} {next : World → Run} {last : String} {ps : List String}
    (h : ∀ w', Writes last w' ps (next w')) :
    Writes last w (path :: ps) (drawChart env heights path chart w next) := by
  unfold drawChart
  split
  · exact Writes.stop (by simp [Exit.status]) _
  · split
    · exact Writes.stop (by simp [Exit.status]) _
    · obtain ⟨s, hs, hr⟩ := h (w.save path chart)
      refine ⟨(path, chart) :: s, hs.cons₂ path, ?_⟩
      rw [hr]
      simp [World.save, announce]

theorem drawErrorChart_writes (env : Env) (c : Config) (a b : PyValue) (w : World) :
    Writes ("\nAll charts saved to: " ++ c.outputDir ++ "/") w
      [pathJoin c.outputDir "error-rate-comparison.png"] (drawErrorChart env c a b w) := by
  unfold drawErrorChart
  split
  · exact Writes.stop (by simp [Exit.status]) _
  · exact drawChart_writes fun w' => Writes.finish _ w' []

theorem drawThroughputChart_writes (env : Env) (c : Config) (a b : PyValue) (w : World) :
    Writes ("\nAll charts saved to: " ++ c.outputDir ++ "/") w
      [pathJoin c.outputDir "throughput-comparison.png",
        pathJoin c.outputDir "error-rate-comparison.png"] (drawThroughputChart env c a b w) := by
  unfold drawThroughputChart
  split
  · exact Writes.stop (by simp [Exit.status]) _
  · exact drawChart_writes (drawErrorChart_writes env c a b)

/-- The charts write a sub-list of the three chart files, in order, announcing each, and print
the closing line exactly when they finish with status 0. -/
theorem drawCharts_writes (env : Env) (c : Config) (a b : PyValue) (w : World) :
    Writes ("\nAll charts saved to: " ++ c.outputDir ++ "/") w (chartPaths c.outputDir)
      (drawCharts env c a b w) := by
  unfold drawCharts
  split
  · exact Writes.stop (by simp [Exit.status]) _
  · split
    · exact (drawThroughputChart_writes env c a b w).mono (List.sublist_cons_self _ _)
    · exact drawChart_writes (drawThroughputChart_writes env c a b)

theorem main_of_exit {args : List String} {n : Nat} {out : List String}
    (h : parseArgs args = .error (.exit n out)) (env : Env) :
    main env args = ⟨⟨out, [], []⟩, .code n⟩ := by
  simp [main, h]

theorem main_of_raise {args : List String} {e : PyError} (h : parseArgs args = .error (.raise e))
    (env : Env) : main env args = ⟨⟨[], [], []⟩, .uncaught e⟩ := by
  simp [main, h]

/-- `ab-chart.py a.json b.json --label-a` ends in an uncaught `IndexError`, having printed and
written nothing. -/
theorem main_label_flag_last (env : Env) :
    main env ["a.json", "b.json", "--label-a"] = ⟨⟨[], [], []⟩, .uncaught .indexError⟩ :=
  main_of_raise parseArgs_label_flag_last env

/-- Once the arguments parse, a run prints the matplotlib message, or raises while loading
before it calls `os.makedirs`, or raises in `os.makedirs`, or draws the charts after it. -/
theorem main_of_ok {args : List String} {c : Config} (hc : parseArgs args = .ok c) (env : Env) :
    main env args = ⟨⟨matplotlibMissing, [], []⟩, .code 0⟩ ∨
      (∃ e, main env args = ⟨⟨[], [], []⟩, .uncaught e⟩) ∨
      (∃ e, makedirs env c.outputDir = some e ∧
        main env args = ⟨⟨[], [c.outputDir], []⟩, .uncaught e⟩) ∨
      ∃ a b, makedirs env c.outputDir = none ∧
        main env args = drawCharts env c a b ⟨[], [c.outputDir], []⟩ := by
  simp only [main, hc]
  split
  · exact .inl rfl
  · split
    · split
      · exact .inr (.inr (.inl ⟨_, ‹_›, rfl⟩))
      · exact .inr (.inr (.inr ⟨_, _, ‹_›, rfl⟩))
    · exact .inr (.inl ⟨_, rfl⟩)
    · exact .inr (.inl ⟨_, rfl⟩)

/-- A run prints the usage, writes nothing and exits 0 exactly when a help flag stands at a
flag position with no unrecognised option at a flag position before it; the first
unrecognised option, with no help flag before it, ends the run with `Unknown option` and
exit 1. -/
theorem main_usage_iff (env : Env) (args : List String) :
    (main env args = ⟨⟨printUsage, [], []⟩, .code 0⟩ ↔
        ∃ pre post, tokenize args = pre ++ Token.help :: post ∧ ∀ s, Token.unknown s ∉ pre) ∧
      ∀ pre post s, tokenize args = pre ++ Token.unknown s :: post → Token.help ∉ pre →
        (∀ s', Token.unknown s' ∉ pre) →
          main env args = ⟨⟨["Unknown option: " ++ s], [], []⟩, .code 1⟩ := by
  refine ⟨?_, fun pre post s h hh hu => main_of_exit (parseArgs_unknown h hh hu) env⟩
  rw [← parseArgs_usage_iff]
  refine ⟨fun h => ?_, fun h => main_of_exit h env⟩
  cases hp : parseArgs args with
  | error s =>
    cases s with
    | exit n out => rw [main_of_exit hp] at h; cases h; rfl
    | raise e => rw [main_of_raise hp] at h; cases h
  | ok c =>
    rcases main_of_ok hp env with h' | ⟨e, h'⟩ | ⟨e, -, h'⟩ | ⟨a, b, -, h'⟩ <;>
      rw [h'] at h
    · exact absurd (congrArg (·.world.printed) h) (by decide)
    · cases h
    · cases h
    · obtain ⟨s, -, hw⟩ := drawCharts_writes env c a b ⟨[], [c.outputDir], []⟩
      have hd := congrArg (·.world.makedirsCalls) h
      simp only [hw] at hd
      cases hd

/-- `--help` after an unrecognised option, or as the value of `--label-a`: the run exits 1. -/
theorem main_help_after_other_arguments :
    main ⟨true, fun _ => none, fun _ => none, fun _ _ => none⟩ ["--bogus", "--help"] =
        ⟨⟨["Unknown option: --bogus"], [], []⟩, .code 1⟩ ∧
      main ⟨true, fun _ => none, fun _ => none, fun _ _ => none⟩ ["--label-a", "--help"] =
        ⟨⟨missingFiles, [], []⟩, .code 1⟩ :=
  ⟨main_of_exit (by rw [parseArgs_eq]; rfl) _, main_of_exit (by rw [parseArgs_eq]; rfl) _⟩

/-- The three chart files have three different paths, whatever the output directory. -/
theorem chartPaths_nodup (dir : String) : (chartPaths dir).Nodup := by
  have hn : ∀ n ∈ ["p95-latency-comparison.png", "throughput-comparison.png",
      "error-rate-comparison.png"], startswith n "/" = false := by decide
  have hne : ∀ {d a b : String}, a.data ≠ b.data → d ++ a ≠ d ++ b := fun h he =>
    h (List.append_cancel_left (congrArg String.data he : _ ++ _ = _ ++ _))
  simp only [chartPaths, pathJoin, List.map_cons, List.map_nil, List.mem_cons, List.mem_singleton,
    forall_eq_or_imp, forall_eq, List.not_mem_nil, or_false] at hn ⊢
  simp only [hn, Bool.false_eq_true, if_false]
  split_ifs <;> simp [hne]

/-- A run writes nothing unless its arguments parse and `os.makedirs` returns on `output_dir`;
it then draws the charts from the world that has made that one call. -/
theorem main_saved_nil_or_drawCharts (env : Env) (args : List String) :
    (main env args).world.saved = [] ∨ ∃ c a b, parseArgs args = .ok c ∧
      makedirs env c.outputDir = none ∧
        main env args = drawCharts env c a b ⟨[], [c.outputDir], []⟩ := by
  cases hp : parseArgs args with
  | error s =>
    cases s with
    | exit n out => exact .inl (by rw [main_of_exit hp])
    | raise e => exact .inl (by rw [main_of_raise hp])
  | ok c =>
    rcases main_of_ok hp env with h | ⟨e, h⟩ | ⟨e, -, h⟩ | ⟨a, b, hm, h⟩
    · exact .inl (by rw [h])
    · exact .inl (by rw [h])
    · exact .inl (by rw [h])
    · exact .inr ⟨c, a, b, rfl, hm, h⟩

/-- A run writes files only when the arguments parse and `os.makedirs` returns on `output_dir`:
it has then called `os.makedirs` on `output_dir` alone, and writes only at the three chart paths
inside it, in order and each at most once. -/
theorem main_saved_paths (env : Env) (args : List String) :
    (main env args).world.saved = [] ∨
      ∃ c, parseArgs args = .ok c ∧ makedirs env c.outputDir = none ∧
        (main env args).world.makedirsCalls = [c.outputDir] ∧
        ((main env args).world.saved.map (·.1)).Sublist (chartPaths c.outputDir) ∧
        ((main env args).world.saved.map (·.1)).Nodup := by
  rcases main_saved_nil_or_drawCharts env args with h | ⟨c, a, b, hc, hm, h⟩
  · exact .inl h
  · obtain ⟨s, hs, hw⟩ := drawCharts_writes env c a b ⟨[], [c.outputDir], []⟩
    rw [h, hw]
    exact .inr ⟨c, hc, hm, rfl, hs, hs.nodup (chartPaths_nodup _)⟩

end PerfCharts.ABChart
