import Mathlib.Data.List.Basic

/-! The argument loop of `main` in `scripts/perf/ab-chart.py` as the script runs it: an
index `i` over `args = sys.argv[1:]`, and the five locals that the loop fills in. -/
namespace PerfCharts.ABChart

/-- The exceptions of the script that nothing catches: `loadError` is whatever `open` or
`json.load` raises on a result file, and `other` what `os.makedirs` or `plt.savefig` raises, by
its class name. -/
inductive PyError where
  | indexError
  | attributeError
  | typeError
  | loadError (path : String)
  | other (cls : String)
deriving DecidableEq, Repr

/-- How `main` stops early: `sys.exit(code)` after printing the lines `out`, or an
uncaught exception. -/
inductive Stop where
  | exit (code : Nat) (out : List String)
  | raise (e : PyError)
deriving DecidableEq, Repr

/-- Python's `s.startswith(pre)`, over code points. -/
def startswith (s pre : String) : Bool := pre.data.isPrefixOf s.data

/-- The lines `print_usage` prints, one for each `print` call. -/
def printUsage : List String :=
  ["Usage: python3 ab-chart.py <result-a.json> <result-b.json> [options]",
    "",
    "Options:",
    "  --label-a NAME     Label for variant A (default: 'Variant A')",
    "  --label-b NAME     Label for variant B (default: 'Variant B')",
    "  --output-dir DIR   Directory for chart PNGs (default: ./charts)",
    "  --help             Show this help message"]

/-- The locals `file_a`, `file_b`, `label_a`, `label_b` and `output_dir` of `main`. -/
structure Options where
  fileA : Option String
  fileB : Option String
  labelA : String
  labelB : String
  outputDir : String
deriving DecidableEq, Repr

def Options.init : Options := ⟨none, none, "Variant A", "Variant B", "./charts"⟩

/-- A positional argument fills `file_a`, else `file_b`, and is dropped after that. -/
def Options.addFile (o : Options) (a : String) : Options :=
  match o.fileA, o.fileB with
  | none, _ => { o with fileA := some a }
  | some _, none => { o with fileB := some a }
  | some _, some _ => o

/-- `args[i + 1]` in a value flag's branch: `IndexError` when the flag is the last argument. -/
def flagValue (args : List String) (i : Nat) (k : String → Except Stop Options) :
    Except Stop Options :=
  match args[i + 1]? with
  | some v => k v
  | none => .error (.raise .indexError)

/-- The `while i < len(args)` loop of `main`, from index `i` with the locals `o`. -/
def parseLoop (args : List String) (i : Nat) (o : Options) : Except Stop Options :=
  if h : i < args.length then
    let a := args[i]
    if a = "--help" ∨ a = "-h" then .error (.exit 0 printUsage)
    else if a = "--label-a" then
      flagValue args i fun v => parseLoop args (i + 2) { o with labelA := v }
    else if a = "--label-b" then
      flagValue args i fun v => parseLoop args (i + 2) { o with labelB := v }
    else if a = "--output-dir" then
      flagValue args i fun v => parseLoop args (i + 2) { o with outputDir := v }
    else if !startswith a "-" then parseLoop args (i + 1) (o.addFile a)
    else .error (.exit 1 ["Unknown option: " ++ a])
  else .ok o
termination_by args.length - i
decreasing_by all_goals simp_wf; omega

/-- The lines printed when a result file is missing. -/
def missingFiles : List String := "Error: Two result JSON files are required." :: printUsage

/-- What the argument handling passes on to the rest of `main`: both result files are
non-empty paths, which the check after the loop enforces. -/
structure Config where
  fileA : String
  fileB : String
  labelA : String
  labelB : String
  outputDir : String
  fileA_ne : fileA ≠ ""
  fileB_ne : fileB ≠ ""
deriving DecidableEq

/-- `if not file_a or not file_b`: `None` and the empty string both count as missing. -/
def requireFiles (o : Options) : Except Stop Config :=
  match o.fileA, o.fileB with
  | some a, some b =>
    if h : a = "" ∨ b = "" then .error (.exit 1 missingFiles)
    else .ok ⟨a, b, o.labelA, o.labelB, o.outputDir, fun e => h (.inl e), fun e => h (.inr e)⟩
  | _, _ => .error (.exit 1 missingFiles)

/-- Lines 41 to 75 of `main`: the loop from `i = 0`, then the check for two result files. -/
def parseArgs (args : List String) : Except Stop Config :=
  parseLoop args 0 .init >>= requireFiles

theorem parseLoop_of_le {args : List String} {i : Nat} (h : args.length ≤ i) (o : Options) :
    parseLoop args i o = .ok o := by
  rw [parseLoop, dif_neg (by omega)]

end PerfCharts.ABChart
