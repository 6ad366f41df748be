import PixelScript.CommandLine

/-!
# What the arguments come to

The arguments other than the flag are paths. However the arguments are ordered, only two things count: the
paths among them (`CommandLine.paths`) and whether the flag is there at all (`CommandLine.options`). Both are
collected while the arguments are taken into account one by one (`CommandLine.Invocation.foldlM_add`), so the
program does the same wherever the flag stands and however often (`CommandLine.run_by_paths`).
-/

namespace PixelScript

open Script

/-- Of all files, a run reads only the one at the path of the script. Files that agree there make no
difference, and without a path none does. -/
theorem Host.runFile_congr {files files' : String → Option ByteArray} {path : Option String}
    (h : path.bind files = path.bind files') (options : Options) (sink : Sink) :
    runFile files options path sink = runFile files' options path sink := by
  simp only [runFile, h]

namespace CommandLine

/-- The arguments that are not the flag, in their order. Nothing but the flag is special, so an
unknown flag or an empty argument is a path like any other. -/
def paths (arguments : List String) : List String := arguments.filter (· ≠ trailingNewline)

/-- What the flag asks for, wherever it stands and however often: membership among the arguments is
all that counts. -/
def options (arguments : List String) : Options :=
  { trailingNewline := decide (trailingNewline ∈ arguments) }

theorem paths_cons_flag (rest : List String) : paths (trailingNewline :: rest) = paths rest := by
  simp [paths]

theorem paths_cons_of_ne {argument : String} (h : argument ≠ trailingNewline) (rest : List String) :
    paths (argument :: rest) = argument :: paths rest := by
  simp [paths, h]

/-! ## One argument after the other

`Invocation.add` looks at one argument and at what is known so far. Whether it refuses depends on
both, so the induction over the arguments is on any invocation to start from and not only on the
empty one. -/

namespace Invocation

/-- What at most one path asks for, and nothing where there are more. This is the result that the
arguments are to come to, without the order in which they are looked at. -/
def ofPaths (options : Options) : List String → Option Invocation
  | [] => some ⟨options, none⟩
  | [path] => some ⟨options, some path⟩
  | _ => none

theorem eq_singleton_of_ofPaths {options : Options} {paths : List String} {i : Invocation} {path : String}
    (h : ofPaths options paths = some i) (hpath : i.path = some path) : paths = [path] := by
  unfold ofPaths at h
  split at h
  · cases h
    cases hpath
  · cases h
    cases hpath
    rfl
  · cases h

theorem add_flag (i : Invocation) :
    i.add trailingNewline = some { i with options := { trailingNewline := true } } := if_pos rfl

/-- The first argument that is not the flag becomes the path of the script, whatever was said of the
options. -/
theorem add_first_path {i : Invocation} {argument : String} (hpath : i.path = none)
    (h : argument ≠ trailingNewline) : i.add argument = some { i with path := some argument } := by
  rw [add, if_neg h, hpath]
  rfl

/-- A second path is one too many: the arguments ask for nothing from there on, also where both
paths are the same. -/
theorem add_of_path {i : Invocation} {path argument : String} (hpath : i.path = some path)
    (h : argument ≠ trailingNewline) : i.add argument = none := by
  rw [add, if_neg h, hpath]
  rfl

/-- The invocation remembers a path that was named before, and whether the flag was seen before. Taking more
arguments into account adds their paths and looks for the flag among them. -/
theorem foldlM_add (arguments : List String) (i : Invocation) :
    arguments.foldlM add i =
      ofPaths { trailingNewline := i.options.trailingNewline || decide (trailingNewline ∈ arguments) }
        (i.path.toList ++ paths arguments) := by
  induction arguments generalizing i with
  | nil => obtain ⟨options, _ | path⟩ := i <;> simp [paths, ofPaths]
  | cons argument rest ih =>
    rw [List.foldlM_cons]
    by_cases hflag : argument = trailingNewline
    · rw [hflag, add_flag, Option.bind_eq_bind, Option.bind_some, ih, paths_cons_flag]
      simp
    · have hmem : trailingNewline ∈ argument :: rest ↔ trailingNewline ∈ rest := by
        simp [Ne.symm hflag]
      rw [paths_cons_of_ne hflag]
      simp only [hmem]
      cases hpath : i.path with
      | none =>
        rw [add_first_path hpath hflag, Option.bind_eq_bind, Option.bind_some, ih]
        rfl
      | some path =>
        -- there are two paths now, so the paths that follow make no difference
        rw [add_of_path hpath hflag]
        rfl

/-- Read from the empty invocation, the arguments ask for what their paths ask for under the options
of their flag. This is `foldlM_add` where nothing is known yet. -/
theorem ofArguments_eq (arguments : List String) :
    ofArguments arguments = ofPaths (CommandLine.options arguments) (paths arguments) := by
  rw [ofArguments, foldlM_add]
  simp [CommandLine.options]

end Invocation

/-! ## The program

What the program does with an invocation is to run the script and to turn the outcome into an exit
code. How a failure is drawn on standard error (`report`) is not looked at by any of these. -/

/-- The program has printed what the run of a script has printed, and its exit code says whether the run
has failed. -/
def Result.Reports (r : Result) (outcome : Except ScriptError Unit × Sink) : Prop :=
  r.standardOutput = outcome.2.written ∧
    match outcome.1 with
    | .ok () => r.exitCode = 0
    | .error _ => r.exitCode = 1

/-- For arguments that are not refused, the program reports the run of the script that they name,
under the options that they ask for. -/
theorem reports_run {files : String → Option ByteArray} {arguments : List String} {i : Invocation}
    (report : ScriptError → String) (h : Invocation.ofArguments arguments = some i) :
    (run files arguments report).Reports (Host.runFile files i.options i.path {}) := by
  rw [run, h]
  dsimp only
  rcases Host.runFile files i.options i.path {} with ⟨_ | _, sink⟩
  · exact ⟨rfl, rfl⟩
  · exact ⟨rfl, rfl⟩

/-- Files that agree on the script lead to the same exit code and to the same texts on both streams.
Where the arguments are refused, or name no script, any files agree. -/
theorem run_congr {files files' : String → Option ByteArray} {arguments : List String}
    (report : ScriptError → String)
    (h : ∀ i path, Invocation.ofArguments arguments = some i → i.path = some path →
      files' path = files path) :
    run files' arguments report = run files arguments report := by
  unfold run
  cases hi : Invocation.ofArguments arguments with
  | none => rfl
  | some i =>
    have hread : i.path.bind files' = i.path.bind files := by
      cases hpath : i.path with
      | none => rfl
      | some path => exact h i path hi hpath
    simp only [Host.runFile_congr hread]

/-- With at most one path among the arguments, the program runs the script there, or none, under the options
that the flag asks for. With more than one it runs nothing and says how it is called. No file but the script
has any effect, and neither have the places of the flag among the arguments and their number. -/
theorem run_by_paths (files : String → Option ByteArray) (arguments : List String)
    (report : ScriptError → String) :
    (match paths arguments with
      | [] => (run files arguments report).Reports (Host.runFile files (options arguments) none {})
      | [path] =>
        (run files arguments report).Reports (Host.runFile files (options arguments) (some path) {})
      | _ =>
        Invocation.ofArguments arguments = none ∧
          run files arguments report = ⟨2, ByteArray.empty, usage⟩) ∧
    (∀ files', (∀ path, paths arguments = [path] → files' path = files path) →
      run files' arguments report = run files arguments report) ∧
    ∀ others, paths others = paths arguments →
      (trailingNewline ∈ others ↔ trailingNewline ∈ arguments) →
      run files others report = run files arguments report := by
  have heq := Invocation.ofArguments_eq arguments
  refine ⟨?_, ?_, ?_⟩
  · -- no path, one path, and at least two of them
    rcases hpaths : paths arguments with _ | ⟨path, _ | ⟨second, rest⟩⟩
    all_goals rw [hpaths] at heq
    · exact reports_run report heq
    · exact reports_run report heq
    · exact ⟨heq, by rw [run, heq]; rfl⟩
  · -- the invocation has a path only if it is the single one, where the files agree
    intro files' hsame
    apply run_congr
    intro i path hi hpath
    rw [heq] at hi
    exact hsame path (Invocation.eq_singleton_of_ofPaths hi hpath)
  · intro others hpaths hflag
    -- both the paths and the options are the same, and nothing else goes into the invocation
    have hsame : Invocation.ofArguments others = Invocation.ofArguments arguments := by
      rw [heq, Invocation.ofArguments_eq, hpaths, options, options]
      simp only [hflag]
    rw [run, run, hsame]

/-- What was printed before a failure stays printed, also when the flag comes behind the path. -/
example :
    let r := run (fun path => if path = "a" then some "I 2 1\nS\nX".toUTF8 else none)
      ["a", "--trailing-newline"]
    r.exitCode = 1 ∧ r.standardOutput = "OO\n".toUTF8 := by decide +kernel

end CommandLine

end PixelScript
