import Retrace.Launch.Tools
import Retrace.Proofs.Text.Lines

/-!
# The entries of a class path

A text is cut into entries at its separators. The argument for a command has the
entries that were given, each of them cut in this way, and the current directory
in front of them unless it was given. To make an argument of an argument changes
nothing. A command has it behind the flag, whatever arguments follow the class.
-/

namespace Retrace

-- ---------------------------------------------------------------------------
-- Entries
-- ---------------------------------------------------------------------------

namespace ClassPath

variable {text entry : String} {list : List String}

/-- The entries of a text, which stand between separators. -/
def cut (text : String) : List String :=
  (Text.splitOn separator text.toList).map String.ofList

/-- The entries that were given. A joined text without characters has none. -/
def given : ClassPath → List String
  | .entries list => list
  | .joined text => if text = "" then [] else cut text

theorem cut_append (first later : String) :
    cut (first ++ String.singleton separator ++ later) = cut first ++ cut later := by
  have letters : (first ++ String.singleton separator ++ later).toList =
      first.toList ++ separator :: later.toList := by simp
  rw [cut, letters, Text.splitOn_append, List.map_append]
  rfl

/-- An entry is not cut again. -/
theorem cut_of_mem_cut (h : entry ∈ cut text) : cut entry = [entry] := by
  obtain ⟨piece, found, rfl⟩ := List.mem_map.1 h
  rw [cut, String.toList_ofList, Text.splitOn_of_notMem (Text.notMem_of_mem_splitOn found)]
  rfl

theorem flatMap_cut_cut (text : String) : (cut text).flatMap cut = cut text := by
  calc (cut text).flatMap cut
      = (cut text).flatMap fun entry => [entry] :=
        List.flatMap_congr fun entry listed => cut_of_mem_cut listed
    _ = cut text := List.flatMap_singleton' ..

theorem join_cons_cons (first second : String) (later : List String) :
    join (first :: second :: later) =
      first ++ String.singleton separator ++ join (second :: later) := by
  rw [join, String.intercalate_cons_cons]
  rfl

/-- What stands between separators in joined entries is what stands between them in each entry. -/
theorem cut_join (nonempty : list ≠ []) : cut (join list) = list.flatMap cut := by
  induction list with
  | nil => exact absurd rfl nonempty
  | cons first later ih =>
    cases later with
    | nil => simp [join]
    | cons second later =>
      rw [join_cons_cons, cut_append, ih (List.cons_ne_nil _ _)]
      rfl

theorem contains_here_iff :
    (Text.splitOn separator text.toList).contains here.toList = true ↔ here ∈ cut text := by
  rw [List.contains_iff_mem, cut, List.mem_map]
  constructor
  · intro found
    exact ⟨here.toList, found, String.ofList_toList⟩
  · rintro ⟨piece, found, same⟩
    rwa [← same, String.toList_ofList]

-- ---------------------------------------------------------------------------
-- Arguments
-- ---------------------------------------------------------------------------

/-- A text that has the current directory among its entries is an argument as it is. -/
theorem argument_joined_of_here (found : here ∈ cut text) : (joined text).argument = text := by
  rw [argument, if_pos (contains_here_iff.2 found)]

/-- The entries of an argument are those that were given, and the current directory in front of them
if it was not. -/
theorem cut_argument (path : ClassPath) :
    cut path.argument =
      (if here ∈ path.given then path.given else here :: path.given).flatMap cut := by
  cases path with
  | entries list =>
    rw [argument, given]
    by_cases found : here ∈ list
    · rw [if_pos (List.contains_iff_mem.2 found), if_pos found, cut_join (List.ne_nil_of_mem found)]
    · rw [if_neg (mt List.contains_iff_mem.1 found), if_neg found, cut_join (List.cons_ne_nil _ _)]
  | joined text =>
    by_cases empty : text = ""
    · subst empty
      rfl
    rw [given, if_neg empty]
    by_cases found : here ∈ cut text
    · rw [argument_joined_of_here found, if_pos found, flatMap_cut_cut]
    · rw [argument, if_neg (mt contains_here_iff.1 found), if_neg (by simpa using empty), if_neg found,
        cut_append, List.flatMap_cons, flatMap_cut_cut]

/-- The current directory inside of an entry is not an entry that was given. -/
example : cut (entries ["", "a:."]).argument = [".", "", "a", "."] := by decide

theorem here_mem_cut_argument (path : ClassPath) : here ∈ cut path.argument := by
  have listed : here ∈ if here ∈ path.given then path.given else here :: path.given := by
    split
    · next found => exact found
    · exact .head _
  rw [cut_argument]
  exact List.mem_flatMap.2 ⟨here, listed, .head _⟩

/-- An argument is not changed by being given as a class path. -/
theorem argument_argument (path : ClassPath) : (joined path.argument).argument = path.argument :=
  argument_joined_of_here (here_mem_cut_argument path)

end ClassPath

-- ---------------------------------------------------------------------------
-- Commands
-- ---------------------------------------------------------------------------

namespace Command

/-- What follows the first flag is found, whatever comes after it. -/
theorem classPathArgument?_of_args {c : Command} {argument : String} (before later : List String)
    (args : c.args = before ++ classPathFlag :: argument :: later) (first : classPathFlag ∉ before) :
    c.classPathArgument? = some argument := by
  have other : ∀ arg ∈ before, decide (arg ≠ classPathFlag) = true := by
    intro arg listed
    exact decide_eq_true fun same => first (same ▸ listed)
  rw [classPathArgument?, args, List.dropWhile_append_of_pos other]
  simp

variable (config : Config) (className : String) (path : ClassPath) (args : List String)

theorem classPathArgument?_debugger :
    (debugger config className (some path) args).classPathArgument? = some path.argument :=
  classPathArgument?_of_args [] (className :: args) rfl List.not_mem_nil

/-- The flags that make the program wait are no class path flags. -/
theorem classPathArgument?_waiting (port : UInt16) :
    (waiting config className (some path) args port).classPathArgument? = some path.argument := by
  refine classPathArgument?_of_args
    ["-Xdebug",
      "-Xrunjdwp:transport=dt_socket,address=" ++ toString port.toNat ++ ",server=y,suspend=y"]
    (className :: args) rfl fun flagged => ?_
  rcases List.mem_cons.1 flagged with same | flagged
  · exact absurd same (by decide)
  · have letters := congrArg String.toList (List.mem_singleton.1 flagged)
    simp [classPathFlag] at letters

theorem classPathArgument?_compiler (sources : List String) :
    (compiler config path sources).classPathArgument? = some path.argument :=
  classPathArgument?_of_args [] ("-g" :: sources) rfl List.not_mem_nil

end Command

end Retrace
