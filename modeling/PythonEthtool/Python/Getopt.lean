import Mathlib

namespace PythonEthtool
namespace Python

/-!
# Command lines

`getopt.getopt` for options that take no argument.  Options are read up to
the first word that is none, clustered short options one by one, long ones
by any prefix that names them uniquely.  The result is the list of options
with their empty arguments, and the words that are left; an error is its
message.
-/

def startsWith (text : String) (beginning : String) : Bool :=
  beginning.toList.isPrefixOf text.toList

def longHasArgs (opt : String) (longopts : List String) : Except String String :=
  match longopts.filter (fun longopt => startsWith longopt opt) with
  | [] => .error ("option --" ++ opt ++ " not recognized")
  | possibility :: others =>
      if opt ∈ possibility :: others then .ok opt
      else if others ≠ [] then .error ("option --" ++ opt ++ " not a unique prefix")
      else .ok possibility

def doLongs (opts : List (String × String)) (word : List Char) (longopts : List String) :
    Except String (List (String × String)) :=
  let opt := String.ofList (word.takeWhile (fun char => char ≠ '='))
  match longHasArgs opt longopts with
  | .error message => .error message
  | .ok found =>
      if '=' ∈ word then .error ("option --" ++ found ++ " must not have an argument")
      else .ok (opts ++ [("--" ++ found, "")])

def doShorts (opts : List (String × String)) (shortopts : String) :
    List Char -> Except String (List (String × String))
  | [] => .ok opts
  | opt :: optstring =>
      if opt ∈ shortopts.toList then
        doShorts (opts ++ [("-" ++ String.ofList [opt], "")]) shortopts optstring
      else .error ("option -" ++ String.ofList [opt] ++ " not recognized")

/-- The loop of `getopt`, with the options read so far. -/
def getoptFrom (shortopts : String) (longopts : List String) (opts : List (String × String)) :
    List String -> Except String (List (String × String) × List String)
  | [] => .ok (opts, [])
  | arg :: args =>
      if startsWith arg "-" ∧ arg ≠ "-" then
        if arg = "--" then .ok (opts, args)
        else if startsWith arg "--" then
          match doLongs opts (arg.toList.drop 2) longopts with
          | .error message => .error message
          | .ok more => getoptFrom shortopts longopts more args
        else
          match doShorts opts shortopts (arg.toList.drop 1) with
          | .error message => .error message
          | .ok more => getoptFrom shortopts longopts more args
      else .ok (opts, arg :: args)

def getopt (args : List String) (shortopts : String) (longopts : List String) :
    Except String (List (String × String) × List String) :=
  getoptFrom shortopts longopts [] args

/-! ## The options that can be returned -/

/-- The names that are announced, with their dashes. -/
def announced (shortopts : String) (longopts : List String) : List String :=
  shortopts.toList.map (fun char => "-" ++ String.ofList [char]) ++
    longopts.map (fun longopt => "--" ++ longopt)

section Announced

variable {shortopts : String} {longopts : List String} {opts result : List (String × String)}

/-- Every option is one that is announced, and has an empty argument. -/
def AllAnnounced (shortopts : String) (longopts : List String) (opts : List (String × String)) :
    Prop :=
  forall opt, opt ∈ opts -> opt.1 ∈ announced shortopts longopts ∧ opt.2 = ""

theorem AllAnnounced.append {name : String} (before : AllAnnounced shortopts longopts opts)
    (known : name ∈ announced shortopts longopts) :
    AllAnnounced shortopts longopts (opts ++ [(name, "")]) := by
  intro opt member
  rcases List.mem_append.mp member with early | last
  · exact before opt early
  · rw [List.mem_singleton.mp last]
    exact ⟨known, rfl⟩

theorem doShorts_announced {optstring : List Char}
    (parsed : doShorts opts shortopts optstring = .ok result)
    (before : AllAnnounced shortopts longopts opts) :
    AllAnnounced shortopts longopts result := by
  induction optstring generalizing opts with
  | nil =>
      cases parsed
      exact before
  | cons char optstring ih =>
      rw [doShorts] at parsed
      by_cases known : char ∈ shortopts.toList
      · rw [if_pos known] at parsed
        apply ih parsed
        apply before.append
        exact List.mem_append_left _ (List.mem_map_of_mem known)
      · rw [if_neg known] at parsed
        cases parsed

/-- A prefix stands for one of the announced options. -/
theorem longHasArgs_mem {opt found : String} (named : longHasArgs opt longopts = .ok found) :
    found ∈ longopts := by
  rw [longHasArgs] at named
  cases possible : longopts.filter (fun longopt => startsWith longopt opt) with
  | nil =>
      rw [possible] at named
      cases named
  | cons possibility others =>
      have within : forall longopt, longopt ∈ possibility :: others -> longopt ∈ longopts := by
        intro longopt member
        rw [← possible] at member
        exact (List.mem_filter.mp member).1
      rw [possible] at named
      dsimp only at named
      split at named
      · rename_i exact_
        cases named
        exact within _ exact_
      · split at named
        · cases named
        · cases named
          exact within _ List.mem_cons_self

theorem doLongs_announced {word : List Char} (parsed : doLongs opts word longopts = .ok result)
    (before : AllAnnounced shortopts longopts opts) :
    AllAnnounced shortopts longopts result := by
  rw [doLongs] at parsed
  cases named : longHasArgs (String.ofList (word.takeWhile (fun char => char ≠ '='))) longopts with
  | error message =>
      rw [named] at parsed
      cases parsed
  | ok found =>
      rw [named] at parsed
      dsimp only at parsed
      split at parsed
      · cases parsed
      · cases parsed
        apply before.append
        exact List.mem_append_right _ (List.mem_map_of_mem (longHasArgs_mem named))

theorem getoptFrom_announced {args rest : List String}
    (parsed : getoptFrom shortopts longopts opts args = .ok (result, rest))
    (before : AllAnnounced shortopts longopts opts) :
    AllAnnounced shortopts longopts result := by
  induction args generalizing opts with
  | nil =>
      cases parsed
      exact before
  | cons arg args ih =>
      rw [getoptFrom] at parsed
      split at parsed
      · split at parsed
        · cases parsed
          exact before
        · split at parsed
          · cases long : doLongs opts (arg.toList.drop 2) longopts with
            | error message =>
                rw [long] at parsed
                cases parsed
            | ok more =>
                rw [long] at parsed
                exact ih parsed (doLongs_announced long before)
          · cases short : doShorts opts shortopts (arg.toList.drop 1) with
            | error message =>
                rw [short] at parsed
                cases parsed
            | ok more =>
                rw [short] at parsed
                exact ih parsed (doShorts_announced short before)
      · cases parsed
        exact before

theorem getopt_announced {args rest : List String}
    (parsed : getopt args shortopts longopts = .ok (result, rest)) :
    AllAnnounced shortopts longopts result :=
  getoptFrom_announced parsed (fun _ member => by cases member)

end Announced

end Python
end PythonEthtool
