import LogSearch.Command

/-!
# The command line

A command line consists of the word of a command and of options, each with a
value that follows it or is joined to it by an equals sign.  It is understood
completely before any file is read.
-/

namespace LogSearch

/-- The arguments of a run, sorted into options and other words. -/
structure Arguments where
  /-- The values of the options, by their names. -/
  options : Keyed String := ∅
  /-- The arguments that belong to no option. -/
  words : List String := []

namespace Arguments

/-- The names of all options. -/
def optionNames : List String := ["config", "query", "state", "search-type", "response"]

/-- What follows the two dashes of an option, split at the first equals sign. -/
def option? (argument : String) : Option (String × Option String) :=
  match argument.toList with
  | '-' :: '-' :: name =>
    let value := match name.dropWhile (· ≠ '=') with
      | _ :: value => some (String.ofList value)
      | [] => none
    some (String.ofList (name.takeWhile (· ≠ '=')), value)
  | _ => none

/-- Put in the value of an option. -/
def addOption (arguments : Arguments) (name value : String) : Except String Arguments :=
  if name ∉ optionNames then .error ("unknown option --" ++ name)
  else if arguments.options.contains name then .error ("option --" ++ name ++ " is given twice")
  else .ok { arguments with options := arguments.options.insert name value }

/-- Sort arguments into options and other words. -/
def sort (arguments : Arguments) : List String → Except String Arguments
  | [] => .ok arguments
  | argument :: rest =>
    match option? argument with
    | none => sort { arguments with words := arguments.words ++ [argument] } rest
    | some (name, some value) => do sort (← arguments.addOption name value) rest
    | some (name, none) => match rest with
      | value :: rest => do sort (← arguments.addOption name value) rest
      | [] => .error ("option --" ++ name ++ " lacks its value")

/-- The value of an option that has to be given. -/
def require (arguments : Arguments) (name : String) : Except String String :=
  match arguments.options.get? name with
  | some value => .ok value
  | none => .error ("option --" ++ name ++ " is missing")

/-- Refuse options other than the given ones. -/
def allowOnly (arguments : Arguments) (names : List String) : Except String Unit :=
  match arguments.options.entries.find? fun entry => entry.1 ∉ "config" :: names with
  | some (name, _) => .error ("option --" ++ name ++ " does not belong to this command")
  | none => .ok ()

/-- A file that has not been read yet. -/
def unread (name : String) : File := ⟨name, none⟩

/-- The command that the arguments name, over files that have not been read yet. -/
def command (arguments : Arguments) : Except String Command := do
  let word ← match arguments.words with
    | [word] => .ok word
    | [] => .error "a command is missing"
    | _ :: extra :: _ => .error ("unexpected argument " ++ extra)
  let state := (arguments.options.get? "state").map unread
  match word with
  | "apply" =>
    arguments.allowOnly ["query", "state"]
    return .apply (unread (← arguments.require "query")) state
  | "expand" =>
    arguments.allowOnly ["query"]
    return .expand (unread (← arguments.require "query"))
  | "streams" =>
    arguments.allowOnly ["query"]
    return .streams (unread (← arguments.require "query"))
  | "plan" =>
    arguments.allowOnly ["query", "state"]
    return .plan (unread (← arguments.require "query")) state
  | "extract" =>
    arguments.allowOnly ["query", "state", "search-type", "response"]
    return .extract (unread (← arguments.require "query")) state
      (← arguments.require "search-type") (unread (← arguments.require "response"))
  | other => .error ("unknown command " ++ other)

end Arguments

/-- A command with something done to each of its files. -/
def Command.mapFiles {m : Type → Type} [Monad m] (load : File → m File) : Command → m Command
  | .apply queries state => return .apply (← load queries) (← state.mapM load)
  | .expand queries => return .expand (← load queries)
  | .streams queries => return .streams (← load queries)
  | .plan queries state => return .plan (← load queries) (← state.mapM load)
  | .extract queries state searchType response =>
    return .extract (← load queries) (← state.mapM load) searchType (← load response)

end LogSearch
