import Workbench.Text.Blank

/-!
# Commands

A line whose first character, blanks aside, is a colon is a command: a word, and behind the first
blank an argument. Every other line is for the session.
-/

namespace Workbench

/-- What a command line asks for. -/
inductive Command where
  /-- Load a program from a file. -/
  | openFile (path : String)
  /-- Add a line to the program. -/
  | append (code : String)
  | showProgram
  | newProgram
  | run
  | save
  /-- Write the program to a file named by its title. -/
  | saveCopy
  | abort
  | clear
  | showHistory
  | previous
  | next
  | showBindings
  | help
  | quit
  /-- A command that lacks its argument. -/
  | missingArgument (word : String)
  /-- A word that is no command. -/
  | unknown (word : String)
  deriving DecidableEq, Repr

namespace Command

/-- The words that stand for a command by themselves; an argument behind one is ignored. -/
def plainWords : List (String × Command) :=
  [(":source", showProgram), (":new", newProgram), (":run", run), (":save", save),
    (":export", saveCopy), (":abort", abort), (":clear", clear), (":history", showHistory),
    (":prev", previous), (":next", next), (":env", showBindings), (":help", help), (":quit", quit),
    (":q", quit)]

/-- The command of a word with an argument, which is empty if there is none. -/
def ofWord (word argument : String) : Command :=
  if word = ":open" then if argument = "" then missingArgument word else openFile argument
  else if word = ":append" then if argument = "" then missingArgument word else append argument
  else (plainWords.lookup word).getD (unknown word)

/-- The command that a line is, if it is one. -/
def ofLine? (line : String) : Option Command :=
  let text := Text.trim line.toList
  if text.head? ≠ some ':' then none
  else
    match Text.splitFirst? Text.isBlank text with
    | some (word, argument) =>
      some (ofWord (String.ofList word) (String.ofList (Text.trim argument)))
    | none => some (ofWord (String.ofList text) "")

/-- What `:help` shows. -/
def helpText : String :=
  "Commands:
  :open <path>     load a program file (drops the transcript and bindings)
  :append <code>   append a line to the program source
  :source          show the program source
  :new             empty the program source
  :run             run the whole program
  :save            write the program back to its file
  :export          write the program to <title>.txt in the export directory
  :abort           abort the running program (Ctrl-C does the same)
  :clear           clear the transcript and bindings
  :history         list submitted terminal lines
  :prev, :next     recall terminal history
  :env             show terminal bindings
  :help            show this help
  :quit            exit
Any other line runs in the terminal."

end Command

end Workbench
