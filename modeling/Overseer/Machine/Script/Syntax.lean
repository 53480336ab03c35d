/-!
The command language of the machine: words with quoting and substitutions, and commands built from
them.
-/

namespace Overseer.Machine.Script

/-- What a redirection does with its target. -/
inductive Direction
  | input
  | output
  /-- Output in place of what a file holds, even where that is forbidden. -/
  | overwrite
  | append
  /-- Reading and writing from the start. -/
  | update
  /-- Join another descriptor, or close. -/
  | duplicate
  /-- Read a text that stands in the script itself. -/
  | document
  deriving DecidableEq, Repr

mutual

/-- A part of a word. -/
inductive Part
  /-- A text; of quotation marks around nothing an empty one. -/
  | text (text : String) (quoted : Bool)
  /-- The value of a parameter, possibly with an operator and its operand. -/
  | parameter (name operator : String) (operand : List Part) (quoted : Bool)
  /-- The number of characters in a parameter's value. -/
  | length (name : String) (quoted : Bool)
  /-- What a command prints. -/
  | output (body : Command) (quoted : Bool)
  /-- The value of an arithmetic expression. -/
  | arithmetic (expression : List Part) (quoted : Bool)
  /-- Something between braces that means nothing. -/
  | senseless

structure Redirect where
  descriptor : Nat
  direction : Direction
  target : List Part

inductive Command
  | nothing
  /-- Assignments and words. -/
  | simple (line : Nat) (assignments : List (String × List Part)) (words : List (List Part))
    (redirects : List Redirect)
  | subshell (line : Nat) (body : Command) (redirects : List Redirect)
  /-- Any other command with redirections. -/
  | redirected (line : Nat) (body : Command) (redirects : List Redirect)
  | sequence (first second : Command)
  | both (first second : Command)
  | either (first second : Command)
  | pipe (first second : Command)
  | negate (body : Command)
  | background (body : Command)
  | choose (condition yes no : Command)
  /-- Repeats while the condition succeeds, or fails. -/
  | loop (whileFails : Bool) (condition body : Command)
  /-- Repeats for each word, or for each parameter of the script. -/
  | each (line : Nat) (name : String) (words : Option (List (List Part))) (body : Command)
  /-- Carries out the first alternative of which a pattern fits the subject. -/
  | select (line : Nat) (subject : List Part) (alternatives : List (List (List Part) × Command))
  | define (name : String) (body : Command)

end

abbrev Word := List Part

end Overseer.Machine.Script
