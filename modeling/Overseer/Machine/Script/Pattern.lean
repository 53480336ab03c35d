/-!
Patterns of characters, as selections and names of files use them.
-/

namespace Overseer.Machine.Script

/-- A pattern of characters, those that are flagged standing for themselves. -/
abbrev Pattern := List (Char × Bool)

namespace Pattern

/-- Whether a character belongs to a class by its name. -/
def inClass (c : Char) (name : List Char) : Bool :=
  match String.ofList name with
  | "alpha" => c.isAlpha
  | "digit" => c.isDigit
  | "alnum" => c.isAlphanum
  | "upper" => c.isUpper
  | "lower" => c.isLower
  | "space" => c.isWhitespace || c == Char.ofNat 11 || c == Char.ofNat 12
  | "blank" => c == ' ' || c == '\t'
  | "xdigit" => c.isDigit || ('a' ≤ c && c ≤ 'f') || ('A' ≤ c && c ≤ 'F')
  | "punct" => '!' ≤ c && c ≤ '~' && !c.isAlphanum
  | "print" => ' ' ≤ c && c ≤ '~'
  | "graph" => '!' ≤ c && c ≤ '~'
  | "cntrl" => c < ' ' || c == Char.ofNat 127
  | _ => false

/-- What stands between brackets. -/
inductive Range
  | chars (first last : Char)
  | named (name : List Char)

/-- Whether a character is in a range. -/
def Range.contains (c : Char) : Range → Bool
  | chars first last => first ≤ c && c ≤ last
  | named name => inClass c name

/-- The ranges between brackets in front of a pattern, with what follows them. The flag says that
    none has been read yet, so that a closing bracket stands for itself. -/
def ranges? : Nat → Bool → List Range → Pattern → Option (List Range × Pattern)
  | 0, _, _, _ | _, _, _, [] => none
  | fuel + 1, first, done, (c, quoted) :: rest =>
    if c = ']' ∧ ¬ quoted ∧ ¬ first then some (done, rest)
    else
      match (if quoted then none else
        match c, rest with
        | '[', (':', _) :: more =>
          let name := (more.takeWhile fun d => d.1 != ':').map Prod.fst
          match more.drop name.length with
          | _ :: (']', _) :: after => some (name, after)
          | _ => none
        | _, _ => none) with
      | some (name, after) => ranges? fuel false (done ++ [.named name]) after
      | none =>
        match rest with
        | ('-', false) :: (d, q) :: after =>
          if d = ']' ∧ ¬ q then ranges? fuel false (done ++ [.chars c c]) rest
          else ranges? fuel false (done ++ [.chars c d]) after
        | _ => ranges? fuel false (done ++ [.chars c c]) rest

/-- Whether a text fits a pattern, looked into to a bounded depth. -/
def fitsWithin : Nat → Pattern → List Char → Bool
  | 0, _, _ => false
  | _, [], text => text.isEmpty
  | depth + 1, ('*', false) :: pattern, text =>
    fitsWithin depth pattern text ||
      match text with
      | [] => false
      | _ :: rest => fitsWithin depth (('*', false) :: pattern) rest
  | depth + 1, (c, quoted) :: pattern, text =>
    match text with
    | [] => false
    | d :: rest =>
      if quoted then c == d && fitsWithin depth pattern rest
      else if c = '?' then fitsWithin depth pattern rest
      else
        let negated := match pattern with
          | (e, false) :: _ => e == '!' || e == '^'
          | _ => false
        match (if c = '[' then
          ranges? (pattern.length + 1) true [] (if negated then pattern.tail else pattern)
          else none) with
        | some (ranges, more) =>
          (ranges.any (Range.contains d) != negated) && fitsWithin depth more rest
        | none => c == d && fitsWithin depth pattern rest

/-- Whether a text fits a pattern. -/
def fits (pattern : Pattern) (text : List Char) : Bool :=
  fitsWithin (pattern.length + text.length + 1) pattern text

/-- The characters, whether they stand for themselves or not. -/
def text (pattern : Pattern) : String :=
  String.ofList (pattern.map Prod.fst)

/-- Whether it fits more than one text. -/
def isOpen (pattern : Pattern) : Bool :=
  pattern.any fun (c, quoted) => !quoted && (c == '*' || c == '?' || c == '[')

/-- Takes the shortest or longest fitting start off a text. -/
def dropFront (longest : Bool) (pattern : Pattern) (text : List Char) : List Char :=
  let ends := List.range (text.length + 1)
  match (if longest then ends.reverse else ends).find? fun n => pattern.fits (text.take n) with
  | some n => text.drop n
  | none => text

/-- Takes the shortest or longest fitting end off a text. -/
def dropBack (longest : Bool) (pattern : Pattern) (text : List Char) : List Char :=
  let starts := List.range (text.length + 1)
  match (if longest then starts else starts.reverse).find? fun n => pattern.fits (text.drop n) with
  | some n => text.take n
  | none => text

end Pattern

end Overseer.Machine.Script
