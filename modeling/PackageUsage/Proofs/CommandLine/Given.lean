import PackageUsage.CommandLine

/-!
# The arguments that a command line gives

A command line gives arguments one after the other: flags, values behind an equals sign or in the
next word, patterns. Each of them has its own effect on an invocation, so it can be settled at once.
-/

namespace PackageUsage.CommandLine

/-! ## Arguments -/

/-- What a command line gives. -/
inductive Given
  /-- A name or a letter that no argument has. -/
  | unknown (spelling : String)
  /-- A value for an argument that takes none. -/
  | unwanted (a : Argument) (value : String)
  /-- An argument without a value; the style of the help, if it asks for that. -/
  | flag (style : HelpStyle) (a : Argument)
  /-- An argument with its value behind an equals sign. -/
  | attached (a : Argument) (value : String)
  /-- An argument with its value in the next word. -/
  | apart (a : Argument) (value : String)
  /-- An argument that takes a value, with no word for it. -/
  | lacking (a : Argument)
  /-- A word that is a pattern. -/
  | plain (word : String)
deriving DecidableEq, Repr

/-- What one word is on its own. -/
inductive Word
  | whole (gs : List Given)
  /-- An argument whose value is the next word. -/
  | awaiting (a : Argument)
  | plain

/-- What a letter behind one hyphen gives. -/
def Given.ofLetter (c : Char) : Given :=
  match Argument.ofLetter? c with
  | none => .unknown ("-" ++ String.singleton c)
  | some a => .flag .brief a

/-- What a name behind two hyphens is, with the value behind an equals sign. -/
def Word.ofName (name : String) (value : Option String) : Word :=
  match Argument.ofName? name with
  | none => .whole [.unknown ("--" ++ name)]
  | some a =>
    match a.takesValue, value with
    | true, some value => .whole [.attached a value]
    | true, none => .awaiting a
    | false, some value => .whole [.unwanted a value]
    | false, none => .whole [.flag .full a]

/-- What a word is. -/
def Word.of (word : String) : Word :=
  match word.toList with
  | '-' :: '-' :: rest => .ofName (Reading.splitValue rest).1 (Reading.splitValue rest).2
  | '-' :: c :: rest => .whole ((c :: rest).map .ofLetter)
  | _ => .plain

/-- What the words of a command line give, up to a lone pair of hyphens. -/
def givens : List String → List Given
  | [] => []
  | word :: rest =>
    if word == "--" then []
    else
      match Word.of word with
      | .whole gs => gs ++ givens rest
      | .plain => .plain word :: givens rest
      | .awaiting a =>
        match rest with
        | [] => [.lacking a]
        | next :: rest' =>
          match Word.of next with
          | .plain => .apart a next :: givens rest'
          | _ => .lacking a :: givens (next :: rest')

/-- The words behind the first lone pair of hyphens. -/
def behind (words : List String) : List String :=
  (words.dropWhile (· != "--")).tail

section Givens
variable {word next : String} {rest : List String} {a : Argument} {gs : List Given}

theorem ne_hyphens_of_plain (hword : Word.of word = .plain) : ¬(word == "--") := by
  rw [beq_iff_eq]
  rintro rfl
  cases hword

theorem givens_of_whole (hhyphens : ¬(word == "--")) (hword : Word.of word = .whole gs) :
    givens (word :: rest) = gs ++ givens rest := by
  rw [givens, if_neg hhyphens, hword]

theorem givens_of_plain (hword : Word.of word = .plain) :
    givens (word :: rest) = .plain word :: givens rest := by
  rw [givens, if_neg (ne_hyphens_of_plain hword), hword]

theorem givens_of_last (hhyphens : ¬(word == "--")) (hword : Word.of word = .awaiting a) :
    givens [word] = [.lacking a] := by
  rw [givens, if_neg hhyphens, hword]

theorem givens_of_apart (hhyphens : ¬(word == "--")) (hword : Word.of word = .awaiting a)
    (hnext : Word.of next = .plain) :
    givens (word :: next :: rest) = .apart a next :: givens rest := by
  rw [givens, if_neg hhyphens, hword]
  simp only [hnext]

theorem givens_of_lacking (hhyphens : ¬(word == "--")) (hword : Word.of word = .awaiting a)
    (hnext : Word.of next ≠ .plain) :
    givens (word :: next :: rest) = .lacking a :: givens (next :: rest) := by
  rw [givens, if_neg hhyphens, hword]
  cases hof : Word.of next with
  | plain => exact absurd hof hnext
  | _ => simp only [hof]

theorem behind_cons (hhyphens : ¬(word == "--")) (rest : List String) :
    behind (word :: rest) = behind rest := by
  rw [behind, List.dropWhile_cons, if_pos]
  · rfl
  · simpa using hhyphens

end Givens

/-- The next word matters to an argument. -/
def Given.isApart : Given → Bool
  | .apart .. | .lacking .. => true
  | _ => false

/-! ## Settled at once -/

/-- The argument that is noted as given. -/
def Given.noted? : Given → Option Argument
  | .flag _ .help | .flag _ .version => none
  | .flag _ a | .attached a _ | .apart a _ => some a
  | _ => none

/-- What the value of an argument changes. -/
def assigned (i : Invocation) (value : String) (a : Argument) : Except UsageError Invocation :=
  match a with
  | .searchPath =>
    if value.isEmpty then .error (.valueMissing a) else .ok { i with searchPath := value }
  | .targetPackage => .ok { i with targetPackage := some value }
  | .excludePaths =>
    .ok { i with
      excludePaths := i.excludePaths ++ (Text.splitOn ',' value.toList).map String.ofList }
  | .format =>
    match ReportFormat.ofName? value with
    | some format => .ok { i with format := some format }
    | none => .error (if value.isEmpty then .valueMissing a else .invalidValue a value)
  | .config =>
    if value.isEmpty then .error (.valueMissing a) else .ok { i with config := some value }
  | _ => .ok i

/-- What an argument without a value changes. -/
def raised (i : Invocation) : Argument → Invocation
  | .regex => { i with regex := true }
  | .json => { i with json := true }
  | .detailed => { i with detailed := true }
  | .noIgnoreFiles => { i with noIgnoreFiles := true }
  | .verbose => { i with verbosity := min (i.verbosity + 1) verbosityLimit }
  | _ => i

/-- What a given argument makes of an invocation, unless it ends the reading. -/
def Given.effect (i : Invocation) : Given → Except Stop Invocation
  | .unknown spelling => .error (.usage (.unknownArgument spelling))
  | .unwanted a value => .error (.usage (.unexpectedValue a value))
  | .flag style .help => .error (.help style)
  | .flag _ .version => .error .version
  | .flag _ a => .ok (raised i a)
  | .attached a value | .apart a value => (assigned i value a).mapError .usage
  | .lacking a => .error (.usage (.valueMissing a))
  | .plain word => .ok { i with patterns := i.patterns ++ [word] }

/-- Notes what is given. -/
def Reading.noteGiven (r : Reading) (g : Given) : Except Stop Reading :=
  match g.noted? with
  | some a => r.note a
  | none => .ok r

/-- Takes a given argument and settles it at once. -/
def Reading.takeGiven (r : Reading) (g : Given) : Except Stop Reading := do
  let r ← r.noteGiven g
  let i ← g.effect r.invocation
  return { r with invocation := i }

/-- Takes the given arguments, each settled at once, and ends the reading. -/
def Reading.takeGivens (r : Reading) (gs : List Given) (rest : List String) :
    Except Stop Invocation := do
  (← gs.foldlM takeGiven r).finish rest

end PackageUsage.CommandLine
