/-!
Colours of the transcript.  A palette either paints text with terminal sequences or leaves it as it
is; nothing else depends on it.
-/

namespace Stimulus

/-- How a piece of the transcript stands out. -/
inductive Style where
  | heading
  | aside
  | arrow
  | strong
  | good
  | odd
  | bad
  deriving DecidableEq

/-- The parameters of the terminal sequence that starts a style. -/
def Style.parameters : Style → String
  | heading => "1;37"
  | aside => "2"
  | arrow => "36"
  | strong => "1"
  | good => "32"
  | odd => "33"
  | bad => "31"

/-- Whether there are colours. -/
inductive Palette where
  | plain
  | ansi
  deriving DecidableEq

namespace Palette

/-- The sequence that ends every style. -/
def reset : List Char := ['\x1b', '[', '0', 'm']

/-- A text with the start of its style repeated behind every sequence in it that ends one. -/
def resume (start : List Char) : List Char → List Char
  | '\x1b' :: '[' :: '0' :: 'm' :: rest => reset ++ start ++ resume start rest
  | c :: rest => c :: resume start rest
  | [] => []

/-- A text in a style. -/
def paint (palette : Palette) (style : Style) (text : String) : String :=
  match palette with
  | plain => text
  | ansi =>
    let start := '\x1b' :: '[' :: style.parameters.toList ++ ['m']
    String.ofList (start ++ resume start text.toList ++ reset)

/-- What a terminal's user and its surroundings say about colours. -/
structure Wishes where
  isTerminal : Bool
  /-- The values of variables, if they are set. -/
  wanted : Option String
  forced : Option String
  unwanted : Option String

/-- Whether a variable is set and does not say no. -/
def isYes (value : Option String) : Bool :=
  value.any (· ≠ "0")

/-- The palette of the program's output: plain if it is refused or if nobody looks at a terminal,
else what the variables say, the one that forces colours first. -/
def choose (wishes : Wishes) (refused : Bool) : Palette :=
  if refused ∨ !wishes.isTerminal then plain
  else if isYes wishes.forced then ansi
  else if wishes.unwanted.isSome then plain
  else if wishes.wanted.isNone ∨ isYes wishes.wanted then ansi
  else plain

end Palette

end Stimulus
