import KeyWalk.Failure
import KeyWalk.Number.Shortest
import KeyWalk.Text.Blank

/-!
Scores and their notation.

A score is a floating-point number; infinities are legal scores, `nan` never is.

* `Score.render s` is the text of a score in a command: the shortest decimal, or `+inf`, `-inf`,
* `Score.ofText? cs` reads a score: blanks around it and the case of letters do not matter,
* `Score.ofToken command b` reads the score of a reply.
-/

namespace KeyWalk

/-- A score, weight or increment. -/
abbrev Score := Binary64

namespace Score

/-- The text of a score. -/
def render (s : Score) : List Char :=
  if s.isPosInf then ['+', 'i', 'n', 'f'] else Shortest.render s

/-- A score as an argument token. -/
def token (s : Score) : Bytes := Utf8.encode (render s)

/-- A number without a sign, in small letters. -/
def unsignedText? (negative : Bool) (cs : List Char) : Option Score :=
  if cs = ['i', 'n', 'f'] ∨ cs = ['i', 'n', 'f', 'i', 'n', 'i', 't', 'y'] then
    some (.inf negative)
  else (Decimal.parse? cs).map (·.toBinary64 negative)

/-- A number in small letters, behind at most one sign. -/
def signedText? : List Char → Option Score
  | '-' :: cs => unsignedText? true cs
  | '+' :: cs => unsignedText? false cs
  | cs => unsignedText? false cs

/-- The score that a text spells.  `nan` is no score. -/
def ofText? (cs : List Char) : Option Score := signedText? (Text.lower (Text.trim cs))

/-- The score that a token spells, if it is text at all. -/
def ofToken? (b : Bytes) : Option Score := Utf8.decode? b >>= ofText?

/-- The score that a token of a reply spells. -/
def ofToken (command : String) (b : Bytes) : Outcome Score :=
  match Utf8.decode? b with
  | none => fail (.malformed command "score is not valid UTF-8")
  | some cs =>
    match ofText? cs with
    | none => fail (.malformed command ("invalid score " ++ Quoted.text cs))
    | some s => .ok s

end Score

end KeyWalk
