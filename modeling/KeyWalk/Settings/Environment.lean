import KeyWalk.Settings.Value

/-!
Settings from environment variables.

A variable counts if its name starts with `KVSCAN_` in any case; the rest of the name, lowered, is
the key, and the value is a bare token.
-/

namespace KeyWalk

namespace Environment

/-- A variable: its name and its value. -/
abbrev Variable := String × String

/-- The small letter of a character of a name.  Outside ASCII only the Kelvin sign has an ASCII
small letter. -/
def lowerChar (c : Char) : Char := if c = '\u212A' then 'k' else c.toLower

/-- The part of a name behind the mark. -/
def key? (name : String) : Option String :=
  let cs := name.toList.map lowerChar
  let mark := "kvscan_".toList
  if mark.isPrefixOf cs then some (String.ofList (cs.drop mark.length)) else none

/-- The entries of an environment. -/
def entries (vars : List Variable) : List (String × Setting) :=
  vars.filterMap fun v => (key? v.1).map fun k => (k, Setting.ofToken v.2)

end Environment

end KeyWalk
