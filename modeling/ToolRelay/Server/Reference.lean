import ToolRelay.Text.Blank

/-!
# References to environment variables

Models `resolve_env_refs`. A credential may refer to environment variables: `$` and a name of ASCII
letters, digits and underscores. A credential that is nothing but one reference must name a variable
that is set. In any other text a reference to a variable that is set is replaced by its value, and
all else stays.
-/

namespace ToolRelay

/-- The environment: the value of a variable, if it is set. -/
abbrev Environment := String → Option String

namespace Reference

/-- A character of a variable's name. -/
def isNameChar (c : Char) : Bool := c.isAlphanum || c == '_'

/-- The name that a text refers to when it is nothing but a reference. -/
def whole? (cs : List Char) : Option String :=
  match cs with
  | '$' :: name => if !name.isEmpty && name.all isNameChar then some (String.ofList name) else none
  | _ => none

/-- What stands for a reference with this name in a longer text. -/
def replace (env : Environment) (name : List Char) : List Char :=
  if name.isEmpty then ['$']
  else match env (String.ofList name) with
    | some value => value.toList
    | none => '$' :: name

/-- Replace the references in a text. -/
def expandChars (env : Environment) : List Char → List Char
  | [] => []
  | c :: rest =>
    if c = '$' then
      replace env (rest.takeWhile isNameChar) ++ expandChars env (rest.dropWhile isNameChar)
    else c :: expandChars env rest
termination_by cs => cs.length
decreasing_by
  · have := List.IsSuffix.length_le (List.dropWhile_suffix isNameChar (l := rest))
    simp only [List.length_cons]
    omega
  · simp

/-- `resolve_env_refs`: the text that a credential stands for, or the name of the variable that is
missing. -/
def expand (env : Environment) (text : String) : Except String String :=
  match whole? text.toList with
  | some name =>
    match env name with
    | some value => .ok value
    | none => .error name
  | none => .ok (String.ofList (expandChars env text.toList))

end Reference

end ToolRelay
