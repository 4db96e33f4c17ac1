/-!
# Conformance.CommandLine.FileName

Names of files in their plain form: no empty parts, no `.` among the parts,
no slash at the end.  Two slashes in front are kept, more become one.  What
is left of nothing is `.`.
-/

namespace Conformance.CommandLine.FileName

/-- The slashes in front of a name that count. -/
def root : List Char → List Char
  | '/' :: '/' :: '/' :: _ => ['/']
  | '/' :: '/' :: _ => ['/', '/']
  | '/' :: _ => ['/']
  | _ => []

/-- The parts between slashes. -/
def parts : List Char → List (List Char)
  | [] => [[]]
  | '/' :: cs => [] :: parts cs
  | c :: cs =>
    match parts cs with
    | part :: others => (c :: part) :: others
    | [] => [[c]]

/-- Whether a part leads anywhere. -/
def counts (part : List Char) : Bool := !(part.isEmpty || part = ['.'])

/-- The plain form of a name. -/
def plain (name : String) : String :=
  let cs := name.toList
  let plain := root cs ++ ['/'].intercalate ((parts cs).filter counts)
  if plain.isEmpty then "." else String.ofList plain

end Conformance.CommandLine.FileName
