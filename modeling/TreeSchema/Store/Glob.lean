import TreeSchema.Store.Calls
import TreeSchema.Text.Wildcard

/-!
Paths that are given as patterns. Every part of the path between slashes is a pattern for names in a
directory.
-/

namespace TreeSchema

open Text (Octets Glyph Wildcard.isPattern Wildcard.ofGlyphs Wildcard.isMatch)

/-- The parts of a text between slashes. -/
def glyphSteps : List Glyph → List (List Glyph)
  | [] => [[]]
  | glyph :: rest =>
    match glyphSteps rest with
    | [] => [[glyph]]
    | step :: steps =>
      if glyph.char = '/' then [] :: step :: steps else (glyph :: step) :: steps

def glyphText (glyphs : List Glyph) : Octets :=
  String.ofList (glyphs.map (·.char))

namespace Store

/-- The names that a pattern stands for. One that starts with a point stands only for names that do,
among them the directory itself and the one above it. -/
def matchingNames (store : Store) (directory : Octets) (pattern : List Glyph) : List Octets :=
  let hidden := pattern.head?.any (·.char == '.')
  let names := (store.namesAt (if directory.isEmpty then "." else directory.decode)).map Octets.encode
  let names := if hidden then "." :: ".." :: names else names
  let items := Wildcard.ofGlyphs pattern
  names.filter fun name =>
    name.startsWith "." == hidden && Wildcard.isMatch items name.toList

/-- The paths that go on from a directory. -/
def globFrom (store : Store) (directory : Octets) : List (List Glyph) → List Octets
  | [] => [directory]
  | step :: rest =>
    let names :=
      if Wildcard.isPattern step then store.matchingNames directory step else [glyphText step]
    names.flatMap fun name =>
      if rest.isEmpty then [directory ++ name] else store.globFrom (directory ++ name ++ "/") rest

/-- The paths of files and directories that a pattern stands for, in order. -/
def glob (store : Store) (glyphs : List Glyph) : List Octets :=
  let paths := store.globFrom "" (glyphSteps glyphs)
  (paths.filter fun path => (store.lookup? path.decode).isSome).mergeSort fun a b => a ≤ b

end Store

end TreeSchema
